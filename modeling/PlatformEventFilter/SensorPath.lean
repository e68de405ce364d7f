/-
# `SensorPath` — the type and the name in a sensor path

    path = pre / type / name

Both parts are cut out with `rfind` and `substr`; the second search starts at
`typeEnd - 1`, which for a slash in front wraps to `npos` and finds that slash
again (`sensorType_of_leading_slash`).
-/
import PlatformEventFilter.Lib.Split
import PlatformEventFilter.SensorName

namespace Pef

/-- A `std::string`: its size is a `size_t`. -/
abbrev StdString := { s : String // s.toList.length < 2 ^ 64 }

/-! ## The searches -/

theorem rfindSlash_eq_some {path : String} {i pos : Nat} (hi : path.toList[i]? = some '/')
    (hle : i ≤ pos) (hlast : ∀ j, i < j → j ≤ pos → path.toList[j]? ≠ some '/') :
    rfindSlash path pos = some i := by
  have hlt : i < path.toList.length := (List.getElem?_eq_some_iff.mp hi).1
  rw [rfindSlash, slashes, List.filter_filter]
  refine Split.getLast?_filter_range hlt ?_ fun j hij _ => ?_
  · simp [hi, hle]
  · rw [Bool.eq_false_iff]
    intro hj
    simp only [Bool.and_eq_true, decide_eq_true_eq] at hj
    exact hlast j hij hj.1 hj.2

theorem getElem?_ne_of_notMem {xs : List Char} (h : '/' ∉ xs) (j : Nat) :
    xs[j]? ≠ some '/' := by
  intro hj
  exact h (List.mem_of_getElem? hj)

theorem rfindSlash_last {path : String} {pre name : List Char}
    (hpath : path.toList = pre ++ '/' :: name) (hname : '/' ∉ name) {pos : Nat}
    (hpos : pre.length ≤ pos) : rfindSlash path pos = some pre.length := by
  refine rfindSlash_eq_some ?_ hpos fun j hj _ => ?_
  · rw [hpath, List.getElem?_append_right (Nat.le_refl _), Nat.sub_self]
    rfl
  · rw [hpath, List.getElem?_append_right (Nat.le_of_lt hj),
      show j - pre.length = j - (pre.length + 1) + 1 by omega, List.getElem?_cons_succ]
    exact getElem?_ne_of_notMem hname _

/-- The slash in front of the type, when the search starts right before the one
behind it. -/
theorem rfindSlash_before {path : String} {pre type rest : List Char}
    (hpath : path.toList = pre ++ '/' :: (type ++ rest)) (htype : '/' ∉ type) :
    rfindSlash path (pre.length + type.length) = some pre.length := by
  refine rfindSlash_eq_some ?_ (Nat.le_add_right _ _) fun j hj hle => ?_
  · rw [hpath, List.getElem?_append_right (Nat.le_refl _), Nat.sub_self]
    rfl
  · rw [hpath, List.getElem?_append_right (Nat.le_of_lt hj),
      show j - pre.length = j - (pre.length + 1) + 1 by omega, List.getElem?_cons_succ,
      List.getElem?_append_left (by omega)]
    exact getElem?_ne_of_notMem htype _

theorem substr_behind {path : String} {pre part rest : List Char}
    (hpath : path.toList = pre ++ '/' :: (part ++ rest)) {count : Nat}
    (hcount : count = part.length ∨ rest = [] ∧ part.length ≤ count) :
    substr path (pre.length + 1) count = String.ofList part := by
  have hdrop : path.toList.drop (pre.length + 1) = part ++ rest := by
    rw [hpath, ← List.drop_drop, List.drop_left]
    rfl
  rw [substr, hdrop]
  rcases hcount with rfl | ⟨rfl, hle⟩
  · rw [List.take_left]
  · rw [List.append_nil, List.take_of_length_le hle]

/-! ## The parts -/

theorem getSensorNameFromPath_eq {path : StdString} {pre name : List Char}
    (hpath : path.val.toList = pre ++ '/' :: name) (hname : '/' ∉ name) :
    getSensorNameFromPath path.val = String.ofList name := by
  have hsize := path.property
  have hlength := congrArg List.length hpath
  rw [List.length_append, List.length_cons] at hlength
  have hpath' : path.val.toList = pre ++ '/' :: (name ++ []) := by
    rw [hpath, List.append_nil]
  rw [getSensorNameFromPath, rfindSlash_last hpath hname (by omega)]
  exact substr_behind hpath' (.inr ⟨rfl, by omega⟩)

theorem retrieveSensorTypeFromPath_eq {path : StdString} {pre type name : List Char}
    (hpath : path.val.toList = pre ++ '/' :: (type ++ '/' :: name)) (htype : '/' ∉ type)
    (hname : '/' ∉ name) : retrieveSensorTypeFromPath path.val = String.ofList type := by
  have hsize := path.property
  have hlength := congrArg List.length hpath
  simp only [List.length_append, List.length_cons] at hlength
  have hsplit : path.val.toList = (pre ++ '/' :: type) ++ '/' :: name := by
    rw [hpath, List.append_assoc, List.cons_append]
  have hend : (pre ++ '/' :: type).length = pre.length + type.length + 1 := by
    rw [List.length_append, List.length_cons, Nat.add_assoc]
  have hfirst : rfindSlash path.val (2 ^ 64 - 1) = some (pre.length + type.length + 1) := by
    rw [rfindSlash_last hsplit hname (by omega), hend]
  have hback : sizeSub (pre.length + type.length + 1) 1 = pre.length + type.length :=
    sizeSub_of_le (by omega) (by omega)
  have hcount : sizeSub (pre.length + type.length + 1) (pre.length + 1) = type.length := by
    rw [sizeSub_of_le (by omega) (by omega)]
    omega
  rw [retrieveSensorTypeFromPath, hfirst]
  dsimp only
  rw [hback, rfindSlash_before hpath htype]
  dsimp only
  rw [hcount]
  exact substr_behind hpath (.inl rfl)

/-- With its only slash in front, a path is cut there by both searches. -/
theorem sensorType_of_leading_slash {path : StdString} {rest : List Char}
    (hpath : path.val.toList = '/' :: rest) (hrest : '/' ∉ rest) :
    retrieveSensorTypeFromPath path.val = String.ofList rest := by
  have hsize := path.property
  have hlength := congrArg List.length hpath
  rw [List.length_cons] at hlength
  have hfront : path.val.toList = [] ++ '/' :: rest := hpath
  have hlast : ∀ pos, rfindSlash path.val pos = some 0 := fun pos =>
    rfindSlash_last hfront hrest (Nat.zero_le pos)
  have hpath' : path.val.toList = [] ++ '/' :: (rest ++ []) := by
    rw [hpath, List.append_nil, List.nil_append]
  have hcount : sizeSub 0 (0 + 1) = 2 ^ 64 - 1 := rfl
  rw [retrieveSensorTypeFromPath, hlast]
  dsimp only
  rw [hlast]
  dsimp only
  rw [hcount]
  exact substr_behind hpath' (.inr ⟨rfl, by omega⟩)

theorem exists_type_name {path : String} (h : 2 ≤ path.toList.count '/') :
    ∃ pre type name, path.toList = pre ++ '/' :: (type ++ '/' :: name) ∧ '/' ∉ type ∧
      '/' ∉ name := by
  have hisSlash : ∀ {xs : List Char}, 0 < xs.count '/' →
      ∃ pre post, xs = pre ++ '/' :: post ∧ '/' ∉ post := by
    intro xs hpos
    have hmem : ∃ c ∈ xs, decide (c = '/') = true :=
      ⟨'/', List.count_pos_iff.mp hpos, rfl⟩
    obtain ⟨pre, c, post, rfl, hc, hpost⟩ := Split.exists_split_last hmem
    cases of_decide_eq_true hc
    refine ⟨pre, post, rfl, fun hslash => ?_⟩
    have hnot := hpost '/' hslash
    cases hnot
  obtain ⟨front, name, hpath, hname⟩ := hisSlash (Nat.lt_of_lt_of_le (by decide) h)
  have hfront : 0 < front.count '/' := by
    rw [hpath, List.count_append, List.count_cons_self, List.count_eq_zero.mpr hname] at h
    omega
  obtain ⟨pre, type, rfl, htype⟩ := hisSlash hfront
  refine ⟨pre, type, name, ?_, htype, hname⟩
  rw [hpath, List.append_assoc, List.cons_append]

/-- A path with two slashes is put together from its parts again, and both
headers find the same type in every string. -/
theorem sensorPath_decomposes :
    (∀ path : StdString, 2 ≤ path.val.toList.count '/' →
      ∃ pre : String,
        path.val = pre ++ "/" ++ retrieveSensorTypeFromPath path.val ++ "/" ++
          getSensorNameFromPath path.val ∧
        '/' ∉ (retrieveSensorTypeFromPath path.val).toList ∧
        '/' ∉ (getSensorNameFromPath path.val).toList) ∧
    ∀ path : String, getSensorTypeStringFromPath path = retrieveSensorTypeFromPath path := by
  constructor
  · intro path hcount
    obtain ⟨pre, type, name, hpath, htype, hname⟩ := exists_type_name hcount
    have hsplit : path.val.toList = (pre ++ '/' :: type) ++ '/' :: name := by
      rw [hpath, List.append_assoc, List.cons_append]
    rw [retrieveSensorTypeFromPath_eq hpath htype hname, getSensorNameFromPath_eq hsplit hname,
      String.toList_ofList, String.toList_ofList]
    refine ⟨String.ofList pre, ?_, htype, hname⟩
    refine String.toList_injective ?_
    simp [hpath]
  · intro path
    rfl

/-- The parts of a path as the sensors have it. -/
theorem cpuTemp_path :
    ∃ pre : String, "/xyz/sensors/temperature/CPU_Temp" = pre ++ "/" ++
      retrieveSensorTypeFromPath "/xyz/sensors/temperature/CPU_Temp" ++ "/" ++
        getSensorNameFromPath "/xyz/sensors/temperature/CPU_Temp" ∧
      '/' ∉ (retrieveSensorTypeFromPath "/xyz/sensors/temperature/CPU_Temp").toList ∧
      '/' ∉ (getSensorNameFromPath "/xyz/sensors/temperature/CPU_Temp").toList :=
  sensorPath_decomposes.1 ⟨"/xyz/sensors/temperature/CPU_Temp", by decide⟩ (by decide)

end Pef
