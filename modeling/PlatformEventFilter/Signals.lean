/-
# `Signals` — signals that carry any number of properties

A `PropertiesChanged` signal carries a map, which the four callbacks read in
four ways.

    EventFilterTable           the first property, if there is one
    AlertPolicyTable           the first property, if there is one
    PEFConfInfo                the first property, without asking whether there is one
    DestinationSelectorTable   all of them

A property stands for a value for some of the rows of a table (`RowChange`).
`signals_persisted_iff` says, callback by callback, for which maps and files all
the values are in their rows afterwards.
-/
import PlatformEventFilter.Persist
import PlatformEventFilter.Selector

namespace Pef

/-! ## Values for rows -/

/-- A property, and the value it brings for row `i`. -/
structure RowChange where
  property : String
  cell : Nat → Option Json

/-- The rows the change addresses hold its values. -/
def Stored (ch : RowChange) (rows : List Json) : Prop :=
  ∀ i v e, ch.cell i = some v → rows[i]? = some e → e.find? ch.property = some v

/-- A row that `row[property] = v` does not throw on. -/
def Settable (e : Json) : Prop := IsObj e ∨ e = .null

/-- Every row the change addresses can be set. -/
def AllSettable (ch : RowChange) (rows : List Json) : Prop :=
  ∀ i v e, ch.cell i = some v → rows[i]? = some e → Settable e

/-- `row[property] = v`, on a row that can be set. -/
def putRow (property : String) (e v : Json) : Json :=
  .obj (Members.assign property v e.members)

/-- The rows with the values of the change in them. -/
def setRows (ch : RowChange) (rows : List Json) : List Json :=
  rows.mapIdx fun i e => ((ch.cell i).map (putRow ch.property e)).getD e

theorem put_of_settable {property : String} {v e : Json} (h : Settable e) :
    Json.put property v e = .ok (putRow property e v) := by
  rcases h with ⟨ms, rfl⟩ | rfl <;> rfl

theorem put_of_not_settable {property : String} {v e : Json} (h : ¬ Settable e) :
    Json.put property v e = .error (.typeError 305) := by
  cases e with
  | null => exact absurd (Or.inr rfl) h
  | obj ms => exact absurd (Or.inl ⟨ms, rfl⟩) h
  | _ => rfl

theorem find?_putRow_self (property : String) (e v : Json) :
    (putRow property e v).find? property = some v :=
  Members.lookup_assign_self ..

theorem find?_putRow_ne {property property' : String} (h : property ≠ property') {e : Json}
    (he : Settable e) (v : Json) : (putRow property e v).find? property' = e.find? property' := by
  rcases he with ⟨ms, rfl⟩ | rfl
  · exact Members.lookup_assign_ne h v ms
  · exact Members.lookup_assign_ne h v []

theorem getElem?_setRows (ch : RowChange) (rows : List Json) (i : Nat) :
    (setRows ch rows)[i]? =
      rows[i]?.map fun e => ((ch.cell i).map (putRow ch.property e)).getD e := by
  rw [setRows, List.getElem?_mapIdx]

theorem Stored.allSettable {ch : RowChange} {rows : List Json} (h : Stored ch rows) :
    AllSettable ch rows := by
  intro i v e hv he
  have hfind := h i v e hv he
  cases e with
  | obj ms => exact Or.inl ⟨ms, rfl⟩
  | _ => cases hfind

theorem stored_setRows (ch : RowChange) (rows : List Json) : Stored ch (setRows ch rows) := by
  intro i v e hv he
  rw [getElem?_setRows, Option.map_eq_some_iff] at he
  obtain ⟨e', -, rfl⟩ := he
  rw [hv]
  exact find?_putRow_self ..

theorem stored_setRows_ne {ch ch' : RowChange} {rows : List Json} (h : AllSettable ch rows)
    (hne : ch.property ≠ ch'.property) : Stored ch' (setRows ch rows) ↔ Stored ch' rows := by
  have hfind : ∀ i e, rows[i]? = some e →
      (((ch.cell i).map (putRow ch.property e)).getD e).find? ch'.property =
        e.find? ch'.property := by
    intro i e he
    cases hv : ch.cell i with
    | none => rfl
    | some v => exact find?_putRow_ne hne (h i v e hv he) v
  constructor
  · intro hs i v e hv he
    rw [← hfind i e he]
    exact hs i v _ hv (by rw [getElem?_setRows, he]; rfl)
  · intro hs i v e hv he
    rw [getElem?_setRows, Option.map_eq_some_iff] at he
    obtain ⟨e', he', rfl⟩ := he
    rw [hfind i e' he']
    exact hs i v e' hv he'

/-- A callback that sets the first change of a signal, when it can, stores the
whole signal exactly when it can and the others are stored already. -/
theorem stored_first_iff {first : RowChange} {rest : List RowChange} {rows rows' : List Json}
    (hset : AllSettable first rows → rows' = setRows first rows)
    (hskip : ¬ AllSettable first rows → rows' = rows)
    (hne : ∀ ch ∈ rest, first.property ≠ ch.property) :
    (∀ ch ∈ first :: rest, Stored ch rows') ↔
      AllSettable first rows ∧ ∀ ch ∈ rest, Stored ch rows := by
  rw [List.forall_mem_cons]
  by_cases h : AllSettable first rows
  · rw [hset h]
    constructor
    · rintro ⟨-, hrest⟩
      exact ⟨h, fun ch hch => (stored_setRows_ne h (hne ch hch)).mp (hrest ch hch)⟩
    · rintro ⟨-, hrest⟩
      exact ⟨stored_setRows first rows,
        fun ch hch => (stored_setRows_ne h (hne ch hch)).mpr (hrest ch hch)⟩
  · rw [hskip h]
    exact ⟨fun hs => absurd hs.1.allSettable h, fun hs => absurd hs.1 h⟩

/-! ## What it means to handle a signal -/

/-- The callback runs to its end, or into an exception it catches. -/
def MonitorOutcome.defined : MonitorOutcome → Bool
  | .written _ => true
  | .untouched => true
  | .threw _ => false
  | .undefined => false

/-- The callback is well defined and leaves a file that stores every change of
the signal; a signal without one leaves the rows as they were. -/
structure Handles (o : MonitorOutcome) (d : Json) (table : String) (changes : List RowChange) :
    Prop where
  defined : o.defined = true
  stored : ∀ ch ∈ changes, Stored ch (rowsOf table (o.file d))
  unchanged : changes = [] → ∀ key, rowsOf key (o.file d) = rowsOf key d

/-! ## Callbacks that set one change -/

/-- The rows of a section: the elements of an array. -/
def arrayRows : Json → List Json
  | .arr xs => xs
  | _ => []

theorem rowsOf_obj (key : String) (ms : List (String × Json)) :
    rowsOf key (.obj ms) = arrayRows ((ms.lookup key).getD .null) := by
  simp only [rowsOf, Json.find?]
  cases ms.lookup key with
  | none => rfl
  | some v => cases v <;> rfl

theorem rowsOf_assign_self (key table : String) (ms : List (String × Json)) :
    rowsOf key (.obj (Members.assign table ((ms.lookup table).getD .null) ms)) =
      rowsOf key (.obj ms) := by
  rw [rowsOf_obj, rowsOf_obj, Members.lookup_assign]
  split
  · next hkey => rw [hkey, Option.getD_some]
  · rfl

/-- `f` sets the change in the rows of a section, and throws when it cannot. -/
def SetsRows (f : Json → Except Json.Error Json) (ch : RowChange) : Prop :=
  ∀ t, (AllSettable ch (arrayRows t) →
      (∃ t', f t = .ok t' ∧ arrayRows t' = setRows ch (arrayRows t)) ∨
        (∃ k, f t = .error (.typeError k)) ∧ arrayRows t = []) ∧
    (¬ AllSettable ch (arrayRows t) → ∃ k, f t = .error (.typeError k))

/-- What is written back has the rows of the section edited. -/
def KeepsRows (writeBack : Json × Json → Json) : Prop :=
  ∀ (key : String) (t : Json) (ms : List (String × Json)), (ms.map Prod.fst).Nodup →
    rowsOf key (writeBack (t, .obj (Members.assign key t ms))) = arrayRows t

theorem keepsRows_snd : KeepsRows Prod.snd := by
  intro key t ms _
  show rowsOf key (.obj _) = _
  rw [rowsOf_obj, Members.lookup_assign_self]
  rfl

theorem keepsRows_merge : KeepsRows fun p => p.1.mergePatch p.2 := by
  intro key t ms hnd
  show rowsOf key (.obj (Json.mergeMembers t.members (Members.assign key t ms))) = _
  rw [rowsOf_obj, Json.lookup_mergeMembers key _ _ (Members.nodup_assign hnd),
    Members.lookup_assign_self]
  cases t <;> simp [Json.mergeSlot, Json.mergePatch, arrayRows]

theorem editSection_scalar {d : Json} (hobj : ¬ Settable d) (key : String)
    (f : Json → Except Json.Error Json) :
    editSection (some d) key f = .error (.typeError 305) := by
  cases d with
  | null => exact absurd (Or.inr rfl) hobj
  | obj ms => exact absurd (Or.inl ⟨ms, rfl⟩) hobj
  | _ => rfl

theorem rowsOf_scalar {d : Json} (h : ¬ IsObj d) (key : String) : rowsOf key d = [] := by
  cases d with
  | obj ms => exact absurd ⟨ms, rfl⟩ h
  | _ => rfl

theorem editSection_setsRows {d : Json} (hwf : d.WF) {f : Json → Except Json.Error Json}
    {ch : RowChange} (hf : SetsRows f ch) {writeBack : Json × Json → Json}
    (hkeep : KeepsRows writeBack) (key : String) :
    (∃ d', (editSection (some d) key f).map writeBack = .ok d' ∧
        AllSettable ch (rowsOf key d) ∧ rowsOf key d' = setRows ch (rowsOf key d)) ∨
      (∃ k, (editSection (some d) key f).map writeBack = .error (.typeError k)) ∧
        (AllSettable ch (rowsOf key d) → rowsOf key d = []) := by
  by_cases hobj : Settable d
  · -- an empty document is treated as one without sections
    obtain ⟨ms, hnd, hedit, hrows⟩ : ∃ ms : List (String × Json), (ms.map Prod.fst).Nodup ∧
        editSection (some d) key f = editSection (some (.obj ms)) key f ∧
        rowsOf key d = rowsOf key (.obj ms) := by
      rcases hobj with ⟨ms, rfl⟩ | rfl
      · exact ⟨ms, hwf.nodup, rfl, rfl⟩
      · exact ⟨[], List.nodup_nil, rfl, rfl⟩
    rw [hedit, hrows, rowsOf_obj, editSection_obj]
    obtain ⟨hset, hskip⟩ := hf ((ms.lookup key).getD .null)
    generalize (ms.lookup key).getD .null = t at hset hskip ⊢
    by_cases hall : AllSettable ch (arrayRows t)
    · rcases hset hall with ⟨t', ht', hrows'⟩ | ⟨⟨k, hk⟩, hnil⟩
      · rw [ht']
        exact Or.inl ⟨_, rfl, hall, (hkeep key t' ms hnd).trans hrows'⟩
      · rw [hk]
        exact Or.inr ⟨⟨k, rfl⟩, fun _ => hnil⟩
    · obtain ⟨k, hk⟩ := hskip hall
      rw [hk]
      exact Or.inr ⟨⟨k, rfl⟩, fun h => absurd h hall⟩
  · rw [editSection_scalar hobj]
    exact Or.inr ⟨⟨305, rfl⟩, fun _ => rowsOf_scalar (fun h => hobj (Or.inl h)) key⟩

/-- Such a callback handles a signal of several changes exactly when the first
can be set and the others are stored already. -/
theorem handles_first_iff {d : Json} (hwf : d.WF) {f : Json → Except Json.Error Json}
    {first : RowChange} {rest : List RowChange} (hf : SetsRows f first)
    {writeBack : Json × Json → Json} (hkeep : KeepsRows writeBack) (key : String)
    (hne : ∀ ch ∈ rest, first.property ≠ ch.property) :
    Handles (.ofExcept ((editSection (some d) key f).map writeBack)) d key (first :: rest) ↔
      AllSettable first (rowsOf key d) ∧ ∀ ch ∈ rest, Stored ch (rowsOf key d) := by
  rcases editSection_setsRows hwf hf hkeep key with ⟨d', hd', hall, hrows⟩ | ⟨⟨k, hk⟩, hnil⟩
  · rw [hd']
    have key : (∀ ch ∈ first :: rest, Stored ch (rowsOf key d')) ↔ _ :=
      stored_first_iff (fun _ => hrows) (fun h => absurd hall h) hne
    rw [← key]
    exact ⟨fun h => h.stored, fun h => ⟨rfl, h, fun hempty => nomatch hempty⟩⟩
  · rw [hk]
    have hset : AllSettable first (rowsOf key d) → rowsOf key d = setRows first (rowsOf key d) := by
      intro hall
      rw [hnil hall]
      rfl
    rw [← stored_first_iff hset (fun _ => rfl) hne]
    exact ⟨fun h => h.stored, fun h => ⟨rfl, h, fun hempty => nomatch hempty⟩⟩

theorem handles_nil {o : MonitorOutcome} {d : Json} {table : String} (hdef : o.defined = true)
    (hrows : ∀ key, rowsOf key (o.file d) = rowsOf key d) : Handles o d table [] :=
  ⟨hdef, fun _ h => absurd h List.not_mem_nil, fun _ => hrows⟩

/-! ## The three callbacks that do -/

/-- A column written from row `start` on. -/
def columnChange (start : Nat) (property : String) (cells : List Json) : RowChange where
  property := property
  cell i := if start ≤ i then cells[i - start]? else none

theorem columnChange_nil (start : Nat) (property : String) (i : Nat) :
    (columnChange start property []).cell i = none := by
  simp only [columnChange, List.getElem?_nil, ite_self]

theorem columnChange_before {start i : Nat} (hi : i < start) (property : String)
    (cells : List Json) : (columnChange start property cells).cell i = none :=
  if_neg (Nat.not_le_of_lt hi)

theorem columnChange_first (start : Nat) (property : String) (v : Json) (vs : List Json) :
    (columnChange start property (v :: vs)).cell start = some v := by
  simp [columnChange]

theorem columnChange_later {start i : Nat} (hi : start + 1 ≤ i) (property : String) (v : Json)
    (vs : List Json) : (columnChange start property (v :: vs)).cell i =
      (columnChange (start + 1) property vs).cell i := by
  simp only [columnChange, if_pos hi, if_pos (Nat.le_of_succ_le hi)]
  rw [show i - start = i - (start + 1) + 1 by omega, List.getElem?_cons_succ]

theorem allSettable_columnChange_nil (start : Nat) (property : String) (xs : List Json) :
    AllSettable (columnChange start property []) xs := by
  intro i v e hv
  rw [columnChange_nil] at hv
  cases hv

theorem setRows_columnChange_nil (start : Nat) (property : String) (xs : List Json) :
    setRows (columnChange start property []) xs = xs := by
  apply List.ext_getElem?
  intro i
  rw [getElem?_setRows, columnChange_nil]
  cases xs[i]? <;> rfl

section FirstCell

variable {start : Nat} {xs : List Json} (hstart : start < xs.length) (property : String) (v : Json)
  (vs : List Json)

theorem allSettable_columnChange_cons (hrow : Settable xs[start]) :
    AllSettable (columnChange start property (v :: vs)) xs ↔
      AllSettable (columnChange (start + 1) property vs)
        (xs.set start (putRow property xs[start] v)) := by
  have hother : ∀ i, start ≠ i → (xs.set start (putRow property xs[start] v))[i]? = xs[i]? :=
    fun i hi => List.getElem?_set_ne hi
  constructor
  · intro h i w e hw he
    have hi : start + 1 ≤ i := by
      by_contra hlt
      rw [columnChange_before (Nat.lt_of_not_le hlt)] at hw
      cases hw
    rw [hother i (by omega)] at he
    exact h i w e ((columnChange_later hi property v vs).trans hw) he
  · intro h i w e hw he
    rcases Nat.lt_trichotomy i start with hi | rfl | hi
    · rw [columnChange_before hi] at hw
      cases hw
    · rw [List.getElem?_eq_getElem hstart] at he
      exact Option.some.inj he ▸ hrow
    · exact h i w e ((columnChange_later hi property v vs).symm.trans hw)
        ((hother i (by omega)).trans he)

theorem setRows_columnChange_cons :
    setRows (columnChange start property (v :: vs)) xs =
      setRows (columnChange (start + 1) property vs)
        (xs.set start (putRow property xs[start] v)) := by
  have hother : ∀ i, start ≠ i → (xs.set start (putRow property xs[start] v))[i]? = xs[i]? :=
    fun i hi => List.getElem?_set_ne hi
  apply List.ext_getElem?
  intro i
  rw [getElem?_setRows, getElem?_setRows]
  rcases Nat.lt_trichotomy i start with hi | rfl | hi
  · rw [columnChange_before hi, columnChange_before (Nat.lt_succ_of_lt hi), hother i (by omega)]
    rfl
  · rw [columnChange_first, columnChange_before (Nat.lt_succ_self i), List.getElem?_set_self hstart,
      List.getElem?_eq_getElem hstart]
    rfl
  · rw [columnChange_later hi property v vs, hother i (by omega)]
    rfl

end FirstCell

/-- Within the table, the values are written one by one until one of the rows
cannot be set. -/
theorem writeRows_spec (property : String) :
    ∀ (vs : List Json) (start : Nat) (xs : List Json), start + vs.length ≤ xs.length →
      (AllSettable (columnChange start property vs) xs →
        writeRows property start vs (.arr xs) =
          .ok (.arr (setRows (columnChange start property vs) xs))) ∧
      (¬ AllSettable (columnChange start property vs) xs →
        writeRows property start vs (.arr xs) = .error (.typeError 305))
  | [], start, xs, _ => by
      refine ⟨fun _ => ?_, fun h => absurd (allSettable_columnChange_nil start property xs) h⟩
      rw [setRows_columnChange_nil]
      rfl
  | v :: vs, start, xs, hlen => by
      rw [List.length_cons] at hlen
      have hstart : start < xs.length := by omega
      by_cases hrow : Settable xs[start]
      · have ih := writeRows_spec property vs (start + 1)
          (xs.set start (putRow property xs[start] v)) (by rw [List.length_set]; omega)
        have hwrite : writeRows property start (v :: vs) (.arr xs) =
            writeRows property (start + 1) vs
              (.arr (xs.set start (putRow property xs[start] v))) := by
          simp only [writeRows, Json.putAt_of_lt hstart, put_of_settable hrow, Except.map]
          rfl
        rw [allSettable_columnChange_cons hstart property v vs hrow,
          setRows_columnChange_cons hstart property v vs, hwrite]
        exact ih
      · have hfirst := columnChange_first start property v vs
        refine ⟨fun h => absurd (h start v xs[start] hfirst (List.getElem?_eq_getElem hstart)) hrow,
          fun _ => ?_⟩
        simp only [writeRows, Json.putAt_of_lt hstart, put_of_not_settable hrow, Except.map]
        rfl

theorem rowChange_congr {ch ch' : RowChange} {rows : List Json}
    (hp : ch.property = ch'.property) (h : ∀ i < rows.length, ch.cell i = ch'.cell i) :
    (AllSettable ch rows ↔ AllSettable ch' rows) ∧ setRows ch rows = setRows ch' rows := by
  have hlt : ∀ {i : Nat} {e : Json}, rows[i]? = some e → i < rows.length :=
    fun he => (List.getElem?_eq_some_iff.mp he).1
  refine ⟨⟨fun hs i v e hv he => ?_, fun hs i v e hv he => ?_⟩, ?_⟩
  · exact hs i v e ((h i (hlt he)).trans hv) he
  · exact hs i v e ((h i (hlt he)).symm.trans hv) he
  · apply List.ext_getElem?
    intro i
    rw [getElem?_setRows, getElem?_setRows]
    cases he : rows[i]? with
    | none => rfl
    | some e => rw [h i (hlt he), hp]

theorem allSettable_nil (ch : RowChange) : AllSettable ch [] := by
  intro i v e _ he
  cases he

theorem writeColumn_within (start : Nat) (property : String) (cells xs : List Json) :
    ∃ vs k, k + vs.length ≤ xs.length ∧
      writeColumn start property cells (.arr xs) = writeRows property k vs (.arr xs) ∧
      ∀ i < xs.length, (columnChange start property cells).cell i =
        (columnChange k property vs).cell i := by
  have hsize : (Json.arr xs).size = xs.length := rfl
  rcases Nat.lt_or_ge start xs.length with hs | hs
  · refine ⟨cells.take (min cells.length (xs.length - start)), start, ?_, ?_, ?_⟩
    · rw [List.length_take]
      omega
    · simp only [writeColumn, hsize, if_pos hs]
    · intro i hi
      simp only [columnChange]
      split
      · rw [List.getElem?_take]
        split
        · rfl
        · exact List.getElem?_eq_none (by omega)
      · rfl
  · refine ⟨[], 0, Nat.zero_le _, ?_, ?_⟩
    · simp only [writeColumn, hsize, if_neg (Nat.not_lt.mpr hs), Nat.min_zero, List.take_zero,
        writeRows]
    · intro i hi
      simp [columnChange, Nat.not_le.mpr (Nat.lt_of_lt_of_le hi hs)]

theorem writeColumn_array (start : Nat) (property : String) (cells xs : List Json) :
    (AllSettable (columnChange start property cells) xs →
      writeColumn start property cells (.arr xs) =
        .ok (.arr (setRows (columnChange start property cells) xs))) ∧
    (¬ AllSettable (columnChange start property cells) xs →
      writeColumn start property cells (.arr xs) = .error (.typeError 305)) := by
  obtain ⟨vs, k, hk, hwrite, hcell⟩ := writeColumn_within start property cells xs
  have hcongr : (AllSettable (columnChange start property cells) xs ↔
        AllSettable (columnChange k property vs) xs) ∧
      setRows (columnChange start property cells) xs = setRows (columnChange k property vs) xs :=
    rowChange_congr rfl hcell
  rw [hwrite, hcongr.1, hcongr.2]
  exact writeRows_spec property vs k xs hk

theorem setsRows_writeColumn (start : Nat) (property : String) (cells : List Json) :
    SetsRows (writeColumn start property cells) (columnChange start property cells) := by
  intro t
  by_cases harr : ∃ xs, t = .arr xs
  · obtain ⟨xs, rfl⟩ := harr
    obtain ⟨hset, hskip⟩ := writeColumn_array start property cells xs
    exact ⟨fun h => Or.inl ⟨_, hset h, rfl⟩, fun h => ⟨305, hskip h⟩⟩
  · have hnil : arrayRows t = [] := by
      cases t with
      | arr xs => exact absurd ⟨xs, rfl⟩ harr
      | _ => rfl
    rw [hnil]
    refine ⟨fun _ => ?_, fun h => absurd (allSettable_nil _) h⟩
    simp only [writeColumn]
    cases hvs : cells.take (min cells.length (if start < t.size then t.size - start else 0)) with
    | nil => exact Or.inl ⟨t, rfl, hnil⟩
    | cons v vs =>
        refine Or.inr ⟨⟨305, ?_⟩, trivial⟩
        cases t with
        | arr xs => exact absurd ⟨xs, rfl⟩ harr
        | null => simp [Json.size] at hvs
        | _ => rfl

/-- A setting written to every element. -/
def settingChange (property : String) (value : Json) : RowChange where
  property := property
  cell _ := some value

theorem mapM_put (property : String) (v : Json) :
    ∀ xs : List Json,
      (AllSettable (settingChange property v) xs →
        xs.mapM (Json.put property v) = .ok (setRows (settingChange property v) xs)) ∧
      (¬ AllSettable (settingChange property v) xs →
        xs.mapM (Json.put property v) = .error (.typeError 305))
  | [] => ⟨fun _ => rfl, fun h => absurd (allSettable_nil _) h⟩
  | e :: es => by
      have ih := mapM_put property v es
      have hall : AllSettable (settingChange property v) (e :: es) ↔
          Settable e ∧ AllSettable (settingChange property v) es := by
        constructor
        · intro h
          exact ⟨h 0 v e rfl rfl, fun i w e' hw he' => h (i + 1) w e' hw he'⟩
        · rintro ⟨he, hes⟩ i w e' hw he'
          cases i with
          | zero => exact Option.some.inj he' ▸ he
          | succ i => exact hes i w e' hw he'
      rw [hall, List.mapM_cons]
      by_cases he : Settable e
      · rw [put_of_settable he]
        by_cases hes : AllSettable (settingChange property v) es
        · refine ⟨fun _ => ?_, fun h => absurd ⟨he, hes⟩ h⟩
          show (es.mapM (Json.put property v) >>= fun ys =>
            .ok (putRow property e v :: ys) : Except Json.Error (List Json)) = _
          have hcons : setRows (settingChange property v) (e :: es) =
              putRow property e v :: setRows (settingChange property v) es := by
            rw [setRows, List.mapIdx_cons]
            rfl
          rw [ih.1 hes, hcons]
          rfl
        · refine ⟨fun h => absurd h.2 hes, fun _ => ?_⟩
          show (es.mapM (Json.put property v) >>= fun ys =>
            .ok (putRow property e v :: ys) : Except Json.Error (List Json)) = _
          rw [ih.2 hes]
          rfl
      · refine ⟨fun h => absurd h.1 he, fun _ => ?_⟩
        rw [put_of_not_settable he]
        rfl

theorem setsRows_settings (property : String) (v : Json) :
    SetsRows (Json.updateItems fun values => values.mapM (Json.put property v))
      (settingChange property v) := by
  intro t
  cases t with
  | arr xs =>
      obtain ⟨hset, hskip⟩ := mapM_put property v xs
      refine ⟨fun h => Or.inl ⟨.arr (setRows _ xs), ?_, rfl⟩, fun h => ⟨305, ?_⟩⟩
      · rw [Json.updateItems, hset h]
        rfl
      · rw [Json.updateItems, hskip h]
        rfl
  | null => exact ⟨fun _ => Or.inl ⟨.null, rfl, rfl⟩, fun h => absurd (allSettable_nil _) h⟩
  | obj ms =>
      refine ⟨fun _ => ?_, fun h => absurd (allSettable_nil _) h⟩
      obtain ⟨hset, hskip⟩ := mapM_put property v (ms.map Prod.snd)
      by_cases h : AllSettable (settingChange property v) (ms.map Prod.snd)
      · refine Or.inl ⟨.obj ((ms.map Prod.fst).zip
          (setRows (settingChange property v) (ms.map Prod.snd))), ?_, rfl⟩
        rw [Json.updateItems, hset h]
        rfl
      · refine Or.inr ⟨⟨305, ?_⟩, rfl⟩
        rw [Json.updateItems, hskip h]
        rfl
  | _ =>
      exact ⟨fun _ => Or.inr ⟨⟨305, rfl⟩, rfl⟩, fun h => absurd (allSettable_nil _) h⟩

/-! ## Signals of the monitored interfaces -/

/-- Changed columns of a filter list. -/
abbrev FilterChanges := List ((c : FilterColumn) × List c.Cell)

/-- Changed columns of a policy list. -/
abbrev PolicyChanges := List ((c : PolicyColumn) × List c.Cell)

/-- Changed settings. -/
abbrev ConfChanges := List ((c : ConfColumn) × c.Cell)

/-- Changed properties of an entry object. -/
abbrev SelectorChanges := List (SelectorProperty × U8)

def FilterChanges.properties (changes : FilterChanges) : PropertyMap :=
  changes.map fun ch => (ch.1.name, ch.1.encode ch.2)

def PolicyChanges.properties (changes : PolicyChanges) : PropertyMap :=
  changes.map fun ch => (ch.1.name, ch.1.encode ch.2)

def ConfChanges.properties (changes : ConfChanges) : PropertyMap :=
  changes.map fun ch => (ch.1.name, ch.1.encode ch.2)

def SelectorChanges.properties (changes : SelectorChanges) : PropertyMap :=
  changes.map fun ch => (ch.1.name, .u8 ch.2)

/-- The rows from the first one of the list on. -/
def FilterChanges.rows (b : Bucket) (changes : FilterChanges) : List RowChange :=
  changes.map fun ch => columnChange (b * 10) ch.1.name (ch.2.map ch.1.json)

def PolicyChanges.rows (b : Bucket) (changes : PolicyChanges) : List RowChange :=
  changes.map fun ch => columnChange (b * 15) ch.1.name (ch.2.map ch.1.json)

/-- Every element of the settings. -/
def ConfChanges.rows (changes : ConfChanges) : List RowChange :=
  changes.map fun ch => settingChange ch.1.name (ch.1.json ch.2)

/-- Writing the first change is enough: it can be written, and the file holds
the others already. -/
def FirstSuffices (d : Json) (table : String) : List RowChange → Prop
  | [] => False
  | first :: rest => AllSettable first (rowsOf table d) ∧ ∀ ch ∈ rest, Stored ch (rowsOf table d)

theorem property_ne_of_nodup {ι : Type} {β : ι → Type} {name : ι → String}
    (hname : Function.Injective name) (mk : ((c : ι) × β c) → RowChange)
    (hmk : ∀ ch, (mk ch).property = name ch.1) {ch : (c : ι) × β c} {rest : List ((c : ι) × β c)}
    (hnd : ((ch :: rest).map Sigma.fst).Nodup) :
    ∀ ch' ∈ rest.map mk, (mk ch).property ≠ ch'.property := by
  rw [List.map_cons, List.nodup_cons] at hnd
  intro ch' hch'
  obtain ⟨c, hc, rfl⟩ := List.mem_map.mp hch'
  rw [hmk, hmk]
  intro heq
  exact hnd.1 (hname heq ▸ List.mem_map_of_mem hc)

theorem eventFilterEntryMatcher_handles_iff {d : Json} (hwf : d.WF) (b : Bucket)
    {changes : FilterChanges} (hnd : (changes.map Sigma.fst).Nodup) :
    Handles (eventFilterEntryMatcher changes.properties (eventFilterObjMap b) (some d)) d
        "EventFilterTable" (changes.rows b) ↔
      changes = [] ∨ FirstSuffices d "EventFilterTable" (changes.rows b) := by
  cases changes with
  | nil => exact ⟨fun _ => Or.inl rfl, fun _ => handles_nil rfl fun _ => rfl⟩
  | cons ch rest =>
      obtain ⟨c, value⟩ := ch
      have hfirst := eventFilterEntryMatcher_first b c value
        (FilterChanges.properties rest) (some d)
      have hne := property_ne_of_nodup FilterColumn.name_injective
        (fun ch : (c : FilterColumn) × List c.Cell =>
          columnChange (b * 10) ch.1.name (ch.2.map ch.1.json)) (fun _ => rfl) hnd
      have key := handles_first_iff hwf
        (setsRows_writeColumn (b * 10) c.name (value.map c.json)) keepsRows_snd
        "EventFilterTable" hne
      rw [← hfirst] at key
      exact key.trans (or_iff_right (List.cons_ne_nil _ _)).symm

theorem alertPolicyEntryMatcher_handles_iff {d : Json} (hwf : d.WF) (b : Bucket)
    {changes : PolicyChanges} (hnd : (changes.map Sigma.fst).Nodup) :
    Handles (alertPolicyEntryMatcher changes.properties (alertPolicyObjMap b) (some d)) d
        "AlertPolicyTable" (changes.rows b) ↔
      changes = [] ∨ FirstSuffices d "AlertPolicyTable" (changes.rows b) := by
  cases changes with
  | nil => exact ⟨fun _ => Or.inl rfl, fun _ => handles_nil rfl fun _ => rfl⟩
  | cons ch rest =>
      obtain ⟨c, value⟩ := ch
      have hfirst := alertPolicyEntryMatcher_first b c value
        (PolicyChanges.properties rest) (some d)
      have hne := property_ne_of_nodup PolicyColumn.name_injective
        (fun ch : (c : PolicyColumn) × List c.Cell =>
          columnChange (b * 15) ch.1.name (ch.2.map ch.1.json)) (fun _ => rfl) hnd
      have key := handles_first_iff hwf
        (setsRows_writeColumn (b * 15) c.name (value.map c.json)) keepsRows_merge
        "AlertPolicyTable" hne
      rw [← hfirst] at key
      exact key.trans (or_iff_right (List.cons_ne_nil _ _)).symm

/-- The callback of the settings does not survive the empty signal. -/
theorem pefConfInfoMatcher_handles_iff {d : Json} (hwf : d.WF) {changes : ConfChanges}
    (hnd : (changes.map Sigma.fst).Nodup) :
    Handles (pefConfInfoMatcher changes.properties (some d)) d "PEFConfInfo" changes.rows ↔
      FirstSuffices d "PEFConfInfo" changes.rows := by
  cases changes with
  | nil => exact ⟨fun h => (nomatch h.defined), fun h => h.elim⟩
  | cons ch rest =>
      obtain ⟨c, value⟩ := ch
      have hfirst := pefConfInfoMatcher_first c value (ConfChanges.properties rest) (some d)
      have hne := property_ne_of_nodup ConfColumn.name_injective
        (fun ch : (c : ConfColumn) × c.Cell =>
          settingChange ch.1.name (ch.1.json ch.2)) (fun _ => rfl) hnd
      have key := handles_first_iff hwf (setsRows_settings c.name (c.json value))
        keepsRows_merge "PEFConfInfo" hne
      rw [← hfirst] at key
      exact key

/-! ## The callback that reads them all -/

/-- The first row of the number, as the loop over the table looks for it: a row
without a number ends the search. -/
def scanRows (entryVal : Int) : List Json → Except Json.Error (Option Nat)
  | [] => .ok none
  | entry :: entries => do
      let entryNumber ← rowNumber entry
      if entryNumber = entryVal then .ok (some 0)
      else (scanRows entryVal entries).map (Option.map (· + 1))

/-- The row has the number. -/
def hasNumber (entryVal : Int) (entry : Json) : Bool :=
  match rowNumber entry with
  | .ok n => n = entryVal
  | .error _ => false

/-- A value for one row. -/
def selectorChange (row : Option Nat) (property : String) (x : U8) : RowChange where
  property := property
  cell i := if row = some i then some (.num x.toNat) else none

/-- The first row whose number is the one in the path. -/
def SelectorChanges.rows (entryVal : Int) (d : Json) (changes : SelectorChanges) :
    List RowChange :=
  changes.map fun ch => selectorChange
    ((rowsOf "DestinationSelector" d).findIdx? (hasNumber entryVal)) ch.1.name ch.2

theorem scanRows_cons {entryVal n : Int} {e : Json} {es : List Json} (h : rowNumber e = .ok n) :
    scanRows entryVal (e :: es) =
      if n = entryVal then .ok (some 0) else (scanRows entryVal es).map (Option.map (· + 1)) := by
  rw [scanRows, h]
  rfl

theorem scanRows_cons_error {entryVal : Int} {e : Json} {es : List Json} {err : Json.Error}
    (h : rowNumber e = .error err) : scanRows entryVal (e :: es) = .error err := by
  rw [scanRows, h]
  rfl

theorem findIdx?_of_scanRows {entryVal : Int} :
    ∀ {xs : List Json} {o : Option Nat}, scanRows entryVal xs = .ok o →
      xs.findIdx? (hasNumber entryVal) = o
  | [], o, h => by
      cases h
      rfl
  | e :: es, o, h => by
      cases hn : rowNumber e with
      | error x =>
          rw [scanRows_cons_error hn] at h
          cases h
      | ok n =>
          rw [scanRows_cons hn] at h
          rw [List.findIdx?_cons]
          simp only [hasNumber, hn]
          split at h
          · next heq =>
              cases h
              simp [heq]
          · next hne =>
              cases hs : scanRows entryVal es with
              | error x => rw [hs] at h; cases h
              | ok o' =>
                  rw [hs] at h
                  cases h
                  have ih := findIdx?_of_scanRows hs
                  simp [hne, ih]

theorem rowNumber_of_scanRows {entryVal : Int} {xs : List Json} {i : Nat} {e : Json}
    (h : scanRows entryVal xs = .ok (some i)) (he : xs[i]? = some e) :
    rowNumber e = .ok entryVal := by
  have hfind := findIdx?_of_scanRows h
  obtain ⟨hi, hnum, -⟩ := List.findIdx?_eq_some_iff_getElem.mp hfind
  rw [List.getElem?_eq_getElem hi] at he
  cases he
  unfold hasNumber at hnum
  split at hnum
  · next n hn => rw [hn, of_decide_eq_true hnum]
  · cases hnum

theorem scanRows_congr {entryVal : Int} :
    ∀ {xs ys : List Json}, xs.map rowNumber = ys.map rowNumber →
      scanRows entryVal xs = scanRows entryVal ys
  | [], [], _ => rfl
  | x :: xs, y :: ys, h => by
      rw [List.map_cons, List.map_cons, List.cons.injEq] at h
      rw [scanRows, scanRows, h.1, scanRows_congr h.2]

theorem setRows_cons (ch : RowChange) (e : Json) (es : List Json) :
    setRows ch (e :: es) = ((ch.cell 0).map (putRow ch.property e)).getD e ::
      setRows ⟨ch.property, fun i => ch.cell (i + 1)⟩ es := by
  rw [setRows, List.mapIdx_cons]
  rfl

theorem setRows_of_none {ch : RowChange} (h : ∀ i, ch.cell i = none) (rows : List Json) :
    setRows ch rows = rows := by
  apply List.ext_getElem?
  intro i
  rw [getElem?_setRows, h]
  cases rows[i]? <;> rfl

@[simp] theorem length_setRows (ch : RowChange) (rows : List Json) :
    (setRows ch rows).length = rows.length :=
  List.length_mapIdx

theorem selectorWrite_scan (entryVal : Int) (property : String) (x : U8) :
    ∀ xs : List Json, selectorWrite entryVal property (.u8 x) xs =
      (scanRows entryVal xs).map fun row => setRows (selectorChange row property x) xs
  | [] => rfl
  | e :: es => by
      cases hn : rowNumber e with
      | error err =>
          rw [selectorWrite_cons_error hn, scanRows_cons_error hn]
          rfl
      | ok n =>
          rw [selectorWrite_cons hn, scanRows_cons hn]
          split
          · obtain ⟨ms, rfl⟩ := isObj_of_rowNumber hn
            have hrest : ∀ i, (selectorChange (some 0) property x).cell (i + 1) = none := by
              intro i
              simp [selectorChange]
            show _ = Except.ok (setRows (selectorChange (some 0) property x) (Json.obj ms :: es))
            rw [setRows_cons, setRows_of_none hrest]
            rfl
          · rw [selectorWrite_scan entryVal property x es]
            cases scanRows entryVal es with
            | error err => rfl
            | ok row =>
                have hshift : (fun i => (selectorChange (row.map (· + 1)) property x).cell (i + 1)) =
                    (selectorChange row property x).cell := by
                  funext i
                  cases row <;> simp [selectorChange]
                have hhead : (selectorChange (row.map (· + 1)) property x).cell 0 = none := by
                  cases row <;> simp [selectorChange]
                show Except.ok _ = Except.ok
                  (setRows (selectorChange (row.map (· + 1)) property x) (e :: es))
                rw [setRows_cons, hshift, hhead]
                rfl

theorem scanRows_setRows {entryVal : Int} {property : String} (hp : property ≠ "LanDestination")
    {x : U8} {xs : List Json} {row : Option Nat} (h : scanRows entryVal xs = .ok row) :
    scanRows entryVal (setRows (selectorChange row property x) xs) = .ok row := by
  rw [← h]
  refine scanRows_congr (List.ext_getElem? fun i => ?_)
  rw [List.getElem?_map, List.getElem?_map, getElem?_setRows]
  cases he : xs[i]? with
  | none => rfl
  | some e =>
      simp only [selectorChange, Option.map_some]
      split
      · next hrow =>
          subst hrow
          obtain ⟨ms, rfl⟩ := isObj_of_rowNumber (rowNumber_of_scanRows h he)
          exact congrArg some (rowNumber_setMember hp (.obj ms) (.num x.toNat))
      · rfl

theorem selectorProperty_name_injective : Function.Injective SelectorProperty.name := by
  intro p q h
  cases p <;> cases q <;> first | rfl | exact absurd h (by decide)

theorem updateItems_selectorWrite {entryVal : Int} (property : String) (x : U8) {t : Json}
    {row : Option Nat} (h : scanRows entryVal t.items = .ok row) :
    ∃ t', t.updateItems (selectorWrite entryVal property (.u8 x)) = .ok t' ∧
      t'.items = setRows (selectorChange row property x) t.items ∧
      arrayRows t' = setRows (selectorChange row property x) (arrayRows t) := by
  have hwrite := selectorWrite_scan entryVal property x t.items
  rw [h] at hwrite
  cases t with
  | arr xs =>
      have hxs : selectorWrite entryVal property (.u8 x) xs = .ok (setRows _ xs) := hwrite
      refine ⟨.arr (setRows (selectorChange row property x) xs), ?_, rfl, rfl⟩
      rw [Json.updateItems, hxs]
      rfl
  | null => exact ⟨.null, rfl, rfl, rfl⟩
  | obj ms =>
      have hms : selectorWrite entryVal property (.u8 x) (ms.map Prod.snd) =
          .ok (setRows (selectorChange row property x) (ms.map Prod.snd)) := hwrite
      refine ⟨.obj ((ms.map Prod.fst).zip
        (setRows (selectorChange row property x) (ms.map Prod.snd))), ?_, ?_, rfl⟩
      · rw [Json.updateItems, hms]
        rfl
      · refine List.map_snd_zip ?_
        rw [length_setRows, List.length_map, List.length_map]
  | _ => cases h

theorem updateItems_error {t : Json} {f : List Json → Except Json.Error (List Json)}
    {err : Json.Error} (hnull : t ≠ .null) (h : f t.items = .error err) :
    t.updateItems f = .error err := by
  cases t with
  | null => exact absurd rfl hnull
  | arr xs => exact congrArg (Except.map Json.arr) h
  | obj ms => exact congrArg (Except.map fun vs => Json.obj ((ms.map Prod.fst).zip vs)) h
  | bool b => exact congrArg (Except.map fun vs => vs.headD (Json.bool b)) h
  | num i => exact congrArg (Except.map fun vs => vs.headD (Json.num i)) h
  | real q => exact congrArg (Except.map fun vs => vs.headD (Json.real q)) h
  | str s => exact congrArg (Except.map fun vs => vs.headD (Json.str s)) h

theorem updateItems_selectorWrite_error {entryVal : Int} (property : String) (x : U8) {t : Json}
    {err : Json.Error} (h : scanRows entryVal t.items = .error err) :
    t.updateItems (selectorWrite entryVal property (.u8 x)) = .error err := by
  have hnull : t ≠ .null := by
    rintro rfl
    cases h
  refine updateItems_error hnull ?_
  rw [selectorWrite_scan, h]
  rfl

theorem allSettable_selectorChange {entryVal : Int} {property : String} {x : U8} {t : Json}
    {row : Option Nat} (h : scanRows entryVal t.items = .ok row) :
    AllSettable (selectorChange row property x) (arrayRows t) := by
  cases t with
  | arr xs =>
      intro i v e hv he
      simp only [selectorChange] at hv
      split at hv
      · next hrow =>
          subst hrow
          exact Or.inl (isObj_of_rowNumber (rowNumber_of_scanRows h he))
      · cases hv
  | _ => exact allSettable_nil _

/-- When the search ends well, every property is written, and none overwrites
another. -/
theorem selectorWrites_scan {entryVal : Int} {row : Option Nat} :
    ∀ {changes : SelectorChanges} {t : Json}, scanRows entryVal t.items = .ok row →
      (changes.map Prod.fst).Nodup →
      ∃ t', selectorWrites entryVal changes.properties t = .ok t' ∧
        (arrayRows t').length = (arrayRows t).length ∧
        (∀ ch' : RowChange, (∀ ch ∈ changes, ch.1.name ≠ ch'.property) →
          (Stored ch' (arrayRows t') ↔ Stored ch' (arrayRows t))) ∧
        ∀ ch ∈ changes, Stored (selectorChange row ch.1.name ch.2) (arrayRows t')
  | [], t, _, _ =>
      ⟨t, rfl, rfl, fun _ _ => Iff.rfl, fun _ h => absurd h List.not_mem_nil⟩
  | (p, x) :: changes, t, h, hnd => by
      rw [List.map_cons, List.nodup_cons] at hnd
      obtain ⟨t₁, ht₁, hitems, hrows⟩ := updateItems_selectorWrite p.name x h
      have hscan : scanRows entryVal t₁.items = .ok row := by
        rw [hitems]
        exact scanRows_setRows p.name_ne h
      obtain ⟨t', ht', hlen, hkeep, hstored⟩ := selectorWrites_scan hscan hnd.2
      have hother : ∀ ch ∈ changes, ch.1.name ≠ p.name := by
        intro ch hch heq
        have hmem : ch.1 ∈ changes.map Prod.fst := List.mem_map_of_mem hch
        rw [selectorProperty_name_injective heq] at hmem
        exact hnd.1 hmem
      refine ⟨t', ?_, ?_, ?_, ?_⟩
      · show (t.updateItems (selectorWrite entryVal p.name (.u8 x)) >>= fun tbl =>
          selectorWrites entryVal (SelectorChanges.properties changes) tbl) = _
        rw [ht₁]
        exact ht'
      · rw [hlen, hrows, length_setRows]
      · intro ch' hch'
        rw [hkeep ch' fun ch hch => hch' ch (List.mem_cons_of_mem _ hch), hrows]
        exact stored_setRows_ne (allSettable_selectorChange h) (hch' (p, x) List.mem_cons_self)
      · intro ch hch
        rcases List.mem_cons.mp hch with rfl | hch
        · rw [hkeep _ hother, hrows]
          exact stored_setRows _ _
        · exact hstored ch hch

theorem selectorWrites_error {entryVal : Int} {changes : SelectorChanges} {t : Json}
    {err : Json.Error} (h : scanRows entryVal t.items = .error err) (hne : changes ≠ []) :
    selectorWrites entryVal changes.properties t = .error err := by
  cases changes with
  | nil => exact absurd rfl hne
  | cons ch changes =>
      show (t.updateItems (selectorWrite entryVal ch.1.name (.u8 ch.2)) >>= fun tbl =>
        selectorWrites entryVal (SelectorChanges.properties changes) tbl) = _
      rw [updateItems_selectorWrite_error ch.1.name ch.2 h]
      rfl

/-- The search for the row ends well; or in an exception that is caught, and the
file holds all the values already. -/
def SearchSuffices (d : Json) (entryVal : Int) (changes : SelectorChanges) : Prop :=
  (∃ row, scanRows entryVal (selectorRows d) = .ok row) ∨
    (∃ k, scanRows entryVal (selectorRows d) = .error (.typeError k)) ∧
      ∀ ch ∈ changes.rows entryVal d, Stored ch (rowsOf "DestinationSelector" d)

theorem selectorRows_stored {d t' : Json} {entryVal : Int} {row : Option Nat}
    {changes : SelectorChanges} (h : scanRows entryVal (selectorRows d) = .ok row)
    (hlen : (arrayRows t').length = (rowsOf "DestinationSelector" d).length)
    (hstored : ∀ ch ∈ changes, Stored (selectorChange row ch.1.name ch.2) (arrayRows t')) :
    ∀ ch ∈ changes.rows entryVal d, Stored ch (arrayRows t') := by
  intro ch hch
  obtain ⟨⟨p, x⟩, hpx, rfl⟩ := List.mem_map.mp hch
  by_cases harr : rowsOf "DestinationSelector" d = []
  · -- no rows, nothing to store
    rw [harr] at hlen
    rw [List.eq_nil_of_length_eq_zero hlen]
    intro i v e _ he
    cases he
  · have hrows : selectorRows d = rowsOf "DestinationSelector" d := by
      unfold rowsOf at harr ⊢
      unfold selectorRows
      split
      · next xs hxs => rw [hxs]; rfl
      · next hne =>
          split at harr
          · next xs hxs => exact absurd hxs (hne xs)
          · exact absurd rfl harr
    rw [hrows] at h
    rw [findIdx?_of_scanRows h]
    exact hstored (p, x) hpx

theorem destinationSelectorMatcher_scalar {d : Json} (hobj : ¬ Settable d) (objPath : String)
    (changes : SelectorChanges) (rows : List RowChange) :
    Handles (destinationSelectorMatcher changes.properties objPath (some d)) d
      "DestinationSelector" rows := by
  have houtcome : destinationSelectorMatcher changes.properties objPath (some d) = .untouched := by
    rw [destinationSelectorMatcher, editSection_scalar hobj]
    rfl
  rw [houtcome]
  refine ⟨rfl, ?_, fun _ _ => rfl⟩
  intro ch _ i v e _ he
  rw [show rowsOf "DestinationSelector" (MonitorOutcome.untouched.file d) = [] from
    rowsOf_scalar (fun h => hobj (Or.inl h)) _] at he
  cases he

/-- The members of a document that is edited; null is edited as an empty object. -/
structure MembersOf (d : Json) (ms : List (String × Json)) : Prop where
  nodup : (ms.map Prod.fst).Nodup
  edit : ∀ f, editSection (some d) "DestinationSelector" f =
    editSection (some (.obj ms)) "DestinationSelector" f
  sectionRows : rowsOf "DestinationSelector" d =
    arrayRows ((ms.lookup "DestinationSelector").getD .null)
  selectors : selectorRows d = ((ms.lookup "DestinationSelector").getD .null).items
  rows : ∀ key, rowsOf key d = rowsOf key (.obj ms)

theorem Settable.membersOf {d : Json} (h : Settable d) (hwf : d.WF) : ∃ ms, MembersOf d ms := by
  rcases h with ⟨ms, rfl⟩ | rfl
  · exact ⟨ms, hwf.nodup, fun _ => rfl, rowsOf_obj _ ms, rfl, fun _ => rfl⟩
  · exact ⟨[], List.nodup_nil, fun _ => rfl, rfl, rfl, fun _ => rfl⟩

theorem destinationSelectorMatcher_members {d : Json} {ms : List (String × Json)}
    (h : MembersOf d ms) (objPath : String) (changes : SelectorChanges) :
    destinationSelectorMatcher changes.properties objPath (some d) =
      .ofExcept ((selectorWrites (findEntryNo objPath) changes.properties
        ((ms.lookup "DestinationSelector").getD .null)).map fun tbl =>
          Json.obj (Members.assign "DestinationSelector" tbl ms)) := by
  rw [destinationSelectorMatcher, h.edit, editSection_obj]
  cases selectorWrites (findEntryNo objPath) changes.properties
    ((ms.lookup "DestinationSelector").getD .null) with
  | ok t => rfl
  | error err => rfl

section Search

variable {d : Json} {ms : List (String × Json)} (hms : MembersOf d ms) {objPath : String}
  {changes : SelectorChanges}

include hms

theorem destinationSelectorMatcher_nil :
    Handles (destinationSelectorMatcher (SelectorChanges.properties []) objPath (some d)) d
      "DestinationSelector" [] := by
  rw [destinationSelectorMatcher_members hms]
  refine handles_nil rfl fun key => ?_
  rw [hms.rows]
  exact rowsOf_assign_self key "DestinationSelector" ms

theorem destinationSelectorMatcher_found {row : Option Nat}
    (hscan : scanRows (findEntryNo objPath) (selectorRows d) = .ok row)
    (hnd : (changes.map Prod.fst).Nodup) :
    Handles (destinationSelectorMatcher changes.properties objPath (some d)) d
      "DestinationSelector" (changes.rows (findEntryNo objPath) d) := by
  by_cases hnil : changes = []
  · subst hnil
    exact destinationSelectorMatcher_nil hms
  · have hscan' := hscan
    rw [hms.selectors] at hscan'
    obtain ⟨t', ht', hlen, -, hstored⟩ := selectorWrites_scan hscan' hnd
    rw [destinationSelectorMatcher_members hms, ht']
    refine ⟨rfl, ?_, fun hempty => absurd (List.map_eq_nil_iff.mp hempty) hnil⟩
    have hafter : rowsOf "DestinationSelector"
        (.obj (Members.assign "DestinationSelector" t' ms)) = arrayRows t' :=
      keepsRows_snd "DestinationSelector" t' ms hms.nodup
    show ∀ ch ∈ changes.rows (findEntryNo objPath) d, Stored ch (rowsOf "DestinationSelector"
      (.obj (Members.assign "DestinationSelector" t' ms)))
    rw [hafter]
    exact selectorRows_stored hscan (by rw [hlen, hms.sectionRows]) hstored

/-- A search that fails leaves the file, and is handled when it fails by an
exception on a file that stores the changes already. -/
theorem destinationSelectorMatcher_failed {err : Json.Error}
    (hscan : scanRows (findEntryNo objPath) (selectorRows d) = .error err) (hne : changes ≠ []) :
    Handles (destinationSelectorMatcher changes.properties objPath (some d)) d
        "DestinationSelector" (changes.rows (findEntryNo objPath) d) ↔
      SearchSuffices d (findEntryNo objPath) changes := by
  have hscan' := hscan
  rw [hms.selectors] at hscan'
  rw [destinationSelectorMatcher_members hms, selectorWrites_error hscan' hne]
  constructor
  · intro h
    cases err with
    | typeError k => exact Or.inr ⟨⟨k, hscan⟩, h.stored⟩
    | undefined => exact absurd h.defined Bool.false_ne_true
  · rintro (⟨row, hrow⟩ | ⟨⟨k, hk⟩, hstored⟩)
    · rw [hscan] at hrow
      cases hrow
    · rw [hscan] at hk
      cases hk
      exact ⟨rfl, hstored, fun hempty => absurd (List.map_eq_nil_iff.mp hempty) hne⟩

end Search

/-- The callback of the destination selectors handles the empty signal, and any
other for which the search for the row suffices. -/
theorem destinationSelectorMatcher_handles_iff {d : Json} (hwf : d.WF) (objPath : String)
    {changes : SelectorChanges} (hnd : (changes.map Prod.fst).Nodup) :
    Handles (destinationSelectorMatcher changes.properties objPath (some d)) d
        "DestinationSelector" (changes.rows (findEntryNo objPath) d) ↔
      changes = [] ∨ SearchSuffices d (findEntryNo objPath) changes := by
  by_cases hobj : Settable d
  · obtain ⟨ms, hms⟩ := hobj.membersOf hwf
    by_cases hnil : changes = []
    · subst hnil
      exact ⟨fun _ => Or.inl rfl, fun _ => destinationSelectorMatcher_nil hms⟩
    · cases hscan : scanRows (findEntryNo objPath) (selectorRows d) with
      | ok row =>
          exact ⟨fun _ => Or.inr (Or.inl ⟨row, hscan⟩),
            fun _ => destinationSelectorMatcher_found hms hscan hnd⟩
      | error err =>
          rw [destinationSelectorMatcher_failed hms hscan hnil, or_iff_right hnil]
  · have hno : ¬ IsObj d := fun h => hobj (Or.inl h)
    have hsel : selectorRows d = [] := by
      cases d with
      | obj ms => exact absurd ⟨ms, rfl⟩ hno
      | _ => rfl
    exact ⟨fun _ => Or.inr (Or.inl ⟨none, by rw [hsel]; rfl⟩),
      fun _ => destinationSelectorMatcher_scalar hobj objPath changes _⟩

/-! ## All four -/

/-- The signal is handled on the file, which may not parse. -/
structure HandlesOn (o : MonitorOutcome) (file : Option Json) (table : String)
    (changes : Json → List RowChange) : Prop where
  defined : o.defined = true
  handles : ∀ d, file = some d → Handles o d table (changes d)

theorem handlesOn_iff {o : Option Json → MonitorOutcome} {file : Option Json} {table : String}
    {changes : Json → List RowChange} {P : Json → Prop} {Q : Prop}
    (hsome : ∀ d, file = some d → (Handles (o (some d)) d table (changes d) ↔ Q ∧ P d))
    (hnone : (o none).defined = true ↔ Q) :
    HandlesOn (o file) file table changes ↔ Q ∧ ∀ d, file = some d → P d := by
  cases file with
  | none =>
      constructor
      · intro h
        exact ⟨hnone.mp h.defined, fun d hd => nomatch hd⟩
      · intro h
        exact ⟨hnone.mpr h.1, fun d hd => nomatch hd⟩
  | some d =>
      have hd := hsome d rfl
      constructor
      · intro h
        have hQP := hd.mp (h.handles d rfl)
        refine ⟨hQP.1, fun d' hd' => ?_⟩
        cases hd'
        exact hQP.2
      · intro h
        have hhandles := hd.mpr ⟨h.1, h.2 d rfl⟩
        refine ⟨hhandles.defined, fun d' hd' => ?_⟩
        cases hd'
        exact hhandles

theorem filter_defined_none (b : Bucket) (changes : FilterChanges) :
    (eventFilterEntryMatcher changes.properties (eventFilterObjMap b) none).defined = true := by
  cases changes with
  | nil => rfl
  | cons ch rest =>
      have hfirst := eventFilterEntryMatcher_first b ch.1 ch.2 (FilterChanges.properties rest) none
      show (eventFilterEntryMatcher ((ch.1.name, ch.1.encode ch.2) ::
        FilterChanges.properties rest) (eventFilterObjMap b) none).defined = true
      rw [hfirst]
      rfl

theorem policy_defined_none (b : Bucket) (changes : PolicyChanges) :
    (alertPolicyEntryMatcher changes.properties (alertPolicyObjMap b) none).defined = true := by
  cases changes with
  | nil => rfl
  | cons ch rest =>
      have hfirst := alertPolicyEntryMatcher_first b ch.1 ch.2 (PolicyChanges.properties rest) none
      show (alertPolicyEntryMatcher ((ch.1.name, ch.1.encode ch.2) ::
        PolicyChanges.properties rest) (alertPolicyObjMap b) none).defined = true
      rw [hfirst]
      rfl

theorem conf_defined_none (changes : ConfChanges) :
    (pefConfInfoMatcher changes.properties none).defined = true ↔ changes ≠ [] := by
  cases changes with
  | nil => exact ⟨fun h => (nomatch h), fun h => absurd rfl h⟩
  | cons ch rest =>
      have hfirst := pefConfInfoMatcher_first ch.1 ch.2 (ConfChanges.properties rest) none
      refine ⟨fun _ => List.cons_ne_nil _ _, fun _ => ?_⟩
      show (pefConfInfoMatcher ((ch.1.name, ch.1.encode ch.2) ::
        ConfChanges.properties rest) none).defined = true
      rw [hfirst]
      rfl

/-- Which signals are handled, callback by callback.  The changes are listed in
the order of the map, by name. -/
theorem signals_persisted_iff {file : Option Json} (hwf : ∀ d, file = some d → d.WF) (b : Bucket)
    (objPath : String) {filters : FilterChanges} {policies : PolicyChanges} {conf : ConfChanges}
    {selectors : SelectorChanges} (hfilters : (filters.map Sigma.fst).Nodup)
    (hpolicies : (policies.map Sigma.fst).Nodup) (hconf : (conf.map Sigma.fst).Nodup)
    (hselectors : (selectors.map Prod.fst).Nodup) :
    (HandlesOn (eventFilterEntryMatcher filters.properties (eventFilterObjMap b) file) file
        "EventFilterTable" (fun _ => filters.rows b) ↔
      ∀ d, file = some d → filters = [] ∨
        FirstSuffices d "EventFilterTable" (filters.rows b)) ∧
    (HandlesOn (alertPolicyEntryMatcher policies.properties (alertPolicyObjMap b) file) file
        "AlertPolicyTable" (fun _ => policies.rows b) ↔
      ∀ d, file = some d → policies = [] ∨
        FirstSuffices d "AlertPolicyTable" (policies.rows b)) ∧
    (HandlesOn (pefConfInfoMatcher conf.properties file) file "PEFConfInfo" (fun _ => conf.rows) ↔
      conf ≠ [] ∧ ∀ d, file = some d → FirstSuffices d "PEFConfInfo" conf.rows) ∧
    (HandlesOn (destinationSelectorMatcher selectors.properties objPath file) file
        "DestinationSelector" (selectors.rows (findEntryNo objPath)) ↔
      ∀ d, file = some d → selectors = [] ∨
        SearchSuffices d (findEntryNo objPath) selectors) := by
  have hne : ∀ {d : Json} {changes : ConfChanges},
      FirstSuffices d "PEFConfInfo" changes.rows → changes ≠ [] := by
    rintro d changes h rfl
    exact h.elim
  refine ⟨?_, ?_, ?_, ?_⟩
  · refine (handlesOn_iff (Q := True) (fun d hd => ?_) ?_).trans (iff_of_eq (true_and _))
    · rw [true_and]
      exact eventFilterEntryMatcher_handles_iff (hwf d hd) b hfilters
    · exact iff_true_intro (filter_defined_none b filters)
  · refine (handlesOn_iff (Q := True) (fun d hd => ?_) ?_).trans (iff_of_eq (true_and _))
    · rw [true_and]
      exact alertPolicyEntryMatcher_handles_iff (hwf d hd) b hpolicies
    · exact iff_true_intro (policy_defined_none b policies)
  · refine handlesOn_iff (fun d hd => ?_) (conf_defined_none conf)
    exact (pefConfInfoMatcher_handles_iff (hwf d hd) hconf).trans
      ⟨fun h => ⟨hne h, h⟩, fun h => h.2⟩
  · refine (handlesOn_iff (Q := True) (fun d hd => ?_) ?_).trans (iff_of_eq (true_and _))
    · rw [true_and]
      exact destinationSelectorMatcher_handles_iff (hwf d hd) objPath hselectors
    · exact iff_true_intro rfl

/-- A filter row, and nothing else. -/
def bareRow : Json := .obj [("EventFilterTable", .arr [.obj []])]

/-- One column for the row. -/
theorem one_column_handled :
    HandlesOn (eventFilterEntryMatcher
        (FilterChanges.properties [⟨.filterConfig, [0x80]⟩]) (eventFilterObjMap 0) (some bareRow))
      (some bareRow) "EventFilterTable"
      (fun _ => FilterChanges.rows 0 [⟨.filterConfig, [0x80]⟩]) := by
  have hwf : ∀ d, some bareRow = some d → d.WF := by
    intro d hd
    cases hd
    simp [bareRow, Json.WF, Json.wfMembers_iff, Json.wfElems_iff]
  have hfilters : (([⟨.filterConfig, [0x80]⟩] : FilterChanges).map Sigma.fst).Nodup := by decide
  have hpolicies : (([] : PolicyChanges).map Sigma.fst).Nodup := List.nodup_nil
  have hconf : (([] : ConfChanges).map Sigma.fst).Nodup := List.nodup_nil
  have hselectors : (([] : SelectorChanges).map Prod.fst).Nodup := List.nodup_nil
  have hiff := (signals_persisted_iff hwf 0 "" hfilters hpolicies hconf hselectors).1
  refine hiff.mpr fun d hd => ?_
  cases hd
  refine Or.inr ⟨fun i v e _ he => ?_, fun ch hch => absurd hch List.not_mem_nil⟩
  have hmem : e ∈ [Json.obj []] := List.mem_of_getElem? he
  exact Or.inl ⟨[], List.mem_singleton.mp hmem⟩

/-- Of two columns the second is dropped, and the empty map of settings is read
past its end. -/
theorem signals_not_persisted :
    (¬ Handles (eventFilterEntryMatcher
        (FilterChanges.properties [⟨.evtFilterAction, [0x01]⟩, ⟨.filterConfig, [0x80]⟩])
        (eventFilterObjMap 0) (some bareRow))
      bareRow "EventFilterTable"
      (FilterChanges.rows 0 [⟨.evtFilterAction, [0x01]⟩, ⟨.filterConfig, [0x80]⟩])) ∧
    ¬ Handles (pefConfInfoMatcher (ConfChanges.properties []) (some bareRow)) bareRow
      "PEFConfInfo" (ConfChanges.rows []) := by
  constructor
  · intro h
    have hrow := h.stored (columnChange (0 * 10) "FilterConfig" [.num 0x80])
      (List.mem_cons_of_mem _ List.mem_cons_self) 0 (.num 0x80) _ rfl rfl
    cases hrow
  · intro h
    exact absurd h.defined Bool.false_ne_true

end Pef
