/-
# `SensorName` — the name maps and the resolution of events

An event carries a sensor number of one byte, from which the alerts get the
name of the sensor.  The name maps list the sensors under the low byte of their
number, the sensors of all three units one after the other, so that a sensor of
a later unit replaces the one of the first unit with the same low byte.

    namesOf                    the loop the three maps have in common
    resolvedName               the name of an event with that sensor number
    sensorNames_agree_iff      they agree, and no sensor is lost, in exactly
                               the trees in which sensors that share a low byte
                               share a name
-/
import Mathlib.Data.List.Infix
import PlatformEventFilter.Alert
import PlatformEventFilter.SensorNum

namespace Pef

/-! ## Filling a map -/

section Fill

variable {κ β : Type} [DecidableEq κ]

/-- `map[key] = value` for one pair after the other. -/
def assignAll (map : κ → Option β) : List (κ × β) → κ → Option β
  | [] => map
  | (key, value) :: entries => assignAll (Function.update map key (some value)) entries

theorem assignAll_of_not_mem {k : κ} {entries : List (κ × β)} {map : κ → Option β}
    (h : ∀ v, (k, v) ∉ entries) : assignAll map entries k = map k := by
  induction entries generalizing map with
  | nil => rfl
  | cons entry entries ih =>
      have hne : k ≠ entry.1 := by
        rintro rfl
        exact h entry.2 List.mem_cons_self
      rw [assignAll, ih fun v hv => h v (List.mem_cons_of_mem entry hv),
        Function.update_of_ne hne]

theorem mem_of_assignAll {k : κ} {v : β} {entries : List (κ × β)} {map : κ → Option β}
    (h : assignAll map entries k = some v) : map k = some v ∨ (k, v) ∈ entries := by
  induction entries generalizing map with
  | nil => exact Or.inl h
  | cons entry entries ih =>
      rcases ih h with h | h
      · by_cases hk : k = entry.1
        · subst hk
          rw [Function.update_self] at h
          cases h
          exact Or.inr List.mem_cons_self
        · rw [Function.update_of_ne hk] at h
          exact Or.inl h
      · exact Or.inr (List.mem_cons_of_mem entry h)

theorem assignAll_of_mem {k : κ} {v : β} {entries : List (κ × β)} {map : κ → Option β}
    (h : (k, v) ∈ entries) : ∃ v', (k, v') ∈ entries ∧ assignAll map entries k = some v' := by
  induction entries generalizing map v with
  | nil => exact absurd h List.not_mem_nil
  | cons entry entries ih =>
      by_cases hlater : ∃ v', (k, v') ∈ entries
      · obtain ⟨v', hv'⟩ := hlater
        obtain ⟨v'', hmem, hfound⟩ := ih hv'
        exact ⟨v'', List.mem_cons_of_mem entry hmem, hfound⟩
      · have hnone : ∀ v', (k, v') ∉ entries := fun v' hv' => hlater ⟨v', hv'⟩
        rcases List.mem_cons.mp h with rfl | h
        · refine ⟨v, List.mem_cons_self, ?_⟩
          rw [assignAll, assignAll_of_not_mem hnone, Function.update_self]
        · exact absurd h (hnone v)

end Fill

/-! ## The maps -/

/-- The left view of the map, in the order of the numbers. -/
def SensorNumMap.left (m : SensorNumMap) : List (Int × String) :=
  m.pairs.mergeSort fun a b => a.1 ≤ b.1

theorem mem_left {m : SensorNumMap} {entry : Int × String} : entry ∈ m.left ↔ entry ∈ m.pairs :=
  List.mem_mergeSort

/-- `static_cast<uint8_t>(entry.first)` -/
def lowByte (sensorNum : Int) : U8 := BitVec.ofInt 8 sensorNum

/-- The names of the sensors that are kept, under the low bytes of their
numbers. -/
def namesOf (m : SensorNumMap) (keep : String → Bool) : U8 → Option String :=
  assignAll (fun _ => none) ((m.left.filter fun entry => keep entry.2).map fun entry =>
    (lowByte entry.1, getSensorNameFromPath entry.2))

def getSensorTypeStringFromPath (path : String) : String :=
  match rfindSlash path (2 ^ 64 - 1) with
  | none => path
  | some typeEnd =>
      match rfindSlash path (sizeSub typeEnd 1) with
      | none => path
      | some typeStart => substr path (typeStart + 1) (sizeSub typeEnd (typeStart + 1))

def getSensorNumNameMap : Option SensorNumMap → U8 → Option String
  | none => fun _ => none
  | some m => namesOf m fun _ => true

/-- The groups by sensor type; one without entries is not there. -/
def getSensorNumNameMapByType : Option SensorNumMap → String → U8 → Option String
  | none => fun _ _ => none
  | some m => fun sensorType =>
      namesOf m fun path => getSensorTypeStringFromPath path = sensorType

def getSensorNumNameMapForType (sensorNumMapPtr : Option SensorNumMap) (sensorType : String) :
    List (U8 × String) :=
  match sensorNumMapPtr with
  | none => []
  | some m =>
      let allTypes : Bool := sensorType = "All"
      let filteredMap := namesOf m fun path =>
        allTypes || getSensorTypeStringFromPath path = sensorType
      (if allTypes then [(255, "All")] else []) ++
        (List.range 256).filterMap fun num =>
          (filteredMap (BitVec.ofNat 8 num)).map fun name => (BitVec.ofNat 8 num, name)

/-! ## The resolution of an event -/

def osCriticalStop : U8 := 0x20

/-- `getPathFromSensorNumber` of the map. -/
def SensorNumMap.getPathFromSensorNumber (sensorNumMapPtr : Option SensorNumMap)
    (sensorNum : U16) (senType : U8) : String :=
  match sensorNumMapPtr with
  | none => ""
  | some m =>
      let osSensor := if senType = osCriticalStop then
          m.left.find? fun entry => "/os/".toList <:+: entry.2.toList
        else none
      match osSensor with
      | some entry => entry.2
      | none => (m.pairs.lookup (sensorNum.toNat : Int)).getD ""

/-- The name an alert has for the sensor number of an event. -/
def resolvedName (m : SensorNumMap) (sensorNum : U8) : String :=
  getSensorNameFromPath
    (SensorNumMap.getPathFromSensorNumber (some m) (sensorNum.setWidth 16) 0xff)

theorem mem_of_namesOf {m : SensorNumMap} {keep : String → Bool} {n : U8} {name : String}
    (h : namesOf m keep n = some name) :
    ∃ entry ∈ m.pairs, keep entry.2 = true ∧ n = lowByte entry.1 ∧
      name = getSensorNameFromPath entry.2 := by
  rcases mem_of_assignAll h with h | h
  · cases h
  · obtain ⟨entry, hentry, heq⟩ := List.mem_map.mp h
    obtain ⟨hmem, hkeep⟩ := List.mem_filter.mp hentry
    cases heq
    exact ⟨entry, mem_left.mp hmem, hkeep, rfl, rfl⟩

theorem namesOf_of_mem {m : SensorNumMap} {keep : String → Bool} {entry : Int × String}
    (h : entry ∈ m.pairs) (hkeep : keep entry.2 = true) :
    ∃ entry' ∈ m.pairs, lowByte entry'.1 = lowByte entry.1 ∧
      namesOf m keep (lowByte entry.1) = some (getSensorNameFromPath entry'.2) := by
  have hmem : (lowByte entry.1, getSensorNameFromPath entry.2) ∈
      (m.left.filter fun entry => keep entry.2).map fun entry =>
        (lowByte entry.1, getSensorNameFromPath entry.2) :=
    List.mem_map_of_mem (List.mem_filter.mpr ⟨mem_left.mpr h, hkeep⟩)
  have hfill : ∃ name, _ ∧ namesOf m keep (lowByte entry.1) = some name := assignAll_of_mem hmem
  obtain ⟨name, hname, hfound⟩ := hfill
  obtain ⟨entry', hentry', heq⟩ := List.mem_map.mp hname
  obtain ⟨hlow, rfl⟩ := Prod.mk.inj heq
  exact ⟨entry', mem_left.mp (List.mem_filter.mp hentry').1, hlow, hfound⟩

theorem mem_getSensorNumNameMapForType {m : SensorNumMap} {sensorType : String}
    {entry : U8 × String} :
    entry ∈ getSensorNumNameMapForType (some m) sensorType ↔
      sensorType = "All" ∧ entry = (255, "All") ∨
        namesOf m (fun path => decide (sensorType = "All") ||
          decide (getSensorTypeStringFromPath path = sensorType)) entry.1 = some entry.2 := by
  simp only [getSensorNumNameMapForType, List.mem_append, List.mem_filterMap, List.mem_range,
    Option.map_eq_some_iff]
  refine or_congr ?_ ⟨?_, ?_⟩
  · by_cases hall : sensorType = "All" <;> simp [hall]
  · rintro ⟨num, -, name, hname, rfl⟩
    exact hname
  · intro hname
    refine ⟨entry.1.toNat, entry.1.isLt, entry.2, ?_, ?_⟩
    · rwa [BitVec.ofNat_toNat, BitVec.setWidth_eq]
    · rw [BitVec.ofNat_toNat, BitVec.setWidth_eq]

/-! ## Numbers and low bytes -/

section Numbered

variable {subtree : SensorSubTree} {m : SensorNumMap}

theorem length_paths_lt (h : numberSensors .empty 0 0 subtree.sensors = (m, .ok ())) :
    subtree.paths.length < 765 := by
  rw [SensorSubTree.paths, List.length_map]
  exact (numberSensors_tree subtree).2.mp (congrArg Prod.snd h)

theorem numberSensors_eq_ok (h : subtree.sensors.length < 765) :
    numberSensors .empty 0 0 subtree.sensors = (numbered subtree, .ok ()) :=
  Prod.ext rfl ((numberSensors_tree subtree).2.mpr h)

theorem mem_pairs_iff (h : numberSensors .empty 0 0 subtree.sensors = (m, .ok ()))
    {entry : Int × String} :
    entry ∈ m.pairs ↔
      ∃ k, k < 765 ∧ subtree.paths[k]? = some entry.2 ∧ entry.1 = (numberAt k : Int) := by
  have hlt := length_paths_lt h
  have hm : numbered subtree = m := congrArg Prod.fst h
  rw [← hm, (numberSensors_tree subtree).1, List.take_of_length_le (Nat.le_of_lt hlt), List.mem_map]
  constructor
  · rintro ⟨⟨path, k⟩, hmem, rfl⟩
    have hk : subtree.paths[k]? = some path := List.mem_zipIdx_iff_getElem?.mp hmem
    exact ⟨k, Nat.lt_trans (List.getElem?_eq_some_iff.mp hk).1 hlt, hk, rfl⟩
  · rintro ⟨k, -, hk, hnumber⟩
    exact ⟨(entry.2, k), List.mem_zipIdx_iff_getElem?.mpr hk, Prod.ext hnumber.symm rfl⟩

theorem lowByte_numberAt {k : Nat} (hk : k < 765) :
    lowByte (numberAt k) = BitVec.ofNat 8 (k % 255) := by
  have hmod : numberAt k % 256 = k % 255 := by
    unfold numberAt
    grind
  refine BitVec.eq_of_toNat_eq ?_
  rw [lowByte, BitVec.ofInt_natCast, BitVec.toNat_ofNat, BitVec.toNat_ofNat]
  omega

theorem resolvedName_eq (h : numberSensors .empty 0 0 subtree.sensors = (m, .ok ())) {k : Nat}
    (hk : k < 255) {path : String} (hpath : subtree.paths[k]? = some path) :
    resolvedName m (BitVec.ofNat 8 k) = getSensorNameFromPath path := by
  have hnumber : numberAt k = k := if_pos hk
  have hmem : ((k : Int), path) ∈ m.pairs :=
    (mem_pairs_iff h).mpr ⟨k, by omega, hpath, by rw [hnumber]⟩
  have hwide : ((BitVec.ofNat 8 k).setWidth 16).toNat = k := by
    rw [BitVec.toNat_setWidth, BitVec.toNat_ofNat]
    omega
  have hos : (0xff : U8) ≠ osCriticalStop := by decide
  rw [resolvedName, SensorNumMap.getPathFromSensorNumber]
  simp only [if_neg hos]
  rw [hwide, Bimap.lookup_of_mem hmem]
  rfl

/-- Sensors that share a low byte share a name. -/
def SameNames (subtree : SensorSubTree) : Prop :=
  ∀ (k : Nat) (path path₀ : String), subtree.paths[k]? = some path →
    subtree.paths[k % 255]? = some path₀ →
    getSensorNameFromPath path = getSensorNameFromPath path₀

/-- What is listed under the low byte of a sensor's number, the alerts resolve
to the name of the first sensor with that low byte. -/
theorem resolvedName_lowByte (h : numberSensors .empty 0 0 subtree.sensors = (m, .ok ())) {k : Nat}
    (hk : k < 765) {path : String} (hpath : subtree.paths[k]? = some path) :
    ∃ path₀, subtree.paths[k % 255]? = some path₀ ∧
      resolvedName m (lowByte (numberAt k)) = getSensorNameFromPath path₀ := by
  have hlt : k % 255 < subtree.paths.length :=
    Nat.lt_of_le_of_lt (Nat.mod_le k 255) (List.getElem?_eq_some_iff.mp hpath).1
  have hpath₀ : subtree.paths[k % 255]? = some subtree.paths[k % 255] :=
    List.getElem?_eq_getElem hlt
  refine ⟨_, hpath₀, ?_⟩
  rw [lowByte_numberAt hk]
  exact resolvedName_eq h (Nat.mod_lt k (by omega)) hpath₀

/-! ## Agreement -/

/-- Every pair that is listed, the synthetic one apart, carries the name events
with that number resolve to. -/
structure NamesAgree (m : SensorNumMap) : Prop where
  all : ∀ n name, getSensorNumNameMap (some m) n = some name → name = resolvedName m n
  byType : ∀ sensorType n name, getSensorNumNameMapByType (some m) sensorType n = some name →
    name = resolvedName m n
  forType : ∀ sensorType, ∀ entry ∈ getSensorNumNameMapForType (some m) sensorType,
    entry = (255, "All") ∨ entry.2 = resolvedName m entry.1

/-- A sensor of the tree is listed under the low byte of its number, in every
map that covers its type. -/
structure SensorListed (m : SensorNumMap) (path : String) (sensorNum : Int) : Prop where
  all : getSensorNumNameMap (some m) (lowByte sensorNum) = some (getSensorNameFromPath path)
  byType : getSensorNumNameMapByType (some m) (getSensorTypeStringFromPath path)
    (lowByte sensorNum) = some (getSensorNameFromPath path)
  forType : ∀ sensorType, sensorType = "All" ∨ sensorType = getSensorTypeStringFromPath path →
    (lowByte sensorNum, getSensorNameFromPath path) ∈
      getSensorNumNameMapForType (some m) sensorType

/-- Every sensor of the tree is numbered and listed. -/
def AllListed (m : SensorNumMap) (subtree : SensorSubTree) : Prop :=
  ∀ path ∈ subtree.paths, ∃ sensorNum, (sensorNum, path) ∈ m.pairs ∧ SensorListed m path sensorNum

theorem eq_resolvedName_of_namesOf (h : numberSensors .empty 0 0 subtree.sensors = (m, .ok ()))
    (hsame : SameNames subtree) {keep : String → Bool} {n : U8} {name : String}
    (hname : namesOf m keep n = some name) : name = resolvedName m n := by
  obtain ⟨⟨sensorNum, path⟩, hmem, -, rfl, rfl⟩ := mem_of_namesOf hname
  obtain ⟨k, hk, hpath, rfl⟩ := (mem_pairs_iff h).mp hmem
  obtain ⟨path₀, hpath₀, hresolved⟩ := resolvedName_lowByte h hk hpath
  rw [hresolved]
  exact hsame k path path₀ hpath hpath₀

theorem namesAgree_of_sameNames (h : numberSensors .empty 0 0 subtree.sensors = (m, .ok ()))
    (hsame : SameNames subtree) : NamesAgree m where
  all n name hname := by
    have hnamed : namesOf m (fun _ => true) n = some name := hname
    exact eq_resolvedName_of_namesOf h hsame hnamed
  byType sensorType n name hname := by
    have hnamed : namesOf m (fun path => decide (getSensorTypeStringFromPath path = sensorType)) n =
        some name := hname
    exact eq_resolvedName_of_namesOf h hsame hnamed
  forType sensorType entry hentry := by
    rcases mem_getSensorNumNameMapForType.mp hentry with ⟨-, hall⟩ | hname
    · exact Or.inl hall
    · exact Or.inr (eq_resolvedName_of_namesOf h hsame hname)

theorem allListed_of_sameNames (h : numberSensors .empty 0 0 subtree.sensors = (m, .ok ()))
    (hsame : SameNames subtree) : AllListed m subtree := by
  intro path hpath
  obtain ⟨k, hk⟩ := List.mem_iff_getElem?.mp hpath
  have hlt : k < 765 := Nat.lt_trans (List.getElem?_eq_some_iff.mp hk).1 (length_paths_lt h)
  have hmem : ((numberAt k : Int), path) ∈ m.pairs := (mem_pairs_iff h).mpr ⟨k, hlt, hk, rfl⟩
  obtain ⟨path₀, hpath₀, hresolved⟩ := resolvedName_lowByte h hlt hk
  -- whichever sensor has the low byte in the end, its name is the one resolved to
  have hlisted : ∀ keep : String → Bool, keep path = true →
      namesOf m keep (lowByte (numberAt k)) = some (getSensorNameFromPath path) := by
    intro keep hkeep
    obtain ⟨_, -, -, hfound⟩ := namesOf_of_mem hmem hkeep
    rw [hfound, eq_resolvedName_of_namesOf h hsame hfound, hresolved,
      hsame k path path₀ hk hpath₀]
  refine ⟨numberAt k, hmem, hlisted (fun _ => true) rfl, hlisted (fun path' =>
    decide (getSensorTypeStringFromPath path' = getSensorTypeStringFromPath path))
      (decide_eq_true rfl), ?_⟩
  intro sensorType htype
  refine mem_getSensorNumNameMapForType.mpr (Or.inr (hlisted _ ?_))
  rcases htype with rfl | rfl
  · rfl
  · rw [decide_eq_true (rfl : getSensorTypeStringFromPath path = _), Bool.or_true]

theorem sameNames_of_agree (h : numberSensors .empty 0 0 subtree.sensors = (m, .ok ()))
    (hagree : NamesAgree m) (hlisted : AllListed m subtree) : SameNames subtree := by
  intro k path path₀ hpath hpath₀
  obtain ⟨sensorNum, hmem, hsensor⟩ := hlisted path (List.mem_of_getElem? hpath)
  obtain ⟨k', hk', hpath', rfl⟩ := (mem_pairs_iff h).mp hmem
  -- a path has one number only
  obtain rfl : k = k' := (List.getElem?_inj (List.getElem?_eq_some_iff.mp hpath).1
    subtree.paths_nodup).mp (hpath.trans hpath'.symm)
  obtain ⟨path₁, hpath₁, hresolved⟩ := resolvedName_lowByte h hk' hpath
  cases hpath₀.symm.trans hpath₁
  rw [hagree.all _ _ hsensor.all, hresolved]

/-- The name maps agree with the resolution of events, and list every sensor,
in exactly the trees in which sensors that share a low byte share a name. -/
theorem sensorNames_agree_iff (subtree : SensorSubTree) (m : SensorNumMap)
    (h : numberSensors .empty 0 0 subtree.sensors = (m, .ok ())) :
    NamesAgree m ∧ AllListed m subtree ↔ SameNames subtree :=
  ⟨fun ⟨hagree, hlisted⟩ => sameNames_of_agree h hagree hlisted,
    fun hsame => ⟨namesAgree_of_sameNames h hsame, allListed_of_sameNames h hsame⟩⟩

end Numbered

theorem append_ne_append {dir dir' : String} (k : Nat) (hlt : k < dir.toList.length)
    (hlt' : k < dir'.toList.length) (hne : dir.toList[k]? ≠ dir'.toList[k]?) (name name' : String) :
    dir ++ name ≠ dir' ++ name' := by
  intro h
  have hchars : (dir ++ name).toList[k]? = (dir' ++ name').toList[k]? := by rw [h]
  rw [String.toList_append, String.toList_append, List.getElem?_append_left hlt,
    List.getElem?_append_left hlt'] at hchars
  exact hne hchars

def fanPath (i : Nat) : String := "/xyz/openbmc_project/sensors/fan_tach/Unit" ++ Nat.repr i

def inletPath (i : Nat) : String := "/xyz/openbmc_project/sensors/temperature/Unit" ++ Nat.repr i

def unitPaths : List String :=
  (List.range' 100 255).map fanPath ++ (List.range' 100 2).map inletPath

theorem unitPaths_nodup : unitPaths.Nodup := by
  refine List.nodup_append.mpr ⟨?_, ?_, ?_⟩
  · exact List.Nodup.map (numberedPath_injective _) List.nodup_range'
  · exact List.Nodup.map (numberedPath_injective _) List.nodup_range'
  · intro fan hfan inlet hinlet
    obtain ⟨i, -, rfl⟩ := List.mem_map.mp hfan
    obtain ⟨j, -, rfl⟩ := List.mem_map.mp hinlet
    exact append_ne_append 29 (by decide +kernel) (by decide +kernel) (by decide +kernel) _ _

/-- A fan for each number of the first unit, and behind them temperatures with
the names of the first fans. -/
def unitTree : SensorSubTree where
  sensors := unitPaths.map fun path =>
    (path, [("xyz.openbmc_project.FanSensor", ["xyz.openbmc_project.Sensor.Value"])])
  paths_nodup := by
    rw [List.map_map]
    exact List.Nodup.map (fun _ _ h => h) unitPaths_nodup

theorem unitTree_paths : unitTree.paths = unitPaths := by
  rw [SensorSubTree.paths, unitTree, List.map_map]
  exact List.map_id' unitPaths

theorem length_unitTree : unitTree.sensors.length = 257 := by
  rw [unitTree, List.length_map, unitPaths, List.length_append, List.length_map, List.length_map,
    List.length_range', List.length_range']

theorem unitTree_fan {k : Nat} (hk : k < 255) : unitTree.paths[k]? = some (fanPath (100 + k)) := by
  rw [unitTree_paths, unitPaths, List.getElem?_append_left (by simpa using hk), List.getElem?_map,
    List.getElem?_range' hk, Nat.one_mul]
  rfl

theorem unitTree_inlet {j : Nat} (hj : j < 2) :
    unitTree.paths[255 + j]? = some (inletPath (100 + j)) := by
  rw [unitTree_paths, unitPaths, List.getElem?_append_right (by simp), List.getElem?_map,
    List.length_map, List.length_range', Nat.add_sub_cancel_left, List.getElem?_range' hj,
    Nat.one_mul]
  rfl

theorem numberSensors_unitTree :
    numberSensors .empty 0 0 unitTree.sensors = (numbered unitTree, .ok ()) := by
  refine numberSensors_eq_ok ?_
  rw [length_unitTree]
  omega

/-- The temperatures of the second unit share their low bytes with fans of the
same names. -/
theorem second_unit_names_agree :
    NamesAgree (numbered unitTree) ∧ AllListed (numbered unitTree) unitTree := by
  refine (sensorNames_agree_iff unitTree _ numberSensors_unitTree).mpr ?_
  intro k path path₀ hpath hpath₀
  by_cases hk : k < 255
  · rw [Nat.mod_eq_of_lt hk, hpath] at hpath₀
    cases hpath₀
    rfl
  · have hlt : k < unitTree.paths.length := (List.getElem?_eq_some_iff.mp hpath).1
    rw [SensorSubTree.paths, List.length_map, length_unitTree] at hlt
    obtain ⟨j, rfl⟩ := Nat.exists_eq_add_of_le (Nat.le_of_not_lt hk)
    have hj : j < 2 := by omega
    have hmod : (255 + j) % 255 = j := by omega
    rw [unitTree_inlet hj] at hpath
    rw [hmod, unitTree_fan (by omega)] at hpath₀
    cases hpath
    cases hpath₀
    have hnames : ∀ j < 2, getSensorNameFromPath (inletPath (100 + j)) =
        getSensorNameFromPath (fanPath (100 + j)) := by decide +kernel
    exact hnames j hj

def temperaturePath (i : Nat) : String :=
  "/xyz/openbmc_project/sensors/temperature/Sensor" ++ toString i

/-- One sensor more than there are numbers in the first unit. -/
def temperatureSensors : SensorSubTree where
  sensors := (List.range 256).map fun i =>
    (temperaturePath i, [("xyz.openbmc_project.HwmonTempSensor", ["xyz.openbmc_project.Sensor.Value"])])
  paths_nodup := by
    rw [List.map_map]
    exact List.Nodup.map (numberedPath_injective _) List.nodup_range

/-- The last sensor is listed under number 0, which resolves to the first. -/
theorem second_unit_overwrites :
    ¬(NamesAgree (numbered temperatureSensors) ∧
      AllListed (numbered temperatureSensors) temperatureSensors) := by
  rintro ⟨hagree, hlisted⟩
  have hpaths : temperatureSensors.paths = (List.range 256).map temperaturePath := by
    rw [SensorSubTree.paths, temperatureSensors, List.map_map]
    rfl
  have hends : numberSensors .empty 0 0 temperatureSensors.sensors =
      (numbered temperatureSensors, .ok ()) := by
    refine numberSensors_eq_ok ?_
    rw [← List.length_map Prod.fst, ← SensorSubTree.paths, hpaths, List.length_map,
      List.length_range]
    omega
  have hpath : ∀ k, k < 256 → temperatureSensors.paths[k]? = some (temperaturePath k) := by
    intro k hk
    rw [hpaths, List.getElem?_map, List.getElem?_range hk, Option.map_some]
  have hsame := sameNames_of_agree hends hagree hlisted 255 _ _ (hpath 255 (by omega))
    (hpath 0 (by omega))
  exact absurd hsame (by decide +kernel)

end Pef
