/-
# `SensorBuilds` — the two ways of numbering the sensors

A call of `details::getSensorNumMap` makes the map anew for the tree at hand or
hands out the one it has.  How a map is made is a matter of the build:

    default                         the sensors are numbered in the order of
                                    the tree
    FEATURE_STATIC_SENSOR_NUMBER    each sensor has a property SensorNumber, and
                                    is left out if that is no number or another
                                    sensor has it already

Whether the numbers are exhausted is asked after a number is given and not
before the next, so the last of the 765 can be given but the tree that needs it
is refused.
-/
import Mathlib.Order.Monotone.Basic
import PlatformEventFilter.SensorNum

namespace Pef

/-! ## The capacity of the default build -/

/-- The call makes the map anew for this tree. -/
structure Rebuilds (s : SensorNumCache) (connected : Bool) (mapper : MapperReply)
    (tree : SensorTreeCache) (subtree : SensorSubTree) (index : U16) : Prop where
  sensorTree : details.getSensorSubtree s.tree connected mapper none = (tree, some subtree, index)
  stale : ¬(index = s.prevSensorUpdatedIndex ∧ s.sensorNumMapPtr.isSome)

/-- The call throws exactly when there are more sensors than numbers, and
otherwise hands out a map of all of them. -/
structure NumbersCapacity (call : SensorNumCall) (subtree : SensorSubTree) : Prop where
  throws : (∃ what, call.sensorNumMapUpated = .error what) ↔
    maxIPMISensors.toNat < subtree.sensors.length
  complete : subtree.sensors.length ≤ maxIPMISensors.toNat →
    call.sensorNumMapUpated = .ok true ∧
      ∃ m, call.sensorNumMap = some m ∧ m.rights = subtree.paths

section Rebuild

variable {s : SensorNumCache} {connected : Bool} {mapper : MapperReply} {tree : SensorTreeCache}
  {subtree : SensorSubTree} {index : U16}

theorem Rebuilds.getSensorNumMap (h : Rebuilds s connected mapper tree subtree index)
    (sensorNumMap : Option SensorNumMap) :
    details.getSensorNumMap s connected mapper sensorNumMap =
      renumber tree index subtree sensorNumMap := by
  rw [details.getSensorNumMap, h.sensorTree]
  exact if_neg h.stale

/-- A tree with fewer sensors than numbers is numbered, any other makes the loop
throw. -/
theorem renumber_cases (tree : SensorTreeCache) (index : U16) (subtree : SensorSubTree)
    (sensorNumMap : Option SensorNumMap) :
    (subtree.sensors.length < maxIPMISensors.toNat ∧
      renumber tree index subtree sensorNumMap =
        ⟨⟨tree, some (numbered subtree), index⟩, some (numbered subtree), .ok true⟩) ∨
    (maxIPMISensors.toNat ≤ subtree.sensors.length ∧
      ∃ what, renumber tree index subtree sensorNumMap =
        ⟨⟨tree, some (numbered subtree), index⟩, sensorNumMap, .error what⟩) := by
  have hmax : maxIPMISensors.toNat = 765 := rfl
  have hthrows := (numberSensors_tree subtree).2
  rw [renumber, numbered]
  generalize numberSensors .empty 0 0 subtree.sensors = loop at hthrows ⊢
  obtain ⟨m, _ | ⟨⟨⟩⟩⟩ := loop
  · refine .inr ⟨?_, _, rfl⟩
    by_contra hlt
    have hok := hthrows.mpr (by omega)
    cases hok
  · exact .inl ⟨hmax ▸ hthrows.mp rfl, rfl⟩

/-- The capacity is as documented for every number of sensors but the last. -/
theorem sensorCapacity_iff (h : Rebuilds s connected mapper tree subtree index)
    (sensorNumMap : Option SensorNumMap) :
    NumbersCapacity (details.getSensorNumMap s connected mapper sensorNumMap) subtree ↔
      subtree.sensors.length ≠ maxIPMISensors.toNat := by
  rw [h.getSensorNumMap]
  rcases renumber_cases tree index subtree sensorNumMap with ⟨hlt, heq⟩ | ⟨hle, what, heq⟩
  · rw [heq]
    refine iff_of_true ⟨iff_of_false ?_ (by omega), fun hle => ⟨rfl, _, rfl, numbered_complete hle⟩⟩
      (Nat.ne_of_lt hlt)
    rintro ⟨what, hwhat⟩
    cases hwhat
  · rw [heq]
    constructor
    · intro hcapacity
      exact Nat.ne_of_gt (hcapacity.throws.mp ⟨what, rfl⟩)
    · intro hne
      have hlt : maxIPMISensors.toNat < subtree.sensors.length := Nat.lt_of_le_of_ne hle hne.symm
      exact ⟨iff_of_true ⟨what, rfl⟩ hlt, fun hge => absurd hge (Nat.not_le.mpr hlt)⟩

theorem rebuilds_initial
    (hkept : ∀ sensor ∈ subtree.sensors, stripServices sensor = sensor ∧ sensor.2.isEmpty = false) :
    Rebuilds .initial true (.tree subtree) ⟨some subtree, 1⟩ subtree 1 where
  sensorTree := by
    have hreply : details.getSensorSubtree SensorNumCache.initial.tree true (.tree subtree) none =
        (⟨some (filterSensors subtree), 1⟩, some (filterSensors subtree), 1) := rfl
    rw [hreply, filterSensors_eq_self hkept]
  stale := by
    rintro ⟨-, hsome⟩
    cases hsome

end Rebuild

def cpuServices : Services :=
  [("xyz.openbmc_project.HwmonTempSensor", ["xyz.openbmc_project.Sensor.Value"])]

/-- The path of a sensor, in the order of the map for numbers of three digits. -/
def cpuPath (i : Nat) : String := "/xyz/openbmc_project/sensors/temperature/CPU" ++ Nat.repr i

/-- That many sensors. -/
def cpuTree (n : Nat) : SensorSubTree where
  sensors := (List.range' 100 n).map fun i => (cpuPath i, cpuServices)
  paths_nodup := by
    rw [List.map_map]
    exact List.Nodup.map (numberedPath_injective _) List.nodup_range'

theorem rebuilds_cpuTree (n : Nat) :
    Rebuilds .initial true (.tree (cpuTree n)) ⟨some (cpuTree n), 1⟩ (cpuTree n) 1 := by
  refine rebuilds_initial fun sensor hsensor => ?_
  obtain ⟨i, -, rfl⟩ := List.mem_map.mp hsensor
  exact ⟨rfl, rfl⟩

theorem length_cpuTree (n : Nat) : (cpuTree n).sensors.length = n := by
  rw [cpuTree, List.length_map, List.length_range']

/-- One sensor less than there are numbers. -/
theorem capacity_of_764_sensors :
    NumbersCapacity (details.getSensorNumMap .initial true (.tree (cpuTree 764)) none)
        (cpuTree 764) ↔ (cpuTree 764).sensors.length ≠ maxIPMISensors.toNat :=
  sensorCapacity_iff (rebuilds_cpuTree 764) none

/-- As many sensors as there are numbers are refused. -/
theorem last_number_unusable :
    Rebuilds .initial true (.tree (cpuTree 765)) ⟨some (cpuTree 765), 1⟩ (cpuTree 765) 1 ∧
      (cpuTree 765).sensors.length ≤ maxIPMISensors.toNat ∧
      ¬NumbersCapacity (details.getSensorNumMap .initial true (.tree (cpuTree 765)) none)
        (cpuTree 765) := by
  have hlength := length_cpuTree 765
  have hmax : maxIPMISensors.toNat = 765 := rfl
  refine ⟨rebuilds_cpuTree 765, by omega, fun hcapacity => ?_⟩
  obtain ⟨hok, -⟩ := hcapacity.complete (by omega)
  rw [(rebuilds_cpuTree 765).getSensorNumMap] at hok
  rcases renumber_cases ⟨some (cpuTree 765), 1⟩ 1 (cpuTree 765) none with
    ⟨hlt, -⟩ | ⟨-, what, heq⟩
  · omega
  · rw [heq] at hok
    cases hok

/-! ## Valid numberings -/

/-- A number in one of the units 0, 1 and 3, and not the reserved one of it. -/
def ValidNumber (n : Int) : Prop :=
  n % 256 ≠ 0xFF ∧ (n / 256 = 0 ∨ n / 256 = 1 ∨ n / 256 = 3) ∧ n ≤ 0x3FE

instance (n : Int) : Decidable (ValidNumber n) := inferInstanceAs (Decidable (_ ∧ _))

/-- Paths and numbers belong to each other one to one, and the numbers are
valid. -/
structure ValidNumbering (m : SensorNumMap) : Prop where
  path_unique : ∀ n path path', (n, path) ∈ m.pairs → (n, path') ∈ m.pairs → path = path'
  number_unique : ∀ n n' path, (n, path) ∈ m.pairs → (n', path) ∈ m.pairs → n = n'
  valid : ∀ n path, (n, path) ∈ m.pairs → ValidNumber n

theorem validNumbering_of_valid {m : SensorNumMap}
    (h : ∀ n path, (n, path) ∈ m.pairs → ValidNumber n) : ValidNumbering m where
  path_unique _ _ _ hpair hpair' :=
    congrArg Prod.snd (List.inj_on_of_nodup_map m.left_nodup hpair hpair' rfl)
  number_unique _ _ _ hpair hpair' :=
    congrArg Prod.fst (List.inj_on_of_nodup_map m.right_nodup hpair hpair' rfl)
  valid := h

theorem validNumber_numberAt {k : Nat} (hk : k < 765) : ValidNumber (numberAt k) := by
  unfold ValidNumber numberAt
  grind

theorem numberAt_strictMono : StrictMono numberAt := strictMono_nat_of_lt_succ numberAt_lt_succ

theorem numbered_lefts (subtree : SensorSubTree) :
    (numbered subtree).lefts =
      (List.range (subtree.paths.take 765).length).map fun k => (numberAt k : Int) := by
  have hpositions : (subtree.paths.take 765).zipIdx.map Prod.snd =
      List.range (subtree.paths.take 765).length := by
    rw [List.zipIdx_map_snd, List.range_eq_range']
  rw [Bimap.lefts, (numberSensors_tree subtree).1, List.map_map, ← hpositions, List.map_map]
  rfl

theorem validNumbering_numbered (subtree : SensorSubTree) : ValidNumbering (numbered subtree) := by
  refine validNumbering_of_valid fun n path hpair => ?_
  have hmem : n ∈ (numbered subtree).lefts := List.mem_map.mpr ⟨(n, path), hpair, rfl⟩
  rw [numbered_lefts] at hmem
  obtain ⟨k, hk, rfl⟩ := List.mem_map.mp hmem
  rw [List.mem_range, List.length_take] at hk
  exact validNumber_numberAt (by omega)

theorem numbered_increasing (subtree : SensorSubTree) :
    (numbered subtree).lefts.Pairwise (· < ·) := by
  rw [numbered_lefts, List.pairwise_map]
  exact List.pairwise_lt_range.imp fun hlt => Int.ofNat_lt.mpr (numberAt_strictMono hlt)

/-! ## The static build -/

def invalidSensorNumber : U16 := 0xFFFF
def reservedSensorNumber : U8 := 0xFF

def sensorNumberInterfaces : List String :=
  ["xyz.openbmc_project.Sensor.Value", "xyz.openbmc_project.Sensor.EventOnly",
    "xyz.openbmc_project.Sensor.State"]

/-- The alternatives of `ipmi::DbusVariant`, as far as they are told apart. -/
inductive DbusVariant where
  | uint8 (x : U8)
  | uint16 (x : U16)
  | other
  deriving DecidableEq

/-- What comes of the calls of one run of the loop: of opening the system bus,
and of GetAll for a service, an object and an interface, none when that fails. -/
structure SystemBus where
  newDefaultSystem : Except String Unit
  getAll : String → String → String → Option (List (String × DbusVariant))

/-- The loop over the services of a sensor and, in it, over the interfaces. -/
def sensorNumberProperties (bus : SystemBus) (sensor : String × Services) :
    Option (List (String × DbusVariant)) :=
  sensor.2.findSome? fun serviceEntry =>
    sensorNumberInterfaces.findSome? fun interfaceName =>
      if interfaceName ∈ serviceEntry.2 then
        match bus.getAll serviceEntry.1 sensor.1 interfaceName with
        | none => none
        | some tempProperties =>
            if (tempProperties.lookup "SensorNumber").isSome then some tempProperties else none
      else none

/-- The number a sensor declares. -/
def declaredNumber (bus : SystemBus) (sensor : String × Services) : Option U16 :=
  if sensor.2.isEmpty then none
  else
    match sensorNumberProperties bus sensor with
    | none => none
    | some properties =>
        match properties.lookup "SensorNumber" with
        | some (.uint8 value) => some (value.setWidth 16)
        | some (.uint16 value) => some value
        | _ => none

/-- The numbers left out. -/
def outOfRange (sensorNum : U16) : Prop :=
  let lun3MaxSensorNum := lun3Sensor0 + maxSensorsPerLUN - 1
  let sensorLun : U8 := (sensorNum >>> 8).setWidth 8
  let sensorLowByte : U8 := sensorNum.setWidth 8
  sensorNum = invalidSensorNumber ∨ sensorLowByte = reservedSensorNumber ∨ sensorLun = 2 ∨
    sensorNum > lun3MaxSensorNum

instance (sensorNum : U16) : Decidable (outOfRange sensorNum) :=
  inferInstanceAs (Decidable (_ ∨ _))

/-- One round of the loop. -/
def addStaticSensor (bus : SystemBus) (m : SensorNumMap) (sensor : String × Services) :
    SensorNumMap :=
  match declaredNumber bus sensor with
  | none => m
  | some sensorNum =>
      if outOfRange sensorNum then m
      else if (sensorNum.toNat : Int) ∈ m.lefts then m
      else m.insert sensorNum.toNat sensor.1

/-- The loop. -/
def staticNumbered (bus : SystemBus) (subtree : SensorSubTree) : SensorNumMap :=
  subtree.sensors.foldl (addStaticSensor bus) .empty

/-- The map is made anew. -/
def renumberStatic (bus : SystemBus) (tree : SensorTreeCache) (curSensorUpdatedIndex : U16)
    (sensorTree : SensorSubTree) (sensorNumMap : Option SensorNumMap) : SensorNumCall :=
  match bus.newDefaultSystem with
  -- the new map is empty and stays in the static pointer
  | .error what => ⟨⟨tree, some .empty, curSensorUpdatedIndex⟩, sensorNumMap, .error what⟩
  | .ok () =>
      let m := staticNumbered bus sensorTree
      ⟨⟨tree, some m, curSensorUpdatedIndex⟩, some m, .ok true⟩

/-- `details::getSensorNumMap` in the static build. -/
def details.getStaticSensorNumMap (bus : SystemBus) (s : SensorNumCache) (connected : Bool)
    (mapper : MapperReply) (sensorNumMap : Option SensorNumMap) : SensorNumCall :=
  match details.getSensorSubtree s.tree connected mapper none with
  | (tree, none, _) => ⟨{ s with tree := tree }, sensorNumMap, .ok false⟩
  | (tree, some sensorTree, curSensorUpdatedIndex) =>
      if curSensorUpdatedIndex = s.prevSensorUpdatedIndex ∧ s.sensorNumMapPtr.isSome then
        ⟨{ s with tree := tree }, s.sensorNumMapPtr, .ok false⟩
      else renumberStatic bus tree curSensorUpdatedIndex sensorTree sensorNumMap

theorem outOfRange_iff (sensorNum : U16) :
    outOfRange sensorNum ↔ ¬ValidNumber sensorNum.toNat := by
  have hbyte : (sensorNum.setWidth 8 : U8) = reservedSensorNumber ↔
      sensorNum.toNat % 256 = 255 := by
    rw [← BitVec.toNat_inj, BitVec.toNat_setWidth]
    rfl
  have hlun : ((sensorNum >>> 8).setWidth 8 : U8) = 2 ↔ sensorNum.toNat / 256 = 2 := by
    rw [← BitVec.toNat_inj, BitVec.toNat_setWidth, BitVec.toNat_ushiftRight,
      Nat.shiftRight_eq_div_pow]
    have hlt := sensorNum.isLt
    have hsmall : sensorNum.toNat / 2 ^ 8 % 2 ^ 8 = sensorNum.toNat / 256 :=
      Nat.mod_eq_of_lt (by omega)
    rw [hsmall]
    rfl
  have hinvalid : sensorNum = invalidSensorNumber ↔ sensorNum.toNat = 65535 := by
    rw [← BitVec.toNat_inj]
    rfl
  have hmax : sensorNum > lun3Sensor0 + maxSensorsPerLUN - 1 ↔ 1022 < sensorNum.toNat := Iff.rfl
  simp only [outOfRange, ValidNumber, hbyte, hlun, hinvalid, hmax]
  omega

/-! ## Which sensors are in the static map -/

/-- The sensor declares a number, and it is valid. -/
def Declares (bus : SystemBus) (sensor : String × Services) (n : Int) : Prop :=
  ∃ sensorNum, declaredNumber bus sensor = some sensorNum ∧ n = sensorNum.toNat ∧ ValidNumber n

/-- The number a sensor asks for. -/
def offeredNumber (bus : SystemBus) (sensor : String × Services) : Option Int :=
  match declaredNumber bus sensor with
  | none => none
  | some sensorNum => if outOfRange sensorNum then none else some sensorNum.toNat

theorem offeredNumber_eq_some_iff (bus : SystemBus) (sensor : String × Services) (n : Int) :
    offeredNumber bus sensor = some n ↔ Declares bus sensor n := by
  rw [offeredNumber, Declares]
  cases declaredNumber bus sensor with
  | none => exact ⟨fun h => (nomatch h), fun ⟨_, h, _⟩ => nomatch h⟩
  | some sensorNum =>
      have hvalid := outOfRange_iff sensorNum
      by_cases hout : outOfRange sensorNum
      · refine iff_of_false (by simp [hout]) ?_
        rintro ⟨_, hsome, rfl, hn⟩
        cases hsome
        exact hvalid.mp hout hn
      · have hn : ValidNumber sensorNum.toNat := by
          by_contra hnot
          exact hout (hvalid.mpr hnot)
        simp only [if_neg hout]
        constructor
        · intro h
          cases h
          exact ⟨sensorNum, rfl, rfl, hn⟩
        · rintro ⟨_, hsome, rfl, -⟩
          cases hsome
          rfl

/-- The number of a sensor is looked up before it is inserted, which makes no
difference. -/
theorem addStaticSensor_eq (bus : SystemBus) (m : SensorNumMap) (sensor : String × Services) :
    addStaticSensor bus m sensor = Bimap.offer (offeredNumber bus) Prod.fst m sensor := by
  rw [addStaticSensor, Bimap.offer, offeredNumber]
  cases declaredNumber bus sensor with
  | none => rfl
  | some sensorNum =>
      by_cases hout : outOfRange sensorNum
      · simp only [if_pos hout]
      · simp only [if_neg hout]
        split
        · next htaken => exact (Bimap.insert_eq_self (.inl htaken)).symm
        · rfl

theorem staticNumbered_eq (bus : SystemBus) (subtree : SensorSubTree) :
    staticNumbered bus subtree =
      Bimap.offerAll (offeredNumber bus) Prod.fst .empty subtree.sensors := by
  have hround : addStaticSensor bus = Bimap.offer (offeredNumber bus) Prod.fst :=
    funext fun m => funext fun sensor => addStaticSensor_eq bus m sensor
  rw [staticNumbered, hround]
  rfl

/-- The map has the sensors that declare a valid number first. -/
structure NumbersAsDeclared (bus : SystemBus) (m : SensorNumMap) (subtree : SensorSubTree) :
    Prop where
  present : ∀ pre sensor post, subtree.sensors = pre ++ sensor :: post →
    (sensor.1 ∈ m.rights ↔ ∃ n, Declares bus sensor n ∧
      ∀ earlier ∈ pre, Declares bus earlier n → earlier.1 ∉ m.rights)
  declared : ∀ n path, (n, path) ∈ m.pairs →
    ∃ sensor ∈ subtree.sensors, sensor.1 = path ∧ Declares bus sensor n

theorem numbersAsDeclared_staticNumbered (bus : SystemBus) (subtree : SensorSubTree) :
    NumbersAsDeclared bus (staticNumbered bus subtree) subtree where
  present pre sensor post htree := by
    have hnodup : ((pre ++ sensor :: post).map Prod.fst).Nodup := htree ▸ subtree.paths_nodup
    rw [staticNumbered_eq, htree, Bimap.mem_rights_offerAll_iff _ _ hnodup]
    simp only [offeredNumber_eq_some_iff]
  declared n path hpair := by
    rw [staticNumbered_eq] at hpair
    obtain ⟨sensor, hsensor, hnumber, hpath⟩ :=
      (Bimap.mem_of_mem_offerAll _ _ hpair).resolve_left List.not_mem_nil
    exact ⟨sensor, hsensor, hpath, (offeredNumber_eq_some_iff bus sensor n).mp hnumber⟩

theorem validNumbering_staticNumbered (bus : SystemBus) (subtree : SensorSubTree) :
    ValidNumbering (staticNumbered bus subtree) := by
  refine validNumbering_of_valid fun n path hpair => ?_
  obtain ⟨_, _, _, _, _, _, hvalid⟩ :=
    (numbersAsDeclared_staticNumbered bus subtree).declared n path hpair
  exact hvalid

/-! ## Runs of both builds -/

/-- The map has all the sensors of the tree in their order, with rising numbers. -/
structure NumbersInOrder (m : SensorNumMap) (subtree : SensorSubTree) : Prop where
  present : m.rights = subtree.paths
  increasing : m.lefts.Pairwise (· < ·)

/-- The map kept is valid. -/
def ValidCache (s : SensorNumCache) : Prop := ∀ m, s.sensorNumMapPtr = some m → ValidNumbering m

/-- So is the map handed out. -/
structure ValidCall (call : SensorNumCall) : Prop where
  kept : ValidCache call.cache
  handedOut : ∀ m, call.sensorNumMap = some m → ValidNumbering m

theorem validNumbering_none (m : SensorNumMap) (h : none = some m) : ValidNumbering m := by
  cases h

theorem validCache_initial : ValidCache .initial := validNumbering_none

theorem validCall_getSensorNumMap {s : SensorNumCache} (hs : ValidCache s)
    (connected : Bool) (mapper : MapperReply) :
    ValidCall (details.getSensorNumMap s connected mapper none) := by
  rw [details.getSensorNumMap]
  obtain ⟨tree, _ | subtree, index⟩ := details.getSensorSubtree s.tree connected mapper none
  · exact ⟨hs, validNumbering_none⟩
  · dsimp only
    split
    · exact ⟨hs, hs⟩
    · have hvalid : ∀ m, some (numbered subtree) = some m → ValidNumbering m := by
        rintro _ ⟨⟩
        exact validNumbering_numbered subtree
      rcases renumber_cases tree index subtree none with ⟨-, heq⟩ | ⟨-, what, heq⟩
      · rw [heq]
        exact ⟨hvalid, hvalid⟩
      · rw [heq]
        exact ⟨hvalid, validNumbering_none⟩

theorem validCall_getStaticSensorNumMap {s : SensorNumCache} (hs : ValidCache s)
    (bus : SystemBus) (connected : Bool) (mapper : MapperReply) :
    ValidCall (details.getStaticSensorNumMap bus s connected mapper none) := by
  rw [details.getStaticSensorNumMap]
  obtain ⟨tree, _ | subtree, index⟩ := details.getSensorSubtree s.tree connected mapper none
  · exact ⟨hs, validNumbering_none⟩
  · dsimp only
    split
    · exact ⟨hs, hs⟩
    · rw [renumberStatic]
      split
      · have hempty : ValidNumbering .empty :=
          validNumbering_of_valid fun _ _ hpair => absurd hpair List.not_mem_nil
        refine ⟨?_, validNumbering_none⟩
        rintro _ ⟨⟩
        exact hempty
      · have hvalid : ∀ m, some (staticNumbered bus subtree) = some m → ValidNumbering m := by
          rintro _ ⟨⟩
          exact validNumbering_staticNumbered bus subtree
        exact ⟨hvalid, hvalid⟩

/-- A step of the static build, with the system bus as it is at the time. -/
def staticNumStep (s : SensorNumCache) (e : TreeEvent × SystemBus) : Option SensorNumCache :=
  match e.1 with
  | .call connected mapper =>
      some (details.getStaticSensorNumMap e.2 s connected mapper none).cache
  | .interfacesAdded => some { s with tree := s.tree.invalidate }
  | .interfacesRemoved => some { s with tree := s.tree.invalidate }

theorem valid_reached {es : List TreeEvent} {s : SensorNumCache}
    (h : Reached numStep .initial es s) : ValidCache s := by
  refine Reached.induct (P := ValidCache) validCache_initial (fun s e s' ho hs => ?_) h
  obtain ⟨_, _, _, _, hstep⟩ := ho
  cases e with
  | interfacesAdded =>
      cases hstep
      exact hs
  | interfacesRemoved =>
      cases hstep
      exact hs
  | call connected mapper =>
      cases hstep
      exact (validCall_getSensorNumMap hs connected mapper).kept

theorem valid_reached_static {es : List (TreeEvent × SystemBus)} {s : SensorNumCache}
    (h : Reached staticNumStep .initial es s) : ValidCache s := by
  refine Reached.induct (P := ValidCache) validCache_initial (fun s e s' ho hs => ?_) h
  obtain ⟨_, _, _, _, hstep⟩ := ho
  obtain ⟨e, bus⟩ := e
  cases e with
  | interfacesAdded =>
      cases hstep
      exact hs
  | interfacesRemoved =>
      cases hstep
      exact hs
  | call connected mapper =>
      cases hstep
      exact (validCall_getStaticSensorNumMap hs bus connected mapper).kept

theorem Rebuilds.numbersInOrder {s : SensorNumCache} {connected : Bool} {mapper : MapperReply}
    {tree : SensorTreeCache} {subtree : SensorSubTree} {index : U16}
    (h : Rebuilds s connected mapper tree subtree index) {sensorNumMap : Option SensorNumMap}
    {updated : Bool}
    (hdone : (details.getSensorNumMap s connected mapper sensorNumMap).sensorNumMapUpated =
      .ok updated) :
    ∃ m, (details.getSensorNumMap s connected mapper sensorNumMap).sensorNumMap = some m ∧
      ValidNumbering m ∧ NumbersInOrder m subtree := by
  rw [h.getSensorNumMap] at hdone ⊢
  rcases renumber_cases tree index subtree sensorNumMap with ⟨hlt, heq⟩ | ⟨-, what, heq⟩
  · rw [heq]
    have hall := numbered_complete (Nat.le_of_lt hlt)
    exact ⟨_, rfl, validNumbering_numbered subtree, hall, numbered_increasing subtree⟩
  · rw [heq] at hdone
    cases hdone

theorem Rebuilds.numbersAsDeclared {s : SensorNumCache} {connected : Bool} {mapper : MapperReply}
    {tree : SensorTreeCache} {subtree : SensorSubTree} {index : U16}
    (h : Rebuilds s connected mapper tree subtree index) {bus : SystemBus}
    {sensorNumMap : Option SensorNumMap} {updated : Bool}
    (hdone : (details.getStaticSensorNumMap bus s connected mapper
      sensorNumMap).sensorNumMapUpated = .ok updated) :
    ∃ m, (details.getStaticSensorNumMap bus s connected mapper sensorNumMap).sensorNumMap =
        some m ∧
      ValidNumbering m ∧ NumbersAsDeclared bus m subtree := by
  have hcall : details.getStaticSensorNumMap bus s connected mapper sensorNumMap =
      renumberStatic bus tree index subtree sensorNumMap := by
    rw [details.getStaticSensorNumMap, h.sensorTree]
    exact if_neg h.stale
  rw [hcall] at hdone ⊢
  rw [renumberStatic] at hdone ⊢
  cases hbus : bus.newDefaultSystem with
  | error what =>
      rw [hbus] at hdone
      cases hdone
  | ok u =>
      exact ⟨_, rfl, validNumbering_staticNumbered bus subtree,
        numbersAsDeclared_staticNumbered bus subtree⟩

/-- In every run of either build each map handed out is valid, and a call that
makes it anew numbers the tree as the build says. -/
theorem sensorNumMap_valid :
    ((∀ es s s' connected mapper, Occurs numStep .initial es s (.call connected mapper) s' →
        ∀ m, s.handsOut connected mapper = some m → ValidNumbering m) ∧
      ∀ s connected mapper tree subtree index, Rebuilds s connected mapper tree subtree index →
        ∀ sensorNumMap updated,
          (details.getSensorNumMap s connected mapper sensorNumMap).sensorNumMapUpated =
            .ok updated →
          ∃ m, (details.getSensorNumMap s connected mapper sensorNumMap).sensorNumMap = some m ∧
            ValidNumbering m ∧ NumbersInOrder m subtree) ∧
    ((∀ es s s' connected mapper bus,
        Occurs staticNumStep .initial es s (.call connected mapper, bus) s' →
        ∀ m, (details.getStaticSensorNumMap bus s connected mapper none).sensorNumMap = some m →
          ValidNumbering m) ∧
      ∀ bus s connected mapper tree subtree index,
        Rebuilds s connected mapper tree subtree index →
        ∀ sensorNumMap updated,
          (details.getStaticSensorNumMap bus s connected mapper sensorNumMap).sensorNumMapUpated =
            .ok updated →
          ∃ m, (details.getStaticSensorNumMap bus s connected mapper sensorNumMap).sensorNumMap =
              some m ∧
            ValidNumbering m ∧ NumbersAsDeclared bus m subtree) := by
  refine ⟨⟨?_, ?_⟩, ?_, ?_⟩
  · intro es s s' connected mapper hoccurs
    exact (validCall_getSensorNumMap (valid_reached hoccurs.reached) connected mapper).handedOut
  · intro s connected mapper tree subtree index h sensorNumMap updated hdone
    exact h.numbersInOrder hdone
  · intro es s s' connected mapper bus hoccurs
    exact (validCall_getStaticSensorNumMap (valid_reached_static hoccurs.reached) bus connected
      mapper).handedOut
  · intro bus s connected mapper tree subtree index h sensorNumMap updated hdone
    exact h.numbersAsDeclared hdone

/-- Every sensor declares number 5. -/
def alwaysFive : SystemBus where
  newDefaultSystem := .ok ()
  getAll _ _ _ := some [("SensorNumber", .uint8 5)]

/-- Of two sensors that declare the same number the first is in the static map,
and the default map has both. -/
theorem two_sensors_numbered :
    (∃ m, (details.getSensorNumMap .initial true (.tree (cpuTree 2)) none).sensorNumMap = some m ∧
      m.pairs = [(0, cpuPath 100), (1, cpuPath 101)] ∧ NumbersInOrder m (cpuTree 2)) ∧
    ∃ m, (details.getStaticSensorNumMap alwaysFive .initial true (.tree (cpuTree 2))
        none).sensorNumMap = some m ∧
      m.pairs = [(5, cpuPath 100)] ∧ NumbersAsDeclared alwaysFive m (cpuTree 2) := by
  obtain ⟨⟨-, hdefault⟩, -, hstatic⟩ := sensorNumMap_valid
  constructor
  · have hpairs : (details.getSensorNumMap .initial true (.tree (cpuTree 2))
        none).sensorNumMap.map Bimap.pairs = some [(0, cpuPath 100), (1, cpuPath 101)] := by
      decide +kernel
    obtain ⟨m, hm, -, hordered⟩ := hdefault _ _ _ _ _ _ (rebuilds_cpuTree 2) none true (by decide)
    rw [hm] at hpairs
    exact ⟨m, hm, Option.some.inj hpairs, hordered⟩
  · have hpairs : (details.getStaticSensorNumMap alwaysFive .initial true (.tree (cpuTree 2))
        none).sensorNumMap.map Bimap.pairs = some [(5, cpuPath 100)] := by
      decide +kernel
    obtain ⟨m, hm, -, hdeclared⟩ :=
      hstatic alwaysFive _ _ _ _ _ _ (rebuilds_cpuTree 2) none true (by decide)
    rw [hm] at hpairs
    exact ⟨m, hm, Option.some.inj hpairs, hdeclared⟩

end Pef
