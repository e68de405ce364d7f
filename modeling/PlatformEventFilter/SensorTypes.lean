/-
# `SensorTypes` — what is offered for the filter rows

The sensor information interface offers the types of the sensors with their
codes, and for a type the numbers of its sensors; a client puts a code and a
number into a filter row.  The types come from the paths, the codes from a table
of names (`sensorTypes`), and a type without a name in the table is left out.

    offered_type_iff           the types offered are the known ones of the tree
    offered_row_selects        a row with a code and a number offered is accepted
                               by the setters, and asks for the sensors of that
                               code whose number has that low byte
    number_path_round_trip     from path to number and back, in every map either
                               build hands out
-/
import PlatformEventFilter.Match
import PlatformEventFilter.SensorBuilds
import PlatformEventFilter.SensorName
import PlatformEventFilter.Setters

namespace Pef

/-! ## The codes -/

inductive SensorTypeCodes where
  | reserved
  | temperature
  | voltage
  | current
  | fan
  | processor
  | powersupply
  | powerunit
  | coolingdevice
  | logging
  | os
  | acpisystem
  | watchdog2
  | managementsubsystemhealth
  | battery
  | other
  deriving DecidableEq, Repr

def SensorTypeCodes.code : SensorTypeCodes → U8
  | reserved => 0x0
  | temperature => 0x1
  | voltage => 0x2
  | current => 0x3
  | fan => 0x4
  | processor => 0x07
  | powersupply => 0x08
  | powerunit => 0x09
  | coolingdevice => 0x0A
  | logging => 0x10
  | os => 0x20
  | acpisystem => 0x22
  | watchdog2 => 0x23
  | managementsubsystemhealth => 0x28
  | battery => 0x29
  | other => 0xB

inductive SensorEventTypeCodes where
  | unspecified
  | threshold
  | digitalState
  | digitalFailure
  | digitalLimit
  | digitalPerformance
  | digitalPresence
  | digitalEnabled
  | acpiDevice
  | sensorSpecified
  deriving DecidableEq, Repr

def sensorTypes : List (String × SensorTypeCodes × SensorEventTypeCodes) :=
  [("temperature", .temperature, .threshold),
   ("voltage", .voltage, .threshold),
   ("current", .current, .threshold),
   ("fan_tach", .fan, .threshold),
   ("fan_pwm", .fan, .threshold),
   ("cpu", .processor, .sensorSpecified),
   ("powersupply", .powersupply, .sensorSpecified),
   ("powerunit", .powerunit, .sensorSpecified),
   ("logging", .logging, .sensorSpecified),
   ("os", .os, .sensorSpecified),
   ("acpisystem", .acpisystem, .sensorSpecified),
   ("watchdog", .watchdog2, .sensorSpecified),
   ("battery", .battery, .sensorSpecified),
   ("power", .other, .threshold),
   ("chassisstate", .powerunit, .digitalState),
   ("tach", .other, .threshold),
   ("pwm", .other, .threshold),
   ("humidity", .other, .threshold),
   ("utilization", .other, .threshold),
   ("airflow", .coolingdevice, .threshold),
   ("flowrate", .coolingdevice, .threshold),
   ("pressurekpa", .coolingdevice, .threshold),
   ("discrete", .other, .digitalState),
   ("hours", .other, .threshold),
   ("count", .other, .threshold),
   ("bmcfirmwarehealth", .managementsubsystemhealth, .sensorSpecified),
   ("acpidevice", .powersupply, .acpiDevice)]

/-- `type.c_str()`: a name ends at the first NUL. -/
def cStr (type : String) : String := String.ofList (type.toList.takeWhile (· ≠ '\x00'))

/-- `sensorTypes.find(type.c_str())` -/
def findSensorType (type : String) : Option (SensorTypeCodes × SensorEventTypeCodes) :=
  sensorTypes.lookup (cStr type)

def getSensorTypeFromPath (path : String) : U8 :=
  match findSensorType (getSensorTypeStringFromPath path) with
  | some codes => codes.1.code
  | none => 0

/-- `getSensorNumberFromPath` of the map. -/
def SensorNumMap.getSensorNumberFromPath (sensorNumMapPtr : Option SensorNumMap) (path : String) :
    U16 :=
  match sensorNumMapPtr with
  | none => invalidSensorNumber
  | some m =>
      match m.pairs.find? fun entry => entry.2 = path with
      | some entry => BitVec.ofInt 16 entry.1
      | none => invalidSensorNumber

/-- One run of the loop of `getAvailableSensorTypes`. -/
def addSensorType (typeMap : String → Option U8) (path : String) : String → Option U8 :=
  let type := getSensorTypeStringFromPath path
  if (typeMap type).isSome then typeMap
  else
    match findSensorType type with
    | some codes => Function.update typeMap type (some codes.1.code)
    | none => typeMap

def getAvailableSensorTypes : Option SensorNumMap → String → Option U8
  | none => fun _ => none
  | some m =>
      Function.update ((m.left.map Prod.snd).foldl addSensorType fun _ => none) "All" (some 255)

/-! ## The types offered -/

/-- The code the table has for the name of a type. -/
def typeCode (type : String) : Option U8 := (findSensorType type).map fun codes => codes.1.code

theorem mem_sensorTypeCodes {type : String} {code : U8} (h : typeCode type = some code) :
    code ∈ sensorTypeCodes := by
  have hall : ∀ entry ∈ sensorTypes, entry.2.1.code ∈ sensorTypeCodes := by decide
  obtain ⟨codes, hcodes, rfl⟩ := Option.map_eq_some_iff.mp h
  obtain ⟨before, after, hsplit, -⟩ := List.lookup_eq_some_iff.mp hcodes
  exact hall (cStr type, codes) (hsplit ▸ List.mem_append_right before List.mem_cons_self)

theorem typeCode_ne_wildcard {type : String} {code : U8} (h : typeCode type = some code) :
    code ≠ 0x00 ∧ code ≠ 0xFF := by
  have hall : ∀ code ∈ sensorTypeCodes, code ≠ 0x00 ∧ code ≠ 0xFF := by decide
  exact hall code (mem_sensorTypeCodes h)

theorem getSensorTypeFromPath_eq {path : String} {code : U8}
    (h : typeCode (getSensorTypeStringFromPath path) = some code) :
    getSensorTypeFromPath path = code := by
  obtain ⟨codes, hcodes, rfl⟩ := Option.map_eq_some_iff.mp h
  rw [getSensorTypeFromPath, hcodes]

/-- The map has codes of the table only. -/
def FromTable (typeMap : String → Option U8) : Prop :=
  ∀ type code, typeMap type = some code → typeCode type = some code

theorem addSensorType_of_ne (typeMap : String → Option U8) {path type : String}
    (h : type ≠ getSensorTypeStringFromPath path) :
    addSensorType typeMap path type = typeMap type := by
  rw [addSensorType]
  split
  · rfl
  · cases findSensorType (getSensorTypeStringFromPath path) with
    | none => rfl
    | some codes => exact Function.update_of_ne h _ _

theorem addSensorType_self (typeMap : String → Option U8) (path : String) :
    addSensorType typeMap path (getSensorTypeStringFromPath path) =
      (typeMap (getSensorTypeStringFromPath path)).or
        (typeCode (getSensorTypeStringFromPath path)) := by
  rw [addSensorType, typeCode]
  cases hold : typeMap (getSensorTypeStringFromPath path) with
  | some old => rw [Option.isSome_some, if_pos rfl, hold, Option.some_or]
  | none =>
      rw [Option.isSome_none, if_neg Bool.false_ne_true, Option.none_or]
      cases findSensorType (getSensorTypeStringFromPath path) with
      | none => exact hold
      | some codes => exact Function.update_self _ _ _

theorem addSensorType_iff {typeMap : String → Option U8} (h : FromTable typeMap) (path : String)
    {type : String} {code : U8} :
    addSensorType typeMap path type = some code ↔
      typeMap type = some code ∨
        getSensorTypeStringFromPath path = type ∧ typeCode type = some code := by
  by_cases htype : getSensorTypeStringFromPath path = type
  · subst htype
    rw [addSensorType_self, Option.or_eq_some_iff]
    constructor
    · rintro (hold | ⟨-, hcode⟩)
      · exact Or.inl hold
      · exact Or.inr ⟨rfl, hcode⟩
    · rintro (hold | ⟨-, hcode⟩)
      · exact Or.inl hold
      · cases hold : typeMap (getSensorTypeStringFromPath path) with
        | none => exact Or.inr ⟨rfl, hcode⟩
        | some old => exact Or.inl (hcode ▸ (h _ _ hold).symm)
  · rw [addSensorType_of_ne typeMap (Ne.symm htype)]
    exact ⟨Or.inl, fun hnew => hnew.elim id fun hnew => absurd hnew.1 htype⟩

theorem fromTable_addSensorType {typeMap : String → Option U8} (h : FromTable typeMap)
    (path : String) : FromTable (addSensorType typeMap path) := by
  intro type code hnew
  rcases (addSensorType_iff h path).mp hnew with hold | ⟨-, hcode⟩
  · exact h type code hold
  · exact hcode

theorem foldl_addSensorType {paths : List String} {typeMap : String → Option U8}
    (h : FromTable typeMap) {type : String} {code : U8} :
    paths.foldl addSensorType typeMap type = some code ↔
      typeMap type = some code ∨
        (∃ path ∈ paths, getSensorTypeStringFromPath path = type) ∧
          typeCode type = some code := by
  induction paths generalizing typeMap with
  | nil => simp
  | cons path paths ih =>
      rw [List.foldl_cons, ih (fromTable_addSensorType h path), addSensorType_iff h path,
        List.exists_mem_cons_iff, or_and_right, or_assoc]

theorem offered_type_iff {m : SensorNumMap} {type : String} {code : U8} :
    getAvailableSensorTypes (some m) type = some code ↔
      type = "All" ∧ code = 255 ∨
        (∃ path ∈ m.rights, getSensorTypeStringFromPath path = type) ∧
          typeCode type = some code := by
  have hpaths : (∃ path ∈ m.left.map Prod.snd, getSensorTypeStringFromPath path = type) ↔
      ∃ path ∈ m.rights, getSensorTypeStringFromPath path = type := by
    simp only [Bimap.rights, List.mem_map, mem_left]
  rw [getAvailableSensorTypes]
  by_cases hall : type = "All"
  · subst hall
    have hunknown : typeCode "All" = none := by decide
    rw [Function.update_self, hunknown]
    constructor
    · intro h
      exact Or.inl ⟨rfl, (Option.some.inj h).symm⟩
    · rintro (⟨-, rfl⟩ | ⟨-, h⟩)
      · rfl
      · cases h
  · have hempty : FromTable fun _ => none := fun _ _ h => by cases h
    rw [Function.update_of_ne hall, foldl_addSensorType hempty, hpaths]
    constructor
    · rintro (h | h)
      · cases h
      · exact Or.inr h
    · rintro (⟨h, -⟩ | h)
      · exact absurd h hall
      · exact Or.inr h

/-! ## The number of a path -/

theorem getSensorNumberFromPath_of_mem {m : SensorNumMap} {n : Int} {path : String}
    (h : (n, path) ∈ m.pairs) :
    SensorNumMap.getSensorNumberFromPath (some m) path = BitVec.ofInt 16 n := by
  rw [SensorNumMap.getSensorNumberFromPath]
  cases hfind : m.pairs.find? fun entry => entry.2 = path with
  | none => exact absurd (decide_eq_true rfl) (List.find?_eq_none.mp hfind (n, path) h)
  | some entry =>
      have hpath : entry.2 = path := by simpa using List.find?_some hfind
      have hentry : entry = (n, path) :=
        List.inj_on_of_nodup_map m.right_nodup (List.mem_of_find?_eq_some hfind) h hpath
      rw [hentry]

theorem getSensorNumberFromPath_of_not_mem {m : SensorNumMap} {path : String}
    (h : path ∉ m.rights) :
    SensorNumMap.getSensorNumberFromPath (some m) path = invalidSensorNumber := by
  have hnone : m.pairs.find? (fun entry => entry.2 = path) = none := by
    refine List.find?_eq_none.mpr fun entry hentry hpath => h ?_
    exact Bimap.mem_rights.mpr ⟨entry.1, of_decide_eq_true hpath ▸ hentry⟩
  rw [SensorNumMap.getSensorNumberFromPath, hnone]

theorem toNat_ofInt_of_valid {n : Int} (h : ValidNumber n) :
    ((BitVec.ofInt 16 n).toNat : Int) = n := by
  obtain ⟨-, hunit, hle⟩ := h
  rw [BitVec.toNat_ofInt]
  omega

theorem setWidth_ofInt (n : Int) : (BitVec.ofInt 16 n).setWidth 8 = lowByte n := by
  refine BitVec.eq_of_toNat_eq ?_
  rw [lowByte, BitVec.toNat_setWidth, BitVec.toNat_ofInt, BitVec.toNat_ofInt]
  omega

/-! ## From path to number and back -/

/-- A path with a component "os". -/
def OsPath (path : String) : Prop := "/os/".toList <:+: path.toList

instance (path : String) : Decidable (OsPath path) :=
  inferInstanceAs (Decidable ("/os/".toList <:+: path.toList))

/-- Both directions of a map, and what neither knows. -/
structure RoundTrip (m : SensorNumMap) : Prop where
  back : ∀ path ∈ m.rights, ∀ senType : U8,
    (senType = osCriticalStop → ∀ path' ∈ m.rights, ¬OsPath path') →
      SensorNumMap.getPathFromSensorNumber (some m)
        (SensorNumMap.getSensorNumberFromPath (some m) path) senType = path
  forth : ∀ (sensorNum : U16) (path : String), path ≠ "" →
    SensorNumMap.getPathFromSensorNumber (some m) sensorNum 0xFF = path →
      SensorNumMap.getSensorNumberFromPath (some m) path = sensorNum
  /-- For a critical stop it is the first of the "os" sensors, whatever the number. -/
  criticalStop : ∀ n path, (n, path) ∈ m.pairs → OsPath path →
    (∀ n' path', (n', path') ∈ m.pairs → OsPath path' → n ≤ n') →
      ∀ sensorNum, SensorNumMap.getPathFromSensorNumber (some m) sensorNum osCriticalStop = path
  unknown : ∀ path ∉ m.rights,
    SensorNumMap.getSensorNumberFromPath (some m) path = invalidSensorNumber ∧
      SensorNumMap.getPathFromSensorNumber (some m) invalidSensorNumber 0xFF = ""

theorem getPathFromSensorNumber_eq {m : SensorNumMap} {senType : U8}
    (h : senType = osCriticalStop → ∀ path ∈ m.rights, ¬OsPath path) (sensorNum : U16) :
    SensorNumMap.getPathFromSensorNumber (some m) sensorNum senType =
      (m.pairs.lookup (sensorNum.toNat : Int)).getD "" := by
  rw [SensorNumMap.getPathFromSensorNumber]
  by_cases hos : senType = osCriticalStop
  · have hnone : m.left.find? (fun entry => "/os/".toList <:+: entry.2.toList) = none := by
      refine List.find?_eq_none.mpr fun entry hentry hpath => ?_
      have hmem : entry.2 ∈ m.rights := Bimap.mem_rights.mpr ⟨entry.1, mem_left.mp hentry⟩
      exact h hos entry.2 hmem (of_decide_eq_true hpath)
    simp only [if_pos hos, hnone]
  · simp only [if_neg hos]

theorem left_pairwise (m : SensorNumMap) : m.left.Pairwise fun entry entry' => entry.1 ≤ entry'.1 := by
  have htrans : ∀ a b c : Int × String, decide (a.1 ≤ b.1) = true → decide (b.1 ≤ c.1) = true →
      decide (a.1 ≤ c.1) = true := by
    intro a b c hab hbc
    rw [decide_eq_true_iff] at hab hbc ⊢
    exact Int.le_trans hab hbc
  have htotal : ∀ a b : Int × String, (decide (a.1 ≤ b.1) || decide (b.1 ≤ a.1)) = true := by
    intro a b
    rw [Bool.or_eq_true, decide_eq_true_iff, decide_eq_true_iff]
    exact Int.le_total a.1 b.1
  have hsorted := List.pairwise_mergeSort htrans htotal m.pairs
  exact hsorted.imp fun h => of_decide_eq_true h

/-- The first of the "os" sensors is the one with the least number. -/
theorem find_left_eq {m : SensorNumMap} {n : Int} {path : String} (hmem : (n, path) ∈ m.pairs)
    (hos : OsPath path)
    (hleast : ∀ n' path', (n', path') ∈ m.pairs → OsPath path' → n ≤ n') :
    m.left.find? (fun entry => "/os/".toList <:+: entry.2.toList) = some (n, path) := by
  cases hfind : m.left.find? fun entry => "/os/".toList <:+: entry.2.toList with
  | none =>
      exact absurd (decide_eq_true hos) (List.find?_eq_none.mp hfind (n, path) (mem_left.mpr hmem))
  | some entry =>
      obtain ⟨hentry, before, after, hsplit, hbefore⟩ := List.find?_eq_some_iff_append.mp hfind
      have hin : entry ∈ m.pairs := mem_left.mp (List.mem_of_find?_eq_some hfind)
      have hge : n ≤ entry.1 := hleast entry.1 entry.2 hin (of_decide_eq_true hentry)
      -- nothing before it is an "os" sensor, and what comes after has no lesser number
      have hle : entry.1 ≤ n := by
        have hplace : (n, path) ∈ before ++ entry :: after := hsplit ▸ mem_left.mpr hmem
        have hsorted := hsplit ▸ left_pairwise m
        rcases List.mem_append.mp hplace with hplace | hplace
        · have hnot : ¬OsPath path :=
            of_decide_eq_false ((Bool.not_eq_true' _).mp (hbefore _ hplace))
          exact absurd hos hnot
        · rcases List.mem_cons.mp hplace with heq | hplace
          · exact Int.le_of_eq (congrArg Prod.fst heq.symm)
          · exact List.rel_of_pairwise_cons (List.pairwise_append.mp hsorted).2.1 hplace
      exact congrArg some (List.inj_on_of_nodup_map m.left_nodup hin hmem (Int.le_antisymm hle hge))

theorem roundTrip_of_valid {m : SensorNumMap} (h : ValidNumbering m) : RoundTrip m where
  back path hpath senType hos := by
    obtain ⟨n, hn⟩ := Bimap.mem_rights.mp hpath
    rw [getPathFromSensorNumber_eq hos, getSensorNumberFromPath_of_mem hn,
      toNat_ofInt_of_valid (h.valid n path hn), Bimap.lookup_of_mem hn]
    rfl
  forth sensorNum path hne hpath := by
    rw [getPathFromSensorNumber_eq fun hos => absurd hos (by decide)] at hpath
    cases hlookup : m.pairs.lookup (sensorNum.toNat : Int) with
    | none =>
        rw [hlookup] at hpath
        exact absurd hpath.symm hne
    | some found =>
        rw [hlookup] at hpath
        obtain rfl : found = path := hpath
        obtain ⟨before, after, hsplit, -⟩ := List.lookup_eq_some_iff.mp hlookup
        have hmem : ((sensorNum.toNat : Int), found) ∈ m.pairs :=
          hsplit ▸ List.mem_append_right before List.mem_cons_self
        rw [getSensorNumberFromPath_of_mem hmem, BitVec.ofInt_natCast, BitVec.ofNat_toNat,
          BitVec.setWidth_eq]
  criticalStop n path hmem hos hleast sensorNum := by
    rw [SensorNumMap.getPathFromSensorNumber]
    simp only [if_true, find_left_eq hmem hos hleast]
  unknown path hpath := by
    refine ⟨getSensorNumberFromPath_of_not_mem hpath, ?_⟩
    rw [getPathFromSensorNumber_eq fun hos => absurd hos (by decide)]
    cases hlookup : m.pairs.lookup (invalidSensorNumber.toNat : Int) with
    | none => rfl
    | some found =>
        obtain ⟨before, after, hsplit, -⟩ := List.lookup_eq_some_iff.mp hlookup
        have hmem : ((invalidSensorNumber.toNat : Int), found) ∈ m.pairs :=
          hsplit ▸ List.mem_append_right before List.mem_cons_self
        exact absurd (h.valid _ _ hmem) (by decide)

/-- In every run of either build the map handed out takes a path to its number and
the number to its path, and an unknown path to a number that is no sensor's. -/
theorem number_path_round_trip :
    (∀ es s s' connected mapper, Occurs numStep .initial es s (.call connected mapper) s' →
      ∀ m, s.handsOut connected mapper = some m → RoundTrip m) ∧
    ∀ es s s' connected mapper bus,
      Occurs staticNumStep .initial es s (.call connected mapper, bus) s' →
      ∀ m, (details.getStaticSensorNumMap bus s connected mapper none).sensorNumMap = some m →
        RoundTrip m := by
  refine ⟨?_, ?_⟩
  · intro es s s' connected mapper hoccurs m hm
    have hcall := validCall_getSensorNumMap (valid_reached hoccurs.reached) connected mapper
    exact roundTrip_of_valid (hcall.handedOut m hm)
  · intro es s s' connected mapper bus hoccurs m hm
    have hcall := validCall_getStaticSensorNumMap (valid_reached_static hoccurs.reached) bus
      connected mapper
    exact roundTrip_of_valid (hcall.handedOut m hm)

theorem rebuilds_unitTree :
    Rebuilds .initial true (.tree unitTree) ⟨some unitTree, 1⟩ unitTree 1 := by
  refine rebuilds_initial fun sensor hsensor => ?_
  obtain ⟨path, -, rfl⟩ := List.mem_map.mp hsensor
  exact ⟨rfl, rfl⟩

theorem handsOut_unitTree :
    SensorNumCache.initial.handsOut true (.tree unitTree) = some (numbered unitTree) := by
  have hrenumber : renumber ⟨some unitTree, 1⟩ 1 unitTree none =
      ⟨⟨⟨some unitTree, 1⟩, some (numbered unitTree), 1⟩, some (numbered unitTree), .ok true⟩ := by
    rw [renumber, numberSensors_unitTree]
  rw [SensorNumCache.handsOut, rebuilds_unitTree.getSensorNumMap, hrenumber]

theorem mem_unitTree_inlet : ((0x101 : Int), inletPath 101) ∈ (numbered unitTree).pairs :=
  (mem_pairs_iff numberSensors_unitTree).mpr ⟨256, by omega, unitTree_inlet (j := 1) (by omega), rfl⟩

/-- A sensor of the second unit has a number above the first, which leads back to it. -/
theorem second_unit_round_trip :
    SensorNumMap.getSensorNumberFromPath (some (numbered unitTree)) (inletPath 101) = 0x101 ∧
      SensorNumMap.getPathFromSensorNumber (some (numbered unitTree)) 0x101 0x01 =
        inletPath 101 := by
  have hfirst : Occurs numStep .initial [.call true (.tree unitTree)] .initial
      (.call true (.tree unitTree))
      (details.getSensorNumMap .initial true (.tree unitTree) none).cache :=
    ⟨[], [], rfl, rfl, rfl⟩
  have htrip := number_path_round_trip.1 _ _ _ _ _ hfirst _ handsOut_unitTree
  have hnumber : SensorNumMap.getSensorNumberFromPath (some (numbered unitTree)) (inletPath 101) =
      0x101 := getSensorNumberFromPath_of_mem mem_unitTree_inlet
  have hmem : inletPath 101 ∈ (numbered unitTree).rights :=
    Bimap.mem_rights.mpr ⟨0x101, mem_unitTree_inlet⟩
  refine ⟨hnumber, ?_⟩
  have hback := htrip.back (inletPath 101) hmem 0x01 fun hos => absurd hos (by decide)
  rwa [hnumber] at hback

/-! ## A row made of what is offered -/

section Offered

variable {subtree : SensorSubTree} {m : SensorNumMap}

/-- The number an event of the sensor has. -/
def eventNum (m : SensorNumMap) (path : String) : U8 :=
  (SensorNumMap.getSensorNumberFromPath (some m) path).setWidth 8

/-- The event is one of the sensor. -/
structure EventOf (m : SensorNumMap) (path : String) (event : EventMsgData) : Prop where
  sensorType : event.sensorType = getSensorTypeFromPath path
  sensorNum : event.sensorNum = eventNum m path

theorem eventNum_eq (h : numberSensors .empty 0 0 subtree.sensors = (m, .ok ())) {k : Nat}
    {path : String} (hk : subtree.paths[k]? = some path) :
    eventNum m path = BitVec.ofNat 8 (k % 255) := by
  have hlt : k < 765 := Nat.lt_trans (List.getElem?_eq_some_iff.mp hk).1 (length_paths_lt h)
  have hmem : ((numberAt k : Int), path) ∈ m.pairs := (mem_pairs_iff h).mpr ⟨k, hlt, hk, rfl⟩
  rw [eventNum, getSensorNumberFromPath_of_mem hmem, setWidth_ofInt, lowByte_numberAt hlt]

/-- The low byte of a sensor's number is the number of a sensor, and not the one
for all. -/
theorem eventNum_offered (h : numberSensors .empty 0 0 subtree.sensors = (m, .ok ()))
    {path : String} (hpath : path ∈ subtree.paths) :
    ((eventNum m path).toNat : Int) ∈ m.lefts ∧ eventNum m path ≠ 0xFF := by
  obtain ⟨k, hk⟩ := List.mem_iff_getElem?.mp hpath
  have hlt : k % 255 < subtree.paths.length :=
    Nat.lt_of_le_of_lt (Nat.mod_le k 255) (List.getElem?_eq_some_iff.mp hk).1
  have hsmall : k % 255 < 255 := Nat.mod_lt k (by omega)
  have hnat : (BitVec.ofNat 8 (k % 255)).toNat = k % 255 := by
    rw [BitVec.toNat_ofNat]
    omega
  obtain ⟨first, hfirst⟩ : ∃ first, subtree.paths[k % 255]? = some first :=
    ⟨_, List.getElem?_eq_getElem hlt⟩
  have hnumber : numberAt (k % 255) = k % 255 := if_pos hsmall
  rw [eventNum_eq h hk]
  refine ⟨Bimap.mem_lefts.mpr ⟨first, ?_⟩, ?_⟩
  · rw [hnat, ← hnumber]
    exact (mem_pairs_iff h).mpr ⟨k % 255, by omega, hfirst, rfl⟩
  · intro hall
    have hval : (BitVec.ofNat 8 (k % 255)).toNat = 255 := congrArg BitVec.toNat hall
    omega

/-- What a type and a number that are offered are good for. -/
structure OfferedRow (subtree : SensorSubTree) (m : SensorNumMap) (type : String) (code n : U8)
    (name : String) : Prop where
  /-- They are a sensor's. -/
  sensor : ∃ path ∈ subtree.paths, getSensorTypeStringFromPath path = type ∧
    code = getSensorTypeFromPath path ∧ n = eventNum m path ∧ name = getSensorNameFromPath path
  /-- The setters of the filter table take them. -/
  accepted : ∀ env : SetterEnv, env.sensorNumMap = some m.lefts →
    filterValueValid env .sensorType [code] = true ∧ filterValueValid env .sensorNum [n] = true
  /-- A row with them asks for the sensors of that code and low byte. -/
  selects : ∀ path ∈ subtree.paths, ∀ (e : EvtFilterTblEntry) (event : EventMsgData),
    EventOf m path event →
      (Accepts { e with SensorType := code, SensorNum := n } event ↔
        Accepts { e with SensorType := 0xFF, SensorNum := 0xFF } event ∧
          getSensorTypeFromPath path = code ∧ eventNum m path = n)

theorem fieldMatches_iff {field x : U8} (h : field ≠ 0xFF) : FieldMatches field x ↔ x = field :=
  ⟨fun hfield => hfield.elim (fun hall => absurd hall h) Eq.symm, fun hx => Or.inr hx.symm⟩

/-- Values that are no wildcards narrow a row down to the events that carry them. -/
theorem accepts_with_iff {code n : U8} (hcode : code ≠ 0xFF) (hn : n ≠ 0xFF)
    (e : EvtFilterTblEntry) (event : EventMsgData) :
    Accepts { e with SensorType := code, SensorNum := n } event ↔
      Accepts { e with SensorType := 0xFF, SensorNum := 0xFF } event ∧
        event.sensorType = code ∧ event.sensorNum = n := by
  constructor
  · intro h
    refine ⟨?_, (fieldMatches_iff hcode).mp h.sensorType, (fieldMatches_iff hn).mp h.sensorNum⟩
    exact { h with sensorType := Or.inl rfl, sensorNum := Or.inl rfl }
  · rintro ⟨h, htype, hnum⟩
    exact { h with
      sensorType := (fieldMatches_iff hcode).mpr htype
      sensorNum := (fieldMatches_iff hn).mpr hnum }

theorem exists_of_listed (h : numberSensors .empty 0 0 subtree.sensors = (m, .ok ()))
    {type : String} (htype : type ≠ "All") {n : U8} {name : String}
    (hlisted : (n, name) ∈ getSensorNumNameMapForType (some m) type) :
    ∃ path ∈ subtree.paths, getSensorTypeStringFromPath path = type ∧ n = eventNum m path ∧
      name = getSensorNameFromPath path := by
  rcases mem_getSensorNumNameMapForType.mp hlisted with ⟨hall, -⟩ | hnamed
  · exact absurd hall htype
  · obtain ⟨⟨sensorNum, path⟩, hmem, hkeep, hn, hname⟩ := mem_of_namesOf hnamed
    obtain ⟨k, hk, hpath, hnumber⟩ := (mem_pairs_iff h).mp hmem
    rw [Bool.or_eq_true, decide_eq_true_iff, decide_eq_true_iff] at hkeep
    refine ⟨path, List.mem_of_getElem? hpath, hkeep.resolve_left htype, ?_, hname⟩
    have hlow : n = lowByte sensorNum := hn
    have hat : sensorNum = (numberAt k : Int) := hnumber
    rw [hlow, hat, eventNum_eq h hpath, lowByte_numberAt hk]

theorem eventNum_listed (h : numberSensors .empty 0 0 subtree.sensors = (m, .ok ()))
    {path : String} (hpath : path ∈ subtree.paths) :
    ∃ name, (eventNum m path, name) ∈
      getSensorNumNameMapForType (some m) (getSensorTypeStringFromPath path) := by
  obtain ⟨k, hk⟩ := List.mem_iff_getElem?.mp hpath
  have hlt : k < 765 := Nat.lt_trans (List.getElem?_eq_some_iff.mp hk).1 (length_paths_lt h)
  have hmem : ((numberAt k : Int), path) ∈ m.pairs := (mem_pairs_iff h).mpr ⟨k, hlt, hk, rfl⟩
  let keep : String → Bool := fun path' =>
    decide (getSensorTypeStringFromPath path = "All") ||
      decide (getSensorTypeStringFromPath path' = getSensorTypeStringFromPath path)
  have hkeep : keep path = true := by
    simp only [keep, decide_true, Bool.or_true]
  obtain ⟨entry, -, -, hnamed⟩ := namesOf_of_mem hmem hkeep
  refine ⟨getSensorNameFromPath entry.2, mem_getSensorNumNameMapForType.mpr (Or.inr ?_)⟩
  rw [eventNum_eq h hk, ← lowByte_numberAt hlt]
  exact hnamed

/-- Of a tree that is numbered to its end: the types offered are the known types of
its sensors, the number of each sensor is listed for its type, and every row made of
a type other than "All" and a number listed for it is accepted and asks for sensors
that are there. -/
theorem offered_row_selects (h : numberSensors .empty 0 0 subtree.sensors = (m, .ok ())) :
    (∀ type code, getAvailableSensorTypes (some m) type = some code ↔
      type = "All" ∧ code = 255 ∨
        (∃ path ∈ subtree.paths, getSensorTypeStringFromPath path = type) ∧
          typeCode type = some code) ∧
    (∀ path ∈ subtree.paths, ∃ name, (eventNum m path, name) ∈
      getSensorNumNameMapForType (some m) (getSensorTypeStringFromPath path)) ∧
    ∀ type code n name, type ≠ "All" → getAvailableSensorTypes (some m) type = some code →
      (n, name) ∈ getSensorNumNameMapForType (some m) type →
        OfferedRow subtree m type code n name := by
  have hrights : ∀ path, path ∈ m.rights ↔ path ∈ subtree.paths := by
    intro path
    have hm : numbered subtree = m := congrArg Prod.fst h
    have hlt := (numberSensors_tree subtree).2.mp (congrArg Prod.snd h)
    rw [← hm, numbered_complete (Nat.le_of_lt hlt)]
  refine ⟨fun type code => ?_, fun path hpath => eventNum_listed h hpath, ?_⟩
  · simp only [offered_type_iff, hrights]
  · intro type code n name htype hcode hlisted
    obtain ⟨path, hpath, hpathType, hn, hname⟩ := exists_of_listed h htype hlisted
    obtain hall | ⟨-, hknown⟩ := offered_type_iff.mp hcode
    · exact absurd hall.1 htype
    obtain ⟨hnumber, hone⟩ := eventNum_offered h hpath
    have hof : getSensorTypeFromPath path = code := getSensorTypeFromPath_eq (hpathType ▸ hknown)
    refine ⟨⟨path, hpath, hpathType, hof.symm, hn, hname⟩, ?_, ?_⟩
    · intro env henv
      refine ⟨?_, ?_⟩
      · simp [filterValueValid, filterElementValid, mem_sensorTypeCodes hknown]
      · rw [← hn] at hnumber
        simp [filterValueValid, filterElementValid, henv, hnumber]
    · intro path' _ e event hevent
      rw [accepts_with_iff (typeCode_ne_wildcard hknown).2 (hn ▸ hone), hevent.sensorType,
        hevent.sensorNum]

end Offered

/-- A sensor of the second unit is offered with its type and the low byte of its
number. -/
theorem second_unit_offered :
    getAvailableSensorTypes (some (numbered unitTree)) "temperature" = some 0x01 ∧
      ∃ name, (0x01, name) ∈ getSensorNumNameMapForType (some (numbered unitTree)) "temperature" ∧
        OfferedRow unitTree (numbered unitTree) "temperature" 0x01 0x01 name := by
  obtain ⟨htypes, hlisted, hrows⟩ := offered_row_selects numberSensors_unitTree
  have hinlet : unitTree.paths[256]? = some (inletPath 101) := unitTree_inlet (j := 1) (by omega)
  have hpath : inletPath 101 ∈ unitTree.paths := List.mem_of_getElem? hinlet
  have htype : getSensorTypeStringFromPath (inletPath 101) = "temperature" := by decide +kernel
  have hnum : eventNum (numbered unitTree) (inletPath 101) = 0x01 :=
    eventNum_eq numberSensors_unitTree hinlet
  have hoffered : getAvailableSensorTypes (some (numbered unitTree)) "temperature" = some 0x01 :=
    (htypes _ _).mpr (Or.inr ⟨⟨inletPath 101, hpath, htype⟩, by decide⟩)
  obtain ⟨name, hname⟩ := hlisted (inletPath 101) hpath
  rw [hnum, htype] at hname
  exact ⟨hoffered, name, hname, hrows _ _ _ _ (by decide) hoffered hname⟩

end Pef
