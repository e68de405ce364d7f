/-
# `Config` — `parsePefConfToDbus`: the configuration file exported as D-Bus objects

The part of `pef_config.cpp` that reads the main configuration file.  The
sections are read in the order below, and the first failure ends the load with
the objects exported so far.

    section              objects
    PEFConfInfo          one interface for each element
    SystemGUID, OEMParam one interface for each element
    EventFilterTable     List1 .. List4, ten rows each, the rest in List4
    AlertPolicyTable     PolicyList_eth0 .. eth3, fifteen rows each, the rest in eth3
    AlertStringTable     List1 .. List4, ten rows each, the rest in List4
    DestinationSelector  one object for each element

`parsePefConfToDbus_eq_ok` says when a file loads completely, and what the
objects then hold: section by section, each table being the rows its entries
are read as, cut into consecutive segments.
-/
import PlatformEventFilter.Types

namespace Pef

/-- The four objects a table is spread over. -/
abbrev Bucket := Fin 4

/-! ## Object paths -/

def eventFilterObjMap : Bucket → String
  | 0 => "/xyz/openbmc_project/PefAlertManager/EventFilterTable/List1"
  | 1 => "/xyz/openbmc_project/PefAlertManager/EventFilterTable/List2"
  | 2 => "/xyz/openbmc_project/PefAlertManager/EventFilterTable/List3"
  | 3 => "/xyz/openbmc_project/PefAlertManager/EventFilterTable/List4"

def alertPolicyObjMap : Bucket → String
  | 0 => "/xyz/openbmc_project/PefAlertManager/AlertPolicyTable/PolicyList_eth0"
  | 1 => "/xyz/openbmc_project/PefAlertManager/AlertPolicyTable/PolicyList_eth1"
  | 2 => "/xyz/openbmc_project/PefAlertManager/AlertPolicyTable/PolicyList_eth2"
  | 3 => "/xyz/openbmc_project/PefAlertManager/AlertPolicyTable/PolicyList_eth3"

def destStringTableObj : String := "/xyz/openbmc_project/PefAlertManager/DestinationSelector/Entry"

/-! ## One cell, one row -/

/-- `value(name, 0)`, cast to the unsigned type of `w` bits. -/
def readUnsigned (w : Nat) (name : String) (e : Json) : Except Json.Error (BitVec w) :=
  (e.value name Json.getInt 0).map (BitVec.ofInt w)

def readFilterCell (e : Json) (c : FilterColumn) : Except Json.Error c.Cell :=
  readUnsigned c.width c.name e

def readPolicyCell (e : Json) : (c : PolicyColumn) → Except Json.Error c.Cell
  | .groupNums => readUnsigned 8 "AlertPolicyGroupNum" e
  | .enableAlerts => readUnsigned 8 "EnableAlert" e
  | .policyActions => readUnsigned 8 "PolicyAction" e
  | .channelNos => readUnsigned 8 "ChannelNo" e
  | .destinationSels => readUnsigned 8 "DestinationSel" e
  | .eventSpecificStrs => e.value "EventSpecificAlertStr" Json.getString ""
  | .alertStingKeys => readUnsigned 8 "AlertStingkey" e

def readAlertStringCell (e : Json) (c : AlertStringColumn) : Except Json.Error c.Cell :=
  readUnsigned c.width c.name e

/-- The conversion a setting is read with. -/
def ConfColumn.decode : (c : ConfColumn) → Json → Except Json.Error c.Cell
  | .version => Json.getUnsigned 8
  | .actionSupported => Json.getUnsigned 8
  | .maxEventTblEntry => Json.getUnsigned 8
  | .pefControl => Json.getUnsigned 8
  | .pefActionGblControl => Json.getUnsigned 8
  | .pefStartupDly => Json.getUnsigned 8
  | .pefAlertStartupDly => Json.getUnsigned 8
  | .lastBMCProcessedEventID => Json.getUnsigned 16
  | .lastSWProcessedEventID => Json.getUnsigned 16
  | .subject => Json.getString
  | .message => Json.getString

def readConfCell (e : Json) (c : ConfColumn) : Except Json.Error c.Cell := do
  c.decode (← e.subscript c.name)

def readFilterRow (e : Json) : Except Json.Error (Row FilterColumn.Cell) :=
  readCells (readFilterCell e) FilterColumn.all fun _ => 0

def readPolicyRow (e : Json) : Except Json.Error (Row PolicyColumn.Cell) :=
  readCells (readPolicyCell e) PolicyColumn.all fun
    | .eventSpecificStrs => ""
    | .groupNums => 0
    | .enableAlerts => 0
    | .policyActions => 0
    | .channelNos => 0
    | .destinationSels => 0
    | .alertStingKeys => 0

def readAlertStringRow (e : Json) : Except Json.Error (Row AlertStringColumn.Cell) :=
  readCells (readAlertStringCell e) AlertStringColumn.all fun _ => 0

def readConfRow (e : Json) : Except Json.Error PefConfInfo :=
  readCells (readConfCell e) ConfColumn.all fun
    | .lastBMCProcessedEventID => 0
    | .lastSWProcessedEventID => 0
    | .subject => ""
    | .message => ""
    | .version => 0
    | .actionSupported => 0
    | .maxEventTblEntry => 0
    | .pefControl => 0
    | .pefActionGblControl => 0
    | .pefStartupDly => 0
    | .pefAlertStartupDly => 0

/-- The numbered byte properties `<stem>0 .. <stem>(n-1)` of an element. -/
def readNumbered (stem : String) (n : Nat) (e : Json) : Except Json.Error (List U8) :=
  (List.range n).mapM fun i => do (← e.subscript (stem ++ toString i)).getUnsigned 8

def readSystemGuid : Json → Except Json.Error (List U8) := readNumbered "SystemGUID" 16

def readOemParam : Json → Except Json.Error (List U8) := readNumbered "OEMParam" 32

/-- The properties of one `DestinationSelector/Entry<n>` object. -/
structure DestinationEntry where
  objPath : String
  LanChannel : U8
  DestinationSelector : U8
  deriving DecidableEq, Repr

def readDestination (e : Json) : Except Json.Error DestinationEntry := do
  let lanDestEntry ← (← e.subscript "LanDestination").getInt
  let lanChannel ← (← e.subscript "LanChannel").getUnsigned 8
  let destinationType ← (← e.subscript "DestinationType").getUnsigned 8
  pure ⟨destStringTableObj ++ toString lanDestEntry, lanChannel, destinationType⟩

/-! ## The sections -/

/-- What `parsePefConfToDbus` has exported from the main configuration file. -/
structure ManagerState where
  pefConfInfo : List PefConfInfo
  systemGUID : List (List U8)
  oemParam : List (List U8)
  eventFilterTable : Bucket → Option EventFilterList
  alertPolicyTable : Bucket → Option AlertPolicyList
  alertStringTable : Bucket → Option AlertStringList
  destinationSelector : List DestinationEntry

/-- Nothing exported. -/
def ManagerState.initial : ManagerState where
  pefConfInfo := []
  systemGUID := []
  oemParam := []
  eventFilterTable := fun _ => none
  alertPolicyTable := fun _ => none
  alertStringTable := fun _ => none
  destinationSelector := []

/-- The entries of `data[key]`; `data` is `none` when the file did not parse.
A missing section is inserted as `null`, which has no entries. -/
def sectionOf (data : Option Json) (key : String) : Except Json.Error (List Json) :=
  match data with
  | none => .error (.typeError 305)
  | some d => (d.access key).map fun p => p.2.items

/-- Read a section with `load` and keep what it exports. -/
def exportSection {γ : Type} (data : Option Json) (key : String)
    (load : List Json → γ × Except Json.Error Unit) (keep : ManagerState → γ → ManagerState)
    (s : ManagerState) : ManagerState × Except Json.Error Unit :=
  match sectionOf data key with
  | .error e => (s, .error e)
  | .ok entries => (keep s (load entries).1, (load entries).2)

/-- The tables and settings of the main configuration file, exported in order. -/
def parsePefConfToDbus (data : Option Json) : ManagerState × Except Json.Error Unit :=
  inOrder
    [exportSection data "PEFConfInfo" (exportRows readConfRow · [])
        fun s g => { s with pefConfInfo := g },
     exportSection data "SystemGUID" (exportRows readSystemGuid · [])
        fun s g => { s with systemGUID := g },
     exportSection data "OEMParam" (exportRows readOemParam · [])
        fun s g => { s with oemParam := g },
     exportSection data "EventFilterTable" (exportBuckets readFilterRow 10 3)
        fun s g => { s with eventFilterTable := g },
     exportSection data "AlertPolicyTable" (exportBuckets readPolicyRow 15 3)
        fun s g => { s with alertPolicyTable := g },
     exportSection data "AlertStringTable" (exportBuckets readAlertStringRow 10 3)
        fun s g => { s with alertStringTable := g },
     exportSection data "DestinationSelector" (exportRows readDestination · [])
        fun s g => { s with destinationSelector := g }]
    ManagerState.initial

/-! ## A complete load -/

/-- The section `key` loads as `g`. -/
def SectionLoads {γ : Type} (data : Option Json) (key : String)
    (load : List Json → γ × Except Json.Error Unit) (g : γ) : Prop :=
  ∃ entries, sectionOf data key = .ok entries ∧ load entries = (g, .ok ())

/-- Every section of the file loads, as the objects of `s`. -/
structure Loaded (data : Option Json) (s : ManagerState) : Prop where
  pefConfInfo : SectionLoads data "PEFConfInfo" (exportRows readConfRow · []) s.pefConfInfo
  systemGUID : SectionLoads data "SystemGUID" (exportRows readSystemGuid · []) s.systemGUID
  oemParam : SectionLoads data "OEMParam" (exportRows readOemParam · []) s.oemParam
  eventFilterTable :
    SectionLoads data "EventFilterTable" (exportBuckets readFilterRow 10 3) s.eventFilterTable
  alertPolicyTable :
    SectionLoads data "AlertPolicyTable" (exportBuckets readPolicyRow 15 3) s.alertPolicyTable
  alertStringTable :
    SectionLoads data "AlertStringTable" (exportBuckets readAlertStringRow 10 3) s.alertStringTable
  destinationSelector :
    SectionLoads data "DestinationSelector" (exportRows readDestination · []) s.destinationSelector

theorem exportSection_eq_ok {γ : Type} {data : Option Json} {key : String}
    {load : List Json → γ × Except Json.Error Unit} {keep : ManagerState → γ → ManagerState}
    {s s' : ManagerState} :
    exportSection data key load keep s = (s', .ok ()) ↔
      ∃ g, SectionLoads data key load g ∧ s' = keep s g := by
  unfold exportSection SectionLoads
  cases sectionOf data key with
  | error e =>
      constructor
      · intro h; cases h
      · rintro ⟨g, ⟨entries, h, -⟩, -⟩
        cases h
  | ok entries =>
      constructor
      · intro h
        rw [Prod.mk.injEq] at h
        exact ⟨(load entries).1, ⟨entries, rfl, Prod.ext rfl h.2⟩, h.1.symm⟩
      · rintro ⟨g, ⟨_, h, hload⟩, rfl⟩
        cases h
        simp only [hload]

theorem exportSection_induct {γ : Type} {data : Option Json} {key : String}
    {load : List Json → γ × Except Json.Error Unit} {keep : ManagerState → γ → ManagerState}
    {s : ManagerState} {P : ManagerState → Prop} (hs : P s)
    (hkeep : ∀ entries, P (keep s (load entries).1)) : P (exportSection data key load keep s).1 := by
  unfold exportSection
  cases sectionOf data key with
  | error e => exact hs
  | ok entries => exact hkeep entries

theorem parsePefConfToDbus_eq_ok {data : Option Json} {s : ManagerState} :
    parsePefConfToDbus data = (s, .ok ()) ↔ Loaded data s := by
  unfold parsePefConfToDbus
  simp only [inOrder_cons_ok, exportSection_eq_ok]
  constructor
  · rintro ⟨_, ⟨g₁, h₁, rfl⟩, _, ⟨g₂, h₂, rfl⟩, _, ⟨g₃, h₃, rfl⟩, _, ⟨g₄, h₄, rfl⟩,
      _, ⟨g₅, h₅, rfl⟩, _, ⟨g₆, h₆, rfl⟩, _, ⟨g₇, h₇, rfl⟩, h⟩
    cases h
    exact ⟨h₁, h₂, h₃, h₄, h₅, h₆, h₇⟩
  · rintro ⟨h₁, h₂, h₃, h₄, h₅, h₆, h₇⟩
    exact ⟨_, ⟨_, h₁, rfl⟩, _, ⟨_, h₂, rfl⟩, _, ⟨_, h₃, rfl⟩, _, ⟨_, h₄, rfl⟩,
      _, ⟨_, h₅, rfl⟩, _, ⟨_, h₆, rfl⟩, _, ⟨_, h₇, rfl⟩, rfl⟩

/-- The entries of the section `key` are read as `rows`. -/
def ReadsRows {γ : Type} (data : Option Json) (key : String)
    (read : Json → Except Json.Error γ) (rows : List γ) : Prop :=
  ∃ entries, sectionOf data key = .ok entries ∧
    List.Forall₂ (fun e r => read e = .ok r) entries rows

theorem sectionLoads_rows {γ : Type} {data : Option Json} {key : String}
    {read : Json → Except Json.Error γ} {g : List γ} :
    SectionLoads data key (exportRows read · []) g ↔ ReadsRows data key read g := by
  unfold SectionLoads ReadsRows
  simp only [exportRows_ok, List.nil_append, exists_eq_right']

/-- A table loads exactly when each of its entries is read as a row; bucket `b`
then holds the rows of its segment. -/
theorem sectionLoads_buckets {ι : Type} {β : ι → Type} {data : Option Json} {key : String}
    {read : Json → Except Json.Error (Row β)} {n : Nat} (hn : 0 < n)
    {g : Bucket → Option (Table β)} :
    SectionLoads data key (exportBuckets read n 3) g ↔
      ∃ rows, ReadsRows data key read rows ∧ ∀ b : Bucket, g b = exported (slice n 3 rows b) := by
  unfold SectionLoads ReadsRows
  simp only [exportBuckets_eq_ok hn]
  exact ⟨fun ⟨entries, h, rows, hrows, hg⟩ => ⟨rows, ⟨entries, h, hrows⟩, hg⟩,
    fun ⟨rows, ⟨entries, h, hrows⟩, hg⟩ => ⟨entries, h, rows, hrows, hg⟩⟩

theorem sectionOf_obj (ms : List (String × Json)) (key : String) :
    sectionOf (some (.obj ms)) key = .ok ((ms.lookup key).getD .null).items := by
  simp only [sectionOf, Json.access]
  cases ms.lookup key <;> rfl

end Pef
