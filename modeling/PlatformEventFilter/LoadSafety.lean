/-
# `LoadSafety` — the keys a load of the configuration file does not find

`parsePefConfToDbus` reads the settings and the selector through the constant
subscript, which may only be called with a key the object has, and the tables
through `value`, which has a default.  What the library throws is caught; an
absent key is not thrown.  `loadEnd` is how the load ends, an absent key told
apart from the rest:

    .json e          an exception
    .absentKey k     the constant subscript of an object without the member `k`

A number its type cannot hold, whose conversion is undefined as well, is no
exception: here it becomes some value, and the load goes on to the next key.
But for such numbers the load ends so (`parsePefConfToDbus_outcome`).
`load_finds_keys_iff` is the condition on the document under which no absent
key is read; the `PEFConfInfo` of the file in the repository does not meet it
(`shipped_version_absent`).
-/
import PlatformEventFilter.Config

namespace Pef

/-- How a load that does not complete ends. -/
inductive LoadError where
  | json (e : Json.Error)
  | absentKey (key : String)
  deriving DecidableEq, Repr

/-- The error with an absent key as any call outside its contract. -/
def LoadError.erase : LoadError → Json.Error
  | .json e => e
  | .absentKey _ => .undefined

/-! ## Reads that do not look for a key -/

/-- The read ends in an exception. -/
def Throws {α : Type} (x : Except Json.Error α) : Prop := ∃ id, x = .error (.typeError id)

/-- The load goes on unless there is an exception. -/
def goOn {α : Type} : Except Json.Error α → Except LoadError Unit
  | .ok _ => .ok ()
  | .error .undefined => .ok ()
  | .error (.typeError id) => .error (.json (.typeError id))

theorem goOn_eq_ok {α : Type} (x : Except Json.Error α) : goOn x = .ok () ↔ ¬ Throws x := by
  rcases x with (id | _) | a
  · refine ⟨fun h => ?_, fun h => absurd ⟨id, rfl⟩ h⟩
    cases h
  · refine ⟨fun _ => ?_, fun _ => rfl⟩
    rintro ⟨id, h⟩
    cases h
  · refine ⟨fun _ => ?_, fun _ => rfl⟩
    rintro ⟨id, h⟩
    cases h

theorem goOn_ne_absentKey {α : Type} (x : Except Json.Error α) (key : String) :
    goOn x ≠ .error (.absentKey key) := by
  rcases x with (id | _) | a
  all_goals
    intro h
    cases h

/-! ## One key -/

/-- A key read through the constant subscript, and the conversion of its value. -/
structure ConstKey where
  key : String
  convert : Json → Except Json.Error Unit

/-- Constant `j[key]`. -/
def constSubscript (key : String) : Json → Except LoadError Json
  | .obj ms => match ms.lookup key with
      | some v => .ok v
      | none => .error (.absentKey key)
  | _ => .error (.json (.typeError 305))

namespace ConstKey

def read (k : ConstKey) (e : Json) : Except LoadError Unit := do
  let v ← constSubscript k.key e
  goOn (k.convert v)

/-- The entry has the key, with a value whose conversion throws nothing. -/
def Readable (e : Json) (k : ConstKey) : Prop :=
  ∃ v, e.find? k.key = some v ∧ ¬ Throws (k.convert v)

/-- The entry is no object that lacks the key. -/
def Present (e : Json) (k : ConstKey) : Prop :=
  ∀ ms, e = .obj ms → ∃ v, ms.lookup k.key = some v

theorem read_cases (k : ConstKey) (e : Json) :
    (k.read e = .error (.json (.typeError 305)) ∧ ∀ ms, e ≠ .obj ms) ∨
    (k.read e = .error (.absentKey k.key) ∧ ∃ ms, e = .obj ms ∧ ms.lookup k.key = none) ∨
    (∃ ms v, e = .obj ms ∧ ms.lookup k.key = some v ∧ k.read e = goOn (k.convert v)) := by
  cases e with
  | obj ms =>
      cases h : ms.lookup k.key with
      | none => exact .inr (.inl ⟨by simp only [read, constSubscript, h]; rfl, ms, rfl, h⟩)
      | some v => exact .inr (.inr ⟨ms, v, rfl, h, by simp only [read, constSubscript, h]; rfl⟩)
  | _ => exact .inl ⟨rfl, fun _ h => by cases h⟩

theorem read_eq_ok (e : Json) (k : ConstKey) : k.read e = .ok () ↔ k.Readable e := by
  rcases k.read_cases e with ⟨h, hno⟩ | ⟨h, ms, rfl, hnone⟩ | ⟨ms, v, rfl, hv, h⟩
  · rw [h]
    constructor
    · intro h
      cases h
    · rintro ⟨v, hv, -⟩
      cases e with
      | obj ms => exact absurd rfl (hno ms)
      | _ => cases hv
  · rw [h]
    constructor
    · intro h
      cases h
    · rintro ⟨v, hv, -⟩
      rw [Json.find?, hnone] at hv
      cases hv
  · rw [h, goOn_eq_ok]
    constructor
    · exact fun hok => ⟨v, hv, hok⟩
    · rintro ⟨w, hw, hok⟩
      rw [Json.find?, hv, Option.some.injEq] at hw
      exact hw ▸ hok

theorem read_finds (e : Json) (k : ConstKey) :
    (∀ key, k.read e ≠ .error (.absentKey key)) ↔ k.Present e := by
  rcases k.read_cases e with ⟨h, hno⟩ | ⟨h, ms, rfl, hnone⟩ | ⟨ms, v, rfl, hv, h⟩
  · rw [h]
    constructor
    · exact fun _ ms hms => absurd hms (hno ms)
    · intro _ key h
      cases h
  · rw [h]
    constructor
    · exact fun h => absurd rfl (h k.key)
    · intro hp
      obtain ⟨v, hv⟩ := hp ms rfl
      rw [hnone] at hv
      cases hv
  · rw [h]
    constructor
    · intro _ ms' hms
      cases hms
      exact ⟨v, hv⟩
    · exact fun _ => goOn_ne_absentKey _

end ConstKey

/-! ## The sections -/

/-- Keys read one after the other. -/
def readConstKeys (ks : List ConstKey) (e : Json) : Except LoadError Unit := forM ks (·.read e)

/-- The sections, in the order they are read. -/
inductive ConfSection where
  | pefConfInfo | systemGUID | oemParam
  | eventFilterTable | alertPolicyTable | alertStringTable
  | destinationSelector
  deriving DecidableEq, Repr

namespace ConfSection

def all : List ConfSection :=
  [.pefConfInfo, .systemGUID, .oemParam, .eventFilterTable, .alertPolicyTable, .alertStringTable,
    .destinationSelector]

def key : ConfSection → String
  | .pefConfInfo => "PEFConfInfo"
  | .systemGUID => "SystemGUID"
  | .oemParam => "OEMParam"
  | .eventFilterTable => "EventFilterTable"
  | .alertPolicyTable => "AlertPolicyTable"
  | .alertStringTable => "AlertStringTable"
  | .destinationSelector => "DestinationSelector"

def confKeys : List ConstKey :=
  ConfColumn.all.map fun c => ⟨c.name, fun v => (c.decode v).outcome⟩

def byteKey (key : String) : ConstKey := ⟨key, fun v => (v.getUnsigned 8).outcome⟩

def numberedKeys (stem : String) (n : Nat) : List ConstKey :=
  (List.range n).map fun i => byteKey (stem ++ toString i)

def destinationKeys : List ConstKey :=
  [⟨"LanDestination", fun v => v.getInt.outcome⟩, byteKey "LanChannel", byteKey "DestinationType"]

/-- The keys of an entry that are read through the constant subscript, in the
order they are read; a table has none. -/
def constKeys : ConfSection → List ConstKey
  | .pefConfInfo => confKeys
  | .systemGUID => numberedKeys "SystemGUID" 16
  | .oemParam => numberedKeys "OEMParam" 32
  | .eventFilterTable => []
  | .alertPolicyTable => []
  | .alertStringTable => []
  | .destinationSelector => destinationKeys

/-- How the read of one entry ends. -/
def entryEnd : ConfSection → Json → Except LoadError Unit
  | .pefConfInfo, e => readConstKeys confKeys e
  | .systemGUID, e => readConstKeys (numberedKeys "SystemGUID" 16) e
  | .oemParam, e => readConstKeys (numberedKeys "OEMParam" 32) e
  | .eventFilterTable, e => forM FilterColumn.all fun c => goOn (readFilterCell e c)
  | .alertPolicyTable, e => forM PolicyColumn.all fun c => goOn (readPolicyCell e c)
  | .alertStringTable, e => forM AlertStringColumn.all fun c => goOn (readAlertStringCell e c)
  | .destinationSelector, e => readConstKeys destinationKeys e

end ConfSection

/-- How the read of a section ends. -/
def sectionEnd (data : Option Json) (σ : ConfSection) : Except LoadError Unit := do
  let entries ← (sectionOf data σ.key).mapError .json
  forM entries σ.entryEnd

/-- How `parsePefConfToDbus` ends. -/
def loadEnd (data : Option Json) : Except LoadError Unit :=
  forM ConfSection.all (sectionEnd data)

/-! ## The load ends so -/

/-- The entries of a section, exported. -/
def exportOf (data : Option Json) :
    ConfSection → ManagerState → ManagerState × Except Json.Error Unit
  | .pefConfInfo => exportSection data "PEFConfInfo" (exportRows readConfRow · [])
      fun s g => { s with pefConfInfo := g }
  | .systemGUID => exportSection data "SystemGUID" (exportRows readSystemGuid · [])
      fun s g => { s with systemGUID := g }
  | .oemParam => exportSection data "OEMParam" (exportRows readOemParam · [])
      fun s g => { s with oemParam := g }
  | .eventFilterTable => exportSection data "EventFilterTable" (exportBuckets readFilterRow 10 3)
      fun s g => { s with eventFilterTable := g }
  | .alertPolicyTable => exportSection data "AlertPolicyTable" (exportBuckets readPolicyRow 15 3)
      fun s g => { s with alertPolicyTable := g }
  | .alertStringTable =>
      exportSection data "AlertStringTable" (exportBuckets readAlertStringRow 10 3)
        fun s g => { s with alertStringTable := g }
  | .destinationSelector =>
      exportSection data "DestinationSelector" (exportRows readDestination · [])
        fun s g => { s with destinationSelector := g }

/-- The load ends with `y` where it ends with `x`, unless `x` is outside a
contract. -/
def Agrees (x : Except Json.Error Unit) (y : Except LoadError Unit) : Prop :=
  x = .error .undefined ∨ x = y.mapError LoadError.erase

theorem agrees_goOn {α : Type} (x : Except Json.Error α) : Agrees x.outcome (goOn x) := by
  rcases x with (id | _) | a
  · exact .inr rfl
  · exact .inl rfl
  · exact .inr rfl

theorem agrees_bind {x : Except Json.Error Unit} {y : Except LoadError Unit}
    {x' : Unit → Except Json.Error Unit} {y' : Unit → Except LoadError Unit}
    (h : Agrees x y) (h' : Agrees (x' ()) (y' ())) : Agrees (x >>= x') (y >>= y') := by
  rcases h with rfl | rfl
  · exact .inl rfl
  · cases y with
    | error e => exact .inr rfl
    | ok u => exact h'

theorem agrees_forM {α : Type} {f : α → Except Json.Error Unit} {g : α → Except LoadError Unit}
    (h : ∀ a, Agrees (f a) (g a)) (as : List α) : Agrees (forM as f) (forM as g) := by
  induction as with
  | nil => exact .inr rfl
  | cons a as ih =>
      rw [List.forM_cons, List.forM_cons]
      exact agrees_bind (h a) ih

theorem agrees_read (e : Json) (k : ConstKey) :
    Agrees (e.subscript k.key >>= k.convert) (k.read e) := by
  have hconvert : ∀ v, Agrees (k.convert v) (goOn (k.convert v)) := by
    intro v
    rcases k.convert v with (id | _) | u
    · exact .inr rfl
    · exact .inl rfl
    · exact .inr rfl
  cases e with
  | obj ms =>
      rw [ConstKey.read, Json.subscript, constSubscript]
      cases ms.lookup k.key with
      | none => exact .inl rfl
      | some v => exact hconvert v
  | _ => exact .inr rfl

theorem agrees_readConstKeys (ks : List ConstKey) (e : Json) :
    Agrees (forM ks fun k => e.subscript k.key >>= k.convert) (readConstKeys ks e) :=
  agrees_forM (agrees_read e) ks

theorem outcome_bind {ε α β : Type} (x : Except ε α) (f : α → Except ε β) :
    (x >>= f).outcome = x >>= fun a => (f a).outcome := by
  cases x <;> rfl

theorem outcome_then {ε α β : Type} (x : Except ε α) (y : Unit → Except ε β) :
    x.outcome >>= y = x >>= fun _ => y () := by
  cases x <;> rfl

theorem agrees_confRow (e : Json) :
    Agrees (readConfRow e).outcome (ConfSection.pefConfInfo.entryEnd e) := by
  have hkeys : (readConfRow e).outcome =
      forM ConfSection.confKeys fun k => e.subscript k.key >>= k.convert := by
    rw [readConfRow, outcome_readCells, ConfSection.confKeys, List.forM_map]
    simp only [readConfCell, outcome_bind]
  rw [hkeys]
  exact agrees_readConstKeys ConfSection.confKeys e

theorem agrees_numbered (stem : String) (n : Nat) (e : Json) :
    Agrees (readNumbered stem n e).outcome
      (readConstKeys (ConfSection.numberedKeys stem n) e) := by
  have hkeys : (readNumbered stem n e).outcome =
      forM (ConfSection.numberedKeys stem n) fun k => e.subscript k.key >>= k.convert := by
    rw [readNumbered, outcome_mapM, ConfSection.numberedKeys, List.forM_map]
    simp only [ConfSection.byteKey, outcome_bind]
  rw [hkeys]
  exact agrees_readConstKeys (ConfSection.numberedKeys stem n) e

theorem agrees_destination (e : Json) :
    Agrees (readDestination e).outcome (ConfSection.destinationSelector.entryEnd e) := by
  have hkeys : (readDestination e).outcome =
      forM ConfSection.destinationKeys fun k => e.subscript k.key >>= k.convert := by
    simp only [readDestination, ConfSection.destinationKeys, ConfSection.byteKey, List.forM_cons,
      List.forM_nil, outcome_bind, outcome_then, bind_assoc]
    rfl
  rw [hkeys]
  exact agrees_readConstKeys ConfSection.destinationKeys e

theorem agrees_filterRow (e : Json) :
    Agrees (readFilterRow e).outcome (ConfSection.eventFilterTable.entryEnd e) := by
  rw [readFilterRow, outcome_readCells]
  exact agrees_forM (fun c => agrees_goOn (readFilterCell e c)) FilterColumn.all

theorem agrees_policyRow (e : Json) :
    Agrees (readPolicyRow e).outcome (ConfSection.alertPolicyTable.entryEnd e) := by
  rw [readPolicyRow, outcome_readCells]
  exact agrees_forM (fun c => agrees_goOn (readPolicyCell e c)) PolicyColumn.all

theorem agrees_alertStringRow (e : Json) :
    Agrees (readAlertStringRow e).outcome (ConfSection.alertStringTable.entryEnd e) := by
  rw [readAlertStringRow, outcome_readCells]
  exact agrees_forM (fun c => agrees_goOn (readAlertStringCell e c)) AlertStringColumn.all

section Sections

variable {α ι : Type} {β : ι → Type} {data : Option Json} {key : String}

theorem exportSection_end {load : List Json → α × Except Json.Error Unit}
    {keep : ManagerState → α → ManagerState} (s : ManagerState) :
    (exportSection data key load keep s).2 =
      sectionOf data key >>= fun entries => (load entries).2 := by
  unfold exportSection
  cases sectionOf data key <;> rfl

theorem agrees_section (σ : ConfSection) (hkey : σ.key = key)
    {load : List Json → α × Except Json.Error Unit} {keep : ManagerState → α → ManagerState}
    (h : ∀ entries, Agrees (load entries).2 (forM entries σ.entryEnd)) (s : ManagerState) :
    Agrees (exportSection data key load keep s).2 (sectionEnd data σ) := by
  rw [exportSection_end, ← hkey, sectionEnd]
  cases sectionOf data σ.key with
  | error e => exact .inr rfl
  | ok entries => exact h entries

theorem agrees_rows (σ : ConfSection) (hkey : σ.key = key)
    {read : Json → Except Json.Error α} {keep : ManagerState → List α → ManagerState}
    (h : ∀ e, Agrees (read e).outcome (σ.entryEnd e)) (s : ManagerState) :
    Agrees (exportSection data key (exportRows read · []) keep s).2 (sectionEnd data σ) := by
  refine agrees_section σ hkey (fun entries => ?_) s
  rw [outcome_exportRows]
  exact agrees_forM h entries

theorem agrees_buckets (σ : ConfSection) (hkey : σ.key = key)
    {read : Json → Except Json.Error (Row β)} {n L : Nat}
    {keep : ManagerState → (Fin (L + 1) → Option (Table β)) → ManagerState} (hn : 0 < n)
    (h : ∀ e, Agrees (read e).outcome (σ.entryEnd e)) (s : ManagerState) :
    Agrees (exportSection data key (exportBuckets read n L) keep s).2 (sectionEnd data σ) := by
  refine agrees_section σ hkey (fun entries => ?_) s
  rw [outcome_exportBuckets hn]
  exact agrees_forM h entries

end Sections

theorem agrees_exportOf (data : Option Json) (σ : ConfSection) (s : ManagerState) :
    Agrees (exportOf data σ s).2 (sectionEnd data σ) := by
  cases σ with
  | pefConfInfo => exact agrees_rows .pefConfInfo rfl agrees_confRow s
  | systemGUID => exact agrees_rows .systemGUID rfl (agrees_numbered "SystemGUID" 16) s
  | oemParam => exact agrees_rows .oemParam rfl (agrees_numbered "OEMParam" 32) s
  | eventFilterTable =>
      exact agrees_buckets .eventFilterTable rfl (by decide) agrees_filterRow s
  | alertPolicyTable =>
      exact agrees_buckets .alertPolicyTable rfl (by decide) agrees_policyRow s
  | alertStringTable =>
      exact agrees_buckets .alertStringTable rfl (by decide) agrees_alertStringRow s
  | destinationSelector => exact agrees_rows .destinationSelector rfl agrees_destination s

/-- The load ends as `loadEnd` says, unless it gets outside a contract; that it
does where `loadEnd` has an absent key. -/
theorem parsePefConfToDbus_outcome (data : Option Json) :
    Agrees (parsePefConfToDbus data).2 (loadEnd data) := by
  have hends : ∀ σ s, (exportOf data σ s).2 = (exportOf data σ ManagerState.initial).2 := by
    intro σ s
    cases σ <;> simp only [exportOf, exportSection_end]
  have hrun : (parsePefConfToDbus data).2 =
      forM ConfSection.all fun σ => (exportOf data σ ManagerState.initial).2 :=
    outcome_inOrder hends ConfSection.all ManagerState.initial
  rw [hrun]
  exact agrees_forM (fun σ => agrees_exportOf data σ _) ConfSection.all

/-! ## When no absent key is read -/

/-- The read of an entry ends without an exception. -/
def ConfSection.EntryReadable : ConfSection → Json → Prop
  | .eventFilterTable, e => ∀ c ∈ FilterColumn.all, ¬ Throws (readFilterCell e c)
  | .alertPolicyTable, e => ∀ c ∈ PolicyColumn.all, ¬ Throws (readPolicyCell e c)
  | .alertStringTable, e => ∀ c ∈ AlertStringColumn.all, ¬ Throws (readAlertStringCell e c)
  | σ, e => ∀ k ∈ σ.constKeys, k.Readable e

/-- No key is missing in an entry behind keys that can be read. -/
def ConfSection.EntrySafe (σ : ConfSection) (e : Json) : Prop :=
  UpToFirst (·.Readable e) (·.Present e) σ.constKeys

def SectionReadable (data : Option Json) (σ : ConfSection) : Prop :=
  ∃ entries, sectionOf data σ.key = .ok entries ∧ ∀ e ∈ entries, σ.EntryReadable e

/-- Every entry behind entries that can be read is safe. -/
def SectionSafe (data : Option Json) (σ : ConfSection) : Prop :=
  ∀ entries, sectionOf data σ.key = .ok entries → UpToFirst σ.EntryReadable σ.EntrySafe entries

/-- Every section behind sections that can be read is safe. -/
def DocumentSafe (data : Option Json) : Prop :=
  UpToFirst (SectionReadable data) (SectionSafe data) ConfSection.all

theorem readConstKeys_eq_ok (ks : List ConstKey) (e : Json) :
    readConstKeys ks e = .ok () ↔ ∀ k ∈ ks, k.Readable e := by
  rw [readConstKeys, forM_eq_ok]
  simp only [ConstKey.read_eq_ok]

theorem forM_goOn_eq_ok {ι : Type} {α : ι → Type} (cs : List ι)
    (f : (c : ι) → Except Json.Error (α c)) :
    forM cs (fun c => goOn (f c)) = .ok () ↔ ∀ c ∈ cs, ¬ Throws (f c) := by
  rw [forM_eq_ok]
  simp only [goOn_eq_ok]

theorem forM_goOn_finds {ι : Type} {α : ι → Type} (cs : List ι)
    (f : (c : ι) → Except Json.Error (α c)) (key : String) :
    forM cs (fun c => goOn (f c)) ≠ .error (.absentKey key) := by
  intro h
  obtain ⟨-, c, -, -, -, hc⟩ := forM_eq_error.mp h
  exact goOn_ne_absentKey (f c) key hc

theorem entryEnd_eq_ok (σ : ConfSection) (e : Json) :
    σ.entryEnd e = .ok () ↔ σ.EntryReadable e := by
  cases σ with
  | eventFilterTable => exact forM_goOn_eq_ok FilterColumn.all (readFilterCell e)
  | alertPolicyTable => exact forM_goOn_eq_ok PolicyColumn.all (readPolicyCell e)
  | alertStringTable => exact forM_goOn_eq_ok AlertStringColumn.all (readAlertStringCell e)
  | _ => exact readConstKeys_eq_ok _ e

theorem upToFirst_nil {α : Type} (p q : α → Prop) : UpToFirst p q [] := by
  intro pre x post h
  exact absurd h.symm (List.append_ne_nil_of_right_ne_nil _ (List.cons_ne_nil _ _))

theorem entryEnd_finds (σ : ConfSection) (e : Json) :
    (∀ key, σ.entryEnd e ≠ .error (.absentKey key)) ↔ σ.EntrySafe e := by
  cases σ with
  | eventFilterTable => exact iff_of_true (forM_goOn_finds _ (readFilterCell e)) (upToFirst_nil _ _)
  | alertPolicyTable => exact iff_of_true (forM_goOn_finds _ (readPolicyCell e)) (upToFirst_nil _ _)
  | alertStringTable =>
      exact iff_of_true (forM_goOn_finds _ (readAlertStringCell e)) (upToFirst_nil _ _)
  | _ => exact forM_avoids (ConstKey.read_eq_ok e) (ConstKey.read_finds e) _

theorem sectionEnd_eq_ok (data : Option Json) (σ : ConfSection) :
    sectionEnd data σ = .ok () ↔ SectionReadable data σ := by
  unfold sectionEnd SectionReadable
  cases sectionOf data σ.key with
  | error e =>
      constructor
      · intro h
        cases h
      · rintro ⟨entries, h, -⟩
        cases h
  | ok entries =>
      show forM entries σ.entryEnd = .ok () ↔ _
      rw [forM_eq_ok]
      simp only [entryEnd_eq_ok]
      constructor
      · exact fun h => ⟨entries, rfl, h⟩
      · rintro ⟨_, h, hread⟩
        cases h
        exact hread

theorem sectionEnd_finds (data : Option Json) (σ : ConfSection) :
    (∀ key, sectionEnd data σ ≠ .error (.absentKey key)) ↔ SectionSafe data σ := by
  unfold sectionEnd SectionSafe
  cases sectionOf data σ.key with
  | error e =>
      constructor
      · intro _ entries h
        cases h
      · intro _ key h
        cases h
  | ok entries =>
      show (∀ key, forM entries σ.entryEnd ≠ .error (.absentKey key)) ↔ _
      rw [forM_avoids (entryEnd_eq_ok σ) (entryEnd_finds σ)]
      constructor
      · intro h _ h'
        cases h'
        exact h
      · exact fun h => h entries rfl

/-- The load ends as `loadEnd` says, and no absent key is read exactly when none
is missing behind what is read without an exception: in an object entry, behind
keys that it has with values that convert, behind entries and behind sections
that are read through. -/
theorem load_finds_keys_iff (data : Option Json) :
    Agrees (parsePefConfToDbus data).2 (loadEnd data) ∧
      ((∀ key, loadEnd data ≠ .error (.absentKey key)) ↔ DocumentSafe data) :=
  ⟨parsePefConfToDbus_outcome data,
    forM_avoids (sectionEnd_eq_ok data) (sectionEnd_finds data) ConfSection.all⟩

/-- A document whose object entries have all their keys is loaded without
reading an absent one, whatever their values are. -/
theorem documentSafe_of_present {data : Option Json}
    (h : ∀ σ entries, sectionOf data (ConfSection.key σ) = .ok entries →
      ∀ e ∈ entries, ∀ k ∈ ConfSection.constKeys σ, k.Present e) : DocumentSafe data := by
  intro _ σ _ _ _ entries hentries pre e post hsplit _ kpre k kpost hkeys _
  refine h σ entries hentries e ?_ k ?_
  · rw [hsplit]
    exact List.mem_append_right _ List.mem_cons_self
  · rw [hkeys]
    exact List.mem_append_right _ List.mem_cons_self

/-! ## The file in the repository -/

/-- The `PEFConfInfo` section of `pef_configurations/pef-alert-manager.json`. -/
def shippedPefConfInfo : Json :=
  .arr [.obj [("PEFControl", .num 1), ("PEFActionGblControl", .num 1), ("PEFStartupDly", .num 0),
    ("PEFAlertStartupDly", .num 0), ("LastBMCProcessedEventID", .num 65535),
    ("LastSWProcessedEventID", .num 65535), ("Subject", .str ""), ("Message", .str "")]]

/-- With that section, whatever the other sections are, the load reads an absent
key: the first one of all. -/
theorem shipped_version_absent {ms : List (String × Json)}
    (h : ms.lookup "PEFConfInfo" = some shippedPefConfInfo) :
    loadEnd (some (.obj ms)) = .error (.absentKey "Version") := by
  refine forM_cons_of_error ?_
  rw [sectionEnd, sectionOf_obj, show ConfSection.key .pefConfInfo = "PEFConfInfo" from rfl, h]
  decide +kernel

theorem shipped_reads_absent_key :
    ¬ ∀ key, loadEnd (some (.obj [("PEFConfInfo", shippedPefConfInfo)])) ≠
      .error (.absentKey key) := by
  intro h
  exact h "Version" (shipped_version_absent rfl)

end Pef
