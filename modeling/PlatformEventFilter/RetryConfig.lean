/-
# `RetryConfig` — the retry settings, their file and their setters

The settings are four globals.  `main` reads them from a file, one after the
other inside one `try`, and each accepted Set writes all four back.

    field           type       kept at most      converted by
    retryEnable     bool       -                 get<bool>
    retryCount      uint8_t    MAX_RETRY         get<int>, min, narrowing
    timeInterval    uint32_t   MAX_INTERVAL      get<int>, min, narrowing
    alertsLimit     uint8_t    MAX_ALERTS_LIMIT  get<int>, min, narrowing

Nothing bounds an integer of the file from below, and nothing takes an
assignment back when a later field throws.

    retryKept_iff       the settings stay in range in every run exactly when
                        the file at start-up has no such integer
    allOrNothing_iff    which exceptions leave the defaults
-/
import PlatformEventFilter.Lib.Run
import PlatformEventFilter.Lan

namespace Pef

/-! ## The settings -/

abbrev U32 := BitVec 32

def MAX_ALERTS_LIMIT : Nat := 100
def MAX_RETRY : Nat := 10
def MAX_INTERVAL : Nat := 3600

/-- The settings that are numbers. -/
inductive RetryNumber where
  | retryCount
  | timeInterval
  | alertsLimit
  deriving DecidableEq, Repr

/-- The key in the file. -/
def RetryNumber.key : RetryNumber → String
  | retryCount => "retryCount"
  | timeInterval => "timeInterval"
  | alertsLimit => "alertsLimit"

@[reducible] def RetryNumber.width : RetryNumber → Nat
  | retryCount => 8
  | timeInterval => 32
  | alertsLimit => 8

def RetryNumber.max : RetryNumber → Nat
  | retryCount => MAX_RETRY
  | timeInterval => MAX_INTERVAL
  | alertsLimit => MAX_ALERTS_LIMIT

/-- The globals. -/
structure RetryConfig where
  retryEnable : Bool
  retryCount : U8
  timeInterval : U32
  alertsLimit : U8
  deriving DecidableEq, Repr

namespace RetryConfig

/-- What the globals are initialised with. -/
def default : RetryConfig := ⟨false, 0, 0, 0⟩

def number (s : RetryConfig) : (f : RetryNumber) → BitVec f.width
  | .retryCount => s.retryCount
  | .timeInterval => s.timeInterval
  | .alertsLimit => s.alertsLimit

def assign (s : RetryConfig) : (f : RetryNumber) → BitVec f.width → RetryConfig
  | .retryCount, x => { s with retryCount := x }
  | .timeInterval, x => { s with timeInterval := x }
  | .alertsLimit, x => { s with alertsLimit := x }

/-- Each number is at most its maximum. -/
def InRange (s : RetryConfig) : Prop := ∀ f, (s.number f).toNat ≤ f.max

@[simp] theorem number_assign_self (s : RetryConfig) (f : RetryNumber) (x : BitVec f.width) :
    (s.assign f x).number f = x := by
  cases f <;> rfl

theorem number_assign_ne (s : RetryConfig) {f g : RetryNumber} (h : g ≠ f)
    (x : BitVec f.width) : (s.assign f x).number g = s.number g := by
  cases f <;> cases g <;> first | rfl | exact absurd rfl h

theorem inRange_default : InRange default := by
  intro f
  cases f <;> exact Nat.zero_le _

theorem InRange.assign {s : RetryConfig} (h : InRange s) {f : RetryNumber} {x : BitVec f.width}
    (hx : x.toNat ≤ f.max) : InRange (s.assign f x) := by
  intro g
  by_cases hg : g = f
  · subst hg
    rw [number_assign_self]
    exact hx
  · rw [number_assign_ne s hg]
    exact h g

end RetryConfig

/-! ## Reading the file -/

/-- What is at `retryConfigFile`: nothing that opens, no JSON, or a document. -/
inductive RetryFile where
  | absent
  | malformed
  | document (config : Json)

/-- `config.value("retryEnable", false)` -/
def enableAt (config : Json) : Except Json.Error Bool := config.value "retryEnable" getBool false

/-- `config.value(key, 0)` -/
def intAt (config : Json) (f : RetryNumber) : Except Json.Error Int :=
  config.value f.key Json.getInt 0

/-- Its minimum with the bound, narrowed. -/
def clamped (f : RetryNumber) (x : Int) : BitVec f.width := BitVec.ofInt f.width (min x f.max)

def readNumber (config : Json) (f : RetryNumber) : Except Json.Error (BitVec f.width) :=
  (intAt config f).map (clamped f)

/-- The four assignments: the globals as far as they got, and how that ended. -/
def readRetryConfig (config : Json) (s : RetryConfig) : RetryConfig × Except Json.Error Unit :=
  match enableAt config with
  | .error e => (s, .error e)
  | .ok retryEnable =>
      let s := { s with retryEnable := retryEnable }
      match readNumber config .retryCount with
      | .error e => (s, .error e)
      | .ok retryCount =>
          let s := s.assign .retryCount retryCount
          match readNumber config .timeInterval with
          | .error e => (s, .error e)
          | .ok timeInterval =>
              let s := s.assign .timeInterval timeInterval
              match readNumber config .alertsLimit with
              | .error e => (s, .error e)
              | .ok alertsLimit => (s.assign .alertsLimit alertsLimit, .ok ())

/-- The globals `main` starts with; none when a floating-point number is
converted to an int that cannot hold it, which the language leaves undefined. -/
def loadRetryConfig : RetryFile → Option RetryConfig
  | .absent => some .default
  | .malformed => some .default
  | .document config =>
      match readRetryConfig config .default with
      | (s, .ok ()) => some s
      -- "Failed to parse retry config, using defaults"
      | (s, .error (.typeError _)) => some s
      | (_, .error .undefined) => none

/-! ## The service -/

/-- The globals, the properties of the interface, and the file. -/
structure RetryService where
  globals : RetryConfig
  properties : RetryConfig
  file : RetryFile

/-- The document `saveConfig` writes. -/
def saveConfig (s : RetryConfig) : Json :=
  .obj [("alertsLimit", .num s.alertsLimit.toNat), ("retryCount", .num s.retryCount.toNat),
    ("retryEnable", .bool s.retryEnable), ("timeInterval", .num s.timeInterval.toNat)]

inductive Errno where
  | EPERM
  | EINVAL
  deriving DecidableEq, Repr

structure SdBusError where
  error : Errno
  what : String
  deriving DecidableEq, Repr

/-- The texts of the two exceptions of a setter. -/
def RetryNumber.notEnabled : RetryNumber → String
  | retryCount => "retryEnable must be true before setting retryCount"
  | timeInterval => "retryEnable must be true before setting timeInterval"
  | alertsLimit => "retryEnable must be true before setting alertsLimit"

def RetryNumber.exceeds : RetryNumber → String
  | retryCount => "retryCount exceeds MAX_RETRY"
  | timeInterval => "timeInterval exceeds MAX_INTERVAL"
  | alertsLimit => "alertsLimit exceeds MAX_ALERTS_LIMIT"

namespace RetryService

/-- The setter of `retryEnable`. -/
def setRetryEnable (s : RetryService) (newVal : Bool) : RetryService × Except SdBusError Bool :=
  let properties := { s.properties with retryEnable := newVal }
  let globals := { s.globals with retryEnable := newVal }
  (⟨globals, properties, .document (saveConfig globals)⟩, .ok true)

/-- The setter of a number. -/
def setNumber (s : RetryService) (f : RetryNumber) (newVal : BitVec f.width) :
    RetryService × Except SdBusError Bool :=
  if !s.globals.retryEnable then (s, .error ⟨.EPERM, f.notEnabled⟩)
  else if newVal.toNat > f.max then (s, .error ⟨.EINVAL, f.exceeds⟩)
  else
    let properties := s.properties.assign f newVal
    let globals := s.globals.assign f newVal
    (⟨globals, properties, .document (saveConfig globals)⟩, .ok true)

def setRetryCount (s : RetryService) (newVal : U8) : RetryService × Except SdBusError Bool :=
  s.setNumber .retryCount newVal

def setTimeInterval (s : RetryService) (newVal : U32) : RetryService × Except SdBusError Bool :=
  s.setNumber .timeInterval newVal

def setAlertsLimit (s : RetryService) (newVal : U8) : RetryService × Except SdBusError Bool :=
  s.setNumber .alertsLimit newVal

end RetryService

/-- The service after `main` has set it up. -/
def startRetryService (file : RetryFile) : Option RetryService :=
  (loadRetryConfig file).map fun globals => ⟨globals, globals, file⟩

inductive RetryEvent where
  | setRetryEnable (newVal : Bool)
  | setRetryCount (newVal : U8)
  | setTimeInterval (newVal : U32)
  | setAlertsLimit (newVal : U8)
  | restart
  deriving DecidableEq

/-- What a Set makes of the service, and its answer. -/
def RetryService.set (s : RetryService) :
    RetryEvent → Option (RetryService × Except SdBusError Bool)
  | .setRetryEnable newVal => some (s.setRetryEnable newVal)
  | .setRetryCount newVal => some (s.setRetryCount newVal)
  | .setTimeInterval newVal => some (s.setTimeInterval newVal)
  | .setAlertsLimit newVal => some (s.setAlertsLimit newVal)
  | .restart => none

def retryStep (s : RetryService) (e : RetryEvent) : Option RetryService :=
  match s.set e with
  | some (s', _) => some s'
  | none => startRetryService s.file

/-! ## What is loaded -/

/-- The numbers read before this one. -/
def RetryNumber.before : RetryNumber → List RetryNumber
  | retryCount => []
  | timeInterval => [retryCount]
  | alertsLimit => [retryCount, timeInterval]

/-- The integer the document has for a number, if all that is read before it
can be read. -/
def loadedInt (config : Json) (f : RetryNumber) : Option Int :=
  if (enableAt config).isOk ∧ ∀ g ∈ f.before, (intAt config g).isOk then (intAt config f).toOption
  else none

theorem number_readRetryConfig (config : Json) (s : RetryConfig) (f : RetryNumber) :
    (readRetryConfig config s).1.number f =
      match loadedInt config f with
      | none => s.number f
      | some x => clamped f x := by
  unfold readRetryConfig readNumber loadedInt
  cases enableAt config with
  | error e => cases f <;> rfl
  | ok retryEnable =>
      cases hcount : intAt config .retryCount with
      | error e => cases f <;> simp [RetryNumber.before, hcount] <;> rfl
      | ok retryCount =>
          cases htime : intAt config .timeInterval with
          | error e => cases f <;> simp [RetryNumber.before, hcount, htime] <;> rfl
          | ok timeInterval =>
              cases hlimit : intAt config .alertsLimit with
              | error e => cases f <;> simp [RetryNumber.before, hcount, htime, hlimit] <;> rfl
              | ok alertsLimit =>
                  cases f <;> simp [RetryNumber.before, hcount, htime, hlimit] <;> rfl

theorem retryEnable_readRetryConfig (config : Json) (s : RetryConfig) :
    (readRetryConfig config s).1.retryEnable =
      match enableAt config with
      | .error _ => s.retryEnable
      | .ok retryEnable => retryEnable := by
  unfold readRetryConfig
  cases enableAt config with
  | error e => rfl
  | ok retryEnable =>
      dsimp only
      cases readNumber config .retryCount with
      | error e => rfl
      | ok retryCount =>
          dsimp only
          cases readNumber config .timeInterval with
          | error e => rfl
          | ok timeInterval =>
              dsimp only
              cases readNumber config .alertsLimit <;> rfl

/-- A number is loaded in range when it is not negative, or when what is left of
it after narrowing happens to be. -/
theorem toNat_clamped_le_iff (f : RetryNumber) (x : Int) :
    (clamped f x).toNat ≤ f.max ↔ 0 ≤ x ∨ x % 2 ^ f.width ≤ f.max := by
  rw [clamped, BitVec.toNat_ofInt]
  cases f <;>
    simp only [RetryNumber.width, RetryNumber.max, MAX_RETRY, MAX_INTERVAL, MAX_ALERTS_LIMIT] <;>
    omega

theorem clamped_eq_zero_iff (f : RetryNumber) (x : Int) :
    clamped f x = 0 ↔ x ≤ 0 ∧ x % 2 ^ f.width = 0 := by
  rw [← BitVec.toNat_inj, clamped, BitVec.toNat_ofInt]
  cases f <;>
    simp only [RetryNumber.width, RetryNumber.max, MAX_RETRY, MAX_INTERVAL, MAX_ALERTS_LIMIT,
      BitVec.ofNat_eq_ofNat, BitVec.toNat_ofNat] <;>
    omega

theorem loadRetryConfig_document {config : Json} {s : RetryConfig}
    (h : loadRetryConfig (.document config) = some s) :
    s = (readRetryConfig config .default).1 ∧
      (readRetryConfig config .default).2 ≠ .error .undefined := by
  rw [loadRetryConfig] at h
  generalize readRetryConfig config .default = loaded at h ⊢
  obtain ⟨s', e | ⟨⟨⟩⟩⟩ := loaded
  · cases e with
    | typeError id =>
        cases h
        exact ⟨rfl, by simp⟩
    | undefined => cases h
  · cases h
    exact ⟨rfl, by simp⟩

/-! ## Staying in range -/

/-- Each integer loaded from the file is nonnegative, or fits after narrowing. -/
def LoadsInRange (file : RetryFile) : Prop :=
  ∀ config, file = .document config → ∀ f x, loadedInt config f = some x →
    0 ≤ x ∨ x % 2 ^ f.width ≤ f.max

theorem inRange_loadRetryConfig_iff {file : RetryFile} {s : RetryConfig}
    (h : loadRetryConfig file = some s) : s.InRange ↔ LoadsInRange file := by
  have hdefault : (∀ config, file ≠ .document config) → s = .default →
      (s.InRange ↔ LoadsInRange file) := by
    rintro hnone rfl
    exact iff_of_true RetryConfig.inRange_default fun config hfile => absurd hfile (hnone config)
  cases file with
  | absent => exact hdefault (fun _ hfile => nomatch hfile) (Option.some.inj h).symm
  | malformed => exact hdefault (fun _ hfile => nomatch hfile) (Option.some.inj h).symm
  | document config =>
      obtain ⟨rfl, -⟩ := loadRetryConfig_document h
      constructor
      · rintro hrange _ ⟨⟩ f x hx
        have hf := hrange f
        rw [number_readRetryConfig, hx] at hf
        exact (toNat_clamped_le_iff f x).mp hf
      · intro hloads f
        rw [number_readRetryConfig]
        cases hx : loadedInt config f with
        | none => exact RetryConfig.inRange_default f
        | some x => exact (toNat_clamped_le_iff f x).mpr (hloads config rfl f x hx)

theorem enableAt_saveConfig (s : RetryConfig) : enableAt (saveConfig s) = .ok s.retryEnable := rfl

theorem value_saveConfig (s : RetryConfig) (f : RetryNumber) :
    intAt (saveConfig s) f = Json.getInt (.num (s.number f).toNat) := by
  cases f <;> rfl

theorem readNumber_saveConfig {s : RetryConfig} {f : RetryNumber}
    (h : (s.number f).toNat ≤ f.max) : readNumber (saveConfig s) f = .ok (s.number f) := by
  have hmax : f.max ≤ 3600 := by cases f <;> decide
  have hint : intAt (saveConfig s) f = .ok ((s.number f).toNat : Int) := by
    rw [value_saveConfig, Json.getInt, Int.bmod_eq_of_le (by omega) (by omega)]
  have hmin : min ((s.number f).toNat : Int) f.max = (s.number f).toNat :=
    Int.min_eq_left (Int.ofNat_le.mpr h)
  rw [readNumber, hint, Except.map, clamped, hmin, BitVec.ofInt_natCast, BitVec.ofNat_toNat,
    BitVec.setWidth_eq]

theorem loadRetryConfig_saveConfig {s : RetryConfig} (h : s.InRange) :
    loadRetryConfig (.document (saveConfig s)) = some s := by
  have hread : readRetryConfig (saveConfig s) .default = (s, .ok ()) := by
    simp only [readRetryConfig, enableAt_saveConfig, readNumber_saveConfig (h _)]
    rfl
  rw [loadRetryConfig, hread]

/-! ## Sets and restarts -/

/-- The Set is refused. -/
def Rejected (s : RetryService) (e : RetryEvent) : Prop :=
  ∃ s' err, s.set e = some (s', .error err)

/-- The Set is accepted, and with that saved. -/
def Accepted (s : RetryService) (e : RetryEvent) : Prop :=
  ∃ s' changed, s.set e = some (s', .ok changed)

theorem setNumber_cases (s : RetryService) (f : RetryNumber) (newVal : BitVec f.width) :
    (∃ err, s.setNumber f newVal = (s, .error err)) ∨
    (s.globals.retryEnable = true ∧ newVal.toNat ≤ f.max ∧
      s.setNumber f newVal = (⟨s.globals.assign f newVal, s.properties.assign f newVal,
        .document (saveConfig (s.globals.assign f newVal))⟩, .ok true)) := by
  rw [RetryService.setNumber]
  split
  · exact .inl ⟨_, rfl⟩
  · next henable =>
      split
      · exact .inl ⟨_, rfl⟩
      · next hle => exact .inr ⟨by simpa using henable, Nat.not_lt.mp hle, rfl⟩

theorem retryStep_cases {s s' : RetryService} {e : RetryEvent} (h : retryStep s e = some s') :
    (e = .restart ∧ startRetryService s.file = some s') ∨
    (Rejected s e ∧ ¬Accepted s e ∧ s' = s) ∨
    (∃ newVal, e = .setRetryEnable newVal ∧ s' = (s.setRetryEnable newVal).1) ∨
    (∃ f newVal, ¬Rejected s e ∧ s.globals.retryEnable = true ∧ newVal.toNat ≤ f.max ∧
      s' = ⟨s.globals.assign f newVal, s.properties.assign f newVal,
        .document (saveConfig (s.globals.assign f newVal))⟩) := by
  have hnumber : ∀ f newVal, s.set e = some (s.setNumber f newVal) →
      (Rejected s e ∧ ¬Accepted s e ∧ s' = s) ∨
      (∃ f newVal, ¬Rejected s e ∧ s.globals.retryEnable = true ∧ newVal.toNat ≤ f.max ∧
        s' = ⟨s.globals.assign f newVal, s.properties.assign f newVal,
          .document (saveConfig (s.globals.assign f newVal))⟩) := by
    intro f newVal hset
    rcases setNumber_cases s f newVal with ⟨err, heq⟩ | ⟨henable, hle, heq⟩
    · rw [heq] at hset
      rw [retryStep, hset] at h
      cases h
      refine .inl ⟨⟨s, err, hset⟩, ?_, rfl⟩
      rintro ⟨_, _, hok⟩
      rw [hset] at hok
      cases hok
    · rw [heq] at hset
      rw [retryStep, hset] at h
      cases h
      refine .inr ⟨f, newVal, ?_, henable, hle, rfl⟩
      rintro ⟨_, _, herr⟩
      rw [hset] at herr
      cases herr
  cases e with
  | restart => exact .inl ⟨rfl, h⟩
  | setRetryEnable newVal =>
      cases h
      exact .inr (.inr (.inl ⟨newVal, rfl, rfl⟩))
  | setRetryCount newVal => exact .inr ((hnumber .retryCount newVal rfl).imp_right .inr)
  | setTimeInterval newVal => exact .inr ((hnumber .timeInterval newVal rfl).imp_right .inr)
  | setAlertsLimit newVal => exact .inr ((hnumber .alertsLimit newVal rfl).imp_right .inr)

/-- The service as it should be: in range, and with a file that is the one it
started with or what it saved. -/
structure RetryInvariant (file : RetryFile) (s : RetryService) : Prop where
  inRange : s.globals.InRange
  shown : s.properties = s.globals
  file : s.file = file ∨ s.file = .document (saveConfig s.globals)

theorem RetryInvariant.step {file : RetryFile} {s s' : RetryService} {e : RetryEvent}
    (hloads : LoadsInRange file) (hs : RetryInvariant file s) (h : retryStep s e = some s') :
    RetryInvariant file s' := by
  rcases retryStep_cases h with
    ⟨rfl, hstart⟩ | ⟨-, -, rfl⟩ | ⟨newVal, rfl, rfl⟩ | ⟨f, newVal, -, -, hle, rfl⟩
  · obtain ⟨globals, hload, rfl⟩ := Option.map_eq_some_iff.mp hstart
    rcases hs.file with hfile | hfile
    · rw [hfile] at hload ⊢
      exact ⟨(inRange_loadRetryConfig_iff hload).mpr hloads, rfl, .inl rfl⟩
    · rw [hfile, loadRetryConfig_saveConfig hs.inRange] at hload
      cases hload
      exact ⟨hs.inRange, rfl, .inr hfile⟩
  · exact hs
  · exact ⟨hs.inRange, congrArg (fun s => { s with retryEnable := newVal }) hs.shown, .inr rfl⟩
  · exact ⟨hs.inRange.assign hle, congrArg (·.assign f newVal) hs.shown, .inr rfl⟩

theorem saved_step {s s' : RetryService} {e : RetryEvent} (hrange : s.globals.InRange)
    (hs : s.file = .document (saveConfig s.globals)) (h : retryStep s e = some s') :
    s'.file = .document (saveConfig s'.globals) := by
  rcases retryStep_cases h with
    ⟨rfl, hstart⟩ | ⟨-, -, rfl⟩ | ⟨newVal, rfl, rfl⟩ | ⟨f, newVal, -, -, -, rfl⟩
  · obtain ⟨globals, hload, rfl⟩ := Option.map_eq_some_iff.mp hstart
    rw [hs, loadRetryConfig_saveConfig hrange] at hload
    cases hload
    exact hs
  · exact hs
  · rfl
  · rfl

/-- What is wanted of the runs of a service. -/
structure RetryKept (s₀ : RetryService) : Prop where
  inRange : ∀ es s, Reached retryStep s₀ es s → s.globals.InRange ∧ s.properties = s.globals
  enabled : ∀ es s e s', Occurs retryStep s₀ es s e s' → e ≠ .restart →
    (∃ f, s'.globals.number f ≠ s.globals.number f) → s.globals.retryEnable = true
  rejected : ∀ es s e s', Occurs retryStep s₀ es s e s' → Rejected s e → s' = s
  restart : ∀ es s t e t', runFrom retryStep s₀ es = some s → Occurs retryStep s₀ es t e t' →
    Accepted t e → ∃ s', retryStep s .restart = some s' ∧ s'.globals = s.globals

theorem accepted_step {s s' : RetryService} {e : RetryEvent} (ha : Accepted s e)
    (h : retryStep s e = some s') : s'.file = .document (saveConfig s'.globals) := by
  rcases retryStep_cases h with
    ⟨rfl, -⟩ | ⟨-, hnot, -⟩ | ⟨newVal, rfl, rfl⟩ | ⟨f, newVal, -, -, -, rfl⟩
  · obtain ⟨_, _, hset⟩ := ha
    cases hset
  · exact absurd ha hnot
  · rfl
  · rfl

/-- The settings stay in range, are changed while enabled only and survive a
restart, in every run, exactly when what the file holds at start-up is loaded in
range. -/
theorem retryKept_iff {file : RetryFile} {s₀ : RetryService}
    (h : startRetryService file = some s₀) : RetryKept s₀ ↔ LoadsInRange file := by
  obtain ⟨globals, hload, rfl⟩ := Option.map_eq_some_iff.mp h
  have hfirst := inRange_loadRetryConfig_iff hload
  constructor
  · intro hkept
    exact hfirst.mp (hkept.inRange [] _ (Reached.refl _ _)).1
  · intro hloads
    have hinit : RetryInvariant file ⟨globals, globals, file⟩ :=
      ⟨hfirst.mpr hloads, rfl, .inl rfl⟩
    have hreached : ∀ {es s}, Reached retryStep ⟨globals, globals, file⟩ es s →
        RetryInvariant file s := fun hr =>
      Reached.induct hinit (fun _ _ _ ho hs => hs.step hloads ho.taken) hr
    refine ⟨?_, ?_, ?_, ?_⟩
    · intro es s hr
      exact ⟨(hreached hr).inRange, (hreached hr).shown⟩
    · rintro es s e s' ⟨-, -, -, -, hstep⟩ hset ⟨f, hf⟩
      rcases retryStep_cases hstep with
        ⟨rfl, -⟩ | ⟨-, -, rfl⟩ | ⟨newVal, rfl, rfl⟩ | ⟨_, _, -, henable, -⟩
      · exact absurd rfl hset
      · exact absurd rfl hf
      · exact absurd (by cases f <;> rfl) hf
      · exact henable
    · rintro es s e s' ⟨-, -, -, -, hstep⟩ hrejected
      rcases retryStep_cases hstep with
        ⟨rfl, -⟩ | ⟨-, -, rfl⟩ | ⟨newVal, rfl, -⟩ | ⟨_, _, hnot, -⟩
      · obtain ⟨_, _, hset⟩ := hrejected
        cases hset
      · rfl
      · obtain ⟨_, _, hset⟩ := hrejected
        cases hset
      · exact absurd hrejected hnot
    · intro es s t e t' hrun hoccurs haccepted
      have hsaved : s.file = .document (saveConfig s.globals) := by
        refine Occurs.since (P := fun s => s.file = .document (saveConfig s.globals)) hoccurs
          (accepted_step haccepted hoccurs.taken) ?_ hrun
        intro s e s' ho hs
        exact saved_step (hreached ho.reached).inRange hs ho.taken
      have hloaded := loadRetryConfig_saveConfig (hreached (Reached.last hrun)).inRange
      refine ⟨⟨s.globals, s.globals, s.file⟩, ?_, rfl⟩
      show startRetryService s.file = _
      rw [startRetryService, hsaved, hloaded]
      rfl

/-- A file with a number of retries and nothing else. -/
def retryCountFile (n : Int) : RetryFile := .document (.obj [("retryCount", .num n)])

theorem load_three : loadRetryConfig (retryCountFile 3) = some ⟨false, 3, 0, 0⟩ := by
  decide +kernel

theorem load_negative : loadRetryConfig (retryCountFile (-1)) = some ⟨false, 255, 0, 0⟩ := by
  decide +kernel

theorem three_retries_kept :
    RetryKept ⟨⟨false, 3, 0, 0⟩, ⟨false, 3, 0, 0⟩, retryCountFile 3⟩ ↔
      LoadsInRange (retryCountFile 3) :=
  retryKept_iff (by rw [startRetryService, load_three]; rfl)

/-- A negative number of retries is loaded as 255. -/
theorem negative_retries_out_of_range :
    ∃ s₀, startRetryService (retryCountFile (-1)) = some s₀ ∧ ¬RetryKept s₀ := by
  refine ⟨⟨⟨false, 255, 0, 0⟩, ⟨false, 255, 0, 0⟩, retryCountFile (-1)⟩, ?_, fun hkept => ?_⟩
  · rw [startRetryService, load_negative]
    rfl
  · have hle := (hkept.inRange [] _ (Reached.refl _ _)).1 .retryCount
    exact absurd hle (by decide)

/-! ## All or nothing -/

/-- Reading the file raises a JSON exception. -/
def Raises : RetryFile → Prop
  | .absent => False
  | .malformed => True
  | .document config => ∃ id, (readRetryConfig config .default).2 = .error (.typeError id)

/-- All four settings are those of the document. -/
structure TakenFrom (config : Json) (s : RetryConfig) : Prop where
  retryEnable : enableAt config = .ok s.retryEnable
  number : ∀ f, readNumber config f = .ok (s.number f)

/-- An exception leaves the defaults, and without one the file is taken. -/
structure AllOrNothing (file : RetryFile) (s : RetryConfig) : Prop where
  raised : Raises file → s = .default
  taken : ∀ config, file = .document config → ¬Raises file → TakenFrom config s

/-- Every field is absent or has a type that converts. -/
structure FieldsConvert (config : Json) : Prop where
  retryEnable : ∃ retryEnable, enableAt config = .ok retryEnable
  number : ∀ f, ∃ x, intAt config f = .ok x

/-- All that is loaded before a field of the wrong type equals the default. -/
structure LoadsDefaults (config : Json) : Prop where
  retryEnable : ∀ retryEnable, enableAt config = .ok retryEnable → retryEnable = false
  number : ∀ f x, loadedInt config f = some x → x ≤ 0 ∧ x % 2 ^ f.width = 0

theorem RetryConfig.eq_default_iff (s : RetryConfig) :
    s = .default ↔ s.retryEnable = false ∧ ∀ f, s.number f = 0 := by
  obtain ⟨retryEnable, retryCount, timeInterval, alertsLimit⟩ := s
  constructor
  · rintro ⟨⟩
    exact ⟨rfl, fun f => by cases f <;> rfl⟩
  · rintro ⟨henable, hnumber⟩
    cases henable
    cases hnumber .retryCount
    cases hnumber .timeInterval
    cases hnumber .alertsLimit
    rfl

theorem readRetryConfig_eq_default_iff (config : Json) :
    (readRetryConfig config .default).1 = .default ↔ LoadsDefaults config := by
  rw [RetryConfig.eq_default_iff, retryEnable_readRetryConfig]
  constructor
  · rintro ⟨henable, hnumber⟩
    refine ⟨fun retryEnable h => ?_, fun f x hx => ?_⟩
    · rw [h] at henable
      exact henable
    · have hf := hnumber f
      rw [number_readRetryConfig, hx] at hf
      exact (clamped_eq_zero_iff f x).mp hf
  · rintro ⟨henable, hnumber⟩
    refine ⟨?_, fun f => ?_⟩
    · cases h : enableAt config with
      | error e => rfl
      | ok retryEnable => exact henable retryEnable h
    · rw [number_readRetryConfig]
      cases hx : loadedInt config f with
      | none => cases f <;> rfl
      | some x => exact (clamped_eq_zero_iff f x).mpr (hnumber f x hx)

theorem not_fieldsConvert_of_error {config : Json} {f : RetryNumber} {e : Json.Error}
    (h : intAt config f = .error e) : ¬FieldsConvert config := by
  intro hconvert
  obtain ⟨x, hx⟩ := hconvert.number f
  rw [h] at hx
  cases hx

theorem readRetryConfig_ok_iff (config : Json) (s : RetryConfig) :
    (readRetryConfig config s).2 = .ok () ↔ FieldsConvert config := by
  have hthrown : ∀ e : Json.Error, (Except.error e : Except Json.Error Unit) ≠ .ok () := by
    intro e h
    cases h
  unfold readRetryConfig readNumber
  cases henable : enableAt config with
  | error e =>
      refine iff_of_false (hthrown e) fun hconvert => ?_
      obtain ⟨_, h⟩ := hconvert.retryEnable
      rw [henable] at h
      cases h
  | ok retryEnable =>
      cases hcount : intAt config .retryCount with
      | error e => exact iff_of_false (hthrown e) (not_fieldsConvert_of_error hcount)
      | ok retryCount =>
          cases htime : intAt config .timeInterval with
          | error e => exact iff_of_false (hthrown e) (not_fieldsConvert_of_error htime)
          | ok timeInterval =>
              cases hlimit : intAt config .alertsLimit with
              | error e => exact iff_of_false (hthrown e) (not_fieldsConvert_of_error hlimit)
              | ok alertsLimit =>
                  refine iff_of_true rfl ⟨⟨retryEnable, henable⟩, fun f => ?_⟩
                  cases f with
                  | retryCount => exact ⟨retryCount, hcount⟩
                  | timeInterval => exact ⟨timeInterval, htime⟩
                  | alertsLimit => exact ⟨alertsLimit, hlimit⟩

theorem FieldsConvert.takenFrom {config : Json} (h : FieldsConvert config) :
    TakenFrom config (readRetryConfig config .default).1 where
  retryEnable := by
    obtain ⟨retryEnable, henable⟩ := h.retryEnable
    rw [retryEnable_readRetryConfig, henable]
  number f := by
    obtain ⟨_, henable⟩ := h.retryEnable
    obtain ⟨x, hx⟩ := h.number f
    have hread : (enableAt config).isOk ∧ ∀ g ∈ f.before, (intAt config g).isOk := by
      refine ⟨by rw [henable]; rfl, fun g _ => ?_⟩
      obtain ⟨y, hy⟩ := h.number g
      rw [hy]
      rfl
    have hloaded : loadedInt config f = some x := by
      rw [loadedInt, if_pos hread, hx]
      rfl
    rw [number_readRetryConfig, hloaded, readNumber, hx]
    rfl

/-- The load is all or nothing exactly when every field has a type that
converts, or nothing but defaults is loaded before the first that has not. -/
theorem allOrNothing_iff {file : RetryFile} {s : RetryConfig} (h : loadRetryConfig file = some s) :
    AllOrNothing file s ↔
      ∀ config, file = .document config → FieldsConvert config ∨ LoadsDefaults config := by
  have hdefault : (∀ config, file ≠ .document config) → s = .default →
      (AllOrNothing file s ↔
        ∀ config, file = .document config → FieldsConvert config ∨ LoadsDefaults config) := by
    intro hnone hs
    exact iff_of_true ⟨fun _ => hs, fun config hfile => absurd hfile (hnone config)⟩
      fun config hfile => absurd hfile (hnone config)
  cases file with
  | absent => exact hdefault (fun _ hfile => nomatch hfile) (Option.some.inj h).symm
  | malformed => exact hdefault (fun _ hfile => nomatch hfile) (Option.some.inj h).symm
  | document config =>
      obtain ⟨rfl, hdefined⟩ := loadRetryConfig_document h
      have hraises : Raises (.document config) ↔ ¬FieldsConvert config := by
        rw [← readRetryConfig_ok_iff config .default, Raises]
        generalize (readRetryConfig config .default).2 = outcome at hdefined
        cases outcome with
        | ok u => simp
        | error e =>
            cases e with
            | typeError id => simp
            | undefined => exact absurd rfl hdefined
      constructor
      · rintro hload _ ⟨⟩
        by_cases hconvert : FieldsConvert config
        · exact .inl hconvert
        · have hdefault := hload.raised (hraises.mpr hconvert)
          exact .inr ((readRetryConfig_eq_default_iff config).mp hdefault)
      · intro hwhen
        refine ⟨fun hraised => ?_, ?_⟩
        · exact (readRetryConfig_eq_default_iff config).mpr
            ((hwhen config rfl).resolve_left (hraises.mp hraised))
        · rintro _ ⟨⟩ hnot
          have hconvert : FieldsConvert config := by
            by_contra hill
            exact hnot (hraises.mpr hill)
          exact hconvert.takenFrom

/-- Retries are enabled, and their number is a string. -/
def halfReadable : Json := .obj [("retryCount", .str "x"), ("retryEnable", .bool true)]

theorem load_halfReadable :
    loadRetryConfig (.document halfReadable) = some ⟨true, 0, 0, 0⟩ := by
  decide +kernel

theorem three_retries_taken :
    AllOrNothing (retryCountFile 3) ⟨false, 3, 0, 0⟩ ↔
      ∀ config, retryCountFile 3 = .document config → FieldsConvert config ∨ LoadsDefaults config :=
  allOrNothing_iff load_three

/-- The wrong type of the number is reported, and retries stay enabled. -/
theorem half_read_config :
    ∃ s, loadRetryConfig (.document halfReadable) = some s ∧
      ¬AllOrNothing (.document halfReadable) s := by
  refine ⟨⟨true, 0, 0, 0⟩, load_halfReadable, fun hload => ?_⟩
  have hraises : Raises (.document halfReadable) := ⟨302, by decide +kernel⟩
  have heq := hload.raised hraises
  cases heq

end Pef
