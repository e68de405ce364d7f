/-
# `Setters` — property Sets on the exported objects

Every property registered by `parsePefConfToDbus` is a validating setter (it
tests the elements of the new value), a default read-write property (it takes
any value of its type) or a read-only one.  None of them looks at the length of
the new array.

    setProperty env s req    the objects after the Set, or `none` when it is rejected

`setProperty_eq_some` says what an accepted Set does, `SetRequest.fits` that its
array has the length of the one it replaces.
-/
import PlatformEventFilter.Config

namespace Pef

/-- What the validating setters ask the rest of the system. -/
structure SetterEnv where
  /-- The numbers in the sensor number map, when there is one. -/
  sensorNumMap : Option (List Int)
  /-- The reply to the `GetChannelInterfaceMap` call made for each element of
  the value, `none` when the call fails. -/
  channelMap : Nat → Option (List (U8 × String))

/-! ## Validation of one element -/

def eventFilterTableMaxEntry : U8 := 40
def filterConfigReservedBits : U8 := 0x1F
def filterConfigReserved1 : U8 := 0x3
def filterConfigReserved2 : U8 := 0x1
def evtFilterActionMaxValue : U8 := 0x7F
def alertPolicyNumMaxValue : U8 := 0x7F
def maxAlertPolicyGroupNum : U8 := 15
def policyActionMaxValue : U8 := 4
def maxDestinationSel : U8 := 15

/-- The codes of `sensorTypes`. -/
def sensorTypeCodes : List U8 :=
  [0x1, 0x2, 0x3, 0x4, 0x07, 0x08, 0x09, 0x10, 0x20, 0x22, 0x23, 0x29, 0xB, 0x0A, 0x28]

def isEthInterfaceName (interfaceName : String) : Bool :=
  "eth".toList.isPrefixOf interfaceName.toList

/-- The tests a filter setter makes on each element; a default read-write
property makes none. -/
def filterElementValid (nums : List Int) : (c : FilterColumn) → c.Cell → Bool
  | .entryIds, x => x ≠ 0x00 && x ≤ eventFilterTableMaxEntry
  | .filterConfig, x =>
      x &&& filterConfigReservedBits = 0 && (x >>> 5) &&& 0x3 ≠ filterConfigReserved1 &&
        (x >>> 5) &&& 0x3 ≠ filterConfigReserved2
  | .evtFilterAction, x => x ≤ evtFilterActionMaxValue
  | .alertPolicyNum, x => x ≤ alertPolicyNumMaxValue
  | .eventSeverity, x => (~~~x + 1) &&& x = x && x ≤ 0x20
  | .sensorType, x => x = 0x00 || x = 0xFF || x ∈ sensorTypeCodes
  | .sensorNum, x => x = 0xFF || (x.toNat : Int) ∈ nums
  | _, _ => true

/-- The `ChannelNo` test: at most 15, in the channel map, and a LAN channel. -/
def channelNoValid (reply : Option (List (U8 × String))) (channelNo : U8) : Bool :=
  channelNo ≤ 15 &&
    match reply with
    | none => false
    | some channelMap => match channelMap.lookup channelNo with
        | none => false
        | some iface => isEthInterfaceName iface

/-- The tests a policy setter makes on element number `i`. -/
def policyElementValid (env : SetterEnv) (i : Nat) : (c : PolicyColumn) → c.Cell → Bool
  | .groupNums, x => x ≠ 0 && x ≤ maxAlertPolicyGroupNum
  | .enableAlerts, x => x ≤ 1
  | .policyActions, x => x ≤ policyActionMaxValue
  | .channelNos, x => channelNoValid (env.channelMap i) x
  | .destinationSels, x => x ≤ maxDestinationSel
  | .eventSpecificStrs, _ => true
  | .alertStingKeys, _ => true

/-! ## Sets -/

/-- A Set of one property. -/
inductive SetRequest where
  | eventFilter (b : Bucket) (c : FilterColumn) (value : List c.Cell)
  | alertPolicy (b : Bucket) (c : PolicyColumn) (value : List c.Cell)
  | pefConfInfo (c : ConfColumn) (value : c.Cell)

/-- The columns of a policy list that are registered read-only. -/
def PolicyColumn.readOnly : PolicyColumn → Bool
  | .eventSpecificStrs => true
  | .alertStingKeys => true
  | _ => false

/-- The setter of a filter column accepts the value. -/
def filterValueValid (env : SetterEnv) (c : FilterColumn) (value : List c.Cell) : Bool :=
  match c, env.sensorNumMap with
  | .sensorNum, none => false
  | c, nums => value.all (filterElementValid (nums.getD []) c)

/-- The setter of a policy column accepts the value. -/
def policyValueValid (env : SetterEnv) (c : PolicyColumn) (value : List c.Cell) : Bool :=
  !c.readOnly && value.zipIdx.all fun p => policyElementValid env p.2 c p.1

/-- The object is there, and the setter of the property accepts the value. -/
def setAccepted (env : SetterEnv) (s : ManagerState) : SetRequest → Bool
  | .eventFilter b c value => (s.eventFilterTable b).isSome && filterValueValid env c value
  | .alertPolicy b c value => (s.alertPolicyTable b).isSome && policyValueValid env c value
  | .pefConfInfo _ _ => !s.pefConfInfo.isEmpty

/-- The column of one object of a table replaced. -/
def setColumn {ι : Type} [DecidableEq ι] {β : ι → Type} (t : Bucket → Option (Table β))
    (b : Bucket) (c : ι) (value : List (β c)) : Bucket → Option (Table β) :=
  Function.update t b ((t b).map fun l => Function.update l c value)

/-- The objects with the property set. -/
def assignProperty (s : ManagerState) : SetRequest → ManagerState
  | .eventFilter b c value =>
      { s with eventFilterTable := setColumn s.eventFilterTable b c value }
  | .alertPolicy b c value =>
      { s with alertPolicyTable := setColumn s.alertPolicyTable b c value }
  | .pefConfInfo c value =>
      { s with pefConfInfo := s.pefConfInfo.map fun r => Function.update r c value }

/-- A Set of one property. -/
def setProperty (env : SetterEnv) (s : ManagerState) (req : SetRequest) : Option ManagerState :=
  if setAccepted env s req then some (assignProperty s req) else none

/-- The array has as many members as the one it replaces. -/
def SetRequest.fits (s : ManagerState) : SetRequest → Bool
  | .eventFilter b c value => (s.eventFilterTable b).all fun l => value.length == (l c).length
  | .alertPolicy b c value => (s.alertPolicyTable b).all fun l => value.length == (l c).length
  | .pefConfInfo .. => true

theorem fits_of_some {τ : Type} {o : Option τ} {f : τ → Nat} {n : Nat}
    (h : (o.all fun l => n == f l) = true) : ∀ l, o = some l → n = f l := by
  rintro l rfl
  exact beq_iff_eq.mp h

theorem setProperty_eq_some {env : SetterEnv} {s s' : ManagerState} {req : SetRequest} :
    setProperty env s req = some s' ↔ setAccepted env s req ∧ s' = assignProperty s req := by
  unfold setProperty
  split
  · next h => exact ⟨fun h' => ⟨h, (Option.some.inj h').symm⟩, fun h' => congrArg some h'.2.symm⟩
  · next h => exact ⟨fun h' => (nomatch h'), fun h' => absurd h'.1 h⟩

theorem setColumn_some {ι : Type} [DecidableEq ι] {β : ι → Type} {t : Bucket → Option (Table β)}
    {b b' : Bucket} {c : ι} {value : List (β c)} {l' : Table β}
    (h : setColumn t b c value b' = some l') :
    ∃ l, t b' = some l ∧ (l' = if b' = b then Function.update l c value else l) := by
  unfold setColumn at h
  rcases eq_or_ne b' b with rfl | hb
  · rw [Function.update_self, Option.map_eq_some_iff] at h
    obtain ⟨l, hl, rfl⟩ := h
    exact ⟨l, hl, (if_pos rfl).symm⟩
  · rw [Function.update_of_ne hb] at h
    exact ⟨l', h, (if_neg hb).symm⟩

end Pef
