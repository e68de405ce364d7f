/-
# `LanSetters` — Sets on a LAN interface object, and users against types

Every property of an `Interface_<name>` object but `NumberofDestinations` has a
validating setter.  The `userName` setter compares each name with the type at
its index, for which it holds a copy of `Type` (`sharedTypes`) that the `Type`
setter keeps up to date.  The `Type` setter itself compares with nothing.

    setLanProperty env o req   the object after the Set, `none` when rejected
    Good db o                  every user may receive what its type sends
    TypesFit db o value        the types that change fit the users they meet

`good_iff_typesFit`: a run of Sets from a good object keeps to good objects
exactly when each Set of `Type` in it fits.
-/
import PlatformEventFilter.Alert
import PlatformEventFilter.Lan
import PlatformEventFilter.Lib.Run

namespace Pef

def communityStringMaxLength : Nat := 18
def retriesMaxValue : U8 := 7
def destinationTypeVersion3 : U8 := 2
def destinationTypeSMTP : U8 := 3
def destinationTypeOem1 : U8 := 6
def destinationTypeOem2 : U8 := 7

/-- The reply to `GetManagedObjects` of the SNMP service: the interfaces of each
object, with their properties. -/
abbrev ObjectTree := List (String × List (String × PropertyMap))

/-- What the LAN setters ask the rest of the system. -/
structure LanSetterEnv where
  /-- `inet_pton` takes the text for an IPv4 address. -/
  inet_pton4 : String → Bool
  inet_pton6 : String → Bool
  /-- `getaddrinfo` resolves the name to an IPv4 address. -/
  getaddrinfo4 : String → Bool
  getaddrinfo6 : String → Bool
  /-- `none` when the call fails. -/
  managedObjects : Option ObjectTree
  /-- `GetAll` on a user succeeds. -/
  userExists : String → Bool
  /-- `Get` of a property of a user. -/
  userProperty : String → String → Option Variant

/-! ## Validation -/

def validateIPv4Address (env : LanSetterEnv) (address : String) : Bool :=
  if address = "" then true
  else if env.inet_pton4 address then true
  -- looks like an incomplete address
  else if address.toList.all fun c => c.isDigit || c = '.' then false
  else env.getaddrinfo4 address

/-- A hexadecimal digit. -/
def isXDigit (c : Char) : Bool :=
  c.isDigit || ('a' ≤ c && c ≤ 'f') || ('A' ≤ c && c ≤ 'F')

def validateIPv6Address (env : LanSetterEnv) (address : String) : Bool :=
  if address = "" then true
  else if env.inet_pton6 address then true
  else if address.toList.any (· = ':') && address.toList.all fun c => isXDigit c || c = ':' then
    false
  else env.getaddrinfo6 address

def snmpCommStrIntf : String := "xyz.openbmc_project.Snmp.CommunityStrManager"

/-- The objects in their order, until one has the string. -/
def findCommStr (value : String) : ObjectTree → Except CxxException Bool
  | [] => .ok false
  | (_, intfMap) :: objs => match intfMap.lookup snmpCommStrIntf with
      | none => .error .outOfRange
      | some commStrProps => match commStrProps.at "CommunityString" with
          | .error e => .error e
          | .ok commStr => if commStr.getOnlyStr = value then .ok true else findCommStr value objs

/-- Every exception is caught. -/
def isCommStrValid (env : LanSetterEnv) (value : String) : Bool :=
  match env.managedObjects with
  | none => false
  | some objTree => match findCommStr value objTree with
      | .ok found => found
      | .error _ => false

/-- The test of a name against the type at its index. -/
def userNameValid (env : LanSetterEnv) (currentTypes : List U8) (i : Nat) (name : String) : Bool :=
  if name = "" then true
  else if !env.userExists name then false
  else
    let type := currentTypes.getD i 0
    if type = destinationTypeVersion3 then
      match env.userProperty name "SNMPAccessEnableStatus" with
      | none => false
      | some variant => variant.getBool
    else if type = destinationTypeSMTP then
      match env.userProperty name "SMTPMailID" with
      | none => false
      | some variant => variant.getOnlyStr ≠ ""
    else true

def typeValid (type : U8) : Bool :=
  !(type > destinationTypeVersion3 && type ≠ destinationTypeSMTP &&
    type ≠ destinationTypeOem1 && type ≠ destinationTypeOem2)

/-! ## Sets -/

/-- A Set of one property. -/
inductive LanSet where
  | communityString (value : String)
  | ipv4 (value : List String)
  | ipv6 (value : List String)
  | userName (value : List String)
  | type (value : List U8)
  | timeout (value : List U8)
  | retries (value : List U8)
  | addressType (value : List U8)
  deriving DecidableEq, Repr

/-- An object with the copy of the types its setters share. -/
structure LanObject where
  param : LanParam
  sharedTypes : List U8
  deriving DecidableEq, Repr

/-- The object as it is registered. -/
def LanObject.load (param : LanParam) : LanObject :=
  ⟨param, (param.arrays.map LanArrays.typeArr).getD []⟩

/-- The setter of an array property accepts the value. -/
def lanArrayValid (env : LanSetterEnv) (sharedTypes : List U8) : LanSet → Bool
  | .communityString _ => true
  | .ipv4 value => value.all (validateIPv4Address env)
  | .ipv6 value => value.all (validateIPv6Address env)
  | .userName value => value.zipIdx.all fun p => userNameValid env sharedTypes p.2 p.1
  | .type value => value.all typeValid
  | .timeout _ => true
  | .retries value => value.all fun retry => !(retry > retriesMaxValue)
  | .addressType value => value.all fun addrType => !(addrType ≠ 0x1 && addrType ≠ 0x2)

/-- The property is registered, and its setter accepts the value. -/
def lanSetAccepted (env : LanSetterEnv) (o : LanObject) : LanSet → Bool
  | .communityString value =>
      value.utf8ByteSize ≤ communityStringMaxLength && (value = "" || isCommStrValid env value)
  | req => o.param.arrays.isSome && lanArrayValid env o.sharedTypes req

/-- The arrays with one of them replaced. -/
def LanArrays.assign (a : LanArrays) : LanSet → LanArrays
  | .communityString _ => a
  | .ipv4 value => { a with ipv4Arr := value }
  | .ipv6 value => { a with ipv6Arr := value }
  | .userName value => { a with userArr := value }
  | .type value => { a with typeArr := value }
  | .timeout value => { a with timeoutArr := value }
  | .retries value => { a with retriesArr := value }
  | .addressType value => { a with addressTypeArr := value }

/-- The properties with one of them replaced. -/
def LanParam.assign (p : LanParam) : LanSet → LanParam
  | .communityString value => { p with CommunityString := value }
  | req => { p with arrays := p.arrays.map fun a => a.assign req }

/-- The object with the property set; a new `Type` is shared too. -/
def LanObject.assign (o : LanObject) (req : LanSet) : LanObject where
  param := o.param.assign req
  sharedTypes := match req with
    | .type value => value
    | _ => o.sharedTypes

/-- A Set of one property. -/
def setLanProperty (env : LanSetterEnv) (o : LanObject) (req : LanSet) : Option LanObject :=
  if lanSetAccepted env o req then some (o.assign req) else none

/-! ## Users and types -/

/-- The user database. -/
structure UserDb where
  snmpAccess : String → Bool
  mailId : String → String

/-- The replies, as far as there are any, are those of the database. -/
structure LanSetterEnv.Truthful (db : UserDb) (env : LanSetterEnv) : Prop where
  snmpAccess : ∀ name v, env.userProperty name "SNMPAccessEnableStatus" = some v →
    v.getBool = db.snmpAccess name
  mailId : ∀ name v, env.userProperty name "SMTPMailID" = some v → v.getOnlyStr = db.mailId name

/-- The user can receive what the type sends. -/
def UserFits (db : UserDb) (name : String) (type : U8) : Prop :=
  name ≠ "" → (type = destinationTypeVersion3 → db.snmpAccess name = true) ∧
    (type = destinationTypeSMTP → db.mailId name ≠ "")

/-- Every user can receive what the type at its index sends. -/
def UsersFit (db : UserDb) (userArr : List String) (typeArr : List U8) : Prop :=
  ∀ i, UserFits db (userArr.getD i "") (typeArr.getD i 0)

/-- The properties are cross-validated. -/
def Good (db : UserDb) (o : LanObject) : Prop :=
  ∀ a, o.param.arrays = some a → UsersFit db a.userArr a.typeArr

/-- The types that the value changes fit the users at their indices. -/
def TypesFit (db : UserDb) (o : LanObject) (value : List U8) : Prop :=
  ∀ a, o.param.arrays = some a → ∀ i, value.getD i 0 ≠ a.typeArr.getD i 0 →
    UserFits db (a.userArr.getD i "") (value.getD i 0)

/-- The shared copy is the `Type` property. -/
def InSync (o : LanObject) : Prop := ∀ a, o.param.arrays = some a → o.sharedTypes = a.typeArr

/-- A Set with the replies its setter gets. -/
def lanStep (o : LanObject) (e : LanSetterEnv × LanSet) : Option LanObject :=
  setLanProperty e.1 o e.2

theorem setLanProperty_eq_some {env : LanSetterEnv} {o o' : LanObject} {req : LanSet}
    (h : setLanProperty env o req = some o') :
    lanSetAccepted env o req = true ∧ o' = o.assign req := by
  unfold setLanProperty at h
  split at h
  · next hacc => exact ⟨hacc, (Option.some.inj h).symm⟩
  · cases h

theorem arrays_assign {o : LanObject} {req : LanSet} {a' : LanArrays}
    (h : (o.assign req).param.arrays = some a') :
    ∃ a, o.param.arrays = some a ∧ a' = a.assign req := by
  cases req with
  | communityString value => exact ⟨a', h, rfl⟩
  | _ =>
      obtain ⟨a, ha, rfl⟩ := Option.map_eq_some_iff.mp h
      exact ⟨a, ha, rfl⟩

theorem inSync_load (p : LanParam) : InSync (.load p) := by
  intro a ha
  have ha : p.arrays = some a := ha
  simp only [LanObject.load, ha, Option.map_some, Option.getD_some]

theorem inSync_assign {o : LanObject} (h : InSync o) (req : LanSet) : InSync (o.assign req) := by
  intro a' ha'
  obtain ⟨a, ha, rfl⟩ := arrays_assign ha'
  cases req with
  | type value => rfl
  | _ => exact h a ha

theorem userFits_of_valid {db : UserDb} {env : LanSetterEnv} (henv : env.Truthful db)
    {types : List U8} {i : Nat} {name : String} (h : userNameValid env types i name = true) :
    UserFits db name (types.getD i 0) := by
  intro hname
  unfold userNameValid at h
  rw [if_neg hname] at h
  split at h
  · cases h
  · simp only at h
    generalize types.getD i 0 = type at h ⊢
    split at h
    · next h3 =>
        subst h3
        refine ⟨fun _ => ?_, fun hsmtp => absurd hsmtp (by decide)⟩
        cases hreply : env.userProperty name "SNMPAccessEnableStatus" with
        | none =>
            rw [hreply] at h
            cases h
        | some v =>
            rw [hreply] at h
            exact (henv.snmpAccess name v hreply).symm.trans h
    · next h3 =>
        refine ⟨fun h3' => absurd h3' h3, fun hsmtp => ?_⟩
        rw [if_pos hsmtp] at h
        cases hreply : env.userProperty name "SMTPMailID" with
        | none =>
            rw [hreply] at h
            cases h
        | some v =>
            rw [hreply] at h
            exact henv.mailId name v hreply ▸ of_decide_eq_true h

/-- The `userName` setter establishes the invariant for the types it has. -/
theorem usersFit_of_accepted {db : UserDb} {env : LanSetterEnv} (henv : env.Truthful db)
    {types : List U8} {value : List String}
    (h : (value.zipIdx.all fun p => userNameValid env types p.2 p.1) = true) :
    UsersFit db value types := by
  intro i
  rcases Nat.lt_or_ge i value.length with hi | hi
  · have hmem : (value[i], i) ∈ value.zipIdx :=
      List.mem_zipIdx_iff_getElem?.mpr (List.getElem?_eq_getElem hi)
    rw [List.getD_eq_getElem?_getD, List.getElem?_eq_getElem hi, Option.getD_some]
    exact userFits_of_valid henv (List.all_eq_true.mp h _ hmem)
  · rw [List.getD_eq_getElem?_getD, List.getElem?_eq_none hi, Option.getD_none]
    exact fun hne => absurd rfl hne

/-- Of all Sets only one of `Type` can leave the invariant, and it does so exactly
when a type it changes does not fit. -/
theorem good_assign_iff {db : UserDb} {env : LanSetterEnv} (henv : env.Truthful db)
    {o : LanObject} (hsync : InSync o) (hgood : Good db o) {req : LanSet}
    (h : lanSetAccepted env o req = true) :
    Good db (o.assign req) ↔ ∀ value, req = .type value → TypesFit db o value := by
  cases req with
  | type value =>
      constructor
      · rintro hgood' _ ⟨⟩ a ha i -
        have ha' : (o.assign (.type value)).param.arrays = some (a.assign (.type value)) := by
          show o.param.arrays.map _ = _
          rw [ha]
          rfl
        exact hgood' _ ha' i
      · intro hfit a' ha' i
        obtain ⟨a, ha, rfl⟩ := arrays_assign ha'
        show UserFits db (a.userArr.getD i "") (value.getD i 0)
        by_cases hsame : value.getD i 0 = a.typeArr.getD i 0
        · exact hsame ▸ hgood a ha i
        · exact hfit value rfl a ha i hsame
  | userName value =>
      refine iff_of_true (fun a' ha' => ?_) (fun _ h' => nomatch h')
      obtain ⟨a, ha, rfl⟩ := arrays_assign ha'
      have hvalid := (Bool.and_eq_true_iff.mp h).2
      exact hsync a ha ▸ usersFit_of_accepted henv hvalid
  | communityString value => exact iff_of_true hgood fun _ h' => nomatch h'
  | _ =>
      refine iff_of_true (fun a' ha' => ?_) (fun _ h' => nomatch h')
      obtain ⟨a, ha, rfl⟩ := arrays_assign ha'
      exact hgood a ha

/-! ## Runs of Sets -/

section Runs

variable {db : UserDb} {o₀ o o' : LanObject} {es : List (LanSetterEnv × LanSet)}

theorem inSync_reached (h₀ : InSync o₀) (h : Reached lanStep o₀ es o) : InSync o := by
  refine Reached.induct (P := InSync) h₀ (fun o e o' hoccurs ho => ?_) h
  obtain ⟨_, _, _, _, hstep⟩ := hoccurs
  obtain ⟨_, rfl⟩ := setLanProperty_eq_some hstep
  exact inSync_assign ho e.2

theorem good_step_iff (h₀ : InSync o₀) (henv : ∀ e ∈ es, e.1.Truthful db)
    {e : LanSetterEnv × LanSet} (h : Occurs lanStep o₀ es o e o') (hgood : Good db o) :
    Good db o' ↔ ∀ value, e.2 = .type value → TypesFit db o value := by
  have hsync := inSync_reached h₀ h.reached
  obtain ⟨pre, post, rfl, _, hstep⟩ := h
  have htruthful := henv e (List.mem_append_right pre List.mem_cons_self)
  obtain ⟨hacc, rfl⟩ := setLanProperty_eq_some hstep
  exact good_assign_iff htruthful hsync hgood hacc

/-- A run of accepted Sets from a good object passes through good objects only,
exactly when each Set of `Type` in it fits the users it meets. -/
theorem good_iff_typesFit (db : UserDb) (p : LanParam) (hp : Good db (.load p))
    (es : List (LanSetterEnv × LanSet)) (henv : ∀ e ∈ es, e.1.Truthful db) :
    (∀ o, Reached lanStep (.load p) es o → Good db o) ↔
      ∀ o env value o', Occurs lanStep (.load p) es o (env, .type value) o' →
        TypesFit db o value := by
  constructor
  · intro hgood o env value o' hoccurs
    have hstep := good_step_iff (inSync_load p) henv hoccurs (hgood o hoccurs.reached)
    exact hstep.mp (hgood o' hoccurs.reached_after) value rfl
  · intro hfit o hreached
    refine Reached.induct (P := Good db) hp (fun o e o' hoccurs ho => ?_) hreached
    refine (good_step_iff (inSync_load p) henv hoccurs ho).mpr fun value he => ?_
    obtain ⟨env, req⟩ := e
    cases he
    exact hfit o env value o' hoccurs

/-- An object with one destination. -/
def oneDestination (user : String) (type : U8) : LanParam :=
  ⟨"", 1, some ⟨["10.0.0.1"], ["::1"], [user], [type], [0], [0], [1]⟩⟩

/-- Only `admin` may use SNMP, and nobody has a mail address. -/
def adminOnly : UserDb := ⟨fun name => name = "admin", fun _ => ""⟩

/-- Every question about a user is answered from the database. -/
def UserDb.replies (db : UserDb) : LanSetterEnv where
  inet_pton4 _ := true
  inet_pton6 _ := true
  getaddrinfo4 _ := true
  getaddrinfo6 _ := true
  managedObjects := none
  userExists _ := true
  userProperty name property :=
    if property = "SNMPAccessEnableStatus" then some (.bool (db.snmpAccess name))
    else some (.str (db.mailId name))

theorem truthful_replies (db : UserDb) : db.replies.Truthful db where
  snmpAccess name v h := by
    cases h
    rfl
  mailId name v h := by
    cases h
    rfl

theorem good_oneDestination (db : UserDb) (user : String) : Good db (.load (oneDestination user 0)) := by
  rintro a ⟨⟩ i -
  have htype : [(0 : U8)].getD i 0 = 0 := by
    rcases i with _ | i <;> rfl
  show ([(0 : U8)].getD i 0 = destinationTypeVersion3 → _) ∧
    ([(0 : U8)].getD i 0 = destinationTypeSMTP → _)
  rw [htype]
  exact ⟨fun h => absurd h (by decide), fun h => absurd h (by decide)⟩

/-- The type of `admin`'s destination may become 2. -/
theorem admin_type_stays_good :
    ∃ o, lanStep (.load (oneDestination "admin" 0)) (adminOnly.replies, .type [2]) = some o ∧
      Good adminOnly o := by
  have hall := (good_iff_typesFit adminOnly (oneDestination "admin" 0) (good_oneDestination _ _)
    [(adminOnly.replies, .type [2])]
    (fun e he => List.mem_singleton.mp he ▸ truthful_replies adminOnly)).mpr
      fun o env value o' hoccurs => by
        obtain ⟨rfl, he⟩ := hoccurs.singleton
        cases he
        rintro a ⟨⟩ i -
        rcases i with _ | i
        · exact fun _ => ⟨fun _ => rfl, fun h => absurd h (by decide)⟩
        · exact fun hname => absurd rfl hname
  exact ⟨_, rfl, hall _ (.last rfl)⟩

/-- That of anybody else is accepted just the same. -/
theorem type_set_unchecked :
    Good adminOnly (.load (oneDestination "guest" 0)) ∧ adminOnly.replies.Truthful adminOnly ∧
      ∃ o, lanStep (.load (oneDestination "guest" 0)) (adminOnly.replies, .type [2]) = some o ∧
        ¬ Good adminOnly o := by
  refine ⟨good_oneDestination _ _, truthful_replies _, _, rfl, fun hgood => ?_⟩
  have hfit := hgood _ rfl 0 (by decide)
  exact absurd (hfit.1 rfl) (by decide)

end Runs

end Pef
