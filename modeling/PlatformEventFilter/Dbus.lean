/-
# `Dbus` — the calls of the filtering process, as questions put to the system

`pef_action.cpp` is a program over the calls it makes: D-Bus methods, and the
few look-ups in the network and the clock that a run cannot foresee.  Each call
is a question of its own (`Call`), labelled with the matched entry and the
policy row it is made for, so that an environment can answer, or fail, every
single call of a run independently of all the others.

A D-Bus call is answered `none` when it fails, which `connection::call` reports
by throwing `sdbusplus::exception_t`; the `is_method_error` tests that follow
the calls are therefore never true.
-/
import PlatformEventFilter.Lib.Ask
import PlatformEventFilter.Setters

namespace Pef

/-! ## Calls -/

/-- The matched entry and the policy row an alert is processed for. -/
structure Site where
  entryIdx : Nat
  policyIdx : Nat
  deriving DecidableEq, Repr

/-- The arguments of `sendOBMCErrorNotification`. -/
structure SnmpAlert where
  id : U16
  ts : String
  sev : String
  msg : String
  eventID : String
  eventStatus : String
  eventSubjectSN : String
  addData : String
  ip : String
  channelNo : U8
  destinationSel : U8
  deriving DecidableEq, Repr

/-- One call. -/
inductive Call where
  /-- `PEFControl` -/
  | pefControl
  /-- `ArmPEFPostponeTmr` -/
  | armPefPostponeTmr
  /-- `GetSubTreePaths` of the event filter table -/
  | eventFilterPaths
  /-- `GetAll` of `EventFilterTable/List<groupIndex>` -/
  | eventFilterProperties (groupIndex : Nat)
  /-- `GetChannelInterfaceMap` -/
  | channelInterfaceMap
  /-- `GetAll` of `PEFConfInfo` -/
  | pefConfInfo
  /-- `Logging.Create` for an action of the entry, or of one of its policies -/
  | selLog (entryIdx : Nat) (policyIdx : Option Nat) (action : U8)
  /-- `RequestedPowerTransition := value` -/
  | requestedPowerTransition (entryIdx : Nat) (value : String)
  /-- `CurrentPowerState` -/
  | currentPowerState (entryIdx : Nat)
  /-- `RequestedHostTransition := value` -/
  | requestedHostTransition (entryIdx : Nat) (value : String)
  /-- `GetSubTreePaths` of the alert policy table -/
  | alertPolicyPaths (entryIdx : Nat)
  /-- `GetAll` of an alert policy object -/
  | alertPolicyProperties (entryIdx pathIdx : Nat) (objPath : String)
  /-- `GetAll` of a LAN interface object -/
  | lanParam (s : Site) (objPath : String)
  /-- the element a vector is read at behind its end -/
  | outOfBounds (s : Site) (index : Nat)
  /-- `SMTPMailID` of a user -/
  | smtpMailID (s : Site) (objPath : String)
  /-- `getPathFromSensorNumber` -/
  | sensorPath (s : Site) (sensorNum : U8)
  /-- `GetChannelInterfaceMap`, for an SNMP alert -/
  | alertChannelMap (s : Site)
  /-- `getIPAddress` -/
  | ipAddress (s : Site) (ifaceName : Option String)
  /-- `getCurrentTime` -/
  | currentTime (s : Site)
  /-- `HostName` -/
  | hostName (s : Site)
  /-- `Subject` -/
  | subject (s : Site)
  /-- `Message` -/
  | message (s : Site)
  /-- a property of the mail service -/
  | mailProperty (s : Site) (iface property : String)
  /-- `resolveHost` -/
  | resolveHost (s : Site) (iface host : String)
  /-- `retryAlert "snmp"` -/
  | retrySnmp (s : Site) (identifier : String) (payload : List (String × String))
  /-- `sendOBMCErrorNotification` -/
  | notification (s : Site) (alert : SnmpAlert)
  /-- `retryAlert "smtp"` -/
  | retrySmtp (s : Site) (alertSubject alertBody : String)
  /-- `SendMail` -/
  | sendMail (s : Site) (alertSubject alertBody : String)
  /-- `LastBMCProcessedEventID := recordId` -/
  | lastBMCProcessedEventID (s : Site) (recordId : U16)
  deriving DecidableEq, Repr

/-- What a call is answered with. -/
@[reducible] def Call.Answer : Call → Type
  | pefControl => Option Variant
  | armPefPostponeTmr => Option Variant
  | eventFilterPaths => Option (List String)
  | eventFilterProperties _ => Option PropertyMap
  | channelInterfaceMap => Option (List (U8 × String))
  | pefConfInfo => Option PropertyMap
  | selLog .. => Option Unit
  | requestedPowerTransition .. => Option Unit
  | currentPowerState _ => Option Variant
  | requestedHostTransition .. => Option Unit
  | alertPolicyPaths _ => Option (List String)
  | alertPolicyProperties .. => Option PropertyMap
  | lanParam .. => Option PropertyMap
  | outOfBounds .. => U8
  | smtpMailID .. => Option Variant
  | sensorPath .. => Option String
  | alertChannelMap _ => Option (List (U8 × String))
  | ipAddress .. => String
  | currentTime _ => String
  | hostName _ => Option Variant
  | subject _ => Option Variant
  | message _ => Option Variant
  | mailProperty .. => Option Variant
  | resolveHost .. => Bool
  | retrySnmp .. => Option Bool
  | notification .. => Bool
  | retrySmtp .. => Option Bool
  | sendMail .. => Option U16
  | lastBMCProcessedEventID .. => Option Unit

/-- The answers to all the calls of a run. -/
abbrev Env := (q : Call) → q.Answer

/-- Nobody answers: every call fails, and there is nothing to look up. -/
def Env.dead : Env
  | .pefControl => none
  | .armPefPostponeTmr => none
  | .eventFilterPaths => none
  | .eventFilterProperties _ => none
  | .channelInterfaceMap => none
  | .pefConfInfo => none
  | .selLog .. => none
  | .requestedPowerTransition .. => none
  | .currentPowerState _ => none
  | .requestedHostTransition .. => none
  | .alertPolicyPaths _ => none
  | .alertPolicyProperties .. => none
  | .lanParam .. => none
  | .outOfBounds .. => 0
  | .smtpMailID .. => none
  | .sensorPath .. => some ""
  | .alertChannelMap _ => none
  | .ipAddress .. => ""
  | .currentTime _ => ""
  | .hostName _ => none
  | .subject _ => none
  | .message _ => none
  | .mailProperty .. => none
  | .resolveHost .. => false
  | .retrySnmp .. => none
  | .notification .. => false
  | .retrySmtp .. => none
  | .sendMail .. => none
  | .lastBMCProcessedEventID .. => none

/-- A piece of the filtering process. -/
abbrev Prog (α : Type) := Ask Call.Answer CxxException α

/-- Make a call. -/
abbrev call (q : Call) : Prog q.Answer := Ask.ask q

/-! ## Replies and handlers -/

/-- The reply of a D-Bus call, or the exception it throws. -/
def reply {α : Type} : Option α → Prog α
  | some a => pure a
  | none => Ask.raise .sdbusplus

def ofExcept {α : Type} : Except CxxException α → Prog α
  | .ok a => pure a
  | .error e => Ask.raise e

/-- `catch (sdbusplus::exception_t&)` -/
def catchSdbusplus {α : Type} (p k : Prog α) : Prog α :=
  p.catching fun
    | .sdbusplus => some k
    | _ => none

/-- `catch (std::exception&)` -/
def catchAll {α : Type} (p k : Prog α) : Prog α :=
  p.catching fun _ => some k

section Handlers

variable {α : Type} {env : Env}

@[simp] theorem asked_reply (o : Option α) : (reply o).asked env = [] := by
  cases o <;> rfl

@[simp] theorem asked_ofExcept (x : Except CxxException α) : (ofExcept x).asked env = [] := by
  cases x <;> rfl

@[simp] theorem toOption_eq_some {ε : Type} {x : Except ε α} {a : α} :
    x.toOption = some a ↔ x = .ok a := by
  cases x with
  | ok b => exact ⟨fun h => congrArg Except.ok (Option.some.inj h), fun h => by cases h; rfl⟩
  | error e => exact ⟨fun h => (nomatch h), fun h => (nomatch h)⟩

theorem outcome_ofExcept (x : Except CxxException α) :
    (ofExcept x).outcome env = x := by
  cases x <;> rfl

theorem outcome_reply_ok {o : Option α} {a : α} :
    (reply o).outcome env = .ok a ↔ o = some a := by
  cases o with
  | none => exact ⟨fun h => (nomatch h), fun h => (nomatch h)⟩
  | some b =>
      exact ⟨fun h => congrArg some (Except.ok.inj h),
        fun h => congrArg Except.ok (Option.some.inj h)⟩

theorem outcome_reply_error {o : Option α} {e : CxxException}
    (h : (reply o).outcome env = .error e) : e = .sdbusplus := by
  cases o with
  | none => cases h; rfl
  | some b => cases h

theorem asked_catchSdbusplus_ok {p k : Prog α} {a : α} (h : p.outcome env = .ok a) :
    (catchSdbusplus p k).asked env = p.asked env := by
  rw [catchSdbusplus, Ask.asked_catching, h, List.append_nil]

theorem asked_catchSdbusplus_pure (p : Prog α) (a : α) :
    (catchSdbusplus p (pure a)).asked env = p.asked env := by
  rw [catchSdbusplus, Ask.asked_catching]
  cases p.outcome env with
  | ok b => exact List.append_nil _
  | error e => cases e <;> exact List.append_nil _

theorem outcome_catchSdbusplus_ok {p k : Prog α} {a : α} (h : p.outcome env = .ok a) :
    (catchSdbusplus p k).outcome env = .ok a := by
  rw [catchSdbusplus, Ask.outcome_catching, h]

theorem outcome_catchSdbusplus_sdbusplus {p k : Prog α}
    (h : p.outcome env = .error .sdbusplus) :
    (catchSdbusplus p k).outcome env = k.outcome env := by
  rw [catchSdbusplus, Ask.outcome_catching, h]

theorem outcome_catchSdbusplus_eq_ok {p k : Prog α} {a : α}
    (h : (catchSdbusplus p k).outcome env = .ok a) :
    p.outcome env = .ok a ∨ k.outcome env = .ok a := by
  rw [catchSdbusplus, Ask.outcome_catching] at h
  cases hp : p.outcome env with
  | ok b => rw [hp] at h; exact Or.inl h
  | error e =>
      rw [hp] at h
      cases e with
      | sdbusplus => exact Or.inr h
      | _ => cases h

theorem outcome_catchAll_eq_ok {p k : Prog α} {a : α}
    (h : (catchAll p k).outcome env = .ok a) :
    p.outcome env = .ok a ∨ k.outcome env = .ok a := by
  rw [catchAll, Ask.outcome_catching] at h
  cases hp : p.outcome env with
  | ok b => rw [hp] at h; exact Or.inl h
  | error e => rw [hp] at h; exact Or.inr h

theorem only_catchSdbusplus {P : Call → Prop} {p k : Prog α} (hp : p.Only P env)
    (hk : k.Only P env) : (catchSdbusplus p k).Only P env := by
  refine hp.catching fun e k' _ h => ?_
  cases e with
  | sdbusplus => cases h; exact hk
  | _ => cases h

theorem only_catchAll {P : Call → Prop} {p k : Prog α} (hp : p.Only P env)
    (hk : k.Only P env) : (catchAll p k).Only P env :=
  hp.catching fun _ _ _ h => Option.some.inj h ▸ hk

theorem only_reply {P : Call → Prop} {o : Option α} : (reply o).Only P env := by
  intro q hq
  rw [asked_reply] at hq
  cases hq

theorem only_ofExcept {P : Call → Prop} {x : Except CxxException α} :
    (ofExcept x).Only P env := by
  intro q hq
  rw [asked_ofExcept] at hq
  cases hq

end Handlers

/-- `s.rfind(t, 0) == 0` -/
def startsWith (s t : String) : Bool := t.toList.isPrefixOf s.toList

/-! ## The channel map -/

abbrev EthChannelMap := List (U8 × String)

/-- The LAN channels of a reply. -/
def ethChannels (reply : Option (List (U8 × String))) : EthChannelMap :=
  (reply.getD []).filter fun p => isEthInterfaceName p.2

/-- The LAN channels of the map the call returns, none when it fails. -/
def getEthChannelInterfaceMap (channelMap : Prog (Option (List (U8 × String)))) :
    Prog EthChannelMap :=
  catchAll
    (do
      let map ← reply (← channelMap)
      pure (map.filter fun p => isEthInterfaceName p.2))
    (pure [])

theorem outcome_getEthChannelInterfaceMap {env : Env} {channelMap : Prog (Option (List (U8 × String)))}
    {o : Option (List (U8 × String))} (h : channelMap.outcome env = .ok o) :
    (getEthChannelInterfaceMap channelMap).outcome env = .ok (ethChannels o) := by
  rw [getEthChannelInterfaceMap, catchAll, Ask.outcome_catching, Ask.outcome_bind_ok env h]
  cases o <;> rfl

/-- The interface of a channel, the empty string for a channel without one. -/
def getInterfaceNameForChannel (channelNo : U8) : EthChannelMap → String
  | [] => ""
  | (channel, iface) :: ethMap =>
      if channel = channelNo then iface else getInterfaceNameForChannel channelNo ethMap

theorem getInterfaceNameForChannel_mem {channelNo : U8} {iface : String} (h0 : iface ≠ "") :
    ∀ {ethMap : EthChannelMap}, getInterfaceNameForChannel channelNo ethMap = iface →
      (channelNo, iface) ∈ ethMap
  | [], h => absurd h.symm h0
  | (channel, i) :: ethMap, h => by
      simp only [getInterfaceNameForChannel] at h
      split at h
      · next hc => subst hc; subst h; exact List.mem_cons_self
      · exact List.mem_cons_of_mem _ (getInterfaceNameForChannel_mem h0 h)

end Pef
