/-
# `Lookups` — the calls that change nothing

Most of what the filtering process does is asking: for the tables, the channel
map, the users, the clock.  The parts of the program that do no more are listed
here once, each with the fact that all its calls are look-ups; what they leave
out is

    power transitions   of the chassis and of the host
    alerts              handed to a service or to the retry queue
    the record          `LastBMCProcessedEventID`
-/
import PlatformEventFilter.Action

namespace Pef

/-- The call neither acts nor keeps a record. -/
def Call.isLookup : Call → Bool
  | requestedPowerTransition .. => false
  | requestedHostTransition .. => false
  | retrySnmp .. => false
  | notification .. => false
  | retrySmtp .. => false
  | sendMail .. => false
  | lastBMCProcessedEventID .. => false
  | _ => true

/-- The computation only looks things up. -/
abbrev Lookup {α : Type} (p : Prog α) (env : Env) : Prop := p.Only (fun q => q.isLookup = true) env

section Lookup

variable {env : Env}

theorem lookup_call {q : Call} (h : q.isLookup = true) : Lookup (call q) env := Ask.Only.ask h

theorem only_getStrProperty {P : Call → Prop} {answer : Prog (Option Variant)}
    (h : answer.Only P env) : (getStrProperty answer).Only P env :=
  Ask.Only.bind h fun _ _ => Ask.Only.bind only_reply fun _ _ => only_ofExcept

theorem lookup_getEthChannelInterfaceMap {answer : Prog (Option (List (U8 × String)))}
    (h : Lookup answer env) : Lookup (getEthChannelInterfaceMap answer) env :=
  only_catchAll (Ask.Only.bind h fun _ _ => Ask.Only.bind only_reply fun _ _ => Ask.Only.pure)
    Ask.Only.pure

theorem lookup_byteProperty {answer : Prog (Option Variant)} (h : Lookup answer env) :
    Lookup (byteProperty answer) env := by
  refine only_catchSdbusplus ?_ Ask.Only.pure
  refine Ask.Only.bind h fun _ _ => Ask.Only.bind only_reply fun _ _ => ?_
  exact Ask.Only.bind only_ofExcept fun _ _ => Ask.Only.pure

theorem lookup_PEFActionSELLOG (i : Nat) (j : Option Nat) (action : U8) :
    Lookup (PEFActionSELLOG i j action) env :=
  only_catchSdbusplus (Ask.Only.bind (lookup_call rfl) fun _ _ => only_reply) Ask.Only.pure

theorem lookup_logAction (cfg : PefCfgInfo) (i : Nat) (j : Option Nat) (action : U8) :
    Lookup (logAction cfg i j action) env := by
  unfold logAction
  split
  · exact lookup_PEFActionSELLOG i j action
  · exact Ask.Only.pure

theorem lookup_getPefConfInfo : Lookup getPefConfInfo env := by
  refine only_catchSdbusplus ?_ Ask.Only.pure
  refine Ask.Only.bind (lookup_call rfl) fun _ _ => Ask.Only.bind only_reply fun _ _ => ?_
  exact Ask.Only.bind only_ofExcept fun _ _ => Ask.Only.pure

theorem lookup_matchedEntries (event : EventMsgData) : Lookup (matchedEntries event) env := by
  refine Ask.Only.bind ?_ fun _ _ => Ask.Only.collectIdx fun _ _ _ => ?_
  · refine only_catchSdbusplus ?_ Ask.Only.pure
    exact Ask.Only.bind (lookup_call rfl) fun _ _ =>
      Ask.Only.bind only_reply fun _ _ => Ask.Only.pure
  · refine only_catchSdbusplus ?_ Ask.Only.pure
    refine Ask.Only.bind (lookup_call rfl) fun _ _ => Ask.Only.bind only_reply fun _ _ => ?_
    exact Ask.Only.bind only_ofExcept fun _ _ => Ask.Only.pure

theorem lookup_policiesIn (no : Int) (i k : Nat) (path : String) :
    Lookup (policiesIn no i k path) env := by
  unfold policiesIn
  split
  · exact Ask.Only.pure
  · refine only_catchSdbusplus ?_ Ask.Only.pure
    refine Ask.Only.bind (lookup_call rfl) fun _ _ => Ask.Only.bind only_reply fun _ _ => ?_
    exact Ask.Only.bind only_ofExcept fun _ _ => Ask.Only.pure

theorem lookup_checkAlertPoicyTbl (i : Nat) (no : Int) : Lookup (checkAlertPoicyTbl i no) env := by
  unfold checkAlertPoicyTbl
  split
  · exact Ask.Only.pure
  · refine Ask.Only.bind ?_ fun _ _ => Ask.Only.collectIdx fun _ _ _ =>
      lookup_policiesIn no i _ _
    exact only_catchSdbusplus (Ask.Only.bind (lookup_call rfl) fun _ _ => only_reply) Ask.Only.pure

theorem lookup_getPowerStatus (i : Nat) : Lookup (getPowerStatus i) env :=
  only_catchSdbusplus
    (Ask.Only.bind (only_getStrProperty (lookup_call rfl)) fun _ _ => Ask.Only.pure)
    Ask.Only.pure

theorem lookup_selectDestination (s : Site) (i : Nat) (m : PropertyMap) (types : List U8) :
    Lookup (selectDestination s i m types) env := by
  unfold selectDestination
  split
  · exact Ask.Only.pure
  · split
    · refine Ask.Only.bind ?_ fun _ _ => Ask.Only.bind only_ofExcept fun _ _ => Ask.Only.pure
      unfold subscriptAt
      split
      · exact Ask.Only.pure
      · exact lookup_call rfl
    · exact Ask.Only.pure

theorem lookup_destinationFor (s : Site) (ethMap : EthChannelMap) (policy : AlertPolicyTbl) :
    Lookup (destinationFor s ethMap policy) env := by
  simp only [destinationFor]
  split
  · exact Ask.Only.pure
  · refine only_catchSdbusplus ?_ Ask.Only.pure
    refine Ask.Only.bind (lookup_call rfl) fun _ _ => Ask.Only.bind only_reply fun _ _ => ?_
    split
    · exact Ask.Only.pure
    · exact Ask.Only.bind only_ofExcept fun _ _ => lookup_selectDestination s _ _ _

theorem lookup_getSmtpMailID (s : Site) (user : String) : Lookup (getSmtpMailID s user) env := by
  unfold getSmtpMailID
  split
  · exact Ask.Only.pure
  · exact only_catchAll
      (Ask.Only.bind (only_getStrProperty (lookup_call rfl)) fun _ _ => Ask.Only.pure)
      Ask.Only.pure

theorem lookup_getPathFromSensorNumber (s : Site) (sensorNum : U8) :
    Lookup (getPathFromSensorNumber s sensorNum) env := by
  refine Ask.Only.bind (lookup_call rfl) fun _ _ => ?_
  split
  · exact Ask.Only.pure
  · exact Ask.Only.raise

theorem lookup_bmcIPAddress (s : Site) (ifaceName : String) :
    Lookup (bmcIPAddress s ifaceName) env := by
  refine Ask.Only.bind (lookup_call rfl) fun _ _ => ?_
  split
  · exact lookup_call rfl
  · exact Ask.Only.pure

theorem lookup_mailHostReachable (s : Site) (iface : String) :
    Lookup (mailHostReachable s iface) env := by
  refine only_catchSdbusplus ?_ Ask.Only.pure
  refine Ask.Only.bind (lookup_call rfl) fun _ _ => Ask.Only.bind only_reply fun _ _ => ?_
  split
  · exact Ask.Only.bind (lookup_call rfl) fun _ _ =>
      Ask.Only.bind only_reply fun _ _ => lookup_call rfl
  · exact Ask.Only.pure

theorem lookup_isMailAlertConfigured (s : Site) : Lookup (isMailAlertConfigured s) env := by
  refine Ask.Only.bind (lookup_mailHostReachable s primaryMailIfc) fun _ _ => ?_
  split
  · exact Ask.Only.pure
  · exact lookup_mailHostReachable s secondaryMailIfc

theorem lookup_mailSubject (s : Site) (event : EventMsgData) : Lookup (mailSubject s event) env := by
  refine Ask.Only.bind ?_ fun _ _ => ?_
  · exact only_catchSdbusplus (only_getStrProperty (lookup_call rfl)) Ask.Only.pure
  · exact only_catchSdbusplus
      (Ask.Only.bind (only_getStrProperty (lookup_call rfl)) fun _ _ => Ask.Only.pure)
      Ask.Only.pure

theorem lookup_mailBody (s : Site) (event : EventMsgData) (path mailID : String) :
    Lookup (mailBody s event path mailID) env := by
  refine Ask.Only.bind ?_ fun _ _ => Ask.Only.pure
  exact only_catchSdbusplus
    (Ask.Only.bind (only_getStrProperty (lookup_call rfl)) fun _ _ => Ask.Only.pure)
    Ask.Only.pure

/-! ## The traps and the power actions -/

theorem calls_sendSNMPAlert (retryEnable : Bool) (s : Site) (event : EventMsgData)
    (channelNo destinationSel : U8) :
    (sendSNMPAlert retryEnable s event channelNo destinationSel).Only
      (fun q => q.isLookup = true ∨ (∃ identifier payload, q = .retrySnmp s identifier payload) ∨
        ∃ alert, q = .notification s alert) env := by
  refine Ask.Only.bind ((lookup_getPathFromSensorNumber s _).mono fun _ => Or.inl) fun _ _ => ?_
  refine Ask.Only.bind ?_ fun _ _ => ?_
  · exact (lookup_getEthChannelInterfaceMap (lookup_call rfl)).mono fun _ => Or.inl
  dsimp only
  split
  · exact Ask.Only.pure
  · refine Ask.Only.bind ((lookup_bmcIPAddress s _).mono fun _ => Or.inl) fun _ _ => ?_
    refine Ask.Only.bind (Ask.Only.ask (Or.inl rfl)) fun _ _ => ?_
    refine Ask.Only.bind (only_getStrProperty (Ask.Only.ask (Or.inl rfl))) fun _ _ => ?_
    refine only_catchSdbusplus ?_ Ask.Only.pure
    split
    · exact Ask.Only.bind (Ask.Only.ask (Or.inr (Or.inl ⟨_, _, rfl⟩))) fun _ _ =>
        Ask.Only.bind only_reply fun _ _ => Ask.Only.pure
    · exact Ask.Only.bind (Ask.Only.ask (Or.inr (Or.inr ⟨_, rfl⟩))) fun _ _ => Ask.Only.pure

theorem calls_resetHost (i : Nat) :
    (resetHost i).Only (fun q => q.isLookup = true ∨ ∃ v, q = .requestedHostTransition i v) env := by
  refine Ask.Only.bind ((lookup_getPowerStatus i).mono fun _ => Or.inl) fun power _ => ?_
  cases power with
  | true =>
      exact Ask.Only.bind (Ask.Only.ask (Or.inr ⟨_, rfl⟩)) fun _ _ => only_reply
  | false => exact Ask.Only.pure

theorem calls_powerAction (cfg : PefCfgInfo) (i : Nat) (e : EvtFilterTblEntry) :
    (powerAction cfg i e).Only
      (fun q => q.isLookup = true ∨ (∃ v, q = .requestedPowerTransition i v) ∨
        ∃ v, q = .requestedHostTransition i v) env := by
  have hlog : ∀ {P : Call → Prop} action,
      (logAction cfg i none action).Only (fun q => q.isLookup = true ∨ P q) env :=
    fun action => (lookup_logAction cfg i none action).mono fun _ => Or.inl
  have hreset : (resetHost i).Only (fun q => q.isLookup = true ∨
      (∃ v, q = .requestedPowerTransition i v) ∨ ∃ v, q = .requestedHostTransition i v) env :=
    (calls_resetHost i).mono fun _ h => h.imp id Or.inr
  unfold powerAction
  split
  · split
    · exact Ask.Only.bind (hlog _) fun _ _ =>
        Ask.Only.bind (Ask.Only.ask (Or.inr (Or.inl ⟨_, rfl⟩))) fun _ _ => only_reply
    · split
      · exact Ask.Only.bind (hlog _) fun _ _ => hreset
      · split
        · exact Ask.Only.bind (hlog _) fun _ _ => hreset
        · exact Ask.Only.pure
  · exact Ask.Only.pure

end Lookup

end Pef
