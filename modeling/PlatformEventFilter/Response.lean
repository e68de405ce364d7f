/-
# `Response` — everything an event causes, in order

`Authority` says that no action is without a reason.  Here is what does happen.  For a manager with settings `r`,
filter rows and policy rows (`LiveTables`), an event is answered by a plan: for
each matching row, in order, a power step, then one alert for each policy the
row selects.

    transitionOf    the power transition of a row
    trapEffects     the trap, or its place in the retry queue
    mailEffects     the mail, or its place in the queue, and the record

`pefTask` does exactly what the plan says, each thing once and in its order, up
to the first step that makes one of the three calls `Steps` names in vain;
and it does nothing while PEF is off or postponed.  The log entries are not part
of this.
-/
import PlatformEventFilter.LiveTables
import PlatformEventFilter.SnmpStatus
import PlatformEventFilter.Steps

namespace Pef

/-! ## Effects -/

/-- What an event does outside of the process. -/
inductive Effect where
  | powerTransition (value : String)
  | hostTransition (value : String)
  | retrySnmp (identifier : String) (payload : List (String × String))
  | notification (alert : SnmpAlert)
  | retrySmtp (alertSubject alertBody : String)
  | sendMail (alertSubject alertBody : String)
  /-- `LastBMCProcessedEventID` -/
  | processed (recordId : U16)
  deriving DecidableEq, Repr

/-- The effect of a call, whichever entry and policy it is made for. -/
def Call.effect : Call → Option Effect
  | requestedPowerTransition _ value => some (.powerTransition value)
  | requestedHostTransition _ value => some (.hostTransition value)
  | retrySnmp _ identifier payload => some (.retrySnmp identifier payload)
  | notification _ alert => some (.notification alert)
  | retrySmtp _ alertSubject alertBody => some (.retrySmtp alertSubject alertBody)
  | sendMail _ alertSubject alertBody => some (.sendMail alertSubject alertBody)
  | lastBMCProcessedEventID _ recordId => some (.processed recordId)
  | _ => none

/-- The effects of a computation, in order. -/
abbrev effects {α : Type} (p : Prog α) (env : Env) : List Effect := p.seen Call.effect env

/-- Nothing the computation asks has an effect. -/
abbrev Blind {α : Type} (p : Prog α) (env : Env) : Prop := p.Only (fun q => q.effect = none) env

theorem blind_of_lookup {α : Type} {p : Prog α} {env : Env} (h : Lookup p env) : Blind p env := by
  refine h.mono fun q hq => ?_
  cases q <;> first | rfl | cases hq

/-! ## The plan -/

/-- A string in a reply. -/
def strReply (o : Option Variant) : Option String :=
  o.bind fun v => v.asValue.getStr.toOption

/-- The host is reported on. -/
def hostOn (env : Env) (entryIdx : Nat) : Bool :=
  strReply (env (.currentPowerState entryIdx)) = some powerStateOn

/-- The power transition of a row: an off goes before a cycle or a reset, and
these are for a host that is on. -/
def transitionOf (cfg : PefCfgInfo) (on : Bool) (e : EvtFilterTblEntry) : Option Effect :=
  if actionEnabled cfg e POWER_OFF_ACTION then some (.powerTransition pwrCtlOff)
  else if (actionEnabled cfg e POWER_CYCLE_ACTION || actionEnabled cfg e RESET_ACTION) && on then
    some (.hostTransition pwrStateReset)
  else none

section Plan

variable (retryEnable : Bool) (env : Env) (s : Site) (event : EventMsgData)

/-- The payload of a trap in the retry queue; neither the channel nor the
destination is in it. -/
def retryPayload (a : SnmpAlert) (sensorPath : String) : List (String × String) :=
  [("timeStamp", a.ts), ("severity", a.sev), ("eventDataMsg", a.msg), ("sensorName", a.eventID),
   ("sensorType", retrieveSensorTypeFromPath sensorPath), ("direction", a.eventStatus),
   ("eventSubjectSN", a.eventSubjectSN), ("additionalData", a.addData), ("hostName", a.ip)]

def trapEffects (channelNo destinationSel : U8) : List Effect :=
  match notificationOf env s event channelNo destinationSel with
  | none => []
  | some a =>
      if retryEnable then
        [.retrySnmp (toString event.recordId.toNat)
          (retryPayload a ((env (.sensorPath s event.sensorNum)).getD ""))]
      else [.notification a]

/-- The mail address of a user. -/
def mailAddressOf (user : String) : Option String :=
  if user = "" then none else strReply (env (.smtpMailID s (userObjPathPrefix ++ user)))

def mailSubjectOf : String :=
  match strReply (env (.hostName s)) with
  | none => "PEF Alert"
  | some hostName =>
      let subject := (strReply (env (.subject s))).getD ""
      if subject = "" then
        if smtpSeverity event = "Ok" then "Message from " ++ hostName else "Alert from " ++ hostName
      else subject

def mailBodyOf (sensorPath smtpMailID : String) : String :=
  let message := ((strReply (env (.message s))).map (· ++ "\r\n")).getD ""
  let body := message ++
    if checkSampleEvent event then "Sensor Name : Not Found"
    else "Sensor Name : " ++ getSensorNameFromPath sensorPath ++ "\r\n" ++
      "Sensor Type : " ++ retrieveSensorTypeFromPath sensorPath ++ " \r\n" ++
      "Severity    : " ++ smtpSeverity event ++ "\r\n" ++
      "Description : " ++ eventDataMsg event id
  if smtpMailID = "" then body else body ++ "\r\nMail ID     : " ++ smtpMailID

/-- A mail service is enabled, and its host can be resolved. -/
def mailHostUp (iface : String) : Bool :=
  match env (.mailProperty s iface "Enable"), env (.mailProperty s iface "Host") with
  | some enable, some host => enable.getBool && env (.resolveHost s iface host.getOnlyStr)
  | _, _ => false

/-- The mail to an address, and the record of the event once it is handed over. -/
def deliveryEffects (alertSubject alertBody : String) : List Effect :=
  if retryEnable then
    if mailHostUp env s primaryMailIfc || mailHostUp env s secondaryMailIfc then
      .retrySmtp alertSubject alertBody ::
        if (env (.retrySmtp s alertSubject alertBody)).isSome then [.processed event.recordId]
        else []
    else []
  else
    .sendMail alertSubject alertBody ::
      if env (.sendMail s alertSubject alertBody) = some 0 then [.processed event.recordId] else []

def mailEffects (user : String) : List Effect :=
  match env (.sensorPath s event.sensorNum), mailAddressOf env s user with
  | some sensorPath, some mailID =>
      if mailID = "" then []
      else deliveryEffects retryEnable env s event (mailSubjectOf env s event)
        (mailBodyOf env s event sensorPath mailID)
  | _, _ => []

/-- An alert goes where its destination says. -/
def alertEffects (ethMap : EthChannelMap) (policy : AlertPolicyTbl) : List Effect :=
  match destinationOf env s ethMap policy with
  | none => []
  | some (destinationType, user) =>
      if destinationType = 3 then mailEffects retryEnable env s event user
      else if destinationType ≤ 2 then
        trapEffects retryEnable env s event policy.ChannelNo policy.DestinationSel
      else []

/-- A trap is sent without a host name. -/
def alertStops (ethMap : EthChannelMap) (policy : AlertPolicyTbl) : Bool :=
  match destinationOf env s ethMap policy with
  | none => false
  | some (destinationType, _) => destinationType ≤ 2 &&
      getInterfaceNameForChannel policy.ChannelNo (ethChannels (env (.alertChannelMap s))) ≠ "" &&
      (env (.hostName s)).isNone

end Plan

section Steps

variable (retryEnable : Bool) (cfg : PefCfgInfo) (event : EventMsgData) (ethMap : EthChannelMap)
  (env : Env)

/-- What a step of the plan does. -/
def Step.effects : Step → List Effect
  | .power i e => (transitionOf cfg (hostOn env i) e).toList
  | .policies .. => []
  | .alert s policy => alertEffects retryEnable env s event ethMap policy

/-- The step is the last one. -/
def Step.stops : Step → Bool
  | .power i e => match transitionOf cfg (hostOn env i) e with
      | some (.powerTransition value) => (env (.requestedPowerTransition i value)).isNone
      | some (.hostTransition value) => (env (.requestedHostTransition i value)).isNone
      | _ => false
  | .policies .. => false
  | .alert s policy => alertStops env s ethMap policy

/-- A power step for every entry, and an alert for every policy it selects. -/
def plan (policies : List AlertPolicyTbl) : List EvtFilterTblEntry → Nat → List Step
  | [], _ => []
  | e :: M, i => (.power i e ::
      if actionEnabled cfg e ALERT_ACTION then
        alertSteps i (policies.filter fun p => Selects e.AlertPolicyNum p) 0
      else []) ++ plan policies M (i + 1)

/-- The effects of a plan. -/
def carriedOut (steps : List Step) : List Effect :=
  (Ask.untilStop (Step.stops cfg ethMap env) steps).flatMap
    (Step.effects retryEnable cfg event ethMap env)

end Steps

/-! ## The power step -/

section Strings

variable {env : Env}

theorem strReply_eq_some {o : Option Variant} {t : String} :
    strReply o = some t ↔ ∃ v, o = some v ∧ v.asValue.getStr = .ok t := by
  rw [strReply, Option.bind_eq_some_iff]
  exact exists_congr fun v => and_congr Iff.rfl toOption_eq_some

theorem outcome_getStrProperty {answer : Prog (Option Variant)} {o : Option Variant} {t : String}
    (ho : answer.outcome env = .ok o) (h : strReply o = some t) :
    (getStrProperty answer).outcome env = .ok t := by
  obtain ⟨v, rfl, ht⟩ := strReply_eq_some.mp h
  have hreply : (reply (some v)).outcome env = .ok v := rfl
  rw [getStrProperty, Ask.outcome_bind_ok env ho, Ask.outcome_bind_ok env hreply, ht]
  rfl

theorem outcome_getStrProperty_none {answer : Prog (Option Variant)} {o : Option Variant}
    (ho : answer.outcome env = .ok o)
    (htyped : ∀ v, o = some v → ∃ t, v.asValue.getStr = .ok t) (h : strReply o = none) :
    (getStrProperty answer).outcome env = .error .sdbusplus := by
  cases o with
  | none => rw [getStrProperty, Ask.outcome_bind_ok env ho]; rfl
  | some v =>
      obtain ⟨t, ht⟩ := htyped v rfl
      rw [strReply_eq_some.mpr ⟨v, rfl, ht⟩] at h
      cases h

end Strings

section Power

variable {env : Env} {cfg : PefCfgInfo} {i : Nat} {e : EvtFilterTblEntry}

theorem hostOn_iff : hostOn env i = true ↔ PoweredOn env i := by
  rw [hostOn, decide_eq_true_iff, strReply_eq_some, PoweredOn]
  refine exists_congr fun v => and_congr Iff.rfl ?_
  cases hv : v.asValue with
  | str t => exact ⟨fun h => congrArg Variant.str (Except.ok.inj h), fun h => by cases h; rfl⟩
  | _ => exact ⟨fun h => (nomatch h), fun h => (nomatch h)⟩

theorem outcome_getPowerStatus (hw : WellTyped env) (i : Nat) :
    (getPowerStatus i).outcome env = .ok (hostOn env i) := by
  obtain ⟨power, hpower⟩ := returns_getPowerStatus hw i
  rw [hpower]
  cases hon : hostOn env i with
  | true => rw [← hpower, getPowerStatus_of_on (hostOn_iff.mp hon)]
  | false =>
      cases power with
      | true =>
          rw [hostOn_iff.mpr (getPowerStatus_true hpower)] at hon
          cases hon
      | false => rfl

theorem blind_logAction (cfg : PefCfgInfo) (i : Nat) (j : Option Nat) (action : U8) :
    Blind (logAction cfg i j action) env := blind_of_lookup (lookup_logAction cfg i j action)

theorem effects_resetHost (hw : WellTyped env) (i : Nat) :
    effects (resetHost i) env =
      if hostOn env i then [.hostTransition pwrStateReset] else [] := by
  rw [resetHost, effects, Ask.seen_blind_bind (blind_of_lookup (lookup_getPowerStatus i))
    (outcome_getPowerStatus hw i)]
  cases hostOn env i with
  | true =>
      rw [if_pos rfl, if_pos rfl, initiateStateTransition,
        Ask.seen_bind_blind fun _ _ => only_reply]
      rfl
  | false => rfl

theorem effects_powerAction (hw : WellTyped env) :
    effects (powerAction cfg i e) env = (transitionOf cfg (hostOn env i) e).toList := by
  have hlog : ∀ action, (logAction cfg i none action).outcome env = .ok () := logAction_ok cfg i
  have hreset : ∀ action, effects (do logAction cfg i none action; resetHost i) env =
      if hostOn env i then [.hostTransition pwrStateReset] else [] := by
    intro action
    rw [effects, Ask.seen_blind_bind (blind_logAction cfg i none action) (hlog action)]
    exact effects_resetHost hw i
  unfold powerAction transitionOf
  by_cases hoff : actionEnabled cfg e POWER_OFF_ACTION = true
  · have hasked : hasBits e.EvtFilterAction POWER_OFF_ACTION = true :=
      (Bool.and_eq_true _ _ ▸ hoff).1
    rw [hasked, Bool.true_or, Bool.true_or, if_pos rfl, if_pos hoff, if_pos hoff, effects,
      Ask.seen_blind_bind (blind_logAction cfg i none _) (hlog _), initiateChassisStateTransition,
      Ask.seen_bind_blind fun _ _ => only_reply]
    rfl
  rw [if_neg hoff, if_neg hoff]
  by_cases hcycle : actionEnabled cfg e POWER_CYCLE_ACTION = true
  · have hasked : hasBits e.EvtFilterAction POWER_CYCLE_ACTION = true :=
      (Bool.and_eq_true _ _ ▸ hcycle).1
    rw [hasked, Bool.or_true, Bool.true_or, if_pos rfl, if_pos hcycle, hreset, hcycle]
    cases hostOn env i <;> rfl
  by_cases hcold : actionEnabled cfg e RESET_ACTION = true
  · have hasked : hasBits e.EvtFilterAction RESET_ACTION = true :=
      (Bool.and_eq_true _ _ ▸ hcold).1
    rw [hasked, Bool.or_true, if_pos rfl, if_neg hcycle, if_pos hcold, hreset, hcold]
    cases hostOn env i <;> simp
  · have hno : (actionEnabled cfg e POWER_CYCLE_ACTION || actionEnabled cfg e RESET_ACTION) =
        false := by
      rw [Bool.eq_false_iff.mpr hcycle, Bool.eq_false_iff.mpr hcold]
      rfl
    rw [if_neg hcycle, if_neg hcold, hno, Bool.false_and, if_neg Bool.false_ne_true]
    split <;> rfl

theorem stops_power_iff {ethMap : EthChannelMap} :
    (Step.power i e).stops cfg ethMap env = true ↔ (Step.power i e).CallFails cfg ethMap env := by
  simp only [Step.stops, transitionOf, Step.CallFails]
  by_cases hoff : actionEnabled cfg e POWER_OFF_ACTION = true
  · rw [if_pos hoff]
    have hboth := actionEnabled_powerOff.mp hoff
    dsimp only
    rw [Option.isNone_iff_eq_none]
    exact ⟨fun h => Or.inl ⟨hboth, h⟩, fun h => h.elim And.right fun h => absurd hboth h.1⟩
  · rw [if_neg hoff]
    have hboth := mt actionEnabled_powerOff.mpr hoff
    by_cases hreset : ((actionEnabled cfg e POWER_CYCLE_ACTION || actionEnabled cfg e RESET_ACTION) &&
        hostOn env i) = true
    · rw [if_pos hreset]
      simp only [Bool.and_eq_true, Bool.or_eq_true, actionEnabled_powerCycle, actionEnabled_reset,
        hostOn_iff] at hreset
      dsimp only
      rw [Option.isNone_iff_eq_none]
      exact ⟨fun h => Or.inr ⟨hboth, hreset.1, hreset.2, h⟩,
        fun h => h.elim (fun h => absurd h.1 hboth) fun h => h.2.2.2⟩
    · rw [if_neg hreset]
      simp only [Bool.and_eq_true, Bool.or_eq_true, actionEnabled_powerCycle, actionEnabled_reset,
        hostOn_iff, not_and] at hreset
      refine ⟨fun h => absurd h Bool.false_ne_true, ?_⟩
      rintro (h | ⟨-, hasked, hon, -⟩)
      · exact absurd h.1 hboth
      · exact absurd hon (hreset hasked)

end Power

/-! ## Traps -/

section Alerts

variable {env : Env} {retryEnable : Bool} {s : Site} {event : EventMsgData}

theorem effects_catchSdbusplus_pure {α : Type} (p : Prog α) (a : α) :
    effects (catchSdbusplus p (pure a)) env = effects p env := by
  rw [effects, Ask.seen, asked_catchSdbusplus_pure]
  rfl

theorem effects_deliverTrap (channelNo destinationSel : U8)
    (sensorPath timeStamp hostName : String) :
    effects (deliverTrap retryEnable s event channelNo destinationSel sensorPath timeStamp hostName)
        env =
      if retryEnable then
        [.retrySnmp (toString event.recordId.toNat)
          (retryPayload
            (snmpAlertOf event channelNo destinationSel sensorPath timeStamp hostName) sensorPath)]
      else
        [.notification
          (snmpAlertOf event channelNo destinationSel sensorPath timeStamp hostName)] := by
  unfold deliverTrap
  dsimp only
  rw [effects_catchSdbusplus_pure]
  cases retryEnable with
  | true =>
      rw [if_pos rfl, if_pos rfl, effects, Ask.seen_bind_blind fun _ _ =>
        Ask.Only.bind only_reply fun _ _ => Ask.Only.pure]
      rfl
  | false => rfl

theorem outcome_getPathFromSensorNumber {sensorNum : U8} {path : String}
    (h : env (.sensorPath s sensorNum) = some path) :
    (getPathFromSensorNumber s sensorNum).outcome env = .ok path := by
  rw [getPathFromSensorNumber, Ask.outcome_ask_bind, h]
  rfl

theorem sensorPath_of_wellTyped (hw : WellTyped env) (s : Site) (sensorNum : U8) :
    ∃ path, env (.sensorPath s sensorNum) = some path :=
  Option.ne_none_iff_exists'.mp (hw.sensorPath s sensorNum)

theorem effects_sendSNMPAlert (hw : WellTyped env) (channelNo destinationSel : U8) :
    effects (sendSNMPAlert retryEnable s event channelNo destinationSel) env =
      trapEffects retryEnable env s event channelNo destinationSel := by
  obtain ⟨path, hpath⟩ := sensorPath_of_wellTyped hw s event.sensorNum
  have hmap : Blind (getEthChannelInterfaceMap (call (.alertChannelMap s))) env :=
    blind_of_lookup (lookup_getEthChannelInterfaceMap (lookup_call rfl))
  rw [sendSNMPAlert, effects,
    Ask.seen_blind_bind (blind_of_lookup (lookup_getPathFromSensorNumber s _))
      (outcome_getPathFromSensorNumber hpath),
    Ask.seen_blind_bind hmap (outcome_alertChannelMap s), trapEffects, notificationOf, hpath]
  dsimp only [Option.bind_eq_bind, Option.bind_some]
  split
  · rfl
  have htime : (call (.currentTime s)).outcome env = .ok (env (.currentTime s)) := rfl
  have hblind : Blind (getStrProperty (call (.hostName s))) env :=
    only_getStrProperty (Ask.Only.ask rfl)
  rw [Ask.seen_blind_bind (blind_of_lookup (lookup_bmcIPAddress s _)) (outcome_bmcIPAddress s _),
    Ask.seen_blind_bind (Ask.Only.ask rfl) htime]
  cases hhost : env (.hostName s) with
  | none =>
      have hread : (getStrProperty (call (.hostName s))).outcome env = .error .sdbusplus := by
        rw [getStrProperty, Ask.outcome_ask_bind, hhost]
        rfl
      rw [Ask.seen_bind_error hread, Ask.seen_of_only hblind]
      rfl
  | some v =>
      obtain ⟨hostName, hstr⟩ := hw.hostName s v hhost
      have hread : (getStrProperty (call (.hostName s))).outcome env = .ok hostName :=
        outcome_getStrProperty rfl (strReply_eq_some.mpr ⟨v, hhost, hstr⟩)
      rw [Ask.seen_blind_bind hblind hread, Option.bind_some, hstr]
      exact effects_deliverTrap channelNo destinationSel path _ _

/-! ## Mails -/

theorem toOption_getStrProperty {answer : Prog (Option Variant)} {o : Option Variant}
    (ho : answer.outcome env = .ok o) :
    ((getStrProperty answer).outcome env).toOption = strReply o := by
  rw [getStrProperty, Ask.outcome_bind_ok env ho]
  cases o with
  | none => rfl
  | some v =>
      have hreply : (reply (some v)).outcome env = .ok v := rfl
      rw [Ask.outcome_bind_ok env hreply, outcome_ofExcept]
      rfl

theorem outcome_getSmtpMailID (user : String) :
    (getSmtpMailID s user).outcome env = .ok (mailAddressOf env s user) := by
  unfold getSmtpMailID mailAddressOf
  split
  · rfl
  · have hask : (call (.smtpMailID s (userObjPathPrefix ++ user))).outcome env =
        .ok (env (.smtpMailID s (userObjPathPrefix ++ user))) := rfl
    rw [← toOption_getStrProperty hask]
    exact Ask.outcome_catching_toOption env _

theorem outcome_mailSubject (hw : WellTyped env) :
    (mailSubject s event).outcome env = .ok (mailSubjectOf env s event) := by
  have hsubject : (catchSdbusplus (getStrProperty (call (.subject s))) (pure "")).outcome env =
      .ok ((strReply (env (.subject s))).getD "") := by
    have hask : (call (.subject s)).outcome env = .ok (env (.subject s)) := rfl
    cases h : strReply (env (.subject s)) with
    | none =>
        rw [outcome_catchSdbusplus_sdbusplus (outcome_getStrProperty_none hask (hw.subject s) h)]
        rfl
    | some t => exact outcome_catchSdbusplus_ok (outcome_getStrProperty hask h)
  have hask : (call (.hostName s)).outcome env = .ok (env (.hostName s)) := rfl
  rw [mailSubject, Ask.outcome_bind_ok env hsubject, mailSubjectOf]
  cases h : strReply (env (.hostName s)) with
  | none =>
      refine outcome_catchSdbusplus_sdbusplus ?_
      rw [Ask.outcome_bind_error env (outcome_getStrProperty_none hask (hw.hostName s) h)]
  | some hostName =>
      refine outcome_catchSdbusplus_ok ?_
      rw [Ask.outcome_bind_ok env (outcome_getStrProperty hask h)]
      rfl

theorem outcome_mailBody (hw : WellTyped env) (sensorPath smtpMailID : String) :
    (mailBody s event sensorPath smtpMailID).outcome env =
      .ok (mailBodyOf env s event sensorPath smtpMailID) := by
  have hmessage : (catchSdbusplus
      (do let message ← getStrProperty (call (.message s)); pure (message ++ "\r\n"))
      (pure "")).outcome env = .ok (((strReply (env (.message s))).map (· ++ "\r\n")).getD "") := by
    have hask : (call (.message s)).outcome env = .ok (env (.message s)) := rfl
    cases h : strReply (env (.message s)) with
    | none =>
        refine outcome_catchSdbusplus_sdbusplus ?_
        rw [Ask.outcome_bind_error env (outcome_getStrProperty_none hask (hw.message s) h)]
    | some t =>
        refine outcome_catchSdbusplus_ok ?_
        rw [Ask.outcome_bind_ok env (outcome_getStrProperty hask h)]
        rfl
  rw [mailBody, Ask.outcome_bind_ok env hmessage]
  rfl

theorem outcome_mailHostReachable (iface : String) :
    (mailHostReachable s iface).outcome env = .ok (mailHostUp env s iface) := by
  unfold mailHostReachable mailHostUp
  rw [catchSdbusplus, Ask.outcome_catching, Ask.outcome_ask_bind]
  cases env (.mailProperty s iface "Enable") with
  | none => rfl
  | some enable =>
      have hreply : (reply (some enable)).outcome env = .ok enable := rfl
      rw [Ask.outcome_bind_ok env hreply]
      cases hon : enable.getBool with
      | false =>
          cases env (.mailProperty s iface "Host") with
          | none => rfl
          | some host =>
              show Except.ok false = Except.ok (enable.getBool && _)
              rw [hon, Bool.false_and]
      | true =>
          rw [if_pos rfl, Ask.outcome_ask_bind]
          cases env (.mailProperty s iface "Host") with
          | none => rfl
          | some host =>
              show Except.ok _ = Except.ok (enable.getBool && _)
              rw [hon, Bool.true_and]

theorem outcome_isMailAlertConfigured :
    (isMailAlertConfigured s).outcome env =
      .ok (mailHostUp env s primaryMailIfc || mailHostUp env s secondaryMailIfc) := by
  rw [isMailAlertConfigured, Ask.outcome_bind_ok env (outcome_mailHostReachable primaryMailIfc)]
  cases mailHostUp env s primaryMailIfc with
  | true => rfl
  | false => exact outcome_mailHostReachable secondaryMailIfc

/-- How a mail is handed over: its effects, and the status. -/
theorem deliverMail_eq (subject body : String) :
    ∃ status, (deliverMail retryEnable s subject body).outcome env = .ok status ∧
      effects (deliverMail retryEnable s subject body) env ++
          (if status = 0 then [.processed event.recordId] else []) =
        deliveryEffects retryEnable env s event subject body := by
  have hfailed : (0xFFFF : U16) ≠ 0 := by decide
  unfold deliverMail deliveryEffects
  rw [effects_catchSdbusplus_pure]
  cases retryEnable with
  | false =>
      rw [if_neg Bool.false_ne_true, if_neg Bool.false_ne_true, catchSdbusplus,
        Ask.outcome_catching, Ask.outcome_ask_bind, effects,
        Ask.seen_bind_blind fun _ _ => only_reply]
      cases env (.sendMail s subject body) with
      | none => exact ⟨0xFFFF, rfl, by rw [if_neg hfailed]; rfl⟩
      | some status =>
          refine ⟨status, rfl, ?_⟩
          simp only [Option.some.injEq]
          rfl
  | true =>
      have hblind : Blind (isMailAlertConfigured s) env :=
        blind_of_lookup (lookup_isMailAlertConfigured s)
      rw [if_pos rfl, if_pos rfl, catchSdbusplus, Ask.outcome_catching,
        Ask.outcome_bind_ok env outcome_isMailAlertConfigured, effects,
        Ask.seen_blind_bind hblind outcome_isMailAlertConfigured]
      cases mailHostUp env s primaryMailIfc || mailHostUp env s secondaryMailIfc with
      | false => exact ⟨0xFFFF, rfl, by rw [if_neg hfailed]; rfl⟩
      | true =>
          rw [if_pos rfl, if_pos rfl, Ask.outcome_ask_bind,
            Ask.seen_bind_blind fun _ _ => Ask.Only.bind only_reply fun _ _ => Ask.Only.pure]
          cases env (.retrySmtp s subject body) with
          | none => exact ⟨0xFFFF, rfl, by rw [if_neg hfailed]; rfl⟩
          | some queued => exact ⟨0, rfl, rfl⟩

theorem effects_mailAlert (hw : WellTyped env) (user : String) :
    effects (mailAlert retryEnable s event user) env = mailEffects retryEnable env s event user := by
  obtain ⟨path, hpath⟩ := sensorPath_of_wellTyped hw s event.sensorNum
  have hrecord : ∀ status : U16, effects (if status = 0 then
      catchAll (do reply (← call (.lastBMCProcessedEventID s event.recordId))) (pure ())
      else pure ()) env = if status = 0 then [.processed event.recordId] else [] := by
    intro status
    split
    · rw [catchAll, effects, Ask.seen, Ask.asked_catching, Ask.asked_ask_bind, asked_reply]
      cases (do reply (← call (.lastBMCProcessedEventID s event.recordId)) : Prog Unit).outcome env
        <;> rfl
    · rfl
  rw [mailAlert, effects, Ask.seen_blind_bind (blind_of_lookup (lookup_getSmtpMailID s user))
    (outcome_getSmtpMailID user), mailEffects, hpath]
  -- the status is that of the delivery, once there is an address to mail to
  have hsend : ∀ mailID : String, ∃ status,
      (sendSmtpAlert retryEnable s event mailID).outcome env = .ok status ∧
      effects (sendSmtpAlert retryEnable s event mailID) env ++
          (if status = 0 then [.processed event.recordId] else []) =
        if mailID = "" then []
        else deliveryEffects retryEnable env s event (mailSubjectOf env s event)
          (mailBodyOf env s event path mailID) := by
    intro mailID
    have hsubject : Blind (mailSubject s event) env := blind_of_lookup (lookup_mailSubject s event)
    have hbody : Blind (mailBody s event path mailID) env :=
      blind_of_lookup (lookup_mailBody s event path mailID)
    rw [sendSmtpAlert, effects,
      Ask.seen_blind_bind (blind_of_lookup (lookup_getPathFromSensorNumber s _))
        (outcome_getPathFromSensorNumber hpath),
      Ask.outcome_bind_ok env (outcome_getPathFromSensorNumber hpath),
      Ask.seen_blind_bind hsubject (outcome_mailSubject hw),
      Ask.outcome_bind_ok env (outcome_mailSubject hw),
      Ask.seen_blind_bind hbody (outcome_mailBody hw path mailID),
      Ask.outcome_bind_ok env (outcome_mailBody hw path mailID)]
    split
    · exact ⟨0xFFFF, rfl, rfl⟩
    · exact deliverMail_eq _ _
  obtain ⟨status, hstatus, heffects⟩ := hsend ((mailAddressOf env s user).getD "")
  rw [Ask.seen_bind_ok hstatus]
  refine (congrArg (_ ++ ·) (hrecord status)).trans (heffects.trans ?_)
  cases mailAddressOf env s user <;> rfl

/-! ## The alert of a policy -/

theorem effects_policyAction (hw : WellTyped env) (cfg : PefCfgInfo) (ethMap : EthChannelMap)
    {policy : AlertPolicyTbl} (hgroup : policy.AlertPolicyGroupNum ≠ 0) :
    effects (policyAction retryEnable cfg event ethMap s policy) env =
      alertEffects retryEnable env s event ethMap policy := by
  have hreturns : Returns (logAction cfg s.entryIdx (some s.policyIdx) ALERT_ACTION) env :=
    returns_logAction cfg s.entryIdx (some s.policyIdx) ALERT_ACTION
  obtain ⟨⟨⟩, hlog⟩ := hreturns
  have hblind : Blind (logAction cfg s.entryIdx (some s.policyIdx) ALERT_ACTION) env :=
    blind_logAction cfg s.entryIdx (some s.policyIdx) ALERT_ACTION
  rw [policyAction, if_neg hgroup, effects,
    Ask.seen_blind_bind (blind_of_lookup (lookup_destinationFor s ethMap policy))
      (outcome_destinationFor hw s ethMap policy), alertEffects]
  cases destinationOf env s ethMap policy with
  | none => rfl
  | some d =>
      obtain ⟨destinationType, user⟩ := d
      dsimp only
      split
      · rw [Ask.seen_blind_bind hblind hlog]
        exact effects_mailAlert hw user
      · split
        · rw [Ask.seen_blind_bind hblind hlog,
            Ask.seen_bind_blind fun _ _ => Ask.Only.pure]
          exact effects_sendSNMPAlert hw _ _
        · rfl

theorem stops_alert_iff (cfg : PefCfgInfo) (ethMap : EthChannelMap)
    {policy : AlertPolicyTbl} (hgroup : policy.AlertPolicyGroupNum ≠ 0) :
    (Step.alert s policy).stops cfg ethMap env = true ↔
      (Step.alert s policy).CallFails cfg ethMap env := by
  simp only [Step.stops, alertStops, Step.CallFails]
  cases destinationOf env s ethMap policy with
  | none =>
      refine ⟨fun h => absurd h Bool.false_ne_true, ?_⟩
      rintro ⟨-, ⟨_, _, h, -⟩, -⟩
      cases h
  | some d =>
      obtain ⟨destinationType, user⟩ := d
      simp only [Bool.and_eq_true, decide_eq_true_eq, Option.isNone_iff_eq_none]
      constructor
      · rintro ⟨⟨htype, hiface⟩, hhost⟩
        exact ⟨hgroup, ⟨_, _, rfl, htype⟩, hiface, hhost⟩
      · rintro ⟨-, ⟨_, _, h, htype⟩, hiface, hhost⟩
        cases h
        exact ⟨⟨htype, hiface⟩, hhost⟩

end Alerts

/-! ## The process carries the plan out -/

section Process

variable {env : Env} {retryEnable : Bool} {cfg : PefCfgInfo} {event : EventMsgData}
  {ethMap : EthChannelMap} {s : ManagerState} {order : List Bucket}

theorem blind_policies {i : Nat} {e : EvtFilterTblEntry} :
    Blind (Step.run retryEnable cfg event ethMap (.policies i e)) env :=
  Ask.Only.bind (blind_of_lookup (lookup_checkAlertPoicyTbl i _)) fun _ _ => Ask.Only.pure

theorem effects_step (hw : WellTyped env) (u : Step)
    (hgroup : ∀ site p, u = .alert site p → p.AlertPolicyGroupNum ≠ 0) :
    effects (u.run retryEnable cfg event ethMap) env =
      u.effects retryEnable cfg event ethMap env := by
  cases u with
  | power i e => exact effects_powerAction hw
  | policies i e => exact Ask.seen_of_only blind_policies
  | alert site p => exact effects_policyAction hw cfg ethMap (hgroup site p rfl)

theorem stops_iff_raises (hw : WellTyped env) (u : Step)
    (hgroup : ∀ site p, u = .alert site p → p.AlertPolicyGroupNum ≠ 0) :
    u.stops cfg ethMap env = true ↔ (u.run retryEnable cfg event ethMap).Raises env := by
  rw [raises_step hw]
  cases u with
  | power i e => exact stops_power_iff
  | policies i e => exact ⟨fun h => absurd h Bool.false_ne_true, False.elim⟩
  | alert site p => exact stops_alert_iff cfg ethMap (hgroup site p rfl)

/-- `performPefAction` carries out the plan for the entries it is given. -/
theorem effects_performPefAction (hw : WellTyped env) (M : List EvtFilterTblEntry) :
    effects (performPefAction retryEnable M event ethMap cfg) env =
      carriedOut retryEnable cfg event ethMap env (planFor cfg env M 0) := by
  have hrow : effects (performPefAction retryEnable M event ethMap cfg) env =
      effects (Ask.inRow ((steps cfg env M 0).map (Step.run retryEnable cfg event ethMap))) env :=
    congrArg (fun r : List Call × Except CxxException Unit => r.1.filterMap Call.effect)
      (performPefAction_eq_row hw retryEnable cfg event ethMap M)
  have htaken : ∀ u ∈ steps cfg env M 0, u.isTaken = false →
      u.stops cfg ethMap env = false ∧
        effects (u.run retryEnable cfg event ethMap) env = [] := by
    intro u _ hu
    cases u with
    | policies i e => exact ⟨rfl, Ask.seen_of_only blind_policies⟩
    | _ => cases hu
  have hshown : (Ask.untilStop (Step.stops cfg ethMap env) (steps cfg env M 0)).flatMap
      (fun u => effects (u.run retryEnable cfg event ethMap) env) =
      (Ask.untilStop (Step.stops cfg ethMap env)
        ((steps cfg env M 0).filter Step.isTaken)).flatMap
        (fun u => effects (u.run retryEnable cfg event ethMap) env) :=
    (Ask.flatMap_untilStop_filter htaken).symm
  rw [hrow, effects, Ask.seen_inRow fun u hu => stops_iff_raises hw u (group_of_mem_steps hu), hshown,
    carriedOut, ← filter_steps]
  refine List.flatMap_congr fun u hu => ?_
  exact effects_step hw u
    (group_of_mem_steps (List.mem_of_mem_filter (Ask.mem_of_mem_untilStop hu)))

/-- What the objects reply for an entry are the live policies it selects. -/
theorem planFor_live (hw : WellTyped env) (henv : ServesPolicyTable s order env) :
    ∀ (M : List EvtFilterTblEntry) (i : Nat),
      planFor cfg env M i = plan cfg (livePolicies s order) M i
  | [], _ => rfl
  | e :: M, i => by
      have hlook : policiesFor env i e =
          (livePolicies s order).filter fun p => Selects e.AlertPolicyNum p :=
        Except.ok.inj ((outcome_checkAlertPoicyTbl hw i e).symm.trans
          (outcome_checkAlertPoicyTbl_live henv i e.AlertPolicyNum))
      rw [planFor, plan, planFor_live hw henv M (i + 1), hlook]

end Process

/-! ## Whole events -/

/-- The settings as the process reads them. -/
def settingsOf (r : PefConfInfo) : PefCfgInfo where
  PEFControl := r .pefControl
  PEFActionGblControl := r .pefActionGblControl
  PEFStartupDly := r .pefStartupDly
  PEFAlertStartupDly := r .pefAlertStartupDly

/-- PEF is on and not postponed. -/
def pefRunning (r : PefConfInfo) (timer : U8) : Bool :=
  (r .pefControl).getLsbD 0 && (timer = 0x00 || timer = 0xFF)

/-- The objects of the manager reply with what they hold, the policy objects
in the order `order`. -/
structure ServesManager (s : ManagerState) (r : PefConfInfo) (timer : U8) (order : List Bucket)
    (env : Env) : Prop where
  filters : ServesFilterTable s env
  policies : ServesPolicyTable s order env
  settings : r ∈ s.pefConfInfo ∧ ∃ m : PropertyMap, env .pefConfInfo = some m ∧
    ∀ c : ConfColumn, m.lookup c.name = some (c.encode (r c))
  control : env .pefControl = some (.u8 (r .pefControl))
  timer : env .armPefPostponeTmr = some (.u8 timer)

section Events

variable {env : Env} {s : ManagerState} {r : PefConfInfo} {timer : U8} {order : List Bucket}

theorem outcome_getPefConfInfo (h : ServesManager s r timer order env) :
    getPefConfInfo.outcome env = .ok (some (settingsOf r)) := by
  obtain ⟨-, m, hm, hcols⟩ := h.settings
  have hat : ∀ c : ConfColumn, m.at c.name = .ok (c.encode (r c)) := by
    intro c
    rw [PropertyMap.at, hcols c]
  have hread : readPefConfInfo m = .ok (settingsOf r) := by
    have hcontrol := hat .pefControl
    have hactions := hat .pefActionGblControl
    have hdelay := hat .pefStartupDly
    have halert := hat .pefAlertStartupDly
    simp only [ConfColumn.name, ConfColumn.encode] at hcontrol hactions hdelay halert
    simp only [readPefConfInfo, hcontrol, hactions, hdelay, halert]
    rfl
  have hreply : (reply (env .pefConfInfo)).outcome env = .ok m := outcome_reply_ok.mpr hm
  have hsettings : (ofExcept (readPefConfInfo m)).outcome env = .ok (settingsOf r) := by
    rw [outcome_ofExcept, hread]
  refine outcome_catchSdbusplus_ok ?_
  rw [Ask.outcome_ask_bind, Ask.outcome_bind_ok env hreply, Ask.outcome_bind_ok env hsettings,
    Ask.outcome_pure]

theorem outcome_byteProperty {answer : Prog (Option Variant)} {x : U8}
    (h : answer.outcome env = .ok (some (.u8 x))) :
    (byteProperty answer).outcome env = .ok (some x) := by
  refine outcome_catchSdbusplus_ok ?_
  rw [Ask.outcome_bind_ok env h]
  rfl

theorem outcome_channelInterfaceMap :
    (getEthChannelInterfaceMap (call .channelInterfaceMap)).outcome env =
      .ok (ethChannels (env .channelInterfaceMap)) :=
  outcome_getEthChannelInterfaceMap rfl

theorem effects_eventFilteringProcess (hw : WellTyped env) (hfront : FrontLists s)
    (h : ServesManager s r timer order env) (retryEnable : Bool) (event : EventMsgData) :
    effects (eventFilteringProcess retryEnable event) env =
      carriedOut retryEnable (settingsOf r) event (ethChannels (env .channelInterfaceMap)) env
        (plan (settingsOf r) (livePolicies s order)
          ((liveEntries s).filter fun e => Accepts e event) 0) := by
  have hmap : Blind (getEthChannelInterfaceMap (call .channelInterfaceMap)) env :=
    blind_of_lookup (lookup_getEthChannelInterfaceMap (lookup_call rfl))
  rw [eventFilteringProcess, effects,
    Ask.seen_blind_bind (blind_of_lookup (lookup_matchedEntries event))
      (outcome_matchedEntries_live hfront h.filters event)]
  cases hM : (liveEntries s).filter fun e => Accepts e event with
  | nil => rfl
  | cons e M =>
      rw [List.isEmpty_cons, if_neg Bool.false_ne_true,
        Ask.seen_blind_bind hmap outcome_channelInterfaceMap,
        Ask.seen_blind_bind (blind_of_lookup lookup_getPefConfInfo) (outcome_getPefConfInfo h)]
      rw [← planFor_live hw h.policies]
      exact effects_performPefAction hw (e :: M)

/-- The event task carries out the plan, or does nothing. -/
theorem effects_pefTask (hw : WellTyped env) (hfront : FrontLists s)
    (h : ServesManager s r timer order env) (retryEnable : Bool) (recId : U16)
    (senType senNum eveType eveData1 eveData2 eveData3 : U8) (genId : U16) (msgStr : String) :
    effects (pefTask retryEnable recId senType senNum eveType eveData1 eveData2 eveData3 genId
        msgStr) env =
      if pefRunning r timer then
        carriedOut retryEnable (settingsOf r)
          (eventOf recId senType senNum eveType eveData1 eveData2 eveData3 genId msgStr)
          (ethChannels (env .channelInterfaceMap)) env
          (plan (settingsOf r) (livePolicies s order) ((liveEntries s).filter fun e =>
            Accepts e (eventOf recId senType senNum eveType eveData1 eveData2 eveData3 genId msgStr))
            0)
      else [] := by
  have hcontrol : Blind (byteProperty (call .pefControl)) env :=
    blind_of_lookup (lookup_byteProperty (lookup_call rfl))
  have htimer : Blind (byteProperty (call .armPefPostponeTmr)) env :=
    blind_of_lookup (lookup_byteProperty (lookup_call rfl))
  rw [pefTask, effects,
    Ask.seen_blind_bind hcontrol (outcome_byteProperty (congrArg Except.ok h.control)),
    Ask.seen_blind_bind htimer (outcome_byteProperty (congrArg Except.ok h.timer))]
  dsimp only
  rw [pefRunning]
  by_cases hidle : timer = 0x00 ∨ timer = 0xFF
  · have hgo : ¬(timer = 0xFE ∨ timer ≠ 0x00 ∧ timer ≠ 0xFF) := by
      rcases hidle with rfl | rfl <;> decide
    have hidle' : (decide (timer = 0x00) || decide (timer = 0xFF)) = true := by
      rw [Bool.or_eq_true, decide_eq_true_iff, decide_eq_true_iff]
      exact hidle
    rw [if_neg hgo, hidle', Bool.and_true]
    cases hon : (r .pefControl).getLsbD 0 with
    | false => rw [if_pos ((and_bit0 _).mpr hon), if_neg Bool.false_ne_true]; rfl
    | true =>
        have hbit : ¬(r .pefControl : U8) &&& 0x01 = 0 := by
          rw [and_bit0, hon]
          exact Bool.noConfusion
        rw [if_neg hbit, if_pos rfl]
        exact effects_eventFilteringProcess hw hfront h retryEnable _
  · have hpostponed : timer = 0xFE ∨ timer ≠ 0x00 ∧ timer ≠ 0xFF := Or.inr (not_or.mp hidle)
    have hidle' : (decide (timer = 0x00) || decide (timer = 0xFF)) = false := by
      rw [Bool.eq_false_iff, Ne, Bool.or_eq_true, decide_eq_true_iff, decide_eq_true_iff]
      exact hidle
    rw [if_pos hpostponed, hidle', Bool.and_false, if_neg Bool.false_ne_true]
    rfl

end Events

/-- Whatever a file has been loaded as and has been set to since, an event causes
exactly what the plan for the rows and settings of the objects comes to: each
effect of each step once and in order, up to a step whose call fails outside of
any handler; and nothing while PEF is off or postponed. -/
theorem pefTask_effects {data : Option Json} {us : List (SetterEnv × SetRequest)}
    {s : ManagerState} {r : PefConfInfo} {timer : U8} {order : List Bucket} {env : Env}
    (hs : Reached setStep (parsePefConfToDbus data).1 us s) (hw : WellTyped env)
    (h : ServesManager s r timer order env) (retryEnable : Bool) (recId : U16)
    (senType senNum eveType eveData1 eveData2 eveData3 : U8) (genId : U16) (msgStr : String) :
    let event := eventOf recId senType senNum eveType eveData1 eveData2 eveData3 genId msgStr
    effects (pefTask retryEnable recId senType senNum eveType eveData1 eveData2 eveData3 genId
        msgStr) env =
      if pefRunning r timer then
        carriedOut retryEnable (settingsOf r) event (ethChannels (env .channelInterfaceMap)) env
          (plan (settingsOf r) (livePolicies s order)
            ((liveEntries s).filter fun e => Accepts e event) 0)
      else [] := by
  exact effects_pefTask hw (frontLists_reached hs) h retryEnable recId senType senNum eveType eveData1
    eveData2 eveData3 genId msgStr

/-- One row that asks for a power-off and an alert of group 1, one policy in that
group, and settings that enable both. -/
def alertingFile : Json := .obj
  [("PEFConfInfo", .arr [.obj
      [("Version", .num 0x51), ("ActionSupported", .num 0x3F), ("MaxEventTblEntry", .num 40),
       ("PEFControl", .num 1), ("PEFActionGblControl", .num 0x3F), ("PEFStartupDly", .num 60),
       ("PEFAlertStartupDly", .num 60), ("LastBMCProcessedEventID", .num 0),
       ("LastSWProcessedEventID", .num 0), ("Subject", .str ""), ("Message", .str "")]]),
   ("EventFilterTable", .arr [.obj
      [("FilterConfig", .num 0x80), ("EvtFilterAction", .num 0x03), ("AlertPolicyNum", .num 1),
       ("GenIDByte1", .num 0xFF), ("GenIDByte2", .num 0xFF), ("SensorType", .num 0xFF),
       ("SensorNum", .num 0xFF), ("EventTrigger", .num 0xFF),
       ("EventData1OffsetMask", .num 0xFFFF)]]),
   ("AlertPolicyTable", .arr [.obj
      [("AlertPolicyGroupNum", .num 1), ("EnableAlert", .num 1), ("ChannelNo", .num 1),
       ("DestinationSel", .num 1)]])]

def alertingState : ManagerState := (parsePefConfToDbus (some alertingFile)).1

/-- Everything there to answer, with two trap destinations on one channel. -/
def alertingEnv (order : List Bucket) : Env
  | .pefControl => some (.u8 1)
  | .armPefPostponeTmr => some (.u8 0)
  | .pefConfInfo => (alertingState.pefConfInfo.head?).map fun r =>
      ConfColumn.all.map fun c => (c.name, c.encode (r c))
  | .channelInterfaceMap => some [(1, "eth0")]
  | .alertChannelMap _ => some [(1, "eth0")]
  | .requestedPowerTransition .. => some ()
  | .lanParam .. => some [("Type", .u8s [1, 1]), ("userName", .strs ["", ""])]
  | .sensorPath .. => some "/xyz/openbmc_project/sensors/temperature/CPU"
  | .hostName _ => some (.str "bmc")
  | .ipAddress .. => "10.0.0.1"
  | .currentTime _ => "now"
  | q => tablesEnv alertingState order q

theorem alertingEnv_wellTyped (order : List Bucket) : WellTyped (alertingEnv order) where
  currentPowerState _ _ h := by cases h
  hostName _ v h := by
    cases h
    exact ⟨"bmc", rfl⟩
  subject _ _ h := by cases h
  message _ _ h := by cases h
  alertPolicyProperties _ _ path m h := by
    obtain ⟨l, -, rfl⟩ := Option.map_eq_some_iff.mp h
    exact ⟨_, readPolicyColumns_of_reply fun c => Members.lookup_map PolicyColumn.name_injective
      (fun c => c.encode (l c)) (PolicyColumn.mem_all c)⟩
  lanParam _ _ m h := by
    cases h
    refine ⟨fun v hv => ?_, ["", ""], rfl⟩
    cases hv
    exact ⟨[1, 1], rfl⟩
  sensorPath _ _ h := by cases h

theorem alertingEnv_serves :
    ∃ r, alertingState.pefConfInfo = [r] ∧ ServesManager alertingState r 0 [0] (alertingEnv [0]) := by
  refine ⟨_, rfl, ?_⟩
  have hfilters := tablesEnv_servesFilter alertingState [0]
  have hpolicies := tablesEnv_servesPolicy (s := alertingState) (List.Perm.refl [0])
  exact
    { filters := { paths := hfilters.paths, properties := hfilters.properties }
      policies :=
        { exact := List.Perm.refl [0], paths := hpolicies.paths
          properties := hpolicies.properties }
      settings := ⟨List.mem_singleton_self _, _, rfl, fun c =>
        Members.lookup_map ConfColumn.name_injective (fun c => c.encode _) (ConfColumn.mem_all c)⟩
      control := rfl
      timer := rfl }

/-- The power is cut, and a trap sent. -/
theorem power_off_and_trap :
    effects (pefTask false 7 0x01 0x30 0x01 0x09 0xFF 0xFF 0x2000 "") (alertingEnv [0]) =
      [.powerTransition pwrCtlOff,
       .notification
        { id := 7, ts := "now", sev := "Critical", msg := "upperCritGoingHigh", eventID := "CPU"
          eventStatus := "Asserted", eventSubjectSN := "", addData := "", ip := "bmc:10.0.0.1"
          channelNo := 1, destinationSel := 1 }] := by
  obtain ⟨r, hr, hserves⟩ := alertingEnv_serves
  have hrun : Reached setStep (parsePefConfToDbus (some alertingFile)).1 [] alertingState :=
    Reached.refl _ _
  refine (pefTask_effects hrun (alertingEnv_wellTyped [0]) hserves false 7 0x01 0x30 0x01 0x09 0xFF 0xFF
    0x2000 "").trans ?_
  cases hr
  decide +kernel

end Pef
