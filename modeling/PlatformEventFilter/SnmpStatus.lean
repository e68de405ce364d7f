/-
# `SnmpStatus` — what the status of an SNMP alert says

`sendSNMPAlert` returns a status, which should be 0 exactly when the alert has
been handed over.  With the retry mode on the answer of the queue decides.  With
the retry mode off `sendOBMCErrorNotification` reports through a Boolean which
`dispatchTestDestination` returns and `sendSNMPAlert` drops.

    Sendable         every step of `sendTrap`, for the one manager there is
    notificationOf   the notification `sendSNMPAlert` gets to, from its inputs

`sendTrap` never throws (`ends_sendTrap`), so the Boolean is always there.
-/
import PlatformEventFilter.Lookups
import PlatformEventFilter.Trap

namespace Pef

/-! ## When a trap is sent -/

/-- The PDU that is sent to a manager. -/
def trapPdu (env : SnmpEnv) (a : SnmpAlert) (manager : Nat) (m : ManagerProperty) : Pdu :=
  ⟨commandOf m.version, toString (env (.uptimeTicks manager)), OBMCErrorNotification.getTrapOID,
    OBMCErrorNotification.getFieldOIDList a⟩

/-- The manager is not skipped, and every call made for it succeeds. -/
structure PduSent (env : SnmpEnv) (a : SnmpAlert) (manager : Nat) (m : ManagerProperty)
    (session : Session) : Prop where
  allowed : (getSNMPDisableStatus (env .snmpConfFile)).lookup m.version ≠ some true
  opened : (sessionFor manager m (afterLastColon a.eventSubjectSN)).outcome env =
    .ok (some session)
  added : env (.snmpAdd manager session) = true
  created : env (.pduCreate manager (commandOf m.version)) = true
  timed : env (.addUptime manager (toString (env (.uptimeTicks manager)))) = true
  named : env (.addTrapOID manager OBMCErrorNotification.getTrapOID) = true
  filled : ∀ object ∈ OBMCErrorNotification.getFieldOIDList a,
    env (.addVariable manager object) = true
  sent : env (.snmpSend manager session (trapPdu env a manager m)) = true

/-- Traps are enabled, there is a manager, and a PDU is sent to it. -/
structure Sendable (env : SnmpEnv) (a : SnmpAlert) (m : ManagerProperty) (session : Session) :
    Prop where
  enabled : getTrapEnabled (env .trapStatusFile) = true
  manager : (getManagers (some a.channelNo) (some a.destinationSel)).outcome env = .ok [m]
  pdu : PduSent env a 0 m session

/-- The computation ends with a Boolean, which tells whether `P`. -/
def Ends (p : SnmpProg Bool) (env : SnmpEnv) (P : Prop) : Prop :=
  ∃ b, p.outcome env = .ok b ∧ (b = true ↔ P)

section Ends

variable {env : SnmpEnv} {P R : Prop}

theorem Ends.congr {p : SnmpProg Bool} (h : Ends p env P) (hPR : P ↔ R) : Ends p env R := by
  obtain ⟨b, hb, hP⟩ := h
  exact ⟨b, hb, hP.trans hPR⟩

theorem ends_false (h : ¬ P) : Ends (pure false) env P :=
  ⟨false, rfl, fun hfalse => absurd hfalse Bool.false_ne_true, fun hP => absurd hP h⟩

theorem ends_ask_bind {q : SnmpCall} {f : q.Answer → SnmpProg Bool} (h : Ends (f (env q)) env P) :
    Ends (snmpCall q >>= f) env P := by
  obtain ⟨b, hb, hP⟩ := h
  exact ⟨b, by rw [Ask.outcome_ask_bind, hb], hP⟩

theorem ends_bind {α : Type} {p : SnmpProg α} {f : α → SnmpProg Bool} {x : α}
    (hx : p.outcome env = .ok x) (h : Ends (f x) env P) : Ends (p >>= f) env P := by
  obtain ⟨b, hb, hP⟩ := h
  exact ⟨b, by rw [Ask.outcome_bind_ok env hx, hb], hP⟩

theorem ends_unless {b : Bool} {p : SnmpProg Bool} (h : Ends p env P) :
    Ends (if !b then pure false else p) env (b = true ∧ P) := by
  cases b with
  | false => exact ends_false fun h => Bool.false_ne_true h.1
  | true => exact h.congr ⟨fun hP => ⟨rfl, hP⟩, fun hP => hP.2⟩

/-! ## The variables of a trap -/

/-- Adding variables never throws when the types fit. -/
theorem ends_addPDUVars (manager : Nat) :
    ∀ {objects : List TrapObject}, (∀ object ∈ objects, getASNType object.value = object.type) →
      Ends (addPDUVars manager objects) env
        (∀ object ∈ objects, env (.addVariable manager object) = true)
  | [], _ => ⟨true, rfl, fun _ _ h => absurd h List.not_mem_nil, fun _ => rfl⟩
  | object :: objects, htyped => by
      have ih : Ends (addPDUVars manager objects) env _ :=
        ends_addPDUVars manager fun x hx => htyped x (List.mem_cons_of_mem object hx)
      have hadd : (addPDUVar manager object).outcome env =
          .ok (env (.addVariable manager object)) := by
        rw [addPDUVar, if_pos (htyped object List.mem_cons_self), Ask.outcome_ask]
      refine Ends.congr (ends_bind hadd ?_) List.forall_mem_cons.symm
      cases hb : env (.addVariable manager object) with
      | false => exact ends_false fun h => Bool.false_ne_true h.1
      | true => exact ih.congr ⟨fun hP => ⟨rfl, hP⟩, fun hP => hP.2⟩

theorem typed_getFieldOIDList (a : SnmpAlert) :
    ∀ object ∈ OBMCErrorNotification.getFieldOIDList a,
      getASNType object.value = object.type := by
  simp [OBMCErrorNotification.getFieldOIDList, OBMCErrorNotification.field]

/-! ## The session of a manager -/

theorem sessionFor_ok (manager : Nat) (m : ManagerProperty) (bmcIPAddress : String) :
    ∃ session, (sessionFor manager m bmcIPAddress).outcome env = .ok session := by
  unfold sessionFor
  split
  · exact ⟨_, rfl⟩
  split
  · exact ⟨_, rfl⟩
  split
  · rw [Ask.outcome_ask_bind]
    split
    · exact ⟨_, rfl⟩
    rw [Ask.outcome_ask_bind, Ask.outcome_ask_bind]
    split
    · exact ⟨_, rfl⟩
    rw [Ask.outcome_ask_bind]
    split
    · exact ⟨_, rfl⟩
    · exact ⟨_, rfl⟩
  · exact ⟨_, rfl⟩

theorem ends_sendToManager (a : SnmpAlert) (manager : Nat) (m : ManagerProperty) :
    Ends (sendToManager a (getSNMPDisableStatus (env .snmpConfFile))
        (afterLastColon a.eventSubjectSN) manager m) env
      (∃ session, PduSent env a manager m session) := by
  unfold sendToManager
  split
  · next hdisabled =>
      refine ends_false fun ⟨_, h⟩ => h.allowed ?_
      cases hlookup : (getSNMPDisableStatus (env .snmpConfFile)).lookup m.version with
      | none => rw [hlookup] at hdisabled; cases hdisabled
      | some b => rw [hlookup] at hdisabled; exact congrArg some hdisabled
  next hallowed =>
  have hallowed' : (getSNMPDisableStatus (env .snmpConfFile)).lookup m.version ≠ some true :=
    fun h => hallowed (by rw [h]; rfl)
  have hreturns : ∃ session, (sessionFor manager m (afterLastColon a.eventSubjectSN)).outcome env =
      .ok session := sessionFor_ok manager m _
  obtain ⟨session, hsession⟩ := hreturns
  refine ends_bind hsession ?_
  cases session with
  | none =>
      refine ends_false fun ⟨_, h⟩ => ?_
      cases hsession.symm.trans h.opened
  | some session =>
      have hfilled : Ends (addPDUVars manager (OBMCErrorNotification.getFieldOIDList a)) env _ :=
        ends_addPDUVars manager (typed_getFieldOIDList a)
      obtain ⟨b, hb, hvariables⟩ := hfilled
      refine Ends.congr (P := env (.snmpAdd manager session) = true ∧
        env (.pduCreate manager (commandOf m.version)) = true ∧
        env (.addUptime manager (toString (env (.uptimeTicks manager)))) = true ∧
        env (.addTrapOID manager OBMCErrorNotification.getTrapOID) = true ∧ b = true ∧
        env (.snmpSend manager session (trapPdu env a manager m)) = true) ?_ ?_
      · refine ends_ask_bind (ends_unless ?_)
        refine ends_ask_bind (ends_unless ?_)
        refine ends_ask_bind (ends_ask_bind (ends_unless ?_))
        refine ends_ask_bind (ends_unless ?_)
        refine ends_bind hb (ends_unless ?_)
        exact ⟨_, rfl, Iff.rfl⟩
      · constructor
        · rintro ⟨hadded, hcreated, htimed, hnamed, hfilled, hsent⟩
          exact ⟨session, hallowed', hsession, hadded, hcreated, htimed, hnamed,
            hvariables.mp hfilled, hsent⟩
        · rintro ⟨session', h⟩
          cases hsession.symm.trans h.opened
          exact ⟨h.added, h.created, h.timed, h.named, hvariables.mpr h.filled, h.sent⟩

/-! ## The managers -/

/-- Of a peer there is a manager with the community string, one with a stored user, or
none. -/
theorem managersOfPeer_cases {cfg : TrapConfig} {selected : Option (Nat × U8 × String)}
    {managers : List ManagerProperty}
    (h : (managersOfPeer cfg selected).outcome env = .ok managers) :
    managers = [] ∨ ∃ i t peer, selected = some (i, t, peer) ∧
      ((t = 0 ∨ t = 1) ∧ cfg.community ≠ "" ∧
          managers = [⟨peer, if t = 0 then "v1" else "v2c", cfg.community, "", "", "", ""⟩] ∨
        t = 2 ∧ ∃ user algorithm encryption password, cfg.userName[i]? = some user ∧
          (loadSnmpV3UserFromDBus user).outcome env =
            .ok (some (algorithm, encryption, password)) ∧
          managers = [⟨peer, "v3", "", user, algorithm, encryption, password⟩]) := by
  unfold managersOfPeer at h
  split at h
  · cases h
    exact .inl rfl
  next i t peer =>
  split at h
  · next htype =>
      cases h
      split
      · exact .inl rfl
      · next hcommunity => exact .inr ⟨i, t, peer, rfl, .inl ⟨htype, hcommunity, rfl⟩⟩
  split at h
  · next htype =>
      split at h
      · cases h
        exact .inl rfl
      next user huser =>
      split at h
      · cases h
        exact .inl rfl
      obtain ⟨v3, hv3, h⟩ := Ask.outcome_bind_eq_ok env h
      cases v3 with
      | none =>
          cases h
          exact .inl rfl
      | some v3 =>
          obtain ⟨algorithm, encryption, password⟩ := v3
          cases h
          exact .inr ⟨i, t, peer, rfl, .inr ⟨htype, user, algorithm, encryption, password, huser,
            hv3, rfl⟩⟩
  · cases h
    exact .inl rfl

theorem managersOf_atMostOne {cfg : TrapConfig} {destinationSel : U8}
    {managers : List ManagerProperty}
    (h : (managersOf cfg destinationSel).outcome env = .ok managers) :
    managers = [] ∨ ∃ m, managers = [m] := by
  rcases managersOfPeer_cases h with hnone | ⟨_, _, _, -, ⟨-, -, hone⟩ | ⟨-, _, _, _, _, -, -, hone⟩⟩
  · exact .inl hnone
  · exact .inr ⟨_, hone⟩
  · exact .inr ⟨_, hone⟩

theorem getManagers_atMostOne {channelNo destinationSel : Option U8}
    {managers : List ManagerProperty}
    (h : (getManagers channelNo destinationSel).outcome env = .ok managers) :
    managers = [] ∨ ∃ m, managers = [m] := by
  obtain ⟨bus, -, h⟩ := Ask.outcome_bind_eq_ok env h
  cases bus with
  | none => cases h
  | some _ =>
      obtain ⟨ethMap, -, h⟩ := Ask.outcome_bind_eq_ok env h
      split at h
      · cases h; exact Or.inl rfl
      obtain ⟨mergedData, -, h⟩ := Ask.outcome_bind_eq_ok env h
      split at h
      · cases h; exact Or.inl rfl
      split at h
      · exact managersOf_atMostOne h
      · cases h; exact Or.inl rfl

/-- `sendOBMCErrorNotification` always ends, and tells whether a trap is sent. -/
theorem ends_sendOBMCErrorNotification (a : SnmpAlert) :
    Ends (sendOBMCErrorNotification a) env (∃ m session, Sendable env a m session) := by
  refine ends_ask_bind ?_
  have henabled : ∀ {p : SnmpProg Bool} {P : Prop}, Ends p env P →
      Ends (if !getTrapEnabled (env .trapStatusFile) then pure false else p) env
        (getTrapEnabled (env .trapStatusFile) = true ∧ P) := ends_unless
  refine Ends.congr (henabled (ends_ask_bind (P := ∃ m session,
    (getManagers (some a.channelNo) (some a.destinationSel)).outcome env = .ok [m] ∧
      PduSent env a 0 m session) ?_)) ?_
  · refine ends_bind (Ask.outcome_catching_toOption env _) ?_
    cases hmanagers : (getManagers (some a.channelNo) (some a.destinationSel)).outcome env with
    | error x => exact ends_false fun ⟨_, _, h, _⟩ => by cases h
    | ok managers =>
        rcases getManagers_atMostOne hmanagers with rfl | ⟨m, rfl⟩
        · exact ends_false fun ⟨_, _, h, _⟩ => by cases h
        · have hends : Ends _ env (∃ session, PduSent env a 0 m session) :=
            ends_sendToManager a 0 m
          obtain ⟨b, hb, hsent⟩ := hends
          refine ends_bind hb ⟨b, ?_, ?_⟩
          · show Except.ok (b || false) = _
            rw [Bool.or_false]
          · rw [hsent]
            constructor
            · rintro ⟨session, h⟩
              exact ⟨m, session, rfl, h⟩
            · rintro ⟨_, session, heq, h⟩
              cases heq
              exact ⟨session, h⟩
  · constructor
    · rintro ⟨henabled, m, session, hmanagers, hpdu⟩
      exact ⟨m, session, henabled, hmanagers, hpdu⟩
    · rintro ⟨m, session, h⟩
      exact ⟨h.enabled, m, session, h.manager, h.pdu⟩

end Ends

/-! ## The status of an alert -/

/-- What `sendOBMCErrorNotification` returns. -/
def notified (snmp : SnmpEnv) (a : SnmpAlert) : Bool :=
  match (sendOBMCErrorNotification a).outcome snmp with
  | .ok sent => sent
  | .error _ => false

theorem notified_iff (snmp : SnmpEnv) (a : SnmpAlert) :
    notified snmp a = true ↔ ∃ m session, Sendable snmp a m session := by
  have hends : Ends (sendOBMCErrorNotification a) snmp _ := ends_sendOBMCErrorNotification a
  obtain ⟨b, hb, hsent⟩ := hends
  rw [notified, hb]
  exact hsent

/-- Notifications are answered by `sendOBMCErrorNotification`, each of them with
the answers it gets itself. -/
def Env.withSnmp (env : Env) (snmp : Site → SnmpAlert → SnmpEnv) : Env
  | .notification s a => notified (snmp s a) a
  | q => env q

/-- The alert is handed over: sent, or with the retry mode on taken into the
queue. -/
def AlertTaken (retryEnable : Bool) (env : Env) : Call → Prop
  | .retrySnmp s identifier payload =>
      retryEnable = true ∧ env (.retrySnmp s identifier payload) = some true
  | .notification s a => retryEnable = false ∧ env (.notification s a) = true
  | _ => False

/-- The status is 0 exactly when an alert is handed over. -/
def StatusAgrees (retryEnable : Bool) (env : Env) (p : Prog U16) : Prop :=
  p.outcome env = .ok 0 ↔ ∃ q ∈ p.asked env, AlertTaken retryEnable env q

/-- The notification of an event. -/
def snmpAlertOf (event : EventMsgData) (channelNo destinationSel : U8)
    (sensorPath timeStamp hostName : String) : SnmpAlert where
  id := event.recordId
  ts := timeStamp
  sev := (snmpSeverity event).1
  msg := eventDataMsg event fun eventStr =>
    getSensorNameFromPath sensorPath ++ " " ++ (snmpSeverity event).2 ++ " " ++ eventStr
  eventID := getSensorNameFromPath sensorPath
  eventStatus := (snmpSeverity event).2
  eventSubjectSN := ""
  addData := ""
  ip := hostName
  channelNo := channelNo
  destinationSel := destinationSel

/-- The notification `sendSNMPAlert` gets to, none when the numbering of the sensors
throws, the channel has no interface, or there is no host name.  A number no sensor
has is no hindrance: its path is empty, and so is the name in the alert. -/
def notificationOf (env : Env) (s : Site) (event : EventMsgData) (channelNo destinationSel : U8) :
    Option SnmpAlert := do
  let sensorPath ← env (.sensorPath s event.sensorNum)
  let ifaceName := getInterfaceNameForChannel channelNo (ethChannels (env (.alertChannelMap s)))
  if ifaceName = "" then none
  else do
    let variant ← env (.hostName s)
    let hostName ← variant.asValue.getStr.toOption
    let ipAddress := env (.ipAddress s (some ifaceName))
    let ipAddress := if ipAddress = "" then env (.ipAddress s none) else ipAddress
    some (snmpAlertOf event channelNo destinationSel sensorPath (env (.currentTime s))
      (hostName ++ ":" ++ ipAddress))

section Status

variable {retryEnable : Bool} {env : Env}

theorem not_alertTaken_of_isLookup {q : Call} (h : q.isLookup = true) :
    ¬ AlertTaken retryEnable env q := by
  cases q <;> first | exact id | cases h

theorem statusAgrees_lookup_bind {α : Type} {p : Prog α} {f : α → Prog U16} {a : α}
    (hp : Lookup p env) (h : p.outcome env = .ok a) :
    StatusAgrees retryEnable env (p >>= f) ↔ StatusAgrees retryEnable env (f a) := by
  rw [StatusAgrees, StatusAgrees, Ask.outcome_bind_ok env h, Ask.asked_bind_ok env h]
  refine iff_congr Iff.rfl ⟨?_, ?_⟩
  · rintro ⟨q, hq, htaken⟩
    rcases List.mem_append.mp hq with hq | hq
    · exact absurd htaken (not_alertTaken_of_isLookup (hp q hq))
    · exact ⟨q, hq, htaken⟩
  · rintro ⟨q, hq, htaken⟩
    exact ⟨q, List.mem_append_right _ hq, htaken⟩

theorem statusAgrees_of_error {α : Type} {p : Prog α} {f : α → Prog U16} {e : CxxException}
    (hp : Lookup p env) (h : p.outcome env = .error e) :
    StatusAgrees retryEnable env (p >>= f) := by
  rw [StatusAgrees, Ask.outcome_bind_error env h, Ask.asked_bind_error env h]
  constructor
  · intro h
    cases h
  · rintro ⟨q, hq, htaken⟩
    exact absurd htaken (not_alertTaken_of_isLookup (hp q hq))

theorem statusAgrees_pure {status : U16} (h : status ≠ 0) :
    StatusAgrees retryEnable env (pure status) := by
  refine ⟨fun h0 => absurd (Except.ok.inj h0) h, ?_⟩
  rintro ⟨q, hq, -⟩
  exact absurd hq List.not_mem_nil

theorem statusAgrees_single {p : Prog U16} {q : Call} {status : U16}
    (hasked : p.asked env = [q]) (h : p.outcome env = .ok status) :
    StatusAgrees retryEnable env p ↔ (status = 0 ↔ AlertTaken retryEnable env q) := by
  rw [StatusAgrees, hasked, h]
  refine iff_congr ⟨Except.ok.inj, congrArg Except.ok⟩ ⟨?_, ?_⟩
  · rintro ⟨q', hq', htaken⟩
    rwa [← List.mem_singleton.mp hq']
  · intro htaken
    exact ⟨q, List.mem_singleton_self q, htaken⟩

theorem statusAgrees_retrySnmp (s : Site) (identifier : String) (payload : List (String × String)) :
    StatusAgrees true env
      (catchSdbusplus
        (do
          let retryQueued ← reply (← call (.retrySnmp s identifier payload))
          pure (if retryQueued then 0 else 0xFFFF))
        (pure 0xFFFF)) := by
  have hfailed : (0xFFFF : U16) ≠ 0 := by decide
  have hasked : (catchSdbusplus
        (do
          let retryQueued ← reply (← call (.retrySnmp s identifier payload))
          pure (if retryQueued then 0 else 0xFFFF))
        (pure (0xFFFF : U16))).asked env = [.retrySnmp s identifier payload] := by
    rw [asked_catchSdbusplus_pure, Ask.asked_ask_bind]
    cases env (.retrySnmp s identifier payload) <;> rfl
  have hstatus : (catchSdbusplus
        (do
          let retryQueued ← reply (← call (.retrySnmp s identifier payload))
          pure (if retryQueued then 0 else 0xFFFF))
        (pure (0xFFFF : U16))).outcome env =
          .ok (if env (.retrySnmp s identifier payload) = some true then 0 else 0xFFFF) := by
    rw [catchSdbusplus, Ask.outcome_catching, Ask.outcome_ask_bind]
    cases env (.retrySnmp s identifier payload) with
    | none => rfl
    | some retryQueued => cases retryQueued <;> rfl
  refine (statusAgrees_single hasked hstatus).mpr ⟨?_, ?_⟩
  · intro h
    split at h
    · next htaken => exact ⟨rfl, htaken⟩
    · exact absurd h hfailed
  · intro h
    exact if_pos h.2

/-- With the retry mode on the status is right, with the retry mode off only
when the trap is sent. -/
theorem statusAgrees_deliverTrap (s : Site) (event : EventMsgData)
    (channelNo destinationSel : U8) (sensorPath timeStamp hostName : String) :
    StatusAgrees retryEnable env
        (deliverTrap retryEnable s event channelNo destinationSel sensorPath timeStamp hostName) ↔
      retryEnable = true ∨ env (.notification s
        (snmpAlertOf event channelNo destinationSel sensorPath timeStamp hostName)) = true := by
  unfold deliverTrap
  cases retryEnable with
  | true =>
      refine ⟨fun _ => Or.inl rfl, fun _ => ?_⟩
      dsimp only
      rw [if_pos rfl]
      exact statusAgrees_retrySnmp s _ _
  | false =>
      dsimp only
      rw [if_neg Bool.false_ne_true]
      have hbody : ∀ a, (call (.notification s a) >>= fun _ => (pure 0 : Prog U16)).outcome env =
          .ok 0 := fun a => rfl
      refine (statusAgrees_single (asked_catchSdbusplus_ok (hbody _))
        (outcome_catchSdbusplus_ok (hbody _))).trans ⟨?_, ?_⟩
      · intro h
        exact Or.inr (h.mp rfl).2
      · intro h
        exact ⟨fun _ => ⟨rfl, h.resolve_left Bool.false_ne_true⟩, fun _ => rfl⟩

theorem outcome_alertChannelMap (s : Site) :
    (getEthChannelInterfaceMap (call (.alertChannelMap s))).outcome env =
      .ok (ethChannels (env (.alertChannelMap s))) :=
  outcome_getEthChannelInterfaceMap rfl

theorem outcome_bmcIPAddress (s : Site) (iface : String) :
    (bmcIPAddress s iface).outcome env =
      .ok (if env (.ipAddress s (some iface)) = "" then env (.ipAddress s none)
        else env (.ipAddress s (some iface))) := by
  rw [bmcIPAddress, Ask.outcome_ask_bind]
  split <;> rfl

theorem statusAgrees_sendSNMPAlert (s : Site) (event : EventMsgData)
    (channelNo destinationSel : U8) :
    StatusAgrees retryEnable env (sendSNMPAlert retryEnable s event channelNo destinationSel) ↔
      retryEnable = true ∨ ∀ a ∈ notificationOf env s event channelNo destinationSel,
        env (.notification s a) = true := by
  unfold sendSNMPAlert notificationOf
  have hagrees : ∀ {p : Prog U16}, StatusAgrees retryEnable env p →
      (StatusAgrees retryEnable env p ↔ retryEnable = true ∨ ∀ a ∈ (none : Option SnmpAlert),
        env (.notification s a) = true) := fun h =>
    ⟨fun _ => Or.inr fun _ ha => (nomatch ha), fun _ => h⟩
  cases hpath : env (.sensorPath s event.sensorNum) with
  | none =>
      refine hagrees (statusAgrees_of_error (e := .outOfRange) (lookup_getPathFromSensorNumber s _) ?_)
      rw [getPathFromSensorNumber, Ask.outcome_ask_bind, hpath]
      rfl
  | some path =>
      have hpath' : (getPathFromSensorNumber s event.sensorNum).outcome env = .ok path := by
        rw [getPathFromSensorNumber, Ask.outcome_ask_bind, hpath]
        rfl
      rw [statusAgrees_lookup_bind (lookup_getPathFromSensorNumber s _) hpath',
        statusAgrees_lookup_bind (lookup_getEthChannelInterfaceMap (lookup_call rfl))
          (outcome_alertChannelMap s)]
      dsimp only [Option.bind_eq_bind, Option.bind_some]
      split
      · next hiface => exact hagrees (statusAgrees_pure (by decide))
      · have htime : (call (.currentTime s)).outcome env = .ok (env (.currentTime s)) := rfl
        have hlookup : Lookup (getStrProperty (call (.hostName s))) env :=
          only_getStrProperty (lookup_call rfl)
        rw [statusAgrees_lookup_bind (lookup_bmcIPAddress s _) (outcome_bmcIPAddress s _),
          statusAgrees_lookup_bind (lookup_call rfl) htime]
        cases hhost : env (.hostName s) with
        | none =>
            refine hagrees (statusAgrees_of_error (e := .sdbusplus) hlookup ?_)
            rw [getStrProperty, Ask.outcome_ask_bind, hhost]
            rfl
        | some variant =>
            have hread : (getStrProperty (call (.hostName s))).outcome env =
                variant.asValue.getStr := by
              rw [getStrProperty, Ask.outcome_ask_bind, hhost]
              exact outcome_ofExcept variant.asValue.getStr
            rw [Option.bind_some]
            cases hstr : variant.asValue.getStr with
            | error e =>
                rw [hstr] at hread
                exact hagrees (statusAgrees_of_error hlookup hread)
            | ok hostName =>
                rw [hstr] at hread
                rw [statusAgrees_lookup_bind hlookup hread, statusAgrees_deliverTrap]
                exact or_congr Iff.rfl ⟨fun h _ ha => Option.some.inj ha ▸ h, fun h => h _ rfl⟩

end Status

/-- The status of an SNMP alert agrees with its delivery exactly when the retry
mode is on, or no notification is got to, or the trap is sent. -/
theorem sendSNMPAlert_status_iff (env : Env) (snmp : Site → SnmpAlert → SnmpEnv)
    (retryEnable : Bool) (s : Site) (event : EventMsgData) (channelNo destinationSel : U8) :
    StatusAgrees retryEnable (env.withSnmp snmp)
        (sendSNMPAlert retryEnable s event channelNo destinationSel) ↔
      retryEnable = true ∨ ∀ a ∈ notificationOf env s event channelNo destinationSel,
        ∃ m session, Sendable (snmp s a) a m session := by
  rw [statusAgrees_sendSNMPAlert]
  refine or_congr Iff.rfl (forall₂_congr fun a _ => ?_)
  exact notified_iff (snmp s a) a

/-- A sensor, an interface and a host name. -/
def trapEnv : Env
  | .sensorPath .. => some "/xyz/openbmc_project/sensors/temperature/CPU"
  | .alertChannelMap _ => some [(1, "eth0")]
  | .hostName _ => some (.str "bmc")
  | q => Env.dead q

/-- No file, no bus, no session. -/
def SnmpEnv.dead : SnmpEnv
  | .trapStatusFile => none
  | .snmpConfFile => none
  | .newDefaultBus => none
  | .channelInterfaceMap => none
  | .lanParamConfFile => none
  | .snmpUser _ => none
  | .decryptString _ => ""
  | .snmpGroup _ => []
  | .engineID _ => []
  | .generateKu .. => none
  | .snmpAdd .. => false
  | .pduCreate .. => false
  | .uptimeTicks _ => 0
  | .addUptime .. => false
  | .addTrapOID .. => false
  | .addVariable .. => false
  | .snmpSend .. => false
  | .testChannelMap => none
  | .testLanParamConfFile => none
  | .testTimestamp => ""
  | .testMailID _ => none
  | .testMail .. => none

/-- With the traps disabled the status is 0 all the same. -/
theorem disabled_trap_reported :
    ¬ StatusAgrees false (trapEnv.withSnmp fun _ _ => SnmpEnv.dead)
      (sendSNMPAlert false ⟨0, 0⟩ ⟨1, 0, 0x20, 1, 1, 1, 0, 0, 0, ""⟩ 1 1) := by
  intro h
  have hstatus : (sendSNMPAlert false ⟨0, 0⟩ ⟨1, 0, 0x20, 1, 1, 1, 0, 0, 0, ""⟩ 1 1).outcome
      (trapEnv.withSnmp fun _ _ => SnmpEnv.dead) = .ok 0 := by
    decide +kernel
  obtain ⟨q, -, htaken⟩ := h.mp hstatus
  cases q with
  | retrySnmp s identifier payload =>
      have hretry : false = true := htaken.1
      cases hretry
  | notification s a =>
      have hsent : false = true := htaken.2
      cases hsent
  | _ => exact htaken

end Pef
