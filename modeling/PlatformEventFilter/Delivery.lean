/-
# `Delivery` — what is due is handed over

`TrapTarget` and `MailTarget` say that nothing goes anywhere else.  Here is the other
half: when every call is answered, an alert that the live tables ask for is made, and
when the library takes what it is given, its trap is sent.

    due_trap_sent    a destination with a peer and what its version needs
    due_mail_sent    a user with an address

The selector has to be smaller than the number of destinations, and not 0: the event
process does not get to the last one.
-/
import PlatformEventFilter.MailTarget

namespace Pef

/-! ## Answers -/

/-- Every request of the event process is answered, with one map of channels. -/
structure Answers (env : Env) : Prop where
  chassis : ∀ i value, (env (.requestedPowerTransition i value)).isSome = true
  host : ∀ i value, (env (.requestedHostTransition i value)).isSome = true
  hostName : ∀ s, (env (.hostName s)).isSome = true
  channels : ∀ s, env (.alertChannelMap s) = env .channelInterfaceMap

/-- Traps are enabled in all versions, and the library takes what it is given. -/
structure LibraryUp (snmp : SnmpEnv) : Prop where
  enabled : getTrapEnabled (snmp .trapStatusFile) = true
  allowed : ∀ v, ¬Disabled v (snmp .snmpConfFile)
  bus : snmp .newDefaultBus = some ()
  added : ∀ manager session, snmp (.snmpAdd manager session) = true
  created : ∀ manager command, snmp (.pduCreate manager command) = true
  timed : ∀ manager uptime, snmp (.addUptime manager uptime) = true
  named : ∀ manager oid, snmp (.addTrapOID manager oid) = true
  filled : ∀ manager object, snmp (.addVariable manager object) = true
  sent : ∀ manager session pdu, snmp (.snmpSend manager session pdu) = true

/-- The channel of the policy has a live object, and the event process gets to the
destination at the selector. -/
structure InReach (lan : LanSystem) (ethMap : EthChannelMap) (p : AlertPolicyTbl) (iface : String)
    (param : LanParam) (a : LanArrays) : Prop where
  channel : ethMap.lookup p.ChannelNo = some iface
  object : lan.param iface = some param
  arrays : param.arrays = some a
  first : p.DestinationSel ≠ 0
  notLast : p.DestinationSel.toNat < a.typeArr.length

/-- The user is stored and is in the group, and keys can be made. -/
structure KnownUser (snmp : SnmpEnv) (user : String) : Prop where
  named : user ≠ ""
  stored : ∃ v3, (loadSnmpV3UserFromDBus user).outcome snmp = .ok (some v3)
  member : user ∈ snmp (.snmpGroup 0)
  keys : ∀ use proto password, (snmp (.generateKu 0 use proto password)).isSome = true

/-- A destination with a community string for v1 and v2c, and with a known user for v3. -/
def Served (snmp : SnmpEnv) (row : ManagerRow) (community : String) : Prop :=
  (row.type = 0 ∨ row.type = 1) ∧ community ≠ "" ∨
    row.type = 2 ∧ ∃ user, row.userName = some user ∧ KnownUser snmp user

/-- The destination is one for traps, with a peer and what its version needs. -/
def TrapDue (lan : LanSystem) (ethMap : EthChannelMap) (snmp : SnmpEnv) (p : AlertPolicyTbl) :
    Prop :=
  ∃ iface param a row, InReach lan ethMap p iface param a ∧
    a.managerRow (p.DestinationSel.toNat - 1) = some row ∧
    (row.peer (p.DestinationSel.toNat - 1)).isSome = true ∧ Served snmp row param.CommunityString

/-- The destination is one for mails, to a user with an address. -/
def MailDue (lan : LanSystem) (ethMap : EthChannelMap) (env : Env) (p : AlertPolicyTbl) : Prop :=
  ∃ iface param a user mailID, InReach lan ethMap p iface param a ∧
    a.typeArr[p.DestinationSel.toNat - 1]? = some 3 ∧
    a.userArr[p.DestinationSel.toNat - 1]? = some user ∧ user ≠ "" ∧ mailID ≠ "" ∧
    ∀ s, strReply (env (.smtpMailID s (userObjPathPrefix ++ user))) = some mailID

/-! ## Steps of the plan -/

section Plan

variable {env : Env} {retryEnable : Bool} {cfg : PefCfgInfo} {event : EventMsgData}
  {ethMap : EthChannelMap} {policies : List AlertPolicyTbl}

theorem alert_mem_alertSteps {i : Nat} {p : AlertPolicyTbl} :
    ∀ {ps : List AlertPolicyTbl} (j : Nat), p ∈ ps → ∃ s, Step.alert s p ∈ alertSteps i ps j
  | [], _, h => absurd h List.not_mem_nil
  | q :: ps, j, h => by
      rcases List.mem_cons.mp h with rfl | h
      · exact ⟨_, List.mem_cons_self⟩
      · obtain ⟨s, hs⟩ := alert_mem_alertSteps (j + 1) h
        exact ⟨s, List.mem_cons_of_mem _ hs⟩

theorem alert_mem_plan {e : EvtFilterTblEntry} {p : AlertPolicyTbl}
    (halert : actionEnabled cfg e ALERT_ACTION = true) (hp : p ∈ policies)
    (hselects : Selects e.AlertPolicyNum p) :
    ∀ {M : List EvtFilterTblEntry} (i : Nat), e ∈ M → ∃ s, Step.alert s p ∈ plan cfg policies M i
  | [], _, h => absurd h List.not_mem_nil
  | e' :: M, i, h => by
      rcases List.mem_cons.mp h with rfl | h
      · have hmem : p ∈ policies.filter fun p => Selects e.AlertPolicyNum p :=
          List.mem_filter.mpr ⟨hp, decide_eq_true hselects⟩
        obtain ⟨s, hs⟩ := alert_mem_alertSteps (i := i) 0 hmem
        refine ⟨s, List.mem_append_left _ (List.mem_cons_of_mem _ ?_)⟩
        rw [if_pos halert]
        exact hs
      · obtain ⟨s, hs⟩ := alert_mem_plan halert hp hselects (i + 1) h
        exact ⟨s, List.mem_append_right _ hs⟩

theorem Answers.stops (h : Answers env) (step : Step) : step.stops cfg ethMap env = false := by
  have hisNone : ∀ {α : Type} {o : Option α}, o.isSome = true → o.isNone = false := by
    intro α o ho
    rw [← Option.not_isSome, ho]
    rfl
  cases step with
  | power i e =>
      dsimp only [Step.stops]
      split
      · next value _ => exact hisNone (h.chassis i value)
      · next value _ => exact hisNone (h.host i value)
      · rfl
  | policies i e => rfl
  | alert s p =>
      dsimp only [Step.stops, alertStops]
      split
      · rfl
      · rw [hisNone (h.hostName s), Bool.and_false]

theorem Answers.carriedOut (h : Answers env) {steps : List Step} {s : Site} {p : AlertPolicyTbl}
    {x : Effect} (hstep : Step.alert s p ∈ steps)
    (hx : x ∈ alertEffects retryEnable env s event ethMap p) :
    x ∈ carriedOut retryEnable cfg event ethMap env steps := by
  rw [Pef.carriedOut, Ask.untilStop_eq_self fun step _ => h.stops step]
  exact List.mem_flatMap.mpr ⟨_, hstep, hx⟩

theorem destination_of_live {lan : LanSystem} (hlan : ServesLan lan env) {s : Site}
    {p : AlertPolicyTbl} {iface : String} {param : LanParam} {a : LanArrays} {t : U8}
    {user : String} (h : InReach lan ethMap p iface param a) (hname : iface ≠ "")
    (htype : a.typeArr[p.DestinationSel.toNat - 1]? = some t)
    (huser : (a.userArr[p.DestinationSel.toNat - 1]?).getD "" = user) (hmail : t = 3 → user ≠ "") :
    destinationOf env s ethMap p = some (t, user) := by
  have hreply := hlan iface s
  rw [h.object, Option.bind_some, h.arrays] at hreply
  obtain ⟨m, hm, htypes, husers⟩ := hreply
  have hindex : sizeSub p.DestinationSel.toNat 1 = p.DestinationSel.toNat - 1 :=
    sizeSub_of_le (Nat.one_le_iff_ne_zero.mpr fun h0 => h.first (BitVec.eq_of_toNat_eq h0))
      (Nat.lt_trans p.DestinationSel.isLt (by decide))
  have hread : readStrs m "userName" = .ok (some a.userArr) := by
    rw [readStrs, husers]
    rfl
  have hin : destinationIn env s p.DestinationSel.toNat a.typeArr (some a.userArr) =
      some (t, user) := by
    unfold destinationIn
    rw [if_pos h.notLast]
    dsimp only
    rw [hindex, htype, Option.getD_some, cellAt, Option.bind_some, huser]
    exact if_neg fun hboth => hmail hboth.1 hboth.2
  unfold destinationOf
  dsimp only
  rw [getInterfaceNameForChannel_eq, h.channel, Option.getD_some, if_neg hname, hm,
    Option.bind_eq_bind, Option.bind_some, htypes, hread]
  exact hin

theorem notification_of_live (hw : WellTyped env) (h : Answers env) {s : Site} {channelNo sel : U8}
    {iface : String} (hiface : (ethChannels (env .channelInterfaceMap)).lookup channelNo = some iface)
    (hname : iface ≠ "") :
    ∃ a, notificationOf env s event channelNo sel = some a ∧ a.channelNo = channelNo ∧
      a.destinationSel = sel := by
  obtain ⟨path, hpath⟩ := Option.ne_none_iff_exists'.mp (hw.sensorPath s event.sensorNum)
  obtain ⟨v, hv⟩ := Option.isSome_iff_exists.mp (h.hostName s)
  obtain ⟨hostName, hhostName⟩ := hw.hostName s v hv
  refine ⟨snmpAlertOf event channelNo sel path (env (.currentTime s)) (hostName ++ ":" ++
    if env (.ipAddress s (some iface)) = "" then env (.ipAddress s none)
    else env (.ipAddress s (some iface))), ?_, rfl, rfl⟩
  unfold notificationOf
  rw [hpath, Option.bind_eq_bind, Option.bind_some, h.channels, getInterfaceNameForChannel_eq,
    hiface]
  dsimp only
  rw [Option.getD_some, if_neg hname, hv, Option.bind_eq_bind, Option.bind_some, hhostName]
  rfl

theorem alertEffects_of_trap {lan : LanSystem} (hw : WellTyped env) (h : Answers env)
    (hlan : ServesLan lan env) (s : Site) {p : AlertPolicyTbl} {iface : String} {param : LanParam}
    {a : LanArrays} {t : U8} (hreach : InReach lan (ethChannels (env .channelInterfaceMap)) p iface
      param a)
    (hname : iface ≠ "") (hat : a.typeArr[p.DestinationSel.toNat - 1]? = some t) (ht : t ≤ 2) :
    ∃ alert, alert.channelNo = p.ChannelNo ∧ alert.destinationSel = p.DestinationSel ∧
      alertEffects false env s event (ethChannels (env .channelInterfaceMap)) p =
        [.notification alert] := by
  have hnotMail : t ≠ 3 := by
    rintro rfl
    exact absurd ht (by decide)
  obtain ⟨alert, halert, hchannel, hsel⟩ :
      ∃ alert, notificationOf env s event p.ChannelNo p.DestinationSel = some alert ∧
        alert.channelNo = p.ChannelNo ∧ alert.destinationSel = p.DestinationSel :=
    notification_of_live hw h hreach.channel hname
  refine ⟨alert, hchannel, hsel, ?_⟩
  unfold alertEffects
  rw [destination_of_live hlan hreach hname hat rfl fun h3 => absurd h3 hnotMail]
  dsimp only
  rw [if_neg hnotMail, if_pos ht, trapEffects, halert]
  exact if_neg Bool.false_ne_true

theorem alertEffects_of_mail {lan : LanSystem} (hw : WellTyped env) (hlan : ServesLan lan env)
    (s : Site) {p : AlertPolicyTbl} {iface user mailID : String} {param : LanParam} {a : LanArrays}
    (hreach : InReach lan ethMap p iface param a) (hname : iface ≠ "")
    (hat : a.typeArr[p.DestinationSel.toNat - 1]? = some 3)
    (huserAt : a.userArr[p.DestinationSel.toNat - 1]? = some user) (huser : user ≠ "")
    (hmailID : strReply (env (.smtpMailID s (userObjPathPrefix ++ user))) = some mailID)
    (hne : mailID ≠ "") :
    ∃ subject body, .sendMail subject body ∈ alertEffects false env s event ethMap p := by
  have hgetD : (a.userArr[p.DestinationSel.toNat - 1]?).getD "" = user := by
    rw [huserAt]
    rfl
  obtain ⟨path, hpath⟩ := Option.ne_none_iff_exists'.mp (hw.sensorPath s event.sensorNum)
  have haddress : mailAddressOf env s user = some mailID := by
    rw [mailAddressOf, if_neg huser]
    exact hmailID
  unfold alertEffects
  rw [destination_of_live hlan hreach hname hat hgetD fun _ => huser]
  dsimp only
  rw [if_pos rfl, mailEffects, hpath, haddress]
  dsimp only
  rw [if_neg hne, deliveryEffects, if_neg Bool.false_ne_true]
  exact ⟨_, _, List.mem_cons_self⟩

end Plan

/-! ## The library -/

section Library

variable {snmp : SnmpEnv}

/-- A session can be opened for the manager. -/
def Opened (snmp : SnmpEnv) (m : ManagerProperty) : Prop :=
  ∃ v : SnmpVersion, m.version = v.text ∧ (v = .SNMP_VERSION_3 → KnownUser snmp m.userName)

theorem managersOf_of_row {cfg : TrapConfig} {destinationSel : U8} {row : ManagerRow}
    (hsel : destinationSel ≠ 0) (hrow : cfg.managerRow (destinationSel.toNat - 1) = some row)
    (hpeer : (row.peer (destinationSel.toNat - 1)).isSome = true)
    (h : Served snmp row cfg.community) :
    ∃ m, (managersOf cfg destinationSel).outcome snmp = .ok [m] ∧ Opened snmp m := by
  obtain ⟨selected, hselected⟩ := Option.isSome_iff_exists.mp hpeer
  obtain ⟨_, _, -, -, -, rfl⟩ := row.peer_eq_some hselected
  unfold managersOf managersOfPeer
  rw [selectedPeer_eq cfg hsel, TrapConfig.peerAt, hrow, Option.bind_some, hselected]
  dsimp only
  rcases h with ⟨htype, hcommunity⟩ | ⟨htype, user, huser, hknown⟩
  · rw [if_pos htype, if_neg hcommunity]
    rcases htype with htype | htype <;> rw [htype]
    · exact ⟨_, rfl, .SNMP_VERSION_1, rfl, fun h => by cases h⟩
    · exact ⟨_, rfl, .SNMP_VERSION_2c, rfl, fun h => by cases h⟩
  · have hnot : ¬(row.type = 0 ∨ row.type = 1) := by
      rw [htype]
      decide
    have huserName : cfg.userName[destinationSel.toNat - 1]? = some user :=
      (userName_of_managerRow hrow htype).symm.trans huser
    obtain ⟨⟨algorithm, encryption, password⟩, hstored⟩ := hknown.stored
    rw [if_neg hnot, if_pos htype, huserName]
    dsimp only
    rw [if_neg hknown.named, Ask.outcome_bind_ok snmp hstored]
    exact ⟨_, rfl, .SNMP_VERSION_3, rfl, fun _ => hknown⟩

theorem Opened.session {m : ManagerProperty} (h : Opened snmp m) (bmcIPAddress : String) :
    ∃ session, (sessionFor 0 m bmcIPAddress).outcome snmp = .ok (some session) := by
  obtain ⟨v, hversion, hknown⟩ := h
  unfold sessionFor
  rw [hversion]
  cases v with
  | SNMP_VERSION_1 => exact ⟨_, rfl⟩
  | SNMP_VERSION_2c => exact ⟨_, rfl⟩
  | SNMP_VERSION_3 =>
      obtain ⟨-, -, hmember, hkeys⟩ := hknown rfl
      obtain ⟨authKey, hauth⟩ := Option.isSome_iff_exists.mp
        (hkeys .auth (authProtoOf m.algorithm) m.password)
      obtain ⟨privKey, hpriv⟩ := Option.isSome_iff_exists.mp
        (hkeys .priv (authProtoOf m.algorithm) m.password)
      have h1 : ¬SnmpVersion.SNMP_VERSION_3.text = "v1" := by decide
      have h2 : ¬SnmpVersion.SNMP_VERSION_3.text = "v2c" := by decide
      have h3 : SnmpVersion.SNMP_VERSION_3.text = "v3" := rfl
      rw [if_neg h1, if_neg h2, if_pos h3, Ask.outcome_ask_bind,
        if_neg (not_not_intro hmember), Ask.outcome_ask_bind, Ask.outcome_ask_bind, hauth]
      dsimp only
      rw [Ask.outcome_ask_bind, hpriv]
      exact ⟨_, rfl⟩

theorem LibraryUp.pduSent (h : LibraryUp snmp) (a : SnmpAlert) {m : ManagerProperty}
    (hm : Opened snmp m) : ∃ session, PduSent snmp a 0 m session := by
  obtain ⟨session, hsession⟩ := hm.session (afterLastColon a.eventSubjectSN)
  obtain ⟨v, hversion, -⟩ := hm
  refine
    ⟨session,
      { allowed := fun hlookup => h.allowed v ((lookup_getSNMPDisableStatus v _).mp ?_)
        opened := hsession
        added := h.added 0 session
        created := h.created 0 _
        timed := h.timed 0 _
        named := h.named 0 _
        filled := fun object _ => h.filled 0 object
        sent := h.sent 0 session _ }⟩
  rw [← hversion, hlookup]
  rfl

theorem LibraryUp.sendable (h : LibraryUp snmp) {a : SnmpAlert} {iface community : String}
    {row : ManagerRow} (hsel : a.destinationSel ≠ 0)
    (hiface : (ethChannels (snmp .channelInterfaceMap)).lookup a.channelNo = some iface)
    (hrow : fileManagerRow (snmp .lanParamConfFile) iface (a.destinationSel.toNat - 1) = some row)
    (hcommunity : fileCommunity (snmp .lanParamConfFile) iface = some community)
    (hpeer : (row.peer (a.destinationSel.toNat - 1)).isSome = true)
    (hserved : Served snmp row community) :
    ∃ m session, Sendable snmp a m session ∧ TrapTarget row community session := by
  obtain ⟨cfg, hcfg, hat⟩ := Option.bind_eq_some_iff.mp hrow
  rw [fileCommunity, hcfg, Option.map_some] at hcommunity
  cases hcommunity
  obtain ⟨m, hm, hopened⟩ := managersOf_of_row hsel hat hpeer hserved
  obtain ⟨session, hsession⟩ := h.pduSent a hopened
  obtain ⟨row', hat', htarget⟩ := managerOf_row hsel hm (List.mem_singleton_self m)
  cases hat.symm.trans hat'
  exact ⟨m, session, ⟨h.enabled, (outcome_getManagers h.bus hiface hcfg).trans hm, hsession⟩,
    htarget.target hsession.opened⟩

end Library

/-! ## Due alerts -/

theorem name_of_ethChannels {reply : Option (List (U8 × String))} {channelNo : U8} {iface : String}
    (h : (ethChannels reply).lookup channelNo = some iface) :
    (channelNo, iface) ∈ ethChannels reply ∧ iface ≠ "" := by
  have hmem := mem_of_lookup_channel h
  refine ⟨hmem, fun hempty => ?_⟩
  have heth : isEthInterfaceName iface = true := (List.mem_filter.mp hmem).2
  rw [hempty] at heth
  exact absurd heth (by decide)

section Events

variable {s : ManagerState} {r : PefConfInfo} {timer : U8} {order : List Bucket} {env : Env}

theorem alert_of_event (hw : WellTyped env) (hfront : FrontLists s)
    (hmanager : ServesManager s r timer order env) (hanswers : Answers env) (retryEnable : Bool)
    (recId : U16) (senType senNum eveType eveData1 eveData2 eveData3 : U8) (genId : U16)
    (msgStr : String) (hrunning : pefRunning r timer = true) {e : EvtFilterTblEntry}
    (he : e ∈ liveEntries s) (haccepts : Accepts e
      (eventOf recId senType senNum eveType eveData1 eveData2 eveData3 genId msgStr))
    (halert : actionEnabled (settingsOf r) e ALERT_ACTION = true) {p : AlertPolicyTbl}
    (hp : p ∈ livePolicies s order) (hselects : Selects e.AlertPolicyNum p) :
    ∃ site, ∀ x ∈ alertEffects retryEnable env site
        (eventOf recId senType senNum eveType eveData1 eveData2 eveData3 genId msgStr)
        (ethChannels (env .channelInterfaceMap)) p,
      x ∈ effects (pefTask retryEnable recId senType senNum eveType eveData1 eveData2 eveData3 genId
        msgStr) env := by
  have hmatched : e ∈ (liveEntries s).filter fun e => Accepts e
      (eventOf recId senType senNum eveType eveData1 eveData2 eveData3 genId msgStr) :=
    List.mem_filter.mpr ⟨he, decide_eq_true haccepts⟩
  obtain ⟨site, hstep⟩ := alert_mem_plan halert hp hselects 0 hmatched
  refine ⟨site, fun x hx => ?_⟩
  rw [effects_pefTask hw hfront hmanager, if_pos hrunning]
  exact hanswers.carriedOut hstep hx

end Events

/-- With tables loaded and set in any way, and LAN sections that were complete, after any
Sets of whole arrays and any restarts: while PEF is on, every policy that a live row
matching the event selects, and whose live destination is due for a trap, has a
notification made, and its trap is sent to that destination. -/
theorem due_trap_sent {data : Option Json} {us : List (SetterEnv × SetRequest)}
    {s : ManagerState} {r : PefConfInfo} {timer : U8} {order : List Bucket} {env : Env}
    (hs : Reached setStep (parsePefConfToDbus data).1 us s) (hw : WellTyped env)
    (hmanager : ServesManager s r timer order env) (hanswers : Answers env)
    {f : LanFiles} {objects : List (String × Option LanParam)} {snmp : SnmpEnv}
    (hparse : parseLanConf f = .ok objects)
    (hcomplete : ∀ p ∈ ethChannels (env .channelInterfaceMap), LanComplete f p.2)
    {es : List LanLifeEvent}
    (hwhole : ∀ e, .set e ∈ es → ∀ i, e.req.Reaches (destCountOf (lanConfig f e.ifaceName)) i)
    {lan : LanSystem} (hreached : Reached lanLifeStep (.start f objects) es lan)
    (hlan : ServesLan lan env) (hfile : snmp .lanParamConfFile = lan.files.shared)
    (hchannels : snmp .channelInterfaceMap = env .channelInterfaceMap) (hup : LibraryUp snmp)
    (recId : U16) (senType senNum eveType eveData1 eveData2 eveData3 : U8) (genId : U16)
    (msgStr : String) (hrunning : pefRunning r timer = true) {e : EvtFilterTblEntry}
    (he : e ∈ liveEntries s) (haccepts : Accepts e
      (eventOf recId senType senNum eveType eveData1 eveData2 eveData3 genId msgStr))
    (halert : actionEnabled (settingsOf r) e ALERT_ACTION = true) {p : AlertPolicyTbl}
    (hp : p ∈ livePolicies s order) (hselects : Selects e.AlertPolicyNum p)
    (hdue : TrapDue lan (ethChannels (env .channelInterfaceMap)) snmp p) :
    ∃ a, .notification a ∈ effects (pefTask false recId senType senNum eveType eveData1 eveData2
        eveData3 genId msgStr) env ∧ notified snmp a = true ∧
      ∃ m session, Sendable snmp a m session ∧
        LiveTarget lan (ethChannels (env .channelInterfaceMap)) p.ChannelNo p.DestinationSel
          session := by
  obtain ⟨iface, param, arrays, row, hreach, hrow, hpeer, hserved⟩ := hdue
  obtain ⟨hmem, hname⟩ := name_of_ethChannels hreach.channel
  obtain ⟨site, halerts⟩ := alert_of_event hw (frontLists_reached hs) hmanager hanswers false recId
    senType senNum eveType eveData1 eveData2 eveData3 genId msgStr hrunning he haccepts halert hp
    hselects
  have htype : row.type ≤ 2 := by
    rcases hserved with ⟨htype | htype, -⟩ | ⟨htype, -⟩ <;> rw [htype] <;> decide
  have hat : arrays.typeArr[p.DestinationSel.toNat - 1]? = some row.type := by
    obtain ⟨t, ht, rfl⟩ := Option.map_eq_some_iff.mp hrow
    exact ht
  obtain ⟨a, hchannel, hsel, ha⟩ := alertEffects_of_trap hw hanswers hlan site hreach hname hat htype
  -- the library reads the file, which shows the live destination
  have hshows := showsLive_reached hparse hcomplete hwhole hreached _ hmem
  have hfileRow : fileManagerRow (snmp .lanParamConfFile) iface (p.DestinationSel.toNat - 1) =
      some row := by
    rw [hfile, (hshows _).rows.1, exposedArrays_params, hreach.object, Option.bind_some,
      hreach.arrays]
    exact hrow
  have hcommunity : fileCommunity (snmp .lanParamConfFile) iface = some param.CommunityString := by
    rw [hfile, (hshows 0).community, hreach.object]
    rfl
  have hiface : (ethChannels (snmp .channelInterfaceMap)).lookup a.channelNo = some iface := by
    rw [hchannels, hchannel]
    exact hreach.channel
  rw [← hsel] at hfileRow hpeer
  obtain ⟨m, session, hsent, htarget⟩ :=
    hup.sendable (hsel ▸ hreach.first) hiface hfileRow hcommunity hpeer hserved
  exact ⟨a, halerts _ (ha ▸ List.mem_singleton_self _), (notified_iff snmp a).mpr ⟨m, session, hsent⟩,
    m, session, hsent, hreach.first, iface, param, arrays, row, hreach.channel, hreach.object,
    hreach.arrays, hrow, htarget⟩

/-- With tables loaded and set in any way: while PEF is on, every policy that a live row
matching the event selects, and whose live destination is due for a mail, has a mail
sent to the user there. -/
theorem due_mail_sent {data : Option Json} {us : List (SetterEnv × SetRequest)}
    {s : ManagerState} {r : PefConfInfo} {timer : U8} {order : List Bucket} {env : Env}
    (hs : Reached setStep (parsePefConfToDbus data).1 us s) (hw : WellTyped env)
    (hmanager : ServesManager s r timer order env) (hanswers : Answers env) {lan : LanSystem}
    (hlan : ServesLan lan env) (hsize : Addressable lan)
    (recId : U16) (senType senNum eveType eveData1 eveData2 eveData3 : U8) (genId : U16)
    (msgStr : String) (hrunning : pefRunning r timer = true) {e : EvtFilterTblEntry}
    (he : e ∈ liveEntries s) (haccepts : Accepts e
      (eventOf recId senType senNum eveType eveData1 eveData2 eveData3 genId msgStr))
    (halert : actionEnabled (settingsOf r) e ALERT_ACTION = true) {p : AlertPolicyTbl}
    (hp : p ∈ livePolicies s order) (hselects : Selects e.AlertPolicyNum p)
    (hdue : MailDue lan (ethChannels (env .channelInterfaceMap)) env p) :
    ∃ subject body, .sendMail subject body ∈ effects (pefTask false recId senType senNum eveType
        eveData1 eveData2 eveData3 genId msgStr) env ∧
      LiveRecipient lan (ethChannels (env .channelInterfaceMap)) env p body := by
  obtain ⟨iface, param, a, user, mailID, hreach, hat, huserAt, huser, hne, hmailID⟩ := hdue
  obtain ⟨-, hname⟩ := name_of_ethChannels hreach.channel
  obtain ⟨site, halerts⟩ := alert_of_event hw (frontLists_reached hs) hmanager hanswers false recId
    senType senNum eveType eveData1 eveData2 eveData3 genId msgStr hrunning he haccepts halert hp
    hselects
  obtain ⟨subject, body, hmail⟩ :=
    alertEffects_of_mail hw hlan site hreach hname hat huserAt huser (hmailID site) hne
  exact ⟨subject, body, halerts _ hmail, recipient_of_alert hlan hsize hmail rfl⟩

/-- The row of `alertingState`. -/
def alertingEntry : EvtFilterTblEntry :=
  ⟨0, 0x80, 0x03, 1, 0, 0xFF, 0xFF, 0xFF, 0xFF, 0xFF, 0xFFFF, 0, 0, 0, 0, 0, 0, 0, 0, 0⟩

/-- Its policy. -/
def alertingPolicy : AlertPolicyTbl where
  AlertPolicyGroupNum := 1
  EnableAlert := 1
  ChannelNo := 1
  DestinationSel := 1

theorem alertingEntry_live : alertingEntry ∈ liveEntries alertingState := by decide +kernel

theorem alertingPolicy_live : alertingPolicy ∈ livePolicies alertingState [0] := by decide +kernel

theorem alerting_of_settings {r : PefConfInfo} (hr : alertingState.pefConfInfo = [r]) :
    pefRunning r 0 = true ∧ actionEnabled (settingsOf r) alertingEntry ALERT_ACTION = true := by
  cases hr
  decide +kernel

theorem answeringEnv_answers (types : List U8) (users : List String) (order : List Bucket) :
    Answers (answeringEnv types users order) where
  chassis _ _ := rfl
  host _ _ := rfl
  hostName _ := rfl
  channels _ := rfl

theorem twoTrapsSnmp_up : LibraryUp twoTrapsSnmp where
  enabled := by decide +kernel
  allowed v h := by
    rw [← lookup_getSNMPDisableStatus] at h
    revert h
    cases v <;> decide +kernel
  bus := rfl
  added _ _ := rfl
  created _ _ := rfl
  timed _ _ := rfl
  named _ _ := rfl
  filled _ _ := rfl
  sent _ _ _ := rfl

theorem inReach_eth0 {f : LanFiles} {param : LanParam} {a : LanArrays} (ha : param.arrays = some a)
    (hlt : 1 < a.typeArr.length) :
    InReach (.start f [("eth0", some param)]) [(1, "eth0")] alertingPolicy "eth0" param a where
  channel := rfl
  object := by rw [param_start_one, if_pos rfl]
  arrays := ha
  first := by decide
  notLast := hlt

/-- The trap for an event on sensor 0x30 is sent to the first of two destinations. -/
theorem first_trap_sent :
    ∃ a, .notification a ∈ effects (pefTask false 7 0x01 0x30 0x01 0x09 0xFF 0xFF 0x2000 "")
        (answeringEnv [1, 1] ["", ""] [0]) ∧ notified twoTrapsSnmp a = true ∧
      ∃ m session, Sendable twoTrapsSnmp a m session ∧
        LiveTarget twoTrapsSystem [(1, "eth0")] 1 1 session := by
  obtain ⟨r, hr, hserves⟩ := alertingEnv_serves
  have hstart : Reached setStep (parsePefConfToDbus (some alertingFile)).1 [] alertingState :=
    Reached.refl _ _
  have hrun : runFrom lanLifeStep
      (.start (twoTrapsFiles [0, 0]) [("eth0", some (twoTrapsParam [0, 0]))]) typesSet =
        some twoTrapsSystem := rfl
  have hparse : parseLanConf (twoTrapsFiles [0, 0]) =
      .ok [("eth0", some (twoTrapsParam [0, 0]))] := rfl
  have hcomplete : ∀ p ∈ ethChannels (answeringEnv [1, 1] ["", ""] [0] .channelInterfaceMap),
      LanComplete (twoTrapsFiles [0, 0]) p.2 := by
    intro p hp
    cases List.mem_singleton.mp hp
    exact twoTraps_complete
  have hlan : ServesLan twoTrapsSystem (answeringEnv [1, 1] ["", ""] [0]) :=
    answeringEnv_servesLan [0] (param_start_one _ (twoTrapsParam [1, 1])) rfl
  obtain ⟨hrunning, halert⟩ := alerting_of_settings hr
  have hdue : TrapDue twoTrapsSystem
      (ethChannels (answeringEnv [1, 1] ["", ""] [0] .channelInterfaceMap)) twoTrapsSnmp
      alertingPolicy :=
    ⟨"eth0", twoTrapsParam [1, 1], _, ⟨1, some 1, some "10.0.0.2", none⟩,
      inReach_eth0 rfl (by decide), rfl, rfl, .inl ⟨.inr rfl, by decide⟩⟩
  exact due_trap_sent hstart (answeringEnv_wellTyped _ _ [0]) (answeringEnv_serves _ _ hserves)
    (answeringEnv_answers _ _ [0]) hparse hcomplete twoTraps_whole (.last hrun) hlan rfl rfl
    twoTrapsSnmp_up 7 0x01 0x30 0x01 0x09 0xFF 0xFF 0x2000 "" hrunning alertingEntry_live
    (by decide +kernel) halert alertingPolicy_live (by decide) hdue

/-- The mail for such an event is sent to the user of the first destination. -/
theorem admin_mail_sent :
    ∃ subject body, .sendMail subject body ∈
        effects (pefTask false 7 0x01 0x30 0x01 0x09 0x10 0x20 0x2000 "") (mailingEnv [0]) ∧
      LiveRecipient twoMailsSystem [(1, "eth0")] (mailingEnv [0]) alertingPolicy body := by
  obtain ⟨r, hr, hserves⟩ := alertingEnv_serves
  have hstart : Reached setStep (parsePefConfToDbus (some alertingFile)).1 [] alertingState :=
    Reached.refl _ _
  have hlan : ServesLan twoMailsSystem (mailingEnv [0]) :=
    answeringEnv_servesLan [0] (param_start_one _ twoMailsParam) rfl
  obtain ⟨hrunning, halert⟩ := alerting_of_settings hr
  have hdue : MailDue twoMailsSystem (ethChannels (mailingEnv [0] .channelInterfaceMap))
      (mailingEnv [0]) alertingPolicy :=
    ⟨"eth0", twoMailsParam, _, "admin", "admin@bmc", inReach_eth0 rfl (by decide), rfl, rfl,
      by decide, by decide, fun _ => rfl⟩
  exact due_mail_sent hstart (answeringEnv_wellTyped _ _ [0]) (answeringEnv_serves _ _ hserves)
    (answeringEnv_answers _ _ [0]) hlan twoMails_addressable 7 0x01 0x30 0x01 0x09 0x10 0x20 0x2000
    "" hrunning alertingEntry_live (by decide +kernel) halert alertingPolicy_live (by decide) hdue

end Pef
