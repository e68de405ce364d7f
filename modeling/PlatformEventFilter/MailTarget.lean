/-
# `MailTarget` — who gets a mail, and where a test goes

The call that sends a mail has a subject and a text, and no recipient.  Whom the mail
is for stands at the end of the text.

    mail_to_live_user            the mails of an event
    test_to_live_destination     the traps and mails of a test

A test takes neither the selector nor the user from where an alert takes them: it
counts from 0, and reads the file.
-/
import PlatformEventFilter.TestDestination
import PlatformEventFilter.TrapTarget

namespace Pef

/-! ## Mails of an event -/

/-- The text of a mail. -/
def Effect.mailBody? : Effect → Option String
  | .retrySmtp _ alertBody => some alertBody
  | .sendMail _ alertBody => some alertBody
  | _ => none

/-- The LAN objects reply with the arrays they have; where there are none, there is
no type. -/
def ServesLan (lan : LanSystem) (env : Env) : Prop :=
  ∀ iface site, match (lan.param iface).bind LanParam.arrays with
    | none => ∀ m, env (.lanParam site (lanObjPath iface)) = some m → m.lookup "Type" = none
    | some a => ∃ m : PropertyMap, env (.lanParam site (lanObjPath iface)) = some m ∧
        m.lookup "Type" = some (.u8s a.typeArr) ∧ m.lookup "userName" = some (.strs a.userArr)

/-- The text ends with the address of the user that the live object has at the
selector, where it has the type for mails. -/
def LiveRecipient (lan : LanSystem) (ethMap : EthChannelMap) (env : Env) (p : AlertPolicyTbl)
    (body : String) : Prop :=
  ∃ iface param a user mailID text site, ethMap.lookup p.ChannelNo = some iface ∧
    lan.param iface = some param ∧ param.arrays = some a ∧ p.DestinationSel ≠ 0 ∧
    a.typeArr[p.DestinationSel.toNat - 1]? = some 3 ∧
    a.userArr[p.DestinationSel.toNat - 1]? = some user ∧ user ≠ "" ∧
    strReply (env (.smtpMailID site (userObjPathPrefix ++ user))) = some mailID ∧ mailID ≠ "" ∧
    body = text ++ "\r\nMail ID     : " ++ mailID

section Mails

variable {env : Env} {retryEnable : Bool} {cfg : PefCfgInfo} {event : EventMsgData}
  {ethMap : EthChannelMap} {policies : List AlertPolicyTbl}

theorem getInterfaceNameForChannel_eq (channelNo : U8) :
    ∀ ethMap : EthChannelMap,
      getInterfaceNameForChannel channelNo ethMap = (ethMap.lookup channelNo).getD ""
  | [] => rfl
  | (channel, iface) :: ethMap => by
      rw [getInterfaceNameForChannel, List.lookup_cons, getInterfaceNameForChannel_eq channelNo ethMap]
      by_cases hc : channel = channelNo
      · subst hc
        rw [if_pos rfl, beq_self_eq_true]
        rfl
      · rw [if_neg hc, beq_eq_false_iff_ne.mpr (Ne.symm hc)]

theorem mail_of_destinationIn {site : Site} {i : Nat} {types : List U8}
    {users : Option (List String)} {user : String}
    (h : destinationIn env site i types users = some (3, user)) :
    i < types.length ∧ user ≠ "" ∧
      (types[sizeSub i 1]?).getD (env (.outOfBounds site (sizeSub i 1))) = 3 ∧
      user = cellAt users "" (sizeSub i 1) := by
  unfold destinationIn at h
  split at h
  · next hi =>
      dsimp only at h
      split at h
      · cases h
      next hne =>
      obtain ⟨htype, huser⟩ := Prod.mk.inj (Option.some.inj h)
      rw [htype, huser] at hne
      exact ⟨hi, fun hempty => hne ⟨rfl, hempty⟩, htype, huser.symm⟩
  · cases h

theorem reply_of_destination {site : Site} {p : AlertPolicyTbl} {d : U8 × String}
    (h : destinationOf env site ethMap p = some d) :
    ∃ iface m v types users, ethMap.lookup p.ChannelNo = some iface ∧
      env (.lanParam site (lanObjPath iface)) = some m ∧ m.lookup "Type" = some v ∧
      v.asArrays.getU8s = .ok types ∧ readStrs m "userName" = .ok users ∧
      destinationIn env site p.DestinationSel.toNat types users = some d := by
  unfold destinationOf at h
  dsimp only at h
  split at h
  · cases h
  next hname =>
  obtain ⟨iface, hiface⟩ : ∃ iface, ethMap.lookup p.ChannelNo = some iface := by
    rw [getInterfaceNameForChannel_eq] at hname
    cases hlookup : ethMap.lookup p.ChannelNo with
    | none =>
        rw [hlookup] at hname
        exact absurd rfl hname
    | some iface => exact ⟨iface, rfl⟩
  rw [getInterfaceNameForChannel_eq, hiface, Option.getD_some] at h
  obtain ⟨m, hm, h⟩ := Option.bind_eq_some_iff.mp h
  obtain ⟨v, hv, h⟩ := Option.bind_eq_some_iff.mp h
  obtain ⟨types, htypes, h⟩ := Option.bind_eq_some_iff.mp h
  obtain ⟨users, husers, h⟩ := Option.bind_eq_some_iff.mp h
  exact ⟨iface, m, v, types, users, hiface, hm, hv, toOption_eq_some.mp htypes,
    toOption_eq_some.mp husers, h⟩

theorem arrays_of_reply {lan : LanSystem} (hlan : ServesLan lan env) {site : Site} {iface : String}
    {m : PropertyMap} {v : Variant} {types : List U8} {users : Option (List String)}
    (hm : env (.lanParam site (lanObjPath iface)) = some m) (hv : m.lookup "Type" = some v)
    (htypes : v.asArrays.getU8s = .ok types) (husers : readStrs m "userName" = .ok users) :
    ∃ param a, lan.param iface = some param ∧ param.arrays = some a ∧ types = a.typeArr ∧
      users = some a.userArr := by
  have hreply := hlan iface site
  cases harrays : (lan.param iface).bind LanParam.arrays with
  | none =>
      rw [harrays] at hreply
      cases hv.symm.trans (hreply m hm)
  | some a =>
      rw [harrays] at hreply
      obtain ⟨m', hm', htype', husers'⟩ := hreply
      cases hm.symm.trans hm'
      cases hv.symm.trans htype'
      cases htypes
      have hread : readStrs m "userName" = .ok (some a.userArr) := by
        rw [readStrs, husers']
        rfl
      cases husers.symm.trans hread
      obtain ⟨param, hparam, harrays⟩ := Option.bind_eq_some_iff.mp harrays
      exact ⟨param, a, hparam, harrays, rfl, rfl⟩

/-- The index a mail destination is taken from is that of the selector, counted from 1:
at the one to which 0 wraps there is no user. -/
theorem mail_at_selector {site : Site} {sel : U8} {types : List U8} {users : List String}
    {user : String} (htypeSize : types.length < 2 ^ 64) (huserSize : users.length < 2 ^ 64)
    (h : destinationIn env site sel.toNat types (some users) = some (3, user)) :
    sel ≠ 0 ∧ types[sel.toNat - 1]? = some 3 ∧ users[sel.toNat - 1]? = some user ∧
      user ≠ "" := by
  obtain ⟨hlt, huser, htype, rfl⟩ := mail_of_destinationIn h
  rw [cellAt, Option.bind_some] at huser ⊢
  have hne : sel ≠ 0 := by
    rintro rfl
    have hlast : users[2 ^ 64 - 1]? = none := List.getElem?_eq_none (by omega)
    have hindex : sizeSub (0 : U8).toNat 1 = 2 ^ 64 - 1 := rfl
    rw [hindex, hlast] at huser
    exact huser rfl
  have hindex : sizeSub sel.toNat 1 = sel.toNat - 1 :=
    sizeSub_of_le (Nat.one_le_iff_ne_zero.mpr fun h0 => hne (BitVec.eq_of_toNat_eq h0))
      (Nat.lt_trans hlt htypeSize)
  rw [hindex] at htype huser ⊢
  refine ⟨hne, ?_, ?_, huser⟩
  · have hinside : sel.toNat - 1 < types.length := by omega
    rw [List.getElem?_eq_getElem hinside] at htype ⊢
    exact congrArg some htype
  · cases hget : users[sel.toNat - 1]? with
    | none =>
        rw [hget] at huser
        exact absurd rfl huser
    | some user => rfl

theorem user_of_destination {lan : LanSystem} (hlan : ServesLan lan env) (hsize : Addressable lan)
    {site : Site} {p : AlertPolicyTbl} {user : String}
    (h : destinationOf env site ethMap p = some (3, user)) :
    ∃ iface param a, ethMap.lookup p.ChannelNo = some iface ∧ lan.param iface = some param ∧
      param.arrays = some a ∧ p.DestinationSel ≠ 0 ∧
      a.typeArr[p.DestinationSel.toNat - 1]? = some 3 ∧
      a.userArr[p.DestinationSel.toNat - 1]? = some user ∧ user ≠ "" := by
  obtain ⟨iface, m, v, types, users, hiface, hm, hv, htypes, husers, hin⟩ := reply_of_destination h
  obtain ⟨param, a, hparam, harrays, rfl, rfl⟩ := arrays_of_reply hlan hm hv htypes husers
  obtain ⟨htypeSize, huserSize⟩ := hsize _ _ _ hparam harrays
  exact ⟨iface, param, a, hiface, hparam, harrays, mail_at_selector htypeSize huserSize hin⟩

theorem mail_of_delivery {s : Site} {subject text body : String} {x : Effect}
    (h : x ∈ deliveryEffects retryEnable env s event subject text) (hx : x.mailBody? = some body) :
    body = text := by
  have hrecord : ∀ (c : Prop) [Decidable c],
      x ∉ (if c then [Effect.processed event.recordId] else []) := by
    intro c _ h
    split at h
    · cases List.mem_singleton.mp h
      cases hx
    · exact absurd h List.not_mem_nil
  unfold deliveryEffects at h
  split at h
  · split at h
    · rcases List.mem_cons.mp h with h | h
      · cases h
        exact (Option.some.inj hx).symm
      · exact absurd h (hrecord _)
    · exact absurd h List.not_mem_nil
  · rcases List.mem_cons.mp h with h | h
    · cases h
      exact (Option.some.inj hx).symm
    · exact absurd h (hrecord _)

theorem mailBodyOf_ends {s : Site} {sensorPath mailID : String} (hne : mailID ≠ "") :
    ∃ text, mailBodyOf env s event sensorPath mailID = text ++ "\r\nMail ID     : " ++ mailID := by
  rw [mailBodyOf]
  exact ⟨_, if_neg hne⟩

theorem mail_of_alert {s : Site} {p : AlertPolicyTbl} {x : Effect} {body : String}
    (h : x ∈ alertEffects retryEnable env s event ethMap p) (hx : x.mailBody? = some body) :
    ∃ user mailID text, destinationOf env s ethMap p = some (3, user) ∧
      mailAddressOf env s user = some mailID ∧ mailID ≠ "" ∧
      body = text ++ "\r\nMail ID     : " ++ mailID := by
  unfold alertEffects at h
  split at h
  · exact absurd h List.not_mem_nil
  next destinationType user hd =>
  split at h
  · next htype =>
      subst htype
      unfold mailEffects at h
      split at h
      · next path mailID _ hmailID =>
          split at h
          · exact absurd h List.not_mem_nil
          next hne =>
          obtain ⟨text, htext⟩ : ∃ text, mailBodyOf env s event path mailID =
              text ++ "\r\nMail ID     : " ++ mailID := mailBodyOf_ends hne
          exact ⟨user, mailID, text, hd, hmailID, hne, (mail_of_delivery h hx).trans htext⟩
      · exact absurd h List.not_mem_nil
  split at h
  · unfold trapEffects at h
    split at h
    · exact absurd h List.not_mem_nil
    split at h
    · cases List.mem_singleton.mp h
      cases hx
    · cases List.mem_singleton.mp h
      cases hx
  · exact absurd h List.not_mem_nil

theorem recipient_of_alert {lan : LanSystem} (hlan : ServesLan lan env) (hsize : Addressable lan)
    {s : Site} {p : AlertPolicyTbl} {x : Effect} {body : String}
    (h : x ∈ alertEffects retryEnable env s event ethMap p) (hx : x.mailBody? = some body) :
    LiveRecipient lan ethMap env p body := by
  obtain ⟨user, mailID, text, hd, hmailID, hne, hbody⟩ := mail_of_alert h hx
  obtain ⟨iface, param, a, hiface, hparam, harrays, hsel, htype, huserAt, huser⟩ :=
    user_of_destination hlan hsize hd
  rw [mailAddressOf, if_neg huser] at hmailID
  exact ⟨iface, param, a, user, mailID, text, s, hiface, hparam, harrays, hsel, htype, huserAt, huser,
    hmailID, hne, hbody⟩

end Mails

/-- From tables loaded and set in any way: every mail that is handed over for an event
is for the user that the live LAN object has at the selector of a live policy, selected
by the live row of a filter that matches the event and asks for an alert; and PEF is on. -/
theorem mail_to_live_user {data : Option Json} {us : List (SetterEnv × SetRequest)}
    {s : ManagerState} {r : PefConfInfo} {timer : U8} {order : List Bucket} {env : Env}
    (hs : Reached setStep (parsePefConfToDbus data).1 us s) (hw : WellTyped env)
    (hmanager : ServesManager s r timer order env) {lan : LanSystem} (hlan : ServesLan lan env)
    (hsize : Addressable lan) (retryEnable : Bool) (recId : U16)
    (senType senNum eveType eveData1 eveData2 eveData3 : U8) (genId : U16) (msgStr : String)
    {x : Effect} {body : String}
    (h : x ∈ effects (pefTask retryEnable recId senType senNum eveType eveData1 eveData2 eveData3
      genId msgStr) env)
    (hx : x.mailBody? = some body) :
    let event := eventOf recId senType senNum eveType eveData1 eveData2 eveData3 genId msgStr
    pefRunning r timer = true ∧ ∃ e ∈ liveEntries s, Accepts e event ∧
      actionEnabled (settingsOf r) e ALERT_ACTION = true ∧
      ∃ p ∈ livePolicies s order, Selects e.AlertPolicyNum p ∧
        LiveRecipient lan (ethChannels (env .channelInterfaceMap)) env p body := by
  intro event
  rw [effects_pefTask hw (frontLists_reached hs) hmanager] at h
  split at h
  · next hrunning =>
      have hpower : ∀ on e, transitionOf (settingsOf r) on e ≠ some x := by
        intro on e h
        obtain ⟨_, rfl | rfl⟩ := transitionOf_eq_some h <;> cases hx
      obtain ⟨e, he, halert, p, hp, hselects, site, h⟩ := alert_of_plan hpower h
      obtain ⟨hlive, haccepts⟩ := List.mem_filter.mp he
      exact ⟨hrunning, e, hlive, of_decide_eq_true haccepts, halert, p, hp, hselects,
        recipient_of_alert hlan hsize h hx⟩
  · exact absurd h List.not_mem_nil

/-- The one LAN object there is. -/
def lanReply (types : List U8) (users : List String) (objPath : String) : Option PropertyMap :=
  if objPath = lanObjPath "eth0" then some [("Type", .u8s types), ("userName", .strs users)]
  else none

/-- As `alertingEnv`, with one LAN object, a mail service and a host to be reset. -/
def answeringEnv (types : List U8) (users : List String) (order : List Bucket) : Env
  | .lanParam _ objPath => lanReply types users objPath
  | .smtpMailID .. => some (.str "admin@bmc")
  | .sendMail .. => some 0
  | .requestedHostTransition .. => some ()
  | q => alertingEnv order q

section Answering

variable (types : List U8) (users : List String) (order : List Bucket)

theorem answeringEnv_wellTyped : WellTyped (answeringEnv types users order) where
  currentPowerState := (alertingEnv_wellTyped order).currentPowerState
  hostName := (alertingEnv_wellTyped order).hostName
  subject := (alertingEnv_wellTyped order).subject
  message := (alertingEnv_wellTyped order).message
  alertPolicyProperties := (alertingEnv_wellTyped order).alertPolicyProperties
  lanParam _ objPath m h := by
    have h : lanReply types users objPath = some m := h
    unfold lanReply at h
    split at h
    · cases h
      refine ⟨fun v hv => ?_, users, rfl⟩
      cases hv
      exact ⟨types, rfl⟩
    · cases h
  sensorPath := (alertingEnv_wellTyped order).sensorPath

theorem answeringEnv_serves {r : PefConfInfo}
    (h : ServesManager alertingState r 0 [0] (alertingEnv [0])) :
    ServesManager alertingState r 0 [0] (answeringEnv types users [0]) where
  filters := { paths := h.filters.paths, properties := h.filters.properties }
  policies :=
    { exact := h.policies.exact, paths := h.policies.paths, properties := h.policies.properties }
  settings := h.settings
  control := h.control
  timer := h.timer

theorem answeringEnv_servesLan {lan : LanSystem} {param : LanParam} {a : LanArrays}
    (hlan : ∀ iface, lan.param iface = if iface = "eth0" then some param else none)
    (ha : param.arrays = some a) :
    ServesLan lan (answeringEnv a.typeArr a.userArr order) := by
  intro iface site
  rw [hlan]
  by_cases hiface : iface = "eth0"
  · subst hiface
    have hsome : lanReply a.typeArr a.userArr (lanObjPath "eth0") =
        some [("Type", .u8s a.typeArr), ("userName", .strs a.userArr)] := if_pos rfl
    rw [if_pos rfl, Option.bind_some, ha]
    exact ⟨_, hsome, rfl, rfl⟩
  · rw [if_neg hiface]
    intro m hm
    have hpath : lanObjPath iface ≠ lanObjPath "eth0" :=
      fun h => hiface ((String.append_right_inj _).mp h)
    have hnone : lanReply a.typeArr a.userArr (lanObjPath iface) = none := if_neg hpath
    cases hnone.symm.trans hm

end Answering

theorem param_start_one (f : LanFiles) (param : LanParam) (iface : String) :
    (LanSystem.start f [("eth0", some param)]).param iface =
      if iface = "eth0" then some param else none := by
  rw [param_start, Members.lookup_cons]
  by_cases hiface : iface = "eth0"
  · rw [if_pos hiface.symm, if_pos hiface]
    rfl
  · rw [if_neg (Ne.symm hiface), if_neg hiface]
    rfl

/-- Two destinations for mails. -/
def twoMailsParam : LanParam :=
  ⟨"public", 2, some ⟨["", ""], ["", ""], ["admin", "root"], [3, 3], [0, 0], [0, 0], [1, 1]⟩⟩

def twoMailsSystem : LanSystem := .start (sampleFiles none) [("eth0", some twoMailsParam)]

def mailingEnv (order : List Bucket) : Env := answeringEnv [3, 3] ["admin", "root"] order

theorem twoMails_addressable : Addressable twoMailsSystem := by
  intro iface p a hp ha
  rw [twoMailsSystem, param_start_one] at hp
  split at hp
  · cases hp
    cases ha
    decide
  · cases hp

/-- The mail is for the first of the two users. -/
theorem mail_to_the_admin :
    ∃ body, .sendMail "Alert from bmc" body ∈
        effects (pefTask false 7 0x01 0x30 0x01 0x09 0x10 0x20 0x2000 "") (mailingEnv [0]) ∧
      ∃ p ∈ livePolicies alertingState [0],
        LiveRecipient twoMailsSystem [(1, "eth0")] (mailingEnv [0]) p body := by
  obtain ⟨r, hr, hserves⟩ := alertingEnv_serves
  have hstart : Reached setStep (parsePefConfToDbus (some alertingFile)).1 [] alertingState :=
    Reached.refl _ _
  have hw : WellTyped (mailingEnv [0]) := answeringEnv_wellTyped _ _ [0]
  have hmanager : ServesManager alertingState r 0 [0] (mailingEnv [0]) :=
    answeringEnv_serves _ _ hserves
  have hlan : ServesLan twoMailsSystem (mailingEnv [0]) :=
    answeringEnv_servesLan [0] (param_start_one _ twoMailsParam) rfl
  have hmailed : .sendMail "Alert from bmc" ("Sensor Name : CPU\r\nSensor Type : temperature \r\n" ++
      "Severity    : Critical\r\nDescription : upperCritGoingHigh\r\nMail ID     : admin@bmc") ∈
      effects (pefTask false 7 0x01 0x30 0x01 0x09 0x10 0x20 0x2000 "") (mailingEnv [0]) := by
    rw [effects_pefTask hw (frontLists_reached hstart) hmanager]
    cases hr
    decide +kernel
  obtain ⟨-, e, -, -, -, p, hp, -, hrecipient⟩ :=
    mail_to_live_user hstart hw hmanager hlan twoMails_addressable false 7 0x01 0x30 0x01 0x09 0x10
      0x20 0x2000 "" hmailed rfl
  exact ⟨_, hmailed, p, hp, hrecipient⟩

/-! ## Tests of a destination -/

/-- The other method of the test interface, with a selector that counts from 1. -/
def TestSNMP (channelNo destinationSel : U8) : SnmpProg Bool := do
  let timestamp ← snmpCall .testTimestamp
  sendOBMCErrorNotification (testAlert timestamp channelNo destinationSel)

/-- The row of the live object. -/
def liveTestRow (lan : LanSystem) (iface : String) (i : Nat) : Option TestRow :=
  ((lan.param iface).bind LanParam.arrays).bind fun a => a.testRow i

/-- The test of the destination at index `k` does what the row of the live object
says, and its traps go to the live destination there, as those of `TestSNMP` do. -/
structure TestsLive (lan : LanSystem) (snmp : SnmpEnv) (channelNo k : U8) (iface : String) :
    Prop where
  asked : (TestDestination channelNo k).asked snmp =
    [.testChannelMap, .testChannelMap, .testLanParamConfFile] ++
      (dispatchRow channelNo (k + 1) (liveTestRow lan iface k.toNat)).asked snmp
  outcome : (TestDestination channelNo k).outcome snmp =
    (dispatchRow channelNo (k + 1) (liveTestRow lan iface k.toNat)).outcome snmp
  sessions : Sessions (LiveTarget lan (ethChannels (snmp .channelInterfaceMap)) channelNo (k + 1))
    (TestDestination channelNo k) snmp
  testSNMP : ∀ destinationSel, Sessions
    (LiveTarget lan (ethChannels (snmp .channelInterfaceMap)) channelNo destinationSel)
    (TestSNMP channelNo destinationSel) snmp

theorem sessions_dispatchRow {snmp : SnmpEnv} {P : Session → Prop} {channelNo destinationSel : U8}
    (h : Sessions P (TestSNMP channelNo destinationSel) snmp) :
    ∀ row, Sessions P (dispatchRow channelNo destinationSel row) snmp
  | none => Ask.Only.pure
  | some row => by
      unfold dispatchRow
      dsimp only
      split
      · exact h
      split
      · split
        · exact Ask.Only.pure
        · refine Ask.Only.bind ?_ fun smtpMailId _ => ?_
          · unfold getSmtpMailIDForTest
            split
            · exact Ask.Only.pure
            · exact Ask.Only.bind (sessions_call rfl) fun _ _ => Ask.Only.pure
          · unfold sendTestMailForDestination
            split
            · exact Ask.Only.pure
            · exact Ask.Only.bind (sessions_call rfl) fun _ _ => Ask.Only.pure
      · exact Ask.Only.pure

theorem Mirrors.configured {lan : LanSystem} {iface : String} {destCount i : Nat}
    (h : Mirrors lan iface destCount i) {snmp : SnmpEnv}
    (htest : snmp .testLanParamConfFile = lan.files.shared) {channelNo : U8}
    (hchannel : channelNo ≤ 15) {channelMap : List (U8 × String)}
    (hmap : snmp .testChannelMap = some channelMap)
    (hiface : channelMap.lookup channelNo = some iface) (heth : isEthInterfaceName iface = true) :
    ∃ destinations, Configured snmp channelNo (lanConfig lan.files iface) destinations := by
  obtain ⟨data, hdata⟩ := Option.isSome_iff_exists.mp h.shared
  have hflat := h.loadable.2.flat
  have hcfg := fileConfig_of_shared hdata hflat
  simp only [hasFlatArrays, Bool.and_eq_true] at hflat
  obtain ⟨destinations, htype⟩ : ∃ destinations,
      arrayAt (lanConfig lan.files iface) "Type" = some destinations :=
    Option.isSome_iff_exists.mp hflat.1.1.2
  exact ⟨destinations, hchannel, ⟨channelMap, iface, hmap, hiface, heth, htest ▸ hcfg⟩, htype⟩

/-- With complete LAN sections, after any Sets of whole arrays and any restarts: the
test of one of the first fourteen destinations of a LAN channel does what the row of the
live object says, and its traps go where the traps of an event go. -/
theorem test_to_live_destination {f : LanFiles} {objects : List (String × Option LanParam)}
    {snmp : SnmpEnv} (hparse : parseLanConf f = .ok objects)
    (hcomplete : ∀ p ∈ ethChannels (snmp .channelInterfaceMap) ++ ethChannels (snmp .testChannelMap),
      LanComplete f p.2)
    {es : List LanLifeEvent}
    (hwhole : ∀ e, .set e ∈ es → ∀ i, e.req.Reaches (destCountOf (lanConfig f e.ifaceName)) i)
    {lan : LanSystem} (hreached : Reached lanLifeStep (.start f objects) es lan)
    (hsize : Addressable lan) (hfile : snmp .lanParamConfFile = lan.files.shared)
    (htest : snmp .testLanParamConfFile = lan.files.shared) {channelNo k : U8}
    (hchannel : channelNo ≤ 15) {channelMap : List (U8 × String)}
    (hmap : snmp .testChannelMap = some channelMap) {iface : String}
    (hiface : channelMap.lookup channelNo = some iface) (heth : isEthInterfaceName iface = true)
    (hk : k.toNat < 14) : TestsLive lan snmp channelNo k iface := by
  have hmem : (channelNo, iface) ∈ ethChannels (snmp .testChannelMap) := by
    rw [hmap]
    exact List.mem_filter.mpr ⟨mem_of_lookup_channel hiface, heth⟩
  obtain ⟨hload, hshared, hentries⟩ := hcomplete _ (List.mem_append_right _ hmem)
  have hmirrors := mirrors_reached hparse hload hshared (hentries k.toNat)
    (fun e he hi => hi ▸ hwhole e he k.toNat) hreached
  obtain ⟨destinations, hconfigured⟩ :=
    hmirrors.configured htest hchannel hmap hiface heth
  have hdispatches := hconfigured.dispatches hk
  have hrow : testRowOf (lanConfig lan.files iface) k.toNat = liveTestRow lan iface k.toNat := by
    obtain ⟨data, hdata⟩ := Option.isSome_iff_exists.mp hmirrors.shared
    have hlive := hmirrors.showsLive.rows.2
    rw [fileTestRow, fileConfig_of_shared hdata hmirrors.loadable.2.flat, Option.bind_some,
      exposedArrays_params] at hlive
    exact hlive
  have hshows : ∀ p ∈ ethChannels (snmp .channelInterfaceMap), ∀ i, ShowsLive lan p.2 i :=
    showsLive_reached hparse (fun p hp => hcomplete p (List.mem_append_left _ hp)) hwhole hreached
  have hnotified : ∀ destinationSel, Sessions
      (LiveTarget lan (ethChannels (snmp .channelInterfaceMap)) channelNo destinationSel)
      (TestSNMP channelNo destinationSel) snmp := by
    intro destinationSel
    refine Ask.Only.bind (sessions_call rfl) fun timestamp _ q hq session hsession => ?_
    exact liveTarget_of_notification hsize hfile hshows hq hsession
  obtain ⟨hasked, houtcome⟩ := hdispatches
  rw [hrow] at hasked houtcome
  refine ⟨hasked, houtcome, fun q hq session hsession => ?_, hnotified⟩
  rw [hasked] at hq
  rcases List.mem_append.mp hq with hq | hq
  · simp only [List.mem_cons, List.not_mem_nil, or_false] at hq
    rcases hq with rfl | rfl | rfl <;> cases hsession
  · exact sessions_dispatchRow (hnotified (k + 1)) _ q hq session hsession

/-- The file of `twoTrapsSystem` for a test, too. -/
def twoTrapsTest : SnmpEnv
  | .testChannelMap => some [(1, "eth0")]
  | .testLanParamConfFile => twoTrapsSystem.files.shared
  | q => twoTrapsSnmp q

/-- After a Set of the types and a restart, the test of the second destination opens a
session to it. -/
theorem test_after_restart :
    ∃ session, .snmpAdd 0 session ∈ (TestDestination 1 1).asked twoTrapsTest ∧
      session.peername = "10.0.0.3:162" ∧
      LiveTarget twoTrapsSystem [(1, "eth0")] 1 2 session := by
  have hparse : parseLanConf (twoTrapsFiles [0, 0]) =
      .ok [("eth0", some (twoTrapsParam [0, 0]))] := rfl
  have hrun : runFrom lanLifeStep
      (.start (twoTrapsFiles [0, 0]) [("eth0", some (twoTrapsParam [0, 0]))]) typesSet =
        some twoTrapsSystem := rfl
  have hcomplete : ∀ p ∈ ethChannels (twoTrapsTest .channelInterfaceMap) ++
      ethChannels (twoTrapsTest .testChannelMap), LanComplete (twoTrapsFiles [0, 0]) p.2 := by
    intro p hp
    have heth : p.2 = "eth0" := by
      rcases List.mem_append.mp hp with hp | hp
      · cases List.mem_singleton.mp hp
        rfl
      · cases List.mem_singleton.mp hp
        rfl
    rw [heth]
    exact twoTraps_complete
  have hsession : .snmpAdd 0 { twoTrapsSession with peername := "10.0.0.3:162" } ∈
      (TestDestination 1 1).asked twoTrapsTest := by
    decide +kernel
  have hmap : twoTrapsTest .testChannelMap = some [(1, "eth0")] := rfl
  have hiface : [((1 : U8), "eth0")].lookup 1 = some "eth0" := rfl
  have hlive : TestsLive twoTrapsSystem twoTrapsTest 1 1 "eth0" :=
    test_to_live_destination hparse hcomplete twoTraps_whole (.last hrun) twoTraps_addressable rfl
      rfl (by decide) hmap hiface (by decide) (by decide)
  exact ⟨_, hsession, rfl, hlive.sessions _ hsession _ rfl⟩

end Pef
