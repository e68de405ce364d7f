/-
# `TrapSession` — the sessions traps are sent in

A session carries the local address and the SNMP version of its manager.  Two
things are said of the sessions `sendTrap` opens, both of every run:

    version     is one snmp.conf does not disable, where the last line about a
                version counts (`disabled_version_never_sent`)
    localname   is the text behind the last colon of the event subject, and the
                subject of an alert is empty: the host name with the address
                goes into another field (`source_address_never_set`)
-/
import PlatformEventFilter.Lib.Split
import PlatformEventFilter.SnmpStatus

namespace Pef

/-! ## What snmp.conf says -/

/-- The version as managers and snmp.conf spell it. -/
def SnmpVersion.text : SnmpVersion → String
  | SNMP_VERSION_1 => "v1"
  | SNMP_VERSION_2c => "v2c"
  | SNMP_VERSION_3 => "v3"

/-- The second token of a line about a version, whose first is the version or
`disableSNMP` with it. -/
def setting (v : SnmpVersion) (line : List Char) : Option String :=
  match tokens line with
  | key :: value :: _ => if key = v.text ∨ key = "disableSNMP" ++ v.text then some value else none
  | _ => none

def confLines : Option String → List (List Char)
  | none => []
  | some text => text.toList.splitOn '\n'

/-- The last line about the version says 1, true or yes. -/
def Disabled (v : SnmpVersion) (confFile : Option String) : Prop :=
  ∃ value, ((confLines confFile).filterMap (setting v)).getLast? = some value ∧
    (value = "1" ∨ value = "true" ∨ value = "yes")

theorem disableKey_eq_iff (v : SnmpVersion) (key : String) :
    disableKey key = v.text ↔ key = v.text ∨ key = "disableSNMP" ++ v.text := by
  have hv1 : "disableSNMP" ++ "v1" = "disableSNMPv1" := rfl
  have hv2c : "disableSNMP" ++ "v2c" = "disableSNMPv2c" := rfl
  have hv3 : "disableSNMP" ++ "v3" = "disableSNMPv3" := rfl
  rw [disableKey]
  split
  · next h => subst h; cases v <;> simp [SnmpVersion.text]
  · split
    · next h => subst h; cases v <;> simp [SnmpVersion.text]
    · split
      · next h => subst h; cases v <;> simp [SnmpVersion.text]
      · next h1 h2 h3 => cases v <;> simp [SnmpVersion.text, h1, h2, h3]

/-- The value as it is stored. -/
def isSet (value : String) : Bool := value = "1" || value = "true" || value = "yes"

theorem text_cases (v : SnmpVersion) : v.text = "v1" ∨ v.text = "v2c" ∨ v.text = "v3" := by
  cases v
  · exact .inl rfl
  · exact .inr (.inl rfl)
  · exact .inr (.inr rfl)

theorem lookup_readConfLine (v : SnmpVersion) (disableStatus : List (String × Bool))
    (line : List Char) :
    (readConfLine disableStatus line).lookup v.text =
      ((setting v line).map isSet).or (disableStatus.lookup v.text) := by
  rw [readConfLine, setting]
  match tokens line with
  | [] => rfl
  | [_] => rfl
  | key :: value :: _ =>
      dsimp only
      by_cases hkey : disableKey key = v.text
      · rw [hkey, if_pos (text_cases v), if_pos ((disableKey_eq_iff v key).mp hkey)]
        exact Members.lookup_assign_self _ _ _
      · rw [if_neg fun h => hkey ((disableKey_eq_iff v key).mpr h)]
        split
        · exact Members.lookup_assign_ne hkey _ _
        · rfl

theorem getSNMPDisableStatus_eq (confFile : Option String) :
    getSNMPDisableStatus confFile =
      (confLines confFile).foldl readConfLine [("v1", false), ("v2c", false), ("v3", false)] := by
  cases confFile <;> rfl

/-- The last line about a version decides whether it is disabled. -/
theorem lookup_getSNMPDisableStatus (v : SnmpVersion) (confFile : Option String) :
    ((getSNMPDisableStatus confFile).lookup v.text).getD false = true ↔ Disabled v confFile := by
  have hfirst : [("v1", false), ("v2c", false), ("v3", false)].lookup v.text = some false := by
    cases v <;> rfl
  rw [getSNMPDisableStatus_eq, Members.lookup_foldl (fun ms line => lookup_readConfLine v ms line),
    hfirst, ← List.map_filterMap, List.getLast?_map, Disabled]
  cases ((confLines confFile).filterMap (setting v)).getLast? with
  | none => simp
  | some value => simp [isSet, or_assoc]

theorem readConfLine_of_none {line : List Char} (h : ∀ v, setting v line = none)
    (disableStatus : List (String × Bool)) : readConfLine disableStatus line = disableStatus := by
  rw [readConfLine]
  match htokens : tokens line with
  | [] => rfl
  | [_] => rfl
  | key :: value :: _ =>
      have hother : ∀ v : SnmpVersion, disableKey key ≠ v.text := by
        intro v hkey
        have hset := h v
        rw [setting, htokens] at hset
        dsimp only at hset
        rw [if_pos ((disableKey_eq_iff v key).mp hkey)] at hset
        cases hset
      refine if_neg ?_
      rintro (hkey | hkey | hkey)
      · exact hother .SNMP_VERSION_1 hkey
      · exact hother .SNMP_VERSION_2c hkey
      · exact hother .SNMP_VERSION_3 hkey

/-! ## The sessions of a trap -/

/-- The session a call is made with. -/
def SnmpCall.session? : SnmpCall → Option Session
  | .snmpAdd _ session => some session
  | .snmpSend _ session _ => some session
  | _ => none

section Sessions

variable {env : SnmpEnv}

/-- No session is opened or used. -/
abbrev Sessionless {α : Type} (p : SnmpProg α) (env : SnmpEnv) : Prop :=
  p.Only (fun q => q.session? = none) env

/-- Every session opened or used has the property. -/
abbrev Sessions {α : Type} (P : Session → Prop) (p : SnmpProg α) (env : SnmpEnv) : Prop :=
  p.Only (fun q => ∀ session, q.session? = some session → P session) env

theorem Sessionless.sessions {α : Type} {P : Session → Prop} {p : SnmpProg α}
    (h : Sessionless p env) : Sessions P p env :=
  Ask.Only.mono h fun q hq session hsession => by
    rw [hq] at hsession
    cases hsession

theorem sessions_call {P : Session → Prop} {q : SnmpCall} (h : q.session? = none) :
    Sessions P (snmpCall q) env :=
  Sessionless.sessions (Ask.Only.ask h)

theorem sessionless_sessionFor (manager : Nat) (m : ManagerProperty) (bmcIPAddress : String) :
    Sessionless (sessionFor manager m bmcIPAddress) env := by
  unfold sessionFor
  split
  · exact Ask.Only.pure
  split
  · exact Ask.Only.pure
  split
  · refine Ask.Only.bind (Ask.Only.ask rfl) fun members _ => ?_
    split
    · exact Ask.Only.pure
    refine Ask.Only.bind (Ask.Only.ask rfl) fun engineID _ => ?_
    refine Ask.Only.bind (Ask.Only.ask rfl) fun authKey _ => ?_
    cases authKey with
    | none => exact Ask.Only.pure
    | some authKey =>
        refine Ask.Only.bind (Ask.Only.ask rfl) fun privKey _ => ?_
        cases privKey with
        | none => exact Ask.Only.pure
        | some privKey => exact Ask.Only.pure
  · exact Ask.Only.pure

theorem sessionFor_some {manager : Nat} {m : ManagerProperty} {bmcIPAddress : String}
    {session : Session}
    (h : (sessionFor manager m bmcIPAddress).outcome env = .ok (some session)) :
    session.localname = bmcIPAddress ∧ session.version.text = m.version := by
  unfold sessionFor at h
  split at h
  · next hversion =>
      cases h
      exact ⟨rfl, hversion.symm⟩
  split at h
  · next hversion =>
      cases h
      exact ⟨rfl, hversion.symm⟩
  split at h
  · next hversion =>
      obtain ⟨members, -, h⟩ := Ask.outcome_bind_eq_ok env h
      split at h
      · cases h
      obtain ⟨engineID, -, h⟩ := Ask.outcome_bind_eq_ok env h
      obtain ⟨authKey, -, h⟩ := Ask.outcome_bind_eq_ok env h
      cases authKey with
      | none => cases h
      | some authKey =>
          obtain ⟨privKey, -, h⟩ := Ask.outcome_bind_eq_ok env h
          cases privKey with
          | none => cases h
          | some privKey =>
              cases h
              exact ⟨rfl, hversion.symm⟩
  · cases h

theorem sessionless_addPDUVars (manager : Nat) (objectList : List TrapObject) :
    Sessionless (addPDUVars manager objectList) env := by
  induction objectList with
  | nil => exact Ask.Only.pure
  | cons object objectList ih =>
      refine Ask.Only.bind ?_ fun added _ => ?_
      · unfold addPDUVar
        split
        · exact Ask.Only.ask rfl
        · exact Ask.Only.raise
      · cases added with
        | true => exact ih
        | false => exact Ask.Only.pure

theorem sessions_sendToManager (a : SnmpAlert) (disableStatus : List (String × Bool))
    (bmcIPAddress : String) (manager : Nat) (m : ManagerProperty) :
    Sessions (fun session => session.localname = bmcIPAddress ∧
        (disableStatus.lookup session.version.text).getD false ≠ true)
      (sendToManager a disableStatus bmcIPAddress manager m) env := by
  unfold sendToManager
  split
  · exact Ask.Only.pure
  next hallowed =>
  refine Ask.Only.bind (sessionless_sessionFor manager m bmcIPAddress).sessions
    fun session hsession => ?_
  cases session with
  | none => exact Ask.Only.pure
  | some session =>
      obtain ⟨hlocal, hversion⟩ := sessionFor_some hsession
      have huse : ∀ s, some session = some s → s.localname = bmcIPAddress ∧
          (disableStatus.lookup s.version.text).getD false ≠ true := by
        rintro _ ⟨⟩
        exact ⟨hlocal, hversion ▸ hallowed⟩
      refine Ask.Only.bind (Ask.Only.ask huse) fun added _ => ?_
      split
      · exact Ask.Only.pure
      refine Ask.Only.bind (sessions_call rfl) fun created _ => ?_
      split
      · exact Ask.Only.pure
      refine Ask.Only.bind (sessions_call rfl) fun uptime _ => ?_
      refine Ask.Only.bind (sessions_call rfl) fun timed _ => ?_
      split
      · exact Ask.Only.pure
      refine Ask.Only.bind (sessions_call rfl) fun named _ => ?_
      split
      · exact Ask.Only.pure
      refine Ask.Only.bind (sessionless_addPDUVars manager _).sessions fun filled _ => ?_
      split
      · exact Ask.Only.pure
      · exact Ask.Only.ask huse

theorem sessions_sendToManagers (a : SnmpAlert) (disableStatus : List (String × Bool))
    (bmcIPAddress : String) (managers : List ManagerProperty) :
    ∀ manager, Sessions (fun session => session.localname = bmcIPAddress ∧
        (disableStatus.lookup session.version.text).getD false ≠ true)
      (sendToManagers a disableStatus bmcIPAddress manager managers) env := by
  induction managers with
  | nil => exact fun _ => Ask.Only.pure
  | cons m managers ih =>
      intro manager
      refine Ask.Only.bind (sessions_sendToManager a disableStatus bmcIPAddress manager m)
        fun _ _ => ?_
      exact Ask.Only.bind (ih (manager + 1)) fun _ _ => Ask.Only.pure

theorem sessionless_loadSnmpV3UserFromDBus (userName : String) :
    Sessionless (loadSnmpV3UserFromDBus userName) env := by
  refine Ask.Only.bind (Ask.Only.ask rfl) fun userProps _ => ?_
  split
  · exact Ask.Only.pure
  · split
    · exact Ask.Only.pure
    · exact Ask.Only.bind (Ask.Only.ask rfl) fun _ _ => Ask.Only.pure

theorem sessionless_managersOf (cfg : TrapConfig) (destinationSel : U8) :
    Sessionless (managersOf cfg destinationSel) env := by
  unfold managersOf managersOfPeer
  split
  · exact Ask.Only.pure
  split
  · exact Ask.Only.pure
  split
  · split
    · exact Ask.Only.pure
    split
    · exact Ask.Only.pure
    refine Ask.Only.bind (sessionless_loadSnmpV3UserFromDBus _) fun user _ => ?_
    split
    · exact Ask.Only.pure
    · exact Ask.Only.pure
  · exact Ask.Only.pure

theorem sessionless_getManagers (channelNo destinationSel : Option U8) :
    Sessionless (getManagers channelNo destinationSel) env := by
  refine Ask.Only.bind (Ask.Only.ask rfl) fun bus _ => ?_
  cases bus with
  | none => exact Ask.Only.raise
  | some u =>
      refine Ask.Only.bind ?_ fun ethMap _ => ?_
      · refine Ask.Only.bind (Ask.Only.ask rfl) fun channelMap _ => ?_
        split
        · exact Ask.Only.pure
        · exact Ask.Only.pure
      split
      · exact Ask.Only.pure
      refine Ask.Only.bind (Ask.Only.ask rfl) fun mergedData _ => ?_
      split
      · exact Ask.Only.pure
      split
      · exact sessionless_managersOf _ _
      · exact Ask.Only.pure

/-- What holds of every session of a trap. -/
structure TrapSession (env : SnmpEnv) (a : SnmpAlert) (session : Session) : Prop where
  enabled : getTrapEnabled (env .trapStatusFile) = true
  localname : session.localname = afterLastColon a.eventSubjectSN
  allowed : ¬Disabled session.version (env .snmpConfFile)

theorem sessions_sendTrap (a : SnmpAlert) (channelNo destinationSel : Option U8) :
    Sessions (TrapSession env a) (sendTrap a channelNo destinationSel) env := by
  refine Ask.Only.bind (sessions_call rfl) fun statusFile hstatus => ?_
  cases hstatus
  split
  · exact Ask.Only.pure
  next henabled =>
  refine Ask.Only.bind (sessions_call rfl) fun confFile hconf => ?_
  cases hconf
  refine Ask.Only.bind ?_ fun managers _ => ?_
  · refine Sessionless.sessions (Ask.Only.catching ?_ ?_)
    · exact Ask.Only.bind (sessionless_getManagers _ _) fun _ _ => Ask.Only.pure
    · rintro _ _ _ ⟨⟩
      exact Ask.Only.pure
  cases managers with
  | none => exact Ask.Only.pure
  | some managers =>
      refine (sessions_sendToManagers a _ _ managers 0).mono ?_
      intro q hq session hsession
      obtain ⟨hlocal, hallowed⟩ := hq session hsession
      refine ⟨by simpa using henabled, hlocal, fun hdisabled => hallowed ?_⟩
      exact (lookup_getSNMPDisableStatus session.version _).mpr hdisabled

end Sessions

/-! ## Disabled versions -/

/-- A PDU is sent in a session only with traps enabled and its version not
disabled by the last line about it, and lines about no version change nothing. -/
theorem disabled_version_never_sent (a : SnmpAlert) (channelNo destinationSel : Option U8)
    (env : SnmpEnv) :
    (∀ manager session pdu,
      .snmpSend manager session pdu ∈ (sendTrap a channelNo destinationSel).asked env →
        getTrapEnabled (env .trapStatusFile) = true ∧
          ¬Disabled session.version (env .snmpConfFile)) ∧
    ∀ text text' pre line post, confLines (some text) = pre ++ line :: post →
      confLines (some text') = pre ++ post → (∀ v, setting v line = none) →
        getSNMPDisableStatus (some text) = getSNMPDisableStatus (some text') := by
  constructor
  · intro manager session pdu hsend
    have htrap := sessions_sendTrap a channelNo destinationSel _ hsend session rfl
    exact ⟨htrap.enabled, htrap.allowed⟩
  · intro text text' pre line post htext htext' hnone
    rw [getSNMPDisableStatus_eq, getSNMPDisableStatus_eq, htext, htext', List.foldl_append,
      List.foldl_append, List.foldl_cons, readConfLine_of_none hnone]

/-- Eth0 carries channel 1. -/
def publicEnv : Env
  | .ipAddress .. => "10.0.0.1"
  | q => trapEnv q

/-- A v1 manager at eth0 and a library that takes everything. -/
def publicSnmp : SnmpEnv
  | .trapStatusFile => some "true"
  | .snmpConfFile => some "disableSNMPv1 yes\nv1 no"
  | .newDefaultBus => some ()
  | .channelInterfaceMap => some [(1, "eth0")]
  | .lanParamConfFile => some (.obj [("Interfaces", .obj [("eth0", .obj [("Config", .obj
      [("Type", .arr [.num 0]), ("AddressType", .arr [.num 1]), ("IPv4", .arr [.str "10.0.0.2"]),
       ("CommunityString", .str "public")])])])])
  | .snmpAdd .. => true
  | .pduCreate .. => true
  | .addUptime .. => true
  | .addTrapOID .. => true
  | .addVariable .. => true
  | .snmpSend .. => true
  | q => SnmpEnv.dead q

def publicEvent : EventMsgData := ⟨1, 0, 0x20, 1, 1, 1, 0, 0, 0, ""⟩

def publicAlert : SnmpAlert where
  id := 1
  ts := ""
  sev := "Warning"
  msg := "lowerNonCritGoingLow"
  eventID := "CPU"
  eventStatus := "Asserted"
  eventSubjectSN := ""
  addData := ""
  ip := "bmc:10.0.0.1"
  channelNo := 1
  destinationSel := 1

def publicSession : Session where
  peername := "10.0.0.2:162"
  localname := ""
  version := .SNMP_VERSION_1
  community := "public"
  securityName := ""
  securityEngineID := []
  securityAuthProto := .SNMP_DEFAULT_AUTH_PROTO
  securityAuthKey := []
  securityPrivProto := .SNMP_DEFAULT_PRIV_PROTO
  securityPrivKey := []

/-- Disabled by the first line, v1 is used for the second. -/
theorem public_trap_sent : ∃ pdu,
    .snmpSend 0 publicSession pdu ∈ (sendTrap publicAlert (some 1) (some 1)).asked publicSnmp ∧
      getTrapEnabled (publicSnmp .trapStatusFile) = true ∧
        ¬Disabled .SNMP_VERSION_1 (publicSnmp .snmpConfFile) := by
  let pdu : Pdu := ⟨.SNMP_MSG_TRAP, "0", OBMCErrorNotification.getTrapOID,
    OBMCErrorNotification.getFieldOIDList publicAlert⟩
  have hsend : .snmpSend 0 publicSession pdu ∈
      (sendTrap publicAlert (some 1) (some 1)).asked publicSnmp := by
    decide +kernel
  have hlaw := (disabled_version_never_sent publicAlert (some 1) (some 1) publicSnmp).1
  exact ⟨pdu, hsend, hlaw 0 publicSession pdu hsend⟩

/-! ## The source address -/

/-- An IPv4 address as `inet_ntop` writes it. -/
def ipv4Text (b₀ b₁ b₂ b₃ : U8) : String :=
  toString b₀.toNat ++ "." ++ toString b₁.toNat ++ "." ++ toString b₂.toNat ++ "." ++
    toString b₃.toNat

theorem ipv4Text_ne_empty (b₀ b₁ b₂ b₃ : U8) : ipv4Text b₀ b₁ b₂ b₃ ≠ "" := by
  intro h
  have hlast := (String.append_eq_empty_iff.mp h).1
  have hdot : "." = "" := (String.append_eq_empty_iff.mp hlast).2
  exact absurd hdot (by decide)

theorem colon_notMem_toString (n : Nat) : ':' ∉ (toString n).toList := by
  intro h
  rw [Nat.toString_eq_repr, Nat.toList_repr] at h
  have hdigit : ':'.isDigit = true := Nat.isDigit_of_mem_toDigits (by decide) (by decide) h
  cases hdigit

theorem colon_notMem_ipv4Text (b₀ b₁ b₂ b₃ : U8) : ':' ∉ (ipv4Text b₀ b₁ b₂ b₃).toList := by
  have hdot : ':' ∉ ".".toList := by decide
  simp only [ipv4Text, String.toList_append, List.mem_append, not_or]
  refine ⟨⟨⟨⟨⟨⟨?_, hdot⟩, ?_⟩, hdot⟩, ?_⟩, hdot⟩, ?_⟩
  · exact colon_notMem_toString b₀.toNat
  · exact colon_notMem_toString b₁.toNat
  · exact colon_notMem_toString b₂.toNat
  · exact colon_notMem_toString b₃.toNat

/-- Behind a host name an address without a colon is found again. -/
theorem afterLastColon_host {address : String} (h : ':' ∉ address.toList) (hostName : String) :
    afterLastColon (hostName ++ ":" ++ address) = address := by
  have hsplit : (hostName ++ ":" ++ address).toList = hostName.toList ++ ':' :: address.toList := by
    rw [String.toList_append, String.toList_append, List.append_assoc]
    rfl
  have hnone : ∀ c ∈ address.toList, decide (c = ':') = false := by
    intro c hc
    refine decide_eq_false ?_
    rintro rfl
    exact h hc
  have hlast : Split.afterLast (fun c => decide (c = ':'))
      (hostName.toList ++ ':' :: address.toList) = address.toList :=
    Split.afterLast_append (decide_eq_true rfl) hnone
  rw [Split.afterLast] at hlast
  simp only [afterLastColon, hsplit, ne_eq, decide_not, hlast, String.ofList_toList]

/-- The address `sendSNMPAlert` resolves for the interface of the channel. -/
def resolvedAddress (env : Env) (s : Site) (channelNo : U8) : String :=
  let ifaceName := getInterfaceNameForChannel channelNo (ethChannels (env (.alertChannelMap s)))
  let ipAddress := env (.ipAddress s (some ifaceName))
  if ipAddress = "" then env (.ipAddress s none) else ipAddress

/-- The subject of a notification is empty, and the address is in the field `ip`,
behind the host name. -/
theorem notification_of_sendSNMPAlert {env : Env} {retryEnable : Bool} {s s' : Site}
    {event : EventMsgData} {channelNo destinationSel : U8} {a : SnmpAlert}
    (h : .notification s' a ∈
      (sendSNMPAlert retryEnable s event channelNo destinationSel).asked env) :
    a.eventSubjectSN = "" ∧
      ∃ hostName, a.ip = hostName ++ ":" ++ resolvedAddress env s channelNo := by
  let P : Call → Prop := fun q => ∀ s' a, q = .notification s' a → a.eventSubjectSN = "" ∧
    ∃ hostName, a.ip = hostName ++ ":" ++ resolvedAddress env s channelNo
  have hlookup : ∀ q : Call, q.isLookup = true → P q := by
    rintro _ hq _ _ rfl
    cases hq
  have honly : (sendSNMPAlert retryEnable s event channelNo destinationSel).Only P env := by
    refine Ask.Only.bind ((lookup_getPathFromSensorNumber s _).mono hlookup) fun _ _ => ?_
    refine Ask.Only.bind ((lookup_getEthChannelInterfaceMap (lookup_call rfl)).mono hlookup)
      fun ethMap hmap => ?_
    obtain rfl : ethChannels (env (.alertChannelMap s)) = ethMap :=
      Except.ok.inj ((outcome_alertChannelMap s).symm.trans hmap)
    dsimp only
    split
    · exact Ask.Only.pure
    refine Ask.Only.bind ((lookup_bmcIPAddress s _).mono hlookup) fun ipAddress hip => ?_
    have haddress : resolvedAddress env s channelNo = ipAddress :=
      Except.ok.inj ((outcome_bmcIPAddress s _).symm.trans hip)
    refine Ask.Only.bind (Ask.Only.ask (hlookup _ rfl)) fun _ _ => ?_
    refine Ask.Only.bind (only_getStrProperty (Ask.Only.ask (hlookup _ rfl))) fun hostName _ => ?_
    refine only_catchSdbusplus ?_ Ask.Only.pure
    split
    · refine Ask.Only.bind (Ask.Only.ask fun _ _ heq => ?_) fun _ _ =>
        Ask.Only.bind only_reply fun _ _ => Ask.Only.pure
      cases heq
    · refine Ask.Only.bind (Ask.Only.ask fun _ _ heq => ?_) fun _ _ => Ask.Only.pure
      cases heq
      exact ⟨rfl, hostName, by rw [haddress]⟩
  exact honly _ h s' a rfl

/-- No session of an alert has the address that was resolved, though it is what
stands behind the last colon of the field `ip`. -/
theorem source_address_never_set {env : Env} {snmp : SnmpEnv} {s s' : Site}
    {event : EventMsgData} {channelNo destinationSel b₀ b₁ b₂ b₃ : U8} {a : SnmpAlert}
    {manager : Nat} {session : Session}
    (hresolved : resolvedAddress env s channelNo = ipv4Text b₀ b₁ b₂ b₃)
    (halert : .notification s' a ∈
      (sendSNMPAlert false s event channelNo destinationSel).asked env)
    (hsession : .snmpAdd manager session ∈ (sendOBMCErrorNotification a).asked snmp) :
    session.localname ≠ ipv4Text b₀ b₁ b₂ b₃ ∧
      afterLastColon a.ip = ipv4Text b₀ b₁ b₂ b₃ := by
  obtain ⟨hsubject, hostName, hip⟩ := notification_of_sendSNMPAlert halert
  have hlocal : session.localname = afterLastColon a.eventSubjectSN :=
    (sessions_sendTrap a _ _ _ hsession session rfl).localname
  constructor
  · intro haddress
    refine ipv4Text_ne_empty b₀ b₁ b₂ b₃ ?_
    rw [← haddress, hlocal, hsubject]
    rfl
  · rw [hip, hresolved]
    exact afterLastColon_host (colon_notMem_ipv4Text b₀ b₁ b₂ b₃) hostName

theorem public_session_unaddressed :
    publicSession.localname ≠ ipv4Text 10 0 0 1 ∧
      afterLastColon publicAlert.ip = ipv4Text 10 0 0 1 := by
  have hresolved : resolvedAddress publicEnv ⟨0, 0⟩ 1 = ipv4Text 10 0 0 1 := by
    decide +kernel
  have halert : .notification ⟨0, 0⟩ publicAlert ∈
      (sendSNMPAlert false ⟨0, 0⟩ publicEvent 1 1).asked publicEnv := by
    decide +kernel
  have hsession : .snmpAdd 0 publicSession ∈
      (sendOBMCErrorNotification publicAlert).asked publicSnmp := by
    decide +kernel
  exact source_address_never_set hresolved halert hsession

/-- The address 10.0.0.1 is resolved, and the session has none. -/
theorem empty_source_address :
    ¬∀ s' a manager session,
      .notification s' a ∈ (sendSNMPAlert false ⟨0, 0⟩ publicEvent 1 1).asked publicEnv →
      .snmpAdd manager session ∈ (sendOBMCErrorNotification a).asked publicSnmp →
        session.localname = resolvedAddress publicEnv ⟨0, 0⟩ 1 := by
  intro h
  have haddress := h ⟨0, 0⟩ publicAlert 0 publicSession (by decide +kernel) (by decide +kernel)
  exact absurd haddress (by decide +kernel)

end Pef
