/-
# `TrapTarget` — where a trap goes

Between an event and the session of a trap lie a filter row, a policy row and a
destination row.  The first two are read from the objects of the manager, the last
one from the shared file, by another function and behind another conversion of the
selector.

    versionOfType t              the version a destination type stands for
    TrapTarget row community s   the session is the one the row describes

`trap_to_live_destination`: every session that an event leads to is that of the
destination the live objects have at the selector of a live policy, which a live
filter row that matches the event has selected.
-/
import PlatformEventFilter.LanLive
import PlatformEventFilter.Response
import PlatformEventFilter.TrapSession

namespace Pef

/-! ## Targets -/

/-- The version a destination type stands for. -/
def versionOfType (t : U8) : Option SnmpVersion :=
  if t = 0 then some .SNMP_VERSION_1
  else if t = 1 then some .SNMP_VERSION_2c
  else if t = 2 then some .SNMP_VERSION_3
  else none

/-- The session is opened to the peer of the row, in its version, with the community
string or as the user of the row. -/
structure TrapTarget (row : ManagerRow) (community : String) (session : Session) : Prop where
  version : versionOfType row.type = some session.version
  peer : ∃ addressType address, row.addressType = some addressType ∧ row.address = some address ∧
    session.peername = formatPeerAddress address addressType ∧ session.peername ≠ ""
  community : session.version ≠ .SNMP_VERSION_3 → session.community = community ∧ community ≠ ""
  user : session.version = .SNMP_VERSION_3 → row.userName = some session.securityName

/-- The manager is the destination of the row. -/
structure ManagerOf (row : ManagerRow) (community : String) (m : ManagerProperty) : Prop where
  version : (versionOfType row.type).map SnmpVersion.text = some m.version
  peer : ∃ addressType address, row.addressType = some addressType ∧ row.address = some address ∧
    m.ipaddress = formatPeerAddress address addressType ∧ m.ipaddress ≠ ""
  community : m.version ≠ "v3" → m.community = community ∧ community ≠ ""
  user : m.version = "v3" → row.userName = some m.userName

section Managers

variable {env : SnmpEnv}

theorem sessionFor_fields {manager : Nat} {m : ManagerProperty} {bmcIPAddress : String}
    {session : Session}
    (h : (sessionFor manager m bmcIPAddress).outcome env = .ok (some session)) :
    session.peername = m.ipaddress ∧ (m.version ≠ "v3" → session.community = m.community) ∧
      (m.version = "v3" → session.securityName = m.userName) := by
  unfold sessionFor at h
  split at h
  · next hversion =>
      cases h
      exact ⟨rfl, fun _ => rfl, fun hv => absurd (hversion.symm.trans hv) (by decide)⟩
  split at h
  · next hversion =>
      cases h
      exact ⟨rfl, fun _ => rfl, fun hv => absurd (hversion.symm.trans hv) (by decide)⟩
  split at h
  · next hversion =>
      obtain ⟨members, -, h⟩ := Ask.outcome_bind_eq_ok env h
      split at h
      · cases h
      obtain ⟨engineID, -, h⟩ := Ask.outcome_bind_eq_ok env h
      obtain ⟨authKey, -, h⟩ := Ask.outcome_bind_eq_ok env h
      cases authKey with
      | none => cases h
      | some authKey =>
          obtain ⟨privKey, -, h⟩ := Ask.outcome_bind_eq_ok env h
          cases privKey with
          | none => cases h
          | some privKey =>
              cases h
              exact ⟨rfl, fun hv => absurd hversion hv, fun _ => rfl⟩
  · cases h

theorem text_injective : Function.Injective SnmpVersion.text := by
  intro v w h
  cases v <;> cases w <;> first | rfl | exact absurd h (by decide)

theorem ManagerOf.target {row : ManagerRow} {community : String} {m : ManagerProperty}
    (h : ManagerOf row community m) {manager : Nat} {bmcIPAddress : String} {session : Session}
    (hsession : (sessionFor manager m bmcIPAddress).outcome env = .ok (some session)) :
    TrapTarget row community session := by
  obtain ⟨hpeername, hcommunity, huser⟩ := sessionFor_fields hsession
  obtain ⟨-, htext⟩ := sessionFor_some hsession
  obtain ⟨v, hv, hvtext⟩ := Option.map_eq_some_iff.mp h.version
  have hversion : v = session.version := text_injective (hvtext.trans htext.symm)
  have hv3 : session.version = .SNMP_VERSION_3 ↔ m.version = "v3" := by
    rw [← htext]
    exact ⟨fun h3 => congrArg SnmpVersion.text h3, fun h3 => text_injective h3⟩
  constructor
  · rw [hv, hversion]
  · rw [hpeername]
    exact h.peer
  · intro hne
    rw [hcommunity fun h3 => hne (hv3.mpr h3)]
    exact h.community fun h3 => hne (hv3.mpr h3)
  · intro h3
    rw [huser (hv3.mp h3)]
    exact h.user (hv3.mp h3)

theorem managerOf_row {cfg : TrapConfig} {destinationSel : U8} (hsel : destinationSel ≠ 0)
    {managers : List ManagerProperty} {m : ManagerProperty}
    (h : (managersOf cfg destinationSel).outcome env = .ok managers) (hm : m ∈ managers) :
    ∃ row, cfg.managerRow (destinationSel.toNat - 1) = some row ∧ ManagerOf row cfg.community m := by
  rcases managersOfPeer_cases h with rfl | ⟨i, t, peer, hselected, hone⟩
  · exact absurd hm List.not_mem_nil
  rw [selectedPeer_eq cfg hsel] at hselected
  obtain ⟨row, hrow, hselected⟩ := Option.bind_eq_some_iff.mp hselected
  obtain ⟨addressType, address, haddressType, haddress, hpeer, hfields⟩ :=
    row.peer_eq_some hselected
  cases hfields
  have hat : ∃ addressType' address', row.addressType = some addressType' ∧
      row.address = some address' ∧ formatPeerAddress address addressType =
        formatPeerAddress address' addressType' ∧ formatPeerAddress address addressType ≠ "" :=
    ⟨addressType, address, haddressType, haddress, rfl, hpeer⟩
  refine ⟨row, hrow, ?_⟩
  rcases hone with ⟨htype, hcommunity, rfl⟩ | ⟨htype, user, _, _, _, huser, -, rfl⟩
  · cases List.mem_singleton.mp hm
    have hne : (if row.type = 0 then "v1" else "v2c") ≠ "v3" := by
      split <;> decide
    refine ⟨?_, hat, fun _ => ⟨rfl, hcommunity⟩, fun h3 => absurd h3 hne⟩
    rcases htype with htype | htype <;> rw [htype] <;> rfl
  · cases List.mem_singleton.mp hm
    refine ⟨by rw [htype]; rfl, hat, fun hne => absurd rfl hne, fun _ => ?_⟩
    exact (userName_of_managerRow hrow htype).trans huser

theorem managersOf_of_getManagers {channelNo destinationSel : U8} {managers : List ManagerProperty}
    {m : ManagerProperty}
    (h : (getManagers (some channelNo) (some destinationSel)).outcome env = .ok managers)
    (hm : m ∈ managers) :
    ∃ iface cfg, (ethChannels (env .channelInterfaceMap)).lookup channelNo = some iface ∧
      fileTrapConfig (env .lanParamConfFile) iface = some cfg ∧
      (managersOf cfg destinationSel).outcome env = .ok managers := by
  rw [getManagers_eq] at h
  obtain ⟨bus, -, h⟩ := Ask.outcome_bind_eq_ok env h
  cases bus with
  | none => cases h
  | some _ =>
      obtain ⟨ethMap, hmap, h⟩ := Ask.outcome_bind_eq_ok env h
      obtain rfl : ethChannels (env .channelInterfaceMap) = ethMap :=
        Except.ok.inj ((outcome_snmpEthChannelInterfaceMap env).symm.trans hmap)
      split at h
      · cases h
        exact absurd hm List.not_mem_nil
      next iface hiface =>
      obtain ⟨mergedData, hfile, h⟩ := Ask.outcome_bind_eq_ok env h
      cases hfile
      split at h
      · cases h
        exact absurd hm List.not_mem_nil
      next cfg hcfg => exact ⟨iface, cfg, hiface, hcfg, h⟩

/-! ## The sessions -/

theorem sessions_of_manager (a : SnmpAlert) (disableStatus : List (String × Bool))
    (bmcIPAddress : String) (manager : Nat) (m : ManagerProperty) :
    Sessions (fun session => (sessionFor manager m bmcIPAddress).outcome env = .ok (some session))
      (sendToManager a disableStatus bmcIPAddress manager m) env := by
  unfold sendToManager
  split
  · exact Ask.Only.pure
  refine Ask.Only.bind (sessionless_sessionFor manager m bmcIPAddress).sessions
    fun session hsession => ?_
  cases session with
  | none => exact Ask.Only.pure
  | some session =>
      have huse : ∀ s, some session = some s →
          (sessionFor manager m bmcIPAddress).outcome env = .ok (some s) := by
        rintro _ ⟨⟩
        exact hsession
      refine Ask.Only.bind (Ask.Only.ask huse) fun added _ => ?_
      split
      · exact Ask.Only.pure
      refine Ask.Only.bind (sessions_call rfl) fun created _ => ?_
      split
      · exact Ask.Only.pure
      refine Ask.Only.bind (sessions_call rfl) fun uptime _ => ?_
      refine Ask.Only.bind (sessions_call rfl) fun timed _ => ?_
      split
      · exact Ask.Only.pure
      refine Ask.Only.bind (sessions_call rfl) fun named _ => ?_
      split
      · exact Ask.Only.pure
      refine Ask.Only.bind (sessionless_addPDUVars manager _).sessions fun filled _ => ?_
      split
      · exact Ask.Only.pure
      · exact Ask.Only.ask huse

theorem sessions_of_managers (a : SnmpAlert) (disableStatus : List (String × Bool))
    (bmcIPAddress : String) (managers : List ManagerProperty) :
    ∀ manager, Sessions (fun session => ∃ k, ∃ m ∈ managers,
        (sessionFor k m bmcIPAddress).outcome env = .ok (some session))
      (sendToManagers a disableStatus bmcIPAddress manager managers) env := by
  induction managers with
  | nil => exact fun _ => Ask.Only.pure
  | cons m managers ih =>
      intro manager
      refine Ask.Only.bind ((sessions_of_manager a disableStatus bmcIPAddress manager m).mono
        fun q hq session hs => ⟨manager, m, List.mem_cons_self, hq session hs⟩) fun _ _ => ?_
      refine Ask.Only.bind ((ih (manager + 1)).mono fun q hq session hs => ?_)
        fun _ _ => Ask.Only.pure
      obtain ⟨k, m', hm', h⟩ := hq session hs
      exact ⟨k, m', List.mem_cons_of_mem m hm', h⟩

theorem sessions_of_notification (a : SnmpAlert) :
    Sessions (fun session => ∃ managers k, ∃ m ∈ managers,
        (getManagers (some a.channelNo) (some a.destinationSel)).outcome env = .ok managers ∧
        (sessionFor k m (afterLastColon a.eventSubjectSN)).outcome env = .ok (some session))
      (sendOBMCErrorNotification a) env := by
  refine Ask.Only.bind (sessions_call rfl) fun statusFile _ => ?_
  split
  · exact Ask.Only.pure
  refine Ask.Only.bind (sessions_call rfl) fun confFile _ => ?_
  refine Ask.Only.bind ?_ fun managers hmanagers => ?_
  · refine Sessionless.sessions (Ask.Only.catching ?_ ?_)
    · exact Ask.Only.bind (sessionless_getManagers _ _) fun _ _ => Ask.Only.pure
    · rintro _ _ _ ⟨⟩
      exact Ask.Only.pure
  rw [Ask.outcome_catching_toOption] at hmanagers
  cases hget : (getManagers (some a.channelNo) (some a.destinationSel)).outcome env with
  | error e =>
      rw [hget] at hmanagers
      cases hmanagers
      exact Ask.Only.pure
  | ok managers' =>
      rw [hget] at hmanagers
      cases hmanagers
      refine (sessions_of_managers a _ _ managers' 0).mono fun q hq session hsession => ?_
      obtain ⟨k, m, hm, h⟩ := hq session hsession
      exact ⟨managers', k, m, hm, rfl, h⟩

/-- The selector 0 stands for the last index there is. -/
theorem managerRow_of_zero {cfg : TrapConfig} {managers : List ManagerProperty} {m : ManagerProperty}
    (h : (managersOf cfg 0).outcome env = .ok managers) (hm : m ∈ managers) :
    cfg.managerRow (2 ^ 64 - 1) ≠ none := by
  rcases managersOfPeer_cases h with rfl | ⟨i, t, peer, hselected, -⟩
  · exact absurd hm List.not_mem_nil
  unfold selectedPeer at hselected
  rw [if_pos rfl] at hselected
  obtain ⟨t, ht, -⟩ := Option.bind_eq_some_iff.mp hselected
  rw [TrapConfig.managerRow, managerRow, ht]
  exact Option.some_ne_none _

/-- Every session of a notification is that of the row the file has at the index of
the selector. -/
theorem target_of_notification {a : SnmpAlert} {q : SnmpCall} {session : Session}
    (hlast : ∀ iface, (ethChannels (env .channelInterfaceMap)).lookup a.channelNo = some iface →
      fileManagerRow (env .lanParamConfFile) iface (2 ^ 64 - 1) = none)
    (hq : q ∈ (sendOBMCErrorNotification a).asked env) (hs : q.session? = some session) :
    a.destinationSel ≠ 0 ∧ ∃ iface row community,
      (ethChannels (env .channelInterfaceMap)).lookup a.channelNo = some iface ∧
      fileManagerRow (env .lanParamConfFile) iface (a.destinationSel.toNat - 1) = some row ∧
      fileCommunity (env .lanParamConfFile) iface = some community ∧
      TrapTarget row community session := by
  obtain ⟨managers, k, m, hm, hget, hsession⟩ := sessions_of_notification a q hq session hs
  obtain ⟨iface, cfg, hiface, hcfg, hmanagers⟩ := managersOf_of_getManagers hget hm
  have hsel : a.destinationSel ≠ 0 := by
    intro h0
    rw [h0] at hmanagers
    have hnone := hlast iface hiface
    rw [fileManagerRow, hcfg] at hnone
    exact managerRow_of_zero hmanagers hm hnone
  obtain ⟨row, hrow, hmanager⟩ := managerOf_row hsel hmanagers hm
  refine ⟨hsel, iface, row, cfg.community, hiface, ?_, ?_, hmanager.target hsession⟩
  · rw [fileManagerRow, hcfg]
    exact hrow
  · rw [fileCommunity, hcfg]
    rfl

end Managers

/-! ## Traps of an event -/

section Events

variable {env : Env} {retryEnable : Bool} {cfg : PefCfgInfo} {event : EventMsgData}
  {ethMap : EthChannelMap} {policies : List AlertPolicyTbl}

theorem mem_plan {site : Site} {p : AlertPolicyTbl} :
    ∀ {M : List EvtFilterTblEntry} {i : Nat}, Step.alert site p ∈ plan cfg policies M i →
      ∃ e ∈ M, actionEnabled cfg e ALERT_ACTION = true ∧ p ∈ policies ∧ Selects e.AlertPolicyNum p
  | [], _, h => absurd h List.not_mem_nil
  | e :: M, i, h => by
      rcases List.mem_append.mp h with h | h
      · rcases List.mem_cons.mp h with h | h
        · cases h
        split at h
        · next halert =>
            obtain ⟨hp, hselects⟩ := List.mem_filter.mp (mem_alertSteps h)
            exact ⟨e, List.mem_cons_self, halert, hp, of_decide_eq_true hselects⟩
        · exact absurd h List.not_mem_nil
      · obtain ⟨e', he', hrest⟩ := mem_plan h
        exact ⟨e', List.mem_cons_of_mem e he', hrest⟩

theorem notification_notMem_delivery {s : Site} {subject body : String} {a : SnmpAlert} :
    Effect.notification a ∉ deliveryEffects retryEnable env s event subject body := by
  intro h
  unfold deliveryEffects at h
  split at h
  · split at h
    · rcases List.mem_cons.mp h with h | h
      · cases h
      split at h
      · cases List.mem_singleton.mp h
      · exact absurd h List.not_mem_nil
    · exact absurd h List.not_mem_nil
  · rcases List.mem_cons.mp h with h | h
    · cases h
    split at h
    · cases List.mem_singleton.mp h
    · exact absurd h List.not_mem_nil

theorem notification_of_alert {s : Site} {p : AlertPolicyTbl} {a : SnmpAlert}
    (h : Effect.notification a ∈ alertEffects retryEnable env s event ethMap p) :
    a.channelNo = p.ChannelNo ∧ a.destinationSel = p.DestinationSel := by
  unfold alertEffects at h
  split at h
  · exact absurd h List.not_mem_nil
  split at h
  · unfold mailEffects at h
    split at h
    · split at h
      · exact absurd h List.not_mem_nil
      · exact absurd h notification_notMem_delivery
    · exact absurd h List.not_mem_nil
  split at h
  · unfold trapEffects at h
    split at h
    · exact absurd h List.not_mem_nil
    next a' ha' =>
    split at h
    · cases List.mem_singleton.mp h
    · cases List.mem_singleton.mp h
      unfold notificationOf at ha'
      obtain ⟨path, -, ha'⟩ := Option.bind_eq_some_iff.mp ha'
      dsimp only at ha'
      split at ha'
      · cases ha'
      obtain ⟨v, -, ha'⟩ := Option.bind_eq_some_iff.mp ha'
      obtain ⟨name, -, ha'⟩ := Option.bind_eq_some_iff.mp ha'
      cases ha'
      exact ⟨rfl, rfl⟩
  · exact absurd h List.not_mem_nil

theorem alert_of_plan {M : List EvtFilterTblEntry} {x : Effect}
    (hpower : ∀ on e, transitionOf cfg on e ≠ some x)
    (h : x ∈ carriedOut retryEnable cfg event ethMap env (plan cfg policies M 0)) :
    ∃ e ∈ M, actionEnabled cfg e ALERT_ACTION = true ∧ ∃ p ∈ policies,
      Selects e.AlertPolicyNum p ∧ ∃ site, x ∈ alertEffects retryEnable env site event ethMap p := by
  obtain ⟨step, hstep, h⟩ := List.mem_flatMap.mp h
  have hmem := Ask.mem_of_mem_untilStop hstep
  cases step with
  | power i e =>
      rw [Step.effects, Option.mem_toList] at h
      exact absurd h (hpower _ e)
  | policies i e => exact absurd h List.not_mem_nil
  | alert site p =>
      obtain ⟨e, he, halert, hp, hselects⟩ := mem_plan hmem
      exact ⟨e, he, halert, p, hp, hselects, site, h⟩

theorem transitionOf_eq_some {on : Bool} {e : EvtFilterTblEntry} {x : Effect}
    (h : transitionOf cfg on e = some x) : ∃ value, x = .powerTransition value ∨
      x = .hostTransition value := by
  unfold transitionOf at h
  split at h
  · cases h
    exact ⟨_, .inl rfl⟩
  split at h
  · cases h
    exact ⟨_, .inr rfl⟩
  · cases h

theorem notification_of_plan {M : List EvtFilterTblEntry} {a : SnmpAlert}
    (h : Effect.notification a ∈
      carriedOut retryEnable cfg event ethMap env (plan cfg policies M 0)) :
    ∃ e ∈ M, actionEnabled cfg e ALERT_ACTION = true ∧ ∃ p ∈ policies,
      Selects e.AlertPolicyNum p ∧ a.channelNo = p.ChannelNo ∧
      a.destinationSel = p.DestinationSel := by
  have hpower : ∀ on e, transitionOf cfg on e ≠ some (.notification a) := by
    intro on e h
    obtain ⟨_, h | h⟩ := transitionOf_eq_some h <;> cases h
  obtain ⟨e, he, halert, p, hp, hselects, site, h⟩ := alert_of_plan hpower h
  exact ⟨e, he, halert, p, hp, hselects, notification_of_alert h⟩

end Events

/-! ## From the event to the session -/

/-- The section of the interface is in the shared file, all its entries complete. -/
structure LanComplete (f : LanFiles) (iface : String) : Prop where
  loadable : Loadable f iface
  shared : (sharedSection f.shared iface).isSome = true
  entries : ∀ i, EntryComplete (lanConfig f iface) i

/-- The arrays of the objects fit into memory. -/
def Addressable (lan : LanSystem) : Prop :=
  ∀ iface p a, lan.param iface = some p → p.arrays = some a →
    a.typeArr.length < 2 ^ 64 ∧ a.userArr.length < 2 ^ 64

/-- The session is that of the live destination at the selector, counted from 1. -/
def LiveTarget (lan : LanSystem) (ethMap : EthChannelMap) (channelNo destinationSel : U8)
    (session : Session) : Prop :=
  destinationSel ≠ 0 ∧ ∃ iface param a row, ethMap.lookup channelNo = some iface ∧
    lan.param iface = some param ∧ param.arrays = some a ∧
    a.managerRow (destinationSel.toNat - 1) = some row ∧
    TrapTarget row param.CommunityString session

theorem mem_of_lookup_channel {ethMap : EthChannelMap} {channelNo : U8} {iface : String}
    (h : ethMap.lookup channelNo = some iface) : (channelNo, iface) ∈ ethMap := by
  obtain ⟨l₁, l₂, heq, -⟩ := List.lookup_eq_some_iff.mp h
  rw [heq]
  exact List.mem_append_right _ List.mem_cons_self

/-- No array is so long that the selector 0 finds something in it. -/
theorem Addressable.managerRow_last {lan : LanSystem} (hsize : Addressable lan) (iface : String) :
    ((lan.param iface).bind LanParam.arrays).bind (fun a => a.managerRow (2 ^ 64 - 1)) = none := by
  cases harrays : (lan.param iface).bind LanParam.arrays with
  | none => rfl
  | some arrays =>
      obtain ⟨param, hparam, harrays⟩ := Option.bind_eq_some_iff.mp harrays
      have hlast : arrays.typeArr[2 ^ 64 - 1]? = none :=
        List.getElem?_eq_none (by have := (hsize _ _ _ hparam harrays).1; omega)
      rw [Option.bind_some, LanArrays.managerRow, managerRow, hlast]
      rfl

theorem liveTarget_of_notification {lan : LanSystem} {snmp : SnmpEnv} (hsize : Addressable lan)
    (hfile : snmp .lanParamConfFile = lan.files.shared)
    (hshows : ∀ p ∈ ethChannels (snmp .channelInterfaceMap), ∀ i, ShowsLive lan p.2 i)
    {a : SnmpAlert} {q : SnmpCall} {session : Session}
    (hq : q ∈ (sendOBMCErrorNotification a).asked snmp) (hs : q.session? = some session) :
    LiveTarget lan (ethChannels (snmp .channelInterfaceMap)) a.channelNo a.destinationSel
      session := by
  have hrows : ∀ {iface i}, (ethChannels (snmp .channelInterfaceMap)).lookup a.channelNo =
      some iface → fileManagerRow (snmp .lanParamConfFile) iface i =
        ((lan.param iface).bind LanParam.arrays).bind fun a => a.managerRow i := by
    intro iface i hiface
    rw [hfile, (hshows _ (mem_of_lookup_channel hiface) i).rows.1, exposedArrays_params]
  obtain ⟨hne, iface, row, community, hiface, hrow, hcommunity, htarget⟩ :=
    target_of_notification (fun iface hiface => (hrows hiface).trans (hsize.managerRow_last iface))
      hq hs
  rw [hrows hiface] at hrow
  obtain ⟨arrays, harrays, hrow⟩ := Option.bind_eq_some_iff.mp hrow
  obtain ⟨param, hparam, harrays⟩ := Option.bind_eq_some_iff.mp harrays
  rw [hfile, (hshows _ (mem_of_lookup_channel hiface) 0).community, hparam] at hcommunity
  cases hcommunity
  exact ⟨hne, iface, param, arrays, row, hiface, hparam, harrays, hrow, htarget⟩

section Runs

variable {f : LanFiles} {objects : List (String × Option LanParam)} {ethMap : EthChannelMap}
  {es : List LanLifeEvent} {lan : LanSystem}

/-- Complete sections show the live objects over any run of Sets of whole arrays. -/
theorem showsLive_reached (hparse : parseLanConf f = .ok objects)
    (hcomplete : ∀ p ∈ ethMap, LanComplete f p.2)
    (hwhole : ∀ e, .set e ∈ es → ∀ i, e.req.Reaches (destCountOf (lanConfig f e.ifaceName)) i)
    (hreached : Reached lanLifeStep (.start f objects) es lan) :
    ∀ p ∈ ethMap, ∀ i, ShowsLive lan p.2 i := by
  intro p hp i
  obtain ⟨hload, hshared, hentries⟩ := hcomplete p hp
  refine (mirrors_reached hparse hload hshared (hentries i) (fun e he hi => ?_) hreached).showsLive
  rw [← hi]
  exact hwhole e he i

end Runs

/-- From tables loaded and set in any way, and LAN files whose sections are complete,
after any Sets of whole arrays and any restarts: every session that an event leads to
is that of the destination which the live LAN object has at the selector of a live
policy, selected by the live row of a filter that matches the event and asks for an
alert; and PEF is on. -/
theorem trap_to_live_destination {data : Option Json} {us : List (SetterEnv × SetRequest)}
    {s : ManagerState} {r : PefConfInfo} {timer : U8} {order : List Bucket} {env : Env}
    (hs : Reached setStep (parsePefConfToDbus data).1 us s) (hw : WellTyped env)
    (hmanager : ServesManager s r timer order env)
    {f : LanFiles} {objects : List (String × Option LanParam)} {snmp : SnmpEnv}
    (hparse : parseLanConf f = .ok objects)
    (hcomplete : ∀ p ∈ ethChannels (snmp .channelInterfaceMap), LanComplete f p.2)
    {es : List LanLifeEvent}
    (hwhole : ∀ e, .set e ∈ es → ∀ i, e.req.Reaches (destCountOf (lanConfig f e.ifaceName)) i)
    {lan : LanSystem} (hreached : Reached lanLifeStep (.start f objects) es lan)
    (hsize : Addressable lan) (hfile : snmp .lanParamConfFile = lan.files.shared)
    (retryEnable : Bool) (recId : U16)
    (senType senNum eveType eveData1 eveData2 eveData3 : U8) (genId : U16) (msgStr : String)
    {a : SnmpAlert}
    (ha : .notification a ∈ effects (pefTask retryEnable recId senType senNum eveType eveData1
      eveData2 eveData3 genId msgStr) env)
    {q : SnmpCall} {session : Session} (hq : q ∈ (sendOBMCErrorNotification a).asked snmp)
    (hsession : q.session? = some session) :
    let event := eventOf recId senType senNum eveType eveData1 eveData2 eveData3 genId msgStr
    pefRunning r timer = true ∧ ∃ e ∈ liveEntries s, Accepts e event ∧
      actionEnabled (settingsOf r) e ALERT_ACTION = true ∧
      ∃ p ∈ livePolicies s order, Selects e.AlertPolicyNum p ∧
        LiveTarget lan (ethChannels (snmp .channelInterfaceMap)) p.ChannelNo p.DestinationSel
          session := by
  intro event
  rw [effects_pefTask hw (frontLists_reached hs) hmanager] at ha
  split at ha
  · next hrunning =>
      obtain ⟨e, he, halert, p, hp, hselects, hchannel, hsel⟩ := notification_of_plan ha
      obtain ⟨hlive, haccepts⟩ := List.mem_filter.mp he
      have htarget := liveTarget_of_notification hsize hfile
        (showsLive_reached hparse hcomplete hwhole hreached) hq hsession
      rw [hchannel, hsel] at htarget
      exact ⟨hrunning, e, hlive, of_decide_eq_true haccepts, halert, p, hp, hselects, htarget⟩
  · exact absurd ha List.not_mem_nil

/-- A section of two destinations, for v1 and then for v2c. -/
def twoTraps (type : List U8) : Json :=
  .obj [("Config", .obj [("CommunityString", .str "public"), ("NumberofDestinations", .num 2),
    ("IPv4", jsonOfStrings ["10.0.0.2", "10.0.0.3"]), ("IPv6", jsonOfStrings ["", ""]),
    ("UserName", jsonOfStrings ["", ""]), ("Type", jsonOfBytes type),
    ("Timeout", jsonOfBytes [0, 0]), ("Retries", jsonOfBytes [0, 0]),
    ("AddressType", jsonOfBytes [1, 1])])]

def twoTrapsParam (type : List U8) : LanParam :=
  ⟨"public", 2, some ⟨["10.0.0.2", "10.0.0.3"], ["", ""], ["", ""], type, [0, 0], [0, 0], [1, 1]⟩⟩

def twoTrapsFiles (type : List U8) : LanFiles :=
  sampleFiles (some (.obj [("eth0", twoTraps type)]))

def typesSet : List LanLifeEvent := [.set ⟨"eth0", adminOnly.replies, .type [1, 1]⟩, .restart]

theorem twoTraps_complete : LanComplete (twoTrapsFiles [0, 0]) "eth0" := by
  have hparse : parseLanConf (twoTrapsFiles [0, 0]) =
      .ok [("eth0", some (twoTrapsParam [0, 0]))] := rfl
  have hexposed : exposedArrays [("eth0", some (twoTrapsParam [0, 0]))] "eth0" =
      (twoTrapsParam [0, 0]).arrays := rfl
  have hlength : ∀ key ∈ ["IPv4", "IPv6", "UserName", "Type", "AddressType"],
      ((arrayAt (lanConfig (twoTrapsFiles [0, 0]) "eth0") key).getD []).length = 2 := by
    decide
  have hcount : destCountOf (lanConfig (twoTrapsFiles [0, 0]) "eth0") = 2 := by decide
  refine ⟨(exposedArrays_of_load hparse hexposed).1, rfl, fun i => ⟨rfl, fun key hkey => ?_⟩⟩
  rw [Unpadded, hlength key hkey, hcount]
  exact Nat.lt_or_ge i 2

theorem twoTraps_whole : ∀ e, .set e ∈ typesSet → ∀ i,
    e.req.Reaches (destCountOf (lanConfig (twoTrapsFiles [0, 0]) e.ifaceName)) i := by
  intro e he i size hsize
  have hcount : destCountOf (lanConfig (twoTrapsFiles [0, 0]) "eth0") = 2 := by decide
  simp only [typesSet, List.mem_cons, LanLifeEvent.set.injEq, reduceCtorEq, List.not_mem_nil,
    or_false] at he
  subst he
  cases hsize
  rw [hcount]
  exact Nat.lt_or_ge i 2

/-- The objects after the restart. -/
def twoTrapsSystem : LanSystem :=
  .start (twoTrapsFiles [1, 1]) [("eth0", some (twoTrapsParam [1, 1]))]

theorem twoTraps_addressable : Addressable twoTrapsSystem := by
  intro iface p a hp ha
  rw [twoTrapsSystem, param_start, Members.lookup_cons] at hp
  split at hp
  · cases hp
    cases ha
    decide
  · cases hp

/-- The file of `twoTrapsSystem`, and a library that takes everything. -/
def twoTrapsSnmp : SnmpEnv
  | .lanParamConfFile => twoTrapsSystem.files.shared
  | q => publicSnmp q

def twoTrapsAlert : SnmpAlert where
  id := 7
  ts := "now"
  sev := "Critical"
  msg := "upperCritGoingHigh"
  eventID := "CPU"
  eventStatus := "Asserted"
  eventSubjectSN := ""
  addData := ""
  ip := "bmc:10.0.0.1"
  channelNo := 1
  destinationSel := 1

def twoTrapsSession : Session where
  peername := "10.0.0.2:162"
  localname := ""
  version := .SNMP_VERSION_2c
  community := "public"
  securityName := ""
  securityEngineID := []
  securityAuthProto := .SNMP_DEFAULT_AUTH_PROTO
  securityAuthKey := []
  securityPrivProto := .SNMP_DEFAULT_PRIV_PROTO
  securityPrivKey := []

/-- The types are set, the manager is restarted, and the trap for an event goes to the
first destination, in the version that has been set. -/
theorem trap_after_restart :
    runFrom lanLifeStep (.start (twoTrapsFiles [0, 0]) [("eth0", some (twoTrapsParam [0, 0]))])
        typesSet = some twoTrapsSystem ∧
      ∃ p ∈ livePolicies alertingState [0],
        LiveTarget twoTrapsSystem [(1, "eth0")] p.ChannelNo p.DestinationSel twoTrapsSession := by
  obtain ⟨r, hr, hserves⟩ := alertingEnv_serves
  have hrun : runFrom lanLifeStep
      (.start (twoTrapsFiles [0, 0]) [("eth0", some (twoTrapsParam [0, 0]))]) typesSet =
        some twoTrapsSystem := rfl
  have hstart : Reached setStep (parsePefConfToDbus (some alertingFile)).1 [] alertingState :=
    Reached.refl _ _
  have hnotified : .notification twoTrapsAlert ∈
      effects (pefTask false 7 0x01 0x30 0x01 0x09 0xFF 0xFF 0x2000 "") (alertingEnv [0]) := by
    rw [effects_pefTask (alertingEnv_wellTyped [0]) (frontLists_reached hstart) hserves]
    cases hr
    decide +kernel
  have hsession : .snmpAdd 0 twoTrapsSession ∈
      (sendOBMCErrorNotification twoTrapsAlert).asked twoTrapsSnmp := by
    decide +kernel
  have hparse : parseLanConf (twoTrapsFiles [0, 0]) =
      .ok [("eth0", some (twoTrapsParam [0, 0]))] := rfl
  have hcomplete : ∀ p ∈ ethChannels (twoTrapsSnmp .channelInterfaceMap),
      LanComplete (twoTrapsFiles [0, 0]) p.2 := by
    intro p hp
    cases List.mem_singleton.mp hp
    exact twoTraps_complete
  obtain ⟨-, e, -, -, -, p, hp, -, htarget⟩ :=
    trap_to_live_destination hstart (alertingEnv_wellTyped [0]) hserves hparse hcomplete
      twoTraps_whole (.last hrun) twoTraps_addressable rfl false 7 0x01 0x30 0x01 0x09 0xFF 0xFF 0x2000 ""
      hnotified hsession rfl
  exact ⟨hrun, p, hp, htarget⟩

end Pef
