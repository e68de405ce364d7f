/-
# `Authority` — no action without a reason

An action is one of four kinds of calls (`Call.action`).  Whatever the
configuration and however the calls end, each action `pefTask` takes goes back
to

    PEF           on, and not postponed
    an entry      of some list object, matching the event
    the entry     asking for the action, with the settings enabling it
    a policy      for alerts: enabled, of the entry's group, on an `eth` channel

(`Authorised`), and no entry causes two power transitions.  The first is a
property of every question on the way, the second a bound on their number; both
are carried through the program with the rules of `Lib.Ask`.
-/
import PlatformEventFilter.Lookups

namespace Pef

/-! ## Actions among the calls -/

/-- What an action does. -/
inductive ActionKind where
  | power (transition : String)
  | host (transition : String)
  | snmp
  | smtp
  deriving DecidableEq, Repr

/-- The action a call is, with the matched entry it is taken for. -/
def Call.action : Call → Option (ActionKind × Nat)
  | requestedPowerTransition i v => some (.power v, i)
  | requestedHostTransition i v => some (.host v, i)
  | retrySnmp s .. => some (.snmp, s.entryIdx)
  | notification s _ => some (.snmp, s.entryIdx)
  | retrySmtp s .. => some (.smtp, s.entryIdx)
  | sendMail s .. => some (.smtp, s.entryIdx)
  | _ => none

/-- The call is a power transition for entry `i`. -/
def Call.isTransition (i : Nat) (q : Call) : Bool :=
  match q.action with
  | some (.power _, j) => j = i
  | some (.host _, j) => j = i
  | _ => false

/-! ## Reasons -/

/-- PEF is enabled and the postpone timer is not running. -/
structure PefRuns (env : Env) : Prop where
  enabled : ∃ (v : Variant) (pefCtl : U8), env .pefControl = some v ∧ v.asValue = .u8 pefCtl ∧
    pefCtl.getLsbD 0 = true
  notPostponed : ∃ (v : Variant) (timer : U8), env .armPefPostponeTmr = some v ∧
    v.asValue = .u8 timer ∧ (timer = 0x00 ∨ timer = 0xFF)

/-- The entry is a row of a list object and matches the event. -/
def ConfiguredEntry (env : Env) (event : EventMsgData) (e : EvtFilterTblEntry) : Prop :=
  ∃ (g : Nat) (m : PropertyMap) (t : EventFilterList), env (.eventFilterProperties g) = some m ∧
    readFilterList m = .ok t ∧ e ∈ entriesOf t ∧ Accepts e event

/-- Bit `k` is set in the entry's actions and in those the settings enable. -/
def SetInBoth (cfg : PefCfgInfo) (e : EvtFilterTblEntry) (k : Nat) : Prop :=
  e.EvtFilterAction.getLsbD k = true ∧ cfg.PEFActionGblControl.getLsbD k = true

def PoweredOn (env : Env) (i : Nat) : Prop :=
  ∃ v : Variant, env (.currentPowerState i) = some v ∧ v.asValue = .str powerStateOn

/-- An enabled row of a policy object, in that group, on an `eth` channel. -/
def HasPolicy (env : Env) (i : Nat) (group : U8) : Prop :=
  ∃ (pathIdx : Nat) (objPath : String) (m : PropertyMap) (cols : PolicyColumns) (idx : Nat)
    (channelMap : List (U8 × String)) (iface : String),
    env (.alertPolicyProperties i pathIdx objPath) = some m ∧ readPolicyColumns m = .ok cols ∧
    cols.groupNums[idx]? = some group ∧
    (∀ vals, cols.enableAlert = some vals → vals[idx]? = some 1) ∧
    env .channelInterfaceMap = some channelMap ∧
    (cellAt cols.channelNo 0 idx, iface) ∈ channelMap ∧ isEthInterfaceName iface = true

/-- The entry, which is number `i` of those that match, justifies the action. -/
def Justifies (env : Env) (cfg : PefCfgInfo) (i : Nat) (e : EvtFilterTblEntry) :
    ActionKind → Prop
  | .power v => v = pwrCtlOff ∧ SetInBoth cfg e 1
  | .host v => v = pwrStateReset ∧ (SetInBoth cfg e 3 ∨ SetInBoth cfg e 2) ∧ PoweredOn env i ∧
      ¬ SetInBoth cfg e 1
  | .snmp => SetInBoth cfg e 0 ∧ e.AlertPolicyNum &&& 0x0F ≠ 0 ∧
      HasPolicy env i (e.AlertPolicyNum &&& 0x0F)
  | .smtp => SetInBoth cfg e 0 ∧ e.AlertPolicyNum &&& 0x0F ≠ 0 ∧
      HasPolicy env i (e.AlertPolicyNum &&& 0x0F)

/-- What stands behind an action for the matched entry number `i`. -/
structure Authorised (env : Env) (event : EventMsgData) (kind : ActionKind) (i : Nat) : Prop where
  running : PefRuns env
  justified : ∃ (m : PropertyMap) (cfg : PefCfgInfo) (M : List EvtFilterTblEntry)
    (e : EvtFilterTblEntry), env .pefConfInfo = some m ∧ readPefConfInfo m = .ok cfg ∧
    (matchedEntries event).outcome env = .ok M ∧ M[i]? = some e ∧ ConfiguredEntry env event e ∧
    Justifies env cfg i e kind

/-! ## The bits of the action masks -/

theorem hasBits_one (x : U8) : hasBits x ALERT_ACTION = x.getLsbD 0 := by
  revert x; decide +kernel

theorem hasBits_two (x : U8) : hasBits x POWER_OFF_ACTION = x.getLsbD 1 := by
  revert x; decide +kernel

theorem hasBits_four (x : U8) : hasBits x RESET_ACTION = x.getLsbD 2 := by
  revert x; decide +kernel

theorem hasBits_eight (x : U8) : hasBits x POWER_CYCLE_ACTION = x.getLsbD 3 := by
  revert x; decide +kernel

theorem and_bit0 (x : U8) : x &&& 0x01 = 0 ↔ x.getLsbD 0 = false := by
  revert x; decide +kernel

section Masks

variable {cfg : PefCfgInfo} {e : EvtFilterTblEntry}

theorem actionEnabled_alert : actionEnabled cfg e ALERT_ACTION = true ↔ SetInBoth cfg e 0 := by
  rw [actionEnabled, hasBits_one, hasBits_one, Bool.and_eq_true, SetInBoth]

theorem actionEnabled_powerOff :
    actionEnabled cfg e POWER_OFF_ACTION = true ↔ SetInBoth cfg e 1 := by
  rw [actionEnabled, hasBits_two, hasBits_two, Bool.and_eq_true, SetInBoth]

theorem actionEnabled_reset : actionEnabled cfg e RESET_ACTION = true ↔ SetInBoth cfg e 2 := by
  rw [actionEnabled, hasBits_four, hasBits_four, Bool.and_eq_true, SetInBoth]

theorem actionEnabled_powerCycle :
    actionEnabled cfg e POWER_CYCLE_ACTION = true ↔ SetInBoth cfg e 3 := by
  rw [actionEnabled, hasBits_eight, hasBits_eight, Bool.and_eq_true, SetInBoth]

end Masks

/-! ## Looking things up is no action -/

/-- The computation takes no action. -/
abbrev Quiet {α : Type} (p : Prog α) (env : Env) : Prop := p.Only (fun q => q.action = none) env

theorem action_of_isLookup {q : Call} (h : q.isLookup = true) : q.action = none := by
  cases q <;> first | rfl | cases h

theorem quiet_of_lookup {α : Type} {p : Prog α} {env : Env} (h : Lookup p env) : Quiet p env :=
  h.mono fun _ => action_of_isLookup

theorem only_of_lookup {α : Type} {p : Prog α} {env : Env} {P : Call → Prop} (h : Lookup p env) :
    p.Only (fun q => q.action = none ∨ P q) env :=
  (quiet_of_lookup h).mono fun _ => Or.inl

/-! ## What the alerts and the power actions do -/

section Reasons

variable {env : Env}

theorem only_sendSNMPAlert (retryEnable : Bool) (s : Site) (event : EventMsgData)
    (channelNo destinationSel : U8) :
    (sendSNMPAlert retryEnable s event channelNo destinationSel).Only
      (fun q => q.action = none ∨ q.action = some (.snmp, s.entryIdx)) env := by
  refine (calls_sendSNMPAlert retryEnable s event channelNo destinationSel).mono fun q hq => ?_
  rcases hq with hq | ⟨_, _, rfl⟩ | ⟨_, rfl⟩
  · exact Or.inl (action_of_isLookup hq)
  · exact Or.inr rfl
  · exact Or.inr rfl

theorem only_sendSmtpAlert (retryEnable : Bool) (s : Site) (event : EventMsgData)
    (smtpMailID : String) :
    (sendSmtpAlert retryEnable s event smtpMailID).Only
      (fun q => q.action = none ∨ q.action = some (.smtp, s.entryIdx)) env := by
  refine Ask.Only.bind (only_of_lookup (lookup_getPathFromSensorNumber s _)) fun _ _ => ?_
  refine Ask.Only.bind (only_of_lookup (lookup_mailSubject s event)) fun _ _ => ?_
  refine Ask.Only.bind (only_of_lookup (lookup_mailBody s event _ _)) fun _ _ => ?_
  split
  · exact Ask.Only.pure
  · refine only_catchSdbusplus ?_ Ask.Only.pure
    split
    · refine Ask.Only.bind (only_of_lookup (lookup_isMailAlertConfigured s)) fun _ _ => ?_
      split
      · exact Ask.Only.bind (Ask.Only.ask (Or.inr rfl)) fun _ _ =>
          Ask.Only.bind only_reply fun _ _ => Ask.Only.pure
      · exact Ask.Only.pure
    · exact Ask.Only.bind (Ask.Only.ask (Or.inr rfl)) fun _ _ => only_reply

theorem iface_of_destination {s : Site} {ethMap : EthChannelMap} {policy : AlertPolicyTbl}
    {d : U8 × String} (h : (destinationFor s ethMap policy).outcome env = .ok (some d)) :
    getInterfaceNameForChannel policy.ChannelNo ethMap ≠ "" := by
  intro hiface
  rw [destinationFor, if_pos hiface] at h
  cases h

theorem only_policyAction (retryEnable : Bool) (cfg : PefCfgInfo) (event : EventMsgData)
    (ethMap : EthChannelMap) (s : Site) (policy : AlertPolicyTbl) :
    (policyAction retryEnable cfg event ethMap s policy).Only
      (fun q => q.action = none ∨
        (q.action = some (.snmp, s.entryIdx) ∨ q.action = some (.smtp, s.entryIdx)) ∧
          getInterfaceNameForChannel policy.ChannelNo ethMap ≠ "") env := by
  unfold policyAction
  split
  · exact Ask.Only.pure
  refine Ask.Only.bind (only_of_lookup (lookup_destinationFor s ethMap policy)) fun d hd => ?_
  cases d with
  | none => exact Ask.Only.pure
  | some d =>
      have hiface := iface_of_destination hd
      have hlog : Quiet (logAction cfg s.entryIdx (some s.policyIdx) ALERT_ACTION) env :=
        (quiet_of_lookup (lookup_logAction cfg s.entryIdx (some s.policyIdx) ALERT_ACTION))
      dsimp only
      split
      · refine Ask.Only.bind (hlog.mono fun _ => Or.inl) fun _ _ => ?_
        refine Ask.Only.bind (only_of_lookup (lookup_getSmtpMailID s d.2)) fun _ _ => ?_
        refine Ask.Only.bind ((only_sendSmtpAlert retryEnable s event _).mono fun q hq =>
          hq.imp id fun h => ⟨Or.inr h, hiface⟩) fun _ _ => ?_
        split
        · exact only_catchAll (Ask.Only.bind (Ask.Only.ask (Or.inl rfl)) fun _ _ => only_reply)
            Ask.Only.pure
        · exact Ask.Only.pure
      · split
        · refine Ask.Only.bind (hlog.mono fun _ => Or.inl) fun _ _ => ?_
          exact Ask.Only.bind ((only_sendSNMPAlert retryEnable s event _ _).mono fun q hq =>
            hq.imp id fun h => ⟨Or.inl h, hiface⟩) fun _ _ => Ask.Only.pure
        · exact Ask.Only.pure

/-! ## Where entries, policies and interfaces come from -/

/-- What `catchSdbusplus` returns instead of a value is never the value. -/
theorem outcome_reply_bind {α β : Type} {answer : Prog (Option α)} {f : α → Prog β} {b : β}
    (h : (answer >>= fun o => reply o >>= f).outcome env = .ok b) :
    ∃ a, answer.outcome env = .ok (some a) ∧ (f a).outcome env = .ok b := by
  obtain ⟨o, ho, h⟩ := Ask.outcome_bind_eq_ok env h
  obtain ⟨a, ha, h⟩ := Ask.outcome_bind_eq_ok env h
  exact ⟨a, by rw [ho, outcome_reply_ok.mp ha], h⟩

theorem mem_matchedEntries {event : EventMsgData} {M : List EvtFilterTblEntry}
    {e : EvtFilterTblEntry} (h : (matchedEntries event).outcome env = .ok M) (he : e ∈ M) :
    ConfiguredEntry env event e := by
  obtain ⟨_, -, h⟩ := Ask.outcome_bind_eq_ok env h
  obtain ⟨_, g, ys, -, hys, he⟩ := Ask.mem_of_outcome_collectIdx env h he
  rcases outcome_catchSdbusplus_eq_ok hys with hys | hys
  · obtain ⟨m, hm, hys⟩ := outcome_reply_bind hys
    obtain ⟨t, ht, hys⟩ := Ask.outcome_bind_eq_ok env hys
    cases hys
    obtain ⟨het, hmatch⟩ := List.mem_filter.mp he
    rw [outcome_ofExcept] at ht
    exact ⟨g, m, t, Except.ok.inj hm, ht, het, rowMatches_iff.mp hmatch⟩
  · cases hys
    exact absurd he List.not_mem_nil

theorem mem_getEthChannelInterfaceMap {ethMap : EthChannelMap} {p : U8 × String}
    (h : (getEthChannelInterfaceMap (call .channelInterfaceMap)).outcome env = .ok ethMap)
    (hp : p ∈ ethMap) :
    ∃ m : List (U8 × String), env .channelInterfaceMap = some m ∧ p ∈ m ∧
      isEthInterfaceName p.2 = true := by
  rcases outcome_catchAll_eq_ok h with h | h
  · obtain ⟨m, hm, h⟩ := outcome_reply_bind h
    cases h
    obtain ⟨hpm, heth⟩ := List.mem_filter.mp hp
    exact ⟨m, Except.ok.inj hm, hpm, heth⟩
  · cases h
    exact absurd hp List.not_mem_nil

theorem mem_checkAlertPoicyTbl {i : Nat} {no : Int} {ps : List AlertPolicyTbl}
    {p : AlertPolicyTbl} (h : (checkAlertPoicyTbl i no).outcome env = .ok ps) (hp : p ∈ ps) :
    0 < no ∧ ∃ (pathIdx : Nat) (objPath : String) (m : PropertyMap) (cols : PolicyColumns)
      (idx : Nat), env (.alertPolicyProperties i pathIdx objPath) = some m ∧
      readPolicyColumns m = .ok cols ∧ policyAt no cols idx = some p := by
  unfold checkAlertPoicyTbl at h
  split at h
  · cases h
    exact absurd hp List.not_mem_nil
  next hno =>
  refine ⟨Int.not_le.mp hno, ?_⟩
  obtain ⟨paths, -, h⟩ := Ask.outcome_bind_eq_ok env h
  obtain ⟨k, objPath, ys, -, hys, hp⟩ := Ask.mem_of_outcome_collectIdx env h hp
  unfold policiesIn at hys
  split at hys
  · cases hys
    exact absurd hp List.not_mem_nil
  · rcases outcome_catchSdbusplus_eq_ok hys with hys | hys
    · obtain ⟨m, hm, hys⟩ := outcome_reply_bind hys
      obtain ⟨cols, hcols, hys⟩ := Ask.outcome_bind_eq_ok env hys
      cases hys
      obtain ⟨idx, -, hidx⟩ := List.mem_filterMap.mp hp
      rw [outcome_ofExcept] at hcols
      exact ⟨_, objPath, m, cols, idx, Except.ok.inj hm, hcols, hidx⟩
    · cases hys
      exact absurd hp List.not_mem_nil

theorem policyAt_eq_some {no : Int} {cols : PolicyColumns} {idx : Nat} {p : AlertPolicyTbl}
    (h : policyAt no cols idx = some p) :
    cols.groupNums[idx]? = some (BitVec.ofInt 8 no) ∧
      (∀ vals, cols.enableAlert = some vals → vals[idx]? = some 1) ∧
      p.ChannelNo = cellAt cols.channelNo 0 idx := by
  unfold policyAt at h
  split at h
  · cases h
  next groupNum hgroup =>
  split at h
  · cases h
  next henabled =>
  split at h
  · cases h
  next heq =>
  cases h
  refine ⟨by rw [hgroup, Classical.not_not.mp heq], fun vals hvals => ?_, rfl⟩
  simpa [enabledAt, hvals] using henabled

/-! ## Every action has its reason -/

/-- What a matched entry asks for, as a property of each call. -/
def Reason (env : Env) (cfg : PefCfgInfo) (i : Nat) (e : EvtFilterTblEntry) (q : Call) : Prop :=
  ∀ kind j, q.action = some (kind, j) → j = i ∧ Justifies env cfg i e kind

section Entry

variable {cfg : PefCfgInfo} {i : Nat} {e : EvtFilterTblEntry}

theorem reason_of_quiet (q : Call) (h : q.action = none) : Reason env cfg i e q := by
  intro kind j hq
  rw [h] at hq
  cases hq

theorem getPowerStatus_true (h : (getPowerStatus i).outcome env = .ok true) : PoweredOn env i := by
  rcases outcome_catchSdbusplus_eq_ok h with h | h
  · obtain ⟨status, hstatus, h⟩ := Ask.outcome_bind_eq_ok env h
    obtain ⟨v, hv, hstatus⟩ := outcome_reply_bind hstatus
    rw [outcome_ofExcept] at hstatus
    refine ⟨v, Except.ok.inj hv, ?_⟩
    have hon : status = powerStateOn := of_decide_eq_true (Except.ok.inj h)
    cases hvalue : v.asValue with
    | str s =>
        rw [hvalue] at hstatus
        rw [← hon, Except.ok.inj hstatus]
    | _ => rw [hvalue] at hstatus; cases hstatus
  · cases h

theorem only_resetHost (hreset : SetInBoth cfg e 3 ∨ SetInBoth cfg e 2)
    (hoff : ¬ SetInBoth cfg e 1) : (resetHost i).Only (Reason env cfg i e) env := by
  refine Ask.Only.bind ((quiet_of_lookup (lookup_getPowerStatus i)).mono reason_of_quiet)
    fun power hpower => ?_
  cases power with
  | true =>
      refine Ask.Only.bind (Ask.Only.ask ?_) fun _ _ => only_reply
      rintro kind j ⟨⟩
      exact ⟨rfl, rfl, hreset, getPowerStatus_true hpower, hoff⟩
  | false => exact Ask.Only.pure

theorem only_powerAction : (powerAction cfg i e).Only (Reason env cfg i e) env := by
  have hlog : ∀ action, (logAction cfg i none action).Only (Reason env cfg i e) env :=
    fun action => (quiet_of_lookup (lookup_logAction cfg i none action)).mono reason_of_quiet
  unfold powerAction
  split
  · split
    · next hoff =>
        refine Ask.Only.bind (hlog _) fun _ _ => ?_
        refine Ask.Only.bind (Ask.Only.ask ?_) fun _ _ => only_reply
        rintro kind j ⟨⟩
        exact ⟨rfl, rfl, actionEnabled_powerOff.mp hoff⟩
    · next hoff =>
        have hoff' := mt actionEnabled_powerOff.mpr hoff
        split
        · next hcycle =>
            exact Ask.Only.bind (hlog _) fun _ _ =>
              only_resetHost (Or.inl (actionEnabled_powerCycle.mp hcycle)) hoff'
        · split
          · next hreset =>
              exact Ask.Only.bind (hlog _) fun _ _ =>
                only_resetHost (Or.inr (actionEnabled_reset.mp hreset)) hoff'
          · exact Ask.Only.pure
  · exact Ask.Only.pure

theorem only_alertAction (retryEnable : Bool) (event : EventMsgData) {ethMap : EthChannelMap}
    (hmap : (getEthChannelInterfaceMap (call .channelInterfaceMap)).outcome env = .ok ethMap) :
    (alertAction retryEnable cfg event ethMap i e).Only (Reason env cfg i e) env := by
  unfold alertAction
  split
  · next halert =>
      refine Ask.Only.bind ((quiet_of_lookup (lookup_checkAlertPoicyTbl i _)).mono reason_of_quiet)
        fun ps hps => ?_
      refine Ask.Only.forIdx fun j p hp => ?_
      obtain ⟨hno, pathIdx, objPath, m, cols, idx, hm, hcols, hidx⟩ :=
        mem_checkAlertPoicyTbl hps (List.mem_of_getElem? hp)
      obtain ⟨hgroup, henabled, hchannel⟩ := policyAt_eq_some hidx
      rw [BitVec.ofInt_natCast, BitVec.ofNat_toNat, BitVec.setWidth_eq] at hgroup
      have hgroup0 : e.AlertPolicyNum &&& 0x0F ≠ 0 := by
        intro h0
        rw [h0] at hno
        exact absurd hno (by decide)
      refine (only_policyAction retryEnable cfg event ethMap _ p).mono fun q hq => ?_
      rcases hq with hq | ⟨hq, hiface⟩
      · exact reason_of_quiet q hq
      · obtain ⟨channelMap, hchan, hmem, heth⟩ :=
          mem_getEthChannelInterfaceMap hmap (getInterfaceNameForChannel_mem hiface rfl)
        rw [hchannel] at hmem heth
        have hpolicy : HasPolicy env i (e.AlertPolicyNum &&& 0x0F) :=
          ⟨pathIdx, objPath, m, cols, idx, channelMap, _, hm, hcols, hgroup, henabled, hchan,
            hmem, heth⟩
        intro kind k hk
        rcases hq with hq | hq
        all_goals
          rw [hq] at hk
          cases hk
          exact ⟨rfl, actionEnabled_alert.mp halert, hgroup0, hpolicy⟩
  · exact Ask.Only.pure

end Entry

/-! ## The process and its runs -/

theorem only_eventFilteringProcess (retryEnable : Bool) (event : EventMsgData) :
    (eventFilteringProcess retryEnable event).Only
      (fun q => ∀ kind i, q.action = some (kind, i) →
        ∃ (m : PropertyMap) (cfg : PefCfgInfo) (M : List EvtFilterTblEntry)
          (e : EvtFilterTblEntry), env .pefConfInfo = some m ∧ readPefConfInfo m = .ok cfg ∧
          (matchedEntries event).outcome env = .ok M ∧ M[i]? = some e ∧
          ConfiguredEntry env event e ∧ Justifies env cfg i e kind) env := by
  have hquiet : ∀ (q : Call), q.action = none → ∀ kind i, q.action = some (kind, i) → False := by
    intro q hq kind i h
    rw [hq] at h
    cases h
  refine Ask.Only.bind ((quiet_of_lookup (lookup_matchedEntries event)).mono fun q hq kind i h =>
    (hquiet q hq kind i h).elim) fun M hM => ?_
  split
  · exact Ask.Only.pure
  refine Ask.Only.bind ((quiet_of_lookup (lookup_getEthChannelInterfaceMap (lookup_call rfl))).mono
    fun q hq kind i h => (hquiet q hq kind i h).elim) fun ethMap hmap => ?_
  refine Ask.Only.bind ((quiet_of_lookup lookup_getPefConfInfo).mono fun q hq kind i h =>
    (hquiet q hq kind i h).elim) fun cfg hcfg => ?_
  cases cfg with
  | none => exact Ask.Only.pure
  | some cfg =>
      have hread : ∃ m : PropertyMap, env .pefConfInfo = some m ∧ readPefConfInfo m = .ok cfg := by
        rcases outcome_catchSdbusplus_eq_ok hcfg with hcfg | hcfg
        · obtain ⟨m, hm, hcfg⟩ := outcome_reply_bind hcfg
          obtain ⟨cfg', hcfg', h⟩ := Ask.outcome_bind_eq_ok env hcfg
          cases h
          rw [outcome_ofExcept] at hcfg'
          exact ⟨m, Except.ok.inj hm, hcfg'⟩
        · cases hcfg
      obtain ⟨m, hm, hcfg'⟩ := hread
      refine Ask.Only.forIdx fun i e he => ?_
      have hreason : (powerAction cfg i e >>= fun _ =>
          alertAction retryEnable cfg event ethMap i e).Only (Reason env cfg i e) env :=
        Ask.Only.bind only_powerAction fun _ _ => only_alertAction retryEnable event hmap
      rw [Nat.zero_add]
      refine hreason.mono fun q hq kind j hj => ?_
      obtain ⟨rfl, hjust⟩ := hq kind j hj
      exact ⟨m, cfg, M, e, hm, hcfg', hM, he,
        mem_matchedEntries hM (List.mem_of_getElem? he), hjust⟩

theorem byteProperty_some {answer : Prog (Option Variant)} {x : U8}
    (h : (byteProperty answer).outcome env = .ok (some x)) :
    ∃ v : Variant, answer.outcome env = .ok (some v) ∧ v.asValue = .u8 x := by
  rcases outcome_catchSdbusplus_eq_ok h with h | h
  · obtain ⟨v, hv, h⟩ := outcome_reply_bind h
    obtain ⟨y, hy, h⟩ := Ask.outcome_bind_eq_ok env h
    cases h
    rw [outcome_ofExcept] at hy
    refine ⟨v, hv, ?_⟩
    cases hvalue : v.asValue with
    | u8 y => rw [hvalue] at hy; rw [Except.ok.inj hy]
    | _ => rw [hvalue] at hy; cases hy
  · cases h

theorem isTransition_of_quiet {k : Nat} (q : Call) (h : q.action = none) :
    q.isTransition k = false := by
  rw [Call.isTransition, h]

theorem isTransition_of_alert {k : Nat} {q : Call} {i : Nat}
    (h : q.action = some (.snmp, i) ∨ q.action = some (.smtp, i)) : q.isTransition k = false := by
  rcases h with h | h <;> rw [Call.isTransition, h]

theorem atMost_quiet {α : Type} {p : Prog α} {k : Nat} (h : Quiet p env) :
    p.AtMost (Call.isTransition k) 0 env :=
  Ask.AtMost.of_only (h.mono isTransition_of_quiet)

theorem atMost_resetHost (i k : Nat) : (resetHost i).AtMost (Call.isTransition k) 1 env := by
  refine Ask.AtMost.mono (Ask.AtMost.bind (m := 1)
    (atMost_quiet (quiet_of_lookup (lookup_getPowerStatus i))) fun power _ => ?_) (Nat.le_refl 1)
  cases power with
  | true =>
      exact Ask.AtMost.bind Ask.AtMost.ask fun _ _ => Ask.AtMost.of_only only_reply
  | false => exact Ask.AtMost.mono (Ask.AtMost.of_only Ask.Only.pure) (Nat.zero_le 1)

theorem atMost_one_powerAction (cfg : PefCfgInfo) (i k : Nat) (e : EvtFilterTblEntry) :
    (powerAction cfg i e).AtMost (Call.isTransition k) 1 env := by
  have hlog : ∀ action, (logAction cfg i none action).AtMost (Call.isTransition k) 0 env :=
    fun action => atMost_quiet (quiet_of_lookup (lookup_logAction cfg i none action))
  have hnone : (pure () : Prog Unit).AtMost (Call.isTransition k) 1 env :=
    Ask.AtMost.mono (Ask.AtMost.of_only Ask.Only.pure) (Nat.zero_le 1)
  have hbind : ∀ {action : U8} {p : Prog Unit}, p.AtMost (Call.isTransition k) 1 env →
      (logAction cfg i none action >>= fun _ => p).AtMost (Call.isTransition k) 1 env :=
    fun hp => Ask.AtMost.mono (Ask.AtMost.bind (hlog _) fun _ _ => hp) (Nat.le_refl 1)
  unfold powerAction
  split
  · split
    · exact hbind (Ask.AtMost.bind Ask.AtMost.ask fun _ _ => Ask.AtMost.of_only only_reply)
    · split
      · exact hbind (atMost_resetHost i k)
      · split
        · exact hbind (atMost_resetHost i k)
        · exact hnone
  · exact hnone

theorem atMost_powerAction (cfg : PefCfgInfo) (i k : Nat) (e : EvtFilterTblEntry) :
    (powerAction cfg i e).AtMost (Call.isTransition k) (if i = k then 1 else 0) env := by
  split
  · exact atMost_one_powerAction cfg i k e
  · next hik =>
      refine Ask.AtMost.of_only (only_powerAction.mono fun q hq => ?_)
      unfold Call.isTransition
      split
      · next j hj =>
          rw [(hq _ _ hj).1]
          exact decide_eq_false hik
      · next j hj =>
          rw [(hq _ _ hj).1]
          exact decide_eq_false hik
      · rfl

theorem atMost_alertAction (retryEnable : Bool) (cfg : PefCfgInfo) (event : EventMsgData)
    (ethMap : EthChannelMap) (i k : Nat) (e : EvtFilterTblEntry) :
    (alertAction retryEnable cfg event ethMap i e).AtMost (Call.isTransition k) 0 env := by
  refine Ask.AtMost.of_only ?_
  unfold alertAction
  split
  · refine Ask.Only.bind
      ((quiet_of_lookup (lookup_checkAlertPoicyTbl i _)).mono isTransition_of_quiet) fun _ _ => ?_
    refine Ask.Only.forIdx fun j p _ => ?_
    refine (only_policyAction retryEnable cfg event ethMap _ p).mono fun q hq => ?_
    rcases hq with hq | ⟨hq, -⟩
    · exact isTransition_of_quiet q hq
    · exact isTransition_of_alert hq
  · exact Ask.Only.pure

theorem atMost_performPefAction (retryEnable : Bool) (M : List EvtFilterTblEntry)
    (event : EventMsgData) (ethMap : EthChannelMap) (cfg : PefCfgInfo) (k : Nat) :
    (performPefAction retryEnable M event ethMap cfg).AtMost (Call.isTransition k) 1 env := by
  have hbody : ∀ i e, (powerAction cfg i e >>= fun _ =>
      alertAction retryEnable cfg event ethMap i e).AtMost (Call.isTransition k)
        (if i = k then 1 else 0) env := fun i e =>
    Ask.AtMost.bind (atMost_powerAction cfg i k e) fun _ _ =>
      atMost_alertAction retryEnable cfg event ethMap i k e
  exact Ask.AtMost.mono (Ask.AtMost.forIdx hbody) (by split <;> decide)

theorem atMost_eventFilteringProcess (retryEnable : Bool) (event : EventMsgData) (k : Nat) :
    (eventFilteringProcess retryEnable event).AtMost (Call.isTransition k) 1 env := by
  have hzero : ∀ {α β : Type} {p : Prog α} {f : α → Prog β}, Quiet p env →
      (∀ a, p.outcome env = .ok a → (f a).AtMost (Call.isTransition k) 1 env) →
      (p >>= f).AtMost (Call.isTransition k) 1 env := fun hp hf =>
    Ask.AtMost.mono (Ask.AtMost.bind (atMost_quiet hp) hf) (Nat.le_refl 1)
  have hnone : (pure () : Prog Unit).AtMost (Call.isTransition k) 1 env :=
    Ask.AtMost.mono (Ask.AtMost.of_only Ask.Only.pure) (Nat.zero_le 1)
  refine hzero (quiet_of_lookup (lookup_matchedEntries event)) fun M _ => ?_
  split
  · exact hnone
  refine hzero (quiet_of_lookup (lookup_getEthChannelInterfaceMap (lookup_call rfl)))
    fun ethMap _ => ?_
  refine hzero (quiet_of_lookup lookup_getPefConfInfo) fun cfg _ => ?_
  cases cfg with
  | none => exact hnone
  | some cfg => exact atMost_performPefAction retryEnable M event ethMap cfg k

theorem pefRuns_of_reads {pefCtl timer : U8}
    (hpefCtl : (byteProperty (call .pefControl)).outcome env = .ok (some pefCtl))
    (htimer : (byteProperty (call .armPefPostponeTmr)).outcome env = .ok (some timer))
    (hpostponed : ¬(timer = 0xFE ∨ (timer ≠ 0x00 ∧ timer ≠ 0xFF)))
    (henabled : ¬pefCtl &&& 0x01 = 0) : PefRuns env := by
  obtain ⟨v, hv, hvalue⟩ := byteProperty_some hpefCtl
  obtain ⟨w, hw, hwvalue⟩ := byteProperty_some htimer
  have hbit : pefCtl.getLsbD 0 = true := by
    rw [and_bit0, Bool.not_eq_false] at henabled
    exact henabled
  exact
    { enabled := ⟨v, pefCtl, Except.ok.inj hv, hvalue, hbit⟩
      notPostponed := ⟨w, timer, Except.ok.inj hw, hwvalue, by tauto⟩ }

end Reasons

section Reads

variable (env : Env)

theorem quiet_pefControl : Quiet (byteProperty (call .pefControl)) env :=
  quiet_of_lookup (lookup_byteProperty (lookup_call rfl))

theorem quiet_armPefPostponeTmr : Quiet (byteProperty (call .armPefPostponeTmr)) env :=
  quiet_of_lookup (lookup_byteProperty (lookup_call rfl))

end Reads

section Task

variable (env : Env) (retryEnable : Bool) (recId : U16)
  (senType senNum eveType eveData1 eveData2 eveData3 : U8) (genId : U16) (msgStr : String)

theorem pefTask_only :
    (pefTask retryEnable recId senType senNum eveType eveData1 eveData2 eveData3 genId msgStr).Only
      (fun q => ∀ kind i, q.action = some (kind, i) → Authorised env
        (eventOf recId senType senNum eveType eveData1 eveData2 eveData3 genId msgStr) kind i)
      env := by
  have hquiet : ∀ {P : ActionKind → Nat → Prop} (q : Call), q.action = none →
      ∀ kind i, q.action = some (kind, i) → P kind i := by
    intro P q hq kind i h
    rw [hq] at h
    cases h
  refine Ask.Only.bind ((quiet_pefControl env).mono hquiet) fun pefCtl hpefCtl => ?_
  cases pefCtl with
  | none => exact Ask.Only.pure
  | some pefCtl =>
      refine Ask.Only.bind ((quiet_armPefPostponeTmr env).mono hquiet) fun timer htimer => ?_
      cases timer with
      | none => exact Ask.Only.pure
      | some timer =>
          dsimp only
          split
          · exact Ask.Only.pure
          next hpostponed =>
          split
          · exact Ask.Only.pure
          next henabled =>
          have hruns := pefRuns_of_reads hpefCtl htimer hpostponed henabled
          exact (only_eventFilteringProcess retryEnable _).mono fun q hq kind i h =>
            ⟨hruns, hq kind i h⟩

theorem pefTask_atMost (k : Nat) :
    (pefTask retryEnable recId senType senNum eveType eveData1 eveData2 eveData3 genId
      msgStr).AtMost (Call.isTransition k) 1 env := by
  have hnone : (pure () : Prog Unit).AtMost (Call.isTransition k) 1 env :=
    Ask.AtMost.mono (Ask.AtMost.of_only Ask.Only.pure) (Nat.zero_le 1)
  have hctl := atMost_quiet (k := k) (quiet_pefControl env)
  have htmr := atMost_quiet (k := k) (quiet_armPefPostponeTmr env)
  refine Ask.AtMost.mono (Ask.AtMost.bind (m := 1) hctl fun pefCtl _ => ?_) (Nat.le_refl 1)
  cases pefCtl with
  | none => exact hnone
  | some pefCtl =>
      refine Ask.AtMost.mono (Ask.AtMost.bind (m := 1) htmr fun timer _ => ?_) (Nat.le_refl 1)
      cases timer with
      | none => exact hnone
      | some timer =>
          dsimp only
          split
          · exact hnone
          · split
            · exact hnone
            · exact atMost_eventFilteringProcess retryEnable _ k

end Task

/-- Every action `pefTask` takes is authorised, and each matched entry causes
at most one power transition. -/
theorem pefTask_authorised (env : Env) (retryEnable : Bool) (recId : U16)
    (senType senNum eveType eveData1 eveData2 eveData3 : U8) (genId : U16) (msgStr : String) :
    let run := (pefTask retryEnable recId senType senNum eveType eveData1 eveData2 eveData3
      genId msgStr).asked env
    (∀ q ∈ run, ∀ kind i, q.action = some (kind, i) →
      Authorised env (eventOf recId senType senNum eveType eveData1 eveData2 eveData3 genId msgStr)
        kind i) ∧
    ∀ i, run.countP (Call.isTransition i) ≤ 1 := by
  constructor
  · exact pefTask_only env retryEnable recId senType senNum eveType eveData1 eveData2 eveData3
      genId msgStr
  · intro k
    exact pefTask_atMost env retryEnable recId senType senNum eveType eveData1 eveData2 eveData3
      genId msgStr k

end Pef
