/-
# `Steps` — the loops of `performPefAction` as a row of steps

`performPefAction` consists of steps: the power action of an entry, the look-up
of its policies, and one alert for each of these.  If every step had a handler
of its own, a failure would cost one step (`performPefActionIsolated`).  As it
is, three calls are made outside of any handler,

    RequestedPowerTransition    of a power-off
    RequestedHostTransition     of a reset
    HostName                    of a trap

and a failure of one of them ends the loops.  All other failures are handled
where they occur, given that the replies that do come have the types they are
registered with (`WellTyped`).  Then the policies of an entry and the destination of
a policy are functions of the replies (`policiesFor`, `destinationOf`).
-/
import PlatformEventFilter.Authority

namespace Pef

/-! ## The steps -/

/-- One step of `performPefAction`. -/
inductive Step where
  | power (entryIdx : Nat) (e : EvtFilterTblEntry)
  | policies (entryIdx : Nat) (e : EvtFilterTblEntry)
  | alert (s : Site) (policy : AlertPolicyTbl)

section Run

variable (retryEnable : Bool) (cfg : PefCfgInfo) (event : EventMsgData) (ethMap : EthChannelMap)

def Step.run : Step → Prog Unit
  | .power i e => powerAction cfg i e
  | .policies i e => do
      let _ ← checkAlertPoicyTbl i (e.AlertPolicyNum &&& 0x0F).toNat
      pure ()
  | .alert s policy => policyAction retryEnable cfg event ethMap s policy

/-- `performPefAction` with a handler around every step. -/
def performPefActionIsolated (M : List EvtFilterTblEntry) : Prog Unit :=
  Ask.forIdx (fun i e => do
    (powerAction cfg i e).isolate
    if actionEnabled cfg e ALERT_ACTION then do
      let alertpolicy ← catchAll (checkAlertPoicyTbl i (e.AlertPolicyNum &&& 0x0F).toNat) (pure [])
      Ask.forIdx (fun j policy =>
        (policyAction retryEnable cfg event ethMap ⟨i, j⟩ policy).isolate) alertpolicy 0
    else pure ()) M 0

end Run

/-! ## How a step ends -/

/-- The computation returns. -/
def Returns {α : Type} (p : Prog α) (env : Env) : Prop := ∃ a, p.outcome env = .ok a

/-- The only exception the computation ends in is that of a failed call. -/
def Tame {α : Type} (p : Prog α) (env : Env) : Prop :=
  ∀ x, p.outcome env = .error x → x = .sdbusplus

section Endings

variable {α β : Type} {env : Env}

theorem returns_pure (a : α) : Returns (pure a) env := ⟨a, rfl⟩

theorem returns_call (q : Call) : Returns (call q) env := ⟨env q, rfl⟩

theorem Returns.tame {p : Prog α} (h : Returns p env) : Tame p env := by
  obtain ⟨a, ha⟩ := h
  intro x hx
  rw [ha] at hx
  cases hx

theorem Returns.bind {p : Prog α} {f : α → Prog β} (hp : Returns p env)
    (hf : ∀ a, p.outcome env = .ok a → Returns (f a) env) : Returns (p >>= f) env := by
  obtain ⟨a, ha⟩ := hp
  obtain ⟨b, hb⟩ := hf a ha
  exact ⟨b, by rw [Ask.outcome_bind_ok env ha, hb]⟩

theorem Tame.bind {p : Prog α} {f : α → Prog β} (hp : Tame p env)
    (hf : ∀ a, p.outcome env = .ok a → Tame (f a) env) : Tame (p >>= f) env := by
  intro x hx
  rw [Ask.outcome_bind] at hx
  cases ha : p.outcome env with
  | ok a =>
      rw [ha] at hx
      exact hf a ha x hx
  | error y =>
      rw [ha] at hx
      cases hx
      exact hp _ ha

theorem tame_reply (o : Option α) : Tame (reply o) env := fun _ => outcome_reply_error

theorem tame_ofExcept {r : Except CxxException α} (h : ∃ a, r = .ok a) :
    Tame (ofExcept r) env := by
  obtain ⟨a, rfl⟩ := h
  exact (returns_pure a).tame

theorem returns_catchSdbusplus {p k : Prog α} (hp : Tame p env) (hk : Returns k env) :
    Returns (catchSdbusplus p k) env := by
  obtain ⟨b, hb⟩ := hk
  cases ha : p.outcome env with
  | ok a => exact ⟨a, outcome_catchSdbusplus_ok ha⟩
  | error x =>
      have hx := hp x ha
      rw [hx] at ha
      exact ⟨b, by rw [outcome_catchSdbusplus_sdbusplus ha, hb]⟩

theorem returns_catchAll {p k : Prog α} (hk : Returns k env) : Returns (catchAll p k) env := by
  obtain ⟨b, hb⟩ := hk
  rw [Returns, catchAll, Ask.outcome_catching]
  cases p.outcome env with
  | ok a => exact ⟨a, rfl⟩
  | error x => exact ⟨b, hb⟩

theorem Returns.not_raises {p : Prog α} (h : Returns p env) : ¬ p.Raises env := by
  obtain ⟨a, ha⟩ := h
  rintro ⟨x, hx⟩
  rw [ha] at hx
  cases hx

theorem raises_bind_iff {p : Prog α} {f : α → Prog β} {a : α} (h : p.outcome env = .ok a) :
    (p >>= f).Raises env ↔ (f a).Raises env := by
  rw [Ask.Raises, Ask.outcome_bind_ok env h, Ask.Raises]

theorem raises_bind_left {p : Prog α} {f : α → Prog β} (h : ∀ a, Returns (f a) env) :
    (p >>= f).Raises env ↔ p.Raises env := by
  cases hp : p.outcome env with
  | ok a =>
      rw [raises_bind_iff hp]
      have hok : Returns p env := ⟨a, hp⟩
      exact ⟨fun hr => absurd hr (h a).not_raises, fun hr => absurd hr hok.not_raises⟩
  | error x => exact ⟨fun _ => ⟨x, hp⟩, fun _ => ⟨x, Ask.outcome_bind_error env hp⟩⟩

theorem raises_reply (o : Option α) : (reply o).Raises env ↔ o = none := by
  cases o with
  | none => exact ⟨fun _ => rfl, fun _ => ⟨_, rfl⟩⟩
  | some a =>
      refine ⟨fun h => absurd h (returns_pure a).not_raises, fun h => ?_⟩
      cases h

end Endings

/-! ## Replies of the registered types -/

/-- The replies that come can be read, and the sensors can be numbered. -/
structure WellTyped (env : Env) : Prop where
  currentPowerState : ∀ i (v : Variant), env (.currentPowerState i) = some v →
    ∃ t, v.asValue.getStr = .ok t
  hostName : ∀ s (v : Variant), env (.hostName s) = some v → ∃ t, v.asValue.getStr = .ok t
  subject : ∀ s (v : Variant), env (.subject s) = some v → ∃ t, v.asValue.getStr = .ok t
  message : ∀ s (v : Variant), env (.message s) = some v → ∃ t, v.asValue.getStr = .ok t
  alertPolicyProperties : ∀ i k path (m : PropertyMap),
    env (.alertPolicyProperties i k path) = some m → ∃ cols, readPolicyColumns m = .ok cols
  lanParam : ∀ s path (m : PropertyMap), env (.lanParam s path) = some m →
    (∀ v, m.lookup "Type" = some v → ∃ types, v.asArrays.getU8s = .ok types) ∧
      ∃ users, readStrs m "userName" = .ok users
  sensorPath : ∀ s num, env (.sensorPath s num) ≠ none

/-! ## What the replies say -/

/-- The policies of a group in the reply of an object. -/
def repliedPolicies (env : Env) (entryIdx : Nat) (alertPolicyNo : Int) (pathIdx : Nat)
    (policyObj : String) : List AlertPolicyTbl :=
  if !startsWith policyObj (alertPolicyTableObj ++ "/") then []
  else match env (.alertPolicyProperties entryIdx pathIdx policyObj) with
    | none => []
    | some values => match readPolicyColumns values with
        | .ok cols => policiesOf alertPolicyNo cols
        | .error _ => []

/-- The policies of an entry, over the objects the mapper replies with. -/
def policiesFor (env : Env) (entryIdx : Nat) (e : EvtFilterTblEntry) : List AlertPolicyTbl :=
  let alertPolicyNo : Int := (e.AlertPolicyNum &&& 0x0F).toNat
  if alertPolicyNo ≤ 0 then []
  else (((env (.alertPolicyPaths entryIdx)).getD []).zipIdx 0).flatMap fun p =>
    repliedPolicies env entryIdx alertPolicyNo p.2 p.1

/-- The destination at a selector; what stands outside of the array is whatever it is. -/
def destinationIn (env : Env) (s : Site) (destinationIndex : Nat) (types : List U8)
    (users : Option (List String)) : Option (U8 × String) :=
  if destinationIndex < types.length then
    let selectedIndex := sizeSub destinationIndex 1
    let destinationType := (types[selectedIndex]?).getD (env (.outOfBounds s selectedIndex))
    let selectedUserName := cellAt users "" selectedIndex
    if destinationType = 3 ∧ selectedUserName = "" then none
    else some (destinationType, selectedUserName)
  else none

/-- The destination of a policy, with its user, in the reply of the LAN object. -/
def destinationOf (env : Env) (s : Site) (ethMap : EthChannelMap) (policy : AlertPolicyTbl) :
    Option (U8 × String) :=
  let ifaceName := getInterfaceNameForChannel policy.ChannelNo ethMap
  if ifaceName = "" then none
  else do
    let values ← env (.lanParam s (lanObjPath ifaceName))
    let types ← (← values.lookup "Type").asArrays.getU8s.toOption
    let users ← (readStrs values "userName").toOption
    destinationIn env s policy.DestinationSel.toNat types users

/-! ## Rows of steps -/

def alertSteps (entryIdx : Nat) : List AlertPolicyTbl → Nat → List Step
  | [], _ => []
  | p :: ps, policyIdx => .alert ⟨entryIdx, policyIdx⟩ p :: alertSteps entryIdx ps (policyIdx + 1)

/-- The steps of one matched entry. -/
def entrySteps (cfg : PefCfgInfo) (env : Env) (entryIdx : Nat) (e : EvtFilterTblEntry) :
    List Step :=
  .power entryIdx e ::
    if actionEnabled cfg e ALERT_ACTION then
      .policies entryIdx e :: alertSteps entryIdx (policiesFor env entryIdx e) 0
    else []

/-- The steps of a list of matched entries, in order. -/
def steps (cfg : PefCfgInfo) (env : Env) : List EvtFilterTblEntry → Nat → List Step
  | [], _ => []
  | e :: M, entryIdx => entrySteps cfg env entryIdx e ++ steps cfg env M (entryIdx + 1)

/-- The steps without the look-ups: a power step for every entry, and an alert for every
policy that is replied for it. -/
def planFor (cfg : PefCfgInfo) (env : Env) : List EvtFilterTblEntry → Nat → List Step
  | [], _ => []
  | e :: M, i => (.power i e ::
      if actionEnabled cfg e ALERT_ACTION then alertSteps i (policiesFor env i e) 0
      else []) ++ planFor cfg env M (i + 1)

/-- The step is not the look-up of policies. -/
def Step.isTaken : Step → Bool
  | .policies .. => false
  | _ => true

theorem filter_alertSteps (i : Nat) :
    ∀ (ps : List AlertPolicyTbl) (j : Nat),
      (alertSteps i ps j).filter Step.isTaken = alertSteps i ps j
  | [], _ => rfl
  | p :: ps, j => by
      rw [alertSteps, List.filter_cons_of_pos rfl, filter_alertSteps i ps (j + 1)]

theorem filter_steps (cfg : PefCfgInfo) (env : Env) :
    ∀ (M : List EvtFilterTblEntry) (i : Nat),
      (steps cfg env M i).filter Step.isTaken = planFor cfg env M i
  | [], _ => rfl
  | e :: M, i => by
      rw [steps, List.filter_append, filter_steps cfg env M (i + 1), entrySteps,
        List.filter_cons_of_pos rfl, planFor]
      refine congrArg (fun alerts => _ :: alerts ++ _) ?_
      split
      · rw [List.filter_cons_of_neg (by exact Bool.false_ne_true), filter_alertSteps]
      · rfl

theorem mem_alertSteps {i : Nat} {s : Site} {p : AlertPolicyTbl} :
    ∀ {ps : List AlertPolicyTbl} {j : Nat}, Step.alert s p ∈ alertSteps i ps j → p ∈ ps
  | [], _, h => absurd h List.not_mem_nil
  | q :: ps, j, h => by
      rcases List.mem_cons.mp h with h | h
      · cases h
        exact List.mem_cons_self
      · exact List.mem_cons_of_mem q (mem_alertSteps h)

theorem group_of_policyAt {no : Int} {cols : PolicyColumns} {idx : Nat} {p : AlertPolicyTbl}
    (h : policyAt no cols idx = some p) : p.AlertPolicyGroupNum = BitVec.ofInt 8 no := by
  unfold policyAt at h
  split at h
  · cases h
  split at h
  · cases h
  split at h
  · cases h
  next hgroup =>
  cases h
  exact Classical.not_not.mp hgroup

theorem group_of_mem_policiesFor {env : Env} {i : Nat} {e : EvtFilterTblEntry}
    {p : AlertPolicyTbl} (h : p ∈ policiesFor env i e) : p.AlertPolicyGroupNum ≠ 0 := by
  unfold policiesFor at h
  dsimp only at h
  split at h
  · exact absurd h List.not_mem_nil
  next hno =>
  obtain ⟨⟨objPath, k⟩, -, h⟩ := List.mem_flatMap.mp h
  unfold repliedPolicies at h
  split at h
  · exact absurd h List.not_mem_nil
  split at h
  · exact absurd h List.not_mem_nil
  split at h
  · next cols _ =>
      obtain ⟨idx, -, hidx⟩ := List.mem_filterMap.mp h
      rw [group_of_policyAt hidx, BitVec.ofInt_natCast, BitVec.ofNat_toNat, BitVec.setWidth_eq]
      intro h0
      rw [h0] at hno
      exact hno (by decide)
  · exact absurd h List.not_mem_nil

theorem group_of_mem_planFor {cfg : PefCfgInfo} {env : Env} {site : Site} {p : AlertPolicyTbl} :
    ∀ {M : List EvtFilterTblEntry} {i : Nat}, Step.alert site p ∈ planFor cfg env M i →
      p.AlertPolicyGroupNum ≠ 0
  | [], _, h => absurd h List.not_mem_nil
  | e :: M, i, h => by
      rcases List.mem_append.mp h with h | h
      · rcases List.mem_cons.mp h with h | h
        · cases h
        split at h
        · exact group_of_mem_policiesFor (mem_alertSteps h)
        · exact absurd h List.not_mem_nil
      · exact group_of_mem_planFor h

theorem group_of_mem_steps {cfg : PefCfgInfo} {env : Env} {M : List EvtFilterTblEntry} {i : Nat}
    {u : Step} (h : u ∈ steps cfg env M i) :
    ∀ site p, u = .alert site p → p.AlertPolicyGroupNum ≠ 0 := by
  rintro site p rfl
  have htaken : Step.alert site p ∈ (steps cfg env M i).filter Step.isTaken :=
    List.mem_filter.mpr ⟨h, rfl⟩
  rw [filter_steps] at htaken
  exact group_of_mem_planFor htaken

section Rows

variable (retryEnable : Bool) (cfg : PefCfgInfo) (event : EventMsgData) (ethMap : EthChannelMap)

theorem forIdx_alerts (f : Step → Prog Unit) (i : Nat) :
    ∀ (ps : List AlertPolicyTbl) (j : Nat),
      Ask.forIdx (fun j policy => f (.alert ⟨i, j⟩ policy)) ps j =
        Ask.inRow ((alertSteps i ps j).map f)
  | [], _ => rfl
  | p :: ps, j => congrArg (fun k => f (.alert ⟨i, j⟩ p) >>= fun _ => k)
      (forIdx_alerts f i ps (j + 1))

theorem forIdx_entries {env : Env} {body : Nat → EvtFilterTblEntry → Prog Unit}
    {f : Step → Prog Unit}
    (h : ∀ i e, body i e env = Ask.inRow ((entrySteps cfg env i e).map f) env) :
    ∀ (M : List EvtFilterTblEntry) (i : Nat),
      Ask.forIdx body M i env = Ask.inRow ((steps cfg env M i).map f) env
  | [], _ => rfl
  | e :: M, i => by
      have ih := forIdx_entries h M (i + 1)
      rw [steps, List.map_append, Ask.inRow_append, Ask.forIdx]
      have hhead : body i e env = Ask.inRow ((entrySteps cfg env i e).map f) env := h i e
      have hleft : (body i e >>= fun _ => Ask.forIdx body M (i + 1)) env =
          (body i e >>= fun _ => Ask.inRow ((steps cfg env M (i + 1)).map f)) env :=
        Ask.bind_congr_at fun _ _ => ih
      rw [hleft]
      show Ask.andThen _ _ env = Ask.andThen _ _ env
      unfold Ask.andThen
      rw [hhead]

theorem policies_then_alerts {env : Env} (f : Step → Prog Unit) (i : Nat) (e : EvtFilterTblEntry)
    {look : Prog (List AlertPolicyTbl)}
    (hlook : look.outcome env = .ok (policiesFor env i e)) :
    (look >>= fun ps => Ask.forIdx (fun j policy => f (.alert ⟨i, j⟩ policy)) ps 0) env =
      ((do let _ ← look; pure ()) >>= fun _ =>
        Ask.inRow ((alertSteps i (policiesFor env i e) 0).map f)) env := by
  rw [Ask.bind_assoc]
  refine Ask.bind_congr_at fun ps hps => ?_
  cases hlook.symm.trans hps
  rw [Ask.pure_bind, forIdx_alerts]

/-- A look-up that throws is a look-up without policies. -/
theorem isolated_policies {env : Env} (i : Nat) (e : EvtFilterTblEntry) :
    ((do let _ ← catchAll (checkAlertPoicyTbl i (e.AlertPolicyNum &&& 0x0F).toNat) (pure [])
         pure ()) : Prog Unit) env =
      Ask.isolate (Step.run retryEnable cfg event ethMap (.policies i e)) env := by
  refine Prod.ext ?_ ?_
  · show Ask.asked _ env = Ask.asked _ env
    rw [Ask.asked_isolate, Step.run, Ask.asked_bind, Ask.asked_bind, catchAll, Ask.asked_catching,
      Ask.outcome_catching]
    cases (checkAlertPoicyTbl i (e.AlertPolicyNum &&& 0x0F).toNat).outcome env with
    | ok ps => simp
    | error x => simp
  · show Ask.outcome _ env = Ask.outcome _ env
    rw [Ask.outcome_isolate, Ask.outcome_bind, catchAll, Ask.outcome_catching]
    cases (checkAlertPoicyTbl i (e.AlertPolicyNum &&& 0x0F).toNat).outcome env with
    | ok ps => rfl
    | error x => rfl

end Rows

/-! ## Calls that are handled -/

section Typed

variable {env : Env}

theorem tame_getStrProperty {answer : Prog (Option Variant)} {o : Option Variant}
    (ho : answer.outcome env = .ok o)
    (h : ∀ v, o = some v → ∃ t, v.asValue.getStr = .ok t) : Tame (getStrProperty answer) env := by
  refine Tame.bind (Returns.tame ⟨o, ho⟩) fun o' ho' => ?_
  cases ho.symm.trans ho'
  refine (tame_reply o).bind fun v hv => tame_ofExcept (h v ?_)
  exact outcome_reply_ok.mp hv

theorem returns_PEFActionSELLOG (i : Nat) (j : Option Nat) (action : U8) :
    Returns (PEFActionSELLOG i j action) env :=
  returns_catchSdbusplus ((returns_call _).tame.bind fun o _ => tame_reply o) (returns_pure ())

theorem returns_logAction (cfg : PefCfgInfo) (i : Nat) (j : Option Nat) (action : U8) :
    Returns (logAction cfg i j action) env := by
  unfold logAction
  split
  · exact returns_PEFActionSELLOG i j action
  · exact returns_pure ()

theorem returns_getSmtpMailID (s : Site) (user : String) :
    Returns (getSmtpMailID s user) env := by
  unfold getSmtpMailID
  split
  · exact returns_pure none
  · exact returns_catchAll (returns_pure none)

theorem returns_bmcIPAddress (s : Site) (iface : String) :
    Returns (bmcIPAddress s iface) env := by
  refine (returns_call _).bind fun _ _ => ?_
  split
  · exact returns_call _
  · exact returns_pure _

theorem returns_mailHostReachable (s : Site) (iface : String) :
    Returns (mailHostReachable s iface) env := by
  refine returns_catchSdbusplus ?_ (returns_pure false)
  refine (returns_call _).tame.bind fun o _ => (tame_reply o).bind fun enable _ => ?_
  split
  · exact (returns_call _).tame.bind fun o _ => (tame_reply o).bind fun _ _ =>
      (returns_call _).tame
  · exact (returns_pure false).tame

theorem returns_isMailAlertConfigured (s : Site) : Returns (isMailAlertConfigured s) env := by
  refine (returns_mailHostReachable s _).bind fun _ _ => ?_
  split
  · exact returns_pure true
  · exact returns_mailHostReachable s _

theorem returns_deliverMail (retryEnable : Bool) (s : Site) (subject body : String) :
    Returns (deliverMail retryEnable s subject body) env := by
  refine returns_catchSdbusplus ?_ (returns_pure _)
  split
  · refine (returns_isMailAlertConfigured s).tame.bind fun _ _ => ?_
    split
    · exact (returns_call _).tame.bind fun o _ => (tame_reply o).bind fun _ _ =>
        (returns_pure _).tame
    · exact (returns_pure _).tame
  · exact (returns_call _).tame.bind fun o _ => tame_reply o

theorem returns_deliverTrap (retryEnable : Bool) (s : Site) (event : EventMsgData)
    (channelNo destinationSel : U8) (path time host : String) :
    Returns (deliverTrap retryEnable s event channelNo destinationSel path time host) env := by
  refine returns_catchSdbusplus ?_ (returns_pure _)
  split
  · exact (returns_call _).tame.bind fun o _ => (tame_reply o).bind fun _ _ =>
      (returns_pure _).tame
  · exact (returns_call _).tame.bind fun _ _ => (returns_pure _).tame

variable (hw : WellTyped env)
include hw

theorem returns_getPathFromSensorNumber (s : Site) (num : U8) :
    Returns (getPathFromSensorNumber s num) env := by
  refine (returns_call _).bind fun o ho => ?_
  cases o with
  | some path => exact returns_pure path
  | none => exact absurd (Except.ok.inj ho) (hw.sensorPath s num)

theorem returns_sendSmtpAlert (retryEnable : Bool) (s : Site) (event : EventMsgData)
    (mailID : String) : Returns (sendSmtpAlert retryEnable s event mailID) env := by
  refine (returns_getPathFromSensorNumber hw s _).bind fun path _ => Returns.bind ?_ fun _ _ =>
    Returns.bind ?_ fun _ _ => ?_
  · refine Returns.bind ?_ fun _ _ => ?_
    · exact returns_catchSdbusplus (tame_getStrProperty rfl (hw.subject s))
        (returns_pure "")
    · refine returns_catchSdbusplus ?_ (returns_pure _)
      exact (tame_getStrProperty rfl (hw.hostName s)).bind fun _ _ =>
        (returns_pure _).tame
  · refine Returns.bind ?_ fun _ _ => returns_pure _
    refine returns_catchSdbusplus ?_ (returns_pure "")
    exact (tame_getStrProperty rfl (hw.message s)).bind fun _ _ =>
      (returns_pure _).tame
  · split
    · exact returns_pure _
    · exact returns_deliverMail retryEnable s _ _

theorem returns_mailAlert (retryEnable : Bool) (s : Site) (event : EventMsgData)
    (user : String) : Returns (mailAlert retryEnable s event user) env := by
  refine (returns_getSmtpMailID s user).bind fun _ _ =>
    (returns_sendSmtpAlert hw retryEnable s event _).bind fun _ _ => ?_
  split
  · exact returns_catchAll (returns_pure ())
  · exact returns_pure ()

/-! ## The replies are what is read -/

theorem outcome_policiesIn_replied (i k : Nat) (no : Int) (path : String) :
    (policiesIn no i k path).outcome env = .ok (repliedPolicies env i no k path) := by
  unfold policiesIn repliedPolicies
  split
  · rfl
  rw [catchSdbusplus, Ask.outcome_catching, Ask.outcome_ask_bind]
  cases hm : env (.alertPolicyProperties i k path) with
  | none => rfl
  | some m =>
      obtain ⟨cols, hcols⟩ := hw.alertPolicyProperties i k path m hm
      have hreply : (reply (some m)).outcome env = .ok m := rfl
      have hread : (ofExcept (readPolicyColumns m)).outcome env = .ok cols := by
        rw [outcome_ofExcept, hcols]
      rw [Ask.outcome_bind_ok env hreply, Ask.outcome_bind_ok env hread]
      dsimp only
      rw [hcols]
      rfl

theorem outcome_checkAlertPoicyTbl (i : Nat) (e : EvtFilterTblEntry) :
    (checkAlertPoicyTbl i (e.AlertPolicyNum &&& 0x0F).toNat).outcome env =
      .ok (policiesFor env i e) := by
  unfold checkAlertPoicyTbl policiesFor
  dsimp only
  split
  · rfl
  have hpaths : (catchSdbusplus
      (do let policyObjs ← reply (← call (.alertPolicyPaths i)); pure policyObjs)
      (pure [])).outcome env = .ok ((env (.alertPolicyPaths i)).getD []) := by
    rw [catchSdbusplus, Ask.outcome_catching, Ask.outcome_ask_bind]
    cases env (.alertPolicyPaths i) <;> rfl
  rw [Ask.outcome_bind_ok env hpaths]
  exact Ask.outcome_collectIdx_zipIdx env fun k path =>
    outcome_policiesIn_replied hw i k _ path

omit hw in
theorem outcome_selectDestination (s : Site) (i : Nat) {m : PropertyMap} (types : List U8)
    {users : Option (List String)} (husers : readStrs m "userName" = .ok users) :
    (selectDestination s i m types).outcome env = .ok (destinationIn env s i types users) := by
  unfold selectDestination destinationIn
  split
  · next hempty =>
      rw [List.isEmpty_iff.mp hempty]
      exact (congrArg Except.ok (if_neg (Nat.not_lt_zero i))).symm
  split
  · have hsubscript : (subscriptAt s types (sizeSub i 1)).outcome env =
        .ok ((types[sizeSub i 1]?).getD (env (.outOfBounds s (sizeSub i 1)))) := by
      unfold subscriptAt
      cases types[sizeSub i 1]? <;> rfl
    have hread : (ofExcept (readStrs m "userName")).outcome env = .ok users := by
      rw [outcome_ofExcept, husers]
    rw [Ask.outcome_bind_ok env hsubscript, Ask.outcome_bind_ok env hread]
    rfl
  · rfl

theorem outcome_destinationFor (s : Site) (ethMap : EthChannelMap) (policy : AlertPolicyTbl) :
    (destinationFor s ethMap policy).outcome env = .ok (destinationOf env s ethMap policy) := by
  unfold destinationFor destinationOf
  dsimp only
  split
  · rfl
  rw [catchSdbusplus, Ask.outcome_catching, Ask.outcome_ask_bind]
  cases hm : env (.lanParam s (lanObjPath (getInterfaceNameForChannel policy.ChannelNo ethMap))) with
  | none => rfl
  | some m =>
      obtain ⟨htypes, users, husers⟩ := hw.lanParam s _ m hm
      have hreply : (reply (some m)).outcome env = .ok m := rfl
      rw [Ask.outcome_bind_ok env hreply, Option.bind_eq_bind, Option.bind_some]
      cases hv : m.lookup "Type" with
      | none => rfl
      | some v =>
          obtain ⟨types, htypes⟩ := htypes v hv
          have hread : (ofExcept v.asArrays.getU8s).outcome env = .ok types := by
            rw [outcome_ofExcept, htypes]
          have hselect : (selectDestination s policy.DestinationSel.toNat m types).outcome env =
              .ok (destinationIn env s policy.DestinationSel.toNat types users) :=
            outcome_selectDestination s _ types husers
          dsimp only
          rw [Ask.outcome_bind_ok env hread, hselect]
          simp only [Option.bind_eq_bind, Option.bind_some, htypes, husers, Except.toOption]

section Rows

variable (retryEnable : Bool) (cfg : PefCfgInfo) (event : EventMsgData) (ethMap : EthChannelMap)

/-- `performPefAction` is the row of its steps. -/
theorem performPefAction_eq_row (M : List EvtFilterTblEntry) :
    performPefAction retryEnable M event ethMap cfg env =
      Ask.inRow ((steps cfg env M 0).map (Step.run retryEnable cfg event ethMap)) env := by
  refine forIdx_entries cfg (fun i e => ?_) M 0
  rw [entrySteps, List.map_cons, Ask.inRow]
  refine Ask.bind_congr_at fun _ _ => ?_
  unfold alertAction
  split
  · rw [List.map_cons, Ask.inRow]
    exact policies_then_alerts (Step.run retryEnable cfg event ethMap) i e
      (outcome_checkAlertPoicyTbl hw i e)
  · rfl

theorem performPefActionIsolated_eq_row (M : List EvtFilterTblEntry) :
    performPefActionIsolated retryEnable cfg event ethMap M env =
      Ask.inRow (((steps cfg env M 0).map (Step.run retryEnable cfg event ethMap)).map
        Ask.isolate) env := by
  rw [List.map_map]
  refine forIdx_entries cfg (fun i e => ?_) M 0
  rw [entrySteps, List.map_cons, Ask.inRow]
  refine Ask.bind_congr_at fun _ _ => ?_
  split
  · rw [List.map_cons, Ask.inRow]
    have hlook : (catchAll (checkAlertPoicyTbl i (e.AlertPolicyNum &&& 0x0F).toNat)
        (pure [])).outcome env = .ok (policiesFor env i e) := by
      rw [catchAll, Ask.outcome_catching, outcome_checkAlertPoicyTbl hw i e]
    refine (policies_then_alerts (Ask.isolate ∘ Step.run retryEnable cfg event ethMap) i e
      hlook).trans ?_
    show Ask.andThen _ _ env = Ask.andThen _ _ env
    unfold Ask.andThen
    rw [isolated_policies retryEnable cfg event ethMap i e]
    rfl
  · rfl

end Rows

/-! ## The three calls -/

theorem returns_getPowerStatus (i : Nat) : Returns (getPowerStatus i) env :=
  returns_catchSdbusplus
    ((tame_getStrProperty rfl (hw.currentPowerState i)).bind fun _ _ => (returns_pure _).tame)
    (returns_pure false)

omit hw in
theorem getPowerStatus_of_on {i : Nat} (h : PoweredOn env i) :
    (getPowerStatus i).outcome env = .ok true := by
  obtain ⟨v, hv, hstatus⟩ := h
  have hget : (getStrProperty (call (.currentPowerState i))).outcome env = .ok powerStateOn := by
    have hreply : (reply (some v)).outcome env = .ok v := rfl
    rw [getStrProperty, Ask.outcome_ask_bind, hv, Ask.outcome_bind_ok env hreply, hstatus]
    rfl
  refine outcome_catchSdbusplus_ok ?_
  rw [Ask.outcome_bind_ok env hget, decide_eq_true rfl]
  rfl

theorem raises_resetHost (i : Nat) : (resetHost i).Raises env ↔
    PoweredOn env i ∧ env (.requestedHostTransition i pwrStateReset) = none := by
  obtain ⟨power, hpower⟩ := returns_getPowerStatus hw i
  rw [resetHost, raises_bind_iff hpower]
  cases power with
  | true =>
      have hcall : (call (.requestedHostTransition i pwrStateReset)).outcome env =
          .ok (env (.requestedHostTransition i pwrStateReset)) := rfl
      rw [if_pos rfl, initiateStateTransition, raises_bind_iff hcall, raises_reply]
      exact ⟨fun h => ⟨getPowerStatus_true hpower, h⟩, fun h => h.2⟩
  | false =>
      rw [if_neg Bool.false_ne_true]
      refine ⟨fun h => absurd h (returns_pure ()).not_raises, fun h => ?_⟩
      have hon := getPowerStatus_of_on h.1
      rw [hpower] at hon
      cases hon

/-- The calls of a step that are made outside of any handler, and fail. -/
def Step.CallFails (cfg : PefCfgInfo) (ethMap : EthChannelMap) (env : Env) : Step → Prop
  | .power i e =>
      (SetInBoth cfg e 1 ∧ env (.requestedPowerTransition i pwrCtlOff) = none) ∨
      (¬ SetInBoth cfg e 1 ∧ (SetInBoth cfg e 3 ∨ SetInBoth cfg e 2) ∧ PoweredOn env i ∧
        env (.requestedHostTransition i pwrStateReset) = none)
  | .policies _ _ => False
  | .alert s policy =>
      policy.AlertPolicyGroupNum ≠ 0 ∧
      (∃ destinationType user,
        destinationOf env s ethMap policy = some (destinationType, user) ∧ destinationType ≤ 2) ∧
      getInterfaceNameForChannel policy.ChannelNo (ethChannels (env (.alertChannelMap s))) ≠ "" ∧
      env (.hostName s) = none

omit hw in
theorem logAction_ok (cfg : PefCfgInfo) (i : Nat) (action : U8) :
    (logAction cfg i none action).outcome env = .ok () := by
  have h : Returns (logAction cfg i none action) env := returns_logAction cfg i none action
  obtain ⟨⟨⟩, h⟩ := h
  exact h

omit hw in
theorem not_callFails_of_no_action {cfg : PefCfgInfo} {ethMap : EthChannelMap} {i : Nat}
    {e : EvtFilterTblEntry}
    (h : ¬ (hasBits e.EvtFilterAction POWER_OFF_ACTION ||
      hasBits e.EvtFilterAction POWER_CYCLE_ACTION || hasBits e.EvtFilterAction RESET_ACTION)) :
    ¬ (Step.power i e).CallFails cfg ethMap env := by
  rw [hasBits_two, hasBits_four, hasBits_eight] at h
  simp only [Bool.or_eq_true, not_or] at h
  obtain ⟨⟨hoff, hcycle⟩, hreset⟩ := h
  rintro (hfails | ⟨-, hfails | hfails, -⟩)
  · exact hoff hfails.1.1
  · exact hcycle hfails.1
  · exact hreset hfails.1

theorem raises_powerAction (cfg : PefCfgInfo) (ethMap : EthChannelMap) (i : Nat)
    (e : EvtFilterTblEntry) :
    (powerAction cfg i e).Raises env ↔ (Step.power i e).CallFails cfg ethMap env := by
  have hcall : (call (.requestedPowerTransition i pwrCtlOff)).outcome env =
      .ok (env (.requestedPowerTransition i pwrCtlOff)) := rfl
  unfold powerAction
  split
  · unfold Step.CallFails
    split
    · next hoff =>
        rw [raises_bind_iff (logAction_ok cfg i _), initiateChassisStateTransition,
          raises_bind_iff hcall, raises_reply]
        have hoff' := actionEnabled_powerOff.mp hoff
        exact ⟨fun h => Or.inl ⟨hoff', h⟩, fun h => h.elim And.right fun h => absurd hoff' h.1⟩
    · next hoff =>
        have hoff' := mt actionEnabled_powerOff.mpr hoff
        split
        · next hcycle =>
            rw [raises_bind_iff (logAction_ok cfg i _), raises_resetHost hw]
            have hcycle' := actionEnabled_powerCycle.mp hcycle
            exact ⟨fun h => Or.inr ⟨hoff', Or.inl hcycle', h⟩,
              fun h => h.elim (fun h => absurd h.1 hoff') fun h => h.2.2⟩
        · next hcycle =>
            have hcycle' := mt actionEnabled_powerCycle.mpr hcycle
            split
            · next hreset =>
                rw [raises_bind_iff (logAction_ok cfg i _), raises_resetHost hw]
                have hreset' := actionEnabled_reset.mp hreset
                exact ⟨fun h => Or.inr ⟨hoff', Or.inr hreset', h⟩,
                  fun h => h.elim (fun h => absurd h.1 hoff') fun h => h.2.2⟩
            · next hreset =>
                have hreset' := mt actionEnabled_reset.mpr hreset
                refine ⟨fun h => absurd h (returns_pure ()).not_raises, fun h => ?_⟩
                rcases h with h | ⟨-, h, -⟩
                · exact absurd h.1 hoff'
                · exact (h.elim hcycle' hreset').elim
  · next hnone =>
      exact iff_of_false (returns_pure ()).not_raises (not_callFails_of_no_action hnone)

theorem raises_sendSNMPAlert (retryEnable : Bool) (s : Site) (event : EventMsgData)
    (channelNo destinationSel : U8) :
    (sendSNMPAlert retryEnable s event channelNo destinationSel).Raises env ↔
      getInterfaceNameForChannel channelNo (ethChannels (env (.alertChannelMap s))) ≠ "" ∧
        env (.hostName s) = none := by
  obtain ⟨path, hpath⟩ := returns_getPathFromSensorNumber hw s event.sensorNum
  have hmap : (getEthChannelInterfaceMap (call (.alertChannelMap s))).outcome env =
      .ok (ethChannels (env (.alertChannelMap s))) := outcome_getEthChannelInterfaceMap rfl
  rw [sendSNMPAlert, raises_bind_iff hpath, raises_bind_iff hmap]
  generalize ethChannels (env (.alertChannelMap s)) = map
  dsimp only
  split
  · next hiface =>
      exact ⟨fun h => absurd h (returns_pure _).not_raises, fun h => absurd hiface h.1⟩
  · next hiface =>
      have hreturns : Returns (bmcIPAddress s (getInterfaceNameForChannel channelNo map)) env :=
        returns_bmcIPAddress s _
      obtain ⟨ip, hip⟩ := hreturns
      have htime : (call (.currentTime s)).outcome env = .ok (env (.currentTime s)) := rfl
      have hcall : (call (.hostName s)).outcome env = .ok (env (.hostName s)) := rfl
      rw [raises_bind_iff hip, raises_bind_iff htime, raises_bind_left fun _ =>
        returns_deliverTrap retryEnable s event channelNo destinationSel _ _ _, getStrProperty,
        raises_bind_iff hcall]
      cases hhost : env (.hostName s) with
      | none => exact ⟨fun _ => ⟨hiface, rfl⟩, fun _ => ⟨_, rfl⟩⟩
      | some v =>
          obtain ⟨t, ht⟩ := hw.hostName s v hhost
          have hreply : (reply (some v)).outcome env = .ok v := rfl
          rw [raises_bind_iff hreply, ht]
          exact ⟨fun h => absurd h (returns_pure t).not_raises, fun h => nomatch h.2⟩

theorem raises_policyAction (retryEnable : Bool) (cfg : PefCfgInfo) (event : EventMsgData)
    (ethMap : EthChannelMap) (s : Site) (policy : AlertPolicyTbl) :
    (policyAction retryEnable cfg event ethMap s policy).Raises env ↔
      (Step.alert s policy).CallFails cfg ethMap env := by
  have hreturns : Returns (logAction cfg s.entryIdx (some s.policyIdx) ALERT_ACTION) env :=
    returns_logAction cfg s.entryIdx (some s.policyIdx) ALERT_ACTION
  obtain ⟨⟨⟩, hlog⟩ := hreturns
  have hd := outcome_destinationFor hw s ethMap policy
  simp only [policyAction, Step.CallFails]
  split
  · next hgroup =>
      exact ⟨fun h => absurd h (returns_pure ()).not_raises, fun h => absurd hgroup h.1⟩
  next hgroup =>
  rw [raises_bind_iff hd]
  cases destinationOf env s ethMap policy with
  | none =>
      refine ⟨fun h => absurd h (returns_pure ()).not_raises, ?_⟩
      rintro ⟨-, ⟨_, _, h, -⟩, -⟩
      cases h
  | some d =>
      obtain ⟨destinationType, user⟩ := d
      dsimp only
      split
      · next hmail =>
          rw [raises_bind_iff hlog]
          refine ⟨fun h => absurd h (returns_mailAlert hw retryEnable s event user).not_raises, ?_⟩
          rintro ⟨-, ⟨_, _, h, hle⟩, -⟩
          cases h
          rw [hmail] at hle
          exact absurd hle (by decide)
      · next hmail =>
          split
          · next htrap =>
              rw [raises_bind_iff hlog, raises_bind_left fun _ => returns_pure (),
                raises_sendSNMPAlert hw]
              exact ⟨fun h => ⟨hgroup, ⟨_, _, rfl, htrap⟩, h⟩, fun h => h.2.2⟩
          · next htrap =>
              refine ⟨fun h => absurd h (returns_pure ()).not_raises, ?_⟩
              rintro ⟨-, ⟨_, _, h, hle⟩, -⟩
              cases h
              exact absurd hle htrap

/-- A step throws exactly when one of the three calls fails in it. -/
theorem raises_step (retryEnable : Bool) (cfg : PefCfgInfo) (event : EventMsgData)
    (ethMap : EthChannelMap) (u : Step) :
    (u.run retryEnable cfg event ethMap).Raises env ↔ u.CallFails cfg ethMap env := by
  cases u with
  | power i e => exact raises_powerAction hw cfg ethMap i e
  | policies i e =>
      have hlook : Returns (checkAlertPoicyTbl i (e.AlertPolicyNum &&& 0x0F).toNat) env :=
        ⟨_, outcome_checkAlertPoicyTbl hw i e⟩
      have hret : Returns (Step.run retryEnable cfg event ethMap (.policies i e)) env :=
        hlook.bind fun _ _ => returns_pure ()
      exact ⟨fun h => absurd h hret.not_raises, False.elim⟩
  | alert s policy => exact raises_policyAction hw retryEnable cfg event ethMap s policy

end Typed

theorem dead_wellTyped : WellTyped Env.dead where
  currentPowerState _ _ h := nomatch h
  hostName _ _ h := nomatch h
  subject _ _ h := nomatch h
  message _ _ h := nomatch h
  alertPolicyProperties _ _ _ _ h := nomatch h
  lanParam _ _ _ h := nomatch h
  sensorPath _ _ h := nomatch h

end Pef
