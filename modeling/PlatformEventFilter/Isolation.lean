/-
# `Isolation` — which failures stop the other actions

A failure that is handled costs the action it belongs to.  One of the three calls
that are made outside of any handler (`Steps`) costs whatever stands behind it.

    Step.stops    an unguarded call of the step fails
    Step.acts     the step takes an action

Both are read off the entry, the policy and the replies.  So the actions are those of a
program with a handler around every step exactly when no step that stops stands in
front of one that acts (`actions_isolated_iff`).
-/
import PlatformEventFilter.Response

namespace Pef

/-! ## Steps that act -/

section Acts

variable (retryEnable : Bool) (env : Env) (s : Site)

/-- The user has an address, and with retries there is a mail service to take the mail. -/
def mailActs (user : String) : Bool :=
  match mailAddressOf env s user with
  | none => false
  | some mailID => mailID ≠ "" &&
      (!retryEnable || mailHostUp env s primaryMailIfc || mailHostUp env s secondaryMailIfc)

/-- The channel has an interface, and the host a name. -/
def trapActs (channelNo : U8) : Bool :=
  getInterfaceNameForChannel channelNo (ethChannels (env (.alertChannelMap s))) ≠ "" &&
    (strReply (env (.hostName s))).isSome

end Acts

/-- The step takes an action. -/
def Step.acts (retryEnable : Bool) (cfg : PefCfgInfo) (ethMap : EthChannelMap) (env : Env) :
    Step → Bool
  | .power i e => (transitionOf cfg (hostOn env i) e).isSome
  | .policies .. => false
  | .alert s policy => match destinationOf env s ethMap policy with
      | none => false
      | some (destinationType, user) =>
          if destinationType = 3 then mailActs retryEnable env s user
          else destinationType ≤ 2 && trapActs env s policy.ChannelNo

/-- The actions of a run. -/
def actionsOf (p : Prog Unit) (env : Env) : List Call :=
  (p.asked env).filter fun q => q.action.isSome

/-! ## Actions among the effects -/

/-- The effect is an action, not the record of one. -/
def Effect.isAction : Effect → Bool
  | .processed _ => false
  | _ => true

theorem action_eq (q : Call) : q.action.isSome = q.effect.any Effect.isAction := by
  cases q <;> rfl

theorem no_action_iff {p : Prog Unit} {env : Env} :
    (∀ q ∈ p.asked env, q.action.isSome = false) ↔ (effects p env).any Effect.isAction = false := by
  rw [List.any_eq_false, effects, Ask.seen]
  simp only [List.mem_filterMap, action_eq]
  constructor
  · rintro h x ⟨q, hq, hx⟩
    have hnone := h q hq
    rw [hx] at hnone
    exact Bool.eq_false_iff.mp hnone
  · intro h q hq
    cases hx : q.effect with
    | none => rfl
    | some x => exact Bool.eq_false_iff.mpr (h x ⟨q, hq, hx⟩)

section Effects

variable {env : Env} {retryEnable : Bool} {cfg : PefCfgInfo} {event : EventMsgData}
  {ethMap : EthChannelMap} {s : Site}

theorem any_isAction_trapEffects (hw : WellTyped env) (channelNo destinationSel : U8) :
    (trapEffects retryEnable env s event channelNo destinationSel).any Effect.isAction =
      trapActs env s channelNo := by
  obtain ⟨path, hpath⟩ := sensorPath_of_wellTyped hw s event.sensorNum
  unfold trapEffects notificationOf trapActs strReply
  simp only [hpath, Option.bind_eq_bind, Option.bind_some]
  by_cases hiface : getInterfaceNameForChannel channelNo
      (ethChannels (env (.alertChannelMap s))) = ""
  · rw [if_pos hiface]
    simp [hiface]
  · rw [if_neg hiface]
    cases env (.hostName s) with
    | none => simp
    | some v =>
        simp only [Option.bind_some]
        cases v.asValue.getStr.toOption with
        | none => simp
        | some hostName => cases retryEnable <;> simp [hiface, Effect.isAction]

theorem any_isAction_deliveryEffects (subject body : String) :
    (deliveryEffects retryEnable env s event subject body).any Effect.isAction =
      (!retryEnable || mailHostUp env s primaryMailIfc || mailHostUp env s secondaryMailIfc) := by
  unfold deliveryEffects
  cases retryEnable with
  | false => rfl
  | true =>
      cases hup : mailHostUp env s primaryMailIfc || mailHostUp env s secondaryMailIfc with
      | false => simpa using hup
      | true => simpa [Effect.isAction] using hup

theorem any_isAction_mailEffects (hw : WellTyped env) (user : String) :
    (mailEffects retryEnable env s event user).any Effect.isAction =
      mailActs retryEnable env s user := by
  obtain ⟨path, hpath⟩ := sensorPath_of_wellTyped hw s event.sensorNum
  unfold mailEffects mailActs
  rw [hpath]
  cases mailAddressOf env s user with
  | none => rfl
  | some mailID =>
      dsimp only
      split
      · next hempty => simp [hempty]
      · next hne =>
          rw [any_isAction_deliveryEffects]
          simp [hne]

theorem any_isAction_effects (hw : WellTyped env) (u : Step) :
    (u.effects retryEnable cfg event ethMap env).any Effect.isAction =
      u.acts retryEnable cfg ethMap env := by
  cases u with
  | power i e =>
      unfold Step.effects Step.acts transitionOf
      dsimp only
      split
      · rfl
      · split <;> rfl
  | policies i e => rfl
  | alert s policy =>
      unfold Step.effects Step.acts alertEffects
      dsimp only
      cases destinationOf env s ethMap policy with
      | none => rfl
      | some d =>
          dsimp only
          split
          · exact any_isAction_mailEffects hw d.2
          · split
            · next htrap =>
                rw [any_isAction_trapEffects hw, decide_eq_true htrap, Bool.true_and]
            · next htrap =>
                rw [decide_eq_false htrap, Bool.false_and]
                rfl

theorem no_action_step_iff (hw : WellTyped env) (u : Step)
    (hgroup : ∀ site p, u = .alert site p → p.AlertPolicyGroupNum ≠ 0) :
    (∀ q ∈ (u.run retryEnable cfg event ethMap).asked env, q.action.isSome = false) ↔
      u.acts retryEnable cfg ethMap env = false := by
  rw [no_action_iff, effects_step hw u hgroup, any_isAction_effects hw]

/-- The look-ups do not matter: they neither stop nor act. -/
theorem pairwise_steps_iff (M : List EvtFilterTblEntry) :
    ((steps cfg env M 0).Pairwise fun u v =>
        u.stops cfg ethMap env = true → v.acts retryEnable cfg ethMap env = false) ↔
      (planFor cfg env M 0).Pairwise fun u v =>
        u.stops cfg ethMap env = true → v.acts retryEnable cfg ethMap env = false := by
  have hstops : ∀ u : Step, u.stops cfg ethMap env = true → u.isTaken = true := by
    intro u hu
    cases u with
    | policies i e => cases hu
    | _ => rfl
  have hacts : ∀ u : Step, u.isTaken ≠ true → u.acts retryEnable cfg ethMap env = false := by
    intro u hu
    cases u with
    | policies i e => rfl
    | _ => exact absurd rfl hu
  rw [← filter_steps, List.pairwise_filter]
  refine List.Pairwise.iff fun u v => ⟨fun h _ _ => h, fun h hu => ?_⟩
  by_cases hv : v.isTaken = true
  · exact h (hstops u hu) hv hu
  · exact hacts v hv

/-! ## When failures are isolated -/

/-- `performPefAction` takes the actions it would take with a handler around every step
exactly when, in the plan for its entries, no step whose unguarded call fails stands in
front of one that acts. -/
theorem actions_isolated_iff (hw : WellTyped env) (retryEnable : Bool) (cfg : PefCfgInfo)
    (event : EventMsgData) (ethMap : EthChannelMap) (M : List EvtFilterTblEntry) :
    actionsOf (performPefAction retryEnable M event ethMap cfg) env =
        actionsOf (performPefActionIsolated retryEnable cfg event ethMap M) env ↔
      (planFor cfg env M 0).Pairwise fun u v =>
        u.stops cfg ethMap env = true → v.acts retryEnable cfg ethMap env = false := by
  have hrow : (performPefAction retryEnable M event ethMap cfg).asked env =
      (Ask.inRow ((steps cfg env M 0).map (Step.run retryEnable cfg event ethMap))).asked env :=
    congrArg Prod.fst (performPefAction_eq_row hw retryEnable cfg event ethMap M)
  have hisolated : (performPefActionIsolated retryEnable cfg event ethMap M).asked env =
      (Ask.inRow (((steps cfg env M 0).map (Step.run retryEnable cfg event ethMap)).map
        Ask.isolate)).asked env :=
    congrArg Prod.fst (performPefActionIsolated_eq_row hw retryEnable cfg event ethMap M)
  rw [actionsOf, actionsOf, hrow, hisolated, Ask.filter_asked_inRow_iff, ← pairwise_steps_iff]
  refine List.Pairwise.iff_of_mem fun {u v} hu hv => ?_
  rw [stops_iff_raises hw u (group_of_mem_steps hu), no_action_step_iff hw v (group_of_mem_steps hv)]

end Effects

/-! ## Failures in front of actions -/

/-- An entry that asks for these actions, with the alerts of group 1. -/
def entryFor (actions : Int) : EvtFilterTblEntry :=
  jsonEntry (.obj [("EvtFilterAction", .num actions), ("AlertPolicyNum", .num 1)])

/-- Power-offs and alerts are enabled, and every action is to be logged. -/
def loggedCfg : PefCfgInfo := ⟨0x03, 0x03, 0, 0⟩

def quietEvent : EventMsgData := ⟨1, 0, 0x20, 1, 1, 1, 0, 0, 0, ""⟩

/-- Nothing can be logged, the LAN object replies for the second entry only, and the
power-off of the third one fails. -/
def failingEnv : Env
  | .alertPolicyPaths _ => some [alertPolicyTableObj ++ "/AlertPolicyTable1"]
  | .alertPolicyProperties .. => some [("AlertPolicyGroupNum", .u8s [1, 1]),
      ("EnableAlert", .u8s [1, 1]), ("ChannelNo", .u8s [1, 2]), ("DestinationSel", .u8s [1, 1])]
  | .lanParam s _ =>
      if s.entryIdx = 1 then some [("Type", .u8s [1, 1]), ("userName", .strs ["", ""])] else none
  | .requestedPowerTransition i _ => if i = 2 then none else some ()
  | .sensorPath .. => some "/xyz/openbmc_project/sensors/temperature/CPU"
  | .alertChannelMap _ => some [(1, "eth0")]
  | .hostName _ => some (.str "bmc")
  | q => Env.dead q

theorem failingEnv_wellTyped : WellTyped failingEnv where
  currentPowerState _ _ h := by cases h
  hostName _ v h := by
    cases h
    exact ⟨"bmc", rfl⟩
  subject _ _ h := by cases h
  message _ _ h := by cases h
  alertPolicyProperties _ _ _ m h := by
    cases h
    exact ⟨_, rfl⟩
  lanParam s _ m h := by
    have hreply : (if s.entryIdx = 1 then
        some [("Type", Variant.u8s [1, 1]), ("userName", .strs ["", ""])]
      else none) = some m := h
    split at hreply
    · cases hreply
      refine ⟨fun v hv => ?_, ["", ""], rfl⟩
      cases hv
      exact ⟨[1, 1], rfl⟩
    · cases hreply
  sensorPath _ _ h := by cases h

/-- Three entries that ask for a power-off and an alert. -/
def threeEntries : List EvtFilterTblEntry := [entryFor 0x03, entryFor 0x03, entryFor 0x03]

/-- Power-offs and a trap stand behind failures that are handled.  Behind the power-off that
fails there is an alert, but one without a destination. -/
theorem handled_failures_isolated :
    (actionsOf (performPefActionIsolated false loggedCfg quietEvent [(1, "eth0")] threeEntries)
        failingEnv).map Call.action =
      [some (.power pwrCtlOff, 0), some (.power pwrCtlOff, 1), some (.snmp, 1),
        some (.power pwrCtlOff, 2)] ∧
    actionsOf (performPefAction false threeEntries quietEvent [(1, "eth0")] loggedCfg)
        failingEnv =
      actionsOf (performPefActionIsolated false loggedCfg quietEvent [(1, "eth0")] threeEntries)
        failingEnv := by
  refine ⟨by decide +kernel, ?_⟩
  exact (actions_isolated_iff failingEnv_wellTyped false loggedCfg quietEvent [(1, "eth0")]
    threeEntries).mpr (by decide +kernel)

/-- The power-off of the second entry is not attempted when that of the first
fails. -/
theorem power_failure_stops_next_entry :
    WellTyped Env.dead ∧
    actionsOf (performPefAction false [entryFor 0x02, entryFor 0x02] quietEvent [] loggedCfg)
        Env.dead ≠
      actionsOf (performPefActionIsolated false loggedCfg quietEvent []
        [entryFor 0x02, entryFor 0x02]) Env.dead := by
  refine ⟨dead_wellTyped, ?_⟩
  decide +kernel

end Pef
