/-
# `Postpone` — the postpone timer, its signals and its countdown

The manager holds `ArmPEFPostponeTmr`, which clients write at any time; each
change is signalled to the filtering process.  There the callback of
`startArmPefPostponeTimerMonitor` counts down from the value signalled, one
decrement at a time and deaf to further signals meanwhile, and at the end sets
the property to 0, whatever it holds by then.

A countdown that is running, or that a signal on its way will start, is
outstanding.  A client is careful if it writes a value other than 0 only when
no countdown from another value is outstanding:

    expiry_of_own_value       as long as clients are careful, the property
                              changes under nobody but its own countdown
    careless_write_is_lost    a careless write can be undone by the countdown
                              of another value
-/
import PlatformEventFilter.Lib.Run
import PlatformEventFilter.Types

namespace Pef

/-! ## States and steps -/

/-- The callback: waiting for a signal, or counting down. -/
inductive Countdown where
  | idle
  | counting (started timer : U8)
  deriving DecidableEq, Repr

/-- The properties of the manager, the signals on their way, and the callback. -/
structure PostponeState where
  ArmPEFPostponeTmr : U8
  TmrCountdownValue : U8
  signals : List U8
  monitor : Countdown
  deriving DecidableEq, Repr

/-- As registered. -/
def PostponeState.initial : PostponeState := ⟨0, 0, [], .idle⟩

inductive PostponeEvent where
  /-- a client sets `ArmPEFPostponeTmr` -/
  | write (value : U8) (announced : Bool)
  /-- the callback is handed the oldest signal -/
  | deliver (sent : Bool)
  /-- one pass of the countdown loop -/
  | tick (sent : Bool)
  /-- the write after the loop -/
  | expire (sent announced : Bool)
  deriving DecidableEq, Repr

/-- A Set of `ArmPEFPostponeTmr`.  A change is signalled, the same value may be. -/
def PostponeState.setArm (s : PostponeState) (value : U8) (announced : Bool) :
    Option PostponeState :=
  if announced || s.ArmPEFPostponeTmr = value then
    some { s with
      ArmPEFPostponeTmr := value
      signals := if announced then s.signals ++ [value] else s.signals }
  else none

/-- A Set of `TmrCountdownValue`, which may fail. -/
def PostponeState.setCountdown (s : PostponeState) (value : U8) (sent : Bool) : PostponeState :=
  if sent then { s with TmrCountdownValue := value } else s

/-- One step of a client or of the callback. -/
def postponeStep (s : PostponeState) : PostponeEvent → Option PostponeState
  | .write value announced => s.setArm value announced
  | .deliver sent =>
      match s.monitor, s.signals with
      | .idle, timer :: signals =>
          if timer = 0x00 ∨ timer = 0xFF then some { s with signals := signals }
          else if timer = 0xFE then
            some (PostponeState.setCountdown { s with signals := signals } timer sent)
          else some { s with signals := signals, monitor := .counting timer timer }
      | _, _ => none
  | .tick sent =>
      match s.monitor with
      | .counting started timer =>
          if timer ≠ 0 then
            some (PostponeState.setCountdown { s with monitor := .counting started (timer - 1) }
              (timer - 1) sent)
          else none
      | .idle => none
  | .expire sent announced =>
      match s.monitor with
      | .counting _ timer =>
          if timer = 0 then
            -- not compared with the value the countdown was started with
            if sent then PostponeState.setArm { s with monitor := .idle } timer announced
            else some { s with monitor := .idle }
          else none
      | .idle => none

def PostponeEvent.isWrite : PostponeEvent → Bool
  | .write .. => true
  | _ => false

/-! ## Outstanding countdowns -/

/-- A signal with this value starts a countdown. -/
def startsCountdown (value : U8) : Bool := value ≠ 0x00 && value ≠ 0xFF && value ≠ 0xFE

theorem startsCountdown_of_ne {timer : U8} (hignored : ¬(timer = 0x00 ∨ timer = 0xFF))
    (hdisable : timer ≠ 0xFE) : startsCountdown timer = true := by
  obtain ⟨hzero, hnone⟩ := not_or.mp hignored
  rw [startsCountdown, Bool.and_eq_true, Bool.and_eq_true]
  exact ⟨⟨decide_eq_true hzero, decide_eq_true hnone⟩, decide_eq_true hdisable⟩

/-- The values of the countdowns running or on their way. -/
def PostponeState.outstanding (s : PostponeState) : List U8 :=
  (match s.monitor with
    | .idle => []
    | .counting started _ => [started]) ++ s.signals.filter startsCountdown

/-- The write finds no countdown from another value outstanding. -/
def Careful (s : PostponeState) (value : U8) : Prop :=
  value = 0 ∨ ∀ v ∈ s.outstanding, v = value

/-- The property is 0, or all outstanding countdowns are from its value. -/
def OwnCountdowns (s : PostponeState) : Prop :=
  s.ArmPEFPostponeTmr = 0 ∨ ∀ v ∈ s.outstanding, v = s.ArmPEFPostponeTmr

/-! ## What a step does -/

theorem setArm_eq_some {s s' : PostponeState} {value : U8} {announced : Bool}
    (h : s.setArm value announced = some s') :
    s' = { s with
      ArmPEFPostponeTmr := value
      signals := if announced then s.signals ++ [value] else s.signals } := by
  unfold PostponeState.setArm at h
  split at h
  · exact (Option.some.inj h).symm
  · cases h

@[simp] theorem setCountdown_arm (s : PostponeState) (value : U8) (sent : Bool) :
    (s.setCountdown value sent).ArmPEFPostponeTmr = s.ArmPEFPostponeTmr := by
  cases sent <;> rfl

@[simp] theorem setCountdown_outstanding (s : PostponeState) (value : U8) (sent : Bool) :
    (s.setCountdown value sent).outstanding = s.outstanding := by
  cases sent <;> rfl

theorem outstanding_setArm {s s' : PostponeState} {value : U8} {announced : Bool}
    (h : s.setArm value announced = some s') {v : U8} (hv : v ∈ s'.outstanding) :
    v ∈ s.outstanding ∨ v = value := by
  rw [setArm_eq_some h] at hv
  cases announced with
  | false => exact Or.inl hv
  | true =>
      rcases List.mem_append.mp hv with hv | hv
      · exact Or.inl (List.mem_append_left _ hv)
      · obtain ⟨hmem, hstarts⟩ := List.mem_filter.mp hv
        rcases List.mem_append.mp hmem with hmem | hmem
        · exact Or.inl (List.mem_append_right _ (List.mem_filter.mpr ⟨hmem, hstarts⟩))
        · exact Or.inr (List.mem_singleton.mp hmem)

theorem outstanding_setArm_of_mem {s s' : PostponeState} {value : U8} {announced : Bool}
    (h : s.setArm value announced = some s') {v : U8} (hv : v ∈ s.outstanding) :
    v ∈ s'.outstanding := by
  rw [setArm_eq_some h]
  cases announced with
  | false => exact hv
  | true =>
      rcases List.mem_append.mp hv with hv | hv
      · exact List.mem_append_left _ hv
      · obtain ⟨hmem, hstarts⟩ := List.mem_filter.mp hv
        exact List.mem_append_right _
          (List.mem_filter.mpr ⟨List.mem_append_left _ hmem, hstarts⟩)

/-- A step of the callback that is no expiry leaves the property alone, and
nothing new outstanding. -/
theorem step_quiet {s s' : PostponeState} {e : PostponeEvent} (h : postponeStep s e = some s')
    (hwrite : e.isWrite = false) (hexpire : ∀ sent announced, e ≠ .expire sent announced) :
    s'.ArmPEFPostponeTmr = s.ArmPEFPostponeTmr ∧ ∀ v ∈ s'.outstanding, v ∈ s.outstanding := by
  cases e with
  | write value announced => cases hwrite
  | expire sent announced => exact absurd rfl (hexpire sent announced)
  | deliver sent =>
      obtain ⟨arm, countdown, signals, monitor⟩ := s
      cases monitor with
      | counting started timer => cases h
      | idle =>
          cases signals with
          | nil => cases h
          | cons timer signals =>
              simp only [postponeStep] at h
              split at h
              · cases h
                refine ⟨rfl, fun v hv => ?_⟩
                obtain ⟨hmem, hstarts⟩ := List.mem_filter.mp hv
                exact List.mem_filter.mpr ⟨List.mem_cons_of_mem _ hmem, hstarts⟩
              · next hignored =>
                  split at h
                  · cases h
                    refine ⟨setCountdown_arm .., fun v hv => ?_⟩
                    rw [setCountdown_outstanding] at hv
                    obtain ⟨hmem, hstarts⟩ := List.mem_filter.mp hv
                    exact List.mem_filter.mpr ⟨List.mem_cons_of_mem _ hmem, hstarts⟩
                  · next hdisable =>
                      cases h
                      refine ⟨rfl, fun v hv => ?_⟩
                      have hstarts := startsCountdown_of_ne hignored hdisable
                      have hsame : PostponeState.outstanding ⟨arm, countdown, timer :: signals, .idle⟩ =
                          timer :: signals.filter startsCountdown :=
                        List.filter_cons_of_pos hstarts
                      rw [hsame]
                      exact hv
  | tick sent =>
      obtain ⟨arm, countdown, signals, monitor⟩ := s
      cases monitor with
      | idle => cases h
      | counting started timer =>
          simp only [postponeStep] at h
          split at h
          · cases h
            refine ⟨setCountdown_arm .., fun v hv => ?_⟩
            rw [setCountdown_outstanding] at hv
            exact hv
          · cases h

theorem step_expire {s s' : PostponeState} {sent announced : Bool}
    (h : postponeStep s (.expire sent announced) = some s') :
    (∃ started, s.monitor = .counting started 0) ∧
      (s'.ArmPEFPostponeTmr = 0 ∨ s'.ArmPEFPostponeTmr = s.ArmPEFPostponeTmr ∧
        ∀ v ∈ s'.outstanding, v ∈ s.outstanding) := by
  obtain ⟨arm, countdown, signals, monitor⟩ := s
  cases monitor with
  | idle => cases h
  | counting started timer =>
      simp only [postponeStep] at h
      split at h
      · next hzero =>
          subst hzero
          refine ⟨⟨started, rfl⟩, ?_⟩
          cases sent with
          | true => exact Or.inl (by rw [setArm_eq_some h])
          | false =>
              cases h
              exact Or.inr ⟨rfl, fun v hv => List.mem_cons_of_mem _ hv⟩
      · cases h

/-! ## Careful clients -/

/-- A step keeps the outstanding countdowns those of the property, if a write
is careful. -/
theorem ownCountdowns_step {s s' : PostponeState} {e : PostponeEvent}
    (h : postponeStep s e = some s') (hown : OwnCountdowns s)
    (hcareful : ∀ value announced, e = .write value announced → Careful s value) :
    OwnCountdowns s' := by
  have hquiet : s'.ArmPEFPostponeTmr = s.ArmPEFPostponeTmr →
      (∀ v ∈ s'.outstanding, v ∈ s.outstanding) → OwnCountdowns s' := by
    intro harm hout
    rw [OwnCountdowns, harm]
    exact hown.imp id fun hall v hv => hall v (hout v hv)
  cases e with
  | write value announced =>
      have hvalue : s'.ArmPEFPostponeTmr = value := by rw [setArm_eq_some h]
      rw [OwnCountdowns, hvalue]
      refine (hcareful value announced rfl).imp id fun hall v hv => ?_
      exact (outstanding_setArm h hv).elim (hall v) id
  | expire sent announced =>
      rcases (step_expire h).2 with hzero | ⟨harm, hout⟩
      · exact Or.inl hzero
      · exact hquiet harm hout
  | deliver sent =>
      obtain ⟨harm, hout⟩ := step_quiet h rfl fun _ _ h => nomatch h
      exact hquiet harm hout
  | tick sent =>
      obtain ⟨harm, hout⟩ := step_quiet h rfl fun _ _ h => nomatch h
      exact hquiet harm hout

/-- In every run in which all client writes are careful, a step that changes
the property is a client write, or the expiry of a countdown that was started
by the value the property still holds. -/
theorem expiry_of_own_value {es : List PostponeEvent}
    (hcareful : ∀ s value announced s',
      Occurs postponeStep .initial es s (.write value announced) s' → Careful s value)
    {s s' : PostponeState} {e : PostponeEvent} (h : Occurs postponeStep .initial es s e s')
    (hchange : s'.ArmPEFPostponeTmr ≠ s.ArmPEFPostponeTmr) :
    e.isWrite = true ∨
      (∃ sent announced, e = .expire sent announced) ∧
        s.monitor = .counting s.ArmPEFPostponeTmr 0 := by
  have hown : OwnCountdowns s := by
    refine Reached.induct (P := OwnCountdowns) (Or.inl rfl) (fun s e s' ho hs => ?_) h.reached
    obtain ⟨_, _, _, _, hstep⟩ := id ho
    exact ownCountdowns_step hstep hs fun value announced he =>
      hcareful s value announced s' (he ▸ ho)
  obtain ⟨_, _, _, _, hstep⟩ := h
  cases e with
  | write value announced => exact Or.inl rfl
  | expire sent announced =>
      obtain ⟨⟨started, hmonitor⟩, hset⟩ := step_expire hstep
      refine Or.inr ⟨⟨sent, announced, rfl⟩, ?_⟩
      have hzero : s'.ArmPEFPostponeTmr = 0 := hset.resolve_right fun hkeep => hchange hkeep.1
      rcases hown with harm | hall
      · exact absurd (hzero.trans harm.symm) hchange
      · have hmem : started ∈ s.outstanding := by
          rw [PostponeState.outstanding, hmonitor]
          exact List.mem_cons_self
        rw [hmonitor, hall started hmem]
  | deliver sent =>
      exact absurd (step_quiet hstep rfl fun _ _ h => nomatch h).1 hchange
  | tick sent =>
      exact absurd (step_quiet hstep rfl fun _ _ h => nomatch h).1 hchange

/-- A countdown from 1, and 1 written again while it runs. -/
def renewedRun : List PostponeEvent :=
  [.write 1 true, .deliver true, .write 1 true, .tick true, .expire true true]

theorem renewedRun_careful (s : PostponeState) (value : U8) (announced : Bool)
    (s' : PostponeState)
    (h : Occurs postponeStep .initial renewedRun s (.write value announced) s') :
    Careful s value := by
  obtain ⟨pre, post, hes, hpre, -⟩ := h
  rcases pre with _ | ⟨_, _ | ⟨_, _ | ⟨_, pre⟩⟩⟩
  · cases hpre
    exact .inr fun v hv => nomatch hv
  · cases hes
  · -- the second write finds the countdown from its own value
    cases hes
    cases hpre
    exact .inr fun v hv => List.mem_singleton.mp hv
  · have hmem : PostponeEvent.write value announced ∈ [.tick true, .expire true true] := by
      rw [(List.cons.inj (List.cons.inj (List.cons.inj hes).2).2).2]
      exact List.mem_append_right _ List.mem_cons_self
    simp at hmem

/-- There every write is careful, and the expiry that sets the property back is that of a
countdown from 1. -/
theorem expiry_of_own_value_renewed :
    (∀ s value announced s',
      Occurs postponeStep .initial renewedRun s (.write value announced) s' → Careful s value) ∧
    ∃ s s', Occurs postponeStep .initial renewedRun s (.expire true true) s' ∧
      s.ArmPEFPostponeTmr = 1 ∧ s'.ArmPEFPostponeTmr = 0 ∧
      s.monitor = .counting s.ArmPEFPostponeTmr 0 := by
  have hexpiry : Occurs postponeStep .initial renewedRun ⟨1, 0, [1], .counting 1 0⟩
      (.expire true true) ⟨0, 0, [1, 0], .idle⟩ :=
    ⟨[.write 1 true, .deliver true, .write 1 true, .tick true], [], rfl, rfl, rfl⟩
  refine ⟨renewedRun_careful, _, _, hexpiry, rfl, rfl, ?_⟩
  rcases expiry_of_own_value renewedRun_careful hexpiry (by decide) with hwrite | ⟨-, hmonitor⟩
  · cases hwrite
  · exact hmonitor

/-- PEF is disabled while a countdown from 1 is running, and its expiry undoes
that. -/
theorem disable_is_lost :
    ¬∀ (es : List PostponeEvent) (s s' : PostponeState) (e : PostponeEvent),
      Occurs postponeStep .initial es s e s' → s'.ArmPEFPostponeTmr ≠ s.ArmPEFPostponeTmr →
        e.isWrite = true ∨
          (∃ sent announced, e = .expire sent announced) ∧
            s.monitor = .counting s.ArmPEFPostponeTmr 0 := by
  intro h
  have hrun : Occurs postponeStep .initial
      [.write 1 true, .deliver true, .write 0xFE true, .tick true, .expire true true]
      ⟨0xFE, 0, [0xFE], .counting 1 0⟩ (.expire true true) ⟨0, 0, [0xFE, 0], .idle⟩ :=
    ⟨[.write 1 true, .deliver true, .write 0xFE true, .tick true], [], rfl, rfl, rfl⟩
  rcases h _ _ _ _ hrun (by decide) with hwrite | ⟨-, hmonitor⟩
  · cases hwrite
  · cases hmonitor

/-! ## Careless clients -/

/-- The callback alone can get from `s` to `s'`. -/
def LeadsTo (s s' : PostponeState) : Prop :=
  ∃ es, (∀ e ∈ es, PostponeEvent.isWrite e = false) ∧ runFrom postponeStep s es = some s'

theorem LeadsTo.refl (s : PostponeState) : LeadsTo s s :=
  ⟨[], fun _ he => (nomatch he), rfl⟩

theorem LeadsTo.head {s s' s'' : PostponeState} {e : PostponeEvent} (hwrite : e.isWrite = false)
    (h : postponeStep s e = some s') (h' : LeadsTo s' s'') : LeadsTo s s'' := by
  obtain ⟨es, hes, hrun⟩ := h'
  refine ⟨e :: es, ?_, ?_⟩
  · intro e' he'
    rcases List.mem_cons.mp he' with rfl | he'
    · exact hwrite
    · exact hes e' he'
  · rw [runFrom, h]
    exact hrun

theorem LeadsTo.trans {s s' s'' : PostponeState} (h : LeadsTo s s') (h' : LeadsTo s' s'') :
    LeadsTo s s'' := by
  obtain ⟨es, hes, hrun⟩ := h
  induction es generalizing s with
  | nil => exact Option.some.inj hrun ▸ h'
  | cons e es ih =>
      obtain ⟨s₁, hstep, hrest⟩ := Option.bind_eq_some_iff.mp hrun
      exact LeadsTo.head (hes e List.mem_cons_self) hstep
        (ih (fun e' he' => hes e' (List.mem_cons_of_mem _ he')) hrest)

theorem counts_down (arm countdown : U8) (signals : List U8) (started timer : U8) :
    LeadsTo ⟨arm, countdown, signals, .counting started timer⟩
      ⟨arm, countdown, signals, .counting started 0⟩ := by
  -- by induction on the timer
  induction hn : timer.toNat generalizing timer with
  | zero =>
      have hzero : timer = 0 := BitVec.eq_of_toNat_eq hn
      subst hzero
      exact LeadsTo.refl _
  | succ n ih =>
      have hne : timer ≠ 0 := by
        intro h
        subst h
        cases hn
      have hpred : (timer - 1).toNat = n := by bv_omega
      have htick : postponeStep ⟨arm, countdown, signals, .counting started timer⟩ (.tick false) =
          some ⟨arm, countdown, signals, .counting started (timer - 1)⟩ := if_pos hne
      exact LeadsTo.head rfl htick (ih (timer - 1) hpred)

theorem not_startsCountdown {timer : U8} (h : ¬startsCountdown timer = true) :
    (timer = 0x00 ∨ timer = 0xFF) ∨ timer = 0xFE := by
  by_contra hnot
  obtain ⟨hignored, hdisable⟩ := not_or.mp hnot
  exact h (startsCountdown_of_ne hignored hdisable)

theorem deliver_counts_down {timer : U8} (h : startsCountdown timer = true)
    (arm countdown : U8) (signals : List U8) :
    LeadsTo ⟨arm, countdown, timer :: signals, .idle⟩
      ⟨arm, countdown, signals, .counting timer 0⟩ := by
  rw [startsCountdown, Bool.and_eq_true, Bool.and_eq_true] at h
  obtain ⟨⟨hzero, hnone⟩, hdisable⟩ := h
  have hignored : ¬(timer = 0x00 ∨ timer = 0xFF) :=
    not_or.mpr ⟨of_decide_eq_true hzero, of_decide_eq_true hnone⟩
  have hdeliver : postponeStep ⟨arm, countdown, timer :: signals, .idle⟩ (.deliver false) =
      some ⟨arm, countdown, signals, .counting timer timer⟩ :=
    (if_neg hignored).trans (if_neg (of_decide_eq_true hdisable))
  exact LeadsTo.head rfl hdeliver (counts_down _ _ _ _ _)

theorem signal_passes (arm countdown timer : U8) (signals : List U8) :
    LeadsTo ⟨arm, countdown, timer :: signals, .idle⟩ ⟨arm, countdown, signals, .idle⟩ := by
  by_cases h : startsCountdown timer = true
  · exact (deliver_counts_down h arm countdown signals).trans
      (LeadsTo.head (e := .expire false false) rfl rfl (LeadsTo.refl _))
  · have hdeliver : postponeStep ⟨arm, countdown, timer :: signals, .idle⟩ (.deliver false) =
        some ⟨arm, countdown, signals, .idle⟩ := by
      by_cases hignored : timer = 0x00 ∨ timer = 0xFF
      · exact if_pos hignored
      · exact (if_neg hignored).trans (if_pos ((not_startsCountdown h).resolve_left hignored))
    exact LeadsTo.head rfl hdeliver (LeadsTo.refl _)

theorem signals_pass (arm countdown : U8) (pre signals : List U8) :
    LeadsTo ⟨arm, countdown, pre ++ signals, .idle⟩ ⟨arm, countdown, signals, .idle⟩ := by
  induction pre with
  | nil => exact LeadsTo.refl _
  | cons timer pre ih => exact (signal_passes arm countdown timer (pre ++ signals)).trans ih

theorem outstanding_leadsTo {s : PostponeState} {v : U8} (h : v ∈ s.outstanding) :
    ∃ signals, LeadsTo s { s with signals := signals, monitor := .counting v 0 } := by
  obtain ⟨arm, countdown, signals, monitor⟩ := s
  have hpending : v ∈ signals.filter startsCountdown → ∃ signals',
      LeadsTo ⟨arm, countdown, signals, .idle⟩ ⟨arm, countdown, signals', .counting v 0⟩ := by
    intro hmem
    obtain ⟨hmem, hstarts⟩ := List.mem_filter.mp hmem
    obtain ⟨pre, post, rfl⟩ := List.append_of_mem hmem
    exact ⟨post, (signals_pass arm countdown pre (v :: post)).trans
      (deliver_counts_down hstarts arm countdown post)⟩
  cases monitor with
  | idle => exact hpending h
  | counting started timer =>
      rcases List.mem_cons.mp h with rfl | h
      · exact ⟨signals, counts_down arm countdown signals v timer⟩
      · obtain ⟨signals', hrest⟩ := hpending h
        have hfails : LeadsTo ⟨arm, countdown, signals, .counting started 0⟩
            ⟨arm, countdown, signals, .idle⟩ :=
          LeadsTo.head (e := .expire false false) rfl rfl (LeadsTo.refl _)
        exact ⟨signals', (counts_down arm countdown signals started timer).trans
          (hfails.trans hrest)⟩

/-- After a write that is not careful, with no further write by a client, the
countdown of another value may end and set the property to 0. -/
theorem careless_write_is_lost {s s' : PostponeState} {value : U8} {announced : Bool}
    (h : postponeStep s (.write value announced) = some s') (hcareless : ¬Careful s value) :
    ∃ v s₁ s₂, v ≠ value ∧ LeadsTo s' s₁ ∧ s₁.monitor = .counting v 0 ∧
      s₁.ArmPEFPostponeTmr = value ∧ postponeStep s₁ (.expire true true) = some s₂ ∧
      s₂.ArmPEFPostponeTmr ≠ value := by
  obtain ⟨hvalue, hother⟩ := not_or.mp hcareless
  obtain ⟨v, hother⟩ := not_forall.mp hother
  obtain ⟨hmem, hne⟩ := Classical.not_imp.mp hother
  have harm : s'.ArmPEFPostponeTmr = value := by rw [setArm_eq_some h]
  obtain ⟨signals, hleads⟩ := outstanding_leadsTo (outstanding_setArm_of_mem h hmem)
  exact ⟨v, _, _, hne, hleads, rfl, harm, rfl, fun hzero => hvalue hzero.symm⟩

end Pef
