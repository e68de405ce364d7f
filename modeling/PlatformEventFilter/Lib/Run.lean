/-
# `Lib.Run` — runs of a guarded transition function, and stores written behind

A transition function `step : σ → ε → Option σ` says which events are possible
in a state and what they lead to.

    runFrom step s es            the state after the events `es`
    Reached step s₀ es s         the run `es` passes through `s`
    Occurs step s₀ es s e s'     the run `es` takes the step `e` from `s` to `s'`

What holds at the start and is kept by every step that occurs holds of every
state reached (`Reached.induct`), also when it speaks of the events so far
(`runFrom.induct_history`); what a step brings about and the later ones keep
holds at the end (`Occurs.since`).

The second half is a pattern: a live state and a store that represents it, where
every change of the live state is queued and carried to the store later.  When
carrying a change over commutes with making it, the store with the queue applied
represents the live state at all times, whatever the interleaving.  And when the
live state is loaded from the store again at some point, with the changes pending
lost, what is loaded is a live state of before (`restarted_represents`), and what
changes and loads keep holds throughout (`restarted_keeps`).
-/
import Mathlib.Data.List.Induction

section Run

variable {σ ε : Type} {step : σ → ε → Option σ}

/-- The state after a list of events, when all of them are possible. -/
def runFrom (step : σ → ε → Option σ) : σ → List ε → Option σ
  | s, [] => some s
  | s, e :: es => (step s e).bind fun s' => runFrom step s' es

/-- The run from `s₀` over `es` passes through `s`. -/
def Reached (step : σ → ε → Option σ) (s₀ : σ) (es : List ε) (s : σ) : Prop :=
  ∃ pre post, es = pre ++ post ∧ runFrom step s₀ pre = some s

/-- The run from `s₀` over `es` takes the step `e` from `s` to `s'`. -/
def Occurs (step : σ → ε → Option σ) (s₀ : σ) (es : List ε) (s : σ) (e : ε) (s' : σ) : Prop :=
  ∃ pre post, es = pre ++ e :: post ∧ runFrom step s₀ pre = some s ∧ step s e = some s'

theorem runFrom_append (s : σ) (es es' : List ε) :
    runFrom step s (es ++ es') = (runFrom step s es).bind fun s' => runFrom step s' es' := by
  induction es generalizing s with
  | nil => rfl
  | cons e es ih =>
      simp only [List.cons_append, runFrom]
      cases step s e with
      | none => rfl
      | some s' => exact ih s'

theorem runFrom_snoc {s s' : σ} {es : List ε} (h : runFrom step s es = some s') (e : ε) :
    runFrom step s (es ++ [e]) = step s' e := by
  rw [runFrom_append, h]
  show (step s' e).bind some = _
  cases step s' e <;> rfl

theorem Reached.refl (s₀ : σ) (es : List ε) : Reached step s₀ es s₀ :=
  ⟨[], es, rfl, rfl⟩

theorem Reached.last {s₀ s : σ} {es : List ε} (h : runFrom step s₀ es = some s) :
    Reached step s₀ es s :=
  ⟨es, [], (List.append_nil es).symm, h⟩

theorem Occurs.taken {s₀ s s' : σ} {es : List ε} {e : ε} (h : Occurs step s₀ es s e s') :
    step s e = some s' := by
  obtain ⟨_, _, _, _, hstep⟩ := h
  exact hstep

theorem Occurs.reached {s₀ s s' : σ} {es : List ε} {e : ε} (h : Occurs step s₀ es s e s') :
    Reached step s₀ es s := by
  obtain ⟨pre, post, hes, hpre, -⟩ := h
  exact ⟨pre, e :: post, hes, hpre⟩

theorem Occurs.reached_after {s₀ s s' : σ} {es : List ε} {e : ε}
    (h : Occurs step s₀ es s e s') : Reached step s₀ es s' := by
  obtain ⟨pre, post, hes, hpre, hstep⟩ := h
  exact ⟨pre ++ [e], post, by simp [hes], by rw [runFrom_snoc hpre, hstep]⟩

theorem Occurs.mono {s₀ s s' : σ} {es es' : List ε} {e : ε} (h : Occurs step s₀ es s e s') :
    Occurs step s₀ (es ++ es') s e s' := by
  obtain ⟨pre, post, rfl, hpre, hstep⟩ := h
  exact ⟨pre, post ++ es', by simp, hpre, hstep⟩

theorem Occurs.singleton {s₀ s s' : σ} {e e' : ε} (h : Occurs step s₀ [e'] s e s') :
    s = s₀ ∧ e = e' := by
  obtain ⟨pre, post, hes, hpre, -⟩ := h
  cases pre with
  | nil =>
      cases hes
      exact ⟨(Option.some.inj hpre).symm, rfl⟩
  | cons e₁ pre =>
      have hnil := (List.cons.inj hes).2
      exact absurd hnil.symm (List.append_ne_nil_of_right_ne_nil pre (List.cons_ne_nil e post))

/-- What holds of the empty run, and extends along every step the run takes,
holds of the events before each state with that state. -/
theorem runFrom.induct_history {P : List ε → σ → Prop} {s₀ : σ} {es : List ε} (h₀ : P [] s₀)
    (hstep : ∀ pre e post s s', es = pre ++ e :: post → runFrom step s₀ pre = some s →
      step s e = some s' → P pre s → P (pre ++ [e]) s') :
    ∀ {pre post : List ε} {s : σ}, es = pre ++ post → runFrom step s₀ pre = some s → P pre s := by
  intro pre
  induction pre using List.reverseRecOn with
  | nil =>
      intro post s _ hrun
      exact Option.some.inj hrun ▸ h₀
  | append_singleton pre e ih =>
      intro post s hes hrun
      rw [runFrom_append] at hrun
      obtain ⟨m, hm, hlast⟩ := Option.bind_eq_some_iff.mp hrun
      have hes' : es = pre ++ e :: post := by rw [hes, List.append_assoc]; rfl
      have hnext : step m e = some s := by
        rw [← runFrom_snoc hm, runFrom_append, hm]
        exact hlast
      exact hstep pre e post m s hes' hm hnext (ih hes' hm)

/-- What holds at the start and is kept by every step the run takes holds of
every state it passes through. -/
theorem Reached.induct {P : σ → Prop} {s₀ : σ} {es : List ε} (h₀ : P s₀)
    (hstep : ∀ s e s', Occurs step s₀ es s e s' → P s → P s') {s : σ}
    (h : Reached step s₀ es s) : P s := by
  obtain ⟨pre, post, hes, hrun⟩ := h
  exact runFrom.induct_history (P := fun _ s => P s) h₀
    (fun pre e post s s' hes hrun hnext => hstep s e s' ⟨pre, post, hes, hrun, hnext⟩) hes hrun

/-- What a step brings about and every step the run takes keeps still holds at
the end. -/
theorem Occurs.since {P : σ → Prop} {s₀ s s' t : σ} {es : List ε} {e : ε}
    (h : Occurs step s₀ es s e s') (hs' : P s')
    (hstep : ∀ s e s', Occurs step s₀ es s e s' → P s → P s')
    (hrun : runFrom step s₀ es = some t) : P t := by
  have hrest : ∀ post pre u, es = pre ++ post → runFrom step s₀ pre = some u → P u →
      runFrom step u post = some t → P t := by
    intro post
    induction post with
    | nil =>
        intro pre u _ _ hu hend
        exact Option.some.inj hend ▸ hu
    | cons e post ih =>
        intro pre u hes hpre hu hend
        obtain ⟨u', hnext, hend⟩ := Option.bind_eq_some_iff.mp hend
        refine ih (pre ++ [e]) u' (by rw [hes, List.append_assoc]; rfl) ?_ ?_ hend
        · rw [runFrom_snoc hpre, hnext]
        · exact hstep u e u' ⟨pre, post, hes, hpre, hnext⟩ hu
  obtain ⟨pre, post, rfl, hpre, hnext⟩ := h
  have hafter : runFrom step s₀ (pre ++ [e]) = some s' := by rw [runFrom_snoc hpre, hnext]
  refine hrest post (pre ++ [e]) s' (by rw [List.append_assoc]; rfl) hafter hs' ?_
  rw [runFrom_append, hpre] at hrun
  simpa only [Option.bind_some, runFrom, hnext] using hrun

end Run

/-! ## A store written behind a live state -/

/-- A live state `σ`, a store `τ` that represents it, and changes `υ` that are
made to the live state at once and carried to the store later. -/
structure WriteBehind (σ τ υ : Type) where
  /-- The store stands for the live state. -/
  represents : τ → σ → Prop
  /-- The live state takes the change. -/
  accepts : σ → υ → Bool
  /-- The live state already is what the change makes of it. -/
  unchanged : σ → υ → Bool
  /-- The change made to the live state. -/
  update : σ → υ → σ
  /-- The change carried to the store. -/
  write : τ → υ → τ
  /-- Carrying a change over commutes with making it. -/
  commutes : ∀ {t s u}, represents t s → accepts s u → represents (write t u) (update s u)
  update_unchanged : ∀ {s u}, unchanged s u → update s u = s

namespace WriteBehind

variable {σ τ υ : Type}

/-- The live state, the changes not yet carried over, and the store. -/
structure State (σ τ υ : Type) where
  live : σ
  pending : List υ
  store : τ

/-- A change is made, and announced (it need not be when it changes nothing);
or the oldest change announced is carried over. -/
inductive Event (υ : Type) where
  | set (u : υ) (announced : Bool)
  | deliver

/-- One event. -/
def next (W : WriteBehind σ τ υ) (s : State σ τ υ) : Event υ → Option (State σ τ υ)
  | .set u announced =>
      if W.accepts s.live u && (announced || W.unchanged s.live u) then
        some { s with
          live := W.update s.live u
          pending := if announced then s.pending ++ [u] else s.pending }
      else none
  | .deliver => match s.pending with
      | [] => none
      | u :: us => some { s with pending := us, store := W.write s.store u }

/-- The store once everything pending has been carried over. -/
def settled (W : WriteBehind σ τ υ) (s : State σ τ υ) : τ := s.pending.foldl W.write s.store

theorem next_represents (W : WriteBehind σ τ υ) {s s' : State σ τ υ} {e : Event υ}
    (h : W.next s e = some s') (hs : W.represents (W.settled s) s.live) :
    W.represents (W.settled s') s'.live := by
  cases e with
  | set u announced =>
      simp only [next] at h
      split at h
      · next hacc =>
          cases h
          rw [Bool.and_eq_true] at hacc
          cases announced with
          | true =>
              simp only [settled, if_true, List.foldl_append, List.foldl_cons, List.foldl_nil]
              exact W.commutes hs hacc.1
          | false =>
              rw [W.update_unchanged (by simpa using hacc.2)]
              exact hs
      · cases h
  | deliver =>
      rcases s with ⟨live, _ | ⟨u, us⟩, store⟩
      · cases h
      · cases h; exact hs

/-- Whatever the interleaving, the settled store represents the live state. -/
theorem run_represents (W : WriteBehind σ τ υ) {s₀ s : State σ τ υ} {es : List (Event υ)}
    (h₀ : W.represents (W.settled s₀) s₀.live) (h : Reached W.next s₀ es s) :
    W.represents (W.settled s) s.live :=
  Reached.induct (P := fun s => W.represents (W.settled s) s.live) h₀
    (fun _ _ _ ho hs => by
      obtain ⟨_, _, _, _, hnext⟩ := ho
      exact W.next_represents hnext hs) h

/-! ### Restarts -/

/-- An event, or a restart. -/
inductive LifeEvent (υ : Type) where
  | event (e : Event υ)
  | restart

section Restarts

variable (W : WriteBehind σ τ υ) (load : τ → σ)

/-- One event; a restart loads the store and forgets what is pending. -/
def nextOrRestart (s : State σ τ υ) : LifeEvent υ → Option (State σ τ υ)
  | .event e => W.next s e
  | .restart => some ⟨load s.store, [], s.store⟩

/-- The changes are accepted one after the other, lead from one live state to the
other, and all states on the way have been live. -/
def Leads (visited : σ → Prop) : σ → List υ → σ → Prop
  | x, [], y => x = y
  | x, u :: us, y =>
      W.accepts x u = true ∧ visited (W.update x u) ∧ Leads visited (W.update x u) us y

variable {W load}

theorem Leads.mono {visited visited' : σ → Prop} (h : ∀ x, visited x → visited' x) :
    ∀ {us : List υ} {x y : σ}, W.Leads visited x us y → W.Leads visited' x us y
  | [], _, _, hleads => hleads
  | _ :: _, _, _, ⟨hacc, hvisited, hleads⟩ => ⟨hacc, h _ hvisited, hleads.mono h⟩

theorem Leads.snoc {visited : σ → Prop} {u : υ} :
    ∀ {us : List υ} {x y : σ}, W.Leads visited x us y → W.accepts y u = true →
      visited (W.update y u) → W.Leads visited x (us ++ [u]) (W.update y u)
  | [], _, _, rfl, hacc, hvisited => ⟨hacc, hvisited, rfl⟩
  | _ :: _, _, _, ⟨hacc', hvisited', hleads⟩, hacc, hvisited =>
      ⟨hacc', hvisited', hleads.snoc hacc hvisited⟩

/-- The live state of some point of the run. -/
def HasBeenLive (W : WriteBehind σ τ υ) (load : τ → σ) (s₀ : State σ τ υ)
    (es : List (LifeEvent υ)) (x : σ) : Prop :=
  ∃ s, Reached (W.nextOrRestart load) s₀ es s ∧ s.live = x

/-- The store stands for a state that has been live, from which the changes
pending lead to the state that is live now. -/
def StoresEarlier (W : WriteBehind σ τ υ) (load : τ → σ) (s₀ : State σ τ υ)
    (es : List (LifeEvent υ)) (s : State σ τ υ) : Prop :=
  ∃ x, W.HasBeenLive load s₀ es x ∧ W.represents s.store x ∧
    W.Leads (W.HasBeenLive load s₀ es) x s.pending s.live

theorem HasBeenLive.snoc {s₀ : State σ τ υ} {es : List (LifeEvent υ)} {x : σ} (e : LifeEvent υ)
    (h : W.HasBeenLive load s₀ es x) : W.HasBeenLive load s₀ (es ++ [e]) x := by
  obtain ⟨s, ⟨pre, post, rfl, hrun⟩, hx⟩ := h
  exact ⟨s, ⟨pre, post ++ [e], List.append_assoc _ _ _, hrun⟩, hx⟩

theorem storesEarlier_next {s₀ s s' : State σ τ υ} {es : List (LifeEvent υ)} {e : LifeEvent υ}
    (hload : ∀ {t x}, W.represents t x → W.represents t (load t))
    (hrun : runFrom (W.nextOrRestart load) s₀ es = some s)
    (hnext : W.nextOrRestart load s e = some s') (hs : W.StoresEarlier load s₀ es s) :
    W.StoresEarlier load s₀ (es ++ [e]) s' := by
  obtain ⟨x, hx, hrep, hleads⟩ := hs
  have hlive : W.HasBeenLive load s₀ (es ++ [e]) s'.live := by
    refine ⟨s', Reached.last ?_, rfl⟩
    rw [runFrom_snoc hrun, hnext]
  have hleads' := hleads.mono fun y hy => HasBeenLive.snoc e hy
  cases e with
  | restart =>
      cases hnext
      exact ⟨_, hlive, hload hrep, rfl⟩
  | event e =>
      cases e with
      | set u announced =>
          simp only [nextOrRestart, next] at hnext
          split at hnext
          · next hacc =>
              cases hnext
              rw [Bool.and_eq_true] at hacc
              refine ⟨x, hx.snoc _, hrep, ?_⟩
              cases announced with
              | true => exact hleads'.snoc hacc.1 hlive
              | false =>
                  have hsame : W.update s.live u = s.live :=
                    W.update_unchanged (by simpa using hacc.2)
                  rw [hsame]
                  exact hleads'
          · cases hnext
      | deliver =>
          obtain ⟨live, _ | ⟨u, us⟩, store⟩ := s
          · cases hnext
          · cases hnext
            -- the store catches up with the state after the oldest change
            obtain ⟨hacc, hvisited, hrest⟩ := hleads'
            exact ⟨W.update x u, hvisited, W.commutes hrep hacc, hrest⟩

/-- At every point of a run with restarts the store stands for a state that has
been live, and for the live state when nothing is pending. -/
theorem restarted_represents {live₀ : σ} {store₀ : τ} {s : State σ τ υ}
    {es : List (LifeEvent υ)} (hload : ∀ {t x}, W.represents t x → W.represents t (load t))
    (h₀ : W.represents store₀ live₀)
    (h : runFrom (W.nextOrRestart load) ⟨live₀, [], store₀⟩ es = some s) :
    ∃ x, W.HasBeenLive load ⟨live₀, [], store₀⟩ es x ∧ W.represents s.store x ∧
      (s.pending = [] → x = s.live) := by
  have hstart : W.StoresEarlier load ⟨live₀, [], store₀⟩ [] ⟨live₀, [], store₀⟩ :=
    ⟨live₀, ⟨_, Reached.refl _ _, rfl⟩, h₀, rfl⟩
  have hall : W.StoresEarlier load ⟨live₀, [], store₀⟩ es s :=
    runFrom.induct_history (P := fun es s => W.StoresEarlier load ⟨live₀, [], store₀⟩ es s) hstart
      (fun pre e post s s' _ hrun hnext hs => storesEarlier_next hload hrun hnext hs)
      (List.append_nil es).symm h
  obtain ⟨x, hx, hrep, hleads⟩ := hall
  refine ⟨x, hx, hrep, fun hp => ?_⟩
  rw [hp] at hleads
  exact hleads

theorem Leads.last {P : σ → Prop} :
    ∀ {us : List υ} {x y : σ}, W.Leads P x us y → P x → P y
  | [], _, _, rfl, hx => hx
  | _ :: _, _, _, ⟨_, hvisited, hleads⟩, _ => hleads.last hvisited

/-- A property of live states that the changes of a run keep, and that what is loaded has from
the state it is loaded for, holds at every point of a run with restarts: of the live
state, and of what a restart would load. -/
theorem restarted_keeps {P : σ → Prop} {live₀ : σ} {store₀ : τ} {s : State σ τ υ}
    {es : List (LifeEvent υ)} (hload : ∀ {t x}, W.represents t x → W.represents t (load t))
    (hset : ∀ {x u announced}, .event (.set u announced) ∈ es → W.accepts x u = true → P x →
      P (W.update x u))
    (hreload : ∀ {t x}, W.represents t x → P x → P (load t))
    (h₀ : W.represents store₀ live₀) (hlive₀ : P live₀)
    (h : Reached (W.nextOrRestart load) ⟨live₀, [], store₀⟩ es s) :
    P s.live ∧ P (load s.store) := by
  -- the store stands for a state with the property, and the changes pending keep it
  have hall : ∃ x, P x ∧ W.represents s.store x ∧ W.Leads P x s.pending s.live := by
    have hstart : W.Leads P live₀ [] live₀ := rfl
    refine Reached.induct
      (P := fun s => ∃ x, P x ∧ W.represents s.store x ∧ W.Leads P x s.pending s.live)
      ⟨live₀, hlive₀, h₀, hstart⟩ (fun s e s' hoccurs hs => ?_) h
    obtain ⟨x, hx, hrep, hleads⟩ := hs
    obtain ⟨pre, post, rfl, -, hnext⟩ := hoccurs
    cases e with
    | restart =>
        cases hnext
        exact ⟨load s.store, hreload hrep hx, hload hrep, rfl⟩
    | event e =>
        cases e with
        | set u announced =>
            simp only [nextOrRestart, next] at hnext
            split at hnext
            · next hacc =>
                cases hnext
                rw [Bool.and_eq_true] at hacc
                refine ⟨x, hx, hrep, ?_⟩
                cases announced with
                | true =>
                    have hmem : LifeEvent.event (.set u true) ∈
                        pre ++ .event (.set u true) :: post :=
                      List.mem_append_right pre List.mem_cons_self
                    exact hleads.snoc hacc.1 (hset hmem hacc.1 (hleads.last hx))
                | false =>
                    have hsame : W.update s.live u = s.live :=
                      W.update_unchanged (by simpa using hacc.2)
                    rw [hsame]
                    exact hleads
            · cases hnext
        | deliver =>
            obtain ⟨live, _ | ⟨u, us⟩, store⟩ := s
            · cases hnext
            · cases hnext
              obtain ⟨hacc, hvisited, hrest⟩ := hleads
              exact ⟨W.update x u, hvisited, W.commutes hrep hacc, hrest⟩
  obtain ⟨x, hx, hrep, hleads⟩ := hall
  exact ⟨hleads.last hx, hreload hrep hx⟩

end Restarts

end WriteBehind
