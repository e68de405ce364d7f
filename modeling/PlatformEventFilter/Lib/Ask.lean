/-
# `Lib.Ask` — computations that ask an environment, with exceptions

A computation of type `Ask A E α` puts questions of type `Q` to an environment
that answers question `q` with a value of type `A q`.  It ends with a result of
type `α` or with an exception of type `E`, and what it asked on the way is
kept, in order.

    asked p env      the questions `p` puts to `env`
    outcome p env    how `p` ends

Quantifying over the environment is quantifying over every pattern of answers,
because each individual call of a program is a question of its own.

`filter_asked_inRow_iff` compares two ways of running a list of computations:
in a row, where the first exception ends everything, and each under a handler
of its own.
-/
import Mathlib.Data.List.Basic

universe u v

/-- A computation that asks an environment and may end in an exception. -/
def Ask {Q : Type u} (A : Q → Type u) (E α : Type u) : Type u :=
  ((q : Q) → A q) → List Q × Except E α

namespace Ask

variable {Q : Type u} {A : Q → Type u} {E α β : Type u}

/-- The questions put to the environment, in order. -/
def asked (p : Ask A E α) (env : (q : Q) → A q) : List Q := (p env).1

/-- How the computation ends. -/
def outcome (p : Ask A E α) (env : (q : Q) → A q) : Except E α := (p env).2

/-- Put one question. -/
def ask (q : Q) : Ask A E (A q) := fun env => ([q], .ok (env q))

/-- End with an exception. -/
def raise (e : E) : Ask A E α := fun _ => ([], .error e)

/-- Run `p`, then `f` on its result. -/
def andThen (p : Ask A E α) (f : α → Ask A E β) : Ask A E β := fun env =>
  match p env with
  | (t, .ok a) => (t ++ (f a env).1, (f a env).2)
  | (t, .error e) => (t, .error e)

instance : Monad (Ask A E) where
  pure a := fun _ => ([], .ok a)
  bind := andThen

/-- Run `p`; an exception on which `h` is defined is handled by `h`, any other
passes through. -/
def catching (p : Ask A E α) (h : E → Option (Ask A E α)) : Ask A E α := fun env =>
  match p env with
  | (t, .ok a) => (t, .ok a)
  | (t, .error e) =>
      match h e with
      | none => (t, .error e)
      | some k => (t ++ (k env).1, (k env).2)

/-- Run `f` on the members of a list in order, with their positions. -/
def forIdx (f : Nat → α → Ask A E PUnit) : List α → Nat → Ask A E PUnit
  | [], _ => pure ⟨⟩
  | x :: xs, i => do f i x; forIdx f xs (i + 1)

/-- Run `f` on the members of a list in order, with their positions, and join
the lists it returns. -/
def collectIdx (f : Nat → α → Ask A E (List β)) : List α → Nat → Ask A E (List β)
  | [], _ => pure []
  | x :: xs, i => do
      let ys ← f i x
      let zs ← collectIdx f xs (i + 1)
      pure (ys ++ zs)

/-! ## What is asked, and how it ends, combinator by combinator -/

section Equations

variable (env : (q : Q) → A q)

@[simp] theorem asked_pure (a : α) : asked (pure a : Ask A E α) env = [] := rfl

@[simp] theorem outcome_pure (a : α) : outcome (pure a : Ask A E α) env = .ok a := rfl

@[simp] theorem asked_ask (q : Q) : asked (ask q : Ask A E (A q)) env = [q] := rfl

@[simp] theorem outcome_ask (q : Q) : outcome (ask q : Ask A E (A q)) env = .ok (env q) := rfl

@[simp] theorem asked_raise (e : E) : asked (raise e : Ask A E α) env = [] := rfl

@[simp] theorem outcome_raise (e : E) : outcome (raise e : Ask A E α) env = .error e := rfl

theorem asked_bind (p : Ask A E α) (f : α → Ask A E β) :
    asked (p >>= f) env = asked p env ++
      match outcome p env with
      | .ok a => asked (f a) env
      | .error _ => [] := by
  show (andThen p f env).1 = _
  unfold andThen asked outcome
  rcases p env with ⟨t, a | a⟩ <;> simp

theorem outcome_bind (p : Ask A E α) (f : α → Ask A E β) :
    outcome (p >>= f) env =
      match outcome p env with
      | .ok a => outcome (f a) env
      | .error e => .error e := by
  show (andThen p f env).2 = _
  unfold andThen outcome
  rcases p env with ⟨t, a | a⟩ <;> rfl

theorem asked_bind_ok {p : Ask A E α} {f : α → Ask A E β} {a : α}
    (h : outcome p env = .ok a) :
    asked (p >>= f) env = asked p env ++ asked (f a) env := by
  rw [asked_bind, h]

theorem outcome_bind_ok {p : Ask A E α} {f : α → Ask A E β} {a : α}
    (h : outcome p env = .ok a) :
    outcome (p >>= f) env = outcome (f a) env := by
  rw [outcome_bind, h]

theorem asked_bind_error {p : Ask A E α} {f : α → Ask A E β} {e : E}
    (h : outcome p env = .error e) : asked (p >>= f) env = asked p env := by
  rw [asked_bind, h, List.append_nil]

theorem outcome_bind_error {p : Ask A E α} {f : α → Ask A E β} {e : E}
    (h : outcome p env = .error e) : outcome (p >>= f) env = .error e := by
  rw [outcome_bind, h]

theorem outcome_bind_eq_ok {p : Ask A E α} {f : α → Ask A E β} {b : β}
    (h : outcome (p >>= f) env = .ok b) :
    ∃ a, outcome p env = .ok a ∧ outcome (f a) env = .ok b := by
  rw [outcome_bind] at h
  cases hp : outcome p env with
  | ok a => exact ⟨a, rfl, by rwa [hp] at h⟩
  | error e => rw [hp] at h; cases h

@[simp] theorem asked_ask_bind (q : Q) (f : A q → Ask A E β) :
    asked (ask q >>= f) env = q :: asked (f (env q)) env := by
  rw [asked_bind]; rfl

@[simp] theorem outcome_ask_bind (q : Q) (f : A q → Ask A E β) :
    outcome (ask q >>= f) env = outcome (f (env q)) env := by
  rw [outcome_bind]; rfl

@[simp] theorem asked_pure_bind (a : α) (f : α → Ask A E β) :
    asked (pure a >>= f) env = asked (f a) env := by
  rw [asked_bind]; rfl

@[simp] theorem outcome_pure_bind (a : α) (f : α → Ask A E β) :
    outcome (pure a >>= f) env = outcome (f a) env := by
  rw [outcome_bind]; rfl

theorem asked_catching (p : Ask A E α) (h : E → Option (Ask A E α)) :
    asked (catching p h) env = asked p env ++
      match outcome p env with
      | .ok _ => []
      | .error e => match h e with
          | none => []
          | some k => asked k env := by
  simp only [catching, asked, outcome]
  rcases p env with ⟨t, e | a⟩
  · cases hk : h e <;> simp [hk]
  · simp

theorem outcome_catching (p : Ask A E α) (h : E → Option (Ask A E α)) :
    outcome (catching p h) env =
      match outcome p env with
      | .ok a => .ok a
      | .error e => match h e with
          | none => .error e
          | some k => outcome k env := by
  simp only [catching, outcome]
  rcases p env with ⟨t, e | a⟩
  · cases hk : h e <;> simp [hk]
  · rfl

theorem outcome_catching_toOption (p : Ask A E α) :
    outcome (catching (do let a ← p; pure (some a)) fun _ => some (pure none)) env =
      .ok (outcome p env).toOption := by
  rw [outcome_catching]
  cases h : outcome p env with
  | error e => rw [outcome_bind_error env h]; rfl
  | ok a => rw [outcome_bind_ok env h]; rfl

theorem outcome_collectIdx {f : Nat → α → Ask A E (List β)} {g : α → List β} :
    ∀ {xs : List α} {i : Nat}, (∀ j, ∀ x ∈ xs, outcome (f j x) env = .ok (g x)) →
      outcome (collectIdx f xs i) env = .ok (xs.flatMap g)
  | [], _, _ => rfl
  | x :: xs, i, h => by
      have hx := h i x List.mem_cons_self
      have hxs : outcome (collectIdx f xs (i + 1)) env = .ok (xs.flatMap g) :=
        outcome_collectIdx fun j y hy => h j y (List.mem_cons_of_mem _ hy)
      rw [collectIdx, outcome_bind_ok env hx, outcome_bind_ok env hxs, outcome_pure,
        List.flatMap_cons]

theorem outcome_collectIdx_zipIdx {f : Nat → α → Ask A E (List β)} {g : Nat → α → List β}
    (h : ∀ j x, outcome (f j x) env = .ok (g j x)) :
    ∀ {xs : List α} {i : Nat},
      outcome (collectIdx f xs i) env = .ok ((xs.zipIdx i).flatMap fun p => g p.2 p.1)
  | [], _ => rfl
  | x :: xs, i => by
      have hxs : outcome (collectIdx f xs (i + 1)) env =
          .ok ((xs.zipIdx (i + 1)).flatMap fun p => g p.2 p.1) := outcome_collectIdx_zipIdx h
      rw [collectIdx, outcome_bind_ok env (h i x), outcome_bind_ok env hxs, outcome_pure,
        List.zipIdx_cons, List.flatMap_cons]

theorem collectIdx_map {γ : Type u} (f : Nat → α → Ask A E (List β)) (h : γ → α) :
    ∀ (xs : List γ) (i : Nat), collectIdx f (xs.map h) i = collectIdx (fun j x => f j (h x)) xs i
  | [], _ => rfl
  | x :: xs, i => by rw [List.map_cons, collectIdx, collectIdx_map f h xs, collectIdx]

theorem mem_of_outcome_collectIdx {f : Nat → α → Ask A E (List β)} {z : β} :
    ∀ {xs : List α} {i : Nat} {zs : List β}, outcome (collectIdx f xs i) env = .ok zs → z ∈ zs →
      ∃ j x ys, xs[j]? = some x ∧ outcome (f (i + j) x) env = .ok ys ∧ z ∈ ys
  | [], _, _, h, hz => by
      cases h
      exact absurd hz List.not_mem_nil
  | x :: xs, i, zs, h, hz => by
      obtain ⟨ys, hys, h⟩ := outcome_bind_eq_ok env h
      obtain ⟨zs', hzs', h⟩ := outcome_bind_eq_ok env h
      cases h
      rcases List.mem_append.mp hz with hz | hz
      · exact ⟨0, x, ys, rfl, hys, hz⟩
      · obtain ⟨j, y, ys', hj, hys', hz'⟩ := mem_of_outcome_collectIdx hzs' hz
        refine ⟨j + 1, y, ys', hj, ?_, hz'⟩
        rwa [show i + (j + 1) = i + 1 + j by omega]

end Equations

/-! ## Computations that agree in an environment -/

section Agree

variable {env : (q : Q) → A q}

theorem bind_assoc {γ : Type u} (p : Ask A E α) (f : α → Ask A E β) (g : β → Ask A E γ) :
    p >>= f >>= g = p >>= fun a => f a >>= g := by
  funext env
  refine Prod.ext ?_ ?_
  · show asked _ env = asked _ env
    rw [asked_bind, asked_bind, outcome_bind, asked_bind]
    cases outcome p env with
    | ok a =>
        dsimp only
        rw [asked_bind, List.append_assoc]
    | error e => exact List.append_nil _
  · show outcome _ env = outcome _ env
    rw [outcome_bind, outcome_bind, outcome_bind]
    cases outcome p env with
    | ok a => exact (outcome_bind env (f a) g).symm
    | error e => rfl

theorem pure_bind (a : α) (f : α → Ask A E β) : (pure a : Ask A E α) >>= f = f a := by
  funext env
  exact Prod.ext (asked_pure_bind env a f) (outcome_pure_bind env a f)

theorem bind_congr_at {p : Ask A E α} {f g : α → Ask A E β}
    (h : ∀ a, outcome p env = .ok a → f a env = g a env) : (p >>= f) env = (p >>= g) env := by
  show (asked (p >>= f) env, outcome (p >>= f) env) = (asked (p >>= g) env, outcome (p >>= g) env)
  rw [asked_bind, asked_bind, outcome_bind, outcome_bind]
  cases ha : outcome p env with
  | ok a =>
      have hfg : f a env = g a env := h a ha
      show (_ ++ (f a env).1, (f a env).2) = (_ ++ (g a env).1, (g a env).2)
      rw [hfg]
  | error e => rfl

end Agree

/-! ## Every question asked satisfies a predicate -/

/-- Every question `p` puts to `env` satisfies `P`. -/
def Only (P : Q → Prop) (p : Ask A E α) (env : (q : Q) → A q) : Prop :=
  ∀ q ∈ asked p env, P q

section Only

variable {P : Q → Prop} {env : (q : Q) → A q}

theorem Only.pure {a : α} : Only P (pure a : Ask A E α) env :=
  fun _ h => absurd h List.not_mem_nil

theorem Only.raise {e : E} : Only P (raise e : Ask A E α) env :=
  fun _ h => absurd h List.not_mem_nil

theorem Only.ask {q : Q} (h : P q) : Only P (ask q : Ask A E (A q)) env :=
  fun _ hq => List.mem_singleton.mp hq ▸ h

theorem Only.bind {p : Ask A E α} {f : α → Ask A E β} (hp : Only P p env)
    (hf : ∀ a, outcome p env = .ok a → Only P (f a) env) : Only P (p >>= f) env := by
  intro q hq
  rw [asked_bind] at hq
  rcases List.mem_append.mp hq with h | h
  · exact hp q h
  · cases ha : outcome p env with
    | ok a => exact hf a ha q (by rwa [ha] at h)
    | error e => rw [ha] at h; exact absurd h List.not_mem_nil

theorem Only.catching {p : Ask A E α} {h : E → Option (Ask A E α)} (hp : Only P p env)
    (hh : ∀ e k, outcome p env = .error e → h e = some k → Only P k env) :
    Only P (catching p h) env := by
  intro q hq
  rw [asked_catching] at hq
  rcases List.mem_append.mp hq with hq | hq
  · exact hp q hq
  · cases ho : outcome p env with
    | ok a => rw [ho] at hq; exact absurd hq List.not_mem_nil
    | error e =>
        rw [ho] at hq
        cases hk : h e with
        | none => simp only [hk] at hq; exact absurd hq List.not_mem_nil
        | some k => simp only [hk] at hq; exact hh e k ho hk q hq

theorem Only.mono {P' : Q → Prop} {p : Ask A E α} (h : Only P p env)
    (hPP' : ∀ q, P q → P' q) : Only P' p env :=
  fun q hq => hPP' q (h q hq)

theorem Only.forIdx {f : Nat → α → Ask A E PUnit} :
    ∀ {xs : List α} {i : Nat},
      (∀ j x, xs[j]? = some x → Only P (f (i + j) x) env) → Only P (forIdx f xs i) env
  | [], _, _ => Only.pure
  | x :: xs, i, h => by
      refine Only.bind (h 0 x rfl) fun _ _ => Only.forIdx fun j y hy => ?_
      have := h (j + 1) y (by simpa using hy)
      rwa [show i + 1 + j = i + (j + 1) by omega]

theorem Only.collectIdx {f : Nat → α → Ask A E (List β)} :
    ∀ {xs : List α} {i : Nat},
      (∀ j x, xs[j]? = some x → Only P (f (i + j) x) env) → Only P (collectIdx f xs i) env
  | [], _, _ => Only.pure
  | x :: xs, i, h => by
      refine Only.bind (h 0 x rfl) fun _ _ => Only.bind ?_ fun _ _ => Only.pure
      refine Only.collectIdx fun j y hy => ?_
      have := h (j + 1) y (by simpa using hy)
      rwa [show i + 1 + j = i + (j + 1) by omega]

end Only

/-! ## Rows of computations -/

/-- One after the other; the first exception ends the row. -/
def inRow : List (Ask A E PUnit) → Ask A E PUnit
  | [] => pure ⟨⟩
  | p :: ps => p >>= fun _ => inRow ps

/-- An exception ends the computation, but not what follows it. -/
def isolate (p : Ask A E PUnit) : Ask A E PUnit := p.catching fun _ => some (pure ⟨⟩)

/-- The computation ends in an exception. -/
def Raises (p : Ask A E α) (env : (q : Q) → A q) : Prop := ∃ e, outcome p env = .error e

section Rows

variable {env : (q : Q) → A q}

@[simp] theorem asked_isolate (p : Ask A E PUnit) : asked (isolate p) env = asked p env := by
  rw [isolate, asked_catching]
  cases outcome p env <;> exact List.append_nil _

@[simp] theorem outcome_isolate (p : Ask A E PUnit) : outcome (isolate p) env = .ok ⟨⟩ := by
  rw [isolate, outcome_catching]
  cases outcome p env <;> rfl

theorem inRow_append (ps qs : List (Ask A E PUnit)) :
    inRow (ps ++ qs) = inRow ps >>= fun _ => inRow qs := by
  induction ps with
  | nil => exact (pure_bind _ _).symm
  | cons p ps ih =>
      rw [List.cons_append, inRow, inRow, bind_assoc]
      exact congrArg _ (funext fun _ => ih)

/-- A row of isolated computations runs to its end. -/
theorem asked_inRow_isolate (ps : List (Ask A E PUnit)) :
    asked (inRow (ps.map isolate)) env = ps.flatMap fun p => asked p env := by
  induction ps with
  | nil => rfl
  | cons p ps ih =>
      rw [List.map_cons, inRow, asked_bind_ok env (outcome_isolate p), asked_isolate, ih,
        List.flatMap_cons]

/-- A row asks what its members would ask in isolation, as far as `P` is concerned,
exactly when none behind an exception asks anything of the kind. -/
theorem filter_asked_inRow_iff {P : Q → Bool} {f : α → Ask A E PUnit} {xs : List α} :
    (asked (inRow (xs.map f)) env).filter P =
        (asked (inRow ((xs.map f).map isolate)) env).filter P ↔
      xs.Pairwise fun x y => Raises (f x) env → ∀ q ∈ asked (f y) env, P q = false := by
  induction xs with
  | nil => exact iff_of_true rfl .nil
  | cons x xs ih =>
      rw [asked_inRow_isolate] at ih ⊢
      rw [List.map_cons, inRow, List.flatMap_cons, asked_bind, List.filter_append,
        List.filter_append, List.append_cancel_left_eq, List.pairwise_cons]
      cases hx : outcome (f x) env with
      | ok a =>
          have hreturns : ¬Raises (f x) env := by
            rintro ⟨e, he⟩
            rw [hx] at he
            cases he
          exact ih.trans (and_iff_right fun _ _ hraises => absurd hraises hreturns).symm
      | error e =>
          have hquiet : ((xs.map f).flatMap fun p => asked p env).filter P = [] ↔
              ∀ y ∈ xs, ∀ q ∈ asked (f y) env, P q = false := by
            simp only [List.filter_eq_nil_iff, List.mem_flatMap, List.mem_map,
              Bool.not_eq_true]
            exact ⟨fun h y hy q hq => h q ⟨_, ⟨y, hy, rfl⟩, hq⟩,
              fun h q ⟨_, ⟨y, hy, hp⟩, hq⟩ => h y hy q (hp ▸ hq)⟩
          rw [List.filter_nil, eq_comm, hquiet]
          constructor
          · intro h
            exact ⟨fun y hy _ => h y hy, List.pairwise_of_forall_mem_list fun _ _ y hy _ => h y hy⟩
          · exact fun h y hy => h.1 y hy ⟨e, hx⟩

end Rows

/-! ## The questions as a whole -/

/-- A set of traces that contains the empty one and is closed under joining. -/
structure Joinable (S : List Q → Prop) : Prop where
  nil : S []
  append : ∀ {s t}, S s → S t → S (s ++ t)

/-- The questions `p` puts to `env` are, as a whole, a trace of `S`. -/
def Traced (S : List Q → Prop) (p : Ask A E α) (env : (q : Q) → A q) : Prop := S (asked p env)

section Traced

variable {S : List Q → Prop} {env : (q : Q) → A q} (hS : Joinable S)

include hS

theorem Joinable.pure {a : α} : Traced S (pure a : Ask A E α) env := hS.nil

theorem Joinable.bind {p : Ask A E α} {f : α → Ask A E β} (hp : Traced S p env)
    (hf : ∀ a, outcome p env = .ok a → Traced S (f a) env) : Traced S (p >>= f) env := by
  rw [Traced, asked_bind]
  refine hS.append hp ?_
  cases ha : outcome p env with
  | ok a => exact hf a ha
  | error e => exact hS.nil

theorem Joinable.forIdx {f : Nat → α → Ask A E PUnit} :
    ∀ {xs : List α} {i : Nat}, (∀ j, ∀ x ∈ xs, Traced S (f j x) env) →
      Traced S (forIdx f xs i) env
  | [], _, _ => hS.nil
  | x :: _, i, h =>
      hS.bind (h i x List.mem_cons_self) fun _ _ =>
        Joinable.forIdx fun j y hy => h j y (List.mem_cons_of_mem x hy)

end Traced

/-! ## How often a question is asked -/

/-- At most `n` of the questions `p` puts to `env` satisfy `P`. -/
def AtMost (P : Q → Bool) (n : Nat) (p : Ask A E α) (env : (q : Q) → A q) : Prop :=
  (asked p env).countP P ≤ n

section AtMost

variable {P : Q → Bool} {env : (q : Q) → A q}

theorem AtMost.of_only {p : Ask A E α} (h : Only (fun q => P q = false) p env) :
    AtMost P 0 p env := by
  refine Nat.le_of_eq (List.countP_eq_zero.mpr fun q hq => ?_)
  rw [h q hq]
  exact Bool.false_ne_true

theorem AtMost.mono {p : Ask A E α} {n m : Nat} (h : AtMost P n p env) (hnm : n ≤ m) :
    AtMost P m p env :=
  Nat.le_trans h hnm

theorem AtMost.ask {q : Q} : AtMost P 1 (ask q : Ask A E (A q)) env := by
  rw [AtMost, asked_ask]
  exact List.countP_le_length

theorem AtMost.bind {p : Ask A E α} {f : α → Ask A E β} {n m : Nat} (hp : AtMost P n p env)
    (hf : ∀ a, outcome p env = .ok a → AtMost P m (f a) env) : AtMost P (n + m) (p >>= f) env := by
  rw [AtMost, asked_bind, List.countP_append]
  refine Nat.add_le_add hp ?_
  cases ha : outcome p env with
  | ok a => exact hf a ha
  | error e => exact Nat.zero_le m

theorem AtMost.forIdx {f : Nat → α → Ask A E PUnit} {k : Nat}
    (h : ∀ j x, AtMost P (if j = k then 1 else 0) (f j x) env) :
    ∀ {xs : List α} {i : Nat}, AtMost P (if i ≤ k then 1 else 0) (forIdx f xs i) env
  | [], _ => Nat.zero_le _
  | x :: xs, i => by
      -- position `i` and the positions after it do not both count
      have hsum : (if i = k then 1 else 0) + (if i + 1 ≤ k then 1 else 0) ≤
          if i ≤ k then 1 else 0 := by
        split <;> split <;> split <;> omega
      exact AtMost.mono (AtMost.bind (h i x) fun _ _ => AtMost.forIdx h) hsum

end AtMost

/-! ## A view of the questions -/

section Views

variable {V : Type u} {view : Q → Option V} {env : (q : Q) → A q}

/-- What the view shows of the questions `p` puts to `env`, in order. -/
def seen (view : Q → Option V) (p : Ask A E α) (env : (q : Q) → A q) : List V :=
  (asked p env).filterMap view

theorem seen_bind_ok {p : Ask A E α} {f : α → Ask A E β} {a : α} (h : outcome p env = .ok a) :
    seen view (p >>= f) env = seen view p env ++ seen view (f a) env := by
  rw [seen, asked_bind_ok env h, List.filterMap_append]
  rfl

theorem seen_bind_error {p : Ask A E α} {f : α → Ask A E β} {e : E}
    (h : outcome p env = .error e) : seen view (p >>= f) env = seen view p env := by
  rw [seen, asked_bind_error env h]
  rfl

theorem seen_of_only {p : Ask A E α} (h : Only (fun q => view q = none) p env) :
    seen view p env = [] :=
  List.filterMap_eq_nil_iff.mpr h

theorem seen_blind_bind {p : Ask A E α} {f : α → Ask A E β} {a : α}
    (hp : Only (fun q => view q = none) p env) (h : outcome p env = .ok a) :
    seen view (p >>= f) env = seen view (f a) env := by
  rw [seen_bind_ok h, seen_of_only hp, List.nil_append]

theorem seen_bind_blind {p : Ask A E α} {f : α → Ask A E β}
    (hf : ∀ a, outcome p env = .ok a → Only (fun q => view q = none) (f a) env) :
    seen view (p >>= f) env = seen view p env := by
  cases h : outcome p env with
  | ok a => rw [seen_bind_ok h, seen_of_only (hf a h), List.append_nil]
  | error e => exact seen_bind_error h

/-- The members up to the first that stops, that one included. -/
def untilStop (stops : α → Bool) : List α → List α
  | [] => []
  | x :: xs => x :: if stops x then [] else untilStop stops xs

theorem mem_of_mem_untilStop {stops : α → Bool} {y : α} :
    ∀ {xs : List α}, y ∈ untilStop stops xs → y ∈ xs
  | [], h => h
  | x :: xs, h => by
      rcases List.mem_cons.mp h with rfl | h
      · exact List.mem_cons_self
      · split at h
        · exact absurd h List.not_mem_nil
        · exact List.mem_cons_of_mem x (mem_of_mem_untilStop h)

theorem untilStop_eq_self {stops : α → Bool} :
    ∀ {xs : List α}, (∀ x ∈ xs, stops x = false) → untilStop stops xs = xs
  | [], _ => rfl
  | x :: xs, h => by
      rw [untilStop, h x List.mem_cons_self, if_neg Bool.false_ne_true,
        untilStop_eq_self fun y hy => h y (List.mem_cons_of_mem x hy)]

/-- Of a row, what is seen are the members up to the first that raises. -/
theorem seen_inRow {f : α → Ask A E PUnit} {stops : α → Bool} :
    ∀ {xs : List α}, (∀ x ∈ xs, stops x = true ↔ Raises (f x) env) →
      seen view (inRow (xs.map f)) env =
        (untilStop stops xs).flatMap fun x => seen view (f x) env
  | [], _ => rfl
  | x :: xs, h => by
      have ih : seen view (inRow (xs.map f)) env =
          (untilStop stops xs).flatMap fun x => seen view (f x) env :=
        seen_inRow fun y hy => h y (List.mem_cons_of_mem x hy)
      rw [List.map_cons, inRow, untilStop, List.flatMap_cons]
      cases hx : outcome (f x) env with
      | ok a =>
          have hgoes : stops x = false := by
            refine Bool.eq_false_iff.mpr fun hs => ?_
            obtain ⟨e, he⟩ := (h x List.mem_cons_self).mp hs
            rw [hx] at he
            cases he
          rw [seen_bind_ok hx, hgoes, if_neg Bool.false_ne_true, ih]
      | error e =>
          rw [seen_bind_error hx, (h x List.mem_cons_self).mpr ⟨e, hx⟩, if_pos rfl,
            List.flatMap_nil, List.append_nil]

/-- Members that neither stop nor show anything can be left out. -/
theorem flatMap_untilStop_filter {stops keep : α → Bool} {g : α → List β} :
    ∀ {xs : List α}, (∀ x ∈ xs, keep x = false → stops x = false ∧ g x = []) →
      (untilStop stops (xs.filter keep)).flatMap g = (untilStop stops xs).flatMap g
  | [], _ => rfl
  | x :: xs, h => by
      have ih : (untilStop stops (xs.filter keep)).flatMap g = (untilStop stops xs).flatMap g :=
        flatMap_untilStop_filter fun y hy => h y (List.mem_cons_of_mem x hy)
      cases hk : keep x with
      | true =>
          rw [List.filter_cons_of_pos hk, untilStop, untilStop, List.flatMap_cons,
            List.flatMap_cons]
          cases stops x with
          | true => rfl
          | false => exact congrArg (g x ++ ·) ih
      | false =>
          obtain ⟨hstops, hg⟩ := h x List.mem_cons_self hk
          rw [List.filter_cons_of_neg (Bool.eq_false_iff.mp hk), untilStop, List.flatMap_cons, hg,
            List.nil_append, hstops, if_neg Bool.false_ne_true, ih]

end Views

end Ask
