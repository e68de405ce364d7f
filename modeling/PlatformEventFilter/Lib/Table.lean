/-
# `Lib.Table` — tables by rows, by columns, and cut into buckets

A row over the columns `ι` is a function giving each column a cell of that
column's type; a table held column by column is a function giving each column
the list of its cells.

    Table.ofRows rows            the columns of a list of rows, pushed row by row
    Table.Rect t n               every column has `n` cells
    readCells f cs r             the cells of a row read one after the other
    pushRows read es t           the rows of a list read and pushed
    exportEach load is acc       the objects of a list of indices, as far as they load
    exportRows read es acc       the same for a list without indices
    inOrder steps s              steps taken until one of them fails
    x.outcome                    how a computation ends, without its result
    UpToFirst p q xs             whatever comes after members with `p` only has `q`

A list is cut into buckets of `n` members, the last bucket `L` taking whatever
is left:

    buckets n L xs b             filled member by member
    slice n L xs b               the same, as a segment of the list

and `overlay f start vs xs` combines the members of `xs` from position `start`
on with the values `vs`, as far as both reach.
-/
import Mathlib.Data.List.Basic
import Mathlib.Data.List.Forall2
import Mathlib.Data.List.Induction
import Mathlib.Logic.Function.Basic

/-! ## Rows and columns -/

section Columns

variable {ι : Type} {β : ι → Type}

/-- One cell for each column. -/
abbrev Row (β : ι → Type) := (c : ι) → β c

/-- The cells of each column. -/
abbrev Table (β : ι → Type) := (c : ι) → List (β c)

namespace Table

/-- No rows. -/
def empty : Table β := fun _ => []

/-- One more row at the end. -/
def push (t : Table β) (r : Row β) : Table β := fun c => t c ++ [r c]

/-- The rows pushed one after the other. -/
def ofRows (rows : List (Row β)) : Table β := rows.foldl push empty

/-- Every column has `n` cells. -/
def Rect (t : Table β) (n : Nat) : Prop := ∀ c, (t c).length = n

theorem foldl_push (c : ι) :
    ∀ (rows : List (Row β)) (t : Table β), rows.foldl push t c = t c ++ rows.map (· c)
  | [], t => by simp
  | r :: rows, t => by
      rw [List.foldl_cons, foldl_push c rows]
      simp [push]

@[simp] theorem ofRows_apply (rows : List (Row β)) (c : ι) :
    ofRows rows c = rows.map (· c) := by
  rw [ofRows, foldl_push]; rfl

theorem ofRows_rect (rows : List (Row β)) : Rect (ofRows rows) rows.length := by
  intro c; simp

/-- Replacing a column by one of the same length keeps the table rectangular,
and no other replacement does. -/
theorem rect_update [DecidableEq ι] {t : Table β} {n : Nat} (h : Rect t n) (c : ι)
    (v : List (β c)) : Rect (Function.update t c v) n ↔ v.length = n := by
  constructor
  · intro h'
    have := h' c
    rwa [Function.update_self] at this
  · intro hv c'
    by_cases hc : c' = c
    · subst hc; rwa [Function.update_self]
    · rw [Function.update_of_ne hc]; exact h c'

theorem update_ofRows [DecidableEq ι] (c : ι) (rows : List (Row β)) (vs : List (β c))
    (h : vs.length = rows.length) :
    Function.update (ofRows rows) c vs
      = ofRows (List.zipWith (fun r v => Function.update r c v) rows vs) := by
  funext c'
  by_cases hc : c' = c
  · subst hc
    rw [Function.update_self, ofRows_apply, List.map_zipWith]
    apply List.ext_getElem?
    intro i
    by_cases hi : i < vs.length
    · simp [List.getElem?_zipWith, List.getElem?_eq_getElem hi,
        List.getElem?_eq_getElem (h ▸ hi : i < rows.length)]
    · rw [List.getElem?_eq_none (by omega), List.getElem?_eq_none (by simp; omega)]
  · rw [Function.update_of_ne hc, ofRows_apply, ofRows_apply, List.map_zipWith]
    apply List.ext_getElem?
    intro i
    by_cases hi : i < vs.length
    · simp [List.getElem?_zipWith, List.getElem?_eq_getElem hi,
        List.getElem?_eq_getElem (h ▸ hi : i < rows.length), Function.update_of_ne hc]
    · rw [List.getElem?_eq_none (by simp; omega), List.getElem?_eq_none (by simp; omega)]

end Table

/-- The cells of the columns `cs` read one after the other into `r`. -/
def readCells {ε : Type} [DecidableEq ι] (f : (c : ι) → Except ε (β c)) :
    List ι → Row β → Except ε (Row β)
  | [], r => .ok r
  | c :: cs, r => do
      let v ← f c
      readCells f cs (Function.update r c v)

theorem readCells_ok {ε : Type} [DecidableEq ι] {f : (c : ι) → Except ε (β c)} :
    ∀ {cs : List ι} {r g : Row β}, readCells f cs r = .ok g →
      ∀ c, (c ∈ cs → f c = .ok (g c)) ∧ (c ∉ cs → g c = r c)
  | [], r, g, h, c => by
      simp only [readCells, Except.ok.injEq] at h
      exact ⟨fun hc => absurd hc List.not_mem_nil, fun _ => h ▸ rfl⟩
  | d :: cs, r, g, h, c => by
      simp only [readCells] at h
      cases hv : f d with
      | error e => rw [hv] at h; cases h
      | ok v =>
          rw [hv] at h
          have ih := readCells_ok (show readCells f cs _ = .ok g from h) c
          refine ⟨fun hc => ?_, fun hc => ?_⟩
          · by_cases hcs : c ∈ cs
            · exact ih.1 hcs
            · have hcd : c = d := (List.mem_cons.mp hc).resolve_right hcs
              subst hcd
              rw [ih.2 hcs, Function.update_self, hv]
          · rw [List.mem_cons, not_or] at hc
            rw [ih.2 hc.2, Function.update_of_ne hc.1]

theorem readCells_of_ok {ε : Type} [DecidableEq ι] {f : (c : ι) → Except ε (β c)} {g : Row β} :
    ∀ {cs : List ι} {r : Row β}, (∀ c ∈ cs, f c = .ok (g c)) →
      ∃ g', readCells f cs r = .ok g'
  | [], r, _ => ⟨r, rfl⟩
  | c :: cs, r, h => by
      simp only [readCells, h c List.mem_cons_self]
      exact readCells_of_ok fun d hd => h d (List.mem_cons_of_mem _ hd)

theorem readCells_eq_ok {ε : Type} [DecidableEq ι] {f : (c : ι) → Except ε (β c)} {cs : List ι}
    (hcs : ∀ c, c ∈ cs) {r g : Row β} :
    readCells f cs r = .ok g ↔ ∀ c, f c = .ok (g c) := by
  constructor
  · exact fun h c => (readCells_ok h c).1 (hcs c)
  · intro h
    obtain ⟨g', hg'⟩ : ∃ g', readCells f cs r = .ok g' := readCells_of_ok fun c _ => h c
    have : g' = g := by
      funext c
      have := (readCells_ok hg' c).1 (hcs c)
      rw [h c, Except.ok.injEq] at this
      exact this.symm
    rw [hg', this]

/-- The rows of a list read one after the other and pushed onto a table. -/
def pushRows {ε α : Type} (read : α → Except ε (Row β)) : List α → Table β → Except ε (Table β)
  | [], t => .ok t
  | e :: es, t => do
      let r ← read e
      pushRows read es (t.push r)

/-- A table that is read consists of the rows its entries are read as. -/
theorem pushRows_eq_ok {ε α : Type} {read : α → Except ε (Row β)} :
    ∀ {es : List α} {t t' : Table β},
      pushRows read es t = .ok t' ↔
        ∃ rows, List.Forall₂ (fun e r => read e = .ok r) es rows ∧ t' = rows.foldl Table.push t
  | [], t, t' => by
      simp only [pushRows, Except.ok.injEq]
      constructor
      · exact fun h => ⟨[], .nil, h.symm⟩
      · rintro ⟨rows, hrows, rfl⟩
        cases hrows; rfl
  | e :: es, t, t' => by
      simp only [pushRows]
      cases hr : read e with
      | error x =>
          constructor
          · intro h; cases h
          · rintro ⟨rows, hrows, -⟩
            cases hrows with
            | cons h _ => rw [hr] at h; cases h
      | ok r =>
          show pushRows read es (t.push r) = .ok t' ↔ _
          rw [pushRows_eq_ok]
          constructor
          · rintro ⟨rows, hrows, rfl⟩
            exact ⟨r :: rows, .cons hr hrows, rfl⟩
          · rintro ⟨rows, hrows, rfl⟩
            cases hrows with
            | cons h hrows =>
                rw [hr, Except.ok.injEq] at h
                subst h
                exact ⟨_, hrows, rfl⟩

end Columns

/-! ## Loops that stop at the first failure and keep what they have done -/

section Interrupted

variable {ε α τ σ ι : Type}

/-- The objects of a list of indices, exported as far as they load; an index
without an object is passed over. -/
def exportEach [DecidableEq ι] (load : ι → Except ε (Option τ)) :
    List ι → (ι → Option τ) → (ι → Option τ) × Except ε Unit
  | [], acc => (acc, .ok ())
  | i :: is, acc => match load i with
      | .error e => (acc, .error e)
      | .ok none => exportEach load is acc
      | .ok (some t) => exportEach load is (Function.update acc i (some t))

theorem exportEach_some [DecidableEq ι] {load : ι → Except ε (Option τ)} {i : ι} {t : τ} :
    ∀ {is : List ι} {acc : ι → Option τ}, (exportEach load is acc).1 i = some t →
      load i = .ok (some t) ∨ acc i = some t
  | [], _, h => Or.inr h
  | j :: is, acc, h => by
      simp only [exportEach] at h
      cases hj : load j with
      | error e => rw [hj] at h; exact Or.inr h
      | ok o =>
          rw [hj] at h
          cases o with
          | none => exact exportEach_some h
          | some t' =>
              rcases exportEach_some h with h | h
              · exact Or.inl h
              · by_cases hij : i = j
                · subst hij
                  rw [Function.update_self] at h
                  exact Or.inl (hj.trans (by rw [h]))
                · rw [Function.update_of_ne hij] at h
                  exact Or.inr h

theorem exportEach_of_not_mem [DecidableEq ι] {load : ι → Except ε (Option τ)} {i : ι} :
    ∀ {is : List ι} {acc : ι → Option τ}, i ∉ is → (exportEach load is acc).1 i = acc i
  | [], _, _ => rfl
  | j :: is, acc, h => by
      rw [List.mem_cons, not_or] at h
      simp only [exportEach]
      cases load j with
      | error e => rfl
      | ok o =>
          cases o with
          | none => exact exportEach_of_not_mem h.2
          | some t => rw [exportEach_of_not_mem h.2, Function.update_of_ne h.1]

/-- Behind an index without an object there is none: then, also when the export
breaks off, the indices with an object come first. -/
theorem exportEach_front [DecidableEq ι] {load : ι → Except ε (Option τ)} :
    ∀ {is : List ι} {acc : ι → Option τ}, (∀ i ∈ is, acc i = none) → is.Nodup →
      is.Pairwise (fun i j => load i = .ok none → load j = .ok none) →
      is.Pairwise fun i j => ((exportEach load is acc).1 j).isSome →
        ((exportEach load is acc).1 i).isSome
  | [], _, _, _, _ => List.Pairwise.nil
  | j :: is, acc, hacc, hnd, hload => by
      have hacc' : ∀ i ∈ is, acc i = none := fun i hi => hacc i (List.mem_cons_of_mem _ hi)
      rw [List.nodup_cons] at hnd
      rw [List.pairwise_cons] at hload
      simp only [exportEach]
      cases hj : load j with
      | error e =>
          refine List.pairwise_of_forall_mem_list fun _ _ k hk h => ?_
          have hnone : acc k = none := hacc k hk
          have hsome : (acc k).isSome = true := h
          rw [hnone] at hsome
          cases hsome
      | ok o =>
          cases o with
          | none =>
              refine List.pairwise_cons.mpr ⟨fun k hk h => ?_,
                exportEach_front hacc' hnd.2 hload.2⟩
              obtain ⟨t, ht⟩ := Option.isSome_iff_exists.mp h
              rcases exportEach_some ht with ht | ht
              · rw [hload.1 k hk hj] at ht
                cases ht
              · rw [hacc' k hk] at ht
                cases ht
          | some t =>
              have hacc'' : ∀ i ∈ is, Function.update acc j (some t) i = none := by
                intro i hi
                rw [Function.update_of_ne (fun h : i = j => hnd.1 (h ▸ hi))]
                exact hacc' i hi
              refine List.pairwise_cons.mpr ⟨fun k _ _ => ?_,
                exportEach_front hacc'' hnd.2 hload.2⟩
              rw [exportEach_of_not_mem hnd.1, Function.update_self]
              rfl

theorem exportEach_ok [DecidableEq ι] {load : ι → Except ε (Option τ)} :
    ∀ {is : List ι} {acc g : ι → Option τ}, (∀ i ∈ is, acc i = none) → is.Nodup →
      (exportEach load is acc = (g, .ok ()) ↔
        (∀ i ∈ is, load i = .ok (g i)) ∧ ∀ i, i ∉ is → g i = acc i)
  | [], acc, g, _, _ => by
      simp only [exportEach, Prod.mk.injEq, and_true]
      exact ⟨fun h => ⟨fun i hi => absurd hi List.not_mem_nil, fun i _ => h ▸ rfl⟩,
        fun h => funext fun i => (h.2 i List.not_mem_nil).symm⟩
  | j :: is, acc, g, hacc, hnd => by
      rw [List.nodup_cons] at hnd
      have hacc' : ∀ i ∈ is, acc i = none := fun i hi => hacc i (List.mem_cons_of_mem _ hi)
      simp only [exportEach]
      cases hj : load j with
      | error e =>
          constructor
          · intro h; cases h
          · intro h
            have := h.1 j List.mem_cons_self
            rw [hj] at this; cases this
      | ok o =>
          have key : ∀ acc' : ι → Option τ, (∀ i ∈ is, acc' i = none) →
              acc' j = o → (∀ i, i ≠ j → acc' i = acc i) →
              (exportEach load is acc' = (g, .ok ()) ↔
                (∀ i ∈ j :: is, load i = .ok (g i)) ∧ ∀ i, i ∉ j :: is → g i = acc i) := by
            intro acc' hacc' hoj hother
            rw [exportEach_ok hacc' hnd.2]
            constructor
            · rintro ⟨h1, h2⟩
              refine ⟨fun i hi => ?_, fun i hi => ?_⟩
              · rcases List.mem_cons.mp hi with rfl | hi
                · rw [hj, h2 _ hnd.1, hoj]
                · exact h1 i hi
              · rw [List.mem_cons, not_or] at hi
                rw [h2 i hi.2, hother i hi.1]
            · rintro ⟨h1, h2⟩
              refine ⟨fun i hi => h1 i (List.mem_cons_of_mem _ hi), fun i hi => ?_⟩
              by_cases hij : i = j
              · subst hij
                have := h1 i List.mem_cons_self
                rw [hj, Except.ok.injEq] at this
                rw [← this, hoj]
              · rw [hother i hij, h2 i (by simp [hij, hi])]
          cases o with
          | none => exact key acc hacc' (hacc j List.mem_cons_self) fun _ _ => rfl
          | some t =>
              refine key _ (fun i hi => ?_) (Function.update_self ..) fun i hi =>
                Function.update_of_ne hi ..
              rw [Function.update_of_ne (fun h : i = j => hnd.1 (h ▸ hi))]
              exact hacc' i hi

/-- The entries of a list, exported as far as they can be read. -/
def exportRows (read : α → Except ε τ) : List α → List τ → List τ × Except ε Unit
  | [], acc => (acc, .ok ())
  | e :: es, acc => match read e with
      | .error x => (acc, .error x)
      | .ok r => exportRows read es (acc ++ [r])

theorem exportRows_ok {read : α → Except ε τ} :
    ∀ {es : List α} {acc g : List τ},
      exportRows read es acc = (g, .ok ()) ↔
        ∃ rows, List.Forall₂ (fun e r => read e = .ok r) es rows ∧ g = acc ++ rows
  | [], acc, g => by
      simp only [exportRows, Prod.mk.injEq, and_true]
      constructor
      · exact fun h => ⟨[], .nil, by simp [h]⟩
      · rintro ⟨rows, hrows, rfl⟩
        cases hrows; simp
  | e :: es, acc, g => by
      simp only [exportRows]
      cases hr : read e with
      | error x =>
          constructor
          · intro h; cases h
          · rintro ⟨rows, hrows, -⟩
            cases hrows with
            | cons h _ => rw [hr] at h; cases h
      | ok r =>
          show exportRows read es (acc ++ [r]) = (g, .ok ()) ↔ _
          rw [exportRows_ok]
          constructor
          · rintro ⟨rows, hrows, rfl⟩
            exact ⟨r :: rows, .cons hr hrows, by simp⟩
          · rintro ⟨rows, hrows, rfl⟩
            cases hrows with
            | cons h hrows =>
                rw [hr, Except.ok.injEq] at h
                subst h
                exact ⟨_, hrows, by simp⟩

theorem exportRows_map {read : α → Except ε τ} {f : α → α} {g : τ → τ} :
    ∀ {es : List α} {acc : List τ}, (∀ e ∈ es, read (f e) = (read e).map g) →
      exportRows read (es.map f) (acc.map g) =
        ((exportRows read es acc).1.map g, (exportRows read es acc).2)
  | [], _, _ => rfl
  | e :: es, acc, h => by
      have hread := h e List.mem_cons_self
      simp only [List.map_cons, exportRows, hread]
      cases read e with
      | error x => rfl
      | ok r =>
          have ih : exportRows read (es.map f) ((acc ++ [r]).map g) = _ :=
            exportRows_map fun e' he' => h e' (List.mem_cons_of_mem _ he')
          rw [List.map_append] at ih
          exact ih

theorem mem_exportRows {read : α → Except ε τ} {r : τ} :
    ∀ {es : List α} {acc : List τ}, r ∈ (exportRows read es acc).1 →
      (∃ e ∈ es, read e = .ok r) ∨ r ∈ acc
  | [], _, h => Or.inr h
  | e :: es, acc, h => by
      simp only [exportRows] at h
      cases hr : read e with
      | error x => rw [hr] at h; exact Or.inr h
      | ok r' =>
          rw [hr] at h
          rcases mem_exportRows h with ⟨e', he', hread⟩ | hacc
          · exact Or.inl ⟨e', List.mem_cons_of_mem _ he', hread⟩
          · rcases List.mem_append.mp hacc with hacc | hlast
            · exact Or.inr hacc
            · exact Or.inl ⟨e, List.mem_cons_self, List.mem_singleton.mp hlast ▸ hr⟩

/-- Steps taken one after the other until one of them fails. -/
def inOrder : List (σ → σ × Except ε Unit) → σ → σ × Except ε Unit
  | [], s => (s, .ok ())
  | f :: fs, s => match f s with
      | (s', .ok ()) => inOrder fs s'
      | (s', .error e) => (s', .error e)

theorem inOrder_singleton (f : σ → σ × Except ε Unit) (s : σ) : inOrder [f] s = f s := by
  simp only [inOrder]
  rcases f s with ⟨m, e | ⟨⟨⟩⟩⟩ <;> rfl

theorem inOrder_append (gs : List (σ → σ × Except ε Unit)) :
    ∀ (fs : List (σ → σ × Except ε Unit)) (s : σ), inOrder (fs ++ gs) s =
      match inOrder fs s with
      | (m, .ok ()) => inOrder gs m
      | (m, .error e) => (m, .error e)
  | [], _ => rfl
  | f :: fs, s => by
      simp only [List.cons_append, inOrder]
      rcases f s with ⟨m, e | ⟨⟨⟩⟩⟩
      · rfl
      · exact inOrder_append gs fs m

theorem inOrder_cons_ok {f : σ → σ × Except ε Unit} {fs : List (σ → σ × Except ε Unit)}
    {s s' : σ} :
    inOrder (f :: fs) s = (s', .ok ()) ↔
      ∃ m, f s = (m, .ok ()) ∧ inOrder fs m = (s', .ok ()) := by
  simp only [inOrder]
  rcases hf : f s with ⟨m, e | ⟨⟨⟩⟩⟩
  · simp
  · simp

/-- What every step keeps is kept, however far the steps get. -/
theorem inOrder_induct {P : σ → Prop} :
    ∀ {fs : List (σ → σ × Except ε Unit)} {s : σ}, (∀ f ∈ fs, ∀ m, P m → P (f m).1) → P s →
      P (inOrder fs s).1
  | [], _, _, h => h
  | f :: fs, s, hf, h => by
      have h1 : P (f s).1 := hf f List.mem_cons_self s h
      simp only [inOrder]
      rcases hfs : f s with ⟨m, e | ⟨⟨⟩⟩⟩
      · rw [hfs] at h1; exact h1
      · rw [hfs] at h1
        exact inOrder_induct (fun g hg => hf g (List.mem_cons_of_mem _ hg)) h1

end Interrupted

/-! ## How a loop ends

Forgetting what a loop keeps leaves how it ends: as the traversal of its steps
does, which is well when every step ends well, and as the first step that fails
otherwise. -/

section Ends

variable {ε α τ σ ι κ : Type}

/-- How a computation ends, without its result. -/
def Except.outcome (x : Except ε α) : Except ε Unit := x.map fun _ => ()

theorem forM_cons_of_ok {f : α → Except ε Unit} {x : α} {xs : List α} (h : f x = .ok ()) :
    forM (x :: xs) f = forM xs f := by
  rw [List.forM_cons, h]
  rfl

theorem forM_cons_of_error {f : α → Except ε Unit} {x : α} {xs : List α} {e : ε}
    (h : f x = .error e) : forM (x :: xs) f = .error e := by
  rw [List.forM_cons, h]
  rfl

theorem forM_eq_ok {f : α → Except ε Unit} {xs : List α} :
    forM xs f = .ok () ↔ ∀ x ∈ xs, f x = .ok () := by
  induction xs with
  | nil => exact ⟨fun _ x hx => absurd hx List.not_mem_nil, fun _ => rfl⟩
  | cons x xs ih =>
      rw [List.forall_mem_cons]
      cases hx : f x with
      | error e =>
          rw [forM_cons_of_error hx]
          constructor
          · intro h
            cases h
          · rintro ⟨h, -⟩
            cases h
      | ok u =>
          rw [forM_cons_of_ok hx, ih]
          exact (and_iff_right rfl).symm

theorem forM_eq_error {f : α → Except ε Unit} {e : ε} {xs : List α} :
    forM xs f = .error e ↔
      ∃ pre x post, xs = pre ++ x :: post ∧ (∀ y ∈ pre, f y = .ok ()) ∧ f x = .error e := by
  induction xs with
  | nil =>
      constructor
      · intro h
        cases h
      · rintro ⟨pre, x, post, h, -⟩
        exact absurd h.symm (List.append_ne_nil_of_right_ne_nil _ (List.cons_ne_nil _ _))
  | cons x xs ih =>
      constructor
      · intro h
        cases hx : f x with
        | error e' =>
            rw [forM_cons_of_error hx] at h
            exact ⟨[], x, xs, rfl, fun _ hy => absurd hy List.not_mem_nil, hx.trans h⟩
        | ok u =>
            rw [forM_cons_of_ok hx] at h
            obtain ⟨pre, y, post, rfl, hpre, hy⟩ := ih.mp h
            exact ⟨x :: pre, y, post, rfl, List.forall_mem_cons.mpr ⟨hx, hpre⟩, hy⟩
      · rintro ⟨pre, y, post, hxs, hpre, hy⟩
        cases pre with
        | nil =>
            rw [List.nil_append, List.cons.injEq] at hxs
            exact forM_cons_of_error (hxs.1 ▸ hy)
        | cons z pre =>
            rw [List.cons_append, List.cons.injEq] at hxs
            obtain ⟨hz, hpre⟩ := List.forall_mem_cons.mp hpre
            rw [forM_cons_of_ok (hxs.1 ▸ hz)]
            exact ih.mpr ⟨pre, y, post, hxs.2, hpre, hy⟩

/-- Whatever comes after nothing but members with `p` has `q`. -/
def UpToFirst (p q : α → Prop) (xs : List α) : Prop :=
  ∀ pre x post, xs = pre ++ x :: post → (∀ y ∈ pre, p y) → q x

/-- A traversal is free of some failures exactly when each step is that is
reached, the steps before it having gone well. -/
theorem forM_avoids {f : α → Except ε Unit} {bad : κ → ε} {p q : α → Prop}
    (hp : ∀ x, f x = .ok () ↔ p x) (hq : ∀ x, (∀ k, f x ≠ .error (bad k)) ↔ q x) (xs : List α) :
    (∀ k, forM xs f ≠ .error (bad k)) ↔ UpToFirst p q xs := by
  constructor
  · intro h pre x post hxs hpre
    refine (hq x).mp fun k hx => h k (forM_eq_error.mpr ⟨pre, x, post, hxs, fun y hy => ?_, hx⟩)
    exact (hp y).mpr (hpre y hy)
  · intro h k hk
    obtain ⟨pre, x, post, hxs, hpre, hx⟩ := forM_eq_error.mp hk
    exact (hq x).mpr (h pre x post hxs fun y hy => (hp y).mp (hpre y hy)) k hx

theorem forM_flatMap {f : α → Except ε Unit} {g : κ → List α} (ks : List κ) :
    forM (ks.flatMap g) f = forM ks fun k => forM (g k) f := by
  induction ks with
  | nil => rfl
  | cons k ks ih => rw [List.flatMap_cons, List.forM_append, List.forM_cons, ih]

theorem outcome_mapM {f : α → Except ε τ} (xs : List α) :
    (xs.mapM f).outcome = forM xs fun x => (f x).outcome := by
  induction xs with
  | nil => rfl
  | cons x xs ih =>
      rw [List.mapM_cons, List.forM_cons, ← ih]
      cases f x with
      | error e => rfl
      | ok v => cases xs.mapM f <;> rfl

theorem outcome_readCells {β : ι → Type} [DecidableEq ι] {f : (c : ι) → Except ε (β c)}
    (cs : List ι) (r : Row β) : (readCells f cs r).outcome = forM cs fun c => (f c).outcome := by
  induction cs generalizing r with
  | nil => rfl
  | cons c cs ih =>
      rw [readCells, List.forM_cons]
      cases f c with
      | error e => rfl
      | ok v => exact ih _

theorem outcome_pushRows {β : ι → Type} {read : α → Except ε (Row β)} (es : List α)
    (t : Table β) : (pushRows read es t).outcome = forM es fun e => (read e).outcome := by
  induction es generalizing t with
  | nil => rfl
  | cons e es ih =>
      rw [pushRows, List.forM_cons]
      cases read e with
      | error x => rfl
      | ok r => exact ih _

theorem outcome_exportEach [DecidableEq ι] {load : ι → Except ε (Option τ)} (is : List ι)
    (acc : ι → Option τ) : (exportEach load is acc).2 = forM is fun i => (load i).outcome := by
  induction is generalizing acc with
  | nil => rfl
  | cons i is ih =>
      rw [exportEach, List.forM_cons]
      rcases load i with e | _ | t
      · rfl
      · exact ih _
      · exact ih _

theorem outcome_exportRows {read : α → Except ε τ} (es : List α) (acc : List τ) :
    (exportRows read es acc).2 = forM es fun e => (read e).outcome := by
  induction es generalizing acc with
  | nil => rfl
  | cons e es ih =>
      rw [exportRows, List.forM_cons]
      cases read e with
      | error x => rfl
      | ok r => exact ih _

/-- Steps whose ends do not depend on the state end as these do. -/
theorem outcome_inOrder {step : κ → σ → σ × Except ε Unit} {f : κ → Except ε Unit}
    (h : ∀ k s, (step k s).2 = f k) (ks : List κ) (s : σ) :
    (inOrder (ks.map step) s).2 = forM ks f := by
  induction ks generalizing s with
  | nil => rfl
  | cons k ks ih =>
      rw [List.map_cons, inOrder, List.forM_cons, ← h k s]
      rcases step k s with ⟨m, e | ⟨⟨⟩⟩⟩
      · rfl
      · exact ih m

end Ends

/-! ## Buckets -/

section Buckets

variable {α γ : Type}

/-- The bucket of position `i`. -/
def bucketOf (n L i : Nat) : Nat := min (i / n) L

/-- The members put into their buckets one after the other, from position `i`. -/
def fillBuckets (n L : Nat) : List α → Nat → (Nat → List α) → Nat → List α
  | [], _, acc => acc
  | x :: xs, i, acc =>
      fillBuckets n L xs (i + 1)
        (Function.update acc (bucketOf n L i) (acc (bucketOf n L i) ++ [x]))

/-- The buckets of a list. -/
def buckets (n L : Nat) (xs : List α) : Nat → List α := fillBuckets n L xs 0 fun _ => []

/-- The segment of the list that bucket `b` holds. -/
def slice (n L : Nat) (xs : List α) (b : Nat) : List α :=
  if b < L then (xs.drop (b * n)).take n else if b = L then xs.drop (b * n) else []

theorem fillBuckets_append (n L : Nat) (x : α) :
    ∀ (xs : List α) (i : Nat) (acc : Nat → List α) (b : Nat),
      fillBuckets n L (xs ++ [x]) i acc b =
        fillBuckets n L xs i acc b ++ if b = bucketOf n L (i + xs.length) then [x] else []
  | [], i, acc, b => by
      simp only [List.nil_append, fillBuckets, List.length_nil, Nat.add_zero]
      by_cases h : b = bucketOf n L i
      · subst h; simp
      · simp [h]
  | y :: ys, i, acc, b => by
      simp only [List.cons_append, fillBuckets]
      rw [fillBuckets_append n L x ys (i + 1)]
      simp only [List.length_cons, show i + 1 + ys.length = i + (ys.length + 1) by omega]

theorem slice_append {n L : Nat} (hn : 0 < n) (xs : List α) (x : α) (b : Nat) :
    slice n L (xs ++ [x]) b = slice n L xs b ++ if b = bucketOf n L xs.length then [x] else [] := by
  have hdiv := Nat.div_add_mod xs.length n
  have hmod := Nat.mod_lt xs.length hn
  have hmul : xs.length / n * n = n * (xs.length / n) := Nat.mul_comm _ _
  unfold slice bucketOf
  by_cases hb : b < L
  · rw [if_pos hb, if_pos hb]
    rcases Nat.lt_trichotomy b (xs.length / n) with h | h | h
    · have h1 : (b + 1) * n ≤ xs.length / n * n := Nat.mul_le_mul_right n h
      rw [Nat.succ_mul] at h1
      rw [if_neg (by omega), List.append_nil, List.drop_append_of_le_length (by omega),
        List.take_append_of_le_length (by rw [List.length_drop]; omega)]
    · rw [if_pos (by omega), List.drop_append_of_le_length (by rw [h]; omega),
        List.take_of_length_le (by rw [List.length_append, List.length_drop, h]; simp; omega),
        List.take_of_length_le (by rw [List.length_drop, h]; omega)]
    · have h1 : (xs.length / n + 1) * n ≤ b * n := Nat.mul_le_mul_right n h
      rw [Nat.succ_mul] at h1
      rw [if_neg (by omega), List.append_nil,
        List.drop_eq_nil_of_le (by rw [List.length_append]; simp; omega),
        List.drop_eq_nil_of_le (by omega)]
  · rw [if_neg hb, if_neg hb]
    by_cases hL : b = L
    · rw [if_pos hL, if_pos hL]
      by_cases h : b ≤ xs.length / n
      · have h1 : b * n ≤ xs.length / n * n := Nat.mul_le_mul_right n h
        rw [if_pos (by omega), List.drop_append_of_le_length (by omega)]
      · have h1 : (xs.length / n + 1) * n ≤ b * n := Nat.mul_le_mul_right n (by omega)
        rw [Nat.succ_mul] at h1
        rw [if_neg (by omega), List.append_nil,
          List.drop_eq_nil_of_le (by rw [List.length_append]; simp; omega),
          List.drop_eq_nil_of_le (by omega)]
    · rw [if_neg hL, if_neg hL, if_neg (by omega), List.append_nil]

/-- Filling the buckets member by member gives the segments. -/
theorem buckets_eq_slice {n L : Nat} (hn : 0 < n) (xs : List α) (b : Nat) :
    buckets n L xs b = slice n L xs b := by
  induction xs using List.reverseRecOn with
  | nil => simp [buckets, fillBuckets, slice]
  | append_singleton xs x ih =>
      rw [buckets, fillBuckets_append, Nat.zero_add, slice_append hn, ← ih]
      rfl

theorem getElem?_slice {n L : Nat} (xs : List α) {b : Nat} (hb : b ≤ L) (j : Nat) :
    (slice n L xs b)[j]? = if b < L ∧ n ≤ j then none else xs[b * n + j]? := by
  unfold slice
  by_cases h : b < L
  · rw [if_pos h, List.getElem?_take, List.getElem?_drop]
    by_cases hj : j < n
    · rw [if_pos hj, if_neg (by omega)]
    · rw [if_neg hj, if_pos ⟨h, by omega⟩]
  · rw [if_neg h, if_pos (by omega), List.getElem?_drop, if_neg (by omega)]

theorem slice_eq_nil {n L : Nat} (hn : 0 < n) (xs : List α) {b : Nat} (hb : b ≤ L) :
    slice n L xs b = [] ↔ xs.length ≤ b * n := by
  rw [← List.length_eq_zero_iff]
  unfold slice
  by_cases h : b < L
  · rw [if_pos h, List.length_take, List.length_drop]; omega
  · rw [if_neg h, if_pos (by omega), List.length_drop]; omega

theorem flatMap_slice_lt {n L : Nat} (xs : List α) :
    ∀ {m : Nat}, m ≤ L → (List.range m).flatMap (slice n L xs) = xs.take (m * n)
  | 0, _ => by simp
  | m + 1, h => by
      rw [List.range_succ, List.flatMap_append, flatMap_slice_lt xs (by omega)]
      simp only [List.flatMap_cons, List.flatMap_nil, List.append_nil]
      rw [slice, if_pos (by omega), Nat.succ_mul, List.take_add]

/-- The buckets joined in order are the list: nothing is lost, moved or
doubled. -/
theorem flatMap_slice {n L : Nat} (xs : List α) :
    (List.range (L + 1)).flatMap (slice n L xs) = xs := by
  rw [List.range_succ, List.flatMap_append, flatMap_slice_lt xs (Nat.le_refl L)]
  simp only [List.flatMap_cons, List.flatMap_nil, List.append_nil]
  rw [slice, if_neg (Nat.lt_irrefl L), if_pos rfl, List.take_append_drop]

/-- Lists that are empty from some position on: those that are not, counted,
are the front ones, and joining these joins all. -/
theorem flatMap_range_countP {f : Nat → List α} (h : ∀ b, f b = [] → f (b + 1) = []) (N : Nat) :
    (List.range ((List.range N).countP fun b => !(f b).isEmpty)).flatMap f =
        (List.range N).flatMap f ∧
      ∀ b < (List.range N).countP fun b => !(f b).isEmpty, f b ≠ [] := by
  have hstay : ∀ b k, f b = [] → f (b + k) = [] := by
    intro b k hb
    induction k with
    | zero => exact hb
    | succ k ih => exact h _ ih
  induction N with
  | zero => exact ⟨rfl, fun b hb => absurd hb (Nat.not_lt_zero b)⟩
  | succ N ih =>
      rcases hN : f N with _ | ⟨x, xs⟩
      · rw [List.range_succ, List.countP_append, List.flatMap_append]
        simpa [hN] using ih
      · have hall : ∀ b, b ≤ N → f b ≠ [] := by
          intro b hb hnil
          have hlast := hstay b (N - b) hnil
          rw [Nat.add_sub_cancel' hb, hN] at hlast
          cases hlast
        have hcount : (List.range (N + 1)).countP (fun b => !(f b).isEmpty) = N + 1 := by
          rw [List.countP_eq_length.mpr, List.length_range]
          intro b hb
          simpa using hall b (Nat.lt_succ_iff.mp (List.mem_range.mp hb))
        rw [hcount]
        exact ⟨rfl, fun b hb => hall b (Nat.lt_succ_iff.mp hb)⟩

theorem slice_succ_eq_nil {n L : Nat} (hn : 0 < n) {xs : List α} {b : Nat}
    (h : slice n L xs b = []) : slice n L xs (b + 1) = [] := by
  rcases Nat.lt_or_ge L (b + 1) with hb | hb
  · rw [slice, if_neg (by omega), if_neg (by omega)]
  · have hlen := (slice_eq_nil hn xs (Nat.le_of_succ_le hb)).mp h
    rw [slice_eq_nil hn xs hb, Nat.succ_mul]
    exact Nat.le_add_right_of_le hlen

/-- As many buckets as are not empty, taken from the front, hold the list. -/
theorem flatMap_slice_countP {n L : Nat} (hn : 0 < n) (xs : List α) :
    (List.range ((List.range (L + 1)).countP fun b => !(slice n L xs b).isEmpty)).flatMap
        (slice n L xs) = xs ∧
      ∀ b < (List.range (L + 1)).countP fun b => !(slice n L xs b).isEmpty,
        slice n L xs b ≠ [] := by
  have h := flatMap_range_countP (f := slice n L xs) (fun _ => slice_succ_eq_nil hn) (L + 1)
  rwa [flatMap_slice] at h

/-! ## Overlays -/

/-- Combine two lists from their fronts; what is left of the first is kept. -/
def zipOnto (f : α → γ → α) : List α → List γ → List α
  | [], _ => []
  | x :: xs, [] => x :: xs
  | x :: xs, v :: vs => f x v :: zipOnto f xs vs

/-- Combine the members of `xs` from position `start` on with `vs`. -/
def overlay (f : α → γ → α) (start : Nat) (vs : List γ) (xs : List α) : List α :=
  xs.take start ++ zipOnto f (xs.drop start) vs

theorem getElem?_zipOnto (f : α → γ → α) :
    ∀ (xs : List α) (vs : List γ) (j : Nat),
      (zipOnto f xs vs)[j]? = xs[j]?.map fun x => (vs[j]?.map (f x)).getD x
  | [], _, j => by simp [zipOnto]
  | x :: xs, [], j => by simp [zipOnto]
  | x :: xs, v :: vs, 0 => by simp [zipOnto]
  | x :: xs, v :: vs, j + 1 => by simpa [zipOnto] using getElem?_zipOnto f xs vs j

@[simp] theorem length_zipOnto (f : α → γ → α) :
    ∀ (xs : List α) (vs : List γ), (zipOnto f xs vs).length = xs.length
  | [], _ => rfl
  | _ :: _, [] => rfl
  | _ :: xs, _ :: vs => congrArg (· + 1) (length_zipOnto f xs vs)

@[simp] theorem length_overlay (f : α → γ → α) (start : Nat) (vs : List γ) (xs : List α) :
    (overlay f start vs xs).length = xs.length := by
  simp [overlay]; omega

/-- A member before the start is kept; one after it is combined with the value
that falls on it, if there is one. -/
theorem getElem?_overlay (f : α → γ → α) (start : Nat) (vs : List γ) (xs : List α) (j : Nat) :
    (overlay f start vs xs)[j]? =
      xs[j]?.map fun x => if start ≤ j then (vs[j - start]?.map (f x)).getD x else x := by
  by_cases hj : j < xs.length
  · unfold overlay
    rw [List.getElem?_append]
    by_cases h : j < start
    · rw [if_pos (by rw [List.length_take]; omega), List.getElem?_take, if_pos h]
      simp [show ¬ start ≤ j by omega]
    · rw [if_neg (by rw [List.length_take]; omega), getElem?_zipOnto, List.length_take,
        List.getElem?_drop, show min start xs.length = start by omega,
        show start + (j - start) = j by omega]
      simp [show start ≤ j by omega]
  · have hx : xs[j]? = none := List.getElem?_eq_none (by omega)
    rw [hx, List.getElem?_eq_none (by rw [length_overlay]; omega)]
    rfl

theorem mem_overlay {f : α → γ → α} {start : Nat} {vs : List γ} {xs : List α} {y : α}
    (h : y ∈ overlay f start vs xs) : ∃ x ∈ xs, y = x ∨ ∃ v ∈ vs, y = f x v := by
  obtain ⟨j, hj⟩ := List.mem_iff_getElem?.mp h
  rw [getElem?_overlay, Option.map_eq_some_iff] at hj
  obtain ⟨x, hx, rfl⟩ := hj
  refine ⟨x, List.mem_of_getElem? hx, ?_⟩
  split
  · cases hv : vs[j - start]? with
    | none => exact Or.inl rfl
    | some v => exact Or.inr ⟨v, List.mem_of_getElem? hv, rfl⟩
  · exact Or.inl rfl

theorem bucketOf_eq_iff {n L b j : Nat} (hn : 0 < n) (hb : b ≤ L) :
    bucketOf n L j = b ↔ b * n ≤ j ∧ (b < L → j < b * n + n) := by
  have hle : b ≤ j / n ↔ b * n ≤ j := Nat.le_div_iff_mul_le hn
  have hlt : j / n < b + 1 ↔ j < b * n + n := by
    rw [Nat.div_lt_iff_lt_mul hn, Nat.succ_mul]
  unfold bucketOf
  omega

/-- Values laid over a bucket from its start spare the other buckets exactly
when the bucket is the last one, or the values past its end change nothing. -/
theorem overlay_spares_iff {n L k : Nat} (hn : 0 < n) (hk : k ≤ L) {f : α → γ → α}
    {vs : List γ} {xs : List α} :
    (∀ j, bucketOf n L j ≠ k → (overlay f (k * n) vs xs)[j]? = xs[j]?) ↔
      k = L ∨ ∀ i v x, n ≤ i → vs[i]? = some v → xs[k * n + i]? = some x → f x v = x := by
  constructor
  · intro h
    rcases Nat.lt_or_ge k L with hkL | hkL
    · refine Or.inr fun i v x hi hv hx => ?_
      have hj : bucketOf n L (k * n + i) ≠ k := by
        rw [Ne, bucketOf_eq_iff hn hk]
        intro hin
        have := hin.2 hkL
        omega
      have := h _ hj
      rw [getElem?_overlay, hx, Option.map_some, if_pos (Nat.le_add_right _ _),
        Nat.add_sub_cancel_left, hv] at this
      exact Option.some.inj this
    · exact Or.inl (Nat.le_antisymm hk hkL)
  · intro h j hj
    rw [Ne, bucketOf_eq_iff hn hk] at hj
    rw [getElem?_overlay]
    cases hx : xs[j]? with
    | none => rfl
    | some x =>
        rw [Option.map_some]
        split
        · next hle =>
            cases hv : vs[j - k * n]? with
            | none => rfl
            | some v =>
                rcases h with rfl | h
                · exact absurd ⟨hle, fun hlt => absurd hlt (Nat.lt_irrefl _)⟩ hj
                · have hi : n ≤ j - k * n := by omega
                  have := h (j - k * n) v x hi hv (by rwa [Nat.add_sub_cancel' hle])
                  rw [Option.map_some, this]
                  rfl
        · rfl

theorem forall₂_overlay {α' γ' : Type} {R : α → α' → Prop} {S : γ → γ' → Prop} {f : α → γ → α}
    {g : α' → γ' → α'} (hfg : ∀ {x r v w}, R x r → S v w → R (f x v) (g r w)) (start : Nat) :
    ∀ {xs : List α} {rs : List α'} {vs : List γ} {ws : List γ'},
      List.Forall₂ R xs rs → List.Forall₂ S vs ws →
      List.Forall₂ R (overlay f start vs xs) (overlay g start ws rs) := by
  have hzip : ∀ {xs : List α} {rs : List α'} {vs : List γ} {ws : List γ'},
      List.Forall₂ R xs rs → List.Forall₂ S vs ws →
      List.Forall₂ R (zipOnto f xs vs) (zipOnto g rs ws) := by
    intro xs rs vs ws hxs hvs
    induction hxs generalizing vs ws with
    | nil => exact .nil
    | cons hx hxs ih =>
        cases hvs with
        | nil => exact .cons hx hxs
        | cons hv hvs => exact .cons (hfg hx hv) (ih hvs)
  intro xs rs vs ws hxs hvs
  exact List.rel_append (List.forall₂_take start hxs) (hzip (List.forall₂_drop start hxs) hvs)

/-- Values as many as the bucket has members reach that bucket alone. -/
theorem slice_overlay {n L : Nat} (f : α → γ → α) (xs : List α) (vs : List γ) {k b : Nat}
    (hk : k ≤ L) (hb : b ≤ L) (hvs : vs.length = (slice n L xs k).length) :
    slice n L (overlay f (k * n) vs xs) b =
      if b = k then List.zipWith f (slice n L xs k) vs else slice n L xs b := by
  apply List.ext_getElem?
  intro j
  rw [getElem?_slice _ hb]
  split
  · next hj =>
      by_cases hbk : b = k
      · subst hbk
        rw [if_pos rfl, List.getElem?_eq_none]
        rw [List.length_zipWith, slice, if_pos hj.1, List.length_take]; omega
      · rw [if_neg hbk, getElem?_slice _ hb, if_pos hj]
  · next hj =>
      rw [getElem?_overlay]
      by_cases hbk : b = k
      · subst hbk
        have hx : (slice n L xs b)[j]? = xs[b * n + j]? := by rw [getElem?_slice xs hb, if_neg hj]
        rw [if_pos rfl, List.getElem?_zipWith, ← hx]
        cases hs : (slice n L xs b)[j]? with
        | none => rfl
        | some x =>
            have hv : j < vs.length := hvs ▸ (List.getElem?_eq_some_iff.mp hs).1
            simp [show b * n + j - b * n = j by omega, List.getElem?_eq_getElem hv]
      · have hout : ∀ x, (if k * n ≤ b * n + j then
            (vs[b * n + j - k * n]?.map (f x)).getD x else x) = x := by
          intro x
          split
          · next hle =>
              have : vs.length ≤ b * n + j - k * n := by
                rcases Nat.lt_or_gt_of_ne hbk with hlt | hgt
                · have h1 : (b + 1) * n ≤ k * n := Nat.mul_le_mul_right n hlt
                  rw [Nat.succ_mul] at h1
                  omega
                · have h1 : (k + 1) * n ≤ b * n := Nat.mul_le_mul_right n hgt
                  rw [Nat.succ_mul] at h1
                  rw [hvs, slice, if_pos (by omega), List.length_take]
                  omega
              rw [List.getElem?_eq_none this]
              rfl
          · rfl
        rw [if_neg hbk, getElem?_slice _ hb, if_neg hj]
        simp [hout]

end Buckets

/-! ## A list of entries exported bucket by bucket -/

section Export

variable {ι α ε : Type} {β : ι → Type}

theorem forall₂_slice {γ : Type} {R : α → γ → Prop} {xs : List α} {ys : List γ} (n L b : Nat)
    (h : List.Forall₂ R xs ys) : List.Forall₂ R (slice n L xs b) (slice n L ys b) := by
  unfold slice
  split
  · exact List.forall₂_take n (List.forall₂_drop (b * n) h)
  · split
    · exact List.forall₂_drop (b * n) h
    · exact .nil

theorem exists_rows {read : α → Except ε (Row β)} :
    ∀ {entries : List α}, (∀ e ∈ entries, ∃ r, read e = .ok r) →
      ∃ rows, List.Forall₂ (fun e r => read e = .ok r) entries rows
  | [], _ => ⟨[], .nil⟩
  | e :: es, h => by
      obtain ⟨r, hr⟩ := h e List.mem_cons_self
      obtain ⟨rows, hrows⟩ := exists_rows fun e' he' => h e' (List.mem_cons_of_mem _ he')
      exact ⟨r :: rows, .cons hr hrows⟩

theorem rows_unique {read : α → Except ε (Row β)} {entries : List α} {rows rows' : List (Row β)}
    (h : List.Forall₂ (fun e r => read e = .ok r) entries rows)
    (h' : List.Forall₂ (fun e r => read e = .ok r) entries rows') : rows = rows' :=
  List.right_unique_forall₂' (fun _ _ _ h₁ h₂ => Except.ok.inj (h₁.symm.trans h₂)) h h'

/-- The object of a bucket: none for an empty bucket. -/
def exported (rows : List (Row β)) : Option (Table β) :=
  if rows.isEmpty then none else some (Table.ofRows rows)

theorem exported_eq_some {rows : List (Row β)} {t : Table β} :
    exported rows = some t ↔ rows ≠ [] ∧ t = Table.ofRows rows := by
  cases rows with
  | nil => simp [exported]
  | cons r rows => simp [exported, eq_comm]

/-- Cells laid over the rows of a bucket, as many as it has rows, replace the
column of its object and leave the others. -/
theorem exported_slice_overlay [DecidableEq ι] {n L : Nat} {rows : List (Row β)} {c : ι}
    {vs : List (β c)} {k b : Nat} (hk : k ≤ L) (hb : b ≤ L)
    (hvs : vs.length = (slice n L rows k).length) :
    exported (slice n L (overlay (fun r v => Function.update r c v) (k * n) vs rows) b) =
      if b = k then (exported (slice n L rows k)).map fun t => Function.update t c vs
      else exported (slice n L rows b) := by
  rw [slice_overlay _ _ _ hk hb hvs]
  split
  · generalize slice n L rows k = bucket at hvs ⊢
    cases bucket with
    | nil => rfl
    | cons r bucket =>
        cases vs with
        | nil => cases hvs
        | cons v vs =>
            rw [show exported (r :: bucket) = some (Table.ofRows (r :: bucket)) from rfl,
              Option.map_some, Table.update_ofRows c _ _ hvs]
            rfl
  · rfl

/-- The object of a bucket of entries. -/
def loadBucket (read : α → Except ε (Row β)) (entries : List α) :
    Except ε (Option (Table β)) :=
  if entries.isEmpty then .ok none else (pushRows read entries Table.empty).map some

/-- The entries put into their buckets, and the buckets exported in order. -/
def exportBuckets (read : α → Except ε (Row β)) (n L : Nat) (entries : List α) :
    (Fin (L + 1) → Option (Table β)) × Except ε Unit :=
  exportEach (fun b => loadBucket read (buckets n L entries b)) (List.finRange (L + 1))
    fun _ => none

theorem loadBucket_eq_ok {read : α → Except ε (Row β)} {entries : List α}
    {o : Option (Table β)} :
    loadBucket read entries = .ok o ↔
      ∃ rows, List.Forall₂ (fun e r => read e = .ok r) entries rows ∧ o = exported rows := by
  cases entries with
  | nil =>
      constructor
      · intro h
        cases h
        exact ⟨[], .nil, rfl⟩
      · rintro ⟨rows, hrows, rfl⟩
        cases hrows; rfl
  | cons e es =>
      have hne : ∀ {rows : List (Row β)}, List.Forall₂ (fun e r => read e = .ok r) (e :: es) rows →
          exported rows = some (Table.ofRows rows) := by
        intro rows hrows
        cases hrows; rfl
      simp only [loadBucket, List.isEmpty_cons, Bool.false_eq_true, if_false]
      constructor
      · intro h
        cases hp : pushRows read (e :: es) Table.empty with
        | error x => rw [hp] at h; cases h
        | ok t =>
            rw [hp] at h
            cases h
            obtain ⟨rows, hrows, rfl⟩ := pushRows_eq_ok.mp hp
            exact ⟨rows, hrows, (hne hrows).symm⟩
      · rintro ⟨rows, hrows, rfl⟩
        rw [pushRows_eq_ok.mpr ⟨rows, hrows, rfl⟩, hne hrows]
        rfl

/-- All buckets are exported exactly when every entry can be read, and then
each holds the rows of its segment. -/
theorem exportBuckets_eq_ok {read : α → Except ε (Row β)} {n L : Nat} (hn : 0 < n)
    {entries : List α} {g : Fin (L + 1) → Option (Table β)} :
    exportBuckets read n L entries = (g, .ok ()) ↔
      ∃ rows, List.Forall₂ (fun e r => read e = .ok r) entries rows ∧
        ∀ b : Fin (L + 1), g b = exported (slice n L rows b) := by
  rw [exportBuckets, exportEach_ok (fun _ _ => rfl) (List.nodup_finRange _)]
  simp only [List.mem_finRange, not_true, false_implies, implies_true, and_true, true_implies,
    buckets_eq_slice hn, loadBucket_eq_ok]
  constructor
  · intro h
    have hread : ∀ e ∈ entries, ∃ r, read e = .ok r := by
      intro e he
      rw [← flatMap_slice (n := n) (L := L) entries] at he
      obtain ⟨b, hb, he⟩ := List.mem_flatMap.mp he
      obtain ⟨rows, hrows, -⟩ := h ⟨b, List.mem_range.mp hb⟩
      obtain ⟨i, hi, rfl⟩ := List.mem_iff_getElem.mp he
      exact ⟨rows.get ⟨i, hrows.length_eq ▸ hi⟩, (List.forall₂_iff_get.mp hrows).2 i hi _⟩
    obtain ⟨rows, hrows⟩ := exists_rows hread
    refine ⟨rows, hrows, fun b => ?_⟩
    obtain ⟨rows', hrows', hg⟩ := h b
    rw [hg, rows_unique hrows' (forall₂_slice n L b hrows)]
  · rintro ⟨rows, hrows, hg⟩ b
    exact ⟨slice n L rows b, forall₂_slice n L b hrows, hg b⟩

theorem outcome_loadBucket {read : α → Except ε (Row β)} (entries : List α) :
    (loadBucket read entries).outcome = forM entries fun e => (read e).outcome := by
  cases entries with
  | nil => rfl
  | cons e es =>
      rw [← outcome_pushRows _ Table.empty]
      simp only [loadBucket, List.isEmpty_cons, Bool.false_eq_true, if_false]
      cases pushRows read (e :: es) Table.empty <;> rfl

/-- The export ends as reading the entries in their order does: the buckets do
not reorder them. -/
theorem outcome_exportBuckets {read : α → Except ε (Row β)} {n L : Nat} (hn : 0 < n)
    (entries : List α) :
    (exportBuckets read n L entries).2 = forM entries fun e => (read e).outcome := by
  have hjoin : (List.finRange (L + 1)).flatMap (fun b => slice n L entries b.val) = entries := by
    rw [← List.flatMap_map, List.map_coe_finRange_eq_range, flatMap_slice]
  rw [exportBuckets, outcome_exportEach]
  simp only [outcome_loadBucket, buckets_eq_slice hn]
  rw [← forM_flatMap, hjoin]

theorem exportBuckets_front {read : α → Except ε (Row β)} {n L : Nat} (hn : 0 < n)
    {entries : List α} {b b' : Fin (L + 1)} (hle : b ≤ b')
    (h : ((exportBuckets read n L entries).1 b').isSome) :
    ((exportBuckets read n L entries).1 b).isSome := by
  have hempty : ∀ b : Nat, loadBucket read (slice n L entries b) = .ok none ↔
      slice n L entries b = [] := by
    intro b
    constructor
    · intro hload
      obtain ⟨rows, hrows, hnone⟩ := loadBucket_eq_ok.mp hload
      have hlen := hrows.length_eq
      cases rows with
      | nil => exact List.eq_nil_of_length_eq_zero hlen
      | cons r rows => cases hnone
    · intro hnil
      rw [hnil]
      rfl
  have hbehind : (List.finRange (L + 1)).Pairwise fun b b' : Fin (L + 1) =>
      loadBucket read (buckets n L entries b) = .ok none →
        loadBucket read (buckets n L entries b') = .ok none := by
    refine (List.pairwise_lt_finRange (L + 1)).imp ?_
    intro b b' hlt hnone
    rw [buckets_eq_slice hn, hempty, slice_eq_nil hn entries (Nat.le_of_lt_succ b.isLt)] at hnone
    rw [buckets_eq_slice hn, hempty, slice_eq_nil hn entries (Nat.le_of_lt_succ b'.isLt)]
    exact Nat.le_trans hnone (Nat.mul_le_mul_right n (Nat.le_of_lt hlt))
  rcases Nat.eq_or_lt_of_le (Fin.le_def.mp hle) with heq | hlt
  · rwa [Fin.ext heq]
  · have hnone : ∀ i ∈ List.finRange (L + 1), (fun _ : Fin (L + 1) => (none : Option (Table β))) i
        = none := fun _ _ => rfl
    have hfront := exportEach_front hnone (List.nodup_finRange (L + 1)) hbehind
    have hboth : (List.finRange (L + 1)).Pairwise fun i j => i < j ∧
        (((exportBuckets read n L entries).1 j).isSome →
          ((exportBuckets read n L entries).1 i).isSome) :=
      (List.pairwise_lt_finRange (L + 1)).and hfront
    have hlength : (List.finRange (L + 1)).length = L + 1 := List.length_finRange
    have hget := List.pairwise_iff_getElem.mp hboth b.val b'.val (hlength.symm ▸ b.isLt)
      (hlength.symm ▸ b'.isLt) hlt
    rw [List.getElem_finRange, List.getElem_finRange] at hget
    exact hget.2 h

/-- Even if the export breaks off, an object that is exported is the
columns of some list of rows. -/
theorem exportBuckets_some {read : α → Except ε (Row β)} {n L : Nat}
    {entries : List α} {b : Fin (L + 1)} {t : Table β}
    (h : (exportBuckets read n L entries).1 b = some t) :
    ∃ rows, rows ≠ [] ∧ t = Table.ofRows rows := by
  rcases exportEach_some h with h | h
  · obtain ⟨rows, -, ht⟩ := loadBucket_eq_ok.mp h
    exact ⟨rows, exported_eq_some.mp ht.symm⟩
  · cases h

end Export
