/-
# `Lib.Overwrite` — cells that are written over

A store has a value in some of its cells, and a write brings values for some
cells.  The store takes these and keeps the others, so that after a history of
writes each cell holds what was written to it last.

    overwrite s w           the store `s` with the values of `w`
    lastWritten ws k        the last value the history has for a cell
    foldl_overwrite         a store after a history
    foldl_overwrite_perm    the order of writes without a common cell is of no
                            account
-/
import Mathlib.Data.List.Perm.Basic

section Overwrite

variable {κ ν : Type}

/-- The values of the write, and the store where it has none. -/
def overwrite (s w : κ → Option ν) : κ → Option ν := fun k => (w k).or (s k)

/-- The last value a history has for a cell. -/
def lastWritten (ws : List (κ → Option ν)) (k : κ) : Option ν :=
  ws.reverse.findSome? fun w => w k

/-- No cell gets a value from both. -/
def Apart (w w' : κ → Option ν) : Prop := ∀ k, w k = none ∨ w' k = none

theorem overwrite_of_none {w : κ → Option ν} {k : κ} (h : w k = none) (s : κ → Option ν) :
    overwrite s w k = s k := by
  rw [overwrite, h, Option.none_or]

theorem lastWritten_cons (w : κ → Option ν) (ws : List (κ → Option ν)) (k : κ) :
    lastWritten (w :: ws) k = (lastWritten ws k).or (w k) := by
  rw [lastWritten, List.reverse_cons, List.findSome?_append, lastWritten]
  cases hw : w k <;> simp [hw]

/-- After a history each cell holds the last value written to it, or what it held
before. -/
theorem foldl_overwrite (ws : List (κ → Option ν)) (s : κ → Option ν) (k : κ) :
    ws.foldl overwrite s k = (lastWritten ws k).or (s k) := by
  induction ws generalizing s with
  | nil => rfl
  | cons w ws ih => rw [List.foldl_cons, ih, lastWritten_cons, overwrite, Option.or_assoc]

theorem lastWritten_eq_some_iff {ws : List (κ → Option ν)} {k : κ} {v : ν} :
    lastWritten ws k = some v ↔
      ∃ earlier w later, ws = earlier ++ w :: later ∧ w k = some v ∧ ∀ w' ∈ later, w' k = none := by
  rw [lastWritten, List.findSome?_eq_some_iff]
  constructor
  · rintro ⟨later, w, earlier, hws, hw, hlater⟩
    refine ⟨earlier.reverse, w, later.reverse, ?_, hw, fun w' hw' =>
      hlater w' (List.mem_reverse.mp hw')⟩
    rw [← List.reverse_reverse ws, hws, List.reverse_append, List.reverse_cons, List.append_assoc]
    rfl
  · rintro ⟨earlier, w, later, rfl, hw, hlater⟩
    refine ⟨later.reverse, w, earlier.reverse, ?_, hw, fun w' hw' =>
      hlater w' (List.mem_reverse.mp hw')⟩
    rw [List.reverse_append, List.reverse_cons, List.append_assoc]
    rfl

theorem lastWritten_eq_none_iff {ws : List (κ → Option ν)} {k : κ} :
    lastWritten ws k = none ↔ ∀ w ∈ ws, w k = none := by
  simp only [lastWritten, List.findSome?_eq_none_iff, List.mem_reverse]

theorem overwrite_right_comm {w w' : κ → Option ν} (h : Apart w w') (s : κ → Option ν) :
    overwrite (overwrite s w) w' = overwrite (overwrite s w') w := by
  funext k
  rcases h k with hw | hw'
  · rw [overwrite_of_none hw, overwrite, overwrite_of_none hw, overwrite]
  · rw [overwrite_of_none hw', overwrite, overwrite, overwrite_of_none hw']

/-- Writes without a common cell lead to one store, in whatever order they come. -/
theorem foldl_overwrite_perm {ws ws' : List (κ → Option ν)} (hperm : ws.Perm ws')
    (h : ws.Pairwise Apart) (s : κ → Option ν) :
    ws.foldl overwrite s = ws'.foldl overwrite s := by
  induction hperm generalizing s with
  | nil => rfl
  | cons w _ ih => exact ih (List.pairwise_cons.mp h).2 _
  | swap w w' ws =>
      have hapart : Apart w' w := (List.pairwise_cons.mp h).1 w List.mem_cons_self
      rw [List.foldl_cons, List.foldl_cons, List.foldl_cons, List.foldl_cons,
        overwrite_right_comm hapart]
  | trans hfirst _ ih ih' =>
      have hsymm : ∀ {w w' : κ → Option ν}, Apart w w' → Apart w' w :=
        fun hapart k => (hapart k).symm
      rw [ih h, ih' ((hfirst.pairwise_iff hsymm).mp h)]

end Overwrite
