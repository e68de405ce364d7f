/-
# `Lib.Split` — a list split at the last element of a kind

    afterLast p xs       what follows the last element that satisfies `p`, the
                         whole list when there is none
    exists_split_last    a list with such an element is `pre ++ x :: post`, the
                         element being the last of its kind

The second half is about positions: the last one below a bound at which a
predicate holds.
-/
import Mathlib.Data.List.TakeWhile

namespace Split

variable {α : Type} {p : α → Bool}

def afterLast (p : α → Bool) (xs : List α) : List α := (xs.reverse.takeWhile fun x => !p x).reverse

theorem exists_split_last {xs : List α} (h : ∃ x ∈ xs, p x = true) :
    ∃ pre x post, xs = pre ++ x :: post ∧ p x = true ∧ ∀ y ∈ post, p y = false := by
  induction xs with
  | nil =>
      obtain ⟨x, hx, -⟩ := h
      exact absurd hx List.not_mem_nil
  | cons y ys ih =>
      by_cases hlater : ∃ x ∈ ys, p x = true
      · obtain ⟨pre, x, post, rfl, hx, hpost⟩ := ih hlater
        exact ⟨y :: pre, x, post, rfl, hx, hpost⟩
      · have hnone : ∀ x ∈ ys, p x = false := by
          intro x hx
          exact Bool.eq_false_iff.mpr fun hp => hlater ⟨x, hx, hp⟩
        obtain ⟨x, hx, hp⟩ := h
        rcases List.mem_cons.mp hx with rfl | hx
        · exact ⟨[], x, ys, rfl, hp, hnone⟩
        · exact absurd ⟨x, hx, hp⟩ hlater

theorem afterLast_of_none {xs : List α} (h : ∀ x ∈ xs, p x = false) : afterLast p xs = xs := by
  have hall : ∀ x ∈ xs.reverse, (!p x) = true := by
    intro x hx
    rw [h x (List.mem_reverse.mp hx)]
    rfl
  rw [afterLast, List.takeWhile_eq_self_iff.mpr hall, List.reverse_reverse]

theorem afterLast_append {pre post : List α} {x : α} (hx : p x = true)
    (hpost : ∀ y ∈ post, p y = false) : afterLast p (pre ++ x :: post) = post := by
  have hall : ∀ y ∈ post.reverse, (!p y) = true := by
    intro y hy
    rw [hpost y (List.mem_reverse.mp hy)]
    rfl
  have hreverse : (pre ++ x :: post).reverse = post.reverse ++ x :: pre.reverse := by
    simp only [List.reverse_append, List.reverse_cons, List.append_assoc, List.singleton_append]
  have hstop : (x :: pre.reverse).takeWhile (fun y => !p y) = [] := by
    rw [List.takeWhile_cons, hx]
    rfl
  rw [afterLast, hreverse, List.takeWhile_append_of_pos hall, hstop, List.append_nil,
    List.reverse_reverse]

theorem getLast?_filter_range {q : Nat → Bool} {i n : Nat} (hi : i < n) (hq : q i = true)
    (hlast : ∀ j, i < j → j < n → q j = false) :
    ((List.range n).filter q).getLast? = some i := by
  induction n with
  | zero => exact absurd hi (Nat.not_lt_zero i)
  | succ n ih =>
      rw [List.range_succ, List.filter_append]
      rcases Nat.lt_succ_iff_lt_or_eq.mp hi with hlt | rfl
      · have hn : q n = false := hlast n hlt (Nat.lt_succ_self n)
        rw [List.filter_cons_of_neg (by rw [hn]; exact Bool.false_ne_true), List.filter_nil,
          List.append_nil]
        exact ih hlt fun j hij hjn => hlast j hij (Nat.lt_succ_of_lt hjn)
      · rw [List.filter_cons_of_pos hq, List.filter_nil, List.getLast?_append]
        rfl

end Split
