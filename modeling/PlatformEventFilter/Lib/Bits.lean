/-
# `Lib.Bits` — agreement of bit vectors

Tests on masked words, in the terms of single bits.  Two words that are equal
under a mask agree on its bits, and a conjunction that is not zero has a bit.

    AgreeOn mask x y     `x` and `y` have the same bits where `mask` has ones
    AgreeOff mask x y    they have a bit in common where it has a zero
-/
import Mathlib.Tactic.ByContra

namespace Bits

variable {w : Nat}

/-- Every bit of the mask is the same in both words. -/
def AgreeOn (mask x y : BitVec w) : Prop :=
  ∀ i, mask.getLsbD i = true → x.getLsbD i = y.getLsbD i

/-- Some bit outside of the mask is the same in both words. -/
def AgreeOff (mask x y : BitVec w) : Prop :=
  ∃ i < w, mask.getLsbD i = false ∧ x.getLsbD i = y.getLsbD i

theorem and_eq_and_iff {mask x y : BitVec w} : x &&& mask = y &&& mask ↔ AgreeOn mask x y := by
  constructor
  · intro h i hi
    have hbit := congrArg (fun v => v.getLsbD i) h
    simpa [hi] using hbit
  · intro h
    apply BitVec.eq_of_getLsbD_eq
    intro i _
    rw [BitVec.getLsbD_and, BitVec.getLsbD_and]
    cases hm : mask.getLsbD i with
    | false => rw [Bool.and_false, Bool.and_false]
    | true => rw [h i hm]

theorem ne_zero_iff {x : BitVec w} : x ≠ 0 ↔ ∃ i < w, x.getLsbD i = true := by
  constructor
  · intro h
    by_contra hnone
    refine h (BitVec.eq_of_getLsbD_eq fun i hi => ?_)
    have hzero : (0 : BitVec w).getLsbD i = false := BitVec.getLsbD_zero
    rw [hzero]
    exact Bool.eq_false_iff.mpr fun hbit => hnone ⟨i, hi, hbit⟩
  · rintro ⟨i, _, hi⟩ rfl
    cases hi.symm.trans BitVec.getLsbD_zero

theorem exists_of_ne_allOnes {mask : BitVec w} (h : mask ≠ BitVec.allOnes w) :
    ∃ i < w, mask.getLsbD i = false := by
  by_contra hnone
  refine h (BitVec.eq_of_getLsbD_eq fun i hi => ?_)
  rw [BitVec.getLsbD_allOnes, decide_eq_true hi]
  exact Bool.of_not_eq_false fun hbit => hnone ⟨i, hi, hbit⟩

/-- Outside of a mask, two words have a one in common or a zero. -/
theorem agreeOff_iff {mask x y : BitVec w} :
    AgreeOff mask x y ↔ x &&& ~~~mask &&& y ≠ 0 ∨ ~~~(x &&& ~~~mask ||| mask) &&& ~~~y ≠ 0 := by
  rw [ne_zero_iff, ne_zero_iff]
  constructor
  · rintro ⟨i, hi, hmask, hsame⟩
    cases hx : x.getLsbD i with
    | false =>
        rw [hx] at hsame
        refine .inr ⟨i, hi, ?_⟩
        simp only [BitVec.getLsbD_and, BitVec.getLsbD_not, BitVec.getLsbD_or, hi, hmask, hx,
          ← hsame]
        rfl
    | true =>
        rw [hx] at hsame
        refine .inl ⟨i, hi, ?_⟩
        simp only [BitVec.getLsbD_and, BitVec.getLsbD_not, hi, hmask, hx, ← hsame]
        rfl
  · rintro (⟨i, hi, hbit⟩ | ⟨i, hi, hbit⟩)
    · simp only [BitVec.getLsbD_and, BitVec.getLsbD_not, hi, decide_true, Bool.true_and,
        Bool.and_eq_true, Bool.not_eq_true'] at hbit
      exact ⟨i, hi, hbit.1.2, hbit.1.1.trans hbit.2.symm⟩
    · simp only [BitVec.getLsbD_and, BitVec.getLsbD_not, BitVec.getLsbD_or, hi, decide_true,
        Bool.true_and, Bool.and_eq_true, Bool.not_eq_true', Bool.or_eq_false_iff] at hbit
      obtain ⟨⟨hx, hmask⟩, hy⟩ := hbit
      rw [hmask, Bool.not_false, Bool.and_true] at hx
      exact ⟨i, hi, hmask, hx.trans hy.symm⟩

end Bits
