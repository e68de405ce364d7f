/-
# `Lib.Bimap` — one-to-one relations, pair by pair

A `Bimap` relates each left value to at most one right value and each right
value to at most one left value.  A pair is added only if both its sides are
new, so an insertion never disturbs the pairs that are there.

    insert m a b        `m` with the pair, if both sides are new
    insert_pairs        what it adds, if they are
    lookup_of_mem       a pair is found from its left side
    offerAll            one optional pair for each member of a list, in order
    mem_rights_offerAll_iff
                        of those that offer the same left value the first is
                        taken
-/
import Mathlib.Data.List.Nodup

/-- A one-to-one relation, as the list of its pairs in the order of insertion. -/
structure Bimap (α β : Type) where
  pairs : List (α × β)
  left_nodup : (pairs.map Prod.fst).Nodup
  right_nodup : (pairs.map Prod.snd).Nodup
  deriving DecidableEq

namespace Bimap

variable {α β : Type}

/-- The left values. -/
def lefts (m : Bimap α β) : List α := m.pairs.map Prod.fst

/-- The right values. -/
def rights (m : Bimap α β) : List β := m.pairs.map Prod.snd

/-- Nothing is related. -/
def empty : Bimap α β := ⟨[], List.nodup_nil, List.nodup_nil⟩

theorem lookup_of_mem [DecidableEq α] {m : Bimap α β} {a : α} {b : β} (h : (a, b) ∈ m.pairs) :
    m.pairs.lookup a = some b := by
  obtain ⟨pairs, left_nodup, right_nodup⟩ := m
  induction pairs with
  | nil => exact absurd h List.not_mem_nil
  | cons pair pairs ih =>
      obtain ⟨hpair, hnodup⟩ := List.nodup_cons.mp left_nodup
      rcases List.mem_cons.mp h with rfl | h
      · exact List.lookup_cons_self
      · have hne : a ≠ pair.1 := by
          rintro rfl
          exact hpair (List.mem_map.mpr ⟨(pair.1, b), h, rfl⟩)
        rw [List.lookup_cons, beq_eq_false_iff_ne.mpr hne]
        exact ih hnodup (List.nodup_cons.mp right_nodup).2 h

theorem mem_lefts {m : Bimap α β} {a : α} : a ∈ m.lefts ↔ ∃ b, (a, b) ∈ m.pairs :=
  ⟨fun h => (List.mem_map.mp h).elim fun p hp => ⟨p.2, hp.2 ▸ hp.1⟩,
    fun ⟨b, hb⟩ => List.mem_map.mpr ⟨(a, b), hb, rfl⟩⟩

theorem mem_rights {m : Bimap α β} {b : β} : b ∈ m.rights ↔ ∃ a, (a, b) ∈ m.pairs :=
  ⟨fun h => (List.mem_map.mp h).elim fun p hp => ⟨p.1, hp.2 ▸ hp.1⟩,
    fun ⟨a, ha⟩ => List.mem_map.mpr ⟨(a, b), ha, rfl⟩⟩

variable [DecidableEq α] [DecidableEq β]

/-- The pair added, if both its sides are new. -/
def insert (m : Bimap α β) (a : α) (b : β) : Bimap α β :=
  if h : a ∉ m.lefts ∧ b ∉ m.rights then
    { pairs := m.pairs ++ [(a, b)]
      left_nodup := by
        rw [List.map_append]
        exact List.concat_eq_append ▸ m.left_nodup.concat h.1
      right_nodup := by
        rw [List.map_append]
        exact List.concat_eq_append ▸ m.right_nodup.concat h.2 }
  else m

theorem insert_pairs {m : Bimap α β} {a : α} {b : β} (ha : a ∉ m.lefts) (hb : b ∉ m.rights) :
    (m.insert a b).pairs = m.pairs ++ [(a, b)] := by
  rw [insert, dif_pos ⟨ha, hb⟩]

theorem insert_lefts {m : Bimap α β} {a : α} {b : β} (ha : a ∉ m.lefts) (hb : b ∉ m.rights) :
    (m.insert a b).lefts = m.lefts ++ [a] := by
  rw [lefts, insert_pairs ha hb, List.map_append]
  rfl

theorem insert_rights {m : Bimap α β} {a : α} {b : β} (ha : a ∉ m.lefts) (hb : b ∉ m.rights) :
    (m.insert a b).rights = m.rights ++ [b] := by
  rw [rights, insert_pairs ha hb, List.map_append]
  rfl

theorem insert_eq_self {m : Bimap α β} {a : α} {b : β} (h : a ∈ m.lefts ∨ b ∈ m.rights) :
    m.insert a b = m := by
  rw [insert, dif_neg]
  rintro ⟨ha, hb⟩
  exact h.elim ha hb

theorem mem_insert_pairs {m : Bimap α β} {a : α} {b : β} {p : α × β} :
    p ∈ (m.insert a b).pairs ↔
      p ∈ m.pairs ∨ p = (a, b) ∧ a ∉ m.lefts ∧ b ∉ m.rights := by
  by_cases h : a ∉ m.lefts ∧ b ∉ m.rights
  · rw [insert_pairs h.1 h.2, List.mem_append, List.mem_singleton]
    exact or_congr Iff.rfl ⟨fun hp => ⟨hp, h⟩, And.left⟩
  · rw [insert, dif_neg h]
    exact ⟨Or.inl, fun hp => hp.elim id fun hp => absurd hp.2 h⟩

/-! ## Offers -/

section Offers

variable {σ : Type} (left : σ → Option α) (right : σ → β)

/-- A member may offer a left value for its right value. -/
def offer (m : Bimap α β) (x : σ) : Bimap α β :=
  match left x with
  | none => m
  | some a => m.insert a (right x)

def offerAll (m : Bimap α β) : List σ → Bimap α β := List.foldl (offer left right) m

theorem mem_offer_pairs {m : Bimap α β} {x : σ} {p : α × β} :
    p ∈ (offer left right m x).pairs ↔
      p ∈ m.pairs ∨ left x = some p.1 ∧ right x = p.2 ∧ p.1 ∉ m.lefts ∧ p.2 ∉ m.rights := by
  obtain ⟨a, b⟩ := p
  rw [offer]
  cases hleft : left x with
  | none => exact ⟨.inl, fun hp => hp.elim id fun hp => nomatch hp.1⟩
  | some a' =>
      rw [mem_insert_pairs]
      refine or_congr Iff.rfl ⟨?_, ?_⟩
      · rintro ⟨hp, hfree⟩
        cases hp
        exact ⟨rfl, rfl, hfree⟩
      · rintro ⟨ha, rfl, hfree⟩
        cases ha
        exact ⟨rfl, hfree⟩

theorem mem_offerAll_of_mem {p : α × β} :
    ∀ {xs : List σ} {m : Bimap α β}, p ∈ m.pairs → p ∈ (offerAll left right m xs).pairs := by
  intro xs
  induction xs with
  | nil => exact id
  | cons x xs ih =>
      intro m hp
      exact ih ((mem_offer_pairs left right).mpr (.inl hp))

theorem mem_of_mem_offerAll {p : α × β} :
    ∀ {xs : List σ} {m : Bimap α β}, p ∈ (offerAll left right m xs).pairs →
      p ∈ m.pairs ∨ ∃ x ∈ xs, left x = some p.1 ∧ right x = p.2 := by
  intro xs
  induction xs with
  | nil => exact .inl
  | cons x xs ih =>
      intro m hp
      rcases ih hp with hp | ⟨y, hy, hoffer⟩
      · rcases (mem_offer_pairs left right).mp hp with hp | ⟨hleft, hright, -⟩
        · exact .inl hp
        · exact .inr ⟨x, List.mem_cons_self, hleft, hright⟩
      · exact .inr ⟨y, List.mem_cons_of_mem x hy, hoffer⟩

theorem offerAll_append (m : Bimap α β) (xs ys : List σ) :
    offerAll left right m (xs ++ ys) = offerAll left right (offerAll left right m xs) ys := by
  exact List.foldl_append

theorem mem_rights_offerAll_cons_iff {m : Bimap α β} {x : σ} {xs : List σ}
    (hnew : right x ∉ m.rights) (hlater : ∀ y ∈ xs, right y ≠ right x) :
    right x ∈ (offerAll left right m (x :: xs)).rights ↔
      ∃ a, left x = some a ∧ a ∉ m.lefts := by
  constructor
  · intro h
    obtain ⟨a, ha⟩ := mem_rights.mp h
    have hrest : (a, right x) ∈ (offerAll left right (offer left right m x) xs).pairs := ha
    rcases mem_of_mem_offerAll left right hrest with ha | ⟨y, hy, -, hright⟩
    · rcases (mem_offer_pairs left right).mp ha with ha | ⟨hleft, -, hfree, -⟩
      · exact absurd (mem_rights.mpr ⟨a, ha⟩) hnew
      · exact ⟨a, hleft, hfree⟩
    · exact absurd hright (hlater y hy)
  · rintro ⟨a, hleft, hfree⟩
    have htaken : (a, right x) ∈ (offer left right m x).pairs :=
      (mem_offer_pairs left right).mpr (.inr ⟨hleft, rfl, hfree, hnew⟩)
    have hkept : (a, right x) ∈ (offerAll left right (offer left right m x) xs).pairs :=
      mem_offerAll_of_mem left right htaken
    exact mem_rights.mpr ⟨a, hkept⟩

/-- A right value is in exactly if it offers a left value that no earlier member
that is in offers. -/
theorem mem_rights_offerAll_iff {pre post : List σ} {x : σ}
    (hnodup : ((pre ++ x :: post).map right).Nodup) :
    right x ∈ (offerAll left right empty (pre ++ x :: post)).rights ↔
      ∃ a, left x = some a ∧ ∀ y ∈ pre, left y = some a →
        right y ∉ (offerAll left right empty (pre ++ x :: post)).rights := by
  rw [List.map_append, List.map_cons] at hnodup
  obtain ⟨hpre, hpost, hdisjoint⟩ := List.nodup_append.mp hnodup
  have hbefore : ∀ y ∈ pre, ∀ z ∈ x :: post, right y ≠ right z := fun y hy z hz =>
    hdisjoint _ (List.mem_map_of_mem hy) _ (List.mem_map_of_mem hz)
  have hlater : ∀ y ∈ post, right y ≠ right x := fun y hy heq =>
    (List.nodup_cons.mp hpost).1 (heq ▸ List.mem_map_of_mem hy)
  rw [offerAll_append]
  generalize hm : offerAll left right empty pre = m
  have hoffered : ∀ p ∈ m.pairs, ∃ y ∈ pre, left y = some p.1 ∧ right y = p.2 := fun p hp =>
    (mem_of_mem_offerAll left right (hm ▸ hp)).resolve_left List.not_mem_nil
  have hnew : right x ∉ m.rights := by
    intro hmem
    obtain ⟨a, ha⟩ := mem_rights.mp hmem
    obtain ⟨y, hy, -, hright⟩ := hoffered _ ha
    exact hbefore y hy x List.mem_cons_self hright
  rw [mem_rights_offerAll_cons_iff left right hnew hlater]
  refine exists_congr fun a => and_congr Iff.rfl ?_
  -- the left value is taken when an earlier member that is in offers it
  constructor
  · intro hfree y hy hleft hmem
    obtain ⟨a', ha'⟩ := mem_rights.mp hmem
    rcases mem_of_mem_offerAll left right ha' with ha' | ⟨z, hz, -, hright⟩
    · obtain ⟨y', hy', hleft', hright'⟩ := hoffered _ ha'
      obtain rfl : y' = y := List.inj_on_of_nodup_map hpre hy' hy hright'
      rw [hleft] at hleft'
      cases hleft'
      exact hfree (mem_lefts.mpr ⟨_, ha'⟩)
    · exact hbefore y hy z hz hright.symm
  · intro hnone hmem
    obtain ⟨b, hb⟩ := mem_lefts.mp hmem
    obtain ⟨y, hy, hleft, rfl⟩ := hoffered _ hb
    exact hnone y hy hleft (mem_rights.mpr ⟨a, mem_offerAll_of_mem left right hb⟩)

end Offers

end Bimap
