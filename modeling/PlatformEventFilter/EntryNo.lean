/-
# `EntryNo` — the number in an object path

`findEntryNo` looks at the last component of a path, skips what is no digit and
converts from there.  `atoi` stops behind the digits, so the result is the value
of their first run (`findEntryNo_law`), and for the paths of the loader it is
the number that was printed (`findEntryNo_toString`).  Values from `2 ^ 31` on
are beyond `atoi`.
-/
import PlatformEventFilter.Lib.Split
import PlatformEventFilter.Monitor

namespace Pef

def isSeparator (c : Char) : Bool := c = '/' || c = '\\'

theorem not_isSeparator_of_isDigit {c : Char} (h : c.isDigit = true) : isSeparator c = false := by
  refine Bool.eq_false_iff.mpr fun hsep => ?_
  simp only [isSeparator, Bool.or_eq_true, decide_eq_true_eq] at hsep
  rcases hsep with rfl | rfl
  · exact absurd h (by decide)
  · exact absurd h (by decide)

/-- What is behind the last separator, or all of the path. -/
def LastComponent (path : String) (entry : List Char) : Prop :=
  (∀ c ∈ entry, isSeparator c = false) ∧
    (path.toList = entry ∨
      ∃ dir sep, isSeparator sep = true ∧ path.toList = dir ++ sep :: entry)

/-- The digits before which there is none, as far as they go. -/
structure FirstRun (entry run : List Char) : Prop where
  nonempty : run ≠ []
  digits : ∀ c ∈ run, c.isDigit = true
  split : ∃ pre post, entry = pre ++ (run ++ post) ∧ (∀ c ∈ pre, c.isDigit = false) ∧
    ∀ c, post.head? = some c → c.isDigit = false

/-! ## The two scans -/

theorem lastComponent_exists (path : String) : ∃ entry, LastComponent path entry := by
  by_cases hsep : ∃ c ∈ path.toList, isSeparator c = true
  · obtain ⟨dir, sep, entry, hpath, hisSep, hentry⟩ := Split.exists_split_last hsep
    exact ⟨entry, hentry, .inr ⟨dir, sep, hisSep, hpath⟩⟩
  · refine ⟨path.toList, fun c hc => ?_, .inl rfl⟩
    exact Bool.eq_false_iff.mpr fun hisSep => hsep ⟨c, hc, hisSep⟩

theorem LastComponent.eq {path : String} {entry : List Char} (h : LastComponent path entry) :
    Split.afterLast isSeparator path.toList = entry := by
  obtain ⟨hentry, hpath | ⟨dir, sep, hisSep, hpath⟩⟩ := h
  · rw [hpath, Split.afterLast_of_none hentry]
  · rw [hpath, Split.afterLast_append hisSep hentry]

/-- The digits the conversion sees. -/
def leadingDigits (entry : List Char) : List Char :=
  (entry.dropWhile fun c => !c.isDigit).takeWhile Char.isDigit

theorem leadingDigits_of_none {entry : List Char} (h : ∀ c ∈ entry, c.isDigit = false) :
    leadingDigits entry = [] := by
  have hdrop : entry.dropWhile (fun c => !c.isDigit) = [] := by
    refine List.dropWhile_eq_nil_iff.mpr fun c hc => ?_
    rw [h c hc]
    rfl
  rw [leadingDigits, hdrop, List.takeWhile_nil]

theorem FirstRun.eq {entry run : List Char} (h : FirstRun entry run) :
    leadingDigits entry = run := by
  obtain ⟨pre, post, rfl, hpre, hpost⟩ := h.split
  have hskip : ∀ c ∈ pre, (!c.isDigit) = true := by
    intro c hc
    rw [hpre c hc]
    rfl
  have hstart : (run ++ post).dropWhile (fun c => !c.isDigit) = run ++ post := by
    cases hrun : run with
    | nil => exact absurd hrun h.nonempty
    | cons c cs =>
        have hc : c.isDigit = true := h.digits c (hrun ▸ List.mem_cons_self)
        rw [List.cons_append, List.dropWhile_cons, hc]
        rfl
  have hstop : post.takeWhile Char.isDigit = [] := by
    cases post with
    | nil => rfl
    | cons c cs =>
        rw [List.takeWhile_cons, hpost c rfl]
        rfl
  rw [leadingDigits, List.dropWhile_append_of_pos hskip, hstart,
    List.takeWhile_append_of_pos h.digits, hstop, List.append_nil]

theorem firstRun_or_none (entry : List Char) :
    (∀ c ∈ entry, c.isDigit = false) ∨ ∃ run, FirstRun entry run := by
  induction entry with
  | nil => exact .inl fun c hc => absurd hc List.not_mem_nil
  | cons c cs ih =>
      cases hc : c.isDigit with
      | false =>
          rcases ih with hnone | ⟨run, hne, hdigits, pre, post, rfl, hpre, hpost⟩
          · exact .inl (List.forall_mem_cons.mpr ⟨hc, hnone⟩)
          · refine .inr ⟨run, hne, hdigits, c :: pre, post, rfl, ?_, hpost⟩
            exact List.forall_mem_cons.mpr ⟨hc, hpre⟩
      | true =>
          refine .inr ⟨(c :: cs).takeWhile Char.isDigit, ?_, ?_, [],
            (c :: cs).dropWhile Char.isDigit, ?_, fun d hd => absurd hd List.not_mem_nil, ?_⟩
          · rw [List.takeWhile_cons, hc]
            exact List.cons_ne_nil _ _
          · exact fun d hd => List.mem_takeWhile_imp hd
          · exact List.takeWhile_append_dropWhile.symm
          · intro d hd
            have hnot := List.head?_dropWhile_not Char.isDigit (c :: cs)
            rw [hd] at hnot
            exact hnot

/-! ## The value -/

theorem foldl_digits (cs : List Char) (k : Nat) :
    cs.foldl (fun (n : Int) c => 10 * n + ((c.toNat - '0'.toNat : Nat) : Int)) (k : Int) =
      ((Nat.ofDigitChars 10 cs k : Nat) : Int) := by
  induction cs generalizing k with
  | nil => rfl
  | cons c cs ih =>
      rw [List.foldl_cons, Nat.ofDigitChars_cons, ← ih]
      rfl

/-- The number is the value of the digits in the last component. -/
theorem findEntryNo_eq {path : String} {entry : List Char} (h : LastComponent path entry) :
    findEntryNo path = (Nat.ofDigitChars 10 (leadingDigits entry) 0 : Nat) := by
  have hscan : (path.toList.reverse.takeWhile fun c => c ≠ '/' && c ≠ '\\').reverse = entry := by
    rw [← h.eq, Split.afterLast]
    refine congrArg (fun q => (path.toList.reverse.takeWhile q).reverse) (funext fun c => ?_)
    simp only [isSeparator, Bool.not_or, decide_not]
  rw [findEntryNo, hscan]
  exact foldl_digits (leadingDigits entry) 0

theorem forall_of_all {p : Char → Bool} {b : Bool} {cs : List Char}
    (h : cs.all (fun c => p c == b) = true) : ∀ c ∈ cs, p c = b := by
  intro c hc
  exact eq_of_beq (List.all_eq_true.mp h c hc)

/-- What the loader prints into a path, the monitor reads out of it. -/
theorem findEntryNo_toString {n : Int} (hn : 0 ≤ n) :
    findEntryNo (destStringTableObj ++ toString n) = n := by
  obtain ⟨m, rfl⟩ := Int.eq_ofNat_of_zero_le hn
  have hdigit : ∀ c ∈ Nat.toDigits 10 m, c.isDigit = true := fun c hc =>
    Nat.isDigit_of_mem_toDigits (by decide) (by decide) hc
  have hpath : (destStringTableObj ++ toString (m : Int)).toList =
      destStringTableObj.toList ++ Nat.toDigits 10 m := by
    rw [String.toList_append, Int.toString_eq_repr, Int.repr_eq_if, if_pos hn, Int.toNat_natCast,
      Nat.toList_repr]
  obtain ⟨dir, hobj⟩ : ∃ dir, destStringTableObj.toList = dir ++ '/' :: "Entry".toList :=
    ⟨"/xyz/openbmc_project/PefAlertManager/DestinationSelector".toList, by decide +kernel⟩
  have hnosep : ∀ c ∈ "Entry".toList, isSeparator c = false := forall_of_all (by decide)
  have hnodigit : ∀ c ∈ "Entry".toList, c.isDigit = false := forall_of_all (by decide)
  have hentry : LastComponent (destStringTableObj ++ toString (m : Int))
      ("Entry".toList ++ Nat.toDigits 10 m) := by
    refine ⟨fun c hc => ?_, .inr ⟨dir, '/', rfl, ?_⟩⟩
    · rcases List.mem_append.mp hc with hc | hc
      · exact hnosep c hc
      · exact not_isSeparator_of_isDigit (hdigit c hc)
    · rw [hpath, hobj, List.append_assoc, List.cons_append]
  have hrun : FirstRun ("Entry".toList ++ Nat.toDigits 10 m) (Nat.toDigits 10 m) := by
    refine ⟨Nat.toDigits_ne_nil, hdigit, "Entry".toList, [], ?_, hnodigit, ?_⟩
    · rw [List.append_nil]
    · intro c hc
      cases hc
  rw [findEntryNo_eq hentry, hrun.eq, Nat.ofDigitChars_ten_toDigits]

/-- The number in a path is the value of the first run of digits in its last
component, 0 without one, and so each entry of the loader has its own. -/
theorem findEntryNo_law :
    (∀ path, ∃ entry, LastComponent path entry ∧
      ((∀ c ∈ entry, c.isDigit = false) ∨ ∃ run, FirstRun entry run)) ∧
    (∀ path entry, LastComponent path entry → (∀ c ∈ entry, c.isDigit = false) →
      findEntryNo path = 0) ∧
    (∀ path entry run, LastComponent path entry → FirstRun entry run →
      Nat.ofDigitChars 10 run 0 < 2 ^ 31 →
        findEntryNo path = (Nat.ofDigitChars 10 run 0 : Nat)) ∧
    (∀ n : Int, 0 ≤ n → n < 2 ^ 31 → findEntryNo (destStringTableObj ++ toString n) = n) ∧
    ∀ n m : Int, 0 ≤ n → n < 2 ^ 31 → 0 ≤ m → m < 2 ^ 31 →
      findEntryNo (destStringTableObj ++ toString n) =
        findEntryNo (destStringTableObj ++ toString m) → n = m := by
  refine ⟨?_, ?_, ?_, ?_, ?_⟩
  · intro path
    obtain ⟨entry, hentry⟩ := lastComponent_exists path
    exact ⟨entry, hentry, firstRun_or_none entry⟩
  · intro path entry hentry hnone
    rw [findEntryNo_eq hentry, leadingDigits_of_none hnone]
    rfl
  · intro path entry run hentry hrun _
    rw [findEntryNo_eq hentry, hrun.eq]
  · intro n hn _
    exact findEntryNo_toString hn
  · intro n m hn _ hm _ hsame
    rw [findEntryNo_toString hn, findEntryNo_toString hm] at hsame
    exact hsame

/-- Neither a later run nor digits of another component count. -/
theorem findEntryNo_list12 : findEntryNo "/eth3/List12b7" = 12 := by
  have hentry : LastComponent "/eth3/List12b7" "List12b7".toList :=
    ⟨forall_of_all (by decide), .inr ⟨"/eth3".toList, '/', rfl, rfl⟩⟩
  have hrun : FirstRun "List12b7".toList "12".toList := by
    refine ⟨by decide, forall_of_all (by decide), "List".toList, "b7".toList, rfl,
      forall_of_all (by decide), fun c hc => ?_⟩
    cases hc
    rfl
  exact findEntryNo_law.2.2.1 _ _ _ hentry hrun (by decide)

end Pef
