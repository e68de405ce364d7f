/-
# `Frame` — which rows of the file a Set on a list object reaches

The loader puts ten rows of the filter table (fifteen of the policy table) into
each list and the rest into the last one.  The monitor writes the new column
from the first row of the list on, as far as the *table* reaches.  The two
agree on where a list starts, not on where it ends:

    loader   list k of a table with lists of n rows:  rows k n .. (k + 1) n - 1
    monitor  a column of m cells on list k:           rows k n .. k n + m - 1

`fileAfter_isolated_iff` is the exact condition under which a signal leaves the
rows of all the other lists alone; `overlong_set_overwrites_next_list` is a Set
the setters accept that does not.
-/
import PlatformEventFilter.Monitor

namespace Pef

/-- Between `d` and `d'` only rows of the list written to have changed. -/
def Isolated (d d' : Json) (w : ColumnWrite) : Prop :=
  ∀ table j, ¬ (table = w.table ∧ bucketOf w.size 3 j = w.bucket) →
    (rowsOf table d')[j]? = (rowsOf table d)[j]?

/-- The list is the last one, or every cell past its end that falls on a row
repeats what that row stores. -/
def StaysInList (w : ColumnWrite) (xs : List Json) : Prop :=
  w.bucket = 3 ∨ ∀ i v e, w.size ≤ i → w.cells[i]? = some v →
    xs[w.bucket * w.size + i]? = some e → e.find? w.property = some v

theorem setMember_eq_self {property : String} {e v : Json} (h : IsObj e) :
    setMember property e v = e ↔ e.find? property = some v := by
  obtain ⟨ms, rfl⟩ := h
  simp only [setMember, Json.obj.injEq]
  exact Members.assign_eq_self

theorem column_size_pos {req : SetRequest} {w : ColumnWrite} (hw : req.column = some w) :
    0 < w.size := by
  cases req with
  | eventFilter b c value => cases hw; exact Nat.succ_pos _
  | alertPolicy b c value => cases hw; exact Nat.succ_pos _
  | pefConfInfo c value => cases hw

theorem rowsOf_fileAfter {ms : List (String × Json)} {xs : List Json} {req : SetRequest}
    {w : ColumnWrite} (hwf : (Json.obj ms).WF) (hw : req.column = some w)
    (hxs : ms.lookup w.table = some (.arr xs)) (hobj : ∀ e ∈ xs, IsObj e) (table : String) :
    rowsOf table (fileAfter (.obj ms) req) =
      if table = w.table then w.rows xs else rowsOf table (.obj ms) := by
  have hnd := Members.nodup_assign (k := w.table) (v := .arr (w.rows xs)) hwf.nodup
  rw [fileAfter, handleSignal_column hw hxs hobj]
  show rowsOf table (.obj (req.writeBack _)) = _
  rw [rowsOf_writeBack req hnd]
  simp only [rowsOf, Json.find?, Members.lookup_assign]
  rcases eq_or_ne w.table table with h | h
  · rw [if_pos h, if_pos h.symm]
  · rw [if_neg h, if_neg h.symm]

/-- A signal leaves the rows of every other list as they were exactly when the
column stays in its list. -/
theorem fileAfter_isolated_iff {ms : List (String × Json)} {xs : List Json} {req : SetRequest}
    {w : ColumnWrite} (hwf : (Json.obj ms).WF) (hw : req.column = some w)
    (hxs : ms.lookup w.table = some (.arr xs)) (hobj : ∀ e ∈ xs, IsObj e) :
    Isolated (.obj ms) (fileAfter (.obj ms) req) w ↔ StaysInList w xs := by
  have hrows : rowsOf w.table (.obj ms) = xs := by
    simp only [rowsOf, Json.find?, hxs]
  have hspare : (∀ j, bucketOf w.size 3 j ≠ w.bucket → (w.rows xs)[j]? = xs[j]?) ↔ _ :=
    overlay_spares_iff (column_size_pos hw) (show w.bucket.val ≤ 3 by omega)
  have hcells : (∀ i v e, w.size ≤ i → w.cells[i]? = some v →
        xs[w.bucket * w.size + i]? = some e → setMember w.property e v = e) ↔
      ∀ i v e, w.size ≤ i → w.cells[i]? = some v →
        xs[w.bucket * w.size + i]? = some e → e.find? w.property = some v := by
    refine forall_congr' fun i => forall_congr' fun v => forall_congr' fun e => ?_
    refine imp_congr_right fun _ => imp_congr_right fun _ => imp_congr_right fun he => ?_
    exact setMember_eq_self (hobj e (List.mem_of_getElem? he))
  rw [StaysInList, ← hcells, Fin.ext_iff]
  refine Iff.trans ?_ hspare
  constructor
  · intro h j hj
    have := h w.table j fun hin => hj hin.2
    rwa [rowsOf_fileAfter hwf hw hxs hobj, if_pos rfl, hrows] at this
  · intro h table j hj
    rw [rowsOf_fileAfter hwf hw hxs hobj]
    split
    · next ht =>
        subst ht
        rw [hrows]
        exact h j fun hin => hj ⟨rfl, hin⟩
    · rfl

/-! ## A column longer than its list -/

/-- A filter table of eleven rows: ten in `List1`, one in `List2`. -/
def elevenRows : Json := .obj [("EventFilterTable", .arr (List.replicate 11 (.obj [])))]

/-- `FilterConfig` of `List1` set to eleven bytes. -/
def overlongSet : SetRequest := .eventFilter 0 .filterConfig (List.replicate 11 0x80)

/-- The Set is accepted, and its signal overwrites the row of `List2`. -/
theorem overlong_set_overwrites_next_list :
    (parsePefConfToDbus (some elevenRows)).2 = .ok () ∧
      (∀ env, setAccepted env (parsePefConfToDbus (some elevenRows)).1 overlongSet = true) ∧
      ∃ w, overlongSet.column = some w ∧
        ¬ Isolated elevenRows (fileAfter elevenRows overlongSet) w := by
  refine ⟨rfl, fun env => ?_, _, rfl, fun h => ?_⟩
  · simp only [setAccepted, overlongSet, Bool.and_eq_true]
    exact ⟨rfl, rfl⟩
  · have hrow := h "EventFilterTable" 10 (by decide)
    have hfind := congrArg (fun e => (e.bind (Json.find? "FilterConfig")).isSome) hrow
    exact absurd hfind (by decide)

/-- Ten cells on the same table stay in `List1`. -/
theorem full_set_isolated :
    Isolated elevenRows
      (fileAfter elevenRows (.eventFilter 0 .filterConfig (List.replicate 10 0x80)))
      ⟨"EventFilterTable", 10, 0, "FilterConfig", List.replicate 10 (.num 0x80)⟩ := by
  have hobj : ∀ e ∈ List.replicate 11 (Json.obj []), IsObj e := fun e he =>
    ⟨[], List.eq_of_mem_replicate he⟩
  have hwf : elevenRows.WF := by
    simp [elevenRows, Json.WF, Json.wfMembers_iff, Json.wfElems_iff]
  refine (fileAfter_isolated_iff hwf rfl rfl hobj).mpr (Or.inr fun i v e hi hv _ => ?_)
  rw [List.getElem?_eq_none (by simpa using hi)] at hv
  cases hv

end Pef
