/-
# `Provenance` — where the values in the tables come from

A setter checks each element of an array, the loader checks nothing.  In between a
value goes into a signal, from there into a member of the file, and with a restart
back through the conversions of the loader.

    Sourced loaded live sets     a cell is the loaded one, or one that has been set

`values_sourced`: through all of this no cell of a column gets a value that was made up,
or that belongs to another row.  At every point of every run what a row has in a filter
or policy column was in this row and column of the same list at the first start, or at
this row of an array that the setter of the column has checked and accepted for the
list; each setting was there at first or has been set; and the same holds of what a
restart would load at that point.
-/
import PlatformEventFilter.Restart

namespace Pef

/-! ## Tables -/

section Tables

variable {ι : Type} {β : ι → Type}

/-- Every cell of a column has been loaded with its value, or an array set on the column
has the value at the row of the cell. -/
def Sourced (loaded live : Bucket → Option (Table β))
    (sets : Bucket → (c : ι) → List (β c) → Prop) : Prop :=
  ∀ b l, live b = some l → ∀ (c : ι) (i : Nat) (x : β c), (l c)[i]? = some x →
    (∃ l₀, loaded b = some l₀ ∧ (l₀ c)[i]? = some x) ∨
      ∃ value, sets b c value ∧ value[i]? = some x

theorem sourced_refl (t : Bucket → Option (Table β))
    (sets : Bucket → (c : ι) → List (β c) → Prop) : Sourced t t sets :=
  fun _ l hl _ _ _ hx => .inl ⟨l, hl, hx⟩

theorem Sourced.setColumn [DecidableEq ι] {loaded live : Bucket → Option (Table β)}
    {sets : Bucket → (c : ι) → List (β c) → Prop} (h : Sourced loaded live sets) {b : Bucket}
    {c : ι} {value : List (β c)} (hvalue : sets b c value) :
    Sourced loaded (Pef.setColumn live b c value) sets := by
  intro b' l' hl' c' i x hx
  obtain ⟨l, hl, rfl⟩ := setColumn_some hl'
  by_cases hb : b' = b
  · subst hb
    rw [if_pos rfl] at hx
    by_cases hc : c' = c
    · subst hc
      rw [Function.update_self] at hx
      exact .inr ⟨value, hvalue, hx⟩
    · rw [Function.update_of_ne hc] at hx
      exact h b' l hl c' i x hx
  · rw [if_neg hb] at hx
    exact h b' l hl c' i x hx

end Tables

/-! ## Runs -/

section Runs

variable (es : List (WriteBehind.LifeEvent ManagerSet))

/-- The run sets the array on the column of the list, and the setter has checked it. -/
def filterSets (b : Bucket) (c : FilterColumn) (value : List c.Cell) : Prop :=
  ∃ env announced, .event (.set (.table env (.eventFilter b c value)) announced) ∈ es ∧
    filterValueValid env c value = true

def policySets (b : Bucket) (c : PolicyColumn) (value : List c.Cell) : Prop :=
  ∃ env announced, .event (.set (.table env (.alertPolicy b c value)) announced) ∈ es ∧
    policyValueValid env c value = true

def settingSets (c : ConfColumn) (value : c.Cell) : Prop :=
  ∃ env announced, .event (.set (.table env (.pefConfInfo c value)) announced) ∈ es

/-- All that the event process reads of the objects has been loaded, or set in the run. -/
structure StateSourced (loaded live : ManagerState) : Prop where
  filters : Sourced loaded.eventFilterTable live.eventFilterTable (filterSets es)
  policies : Sourced loaded.alertPolicyTable live.alertPolicyTable (policySets es)
  settings : ∀ r ∈ live.pefConfInfo, ∀ c, (∃ r₀ ∈ loaded.pefConfInfo, r c = r₀ c) ∨
    settingSets es c (r c)

variable {es}

theorem stateSourced_refl (s : ManagerState) : StateSourced es s s where
  filters := sourced_refl _ _
  policies := sourced_refl _ _
  settings r hr _ := .inl ⟨r, hr, rfl⟩

theorem StateSourced.apply {loaded live : ManagerState} {u : ManagerSet} {announced : Bool}
    (h : StateSourced es loaded live) (hmem : .event (.set u announced) ∈ es)
    (hacc : u.accepted live = true) : StateSourced es loaded (u.apply live) := by
  cases u with
  | table env req =>
      rw [ManagerSet.accepted, Bool.and_eq_true] at hacc
      obtain ⟨hacc, -⟩ := hacc
      cases req with
      | eventFilter b c value =>
          rw [setAccepted, Bool.and_eq_true] at hacc
          exact ⟨h.filters.setColumn ⟨env, announced, hmem, hacc.2⟩, h.policies, h.settings⟩
      | alertPolicy b c value =>
          rw [setAccepted, Bool.and_eq_true] at hacc
          exact ⟨h.filters, h.policies.setColumn ⟨env, announced, hmem, hacc.2⟩, h.settings⟩
      | pefConfInfo c value =>
          refine ⟨h.filters, h.policies, fun r' hr' c' => ?_⟩
          obtain ⟨r, hr, rfl⟩ := List.mem_map.mp hr'
          by_cases hc : c' = c
          · subst hc
            rw [Function.update_self]
            exact .inr ⟨env, announced, hmem⟩
          · rw [Function.update_of_ne hc]
            exact h.settings r hr c'
  | selector u => exact ⟨h.filters, h.policies, h.settings⟩
  | alertString b c value => exact ⟨h.filters, h.policies, h.settings⟩
  | systemGUID iface byte x => exact ⟨h.filters, h.policies, h.settings⟩
  | oemParam iface byte x => exact ⟨h.filters, h.policies, h.settings⟩

end Runs

/-- From a file of array tables that loads completely, with distinct selectors, at every
point of every run of Sets, signal deliveries and restarts: each value in the filter and
policy lists and the settings, live or as a restart would load them, is one that the same
row and column had at first, or one that its setter has accepted for this row in the run. -/
theorem values_sourced {d : Json} {loaded : ManagerState} {ns : List Int}
    (h₀ : Represents d loaded) (hselectors : IsTable (d.find? "DestinationSelector"))
    (hnumbered : NumberedTable d ns) {es : List (WriteBehind.LifeEvent ManagerSet)}
    {s : WriteBehind.State ManagerState Json ManagerSet}
    (h : Reached (managerStep loaded) ⟨loaded, [], d⟩ es s) :
    StateSourced es loaded s.live ∧ StateSourced es loaded (loadManager s.store) := by
  have hstart : (managerPersistence loaded).represents d loaded :=
    outlives_start h₀ hselectors hnumbered
  refine WriteBehind.restarted_keeps (P := StateSourced es loaded) survives_load
    (fun hmem hacc hx => hx.apply hmem hacc) (fun hrep hx => ?_) hstart (stateSourced_refl loaded) h
  -- a load brings back the tables and the settings
  have hload := congrArg Prod.fst hrep.represents.loads
  rw [loadManager, hload]
  exact ⟨hx.filters, hx.policies, hx.settings⟩

/-- A row enabled by a Set, an alert string, a channel, and a restart. -/
theorem restarted_values_sourced :
    ∃ s, runFrom (managerStep (loadManager threeTablesFile))
        ⟨loadManager threeTablesFile, [], threeTablesFile⟩ (restartRun 0) = some s ∧
      StateSourced (restartRun 0) (loadManager threeTablesFile) s.live := by
  have hrun : runFrom (managerStep (loadManager threeTablesFile))
      ⟨loadManager threeTablesFile, [], threeTablesFile⟩ (restartRun 0) = some _ := rfl
  exact ⟨_, hrun, (values_sourced threeTablesFile_represents (Or.inr (Or.inr ⟨_, rfl⟩))
    threeTablesFile_numbered (.last hrun)).1⟩

end Pef
