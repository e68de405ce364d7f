/-
# `Parallel` — the columns of an object, and their lengths

An object holds a table column by column, each column a property that is set on
its own.  No setter looks at the length of its array, so nothing keeps the
columns of an object equally long but the clients:

    parallel_iff_fits    they stay so exactly when every Set brings an array as
                         long as the one it replaces
    Parallel             every column as long as the object had rows when loaded

The readers differ in what they do with a short column.  The event filter drops
the row, the alert policies take the default of the cell; neither happens as
long as the columns are parallel.
-/
import PlatformEventFilter.Lib.Run
import PlatformEventFilter.Setters
import PlatformEventFilter.Action

namespace Pef

/-! ## Runs of Sets -/

/-- A Set, with what its setter is told by the rest of the system. -/
def setStep (s : ManagerState) (u : SetterEnv × SetRequest) : Option ManagerState :=
  setProperty u.1 s u.2

/-- The objects of a table are those of `t₀`, every column as long as the object
had rows there. -/
def ParallelTable {ι : Type} {β : ι → Type} (t₀ t : Bucket → Option (Table β)) : Prop :=
  ∀ b l, t b = some l → ∃ rows, t₀ b = some (Table.ofRows rows) ∧ l.Rect rows.length

/-- Every column of every object is as long as the object had rows in `s₀`. -/
structure Parallel (s₀ s : ManagerState) : Prop where
  eventFilterTable : ParallelTable s₀.eventFilterTable s.eventFilterTable
  alertPolicyTable : ParallelTable s₀.alertPolicyTable s.alertPolicyTable

/-- The value has the length of the columns of its object. -/
def FitsTable {ι : Type} {β : ι → Type} (t : Bucket → Option (Table β)) (b : Bucket) (c : ι)
    (value : List (β c)) : Prop :=
  ∀ l, t b = some l → value.length = (l c).length

theorem parallelTable_setColumn {ι : Type} [DecidableEq ι] {β : ι → Type}
    {t₀ t : Bucket → Option (Table β)} {b : Bucket} {c : ι} {value : List (β c)}
    (h : ParallelTable t₀ t) (hfits : FitsTable t b c value) :
    ParallelTable t₀ (setColumn t b c value) := by
  intro b' l' hl'
  obtain ⟨l, hl, rfl⟩ := setColumn_some hl'
  obtain ⟨rows, hrows, hrect⟩ := h b' l hl
  refine ⟨rows, hrows, ?_⟩
  split
  · next hb =>
      subst hb
      exact (Table.rect_update hrect c value).mpr ((hfits l hl).trans (hrect c))
  · exact hrect

theorem fitsTable_of_parallel {ι : Type} [DecidableEq ι] {β : ι → Type}
    {t₀ t : Bucket → Option (Table β)} {b : Bucket} {c : ι} {value : List (β c)}
    (h : ParallelTable t₀ t) (h' : ParallelTable t₀ (setColumn t b c value)) :
    FitsTable t b c value := by
  intro l hl
  have hset : setColumn t b c value b = some (Function.update l c value) := by
    rw [setColumn, Function.update_self, hl]
    rfl
  obtain ⟨rows, hrows, hrect⟩ := h b l hl
  obtain ⟨rows', hrows', hrect'⟩ := h' b _ hset
  have hsame := hrows.symm.trans hrows'
  have hlen : rows.length = rows'.length := by
    have hcol := congrArg (fun t : Table β => (t c).length) (Option.some.inj hsame)
    simpa using hcol
  have hvalue := hrect' c
  rw [Function.update_self] at hvalue
  rw [hvalue, hrect c, hlen]

theorem fits_iff {s : ManagerState} {req : SetRequest} :
    req.fits s = true ↔
      match req with
      | .eventFilter b c value => FitsTable s.eventFilterTable b c value
      | .alertPolicy b c value => FitsTable s.alertPolicyTable b c value
      | .pefConfInfo _ _ => True := by
  have hall : ∀ {τ : Type} (o : Option τ) (f : τ → Nat) (n : Nat),
      (o.all fun l => n == f l) = true ↔ ∀ l, o = some l → n = f l := by
    intro τ o f n
    refine ⟨fits_of_some, fun h => ?_⟩
    cases o with
    | none => rfl
    | some l => exact beq_iff_eq.mpr (h l rfl)
  cases req with
  | eventFilter b c value => exact hall _ (fun l : EventFilterList => (l c).length) _
  | alertPolicy b c value => exact hall _ (fun l : AlertPolicyList => (l c).length) _
  | pefConfInfo c value => exact ⟨fun _ => trivial, fun _ => rfl⟩

theorem parallel_step_iff {s₀ s s' : ManagerState} {u : SetterEnv × SetRequest}
    (h : Parallel s₀ s) (hstep : setStep s u = some s') :
    Parallel s₀ s' ↔ u.2.fits s = true := by
  obtain ⟨-, rfl⟩ := setProperty_eq_some.mp hstep
  rw [fits_iff]
  obtain ⟨env, req⟩ := u
  cases req with
  | eventFilter b c value =>
      exact ⟨fun h' => fitsTable_of_parallel h.eventFilterTable h'.eventFilterTable,
        fun hfits => ⟨parallelTable_setColumn h.eventFilterTable hfits, h.alertPolicyTable⟩⟩
  | alertPolicy b c value =>
      exact ⟨fun h' => fitsTable_of_parallel h.alertPolicyTable h'.alertPolicyTable,
        fun hfits => ⟨h.eventFilterTable, parallelTable_setColumn h.alertPolicyTable hfits⟩⟩
  | pefConfInfo c value =>
      exact ⟨fun _ => trivial, fun _ => ⟨h.eventFilterTable, h.alertPolicyTable⟩⟩

/-- In every run, the columns are parallel throughout exactly when every array
set fits. -/
theorem parallel_iff_fits {s₀ : ManagerState} (h₀ : Parallel s₀ s₀)
    {us : List (SetterEnv × SetRequest)} :
    (∀ s, Reached setStep s₀ us s → Parallel s₀ s) ↔
      ∀ s u s', Occurs setStep s₀ us s u s' → u.2.fits s = true := by
  constructor
  · intro h s u s' ho
    obtain ⟨_, _, _, _, hstep⟩ := id ho
    exact (parallel_step_iff (h s ho.reached) hstep).mp (h s' ho.reached_after)
  · intro h s hs
    refine Reached.induct (P := Parallel s₀) h₀ (fun s u s' ho hp => ?_) hs
    obtain ⟨_, _, _, _, hstep⟩ := id ho
    exact (parallel_step_iff hp hstep).mpr (h s u s' ho)

/-! ## The objects of a load -/

/-- The columns of every object are equally long. -/
abbrev SelfParallel (s : ManagerState) : Prop := Parallel s s

theorem parallelTable_exportBuckets {ι : Type} {β : ι → Type} {ε : Type}
    {read : Json → Except ε (Row β)} {n : Nat} {entries : List Json} :
    ParallelTable (exportBuckets read n 3 entries).1 (exportBuckets read n 3 entries).1 := by
  intro b l hl
  obtain ⟨rows, -, rfl⟩ := exportBuckets_some hl
  exact ⟨rows, hl, Table.ofRows_rect rows⟩

theorem parallel_load (data : Option Json) : SelfParallel (parsePefConfToDbus data).1 := by
  refine inOrder_induct (P := SelfParallel) ?_
    ⟨fun _ _ h => (nomatch h), fun _ _ h => (nomatch h)⟩
  intro f hf s hs
  have hother : ∀ s' : ManagerState, s'.eventFilterTable = s.eventFilterTable →
      s'.alertPolicyTable = s.alertPolicyTable → SelfParallel s' := by
    intro s' hfilter hpolicy
    exact ⟨by rw [hfilter]; exact hs.eventFilterTable, by rw [hpolicy]; exact hs.alertPolicyTable⟩
  simp only [List.mem_cons, List.not_mem_nil, or_false] at hf
  rcases hf with rfl | rfl | rfl | rfl | rfl | rfl | rfl
  · exact exportSection_induct (P := SelfParallel) hs fun _ => hother _ rfl rfl
  · exact exportSection_induct (P := SelfParallel) hs fun _ => hother _ rfl rfl
  · exact exportSection_induct (P := SelfParallel) hs fun _ => hother _ rfl rfl
  · exact exportSection_induct (P := SelfParallel) hs fun _ => ⟨parallelTable_exportBuckets, hs.alertPolicyTable⟩
  · exact exportSection_induct (P := SelfParallel) hs fun _ => ⟨hs.eventFilterTable, parallelTable_exportBuckets⟩
  · exact exportSection_induct (P := SelfParallel) hs fun _ => hother _ rfl rfl
  · exact exportSection_induct (P := SelfParallel) hs fun _ => hother _ rfl rfl

/-! ## The readers -/

/-- The reply carries the columns of a filter list. -/
def FilterReply (l : EventFilterList) (values : PropertyMap) : Prop :=
  ∀ c : FilterColumn, values.lookup c.name = some (c.encode (l c))

/-- The reply carries the columns of a policy list. -/
def PolicyReply (l : AlertPolicyList) (values : PropertyMap) : Prop :=
  ∀ c : PolicyColumn, values.lookup c.name = some (c.encode (l c))

theorem isSome_entryAt {t : EventFilterList} {n idx : Nat} (h : t.Rect n) (hidx : idx < n) :
    (entryAt t idx).isSome = true := by
  have hcol : ∀ c, ∃ x, (t c)[idx]? = some x := by
    intro c
    rw [← h c] at hidx
    exact ⟨_, List.getElem?_eq_getElem hidx⟩
  choose r hr using hcol
  simp only [entryAt, hr]
  rfl

theorem filter_rows_kept {l : EventFilterList} {n : Nat} {values : PropertyMap} (h : l.Rect n)
    (hreply : FilterReply l values) :
    ∃ t, readFilterList values = .ok t ∧ (t .filterConfig).length = n ∧
      ∀ idx < n, (entryAt t idx).isSome = true := by
  obtain ⟨t, ht, hcols⟩ := readFilterList_of_columns hreply
  refine ⟨t, ht, ?_, fun idx hidx => ?_⟩
  · rw [hcols .filterConfig (by decide), h]
  · rw [entryAt_congr hcols]
    exact isSome_entryAt h hidx

theorem readPolicyColumns_of_reply {l : AlertPolicyList} {values : PropertyMap}
    (h : PolicyReply l values) :
    readPolicyColumns values = .ok
      { groupNums := l .groupNums
        enableAlert := some (l .enableAlerts)
        policyAction := some (l .policyActions)
        channelNo := some (l .channelNos)
        destinationSel := some (l .destinationSels)
        eventSpecificAlertStr := some (l .eventSpecificStrs) } := by
  have hgroup := h .groupNums
  have henable := h .enableAlerts
  have haction := h .policyActions
  have hchannel := h .channelNos
  have hdest := h .destinationSels
  have hstr := h .eventSpecificStrs
  simp only [PolicyColumn.name, PolicyColumn.encode] at hgroup henable haction hchannel hdest hstr
  simp only [readPolicyColumns, PropertyMap.at, readU8s, readStrs, hgroup, henable, haction,
    hchannel, hdest, hstr]
  rfl

/-- Of parallel columns, every policy has the channel and the destination of
its own row. -/
theorem policy_rows_kept {l : AlertPolicyList} {n : Nat} {values : PropertyMap} (h : l.Rect n)
    (hreply : PolicyReply l values) :
    ∃ cols, readPolicyColumns values = .ok cols ∧
      ∀ no idx p, policyAt no cols idx = some p →
        (l .channelNos)[idx]? = some p.ChannelNo ∧
          (l .destinationSels)[idx]? = some p.DestinationSel := by
  refine ⟨_, readPolicyColumns_of_reply hreply, fun no idx p hp => ?_⟩
  unfold policyAt at hp
  split at hp
  · cases hp
  next groupNum hgroup =>
  split at hp
  · cases hp
  split at hp
  · cases hp
  cases hp
  have hidx : idx < n := h .groupNums ▸ (List.getElem?_eq_some_iff.mp hgroup).1
  have hcell : ∀ xs : List U8, xs.length = n → xs[idx]? = some (cellAt (some xs) 0 idx) := by
    intro xs hlen
    have hget := List.getElem?_eq_getElem (hlen ▸ hidx : idx < xs.length)
    rw [cellAt, Option.bind_some, hget]
    rfl
  exact ⟨hcell _ (h .channelNos), hcell _ (h .destinationSels)⟩

/-! ## Reachable states -/

/-- As long as clients set arrays of the length of those they replace, the
columns of every object keep the number of rows that was loaded, no filter row
is skipped and no policy is given a default. -/
theorem columns_stay_parallel (data : Option Json) {us : List (SetterEnv × SetRequest)}
    (hfits : ∀ s u s', Occurs setStep (parsePefConfToDbus data).1 us s u s' → u.2.fits s = true)
    {s : ManagerState} (hs : Reached setStep (parsePefConfToDbus data).1 us s) :
    (∀ b l, s.eventFilterTable b = some l → ∃ rows,
      (parsePefConfToDbus data).1.eventFilterTable b = some (Table.ofRows rows) ∧
      l.Rect rows.length ∧
      ∀ values, FilterReply l values →
        ∃ t, readFilterList values = .ok t ∧ (t .filterConfig).length = rows.length ∧
          ∀ idx < rows.length, (entryAt t idx).isSome = true) ∧
    (∀ b l, s.alertPolicyTable b = some l → ∃ rows,
      (parsePefConfToDbus data).1.alertPolicyTable b = some (Table.ofRows rows) ∧
      l.Rect rows.length ∧
      ∀ values, PolicyReply l values →
        ∃ cols, readPolicyColumns values = .ok cols ∧
          ∀ no idx p, policyAt no cols idx = some p →
            (l .channelNos)[idx]? = some p.ChannelNo ∧
              (l .destinationSels)[idx]? = some p.DestinationSel) := by
  have hp := (parallel_iff_fits (parallel_load data)).mpr hfits s hs
  constructor
  · intro b l hl
    obtain ⟨rows, hrows, hrect⟩ := hp.eventFilterTable b l hl
    exact ⟨rows, hrows, hrect, fun values => filter_rows_kept hrect⟩
  · intro b l hl
    obtain ⟨rows, hrows, hrect⟩ := hp.alertPolicyTable b l hl
    exact ⟨rows, hrows, hrect, fun values => policy_rows_kept hrect⟩

/-- A file with one policy row. -/
def onePolicyFile : Json := .obj
  [("AlertPolicyTable", .arr [.obj
      [("AlertPolicyGroupNum", .num 1), ("EnableAlert", .num 1), ("ChannelNo", .num 1),
       ("DestinationSel", .num 1)]])]

/-- A Set of the destinations of a policy list. -/
def setDestinations (b : Bucket) (value : List U8) : SetterEnv × SetRequest :=
  (⟨none, fun _ => none⟩, .alertPolicy b .destinationSels value)

/-- One destination for the one row of the file. -/
theorem one_destination_keeps_parallel :
    ∃ s, runFrom setStep (parsePefConfToDbus (some onePolicyFile)).1 [setDestinations 0 [2]] = some s ∧
      ∀ b l, s.alertPolicyTable b = some l → ∃ rows,
        (parsePefConfToDbus (some onePolicyFile)).1.alertPolicyTable b =
          some (Table.ofRows rows) ∧ l.Rect rows.length := by
  have hrun : runFrom setStep (parsePefConfToDbus (some onePolicyFile)).1 [setDestinations 0 [2]] =
      some _ := rfl
  have hfits : ∀ s u s', Occurs setStep (parsePefConfToDbus (some onePolicyFile)).1
      [setDestinations 0 [2]] s u s' → u.2.fits s = true := by
    intro s u s' ho
    obtain ⟨rfl, rfl⟩ := ho.singleton
    rfl
  refine ⟨_, hrun, fun b l hl => ?_⟩
  obtain ⟨rows, hrows, hrect, -⟩ :=
    (columns_stay_parallel (some onePolicyFile) hfits (Reached.last hrun)).2 b l hl
  exact ⟨rows, hrows, hrect⟩

/-- No destination at all is accepted too.  The columns are no longer parallel,
and the policy of the row is given the destination 0. -/
theorem no_destinations_accepted :
    ∃ s l, runFrom setStep (parsePefConfToDbus (some onePolicyFile)).1 [setDestinations 0 []] =
        some s ∧
      s.alertPolicyTable 0 = some l ∧ (∀ n, ¬ l.Rect n) ∧
      ∃ cols p, readPolicyColumns (PolicyColumn.all.map fun c => (c.name, c.encode (l c))) =
        .ok cols ∧ policyAt 1 cols 0 = some p ∧ p.DestinationSel = 0 := by
  refine ⟨_, _, rfl, rfl, fun n h => ?_, _, _, rfl, rfl, rfl⟩
  have hone : 1 = n := h .groupNums
  have hzero : 0 = n := h .destinationSels
  rw [← hone] at hzero
  cases hzero

end Pef
