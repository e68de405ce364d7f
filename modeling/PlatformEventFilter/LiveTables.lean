/-
# `LiveTables` — what the process reads of the objects as they are

Between two events a client may have set any property of the filter and policy
lists, to an array of any length.  The process does not see the file: it counts
the list objects, asks `List1`, `List2`, … for their columns, and puts rows
together again.  Of every state that Sets lead to, from whatever a file has been
loaded as,

    liveEntries s           the filter rows, bucket by bucket
    livePolicies s order    the policy rows, in the order of the mapper

are what it gets, where a filter row that some column does not reach is no row,
and a policy row that a column does not reach has a 0 there.
-/
import Mathlib.Data.Fintype.Pi
import PlatformEventFilter.Policies

namespace Pef

/-! ## The rows of the objects -/

/-- The filter rows of the exported lists. -/
def liveEntries (s : ManagerState) : List EvtFilterTblEntry :=
  s.filterLists.flatMap fun b => (s.eventFilterTable b).elim [] entriesOf

/-- Row `idx` of a policy object. -/
def policyRow (l : AlertPolicyList) (idx : Nat) : AlertPolicyTbl where
  AlertPolicyGroupNum := ((l .groupNums)[idx]?).getD 0
  EnableAlert := ((l .enableAlerts)[idx]?).getD 0
  PolicyAction := ((l .policyActions)[idx]?).getD 0
  ChannelNo := ((l .channelNos)[idx]?).getD 0
  DestinationSel := ((l .destinationSels)[idx]?).getD 0
  EventSpecificAlertStr := ((l .eventSpecificStrs)[idx]?).getD ""

/-- As many rows as there are group numbers. -/
def policyRows (l : AlertPolicyList) : List AlertPolicyTbl :=
  (List.range (l .groupNums).length).map (policyRow l)

/-- The policy rows of the objects, in the order given. -/
def livePolicies (s : ManagerState) (order : List Bucket) : List AlertPolicyTbl :=
  order.flatMap fun b => (s.alertPolicyTable b).elim [] policyRows

/-! ## The exported filter lists are the front ones -/

/-- A filter list is exported only if those before it are. -/
def FrontLists (s : ManagerState) : Prop :=
  ∀ b b' : Bucket, b ≤ b' → (s.eventFilterTable b').isSome → (s.eventFilterTable b).isSome

theorem frontLists_load (data : Option Json) : FrontLists (parsePefConfToDbus data).1 := by
  refine inOrder_induct (P := FrontLists) ?_ (fun _ _ _ h => h)
  intro f hf s hs
  simp only [List.mem_cons, List.not_mem_nil, or_false] at hf
  rcases hf with rfl | rfl | rfl | rfl | rfl | rfl | rfl
  · exact exportSection_induct (P := FrontLists) hs fun _ => hs
  · exact exportSection_induct (P := FrontLists) hs fun _ => hs
  · exact exportSection_induct (P := FrontLists) hs fun _ => hs
  · exact exportSection_induct (P := FrontLists) hs fun _ _ _ => exportBuckets_front (by decide)
  · exact exportSection_induct (P := FrontLists) hs fun _ => hs
  · exact exportSection_induct (P := FrontLists) hs fun _ => hs
  · exact exportSection_induct (P := FrontLists) hs fun _ => hs

theorem isSome_setColumn {ι : Type} [DecidableEq ι] {β : ι → Type}
    (t : Bucket → Option (Table β)) (b : Bucket) (c : ι) (value : List (β c)) (b' : Bucket) :
    (setColumn t b c value b').isSome = (t b').isSome := by
  rw [setColumn]
  rcases eq_or_ne b' b with rfl | hb
  · rw [Function.update_self, Option.isSome_map]
  · rw [Function.update_of_ne hb]

theorem frontLists_step {s s' : ManagerState} {u : SetterEnv × SetRequest} (h : FrontLists s)
    (hstep : setStep s u = some s') : FrontLists s' := by
  obtain ⟨-, rfl⟩ := setProperty_eq_some.mp hstep
  obtain ⟨env, req⟩ := u
  cases req with
  | eventFilter b c value =>
      intro b₁ b₂ hle
      rw [assignProperty, isSome_setColumn, isSome_setColumn]
      exact h b₁ b₂ hle
  | alertPolicy b c value => exact h
  | pefConfInfo c value => exact h

theorem frontLists_reached {data : Option Json} {us : List (SetterEnv × SetRequest)}
    {s : ManagerState} (h : Reached setStep (parsePefConfToDbus data).1 us s) : FrontLists s := by
  refine Reached.induct (P := FrontLists) (frontLists_load data) (fun s u s' ho hs => ?_) h
  obtain ⟨_, _, _, _, hstep⟩ := id ho
  exact frontLists_step hs hstep

theorem FrontLists.numbers {s : ManagerState} (h : FrontLists s) :
    s.filterLists.map (fun b => b.val + 1) = List.range' 1 s.filterLists.length := by
  have hall : ∀ p : Bucket → Bool, (∀ b b' : Bucket, b ≤ b' → p b' → p b) →
      ((List.finRange 4).filter p).map (fun b => b.val + 1) =
        List.range' 1 ((List.finRange 4).filter p).length := by
    decide +kernel
  exact hall (fun b => (s.eventFilterTable b).isSome) h

/-! ## The filter rows read -/

section Read

variable {s : ManagerState} {env : Env}

theorem outcome_matchedInList_live {event : EventMsgData} {groupIndex : Nat}
    {l : EventFilterList} {m : PropertyMap} (hm : env (.eventFilterProperties groupIndex) = some m)
    (hcols : ∀ c : FilterColumn, m.lookup c.name = some (c.encode (l c))) :
    (matchedInList event groupIndex).outcome env = .ok ((entriesOf l).filter (rowMatches event)) := by
  obtain ⟨t, ht, hcolumns⟩ := readFilterList_of_columns hcols
  have hreply : (reply (env (.eventFilterProperties groupIndex))).outcome env = .ok m :=
    outcome_reply_ok.mpr hm
  have hread : (ofExcept (readFilterList m)).outcome env = .ok t := by
    rw [outcome_ofExcept, ht]
  refine outcome_catchSdbusplus_ok ?_
  rw [Ask.outcome_ask_bind, Ask.outcome_bind_ok env hreply, Ask.outcome_bind_ok env hread,
    Ask.outcome_pure, entriesOf_congr hcolumns]

theorem outcome_matchedEntries_live (hfront : FrontLists s) (henv : ServesFilterTable s env)
    (event : EventMsgData) :
    (matchedEntries event).outcome env =
      .ok ((liveEntries s).filter fun e => Accepts e event) := by
  have hlists : ∀ (_ : Nat), ∀ b ∈ s.filterLists,
      (matchedInList event (b.val + 1)).outcome env =
        .ok (((s.eventFilterTable b).elim [] entriesOf).filter (rowMatches event)) := by
    intro _ b hb
    obtain ⟨l, hl⟩ := Option.isSome_iff_exists.mp (List.mem_filter.mp hb).2
    obtain ⟨m, hm, hcols⟩ := henv.properties b l hl
    rw [outcome_matchedInList_live hm hcols, hl]
    rfl
  rw [matchedEntries, Ask.outcome_bind_ok env (outcome_childPathCount henv), ← hfront.numbers,
    Ask.collectIdx_map, Ask.outcome_collectIdx env hlists, liveEntries, List.filter_flatMap]
  refine congrArg Except.ok (List.flatMap_congr fun b _ => List.filter_congr fun e _ => ?_)
  exact Bool.eq_iff_iff.mpr (by rw [rowMatches_iff, decide_eq_true_iff])

/-! ## The policy rows read -/

theorem decide_eq_some_one (o : Option U8) : decide (o = some 1) = decide (o.getD 0 = 1) := by
  cases o with
  | none => rfl
  | some x => simp

theorem policyAt_columnsOf (no : Int) (l : AlertPolicyList) {idx : Nat}
    (hidx : idx < (l .groupNums).length) :
    policyAt no (columnsOf l) idx =
      if inGroup (BitVec.ofInt 8 no) (policyRow l idx) then some (policyRow l idx) else none := by
  have hgroup : (l .groupNums)[idx]? = some (l .groupNums)[idx] := List.getElem?_eq_getElem hidx
  have henabled : enabledAt (columnsOf l) idx = decide ((policyRow l idx).EnableAlert = 1) :=
    decide_eq_some_one _
  have hrow : policyRow l idx =
      { AlertPolicyGroupNum := (l .groupNums)[idx]
        EnableAlert := cellAt (columnsOf l).enableAlert 0 idx
        PolicyAction := cellAt (columnsOf l).policyAction 0 idx
        ChannelNo := cellAt (columnsOf l).channelNo 0 idx
        DestinationSel := cellAt (columnsOf l).destinationSel 0 idx
        EventSpecificAlertStr := cellAt (columnsOf l).eventSpecificAlertStr "" idx } := by
    simp only [policyRow, hgroup]
    rfl
  have hno : (policyRow l idx).AlertPolicyGroupNum = (l .groupNums)[idx] :=
    congrArg AlertPolicyTbl.AlertPolicyGroupNum hrow
  have hcol : (columnsOf l).groupNums = l .groupNums := rfl
  rw [policyAt, hcol, hgroup]
  dsimp only
  rw [henabled, ← hrow, inGroup, hno]
  by_cases hon : (policyRow l idx).EnableAlert = 1
  · by_cases hin : (l .groupNums)[idx] = BitVec.ofInt 8 no
    · simp only [hon, hin, decide_true, Bool.not_true, Bool.and_true, if_true,
        Bool.false_eq_true, if_false, ne_eq, not_true]
    · simp only [hon, hin, decide_true, decide_false, Bool.not_true, Bool.and_false, if_true,
        Bool.false_eq_true, if_false, ne_eq, not_false_iff]
  · simp only [hon, decide_false, Bool.not_false, Bool.false_and, if_true, Bool.false_eq_true,
      if_false]

theorem policiesOf_columnsOf (no : Int) (l : AlertPolicyList) :
    policiesOf no (columnsOf l) = (policyRows l).filter (inGroup (BitVec.ofInt 8 no)) := by
  rw [policiesOf, policyRows, List.filter_map, ← List.filterMap_eq_map, List.filterMap_filter]
  refine List.filterMap_congr fun idx hidx => ?_
  rw [policyAt_columnsOf no l (List.mem_range.mp hidx)]
  rfl

theorem outcome_policiesIn_live {no : Int} {entryIdx pathIdx : Nat} {b : Bucket}
    {l : AlertPolicyList} {m : PropertyMap}
    (hm : env (.alertPolicyProperties entryIdx pathIdx (alertPolicyObjMap b)) = some m)
    (hreply : PolicyReply l m) :
    (policiesIn no entryIdx pathIdx (alertPolicyObjMap b)).outcome env =
      .ok ((policyRows l).filter (inGroup (BitVec.ofInt 8 no))) := by
  have hchild : ∀ b, startsWith (alertPolicyObjMap b) (alertPolicyTableObj ++ "/") = true := by
    decide +kernel
  have hanswer : (reply (env (.alertPolicyProperties entryIdx pathIdx
      (alertPolicyObjMap b)))).outcome env = .ok m := outcome_reply_ok.mpr hm
  have hread : (ofExcept (readPolicyColumns m)).outcome env = .ok (columnsOf l) := by
    rw [outcome_ofExcept]
    exact readPolicyColumns_of_reply hreply
  rw [policiesIn, hchild b, Bool.not_true, if_neg Bool.false_ne_true]
  refine outcome_catchSdbusplus_ok ?_
  rw [Ask.outcome_ask_bind, Ask.outcome_bind_ok env hanswer, Ask.outcome_bind_ok env hread,
    Ask.outcome_pure, policiesOf_columnsOf]

theorem outcome_checkAlertPoicyTbl_live {order : List Bucket} (henv : ServesPolicyTable s order env)
    (entryIdx : Nat) (p : U8) :
    (checkAlertPoicyTbl entryIdx (p &&& 0x0F).toNat).outcome env =
      .ok ((livePolicies s order).filter fun e => Selects p e) := by
  by_cases hp : p &&& 0x0F = 0
  · have hzero : ((p &&& 0x0F).toNat : Int) ≤ 0 := by rw [hp]; decide
    rw [checkAlertPoicyTbl, if_pos hzero, Ask.outcome_pure]
    refine congrArg Except.ok (List.filter_eq_nil_iff.mpr fun e _ h => ?_).symm
    exact (of_decide_eq_true h).1 hp
  · have hno : BitVec.ofInt 8 ((p &&& 0x0F).toNat : Int) = p &&& 0x0F := by
      rw [BitVec.ofInt_natCast, BitVec.ofNat_toNat, BitVec.setWidth_eq]
    have hobjects : ∀ (pathIdx : Nat), ∀ b ∈ order,
        (policiesIn (p &&& 0x0F).toNat entryIdx pathIdx (alertPolicyObjMap b)).outcome env =
          .ok (((s.alertPolicyTable b).elim [] policyRows).filter fun e => Selects p e) := by
      intro pathIdx b hb
      obtain ⟨l, hl⟩ := Option.isSome_iff_exists.mp
        (List.mem_filter.mp (henv.exact.mem_iff.mp hb)).2
      obtain ⟨m, hm, hreply⟩ := henv.properties entryIdx pathIdx b l hl
      rw [outcome_policiesIn_live hm hreply, hno, filter_selects hp, hl]
      rfl
    rw [checkAlertPoicyTbl, if_neg (toNat_group_pos hp),
      Ask.outcome_bind_ok env (outcome_alertPolicyPaths (henv.paths entryIdx)), Ask.collectIdx_map,
      Ask.outcome_collectIdx env hobjects, livePolicies, List.filter_flatMap]

end Read

/-- Whatever a file has been loaded as and whatever has been set since, the
process works on exactly the rows the objects have: the filter rows that match,
and for each of them the policy rows its number selects, both in order and each
once. -/
theorem live_tables_read {data : Option Json} {us : List (SetterEnv × SetRequest)}
    {s : ManagerState} {order : List Bucket} {env : Env}
    (hs : Reached setStep (parsePefConfToDbus data).1 us s) (hfilters : ServesFilterTable s env)
    (hpolicies : ServesPolicyTable s order env) (event : EventMsgData) :
    (matchedEntries event).outcome env = .ok ((liveEntries s).filter fun e => Accepts e event) ∧
      ∀ (entryIdx : Nat) (p : U8), (checkAlertPoicyTbl entryIdx (p &&& 0x0F).toNat).outcome env =
        .ok ((livePolicies s order).filter fun e => Selects p e) :=
  ⟨outcome_matchedEntries_live (frontLists_reached hs) hfilters event,
    outcome_checkAlertPoicyTbl_live hpolicies⟩

/-- Both tables are there to answer, and nothing else. -/
def tablesEnv (s : ManagerState) (order : List Bucket) : Env
  | .alertPolicyPaths i => policyTableEnv s order (.alertPolicyPaths i)
  | .alertPolicyProperties i k path => policyTableEnv s order (.alertPolicyProperties i k path)
  | q => filterTableEnv s q

theorem tablesEnv_servesFilter (s : ManagerState) (order : List Bucket) :
    ServesFilterTable s (tablesEnv s order) where
  paths := (filterTableEnv_serves s).paths
  properties := (filterTableEnv_serves s).properties

theorem tablesEnv_servesPolicy {s : ManagerState} {order : List Bucket}
    (h : order.Perm s.policyLists) : ServesPolicyTable s order (tablesEnv s order) where
  exact := h
  paths := (policyTableEnv_serves h).paths
  properties := (policyTableEnv_serves h).properties

/-- The destinations of the one policy row set to no destination at all: the
row is still there, with destination 0. -/
theorem row_without_destination_read :
    ∃ s, runFrom setStep (parsePefConfToDbus (some onePolicyFile)).1 [setDestinations 0 []] =
        some s ∧
      (checkAlertPoicyTbl 0 ((1 : U8) &&& 0x0F).toNat).outcome (tablesEnv s [0]) =
        .ok [{ AlertPolicyGroupNum := 1, EnableAlert := 1, ChannelNo := 1 }] := by
  have hrun : runFrom setStep (parsePefConfToDbus (some onePolicyFile)).1 [setDestinations 0 []] =
      some _ := rfl
  refine ⟨_, hrun, ?_⟩
  exact ((live_tables_read (Reached.last hrun) (tablesEnv_servesFilter _ [0])
    (tablesEnv_servesPolicy (List.Perm.refl [0]))
      ⟨1, 0, 0x20, 1, 1, 1, 0, 0, 0, ""⟩).2 0 1).trans (congrArg Except.ok (by decide +kernel))

end Pef
