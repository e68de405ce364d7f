/-
# `Policies` — the policy table looked up for a filter

The fan-out of `performPefAction`: the policies of the group an `AlertPolicyNum`
names, gathered over the policy objects.

    file      entries of AlertPolicyTable
    objects   PolicyList_eth0 .. eth3, each a table of columns   (`Config`)
    process   rows by index, enabled and of the group             (`policyAt`)

`checkAlertPoicyTbl_exact` closes the circle, as `matchedEntries_eq` does for the
filter table: object by object, in the order of the mapper, the process gets the
rows the number selects, each as it stands in the file.
-/
import PlatformEventFilter.Parallel

namespace Pef

/-! ## A row of the file, and a row put together -/

/-- A row as the alerting code sees it. -/
def rowPolicy (r : Row PolicyColumn.Cell) : AlertPolicyTbl where
  AlertPolicyGroupNum := r .groupNums
  EnableAlert := r .enableAlerts
  PolicyAction := r .policyActions
  ChannelNo := r .channelNos
  DestinationSel := r .destinationSels
  EventSpecificAlertStr := r .eventSpecificStrs

/-- A text of an entry; an absent one is empty. -/
def textOf (name : String) (e : Json) : String :=
  match e.find? name with
  | some (.str s) => s
  | _ => ""

/-- An entry of the file as a policy row. -/
def jsonPolicy (e : Json) : AlertPolicyTbl where
  AlertPolicyGroupNum := fieldOf 8 "AlertPolicyGroupNum" e
  EnableAlert := fieldOf 8 "EnableAlert" e
  PolicyAction := fieldOf 8 "PolicyAction" e
  ChannelNo := fieldOf 8 "ChannelNo" e
  DestinationSel := fieldOf 8 "DestinationSel" e
  EventSpecificAlertStr := textOf "EventSpecificAlertStr" e

theorem value_getString_eq {name : String} {e : Json} {s : String}
    (h : e.value name Json.getString "" = .ok s) : s = textOf name e := by
  cases e with
  | obj ms =>
      simp only [Json.value] at h
      simp only [textOf, Json.find?]
      cases hv : ms.lookup name with
      | none =>
          rw [hv] at h
          cases h
          rfl
      | some v =>
          rw [hv] at h
          cases v with
          | str t => cases h; rfl
          | null => cases h
          | bool b => cases h
          | num i => cases h
          | real q => cases h
          | arr xs => cases h
          | obj ms => cases h
  | null => cases h
  | bool b => cases h
  | num i => cases h
  | real q => cases h
  | str t => cases h
  | arr xs => cases h

theorem readPolicyRow_eq {e : Json} {r : Row PolicyColumn.Cell} (h : readPolicyRow e = .ok r) :
    rowPolicy r = jsonPolicy e := by
  have hcell := (readCells_eq_ok PolicyColumn.mem_all).mp h
  have hbyte : ∀ {name : String} {x : U8}, readUnsigned 8 name e = .ok x → x = fieldOf 8 name e :=
    fun hx => readUnsigned_eq (by decide) hx
  have hgroup : r .groupNums = fieldOf 8 "AlertPolicyGroupNum" e := hbyte (hcell .groupNums)
  have henable : r .enableAlerts = fieldOf 8 "EnableAlert" e := hbyte (hcell .enableAlerts)
  have haction : r .policyActions = fieldOf 8 "PolicyAction" e := hbyte (hcell .policyActions)
  have hchannel : r .channelNos = fieldOf 8 "ChannelNo" e := hbyte (hcell .channelNos)
  have hdest : r .destinationSels = fieldOf 8 "DestinationSel" e := hbyte (hcell .destinationSels)
  have htext : r .eventSpecificStrs = textOf "EventSpecificAlertStr" e :=
    value_getString_eq (hcell .eventSpecificStrs)
  rw [rowPolicy, hgroup, henable, haction, hchannel, hdest, htext, jsonPolicy]

theorem map_rowPolicy {entries : List Json} {rows : List (Row PolicyColumn.Cell)}
    (h : List.Forall₂ (fun e r => readPolicyRow e = .ok r) entries rows) :
    rows.map rowPolicy = entries.map jsonPolicy := by
  induction h with
  | nil => rfl
  | cons hr _ ih => rw [List.map_cons, List.map_cons, readPolicyRow_eq hr, ih]

/-! ## Reading one object -/

/-- The columns of an object as the process reads them. -/
def columnsOf (l : AlertPolicyList) : PolicyColumns where
  groupNums := l .groupNums
  enableAlert := some (l .enableAlerts)
  policyAction := some (l .policyActions)
  channelNo := some (l .channelNos)
  destinationSel := some (l .destinationSels)
  eventSpecificAlertStr := some (l .eventSpecificStrs)

/-- The row is enabled and belongs to the group. -/
def inGroup (no : U8) (e : AlertPolicyTbl) : Bool :=
  e.EnableAlert = 1 && e.AlertPolicyGroupNum = no

theorem policyAt_ofRows (no : Int) (rows : List (Row PolicyColumn.Cell)) (idx : Nat) :
    policyAt no (columnsOf (Table.ofRows rows)) idx =
      (rows[idx]?.map rowPolicy).filter (inGroup (BitVec.ofInt 8 no)) := by
  have hcell : ∀ (c : PolicyColumn), (Table.ofRows rows c)[idx]? = rows[idx]?.map (· c) := by
    intro c
    rw [Table.ofRows_apply, List.getElem?_map]
  simp only [policyAt, columnsOf, enabledAt, cellAt, Option.bind_some, hcell]
  cases rows[idx]? with
  | none => rfl
  | some r =>
      by_cases henable : r .enableAlerts = 1#8
      · by_cases hgroup : r .groupNums = BitVec.ofInt 8 no
        · simp [Option.filter, inGroup, rowPolicy, henable, hgroup]
        · simp [Option.filter, inGroup, rowPolicy, henable, hgroup]
      · simp [Option.filter, inGroup, rowPolicy, henable]

theorem policiesOf_ofRows (no : Int) (rows : List (Row PolicyColumn.Cell)) :
    policiesOf no (columnsOf (Table.ofRows rows)) =
      (rows.map rowPolicy).filter (inGroup (BitVec.ofInt 8 no)) := by
  have hlen : (columnsOf (Table.ofRows rows)).groupNums.length = rows.length := by
    rw [columnsOf, Table.ofRows_apply, List.length_map]
  rw [policiesOf, hlen, ← filterMap_getElem? rowPolicy rows, List.filter_filterMap]
  exact List.filterMap_congr fun idx _ => policyAt_ofRows no rows idx

/-! ## All objects -/

/-- The policy lists that are exported. -/
def ManagerState.policyLists (s : ManagerState) : List Bucket :=
  (List.finRange 4).filter fun b => (s.alertPolicyTable b).isSome

/-- The mapper returns exactly the exported policy lists, in the order `order`,
and each of them replies with its columns, every time it is asked. -/
structure ServesPolicyTable (s : ManagerState) (order : List Bucket) (env : Env) : Prop where
  exact : order.Perm s.policyLists
  paths : ∀ entryIdx, env (.alertPolicyPaths entryIdx) = some (order.map alertPolicyObjMap)
  properties : ∀ (entryIdx pathIdx : Nat) (b : Bucket) (l : AlertPolicyList),
    s.alertPolicyTable b = some l →
      ∃ m : PropertyMap, env (.alertPolicyProperties entryIdx pathIdx (alertPolicyObjMap b)) = some m ∧
        PolicyReply l m

theorem outcome_policiesIn {no : Int} {entryIdx pathIdx : Nat} {env : Env} {b : Bucket}
    {rows : List (Row PolicyColumn.Cell)} {m : PropertyMap}
    (hm : env (.alertPolicyProperties entryIdx pathIdx (alertPolicyObjMap b)) = some m)
    (hreply : PolicyReply (Table.ofRows rows) m) :
    (policiesIn no entryIdx pathIdx (alertPolicyObjMap b)).outcome env =
      .ok ((rows.map rowPolicy).filter (inGroup (BitVec.ofInt 8 no))) := by
  have hchild : ∀ b, startsWith (alertPolicyObjMap b) (alertPolicyTableObj ++ "/") = true := by
    decide +kernel
  have hanswer : (reply (env (.alertPolicyProperties entryIdx pathIdx (alertPolicyObjMap b)))).outcome
      env = .ok m := outcome_reply_ok.mpr hm
  have hread : (ofExcept (readPolicyColumns m)).outcome env =
      .ok (columnsOf (Table.ofRows rows)) := by
    rw [outcome_ofExcept]
    exact readPolicyColumns_of_reply hreply
  rw [policiesIn, hchild b, Bool.not_true, if_neg Bool.false_ne_true]
  refine outcome_catchSdbusplus_ok ?_
  rw [Ask.outcome_ask_bind, Ask.outcome_bind_ok env hanswer, Ask.outcome_bind_ok env hread,
    Ask.outcome_pure, policiesOf_ofRows]

/-- The rows an `AlertPolicyNum` selects: the enabled ones of the group in its
low nibble, where 0 is no group. -/
def Selects (p : U8) (e : AlertPolicyTbl) : Prop :=
  p &&& 0x0F ≠ 0 ∧ e.EnableAlert = 1 ∧ e.AlertPolicyGroupNum = p &&& 0x0F

instance (p : U8) (e : AlertPolicyTbl) : Decidable (Selects p e) :=
  inferInstanceAs (Decidable (_ ∧ _))

theorem filter_selects {p : U8} (hp : p &&& 0x0F ≠ 0) (es : List AlertPolicyTbl) :
    es.filter (inGroup (p &&& 0x0F)) = es.filter fun e => Selects p e := by
  refine List.filter_congr fun e _ => ?_
  simp only [inGroup, Selects, hp, ne_eq, not_false_iff, true_and, Bool.decide_and]

theorem flatMap_policyLists {γ : Type} {s : ManagerState} {rows : List (Row PolicyColumn.Cell)}
    (h : ∀ b : Bucket, s.alertPolicyTable b = exported (slice 15 3 rows b))
    {f : List (Row PolicyColumn.Cell) → List γ} (hf : f [] = []) :
    (s.policyLists.flatMap fun b : Bucket => f (slice 15 3 rows b)) =
      (List.range 4).flatMap fun b => f (slice 15 3 rows b) := by
  have hskip : ∀ (bs : List Bucket),
      ((bs.filter fun b => (s.alertPolicyTable b).isSome).flatMap fun b : Bucket =>
        f (slice 15 3 rows b)) = bs.flatMap fun b : Bucket => f (slice 15 3 rows b) := by
    intro bs
    induction bs with
    | nil => rfl
    | cons b bs ih =>
        rw [List.flatMap_cons, ← ih]
        by_cases hempty : slice 15 3 rows b = []
        · have hnone : (s.alertPolicyTable b).isSome = false := by rw [h b, hempty]; rfl
          rw [List.filter_cons_of_neg (p := fun b : Bucket => (s.alertPolicyTable b).isSome)
            (by rw [hnone]; exact Bool.false_ne_true), hempty, hf, List.nil_append]
        · have hsome : (s.alertPolicyTable b).isSome = true := by
            rw [h b, exported_eq_some.mpr ⟨hempty, rfl⟩]
            rfl
          rw [List.filter_cons_of_pos (p := fun b : Bucket => (s.alertPolicyTable b).isSome) hsome,
            List.flatMap_cons]
  rw [ManagerState.policyLists, hskip, ← List.map_coe_finRange_eq_range, List.flatMap_map]

theorem outcome_alertPolicyPaths {env : Env} {entryIdx : Nat} {paths : List String}
    (h : env (.alertPolicyPaths entryIdx) = some paths) :
    (catchSdbusplus
      (do let policyObjs ← reply (← call (.alertPolicyPaths entryIdx)); pure policyObjs)
      (pure [])).outcome env = .ok paths := by
  refine outcome_catchSdbusplus_ok ?_
  have hanswer : (reply (env (.alertPolicyPaths entryIdx))).outcome env = .ok paths :=
    outcome_reply_ok.mpr h
  rwa [Ask.outcome_ask_bind]

theorem toNat_group_pos {p : U8} (hp : p &&& 0x0F ≠ 0) : ¬((p &&& 0x0F).toNat : Int) ≤ 0 := by
  intro hle
  refine hp (BitVec.eq_of_toNat_eq ?_)
  have hnat : (p &&& 0x0F).toNat ≤ 0 := Int.ofNat_le.mp hle
  exact Nat.le_zero.mp hnat

/-- Of a complete load, the policies `performPefAction` gets for the number `p`
are, object by object in the order of the mapper, the entries of the file that
`p` selects, and so a permutation of those of the whole table. -/
theorem checkAlertPoicyTbl_exact {data : Option Json} {s : ManagerState} {entries : List Json}
    {order : List Bucket} {env : Env} (entryIdx : Nat) (p : U8)
    (hload : parsePefConfToDbus data = (s, .ok ()))
    (hsection : sectionOf data "AlertPolicyTable" = .ok entries)
    (henv : ServesPolicyTable s order env) :
    ∃ policies, (checkAlertPoicyTbl entryIdx (p &&& 0x0F).toNat).outcome env = .ok policies ∧
      (policies = order.flatMap fun b : Bucket =>
        ((slice 15 3 entries b).map jsonPolicy).filter fun e => Selects p e) ∧
      policies.Perm ((entries.map jsonPolicy).filter fun e => Selects p e) := by
  obtain ⟨rows, ⟨entries', hsection', hrows⟩, htable⟩ :=
    (sectionLoads_buckets (by decide)).mp (parsePefConfToDbus_eq_ok.mp hload).alertPolicyTable
  cases hsection.symm.trans hsection'
  have hbucket : ∀ b : Nat, (slice 15 3 entries b).map jsonPolicy =
      (slice 15 3 rows b).map rowPolicy :=
    fun b => (map_rowPolicy (forall₂_slice 15 3 b hrows)).symm
  refine ⟨order.flatMap fun b : Bucket =>
    ((slice 15 3 entries b).map jsonPolicy).filter fun e => Selects p e, ?_, rfl, ?_⟩
  · by_cases hp : p &&& 0x0F = 0
    · -- there is no group 0, neither for the process nor in the specification
      have hzero : ((p &&& 0x0F).toNat : Int) ≤ 0 := by rw [hp]; decide
      rw [checkAlertPoicyTbl, if_pos hzero, Ask.outcome_pure]
      refine congrArg Except.ok (Eq.symm (List.flatMap_eq_nil_iff.mpr fun b _ => ?_))
      exact List.filter_eq_nil_iff.mpr fun e _ h => (of_decide_eq_true h).1 hp
    · have hno : BitVec.ofInt 8 ((p &&& 0x0F).toNat : Int) = p &&& 0x0F := by
        rw [BitVec.ofInt_natCast, BitVec.ofNat_toNat, BitVec.setWidth_eq]
      have hpaths := outcome_alertPolicyPaths (henv.paths entryIdx)
      have hobjects : ∀ (pathIdx : Nat), ∀ b ∈ order,
          (policiesIn (p &&& 0x0F).toNat entryIdx pathIdx (alertPolicyObjMap b)).outcome env =
            .ok (((slice 15 3 entries b).map jsonPolicy).filter fun e => Selects p e) := by
        intro pathIdx b hb
        have hsome := (List.mem_filter.mp (henv.exact.mem_iff.mp hb)).2
        obtain ⟨l, hl⟩ := Option.isSome_iff_exists.mp hsome
        obtain ⟨m, hm, hreply⟩ := henv.properties entryIdx pathIdx b l hl
        rw [htable b] at hl
        obtain ⟨-, rfl⟩ := exported_eq_some.mp hl
        rw [outcome_policiesIn hm hreply, hno, filter_selects hp, hbucket]
      rw [checkAlertPoicyTbl, if_neg (toNat_group_pos hp), Ask.outcome_bind_ok env hpaths,
        Ask.collectIdx_map]
      exact Ask.outcome_collectIdx env hobjects
  · have hall : (s.policyLists.flatMap fun b : Bucket =>
        ((slice 15 3 entries b).map jsonPolicy).filter fun e => Selects p e) =
          (entries.map jsonPolicy).filter fun e => Selects p e := by
      simp only [hbucket]
      rw [flatMap_policyLists htable
          (f := fun rs => (rs.map rowPolicy).filter fun e => Selects p e) rfl,
        ← map_rowPolicy hrows, ← List.filter_flatMap, ← List.map_flatMap, flatMap_slice]
    rw [← hall]
    exact henv.exact.flatMap_right _

/-- The properties of a policy list object. -/
def policyProperties (l : AlertPolicyList) : PropertyMap :=
  PolicyColumn.all.map fun c => (c.name, c.encode (l c))

/-- Only the policy table is there to answer. -/
def policyTableEnv (s : ManagerState) (order : List Bucket) : Env
  | .alertPolicyPaths _ => some (order.map alertPolicyObjMap)
  | .alertPolicyProperties _ _ objPath =>
      (((List.finRange 4).find? fun b => alertPolicyObjMap b = objPath).bind
        s.alertPolicyTable).map policyProperties
  | q => Env.dead q

theorem policyTableEnv_serves {s : ManagerState} {order : List Bucket}
    (h : order.Perm s.policyLists) : ServesPolicyTable s order (policyTableEnv s order) where
  exact := h
  paths _ := rfl
  properties entryIdx pathIdx b l hl := by
    refine ⟨policyProperties l, ?_, fun c => ?_⟩
    · have hfind : ∀ b : Bucket, (List.finRange 4).find? (fun b' =>
          alertPolicyObjMap b' = alertPolicyObjMap b) = some b := by decide +kernel
      show (((List.finRange 4).find? fun b' => alertPolicyObjMap b' = alertPolicyObjMap b).bind
        s.alertPolicyTable).map policyProperties = _
      rw [hfind b, Option.bind_some, hl]
      rfl
    · exact Members.lookup_map PolicyColumn.name_injective (fun c => c.encode (l c))
        (PolicyColumn.mem_all c)

/-- An enabled row of group 2. -/
def groupTwoRow (channel : Int) : Json := .obj
  [("AlertPolicyGroupNum", .num 2), ("EnableAlert", .num 1), ("ChannelNo", .num channel)]

/-- Seventeen rows, of which the first and the last, in different objects, are
in the group; the mapper names the objects backwards. -/
theorem checkAlertPoicyTbl_two_objects :
    let file : Json := .obj
      [("AlertPolicyTable",
        .arr (groupTwoRow 1 :: (List.replicate 15 (.obj []) ++ [groupTwoRow 3])))]
    (checkAlertPoicyTbl 0 ((0x12 : U8) &&& 0x0F).toNat).outcome
        (policyTableEnv (parsePefConfToDbus (some file)).1 [1, 0]) =
      .ok [jsonPolicy (groupTwoRow 3), jsonPolicy (groupTwoRow 1)] := by
  intro file
  have hserves : ServesPolicyTable (parsePefConfToDbus (some file)).1 [1, 0]
      (policyTableEnv (parsePefConfToDbus (some file)).1 [1, 0]) :=
    policyTableEnv_serves (List.Perm.swap 0 1 [])
  obtain ⟨policies, houtcome, hobjects, -⟩ :=
    checkAlertPoicyTbl_exact 0 0x12 (Prod.ext rfl rfl) rfl hserves
  rw [houtcome, hobjects]
  exact congrArg Except.ok (by decide +kernel)

end Pef
