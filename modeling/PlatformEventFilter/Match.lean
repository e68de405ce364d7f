/-
# `Match` — the filter table evaluated against an event

The first half of `eventFilteringProcess`: count the list objects, read the
columns of each, put the rows together again by index and keep those that match
the event.

    file      entries of EventFilterTable
    objects   List1 .. List4, each a table of columns    (`Config`)
    process   rows by index, bounds tested in 18 columns (`entryAt`)

`matchedEntries_eq` closes the circle: what the process matches is the in-order
filter of the entries of the file, each considered once and as itself.  The row
predicate is stated there in the terms of the configuration (`Accepts`), not of
the code.
-/
import Mathlib.Data.List.Induction
import PlatformEventFilter.Dbus

namespace Pef

/-! ## The row predicate -/

/-- Compare a data byte with the mask and the two compare bytes of a row. -/
def pefEveDataMatch (value andMask cmp1 cmp2 : U8) : Bool :=
  let temp1 := value &&& andMask
  if temp1 &&& cmp1 = cmp2 &&& cmp1 then
    if ALL_BITS_MATCH_EXACT ≠ cmp1 then
      let temp2 := temp1 &&& ~~~cmp1
      let (matched, cmp2Flag) :=
        if ALL_ZERO_BITS ≠ cmp2 then
          if temp2 &&& cmp2 = 0 then (false, true) else (true, false)
        else (true, true)
      if cmp2Flag && cmp2 ≠ ALL_ONE_BITS then
        !(~~~(temp2 ||| cmp1) &&& ~~~cmp2 = 0)
      else matched
    else true
  else false

/-- The tests `eventFilteringProcess` makes on a row. -/
def rowMatches (event : EventMsgData) (e : EvtFilterTblEntry) : Bool :=
  if e.FilterConfig &&& 0x80 = 0 then false
  else if (e.GenIDByte1 ≠ 0xFF ∧ e.GenIDByte1 ≠ event.generatorId1) ∨
      (e.GenIDByte2 ≠ 0xFF ∧ e.GenIDByte2 ≠ event.generatorId2) ∨
      event.sensorType = 0 ∨
      (e.SensorType ≠ 0xFF ∧ e.SensorType ≠ event.sensorType) ∨
      (e.SensorNum ≠ 0xFF ∧ e.SensorNum ≠ event.sensorNum) ∨
      (e.EventTrigger ≠ 0xFF ∧ e.EventTrigger ≠ event.eventType) then false
  else if !pefEveDataMatch event.eventData0 e.EventData1ANDMask e.EventData1Cmp1
      e.EventData1Cmp2 then false
  else if !pefEveDataMatch event.eventData1 e.EventData2ANDMask e.EventData2Cmp1
      e.EventData2Cmp2 then false
  else if !pefEveDataMatch event.eventData2 e.EventData3ANDMask e.EventData3Cmp1
      e.EventData3Cmp2 then false
  else
    let OffsetMask : U16 := 1 <<< (event.eventData0 &&& 0x0F).toNat
    !(OffsetMask &&& e.EventData1OffsetMask = 0)

/-! ## Reading one list -/

/-- The array property of a column, as the process reads it. -/
def FilterColumn.decode : (c : FilterColumn) → Variant → Except CxxException (List c.Cell)
  | .eventData1OffsetMask => Variant.getU16s
  | .entryIds => Variant.getU8s
  | .filterConfig => Variant.getU8s
  | .evtFilterAction => Variant.getU8s
  | .alertPolicyNum => Variant.getU8s
  | .eventSeverity => Variant.getU8s
  | .genIdByte1 => Variant.getU8s
  | .genIdByte2 => Variant.getU8s
  | .sensorType => Variant.getU8s
  | .sensorNum => Variant.getU8s
  | .eventTrigger => Variant.getU8s
  | .eventData1AndMask => Variant.getU8s
  | .eventData1Cmp1 => Variant.getU8s
  | .eventData1Cmp2 => Variant.getU8s
  | .eventData2AndMask => Variant.getU8s
  | .eventData2Cmp1 => Variant.getU8s
  | .eventData2Cmp2 => Variant.getU8s
  | .eventData3AndMask => Variant.getU8s
  | .eventData3Cmp1 => Variant.getU8s
  | .eventData3Cmp2 => Variant.getU8s

/-- The columns the process reads, in its order; the entry numbers are not
among them. -/
def filterColumnsRead : List FilterColumn :=
  [.filterConfig, .genIdByte1, .genIdByte2, .sensorType, .sensorNum, .eventTrigger,
   .eventData1AndMask, .eventData1Cmp1, .eventData1Cmp2,
   .eventData2AndMask, .eventData2Cmp1, .eventData2Cmp2,
   .eventData3AndMask, .eventData3Cmp1, .eventData3Cmp2,
   .eventData1OffsetMask, .evtFilterAction, .alertPolicyNum, .eventSeverity]

/-- The columns of one list object. -/
def readFilterList (values : PropertyMap) : Except CxxException EventFilterList :=
  readCells (fun c => do c.decode (← values.at c.name).asWords) filterColumnsRead fun _ => []

/-- Row `idx` of the columns, when all of them reach that far. -/
def entryAt (t : EventFilterList) (idx : Nat) : Option EvtFilterTblEntry := do
  let filterConfig ← (t .filterConfig)[idx]?
  let genIdByte1 ← (t .genIdByte1)[idx]?
  let genIdByte2 ← (t .genIdByte2)[idx]?
  let sensorType ← (t .sensorType)[idx]?
  let sensorNum ← (t .sensorNum)[idx]?
  let eventTrigger ← (t .eventTrigger)[idx]?
  let eventData1AndMask ← (t .eventData1AndMask)[idx]?
  let eventData1Cmp1 ← (t .eventData1Cmp1)[idx]?
  let eventData1Cmp2 ← (t .eventData1Cmp2)[idx]?
  let eventData2AndMask ← (t .eventData2AndMask)[idx]?
  let eventData2Cmp1 ← (t .eventData2Cmp1)[idx]?
  let eventData2Cmp2 ← (t .eventData2Cmp2)[idx]?
  let eventData3AndMask ← (t .eventData3AndMask)[idx]?
  let eventData3Cmp1 ← (t .eventData3Cmp1)[idx]?
  let eventData3Cmp2 ← (t .eventData3Cmp2)[idx]?
  let eventData1OffsetMask ← (t .eventData1OffsetMask)[idx]?
  let evtFilterAction ← (t .evtFilterAction)[idx]?
  let alertPolicyNum ← (t .alertPolicyNum)[idx]?
  let eventSeverity ← (t .eventSeverity)[idx]?
  pure
    { entry := 0
      FilterConfig := filterConfig
      EvtFilterAction := evtFilterAction
      AlertPolicyNum := alertPolicyNum
      EventSeverity := eventSeverity
      GenIDByte1 := genIdByte1
      GenIDByte2 := genIdByte2
      SensorType := sensorType
      SensorNum := sensorNum
      EventTrigger := eventTrigger
      EventData1OffsetMask := eventData1OffsetMask
      EventData1ANDMask := eventData1AndMask
      EventData1Cmp1 := eventData1Cmp1
      EventData1Cmp2 := eventData1Cmp2
      EventData2ANDMask := eventData2AndMask
      EventData2Cmp1 := eventData2Cmp1
      EventData2Cmp2 := eventData2Cmp2
      EventData3ANDMask := eventData3AndMask
      EventData3Cmp1 := eventData3Cmp1
      EventData3Cmp2 := eventData3Cmp2 }

/-- The rows of a list that are not skipped, in order. -/
def entriesOf (t : EventFilterList) : List EvtFilterTblEntry :=
  (List.range (t .filterConfig).length).filterMap (entryAt t)

/-! ## All lists -/

def eventFilterTableObj : String := "/xyz/openbmc_project/PefAlertManager/EventFilterTable"

/-- Number of paths below `parentPath`, none when the call fails. -/
def getImmediateChildObjectPathCount (parentPath : String)
    (getSubTreePaths : Prog (Option (List String))) : Prog Nat :=
  catchSdbusplus
    (do
      let objPaths ← reply (← getSubTreePaths)
      pure (objPaths.countP fun path => startsWith path (parentPath ++ "/")))
    (pure 0)

/-- The matching rows of `List<groupIndex>`, none when the call fails. -/
def matchedInList (event : EventMsgData) (groupIndex : Nat) : Prog (List EvtFilterTblEntry) :=
  catchSdbusplus
    (do
      let values ← reply (← call (.eventFilterProperties groupIndex))
      let t ← ofExcept (readFilterList values)
      pure ((entriesOf t).filter (rowMatches event)))
    (pure [])

/-- The matched list of `eventFilteringProcess`. -/
def matchedEntries (event : EventMsgData) : Prog (List EvtFilterTblEntry) := do
  let eventFilterChildPathCount ←
    getImmediateChildObjectPathCount eventFilterTableObj (call .eventFilterPaths)
  Ask.collectIdx (fun _ groupIndex => matchedInList event groupIndex)
    (List.range' 1 eventFilterChildPathCount) 0

/-! ## The columns read are the columns exported -/

theorem map_setWidth_eq {w : Nat} (xs : List (BitVec w)) : xs.map (BitVec.setWidth w) = xs :=
  (List.map_congr_left fun x _ => BitVec.setWidth_eq x).trans (List.map_id xs)

theorem decode_encode (c : FilterColumn) (xs : List c.Cell) :
    c.decode (c.encode xs).asWords = .ok xs := by
  cases c with
  | eventData1OffsetMask => exact congrArg Except.ok (map_setWidth_eq (w := 16) xs)
  | _ => exact congrArg Except.ok (map_setWidth_eq (w := 8) xs)

theorem entryAt_congr {t t' : EventFilterList} (h : ∀ c ∈ filterColumnsRead, t c = t' c) :
    entryAt t = entryAt t' := by
  simp only [filterColumnsRead, List.forall_mem_cons, List.not_mem_nil, false_implies,
    implies_true, and_true] at h
  funext idx
  simp only [entryAt, h]

theorem entriesOf_congr {t t' : EventFilterList} (h : ∀ c ∈ filterColumnsRead, t c = t' c) :
    entriesOf t = entriesOf t' := by
  rw [entriesOf, entriesOf, entryAt_congr h, h .filterConfig (by decide)]

theorem readFilterList_of_columns {values : PropertyMap} {l : EventFilterList}
    (h : ∀ c : FilterColumn, values.lookup c.name = some (c.encode (l c))) :
    ∃ t, readFilterList values = .ok t ∧ ∀ c ∈ filterColumnsRead, t c = l c := by
  have hread : ∀ c : FilterColumn, (do c.decode (← values.at c.name).asWords) = Except.ok (l c) := by
    intro c
    have hat : values.at c.name = .ok (c.encode (l c)) := by
      rw [PropertyMap.at, h c]
    rw [hat]
    exact decode_encode c (l c)
  obtain ⟨t, ht⟩ : ∃ t, readFilterList values = .ok t := readCells_of_ok fun c _ => hread c
  refine ⟨t, ht, fun c hc => ?_⟩
  have hcell := (readCells_ok ht c).1 hc
  rw [hread c, Except.ok.injEq] at hcell
  exact hcell.symm

/-! ## The rows put together are the rows loaded -/

/-- A row as the process sees it. -/
def rowEntry (r : Row FilterColumn.Cell) : EvtFilterTblEntry where
  entry := 0
  FilterConfig := r .filterConfig
  EvtFilterAction := r .evtFilterAction
  AlertPolicyNum := r .alertPolicyNum
  EventSeverity := r .eventSeverity
  GenIDByte1 := r .genIdByte1
  GenIDByte2 := r .genIdByte2
  SensorType := r .sensorType
  SensorNum := r .sensorNum
  EventTrigger := r .eventTrigger
  EventData1OffsetMask := r .eventData1OffsetMask
  EventData1ANDMask := r .eventData1AndMask
  EventData1Cmp1 := r .eventData1Cmp1
  EventData1Cmp2 := r .eventData1Cmp2
  EventData2ANDMask := r .eventData2AndMask
  EventData2Cmp1 := r .eventData2Cmp1
  EventData2Cmp2 := r .eventData2Cmp2
  EventData3ANDMask := r .eventData3AndMask
  EventData3Cmp1 := r .eventData3Cmp1
  EventData3Cmp2 := r .eventData3Cmp2

theorem entryAt_ofRows (rows : List (Row FilterColumn.Cell)) (idx : Nat) :
    entryAt (Table.ofRows rows) idx = rows[idx]?.map rowEntry := by
  simp only [entryAt, Table.ofRows_apply, List.getElem?_map]
  cases rows[idx]? <;> rfl

theorem filterMap_getElem? {α γ : Type} (f : α → γ) (xs : List α) :
    ((List.range xs.length).filterMap fun i => xs[i]?.map f) = xs.map f := by
  induction xs using List.reverseRecOn with
  | nil => rfl
  | append_singleton xs x ih =>
      rw [List.length_append, List.length_singleton, List.range_succ, List.filterMap_append,
        List.map_append]
      congr 1
      · rw [← ih]
        refine List.filterMap_congr fun i hi => ?_
        rw [List.getElem?_append_left (List.mem_range.mp hi)]
      · simp

theorem entriesOf_ofRows (rows : List (Row FilterColumn.Cell)) :
    entriesOf (Table.ofRows rows) = rows.map rowEntry := by
  simp only [entriesOf, Table.ofRows_apply, List.length_map]
  rw [show entryAt (Table.ofRows rows) = fun i => rows[i]?.map rowEntry from
    funext (entryAt_ofRows rows)]
  exact filterMap_getElem? rowEntry rows

/-! ## The filter in the terms of the configuration -/

/-- A wildcard or the value. -/
def FieldMatches (field x : U8) : Prop := field = 0xFF ∨ field = x

/-- What a filter row asks of an event. -/
structure Accepts (e : EvtFilterTblEntry) (event : EventMsgData) : Prop where
  enabled : e.FilterConfig.getLsbD 7 = true
  sensorTyped : event.sensorType ≠ 0
  genIDByte1 : FieldMatches e.GenIDByte1 event.generatorId1
  genIDByte2 : FieldMatches e.GenIDByte2 event.generatorId2
  sensorType : FieldMatches e.SensorType event.sensorType
  sensorNum : FieldMatches e.SensorNum event.sensorNum
  eventTrigger : FieldMatches e.EventTrigger event.eventType
  eventData1 : pefEveDataMatch event.eventData0 e.EventData1ANDMask e.EventData1Cmp1
    e.EventData1Cmp2 = true
  eventData2 : pefEveDataMatch event.eventData1 e.EventData2ANDMask e.EventData2Cmp1
    e.EventData2Cmp2 = true
  eventData3 : pefEveDataMatch event.eventData2 e.EventData3ANDMask e.EventData3Cmp1
    e.EventData3Cmp2 = true
  offset : e.EventData1OffsetMask.getLsbD (event.eventData0 &&& 0x0F).toNat = true

theorem and_bit7 (x : U8) : x &&& 0x80 = 0 ↔ x.getLsbD 7 = false := by
  revert x
  decide +kernel

theorem one_shiftLeft_and {n : Nat} (hn : n < 16) (mask : U16) :
    (1 : U16) <<< n &&& mask = 0 ↔ mask.getLsbD n = false := by
  have hone : BitVec.twoPow 16 n ≠ 0 := by
    intro h
    have hbit := congrArg (fun m : U16 => m.getLsbD n) h
    simp [hn] at hbit
  rw [show (1 : U16) <<< n = BitVec.twoPow 16 n from rfl, BitVec.twoPow_and]
  cases mask.getLsbD n with
  | true => simpa using hone
  | false => simp

theorem not_wildcard_iff (field x : U8) :
    ¬ (field ≠ 0xFF ∧ field ≠ x) ↔ FieldMatches field x := by
  unfold FieldMatches
  tauto

section Tests

variable {event : EventMsgData} {e : EvtFilterTblEntry}

theorem enabled_iff : ¬(e.FilterConfig &&& 0x80 = 0) ↔ e.FilterConfig.getLsbD 7 = true := by
  rw [and_bit7, Bool.not_eq_false]

theorem offset_iff : ¬((1 : U16) <<< (event.eventData0 &&& 0x0F).toNat &&&
      e.EventData1OffsetMask = 0) ↔
    e.EventData1OffsetMask.getLsbD (event.eventData0 &&& 0x0F).toNat = true := by
  have hoffset : (event.eventData0 &&& 0x0F).toNat < 16 := by
    rw [BitVec.toNat_and]
    exact Nat.lt_of_le_of_lt Nat.and_le_right (by decide)
  rw [one_shiftLeft_and hoffset, Bool.not_eq_false]

/-- The test of the six fields, in the order the code makes it. -/
theorem fields_iff :
    ¬ ((e.GenIDByte1 ≠ 0xFF ∧ e.GenIDByte1 ≠ event.generatorId1) ∨
        (e.GenIDByte2 ≠ 0xFF ∧ e.GenIDByte2 ≠ event.generatorId2) ∨
        event.sensorType = 0 ∨
        (e.SensorType ≠ 0xFF ∧ e.SensorType ≠ event.sensorType) ∨
        (e.SensorNum ≠ 0xFF ∧ e.SensorNum ≠ event.sensorNum) ∨
        (e.EventTrigger ≠ 0xFF ∧ e.EventTrigger ≠ event.eventType)) ↔
      FieldMatches e.GenIDByte1 event.generatorId1 ∧
        FieldMatches e.GenIDByte2 event.generatorId2 ∧ event.sensorType ≠ 0 ∧
        FieldMatches e.SensorType event.sensorType ∧ FieldMatches e.SensorNum event.sensorNum ∧
        FieldMatches e.EventTrigger event.eventType := by
  simp only [not_or, not_wildcard_iff, ne_eq]

/-- The code's tests are the filter's meaning. -/
theorem rowMatches_iff : rowMatches event e = true ↔ Accepts e event := by
  unfold rowMatches
  constructor
  · intro h
    split at h
    · cases h
    next h7 =>
    split at h
    · cases h
    next hfields =>
    obtain ⟨h1, h2, hs, ht, hn, hg⟩ := fields_iff.mp hfields
    split at h
    · cases h
    next hd1 =>
    split at h
    · cases h
    next hd2 =>
    split at h
    · cases h
    next hd3 =>
    exact
      { enabled := enabled_iff.mp h7
        sensorTyped := hs
        genIDByte1 := h1
        genIDByte2 := h2
        sensorType := ht
        sensorNum := hn
        eventTrigger := hg
        eventData1 := by simpa using hd1
        eventData2 := by simpa using hd2
        eventData3 := by simpa using hd3
        offset := offset_iff.mp (of_decide_eq_false ((Bool.not_eq_true' _).mp h)) }
  · intro h
    have hfields := fields_iff.mpr ⟨h.genIDByte1, h.genIDByte2, h.sensorTyped, h.sensorType,
      h.sensorNum, h.eventTrigger⟩
    rw [if_neg (enabled_iff.mpr h.enabled), if_neg hfields, if_neg (by simp [h.eventData1]),
      if_neg (by simp [h.eventData2]), if_neg (by simp [h.eventData3])]
    exact (Bool.not_eq_true' _).mpr (decide_eq_false (offset_iff.mpr h.offset))

end Tests

instance (e : EvtFilterTblEntry) (event : EventMsgData) : Decidable (Accepts e event) :=
  decidable_of_iff _ rowMatches_iff

/-! ## The whole way from the file -/

/-- A field of an entry, modulo `2 ^ w`; an absent field is 0. -/
def fieldOf (w : Nat) (name : String) (e : Json) : BitVec w :=
  match e.find? name with
  | some (.num i) => BitVec.ofInt w i
  | some (.bool b) => BitVec.ofInt w b.toNat
  | some (.real q) => BitVec.ofInt w (Json.truncate q)
  | _ => 0

/-- An entry of the file as a filter row. -/
def jsonEntry (e : Json) : EvtFilterTblEntry := rowEntry fun c => fieldOf c.width c.name e

theorem readUnsigned_eq {w : Nat} (hw : w ≤ 32) {name : String} {e : Json} {x : BitVec w}
    (h : readUnsigned w name e = .ok x) : x = fieldOf w name e := by
  cases e with
  | obj ms =>
      simp only [readUnsigned, Json.value] at h
      simp only [fieldOf, Json.find?]
      cases hv : ms.lookup name with
      | none =>
          rw [hv] at h
          cases h
          rfl
      | some v =>
          rw [hv] at h
          cases v with
          | num i => cases h; exact Json.ofInt_bmod hw i
          | bool b => cases h; rfl
          | real q =>
              simp only [Json.getInt] at h
              split at h
              · cases h; rfl
              · cases h
          | null => cases h
          | str s => cases h
          | arr xs => cases h
          | obj ms => cases h
  | null => cases h
  | bool b => cases h
  | num i => cases h
  | real q => cases h
  | str s => cases h
  | arr xs => cases h

theorem readFilterRow_eq {e : Json} {r : Row FilterColumn.Cell} (h : readFilterRow e = .ok r) :
    rowEntry r = jsonEntry e := by
  have hcell := (readCells_eq_ok FilterColumn.mem_all).mp h
  have hrow : r = fun c : FilterColumn => fieldOf c.width c.name e := by
    funext c
    exact readUnsigned_eq (by cases c <;> decide) (hcell c)
  rw [hrow, jsonEntry]

theorem map_rowEntry {entries : List Json} {rows : List (Row FilterColumn.Cell)}
    (h : List.Forall₂ (fun e r => readFilterRow e = .ok r) entries rows) :
    rows.map rowEntry = entries.map jsonEntry := by
  induction h with
  | nil => rfl
  | cons hr _ ih => rw [List.map_cons, List.map_cons, readFilterRow_eq hr, ih]

/-- The lists that are exported. -/
def ManagerState.filterLists (s : ManagerState) : List Bucket :=
  (List.finRange 4).filter fun b => (s.eventFilterTable b).isSome

/-- The mapper knows exactly the exported lists, and each of them replies with
its columns. -/
structure ServesFilterTable (s : ManagerState) (env : Env) : Prop where
  paths : ∃ paths : List String, env .eventFilterPaths = some paths ∧
    paths.Perm (s.filterLists.map eventFilterObjMap)
  properties : ∀ (b : Bucket) (l : EventFilterList), s.eventFilterTable b = some l →
    ∃ m : PropertyMap, env (.eventFilterProperties (b + 1)) = some m ∧
      ∀ c : FilterColumn, m.lookup c.name = some (c.encode (l c))

theorem outcome_childPathCount {s : ManagerState} {env : Env} (h : ServesFilterTable s env) :
    (getImmediateChildObjectPathCount eventFilterTableObj (call .eventFilterPaths)).outcome env =
      .ok s.filterLists.length := by
  obtain ⟨paths, hpaths, hperm⟩ := h.paths
  have hchild : ∀ b, startsWith (eventFilterObjMap b) (eventFilterTableObj ++ "/") = true := by
    decide +kernel
  have hcount : (paths.countP fun path => startsWith path (eventFilterTableObj ++ "/")) =
      s.filterLists.length := by
    rw [hperm.countP_eq, List.countP_map, List.countP_eq_length]
    exact fun b _ => hchild b
  rw [← hcount]
  refine outcome_catchSdbusplus_ok ?_
  have hreply : (reply (env .eventFilterPaths)).outcome env = .ok paths :=
    outcome_reply_ok.mpr hpaths
  rw [Ask.outcome_ask_bind, Ask.outcome_bind_ok env hreply]
  rfl

theorem outcome_matchedInList {event : EventMsgData} {env : Env} {groupIndex : Nat}
    {rows : List (Row FilterColumn.Cell)} {m : PropertyMap}
    (hm : env (.eventFilterProperties groupIndex) = some m)
    (hcols : ∀ c : FilterColumn, m.lookup c.name = some (c.encode (Table.ofRows rows c))) :
    (matchedInList event groupIndex).outcome env =
      .ok ((rows.map rowEntry).filter (rowMatches event)) := by
  obtain ⟨t, ht, hcolumns⟩ := readFilterList_of_columns hcols
  refine outcome_catchSdbusplus_ok ?_
  have hreply : (reply (env (.eventFilterProperties groupIndex))).outcome env = .ok m :=
    outcome_reply_ok.mpr hm
  have hread : (ofExcept (readFilterList m)).outcome env = .ok t := by
    rw [outcome_ofExcept, ht]
  rw [Ask.outcome_ask_bind, Ask.outcome_bind_ok env hreply, Ask.outcome_bind_ok env hread,
    Ask.outcome_pure, entriesOf_congr hcolumns, entriesOf_ofRows]

theorem length_filterLists {s : ManagerState} {rows : List (Row FilterColumn.Cell)}
    (h : ∀ b : Bucket, s.eventFilterTable b = exported (slice 10 3 rows b)) :
    s.filterLists.length = (List.range 4).countP fun b => !(slice 10 3 rows b).isEmpty := by
  have hsome : ∀ b : Bucket, (s.eventFilterTable b).isSome = !(slice 10 3 rows b).isEmpty := by
    intro b
    rw [h b]
    cases slice 10 3 rows b <;> rfl
  rw [ManagerState.filterLists, ← List.countP_eq_length_filter, ← List.map_coe_finRange_eq_range,
    List.countP_map]
  exact List.countP_congr fun b _ => by rw [hsome b]; rfl

/-- The matched list is the in-order filter of the entries of the file, each
considered once, with the fields it has in the file. -/
theorem matchedEntries_eq {data : Option Json} {s : ManagerState} {entries : List Json}
    {env : Env} (event : EventMsgData) (hload : parsePefConfToDbus data = (s, .ok ()))
    (hsection : sectionOf data "EventFilterTable" = .ok entries)
    (henv : ServesFilterTable s env) :
    (matchedEntries event).outcome env =
      .ok ((entries.map jsonEntry).filter fun e => Accepts e event) := by
  obtain ⟨rows, ⟨entries', hsection', hrows⟩, htable⟩ :=
    (sectionLoads_buckets (by decide)).mp (parsePefConfToDbus_eq_ok.mp hload).eventFilterTable
  cases hsection.symm.trans hsection'
  obtain ⟨hjoin, hne⟩ := flatMap_slice_countP (n := 10) (L := 3) (by decide) rows
  rw [← length_filterLists htable] at hjoin hne
  have hlists : ∀ (_ : Nat), ∀ g ∈ List.range' 1 s.filterLists.length,
      (matchedInList event g).outcome env =
        .ok (((slice 10 3 rows (g - 1)).map rowEntry).filter (rowMatches event)) := by
    intro _ g hg
    obtain ⟨hg1, hg2⟩ := List.mem_range'_1.mp hg
    have hlen : s.filterLists.length ≤ 4 := by
      rw [length_filterLists htable]
      exact List.countP_le_length
    have hb : g - 1 < 4 := by omega
    have hexp : s.eventFilterTable ⟨g - 1, hb⟩ =
        some (Table.ofRows (slice 10 3 rows (g - 1))) := by
      rw [htable]
      exact exported_eq_some.mpr ⟨hne (g - 1) (by omega), rfl⟩
    obtain ⟨m, hm, hcols⟩ := henv.properties _ _ hexp
    rw [show (⟨g - 1, hb⟩ : Bucket).val + 1 = g from Nat.sub_add_cancel hg1] at hm
    exact outcome_matchedInList hm hcols
  rw [matchedEntries, Ask.outcome_bind_ok env (outcome_childPathCount henv),
    Ask.outcome_collectIdx env hlists]
  congr 1
  calc (List.range' 1 s.filterLists.length).flatMap
        (fun g => ((slice 10 3 rows (g - 1)).map rowEntry).filter (rowMatches event))
      = (((List.range s.filterLists.length).flatMap (slice 10 3 rows)).map rowEntry).filter
          (rowMatches event) := by
        rw [List.range'_eq_map_range, List.flatMap_map, List.map_flatMap, List.filter_flatMap]
        exact List.flatMap_congr fun b _ => by rw [Nat.add_sub_cancel_left]
    _ = (rows.map rowEntry).filter (rowMatches event) := by rw [hjoin]
    _ = (entries.map jsonEntry).filter fun e => Accepts e event := by
        rw [map_rowEntry hrows]
        exact List.filter_congr fun e _ => (Bool.eq_iff_iff.mpr (by
          rw [rowMatches_iff, decide_eq_true_iff]))

/-- The properties of a list object. -/
def filterProperties (l : EventFilterList) : PropertyMap :=
  FilterColumn.all.map fun c => (c.name, c.encode (l c))

/-- Only the filter table is there to answer. -/
def filterTableEnv (s : ManagerState) : Env
  | .eventFilterPaths => some (s.filterLists.map eventFilterObjMap)
  | .eventFilterProperties g =>
      if h : g - 1 < 4 then (s.eventFilterTable ⟨g - 1, h⟩).map filterProperties else none
  | q => Env.dead q

theorem filterTableEnv_serves (s : ManagerState) : ServesFilterTable s (filterTableEnv s) where
  paths := ⟨_, rfl, List.Perm.refl _⟩
  properties b l h := by
    refine ⟨filterProperties l, ?_, fun c => ?_⟩
    · have hb : b.val + 1 - 1 < 4 := b.isLt
      show (if h : b.val + 1 - 1 < 4 then
        (s.eventFilterTable ⟨b.val + 1 - 1, h⟩).map filterProperties else none) = _
      rw [dif_pos hb]
      exact congrArg (Option.map filterProperties) h
    · exact Members.lookup_map FilterColumn.name_injective (fun c => c.encode (l c))
        (FilterColumn.mem_all c)

/-- A row that matches every event, written without the fields that are 0. -/
def wildcardRow : Json := .obj
  [("FilterConfig", .num 0x80), ("GenIDByte1", .num 0xFF), ("GenIDByte2", .num 0xFF),
   ("SensorType", .num 0xFF), ("SensorNum", .num 0xFF), ("EventTrigger", .num 0xFF),
   ("EventData1OffsetMask", .num 0xFFFF)]

/-- Eleven rows, of which the first and the last, in `List1` and `List2`, match
an event of sensor type 1. -/
theorem matchedEntries_two_lists :
    let file : Json := .obj
      [("EventFilterTable", .arr (wildcardRow :: (List.replicate 9 (.obj []) ++ [wildcardRow])))]
    (matchedEntries ⟨1, 0, 0x20, 1, 1, 1, 0, 0, 0, ""⟩).outcome
        (filterTableEnv (parsePefConfToDbus (some file)).1) =
      .ok [jsonEntry wildcardRow, jsonEntry wildcardRow] :=
  (matchedEntries_eq _ (Prod.ext rfl rfl) rfl (filterTableEnv_serves _)).trans
    (congrArg Except.ok (by decide +kernel))

end Pef
