/-
# `RowTests` — what the tests of a filter row mean

A row compares three data bytes and five fields with an event.

    dataMatch                 the comparison of a data byte, at any width
    pefEveDataMatch_law       all bits under the first compare byte have to be
                              equal, and one outside of it, if there is one
    matchedPositions          the rows matched, by list and index
    wildcard_positions_iff    writing 0xFF for a sensor type 0x00, another
                              wildcard of the setter, lets rows match
-/
import PlatformEventFilter.Lib.Bits
import PlatformEventFilter.Match

namespace Pef

open Bits

/-! ## Data bytes -/

/-- `pefEveDataMatch`, for words of any width. -/
def dataMatch {w : Nat} (value andMask cmp1 cmp2 : BitVec w) : Bool :=
  let temp1 := value &&& andMask
  if temp1 &&& cmp1 = cmp2 &&& cmp1 then
    if BitVec.allOnes w ≠ cmp1 then
      let temp2 := temp1 &&& ~~~cmp1
      let (matched, cmp2Flag) :=
        if 0 ≠ cmp2 then
          if temp2 &&& cmp2 = 0 then (false, true) else (true, false)
        else (true, true)
      if cmp2Flag && cmp2 ≠ BitVec.allOnes w then
        !(~~~(temp2 ||| cmp1) &&& ~~~cmp2 = 0)
      else matched
    else true
  else false

/-- What the compare words ask of the masked value. -/
def ComparesTo {w : Nat} (t cmp1 cmp2 : BitVec w) : Prop :=
  AgreeOn cmp1 t cmp2 ∧ (cmp1 = BitVec.allOnes w ∨ AgreeOff cmp1 t cmp2)

/-- The flag and the overwritten result come to this: there is a one in common,
or a zero. -/
theorem flag_eq {w : Nat} (hw : (0 : BitVec w) ≠ BitVec.allOnes w) (temp2 cmp1 cmp2 : BitVec w) :
    (let (matched, cmp2Flag) :=
        if 0 ≠ cmp2 then
          if temp2 &&& cmp2 = 0 then (false, true) else (true, false)
        else (true, true)
      if cmp2Flag && cmp2 ≠ BitVec.allOnes w then
        !(~~~(temp2 ||| cmp1) &&& ~~~cmp2 = 0 : Bool)
      else matched) = true ↔
      temp2 &&& cmp2 ≠ 0 ∨ ~~~(temp2 ||| cmp1) &&& ~~~cmp2 ≠ 0 := by
  have hlast : (!(~~~(temp2 ||| cmp1) &&& ~~~cmp2 = 0 : Bool)) = true ↔
      ~~~(temp2 ||| cmp1) &&& ~~~cmp2 ≠ 0 := by
    rw [Bool.not_eq_true', decide_eq_false_iff_not]
  by_cases hzero : (0 : BitVec w) = cmp2
  · -- no one in common, but the zeros are looked at
    subst hzero
    have hcommon : ¬ temp2 &&& (0 : BitVec w) ≠ 0 := not_not.mpr BitVec.and_zero
    have hones : ((0 : BitVec w) ≠ BitVec.allOnes w : Bool) = true := decide_eq_true hw
    rw [or_iff_right hcommon, ← hlast, if_neg (not_not.mpr rfl), hones]
    rfl
  by_cases hcommon : temp2 &&& cmp2 = 0
  · rw [or_iff_right (not_not.mpr hcommon), ← hlast, if_pos hzero, if_pos hcommon]
    by_cases hones : cmp2 = BitVec.allOnes w
    · have hnot : ~~~cmp2 = 0 := by rw [hones]; exact BitVec.not_allOnes
      have hall : ~~~(temp2 ||| cmp1) &&& ~~~cmp2 = 0 := by rw [hnot]; exact BitVec.and_zero
      rw [decide_eq_false (not_not.mpr hones), decide_eq_true hall]
      rfl
    · rw [decide_eq_true hones]
      rfl
  · rw [if_pos hzero, if_neg hcommon]
    exact iff_of_true rfl (.inl hcommon)

theorem dataMatch_iff {w : Nat} (value andMask cmp1 cmp2 : BitVec w) :
    dataMatch value andMask cmp1 cmp2 = true ↔ ComparesTo (value &&& andMask) cmp1 cmp2 := by
  unfold ComparesTo
  rw [← and_eq_and_iff]
  by_cases hon : value &&& andMask &&& cmp1 = cmp2 &&& cmp1
  · rw [and_iff_right hon, show dataMatch value andMask cmp1 cmp2 = _ from if_pos hon]
    by_cases hall : BitVec.allOnes w = cmp1
    · rw [if_neg (not_not.mpr hall)]
      exact iff_of_true rfl (.inl hall.symm)
    · have hw : (0 : BitVec w) ≠ BitVec.allOnes w := by
        intro h0
        obtain ⟨i, hi, -⟩ := exists_of_ne_allOnes (Ne.symm hall)
        have hbit := congrArg (fun v => v.getLsbD i) h0
        simp [hi] at hbit
      rw [if_pos hall, or_iff_right (Ne.symm hall), agreeOff_iff]
      exact flag_eq hw _ _ _
  · rw [show dataMatch value andMask cmp1 cmp2 = _ from if_neg hon]
    exact iff_of_false Bool.false_ne_true fun h => hon h.1

/-- The comparison is what the compare words ask of the masked value, at any
width and for the bytes of an event; bits that are masked out make no difference,
and a row of zeros takes every byte. -/
theorem pefEveDataMatch_law :
    (∀ (w : Nat) (value andMask cmp1 cmp2 : BitVec w),
      dataMatch value andMask cmp1 cmp2 = true ↔ ComparesTo (value &&& andMask) cmp1 cmp2) ∧
    (∀ value andMask cmp1 cmp2 : U8,
      pefEveDataMatch value andMask cmp1 cmp2 = true ↔
        ComparesTo (value &&& andMask) cmp1 cmp2) ∧
    (∀ (w : Nat) (value value' andMask cmp1 cmp2 : BitVec w), AgreeOn andMask value value' →
      dataMatch value andMask cmp1 cmp2 = dataMatch value' andMask cmp1 cmp2) ∧
    ∀ value : U8, pefEveDataMatch value 0 0 0 = true := by
  have hbyte : ∀ value andMask cmp1 cmp2 : U8, pefEveDataMatch value andMask cmp1 cmp2 = true ↔
      ComparesTo (value &&& andMask) cmp1 cmp2 := fun value andMask cmp1 cmp2 =>
    dataMatch_iff value andMask cmp1 cmp2
  refine ⟨fun w => dataMatch_iff, hbyte, ?_, ?_⟩
  · intro w value value' andMask cmp1 cmp2 hagree
    have hmasked : value &&& andMask = value' &&& andMask := and_eq_and_iff.mpr hagree
    rw [Bool.eq_iff_iff, dataMatch_iff, dataMatch_iff, hmasked]
  · intro value
    rw [hbyte, show value &&& 0 = 0 from BitVec.and_zero]
    exact ⟨fun _ _ => rfl, .inr ⟨0, by decide, rfl, rfl⟩⟩

/-! ## Positions -/

/-- The indices of the rows of a list that match. -/
def matchedIn (event : EventMsgData) (t : EventFilterList) : List Nat :=
  (List.range (t .filterConfig).length).filter fun idx => (entryAt t idx).any (rowMatches event)

/-- The rows that match, by list and index. -/
def matchedPositions (event : EventMsgData) (tables : List EventFilterList) : List (Nat × Nat) :=
  (List.range tables.length).flatMap fun g =>
    match tables[g]? with
    | none => []
    | some t => (matchedIn event t).map fun idx => (g, idx)

/-- The row at a position. -/
def rowAt (tables : List EventFilterList) (position : Nat × Nat) : Option EvtFilterTblEntry :=
  tables[position.1]?.bind fun t => entryAt t position.2

/-- `List1`, `List2` and so on are there, and reply with the columns of these tables. -/
structure ServesLists (tables : List EventFilterList) (env : Env) : Prop where
  paths : ∃ paths : List String, env .eventFilterPaths = some paths ∧
    (paths.countP fun path => startsWith path (eventFilterTableObj ++ "/")) = tables.length
  properties : ∀ (g : Nat) (t : EventFilterList), tables[g]? = some t →
    ∃ m : PropertyMap, env (.eventFilterProperties (g + 1)) = some m ∧
      ∀ c : FilterColumn, m.lookup c.name = some (c.encode (t c))

theorem filter_entriesOf (event : EventMsgData) (t : EventFilterList) :
    (entriesOf t).filter (rowMatches event) = (matchedIn event t).filterMap (entryAt t) := by
  rw [entriesOf, matchedIn, List.filter_filterMap, List.filterMap_filter]
  refine List.filterMap_congr fun idx _ => ?_
  cases entryAt t idx with
  | none => rfl
  | some e => rw [Option.filter_some, Option.any_some]

/-- What the process matches are the rows at the positions matched, in order. -/
theorem matchedEntries_positions {tables : List EventFilterList} {env : Env}
    (event : EventMsgData) (h : ServesLists tables env) :
    (matchedEntries event).outcome env =
      .ok ((matchedPositions event tables).filterMap (rowAt tables)) := by
  have hcount : (getImmediateChildObjectPathCount eventFilterTableObj
      (call .eventFilterPaths)).outcome env = .ok tables.length := by
    obtain ⟨paths, hpaths, hlength⟩ := h.paths
    have hreply : (reply (env .eventFilterPaths)).outcome env = .ok paths :=
      outcome_reply_ok.mpr hpaths
    refine outcome_catchSdbusplus_ok ?_
    rw [Ask.outcome_ask_bind, Ask.outcome_bind_ok env hreply, hlength]
    rfl
  have hlists : ∀ (_ : Nat), ∀ g ∈ List.range' 1 tables.length,
      (matchedInList event g).outcome env =
        .ok (((tables[g - 1]?.map (matchedIn event)).getD []).filterMap
          fun idx => rowAt tables (g - 1, idx)) := by
    intro _ g hg
    obtain ⟨hg1, hg2⟩ := List.mem_range'_1.mp hg
    have hlt : g - 1 < tables.length := by omega
    have ht : tables[g - 1]? = some (tables.get ⟨g - 1, hlt⟩) := List.getElem?_eq_getElem hlt
    obtain ⟨m, hm, hcols⟩ := h.properties _ _ ht
    rw [Nat.sub_add_cancel hg1] at hm
    obtain ⟨t, hread, hcolumns⟩ := readFilterList_of_columns hcols
    have hreply : (reply (env (.eventFilterProperties g))).outcome env = .ok m :=
      outcome_reply_ok.mpr hm
    have hok : (ofExcept (readFilterList m)).outcome env = .ok t := by
      rw [outcome_ofExcept, hread]
    refine outcome_catchSdbusplus_ok ?_
    rw [Ask.outcome_ask_bind, Ask.outcome_bind_ok env hreply, Ask.outcome_bind_ok env hok,
      Ask.outcome_pure, entriesOf_congr hcolumns, filter_entriesOf]
    simp only [rowAt, ht]
    rfl
  rw [matchedEntries, Ask.outcome_bind_ok env hcount, Ask.outcome_collectIdx env hlists]
  congr 1
  rw [matchedPositions, List.filterMap_flatMap, List.range'_eq_map_range, List.flatMap_map]
  refine List.flatMap_congr fun g _ => ?_
  rw [Nat.add_sub_cancel_left]
  cases tables[g]? with
  | none => rfl
  | some t =>
      show (matchedIn event t).filterMap (fun idx => rowAt tables (g, idx)) =
        ((matchedIn event t).map fun idx => (g, idx)).filterMap (rowAt tables)
      rw [List.filterMap_map]
      rfl

/-! ## The wildcards of the sensor type -/

/-- 0xFF for 0x00 in some of the rows. -/
def withWildcard (rows : Nat → Bool) (t : EventFilterList) : EventFilterList :=
  Function.update t .sensorType
    ((t .sensorType).mapIdx fun idx x => if rows idx && x = 0x00 then 0xFF else x)

/-- 0xFF for 0x00 in some of the rows of all lists. -/
def withWildcards (rows : Nat → Nat → Bool) (tables : List EventFilterList) :
    List EventFilterList :=
  tables.mapIdx fun g t => withWildcard (rows g) t

/-- The row passes all tests but that of the sensor type. -/
structure PassesOtherTests (e : EvtFilterTblEntry) (event : EventMsgData) : Prop where
  enabled : e.FilterConfig.getLsbD 7 = true
  sensorTyped : event.sensorType ≠ 0
  genIDByte1 : FieldMatches e.GenIDByte1 event.generatorId1
  genIDByte2 : FieldMatches e.GenIDByte2 event.generatorId2
  sensorNum : FieldMatches e.SensorNum event.sensorNum
  eventTrigger : FieldMatches e.EventTrigger event.eventType
  eventData1 : pefEveDataMatch event.eventData0 e.EventData1ANDMask e.EventData1Cmp1
    e.EventData1Cmp2 = true
  eventData2 : pefEveDataMatch event.eventData1 e.EventData2ANDMask e.EventData2Cmp1
    e.EventData2Cmp2 = true
  eventData3 : pefEveDataMatch event.eventData2 e.EventData3ANDMask e.EventData3Cmp1
    e.EventData3Cmp2 = true
  offset : e.EventData1OffsetMask.getLsbD (event.eventData0 &&& 0x0F).toNat = true

theorem accepts_iff {e : EvtFilterTblEntry} {event : EventMsgData} :
    Accepts e event ↔ FieldMatches e.SensorType event.sensorType ∧ PassesOtherTests e event := by
  constructor
  · rintro ⟨h1, h2, h3, h4, h5, h6, h7, h8, h9, h10, h11⟩
    exact ⟨h5, h1, h2, h3, h4, h6, h7, h8, h9, h10, h11⟩
  · rintro ⟨h5, h1, h2, h3, h4, h6, h7, h8, h9, h10, h11⟩
    exact ⟨h1, h2, h3, h4, h5, h6, h7, h8, h9, h10, h11⟩

theorem not_rowMatches_zero {e : EvtFilterTblEntry} (h : e.SensorType = 0x00)
    (event : EventMsgData) : rowMatches event e = false := by
  rw [Bool.eq_false_iff]
  intro hmatch
  have haccepts := rowMatches_iff.mp hmatch
  rcases haccepts.sensorType with hall | hsame
  · rw [h] at hall
    cases hall
  · exact haccepts.sensorTyped (hsame.symm.trans h)

/-- The row with a wildcard 0x00 written as 0xFF, if it is one of those. -/
def EvtFilterTblEntry.withWildcard (replaced : Bool) (e : EvtFilterTblEntry) : EvtFilterTblEntry :=
  { e with SensorType := if replaced && e.SensorType = 0x00 then 0xFF else e.SensorType }

theorem entryAt_withWildcard (rows : Nat → Bool) (t : EventFilterList) (idx : Nat) :
    entryAt (withWildcard rows t) idx = (entryAt t idx).map (.withWildcard (rows idx)) := by
  have hother : ∀ c : FilterColumn, c ≠ .sensorType → withWildcard rows t c = t c :=
    fun c hc => Function.update_of_ne hc _ t
  have htype : (withWildcard rows t .sensorType)[idx]? = (t .sensorType)[idx]?.map
      fun x => if rows idx && x = 0x00 then 0xFF else x := by
    rw [withWildcard, Function.update_self, List.getElem?_mapIdx]
  have hsame : ∀ {α : Type} (x : Option α) {f f' : α → Option EvtFilterTblEntry},
      (∀ a, f a = (f' a).map (.withWildcard (rows idx))) →
      x.bind f = (x.bind f').map (.withWildcard (rows idx)) := by
    intro α x f f' h
    cases x with
    | none => rfl
    | some a => exact h a
  simp only [entryAt, hother, ne_eq, reduceCtorEq, not_false_eq_true, htype]
  -- three columns stand before the sensor type and fifteen behind it
  iterate 3 refine hsame _ fun _ => ?_
  refine Option.bind_map.trans (hsame _ fun sensorType => ?_)
  iterate 15 refine hsame _ fun _ => ?_
  rfl

/-- Written as 0xFF, a wildcard 0x00 matches what the other tests let pass. -/
theorem rowMatches_withWildcard {e : EvtFilterTblEntry} (h : e.SensorType = 0x00)
    (event : EventMsgData) :
    rowMatches event (e.withWildcard true) = true ↔ PassesOtherTests e event := by
  have htype : (e.withWildcard true).SensorType = 0xFF := by
    rw [EvtFilterTblEntry.withWildcard, h]
    rfl
  rw [rowMatches_iff, accepts_iff, and_iff_right (.inl htype)]
  constructor
  · rintro ⟨h1, h2, h3, h4, h6, h7, h8, h9, h10, h11⟩
    exact ⟨h1, h2, h3, h4, h6, h7, h8, h9, h10, h11⟩
  · rintro ⟨h1, h2, h3, h4, h6, h7, h8, h9, h10, h11⟩
    exact ⟨h1, h2, h3, h4, h6, h7, h8, h9, h10, h11⟩

theorem withWildcard_of_ne {replaced : Bool} {e : EvtFilterTblEntry}
    (h : ¬ (replaced = true ∧ e.SensorType = 0x00)) : e.withWildcard replaced = e := by
  have hcond : ¬ (replaced && e.SensorType = 0x00 : Bool) = true := by
    rwa [Bool.and_eq_true, decide_eq_true_iff]
  rw [EvtFilterTblEntry.withWildcard, if_neg hcond]

theorem mem_matchedIn {event : EventMsgData} {t : EventFilterList} {idx : Nat} :
    idx ∈ matchedIn event t ↔ ∃ e, entryAt t idx = some e ∧ rowMatches event e = true := by
  rw [matchedIn, List.mem_filter, Option.any_eq_true, List.mem_range]
  refine and_iff_right_of_imp ?_
  rintro ⟨e, he, -⟩
  -- a row has all cells, the first of them too
  obtain ⟨x, hx, -⟩ := Option.bind_eq_some_iff.mp he
  exact (List.getElem?_eq_some_iff.mp hx).1

theorem mem_matchedPositions {event : EventMsgData} {tables : List EventFilterList} {g idx : Nat} :
    (g, idx) ∈ matchedPositions event tables ↔
      ∃ e, rowAt tables (g, idx) = some e ∧ rowMatches event e = true := by
  have hlist : ∀ g', (g, idx) ∈ (match tables[g']? with
      | none => []
      | some t => (matchedIn event t).map fun i => (g', i)) ↔
      g' = g ∧ ∃ t, tables[g']? = some t ∧ idx ∈ matchedIn event t := by
    intro g'
    cases tables[g']? with
    | none => simp
    | some t => simp [eq_comm, and_comm]
  rw [matchedPositions, List.mem_flatMap]
  simp only [hlist, List.mem_range, rowAt]
  constructor
  · rintro ⟨g', _, rfl, t, ht, hidx⟩
    obtain ⟨e, he, hmatch⟩ := mem_matchedIn.mp hidx
    exact ⟨e, by rw [ht]; exact he, hmatch⟩
  · rintro ⟨e, he, hmatch⟩
    obtain ⟨t, ht, he⟩ := Option.bind_eq_some_iff.mp he
    exact ⟨g, (List.getElem?_eq_some_iff.mp ht).1, rfl, t, ht, mem_matchedIn.mpr ⟨e, he, hmatch⟩⟩

theorem rowAt_withWildcards (rows : Nat → Nat → Bool) (tables : List EventFilterList)
    (g idx : Nat) : rowAt (withWildcards rows tables) (g, idx) =
      (rowAt tables (g, idx)).map (.withWildcard (rows g idx)) := by
  simp only [rowAt, withWildcards, List.getElem?_mapIdx]
  cases tables[g]? with
  | none => rfl
  | some t => exact entryAt_withWildcard (rows g) t idx

theorem matchedPositions_congr {event : EventMsgData} {rows : Nat → Nat → Bool}
    {tables : List EventFilterList}
    (h : ∀ g idx e, rowAt tables (g, idx) = some e →
      rowMatches event (e.withWildcard (rows g idx)) = rowMatches event e) :
    matchedPositions event (withWildcards rows tables) = matchedPositions event tables := by
  rw [matchedPositions, matchedPositions, withWildcards, List.length_mapIdx]
  refine List.flatMap_congr fun g _ => ?_
  rw [List.getElem?_mapIdx]
  cases ht : tables[g]? with
  | none => rfl
  | some t =>
      refine congrArg (List.map fun idx => (g, idx)) ?_
      have hlength : withWildcard (rows g) t .filterConfig = t .filterConfig :=
        Function.update_of_ne (by decide) _ t
      show matchedIn event (withWildcard (rows g) t) = matchedIn event t
      rw [matchedIn, matchedIn, hlength]
      refine List.filter_congr fun idx _ => ?_
      rw [entryAt_withWildcard]
      cases he : entryAt t idx with
      | none => rfl
      | some e =>
          have hrow : rowAt tables (g, idx) = some e := by rw [rowAt, ht]; exact he
          exact h g idx e hrow

/-- Writing 0xFF for the sensor type 0x00 in some rows of a table leaves the rows that
match the same, exactly when none of these rows passes all other tests. -/
theorem wildcard_positions_iff (event : EventMsgData) (tables : List EventFilterList)
    (rows : Nat → Nat → Bool) :
    matchedPositions event (withWildcards rows tables) = matchedPositions event tables ↔
      ∀ g idx e, rows g idx = true → rowAt tables (g, idx) = some e → e.SensorType = 0x00 →
        ¬ PassesOtherTests e event := by
  constructor
  · intro hsame g idx e hrow he hzero hpasses
    have hmatch : (g, idx) ∈ matchedPositions event (withWildcards rows tables) := by
      refine mem_matchedPositions.mpr ⟨e.withWildcard true, ?_, ?_⟩
      · rw [rowAt_withWildcards, he, hrow]
        rfl
      · exact (rowMatches_withWildcard hzero event).mpr hpasses
    rw [hsame] at hmatch
    obtain ⟨e', he', hmatch'⟩ := mem_matchedPositions.mp hmatch
    cases he.symm.trans he'
    rw [not_rowMatches_zero hzero event] at hmatch'
    cases hmatch'
  · intro hnone
    refine matchedPositions_congr fun g idx e he => ?_
    by_cases hreplaced : rows g idx = true ∧ e.SensorType = 0x00
    · obtain ⟨hrow, hzero⟩ := hreplaced
      rw [not_rowMatches_zero hzero event, hrow, Bool.eq_false_iff]
      exact fun hmatch => hnone g idx e hrow he hzero
        ((rowMatches_withWildcard hzero event).mp hmatch)
    · rw [withWildcard_of_ne hreplaced]

/-- One row, which takes every event with its sensor type written as 0xFF. -/
def zeroTypeTable : EventFilterList
  | .filterConfig => [0x80]
  | .genIdByte1 => [0xFF]
  | .genIdByte2 => [0xFF]
  | .sensorNum => [0xFF]
  | .eventTrigger => [0xFF]
  | .eventData1OffsetMask => [0xFFFF]
  | .entryIds => [0]
  | .sensorType => [0x00]
  | .evtFilterAction => [0]
  | .alertPolicyNum => [0]
  | .eventSeverity => [0]
  | .eventData1AndMask => [0]
  | .eventData1Cmp1 => [0]
  | .eventData1Cmp2 => [0]
  | .eventData2AndMask => [0]
  | .eventData2Cmp1 => [0]
  | .eventData2Cmp2 => [0]
  | .eventData3AndMask => [0]
  | .eventData3Cmp1 => [0]
  | .eventData3Cmp2 => [0]

/-- An event of sensor type 1 matches the row with 0xFF and not with 0x00. -/
theorem zero_type_is_no_wildcard :
    matchedPositions ⟨1, 0, 0x20, 1, 1, 1, 0, 0, 0, ""⟩
        (withWildcards (fun _ _ => true) [zeroTypeTable]) ≠
      matchedPositions ⟨1, 0, 0x20, 1, 1, 1, 0, 0, 0, ""⟩ [zeroTypeTable] := by
  decide +kernel

end Pef
