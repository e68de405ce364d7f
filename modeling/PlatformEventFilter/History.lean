/-
# `History` — the tables of the file as cells, over any history of signals

A signal with one property is a write to cells of the document (`Cells`): a row of
a table has one cell for each property.  Over a history of signals the callbacks
then do what `Lib.Overwrite` says of a store of cells, and nothing else:

    cellsOf d               the cells of a document
    historyOf d sigs        the writes a history of signals comes to
    cells_hold_last_value   each cell holds the last value sent to it
    signals_reordered       signals without a common cell may be delivered in
                            any order

The tables keep their rows, and the other sections are as they were.
-/
import PlatformEventFilter.Cells
import PlatformEventFilter.Lib.Overwrite

namespace Pef

/-! ## Signals and cells -/

/-- A signal that carries one property. -/
structure Signal where
  object : MonitoredObject
  property : String
  value : Variant

/-- A property in a row of a table. -/
structure Cell where
  table : String
  row : Nat
  property : String
  deriving DecidableEq, Repr

/-- The cells of a document. -/
def cellsOf (d : Json) : Cell → Option Json := fun c =>
  (rowsOf c.table d)[c.row]?.bind fun e => e.find? c.property

namespace Signal

variable (sig : Signal)

def outcome (d : Json) : MonitorOutcome :=
  sig.object.callback sig.property sig.value (some d)

/-- The document after the callback. -/
def handle (d : Json) : Json := (sig.outcome d).file d

/-- The cells the signal has values for, among those of the document. -/
def writeTo (d : Json) : Cell → Option Json := fun c =>
  if c.table = sig.object.table then
    if c.property = sig.property ∧ c.row < (rowsOf sig.object.table d).length then
      (sig.object.change sig.property sig.value (rowsOf sig.object.table d)).cell c.row
    else none
  else none

/-- What the callback writes. -/
def written (d : Json) : Cell → Option Json :=
  match sig.outcome d with
  | .written _ => sig.writeTo d
  | _ => fun _ => none

end Signal

/-- The file after a history of signals. -/
def handleAll (d : Json) (sigs : List Signal) : Json := sigs.foldl (fun d sig => sig.handle d) d

/-- The writes of a history of signals. -/
def historyOf : Json → List Signal → List (Cell → Option Json)
  | _, [] => []
  | d, sig :: sigs => sig.written d :: historyOf (sig.handle d) sigs

/-! ## One signal -/

theorem columnChange_wf {start : Nat} {property : String} {cells : List Json}
    (hcells : ∀ w ∈ cells, w.WF) {i : Nat} {w : Json}
    (h : (columnChange start property cells).cell i = some w) : w.WF := by
  simp only [columnChange] at h
  split at h
  · exact hcells w (List.mem_of_getElem? h)
  · cases h

theorem cellChange_wf {row : Option Nat} {property : String} {v : Json} (hv : v.WF) {i : Nat}
    {w : Json} (h : (cellChange row property v).cell i = some w) : w.WF := by
  simp only [cellChange] at h
  split at h
  · cases h
    exact hv
  · cases h

theorem num_wf (q : Int) : (Json.num q).WF := by simp only [Json.WF]

theorem str_wf (s : String) : (Json.str s).WF := by simp only [Json.WF]

theorem confValue_wf {property : String} {v : Variant} {val : Json}
    (h : confValue property v = .ok val) : val.WF := by
  unfold confValue at h
  split at h
  · cases v with
    | u16 selId =>
        cases h
        exact num_wf _
    | _ => cases h
  · split at h
    · cases hs : v.getStr with
      | error e =>
          rw [hs] at h
          cases h
      | ok s =>
          rw [hs] at h
          cases h
          exact str_wf s
    · cases hx : v.getU8 with
      | error e =>
          rw [hx] at h
          cases h
      | ok x =>
          rw [hx] at h
          cases h
          exact num_wf _

theorem change_wf (o : MonitoredObject) (property : String) (v : Variant) (rows : List Json)
    {i : Nat} {w : Json} (h : (o.change property v rows).cell i = some w) : w.WF := by
  cases o with
  | list b =>
      cases v with
      | u8s xs =>
          refine columnChange_wf (fun w hw => ?_) h
          obtain ⟨x, -, rfl⟩ := List.mem_map.mp hw
          exact num_wf _
      | u16s xs =>
          refine columnChange_wf (fun w hw => ?_) h
          obtain ⟨x, -, rfl⟩ := List.mem_map.mp hw
          exact num_wf _
      | _ => exact cellChange_wf (num_wf _) h
  | policyList b =>
      cases v with
      | u8s xs =>
          refine columnChange_wf (fun w hw => ?_) h
          obtain ⟨x, -, rfl⟩ := List.mem_map.mp hw
          exact num_wf _
      | strs xs =>
          refine columnChange_wf (fun w hw => ?_) h
          obtain ⟨x, -, rfl⟩ := List.mem_map.mp hw
          exact str_wf _
      | _ => exact cellChange_wf (num_wf _) h
  | pefConfInfo =>
      simp only [MonitoredObject.change] at h
      cases hval : confValue property v.asValue with
      | error e =>
          rw [hval] at h
          cases h
      | ok val =>
          rw [hval] at h
          cases h
          exact confValue_wf hval

theorem isObj_setRows {ch : RowChange} {rows : List Json} (hobj : ∀ e ∈ rows, IsObj e) :
    ∀ e ∈ setRows ch rows, IsObj e := by
  intro e he
  obtain ⟨i, hi⟩ := List.mem_iff_getElem?.mp he
  rw [getElem?_setRows, Option.map_eq_some_iff] at hi
  obtain ⟨e', he', rfl⟩ := hi
  cases ch.cell i with
  | none => exact hobj e' (List.mem_of_getElem? he')
  | some v => exact ⟨_, rfl⟩

theorem wf_setRows {ch : RowChange} {rows : List Json} (hwf : ∀ e ∈ rows, e.WF)
    (hch : ∀ i w, ch.cell i = some w → w.WF) : ∀ e ∈ setRows ch rows, e.WF := by
  intro e he
  obtain ⟨i, hi⟩ := List.mem_iff_getElem?.mp he
  rw [getElem?_setRows, Option.map_eq_some_iff] at hi
  obtain ⟨e', he', rfl⟩ := hi
  have hrow : e'.WF := hwf e' (List.mem_of_getElem? he')
  cases hcell : ch.cell i with
  | none => exact hrow
  | some v => exact (Json.wf_members hrow).assign ch.property (hch i v hcell)

namespace TableDocument

theorem wf_of_mem (d : TableDocument) {o : MonitoredObject} {e : Json} (he : e ∈ d.rows o) :
    e.WF := by
  have hrows := Json.WF.lookup d.wf (d.lookup_table o)
  simp only [Json.WF] at hrows
  exact Json.wfElems_iff.mp hrows e he

/-- The document a signal is written into. -/
def write (d : TableDocument) (sig : Signal) : TableDocument where
  members := Members.assign sig.object.table
    (.arr (setRows (sig.object.change sig.property sig.value (d.rows sig.object))
      (d.rows sig.object))) d.members
  wf := wf_assign_arr d.wf (wf_setRows (fun _ => d.wf_of_mem) fun _ _ => change_wf _ _ _ _)
  noNulls := by
    have hnulls := Json.noNullMembers_iff.mp (by simpa only [Json.NoNulls] using d.noNulls)
    rw [Json.NoNulls, Json.noNullMembers_iff]
    intro m hm
    rcases Members.mem_assign hm with rfl | hm
    · refine ⟨fun h => ?_, by simp only [Json.NoNulls]⟩
      cases h
    · exact hnulls m hm
  tables o := by
    by_cases htable : sig.object.table = o.table
    · rw [← htable]
      exact ⟨_, Members.lookup_assign_self _ _ _, isObj_setRows fun _ => d.isObj_of_mem⟩
    · obtain ⟨rows, hrows, hobj⟩ := d.tables o
      exact ⟨rows, (Members.lookup_assign_ne htable _ _).trans hrows, hobj⟩

end TableDocument

theorem handle_cases (d : TableDocument) (sig : Signal) :
    sig.handle d.json = (d.write sig).json ∧ sig.written d.json = sig.writeTo d.json ∨
      sig.handle d.json = d.json ∧ sig.written d.json = fun _ => none := by
  rw [Signal.handle, Signal.written]
  cases ho : sig.outcome d.json with
  | written d' => exact Or.inl ⟨callback_written d ho, rfl⟩
  | _ => exact Or.inr ⟨rfl, rfl⟩

theorem written_of_sends (d : TableDocument) {sig : Signal}
    (h : sig.object.Sends sig.property sig.value) :
    sig.handle d.json = (d.write sig).json ∧ sig.written d.json = sig.writeTo d.json := by
  obtain ⟨d', hd'⟩ := callback_writes d h
  have ho : sig.outcome d.json = .written d' := hd'
  rw [Signal.handle, Signal.written, ho]
  exact ⟨callback_written d hd', rfl⟩

theorem rowsOf_write (d : TableDocument) (sig : Signal) (table : String) :
    rowsOf table (d.write sig).json =
      if table = sig.object.table then
        setRows (sig.object.change sig.property sig.value (d.rows sig.object)) (d.rows sig.object)
      else rowsOf table d.json := by
  split
  · next htable =>
      rw [htable]
      exact d.rowsOf_withRows sig.object _
  · next htable =>
      have hother : (d.write sig).members.lookup table = d.members.lookup table :=
        Members.lookup_assign_ne (Ne.symm htable) _ _
      rw [TableDocument.json, TableDocument.json, rowsOf_obj, rowsOf_obj, hother]

theorem find?_setRows (ch : RowChange) {rows : List Json} (hobj : ∀ e ∈ rows, IsObj e) (i : Nat)
    (property : String) :
    ((setRows ch rows)[i]?.bind fun e => e.find? property) =
      (if property = ch.property ∧ i < rows.length then ch.cell i else none).or
        (rows[i]?.bind fun e => e.find? property) := by
  rw [getElem?_setRows]
  cases hrow : rows[i]? with
  | none =>
      have hout : ¬i < rows.length := Nat.not_lt.mpr (List.getElem?_eq_none_iff.mp hrow)
      rw [if_neg fun hin => hout hin.2]
      rfl
  | some e =>
      have hin : i < rows.length := (List.getElem?_eq_some_iff.mp hrow).1
      have hset : Settable e := Or.inl (hobj e (List.mem_of_getElem? hrow))
      rw [Option.map_some, Option.bind_some, Option.bind_some]
      cases ch.cell i with
      | none => rw [ite_self, Option.none_or]; rfl
      | some v =>
          by_cases hproperty : property = ch.property
          · rw [if_pos ⟨hproperty, hin⟩, hproperty, Option.some_or]
            exact find?_putRow_self _ _ _
          · rw [if_neg fun h => hproperty h.1, Option.none_or]
            exact find?_putRow_ne (Ne.symm hproperty) hset v

/-- As cells, the document is written over with the values of the signal. -/
theorem cellsOf_write (d : TableDocument) (sig : Signal) :
    cellsOf (d.write sig).json = overwrite (cellsOf d.json) (sig.writeTo d.json) := by
  funext c
  rw [cellsOf, rowsOf_write, overwrite, Signal.writeTo, cellsOf]
  by_cases htable : c.table = sig.object.table
  · have hobj : ∀ e ∈ d.rows sig.object, IsObj e := fun _ => d.isObj_of_mem
    have hset := find?_setRows (sig.object.change sig.property sig.value (d.rows sig.object)) hobj
      c.row c.property
    rw [change_property] at hset
    rw [if_pos htable, if_pos htable, htable]
    exact hset
  · rw [if_neg htable, if_neg htable, Option.none_or]

/-! ## Histories -/

/-- The tables have as many rows, and the other sections are the same. -/
structure SameShape (d d' : Json) : Prop where
  rows : ∀ table, (rowsOf table d').length = (rowsOf table d).length
  sections : ∀ key, (∀ o : MonitoredObject, key ≠ o.table) → d'.find? key = d.find? key

theorem SameShape.refl (d : Json) : SameShape d d := ⟨fun _ => rfl, fun _ _ => rfl⟩

theorem SameShape.trans {d d' d'' : Json} (h : SameShape d d') (h' : SameShape d' d'') :
    SameShape d d'' where
  rows table := (h'.rows table).trans (h.rows table)
  sections key hkey := (h'.sections key hkey).trans (h.sections key hkey)

theorem sameShape_write (d : TableDocument) (sig : Signal) :
    SameShape d.json (d.write sig).json where
  rows table := by
    rw [rowsOf_write]
    split
    · next htable =>
        rw [setRows, List.length_mapIdx, htable]
        rfl
    · rfl
  sections key hkey := Members.lookup_assign_ne (Ne.symm (hkey sig.object)) _ _

theorem handleAll_cells (d : TableDocument) (sigs : List Signal) :
    ∃ d' : TableDocument, handleAll d.json sigs = d'.json ∧ SameShape d.json d'.json ∧
      ∀ c, cellsOf d'.json c = (lastWritten (historyOf d.json sigs) c).or (cellsOf d.json c) := by
  induction sigs generalizing d with
  | nil => exact ⟨d, rfl, .refl _, fun _ => rfl⟩
  | cons sig sigs ih =>
      have hhandle : handleAll d.json (sig :: sigs) = handleAll (sig.handle d.json) sigs := rfl
      simp only [historyOf, lastWritten_cons, hhandle]
      rcases handle_cases d sig with ⟨hwrite, hwritten⟩ | ⟨hkept, hwritten⟩
      · obtain ⟨d', hd', hshape, hcells⟩ := ih (d.write sig)
        rw [hwrite, hwritten]
        refine ⟨d', hd', (sameShape_write d sig).trans hshape, fun c => ?_⟩
        rw [hcells, cellsOf_write, overwrite, Option.or_assoc]
      · obtain ⟨d', hd', hshape, hcells⟩ := ih d
        rw [hkept, hwritten]
        refine ⟨d', hd', hshape, fun c => ?_⟩
        rw [hcells, Option.or_none]

/-! ## Signals of the setters -/

theorem change_of_sends {o : MonitoredObject} {property : String} {v : Variant}
    (h : o.Sends property v) (rows rows' : List Json) :
    o.change property v rows = o.change property v rows' := by
  cases o with
  | list b => rcases h with ⟨xs, rfl⟩ | ⟨xs, rfl⟩ <;> rfl
  | policyList b => rcases h with ⟨xs, rfl⟩ | ⟨xs, rfl⟩ <;> rfl
  | pefConfInfo => rfl

theorem writeTo_of_sends {sig : Signal} (h : sig.object.Sends sig.property sig.value)
    {d d' : Json} (hshape : SameShape d d') : sig.writeTo d' = sig.writeTo d := by
  funext c
  rw [Signal.writeTo, Signal.writeTo, hshape.rows, change_of_sends h]

theorem historyOf_of_sends (d : TableDocument) {sigs : List Signal}
    (h : ∀ sig ∈ sigs, sig.object.Sends sig.property sig.value) :
    historyOf d.json sigs = sigs.map fun sig => sig.writeTo d.json := by
  induction sigs generalizing d with
  | nil => rfl
  | cons sig sigs ih =>
      obtain ⟨hwrite, hwritten⟩ := written_of_sends d (h sig List.mem_cons_self)
      have hrest := fun sig' hsig' => h sig' (List.mem_cons_of_mem sig hsig')
      rw [historyOf, List.map_cons, hwrite, hwritten, ih (d.write sig) hrest]
      congr 1
      refine List.map_congr_left fun sig' hsig' => ?_
      exact writeTo_of_sends (hrest sig' hsig') (sameShape_write d sig)

/-- Whatever signals come, in whatever order: each cell of the document holds the
last value written to it, or what it was loaded with; no row and no section comes
or goes.  The setters' signals are all written. -/
theorem cells_hold_last_value (d : TableDocument) (sigs : List Signal) :
    (∃ d' : TableDocument, handleAll d.json sigs = d'.json ∧ SameShape d.json d'.json) ∧
    (∀ c v, cellsOf (handleAll d.json sigs) c = some v ↔
      (∃ earlier w later, historyOf d.json sigs = earlier ++ w :: later ∧ w c = some v ∧
        ∀ w' ∈ later, w' c = none) ∨
      (∀ w ∈ historyOf d.json sigs, w c = none) ∧ cellsOf d.json c = some v) ∧
    ((∀ sig ∈ sigs, sig.object.Sends sig.property sig.value) →
      historyOf d.json sigs = sigs.map fun sig => sig.writeTo d.json) := by
  obtain ⟨d', hd', hshape, hcells⟩ := handleAll_cells d sigs
  refine ⟨⟨d', hd', hshape⟩, fun c v => ?_, historyOf_of_sends d⟩
  rw [hd', hcells, Option.or_eq_some_iff, lastWritten_eq_some_iff, lastWritten_eq_none_iff]

/-- Where no two signals of the setters have values for a cell in common, they may
come in any order. -/
theorem signals_reordered (d : TableDocument) {sigs sigs' : List Signal} (hperm : sigs.Perm sigs')
    (hsends : ∀ sig ∈ sigs, sig.object.Sends sig.property sig.value)
    (hapart : sigs.Pairwise fun sig sig' => Apart (sig.writeTo d.json) (sig'.writeTo d.json)) :
    cellsOf (handleAll d.json sigs) = cellsOf (handleAll d.json sigs') := by
  have hfold : ∀ sigs : List Signal, (∀ sig ∈ sigs, sig.object.Sends sig.property sig.value) →
      cellsOf (handleAll d.json sigs) =
        (sigs.map fun sig => sig.writeTo d.json).foldl overwrite (cellsOf d.json) := by
    intro sigs hsends
    obtain ⟨d', hd', -, hcells⟩ := handleAll_cells d sigs
    funext c
    rw [hd', hcells, foldl_overwrite, historyOf_of_sends d hsends]
  rw [hfold sigs hsends, hfold sigs' fun sig hsig => hsends sig (hperm.mem_iff.mpr hsig)]
  exact foldl_overwrite_perm (hperm.map _) (List.pairwise_map.mpr hapart) _

theorem apart_of_ne {sig sig' : Signal}
    (h : sig.object.table ≠ sig'.object.table ∨ sig.property ≠ sig'.property) (d : Json) :
    Apart (sig.writeTo d) (sig'.writeTo d) := by
  intro c
  rw [Signal.writeTo, Signal.writeTo]
  by_cases htable : c.table = sig.object.table
  · by_cases hproperty : c.property = sig.property
    · right
      rcases h with h | h
      · rw [if_neg (htable ▸ h)]
      · rw [ite_eq_right_iff]
        intro _
        exact if_neg fun hcell => h (hproperty.symm.trans hcell.1)
    · left
      rw [if_pos htable, if_neg fun hcell => hproperty hcell.1]
  · exact Or.inl (if_neg htable)

/-- Both policies disabled, and both sent to channel 3. -/
theorem disabled_and_moved :
    cellsOf (handleAll twoPolicies.json [⟨.policyList 0, "EnableAlert", .u8s [0, 0]⟩,
        ⟨.policyList 0, "ChannelNo", .u8s [3, 3]⟩]) =
      cellsOf (handleAll twoPolicies.json [⟨.policyList 0, "ChannelNo", .u8s [3, 3]⟩,
        ⟨.policyList 0, "EnableAlert", .u8s [0, 0]⟩]) := by
  refine signals_reordered twoPolicies (List.Perm.swap _ _ _) ?_ ?_
  · intro sig hsig
    rcases List.mem_pair.mp hsig with rfl | rfl
    · exact Or.inl ⟨_, rfl⟩
    · exact Or.inl ⟨_, rfl⟩
  · exact List.pairwise_pair.mpr (apart_of_ne (Or.inr (by decide)) _)

end Pef
