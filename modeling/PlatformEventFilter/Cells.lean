/-
# `Cells` — the cells a signal addresses

A signal with one property on a list, a policy list or the settings stands for
values in some rows of one table (`MonitoredObject.change`):

    a column           the rows from the first of the list on, as many as values
    a single number    the first row whose number is the one in the path
    a setting          all rows

When the tables of the document are arrays of objects and no member of it is
`null`, the document written back has these values in these rows and is as it
was elsewhere (`signal_touches_addressed_cells`).  Two of the callbacks write
the section with the document merged onto it; without `null` members that is
the document (`mergePatch_withRows`).
-/
import PlatformEventFilter.Signals

namespace Pef

/-! ## The rows a signal addresses -/

/-- The objects whose signals the three callbacks handle. -/
inductive MonitoredObject where
  | list (b : Bucket)
  | policyList (b : Bucket)
  | pefConfInfo
  deriving DecidableEq, Repr

namespace MonitoredObject

def table : MonitoredObject → String
  | list _ => "EventFilterTable"
  | policyList _ => "AlertPolicyTable"
  | pefConfInfo => "PEFConfInfo"

/-- The callback on a signal that carries one property. -/
def callback (o : MonitoredObject) (property : String) (v : Variant) (file : Option Json) :
    MonitorOutcome :=
  match o with
  | list b => eventFilterEntryMatcher [(property, v)] (eventFilterObjMap b) file
  | policyList b => alertPolicyEntryMatcher [(property, v)] (alertPolicyObjMap b) file
  | pefConfInfo => pefConfInfoMatcher [(property, v)] file

end MonitoredObject

/-- A value for one row. -/
def cellChange (row : Option Nat) (property : String) (v : Json) : RowChange where
  property := property
  cell i := if row = some i then some v else none

/-- No value for any row. -/
def noChange (property : String) : RowChange where
  property := property
  cell _ := none

/-- Whether the filter row has the number; without one it has the number 0. -/
def filterRowTest (entryVal : Int) (e : Json) : Except Json.Error Bool :=
  (e.value "EventFilterTableEntry" Json.getInt 0).map fun n => entryVal = n

/-- Whether the policy row has the number; without one it goes for any number up
to 0. -/
def policyRowTest (entryVal : Int) (e : Json) : Except Json.Error Bool :=
  match e.find? "AlertPolicyTableEntry" with
  | some entry => entry.getInt.map fun n => entryVal = n
  | none => .ok (entryVal ≤ 0)

/-- The first row the test holds of. -/
def firstRow (test : Json → Except Json.Error Bool) (rows : List Json) : Option Nat :=
  rows.findIdx? fun e => test e = .ok true

namespace MonitoredObject

/-- A column, or the number for one row; any other value is read as the number 0. -/
def filterChange (b : Bucket) (property : String) (v : Variant) (rows : List Json) : RowChange :=
  let row := firstRow (filterRowTest (findEntryNo (eventFilterObjMap b))) rows
  match v with
  | .u8s values => columnChange (b * 10) property (jsonU8s values)
  | .u16s values => columnChange (b * 10) property (jsonU16s values)
  | .u8 x => cellChange row property (.num x.toNat)
  | .u16 x => cellChange row property (.num x.toNat)
  | _ => cellChange row property (.num 0)

def policyChange (b : Bucket) (property : String) (v : Variant) (rows : List Json) : RowChange :=
  let row := firstRow (policyRowTest (findEntryNo (alertPolicyObjMap b))) rows
  match v with
  | .u8s values => columnChange (b * 15) property (jsonU8s values)
  | .strs values => columnChange (b * 15) property (values.map .str)
  | .u8 x => cellChange row property (.num x.toNat)
  | .u16 x => cellChange row property (.num (x.setWidth 8).toNat)
  | _ => cellChange row property (.num 0)

/-- The values of a signal, and the rows they are for. -/
def change (o : MonitoredObject) (property : String) (v : Variant) (rows : List Json) : RowChange :=
  match o with
  | list b => filterChange b property v rows
  | policyList b => policyChange b property v rows
  | pefConfInfo => match confValue property v.asValue with
      | .ok val => settingChange property val
      | .error _ => noChange property

/-- The signal carries what the setters of the object send: a column of the list,
or a setting with a value of its type. -/
def Sends : MonitoredObject → String → Variant → Prop
  | list _, _, v => (∃ xs, v = .u8s xs) ∨ ∃ xs, v = .u16s xs
  | policyList _, _, v => (∃ xs, v = .u8s xs) ∨ ∃ xs, v = .strs xs
  | pefConfInfo, property, v => ∃ (c : ConfColumn) (x : c.Cell), property = c.name ∧ v = c.encode x

end MonitoredObject

/-! ## Documents -/

/-- A configuration document: an object without `null` members, whose tables are
arrays of objects. -/
structure TableDocument where
  members : List (String × Json)
  wf : (Json.obj members).WF
  noNulls : (Json.obj members).NoNulls
  tables : ∀ o : MonitoredObject, ∃ rows, members.lookup o.table = some (.arr rows) ∧
    ∀ e ∈ rows, IsObj e

namespace TableDocument

variable (d : TableDocument)

def json : Json := .obj d.members

def rows (o : MonitoredObject) : List Json := rowsOf o.table d.json

/-- The document with other rows in one table. -/
def withRows (o : MonitoredObject) (rows : List Json) : Json :=
  .obj (Members.assign o.table (.arr rows) d.members)

theorem lookup_table (o : MonitoredObject) :
    d.members.lookup o.table = some (.arr (d.rows o)) := by
  obtain ⟨rows, hrows, -⟩ := d.tables o
  have heq : d.rows o = rows := by
    rw [TableDocument.rows, json, rowsOf_obj, hrows]
    rfl
  rw [heq]
  exact hrows

theorem isObj_of_mem {o : MonitoredObject} {e : Json} (he : e ∈ d.rows o) : IsObj e := by
  obtain ⟨rows, hrows, hobj⟩ := d.tables o
  have hsame := (d.lookup_table o).symm.trans hrows
  cases hsame
  exact hobj e he

theorem rowsOf_withRows (o : MonitoredObject) (rows : List Json) :
    rowsOf o.table (d.withRows o rows) = rows := by
  rw [withRows, rowsOf_obj, Members.lookup_assign_self]
  rfl

/-- The document merged onto a section is the document: an array has no members
that could stay, and there is no `null` to drop one. -/
theorem mergePatch_withRows (o : MonitoredObject) (rows rows' : List Json) :
    (Json.arr rows').mergePatch (d.withRows o rows) = d.withRows o rows := by
  have hnulls := Json.noNullMembers_iff.mp (by simpa only [Json.NoNulls] using d.noNulls)
  have hwf := d.wf
  simp only [Json.WF] at hwf
  rw [withRows, Json.mergePatch, Json.obj.injEq]
  refine (Json.mergeMembers_nil_eq_self_iff (Members.nodup_assign hwf.1)).mpr fun m hm => ?_
  rcases Members.mem_assign hm with rfl | hm
  · refine ⟨fun h => ?_, by rw [Json.mergePatch]⟩
    cases h
  · exact ⟨(hnulls m hm).1, (Json.mergePatch_members hwf.2 m hm).mpr (hnulls m hm).2⟩

end TableDocument

/-! ## What the callbacks do to the rows -/

section Rows

variable {rows : List Json} {property : String}

theorem allSettable_of_isObj (hobj : ∀ e ∈ rows, IsObj e) (ch : RowChange) :
    AllSettable ch rows :=
  fun _ _ e _ he => Or.inl (hobj e (List.mem_of_getElem? he))

theorem put_eq_putRow {v e : Json} (he : IsObj e) :
    Json.put property v e = .ok (putRow property e v) :=
  put_of_settable (Or.inl he)

theorem writeColumn_rows (hobj : ∀ e ∈ rows, IsObj e) (start : Nat) (cells : List Json) :
    writeColumn start property cells (.arr rows) =
      .ok (.arr (setRows (columnChange start property cells) rows)) :=
  (writeColumn_array start property cells rows).1 (allSettable_of_isObj hobj _)

theorem setRows_cellChange (row : Option Nat) (v : Json) :
    setRows (cellChange row property v) rows =
      rows.mapIdx fun i e => if row = some i then putRow property e v else e := by
  rw [setRows]
  congr 1
  funext i e
  simp only [cellChange]
  split <;> rfl

theorem updateItems_replaceFirst (hobj : ∀ e ∈ rows, IsObj e)
    {f : Json → Except Json.Error (Option Json)} {test : Json → Except Json.Error Bool} {v : Json}
    (hf : ∀ e, IsObj e →
      f e = (test e).map fun here => if here then some (putRow property e v) else none) {t : Json}
    (h : Json.updateItems (Json.replaceFirst f) (.arr rows) = .ok t) :
    t = .arr (setRows (cellChange (firstRow test rows) property v) rows) := by
  have hstep : ∀ e ∈ rows, ∀ o, f e = .ok o →
      o = if decide (test e = .ok true) then some (putRow property e v) else none := by
    intro e he o ho
    rw [hf e (hobj e he)] at ho
    rcases htest : test e with err | _ | _
    all_goals
      rw [htest] at ho
      cases ho
    · rfl
    · rfl
  rw [Json.updateItems] at h
  cases hr : Json.replaceFirst f rows with
  | error e => rw [hr] at h; cases h
  | ok ys =>
      rw [hr] at h
      cases h
      rw [setRows_cellChange, Json.replaceFirst_eq_mapIdx hstep hr, firstRow]

theorem legacyFilterWrite_rows (hobj : ∀ e ∈ rows, IsObj e) {entryVal : Int} {w : Variant}
    {v t : Json}
    (hw : (∃ x, w = .u8 x ∧ v = .num x.toNat) ∨ ∃ x, w = .u16 x ∧ v = .num x.toNat)
    (h : legacyFilterWrite property entryVal w (.arr rows) = .ok t) :
    t = .arr (setRows (cellChange (firstRow (filterRowTest entryVal) rows) property v) rows) := by
  refine updateItems_replaceFirst hobj (fun e he => ?_) h
  rw [filterRowTest]
  cases e.value "EventFilterTableEntry" Json.getInt 0 with
  | error err => rfl
  | ok n =>
      by_cases hval : entryVal = n
      · rcases hw with ⟨x, rfl, rfl⟩ | ⟨x, rfl, rfl⟩
        all_goals
          simp only [bind, Except.bind, Except.map, hval, decide_true, if_true, put_eq_putRow he]
      · simp only [bind, Except.bind, Except.map, hval, decide_false, if_false]
        rfl

theorem legacyPolicyWrite_rows (hobj : ∀ e ∈ rows, IsObj e) {entryVal : Int} {val : U8} {t : Json}
    (h : legacyPolicyWrite property entryVal val (.arr rows) = .ok t) :
    t = .arr (setRows (cellChange (firstRow (policyRowTest entryVal) rows) property
      (.num val.toNat)) rows) := by
  refine updateItems_replaceFirst hobj (fun e he => ?_) h
  simp only [policyRowTest, put_eq_putRow he]
  cases e.find? "AlertPolicyTableEntry" with
  | none =>
      by_cases hval : entryVal > 0
      · have hle : ¬ entryVal ≤ 0 := Int.not_le_of_gt hval
        simp only [hval, hle, if_true, Except.map, decide_false]
        rfl
      · have hle : entryVal ≤ 0 := Int.not_lt.mp hval
        simp only [hval, hle, if_false, if_true, Except.map, decide_true]
  | some entry =>
      simp only [bind]
      cases entry.getInt with
      | error err => rfl
      | ok n =>
          by_cases hval : entryVal = n
          · simp only [Except.bind, Except.map, hval, ne_eq, not_true, if_false, if_true,
              decide_true]
          · simp only [Except.bind, Except.map, hval, ne_eq, not_false_eq_true, if_true,
              decide_false]
            rfl

end Rows

/-- The write of the filter callback on a list. -/
def filterWrite (b : Bucket) (property : String) (v : Variant) : Json → Except Json.Error Json :=
  let entryVal := findEntryNo (eventFilterObjMap b)
  match v with
  | .u8s values => writeColumn (b * 10) property (jsonU8s values)
  | .u16s values => writeColumn (b * 10) property (jsonU16s values)
  | .u8 x => legacyFilterWrite property entryVal (.u8 x)
  | .u16 x => legacyFilterWrite property entryVal (.u16 x)
  | _ => legacyFilterWrite property entryVal (.u8 0)

/-- The write of the policy callback on a policy list. -/
def policyWrite (b : Bucket) (property : String) (v : Variant) : Json → Except Json.Error Json :=
  let entryVal := findEntryNo (alertPolicyObjMap b)
  match v with
  | .u8s values => writeColumn (b * 15) property (jsonU8s values)
  | .strs values => writeColumn (b * 15) property (values.map .str)
  | .u8 x => legacyPolicyWrite property entryVal x
  | .u16 x => legacyPolicyWrite property entryVal (x.setWidth 8)
  | _ => legacyPolicyWrite property entryVal 0

theorem list_callback (b : Bucket) (property : String) (v : Variant) (file : Option Json) :
    (MonitoredObject.list b).callback property v file =
      .ofExcept ((editSection file "EventFilterTable" (filterWrite b property v)).map
        Prod.snd) := by
  simp only [MonitoredObject.callback, eventFilterEntryMatcher, bucketIndexOf_eventFilter]
  cases v <;> rfl

theorem policyList_callback (b : Bucket) (property : String) (v : Variant) (file : Option Json) :
    (MonitoredObject.policyList b).callback property v file =
      .ofExcept ((editSection file "AlertPolicyTable" (policyWrite b property v)).map
        fun p => p.1.mergePatch p.2) := by
  simp only [MonitoredObject.callback, alertPolicyEntryMatcher, bucketIndexOf_alertPolicy]
  cases v <;> rfl

section Written

variable {rows : List Json} {property : String} {v : Variant} {t : Json}

theorem filterWrite_rows (hobj : ∀ e ∈ rows, IsObj e) {b : Bucket}
    (h : filterWrite b property v (.arr rows) = .ok t) :
    t = .arr (setRows ((MonitoredObject.list b).change property v rows) rows) := by
  cases v with
  | u8s xs =>
      rw [filterWrite, writeColumn_rows hobj] at h
      exact (Except.ok.inj h).symm
  | u16s xs =>
      rw [filterWrite, writeColumn_rows hobj] at h
      exact (Except.ok.inj h).symm
  | u8 x => exact legacyFilterWrite_rows hobj (Or.inl ⟨x, rfl, rfl⟩) h
  | u16 x => exact legacyFilterWrite_rows hobj (Or.inr ⟨x, rfl, rfl⟩) h
  | _ => exact legacyFilterWrite_rows hobj (Or.inl ⟨0, rfl, rfl⟩) h

theorem policyWrite_rows (hobj : ∀ e ∈ rows, IsObj e) {b : Bucket}
    (h : policyWrite b property v (.arr rows) = .ok t) :
    t = .arr (setRows ((MonitoredObject.policyList b).change property v rows) rows) := by
  cases v with
  | u8s xs =>
      rw [policyWrite, writeColumn_rows hobj] at h
      exact (Except.ok.inj h).symm
  | strs xs =>
      rw [policyWrite, writeColumn_rows hobj] at h
      exact (Except.ok.inj h).symm
  | _ => exact legacyPolicyWrite_rows hobj h

theorem settings_rows (hobj : ∀ e ∈ rows, IsObj e) (val : Json) :
    Json.updateItems (fun values => values.mapM (Json.put property val)) (.arr rows) =
      .ok (.arr (setRows (settingChange property val) rows)) := by
  rw [Json.updateItems, (mapM_put property val rows).1 (allSettable_of_isObj hobj _)]
  rfl

end Written

theorem editSection_written (d : TableDocument) {o : MonitoredObject}
    {f : Json → Except Json.Error Json} {ch : RowChange} {writeBack : Json × Json → Json}
    (hback : ∀ rows, writeBack (.arr rows, d.withRows o rows) = d.withRows o rows)
    (hf : ∀ t, f (.arr (d.rows o)) = .ok t → t = .arr (setRows ch (d.rows o))) {d' : Json}
    (h : MonitorOutcome.ofExcept ((editSection (some d.json) o.table f).map writeBack) =
      .written d') :
    d' = d.withRows o (setRows ch (d.rows o)) := by
  rw [TableDocument.json, editSection_obj, d.lookup_table, Option.getD_some] at h
  cases ht : f (.arr (d.rows o)) with
  | error e =>
      rw [ht] at h
      cases e <;> cases h
  | ok t =>
      rw [ht, hf t ht] at h
      cases h
      exact hback _

theorem editSection_writes (d : TableDocument) (o : MonitoredObject)
    {f : Json → Except Json.Error Json} (writeBack : Json × Json → Json) {t : Json}
    (ht : f (.arr (d.rows o)) = .ok t) :
    ∃ d', MonitorOutcome.ofExcept ((editSection (some d.json) o.table f).map writeBack) =
      .written d' := by
  rw [TableDocument.json, editSection_obj, d.lookup_table, Option.getD_some, ht]
  exact ⟨_, rfl⟩

theorem callback_written (d : TableDocument) {o : MonitoredObject} {property : String}
    {v : Variant} {d' : Json} (h : o.callback property v (some d.json) = .written d') :
    d' = d.withRows o (setRows (o.change property v (d.rows o)) (d.rows o)) := by
  cases o with
  | list b =>
      rw [list_callback] at h
      exact editSection_written d (fun _ => rfl)
        (fun t => filterWrite_rows fun e => d.isObj_of_mem) h
  | policyList b =>
      rw [policyList_callback] at h
      exact editSection_written d (fun rows => d.mergePatch_withRows _ rows rows)
        (fun t => policyWrite_rows fun e => d.isObj_of_mem) h
  | pefConfInfo =>
      simp only [MonitoredObject.callback, pefConfInfoMatcher] at h
      simp only [MonitoredObject.change]
      cases hval : confValue property v.asValue with
      | error e =>
          rw [hval] at h
          cases h
      | ok val =>
          rw [hval] at h
          refine editSection_written d (fun rows => d.mergePatch_withRows _ rows rows)
            (fun t ht => ?_) h
          rw [settings_rows fun e => d.isObj_of_mem] at ht
          exact (Except.ok.inj ht).symm

theorem callback_writes (d : TableDocument) {o : MonitoredObject} {property : String}
    {v : Variant} (h : o.Sends property v) :
    ∃ d', o.callback property v (some d.json) = .written d' := by
  cases o with
  | list b =>
      rw [list_callback]
      rcases h with ⟨xs, rfl⟩ | ⟨xs, rfl⟩
      · exact editSection_writes d (.list b) _ (writeColumn_rows (fun e => d.isObj_of_mem) _ _)
      · exact editSection_writes d (.list b) _ (writeColumn_rows (fun e => d.isObj_of_mem) _ _)
  | policyList b =>
      rw [policyList_callback]
      rcases h with ⟨xs, rfl⟩ | ⟨xs, rfl⟩
      · exact editSection_writes d (.policyList b) _
          (writeColumn_rows (fun e => d.isObj_of_mem) _ _)
      · exact editSection_writes d (.policyList b) _
          (writeColumn_rows (fun e => d.isObj_of_mem) _ _)
  | pefConfInfo =>
      obtain ⟨c, x, rfl, rfl⟩ := h
      rw [MonitoredObject.callback, pefConfInfoMatcher_first]
      exact editSection_writes d .pefConfInfo _ (settings_rows (fun e => d.isObj_of_mem) _)

theorem callback_unparsed (o : MonitoredObject) (property : String) (v : Variant) :
    o.callback property v none = .untouched ∨
      ∃ e, o.callback property v none = .threw e := by
  cases o with
  | list b =>
      rw [list_callback]
      exact Or.inl rfl
  | policyList b =>
      rw [policyList_callback]
      exact Or.inl rfl
  | pefConfInfo =>
      simp only [MonitoredObject.callback, pefConfInfoMatcher]
      cases confValue property v.asValue with
      | error e => exact Or.inr ⟨e, rfl⟩
      | ok val => exact Or.inl rfl

/-! ## Only these cells -/

/-- From `d` to `d'` nothing changes but a property in the rows of one table that
there is a value for, and these hold their values. -/
structure TouchesOnly (table property : String) (cell : Nat → Option Json) (d d' : Json) :
    Prop where
  names : d'.members.map Prod.fst = d.members.map Prod.fst
  sections : ∀ key ≠ table, d'.find? key = d.find? key
  array : d'.find? table = some (.arr (rowsOf table d'))
  length : (rowsOf table d').length = (rowsOf table d).length
  rows : ∀ i, cell i = none → (rowsOf table d')[i]? = (rowsOf table d)[i]?
  properties : ∀ (i : Nat) (e e' : Json), (rowsOf table d)[i]? = some e →
    (rowsOf table d')[i]? = some e' → ∀ other ≠ property, e'.find? other = e.find? other
  stored : Stored ⟨property, cell⟩ (rowsOf table d')

theorem change_property (o : MonitoredObject) (property : String) (v : Variant)
    (rows : List Json) : (o.change property v rows).property = property := by
  cases o with
  | list b => cases v <;> rfl
  | policyList b => cases v <;> rfl
  | pefConfInfo =>
      simp only [MonitoredObject.change]
      cases confValue property v.asValue <;> rfl

theorem touchesOnly_withRows (d : TableDocument) (o : MonitoredObject) (ch : RowChange) :
    TouchesOnly o.table ch.property ch.cell d.json
      (d.withRows o (setRows ch (d.rows o))) where
  names := Members.names_assign (d.lookup_table o)
  sections key hkey := Members.lookup_assign_ne (Ne.symm hkey) _ _
  array := by
    rw [d.rowsOf_withRows]
    exact Members.lookup_assign_self _ _ _
  length := by
    rw [d.rowsOf_withRows, setRows, List.length_mapIdx]
    rfl
  rows i hi := by
    rw [d.rowsOf_withRows, getElem?_setRows, hi]
    exact Option.map_id'
  properties i e e' he he' other hother := by
    rw [d.rowsOf_withRows, getElem?_setRows, show (d.rows o)[i]? = some e from he] at he'
    cases he'
    cases ch.cell i with
    | none => rfl
    | some v =>
        exact find?_putRow_ne (Ne.symm hother) (Or.inl (d.isObj_of_mem (List.mem_of_getElem? he))) v
  stored := by
    rw [d.rowsOf_withRows]
    exact stored_setRows ch (d.rows o)

/-- Whatever one property a signal of a list, a policy list or the settings
carries, what is written back is the document with that property changed in the
rows addressed and nothing else; what the setters send is written.  Merging the
document onto the section makes no difference, and a file that does not parse
is left alone. -/
theorem signal_touches_addressed_cells (o : MonitoredObject) (property : String) (v : Variant) :
    (∀ (d : TableDocument) (d' : Json), o.callback property v (some d.json) = .written d' →
      d' = d.withRows o (setRows (o.change property v (d.rows o)) (d.rows o)) ∧
      TouchesOnly o.table property (o.change property v (d.rows o)).cell d.json d') ∧
    (∀ d : TableDocument, o.Sends property v →
      ∃ d', o.callback property v (some d.json) = .written d') ∧
    (∀ (d : TableDocument) (rows : List Json),
      (Json.arr rows).mergePatch (d.withRows o rows) = d.withRows o rows) ∧
    (o.callback property v none = .untouched ∨ ∃ e, o.callback property v none = .threw e) := by
  refine ⟨fun d d' h => ?_, fun d => callback_writes d,
    fun d rows => d.mergePatch_withRows o rows rows, callback_unparsed o property v⟩
  have heq := callback_written d h
  have htouch := touchesOnly_withRows d o (o.change property v (d.rows o))
  rw [change_property, ← heq] at htouch
  exact ⟨heq, htouch⟩

/-- Two policies behind a version object, and one element of settings. -/
def twoPolicies : TableDocument where
  members := [("Version", .obj [("Major", .num 1)]), ("EventFilterTable", .arr []),
    ("AlertPolicyTable", .arr [.obj [("EnableAlert", .num 1), ("ChannelNo", .num 1)],
      .obj [("EnableAlert", .num 0), ("ChannelNo", .num 2)]]),
    ("PEFConfInfo", .arr [.obj [("PEFControl", .num 1)]])]
  wf := by simp [Json.WF, Json.wfMembers_iff, Json.wfElems_iff]
  noNulls := by simp [Json.NoNulls, Json.noNullMembers_iff]
  tables o := by
    cases o with
    | list b => exact ⟨[], rfl, by simp⟩
    | policyList b =>
        refine ⟨_, rfl, fun e he => ?_⟩
        simp only [List.mem_cons, List.not_mem_nil, or_false] at he
        rcases he with rfl | rfl
        · exact ⟨_, rfl⟩
        · exact ⟨_, rfl⟩
    | pefConfInfo =>
        refine ⟨_, rfl, fun e he => ?_⟩
        rw [List.mem_singleton] at he
        exact ⟨_, he⟩

/-- A third value, for which there is no row, adds none. -/
theorem enableAlert_cells :
    ∃ d', (MonitoredObject.policyList 0).callback "EnableAlert" (.u8s [0, 1, 1])
        (some twoPolicies.json) = .written d' ∧
      TouchesOnly "AlertPolicyTable" "EnableAlert"
        (columnChange 0 "EnableAlert" [.num 0, .num 1, .num 1]).cell twoPolicies.json d' := by
  obtain ⟨hcells, hwrites, -, -⟩ :=
    signal_touches_addressed_cells (.policyList 0) "EnableAlert" (.u8s [0, 1, 1])
  obtain ⟨d', hd'⟩ := hwrites twoPolicies (Or.inl ⟨_, rfl⟩)
  exact ⟨d', hd', (hcells twoPolicies d' hd').2⟩

end Pef
