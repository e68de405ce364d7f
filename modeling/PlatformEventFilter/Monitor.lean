/-
# `Monitor` — the callbacks that carry property changes back to the file

`pef_config_update.hpp`: a second process watches the exported objects and, for
each `PropertiesChanged` signal, reads the configuration file, changes it and
writes it back.

    eventFilterEntryMatcher   EventFilterTable/List<k>
    alertPolicyEntryMatcher   AlertPolicyTable/PolicyList_eth<k>
    pefConfInfoMatcher        PEFConfInfo

Only the first property of a signal is looked at.  A list object is recognised
by its path and writes the column from row `10 k` (or `15 k`) on, as far as the
table reaches; any other path takes the scalar form of older objects.

`handleSignal_column` says what the two table callbacks leave of a table of
objects: the new column overlaid onto its rows.
-/
import PlatformEventFilter.Setters

namespace Pef

/-- What a callback does with the file. -/
inductive MonitorOutcome where
  | written (d : Json)
  | untouched
  | threw (e : CxxException)
  | undefined

/-- A JSON exception is caught and leaves the file as it is. -/
def MonitorOutcome.ofExcept : Except Json.Error Json → MonitorOutcome
  | .ok d => .written d
  | .error (.typeError _) => .untouched
  | .error .undefined => .undefined

/-- The file after the callback; `d` is its content before. -/
def MonitorOutcome.file (d : Json) : MonitorOutcome → Json
  | .written d' => d'
  | _ => d

/-! ## Object paths -/

def containsStr (s t : String) : Bool := s.toList.tails.any fun u => t.toList.isPrefixOf u

def eventFilterListNames : List String := ["List1", "List2", "List3", "List4"]

def policyListNames : List String :=
  ["PolicyList_eth0", "PolicyList_eth1", "PolicyList_eth2", "PolicyList_eth3"]

/-- The first of the names the path contains. -/
def bucketIndexOf (names : List String) (objPath : String) : Option Nat :=
  names.findIdx? (containsStr objPath)

/-- The number in the last component of the path. -/
def findEntryNo (path : String) : Int :=
  let entry := (path.toList.reverse.takeWhile fun c => c ≠ '/' && c ≠ '\\').reverse
  let digits := (entry.dropWhile fun c => !c.isDigit).takeWhile Char.isDigit
  digits.foldl (fun n c => 10 * n + (c.toNat - '0'.toNat : Nat)) (0 : Int)

/-! ## Writing a column -/

/-- `tbl[i][property] = v` for the values one after the other. -/
def writeRows (property : String) : Nat → List Json → Json → Except Json.Error Json
  | _, [], tbl => .ok tbl
  | i, v :: vs, tbl => do
      let tbl ← tbl.putAt i (Json.put property v)
      writeRows property (i + 1) vs tbl

/-- The values written from row `start` on, as many as there are rows left. -/
def writeColumn (start : Nat) (property : String) (values : List Json) (tbl : Json) :
    Except Json.Error Json :=
  let maxCount := if start < tbl.size then tbl.size - start else 0
  writeRows property start (values.take (min values.length maxCount)) tbl

/-- `data[key]` changed in place by `f`; both are returned, the section first. -/
def editSection (file : Option Json) (key : String) (f : Json → Except Json.Error Json) :
    Except Json.Error (Json × Json) :=
  match file with
  | none => .error (.typeError 305)
  | some d => do
      let (data, tbl) ← d.access key
      let tbl ← f tbl
      let data ← Json.put key tbl data
      pure (tbl, data)

/-! ## The callbacks -/

def jsonU8s (xs : List U8) : List Json := xs.map fun x => .num x.toNat

def jsonU16s (xs : List U16) : List Json := xs.map fun x => .num x.toNat

/-- The scalar form: the row whose `EventFilterTableEntry` is the number in the
path. -/
def legacyFilterWrite (property : String) (entryVal : Int) (changedValue : Variant) :
    Json → Except Json.Error Json :=
  Json.updateItems <| Json.replaceFirst fun value => do
    let eventFilterEntry ← value.value "EventFilterTableEntry" Json.getInt 0
    if entryVal = eventFilterEntry then
      match changedValue with
      | .u16 x => (Json.put property (.num x.toNat) value).map some
      | .u8 x => (Json.put property (.num x.toNat) value).map some
      | _ => pure (some value)
    else pure none

def eventFilterEntryMatcher (propertiesChanged : PropertyMap) (objPath : String)
    (file : Option Json) : MonitorOutcome :=
  match propertiesChanged with
  | [] => .untouched
  | (property, v) :: _ =>
      let changedValue := v.narrow (fun
        | .u8 _ | .u16 _ | .u8s _ | .u16s _ => true
        | _ => false) (.u8 0)
      .ofExcept <| (editSection file "EventFilterTable"
        (match bucketIndexOf eventFilterListNames objPath, changedValue with
          | some b, .u8s values => writeColumn (b * 10) property (jsonU8s values)
          | some b, .u16s values => writeColumn (b * 10) property (jsonU16s values)
          | _, w => legacyFilterWrite property (findEntryNo objPath) w)).map Prod.snd

/-- The scalar form: the first row whose `AlertPolicyTableEntry` is the number
in the path, a row without one standing for a path without a number. -/
def legacyPolicyWrite (property : String) (entryVal : Int) (val : U8) :
    Json → Except Json.Error Json :=
  Json.updateItems <| Json.replaceFirst fun value =>
    match value.find? "AlertPolicyTableEntry" with
    | some entry => do
        let alertPolicyEntry ← entry.getInt
        if entryVal ≠ alertPolicyEntry then pure none
        else (Json.put property (.num val.toNat) value).map some
    | none =>
        if entryVal > 0 then pure none
        else (Json.put property (.num val.toNat) value).map some

def alertPolicyEntryMatcher (propertiesChanged : PropertyMap) (objPath : String)
    (file : Option Json) : MonitorOutcome :=
  match propertiesChanged with
  | [] => .untouched
  | (property, v) :: _ =>
      let changedValue := v.narrow (fun
        | .u8 _ | .u16 _ | .u8s _ | .strs _ => true
        | _ => false) (.u8 0)
      let write : Option (Json → Except Json.Error Json) :=
        match bucketIndexOf policyListNames objPath, changedValue with
        | some b, .u8s values => some (writeColumn (b * 15) property (jsonU8s values))
        | some b, .strs values => some (writeColumn (b * 15) property (values.map .str))
        | _, .u8 x => some (legacyPolicyWrite property (findEntryNo objPath) x)
        | _, .u16 x => some (legacyPolicyWrite property (findEntryNo objPath) (x.setWidth 8))
        | _, _ => none
      match write with
      | none => .untouched
      | some f => .ofExcept <|
          (editSection file "AlertPolicyTable" f).map fun p => p.1.mergePatch p.2

/-- The new value of a setting, by the name of its property. -/
def confValue (property : String) (v : Variant) : Except CxxException Json :=
  if property = "LastSWProcessedEventID" ∨ property = "LastBMCProcessedEventID" then
    match v with
    | .u16 selId => .ok (.num selId.toNat)
    | _ => .error .badVariantAccess
  else if property = "Subject" ∨ property = "Message" then
    v.getStr.map .str
  else v.getU8.map fun x => .num x.toNat

def pefConfInfoMatcher (propertiesChanged : PropertyMap) (file : Option Json) :
    MonitorOutcome :=
  match propertiesChanged with
  | [] => .undefined
  | (property, v) :: _ =>
      match confValue property v.asValue with
      | .error e => .threw e
      | .ok val => .ofExcept <|
          (editSection file "PEFConfInfo"
            (Json.updateItems fun values => values.mapM (Json.put property val))).map
            fun p => p.1.mergePatch p.2

/-! ## The signal of a Set -/

/-- The property the signal of a Set carries. -/
def SetRequest.propertiesChanged : SetRequest → PropertyMap
  | .eventFilter _ c value => [(c.name, c.encode value)]
  | .alertPolicy _ c value => [(c.name, c.encode value)]
  | .pefConfInfo c value => [(c.name, c.encode value)]

/-- The callback that receives the signal of a Set, on the file `d`. -/
def handleSignal (d : Json) (req : SetRequest) : MonitorOutcome :=
  match req with
  | .eventFilter b .. =>
      eventFilterEntryMatcher req.propertiesChanged (eventFilterObjMap b) (some d)
  | .alertPolicy b .. =>
      alertPolicyEntryMatcher req.propertiesChanged (alertPolicyObjMap b) (some d)
  | .pefConfInfo .. => pefConfInfoMatcher req.propertiesChanged (some d)

/-- The file after the signal of a Set has been handled. -/
def fileAfter (d : Json) (req : SetRequest) : Json := (handleSignal d req).file d

/-! ## What the table callbacks write -/

/-- A member set, when the value is an object. -/
def setMember (property : String) (e v : Json) : Json :=
  match e with
  | .obj ms => .obj (Members.assign property v ms)
  | e => e

/-- A JSON object. -/
def IsObj (e : Json) : Prop := ∃ ms, e = .obj ms

theorem put_of_isObj {property : String} {v e : Json} (h : IsObj e) :
    Json.put property v e = .ok (setMember property e v) := by
  obtain ⟨ms, rfl⟩ := h
  rfl

theorem isObj_setMember {property : String} {v e : Json} (h : IsObj e) :
    IsObj (setMember property e v) := by
  obtain ⟨ms, rfl⟩ := h
  exact ⟨_, rfl⟩

theorem writeRows_of_isObj (property : String) :
    ∀ (vs : List Json) (i : Nat) (xs : List Json), (∀ e ∈ xs, IsObj e) → i + vs.length ≤ xs.length →
      writeRows property i vs (.arr xs) = .ok (.arr (overlay (setMember property) i vs xs))
  | [], i, xs, _, _ => by
      have h : overlay (setMember property) i [] xs = xs := by
        apply List.ext_getElem?
        intro j
        rw [getElem?_overlay]
        simp
      rw [h]; rfl
  | v :: vs, i, xs, hxs, hlen => by
      have hi : i < xs.length := by rw [List.length_cons] at hlen; omega
      have hput : Json.put property v xs[i] = .ok (setMember property xs[i] v) :=
        put_of_isObj (hxs _ (List.getElem_mem hi))
      simp only [writeRows, Json.putAt_of_lt hi, hput, Except.map]
      have hxs' : ∀ e ∈ xs.set i (setMember property xs[i] v), IsObj e := by
        intro e he
        rcases List.mem_or_eq_of_mem_set he with he | rfl
        · exact hxs e he
        · exact isObj_setMember (hxs _ (List.getElem_mem hi))
      have hlen' : i + 1 + vs.length ≤ (xs.set i (setMember property xs[i] v)).length := by
        rw [List.length_set]; rw [List.length_cons] at hlen; omega
      refine (writeRows_of_isObj property vs (i + 1) _ hxs' hlen').trans ?_
      · congr 2
        apply List.ext_getElem?
        intro j
        rw [getElem?_overlay, getElem?_overlay, List.getElem?_set]
        rcases Nat.lt_trichotomy i j with h | h | h
        · simp [show ¬ i = j by omega, show i + 1 ≤ j by omega, show i ≤ j by omega,
            show j - i = j - (i + 1) + 1 by omega]
        · subst h
          simp [hi, show ¬ i + 1 ≤ i by omega]
        · simp [show ¬ i = j by omega, show ¬ i + 1 ≤ j by omega, show ¬ i ≤ j by omega]

/-- A column written from `start` on is overlaid onto the rows: the callback
stops at the end of the table, and nowhere else. -/
theorem writeColumn_of_isObj (property : String) (start : Nat) (vs xs : List Json)
    (hxs : ∀ e ∈ xs, IsObj e) :
    writeColumn start property vs (.arr xs) =
      .ok (.arr (overlay (setMember property) start vs xs)) := by
  have hcount : (if start < (Json.arr xs).size then (Json.arr xs).size - start else 0)
      = xs.length - start := by
    show (if start < xs.length then xs.length - start else 0) = _
    split <;> omega
  simp only [writeColumn]
  rw [hcount]
  rcases Nat.lt_or_ge start xs.length with hs | hs
  · rw [writeRows_of_isObj property _ start xs hxs (by rw [List.length_take]; omega)]
    congr 2
    apply List.ext_getElem?
    intro j
    rw [getElem?_overlay, getElem?_overlay]
    rcases Nat.lt_or_ge j xs.length with hj | hj
    · rw [List.getElem?_take]
      rcases Nat.lt_or_ge (j - start) vs.length with h | h
      · rw [if_pos (by omega)]
      · rw [List.getElem?_eq_none h, ite_self]
    · rw [List.getElem?_eq_none hj]; rfl
  · rw [show xs.length - start = 0 by omega, Nat.min_zero, List.take_zero]
    simp only [writeRows]
    congr 2
    apply List.ext_getElem?
    intro j
    rw [getElem?_overlay]
    rcases Nat.lt_or_ge j xs.length with hj | hj
    · simp [show ¬ start ≤ j by omega]
    · rw [List.getElem?_eq_none hj]; rfl

/-! ## What a Set on a table leaves of the file -/

/-- A cell as the callback writes it. -/
def FilterColumn.json (c : FilterColumn) (x : c.Cell) : Json := .num x.toNat

/-- A filter column travels as bytes or as 16-bit words, and is written as such. -/
theorem FilterColumn.encode_eq (c : FilterColumn) (value : List c.Cell) :
    (∃ xs, c.encode value = .u8s xs ∧ jsonU8s xs = value.map c.json) ∨
      (∃ xs, c.encode value = .u16s xs ∧ jsonU16s xs = value.map c.json) := by
  by_cases hc : c = eventData1OffsetMask
  · subst hc
    refine Or.inr ⟨value.map (BitVec.setWidth 16), rfl, ?_⟩
    rw [jsonU16s, List.map_map]
    exact List.map_congr_left fun x _ => by simp [json]
  · have hw : c.width = 8 := by cases c <;> first | rfl | exact absurd rfl hc
    refine Or.inl ⟨value.map (BitVec.setWidth 8), if_pos hw, ?_⟩
    rw [jsonU8s, List.map_map]
    refine List.map_congr_left fun x _ => ?_
    have hx : x.toNat < 2 ^ 8 := hw ▸ x.isLt
    simp only [Function.comp, BitVec.toNat_setWidth, Nat.mod_eq_of_lt hx, json]

def PolicyColumn.json : (c : PolicyColumn) → c.Cell → Json
  | .eventSpecificStrs, s => .str s
  | .groupNums, x => .num x.toNat
  | .enableAlerts, x => .num x.toNat
  | .policyActions, x => .num x.toNat
  | .channelNos, x => .num x.toNat
  | .destinationSels, x => .num x.toNat
  | .alertStingKeys, x => .num x.toNat

/-- A column written to the list `bucket` of a table with lists of `size` rows. -/
structure ColumnWrite where
  table : String
  size : Nat
  bucket : Bucket
  property : String
  cells : List Json

/-- The column write a Set on one of the two tables leads to. -/
def SetRequest.column : SetRequest → Option ColumnWrite
  | .eventFilter b c value => some ⟨"EventFilterTable", 10, b, c.name, value.map c.json⟩
  | .alertPolicy b c value => some ⟨"AlertPolicyTable", 15, b, c.name, value.map c.json⟩
  | .pefConfInfo .. => none

/-- The members of the file written back: as they are by the filter callback,
merged onto an array, which drops `null` members, by the others. -/
def SetRequest.writeBack : SetRequest → List (String × Json) → List (String × Json)
  | .eventFilter .. => id
  | _ => Json.mergeMembers []

/-- The rows of a table after a column write. -/
def ColumnWrite.rows (w : ColumnWrite) (xs : List Json) : List Json :=
  overlay (setMember w.property) (w.bucket * w.size) w.cells xs

theorem bucketIndexOf_eventFilter :
    ∀ b : Bucket, bucketIndexOf eventFilterListNames (eventFilterObjMap b) = some b.val := by
  decide +kernel

theorem bucketIndexOf_alertPolicy :
    ∀ b : Bucket, bucketIndexOf policyListNames (alertPolicyObjMap b) = some b.val := by
  decide +kernel

theorem editSection_obj (ms : List (String × Json)) (key : String)
    (f : Json → Except Json.Error Json) :
    editSection (some (.obj ms)) key f =
      (f ((ms.lookup key).getD .null)).map fun tbl => (tbl, .obj (Members.assign key tbl ms)) := by
  simp only [editSection, Json.access]
  cases ms.lookup key with
  | none =>
      show (do
        let tbl ← f .null
        let data ← Json.put key tbl (.obj (Members.assign key .null ms))
        pure (tbl, data) : Except Json.Error (Json × Json)) = (f .null).map _
      cases f .null with
      | error e => rfl
      | ok tbl =>
          show Except.ok (tbl, Json.obj (Members.assign key tbl (Members.assign key .null ms))) = _
          rw [Members.assign_assign]
          rfl
  | some v =>
      show (do
        let tbl ← f v
        let data ← Json.put key tbl (.obj ms)
        pure (tbl, data) : Except Json.Error (Json × Json)) = (f v).map _
      cases f v <;> rfl

theorem editSection_of_array {ms : List (String × Json)} {key : String} {xs ys : List Json}
    {f : Json → Except Json.Error Json} (h : ms.lookup key = some (.arr xs))
    (hf : f (.arr xs) = .ok (.arr ys)) :
    editSection (some (.obj ms)) key f =
      .ok (.arr ys, .obj (Members.assign key (.arr ys) ms)) := by
  rw [editSection_obj, h]
  show (f (.arr xs)).map _ = _
  rw [hf]
  rfl

/-- Only the first property is looked at. -/
theorem eventFilterEntryMatcher_first (b : Bucket) (c : FilterColumn) (value : List c.Cell)
    (rest : PropertyMap) (file : Option Json) :
    eventFilterEntryMatcher ((c.name, c.encode value) :: rest) (eventFilterObjMap b) file =
      .ofExcept ((editSection file "EventFilterTable"
        (writeColumn (b * 10) c.name (value.map c.json))).map Prod.snd) := by
  simp only [eventFilterEntryMatcher, bucketIndexOf_eventFilter]
  rcases c.encode_eq value with ⟨xs, henc, hxs⟩ | ⟨xs, henc, hxs⟩
  all_goals simp only [← hxs, henc, Variant.narrow, reduceIte]

theorem alertPolicyEntryMatcher_first (b : Bucket) (c : PolicyColumn) (value : List c.Cell)
    (rest : PropertyMap) (file : Option Json) :
    alertPolicyEntryMatcher ((c.name, c.encode value) :: rest) (alertPolicyObjMap b) file =
      .ofExcept ((editSection file "AlertPolicyTable"
        (writeColumn (b * 15) c.name (value.map c.json))).map fun p => p.1.mergePatch p.2) := by
  simp only [alertPolicyEntryMatcher, bucketIndexOf_alertPolicy]
  cases c <;> rfl

theorem handleSignal_eventFilter {ms : List (String × Json)} {xs : List Json} {b : Bucket}
    {c : FilterColumn} {value : List c.Cell}
    (hxs : ms.lookup "EventFilterTable" = some (.arr xs)) (hobj : ∀ e ∈ xs, IsObj e) :
    handleSignal (.obj ms) (.eventFilter b c value) =
      .written (.obj (Members.assign "EventFilterTable"
        (.arr (overlay (setMember c.name) (b * 10) (value.map c.json) xs)) ms)) := by
  have key := editSection_of_array hxs
    (writeColumn_of_isObj c.name (b * 10) (value.map c.json) xs hobj)
  show eventFilterEntryMatcher [(c.name, c.encode value)] (eventFilterObjMap b) _ = _
  rw [eventFilterEntryMatcher_first, key]
  rfl

theorem handleSignal_alertPolicy {ms : List (String × Json)} {xs : List Json} {b : Bucket}
    {c : PolicyColumn} {value : List c.Cell}
    (hxs : ms.lookup "AlertPolicyTable" = some (.arr xs)) (hobj : ∀ e ∈ xs, IsObj e) :
    handleSignal (.obj ms) (.alertPolicy b c value) =
      .written (.obj (Json.mergeMembers [] (Members.assign "AlertPolicyTable"
        (.arr (overlay (setMember c.name) (b * 15) (value.map c.json) xs)) ms))) := by
  have key := editSection_of_array hxs
    (writeColumn_of_isObj c.name (b * 15) (value.map c.json) xs hobj)
  show alertPolicyEntryMatcher [(c.name, c.encode value)] (alertPolicyObjMap b) _ = _
  rw [alertPolicyEntryMatcher_first, key]
  rfl

/-- A Set on a table of objects leaves the table with the column overlaid. -/
theorem handleSignal_column {ms : List (String × Json)} {xs : List Json} {req : SetRequest}
    {w : ColumnWrite} (hw : req.column = some w) (hxs : ms.lookup w.table = some (.arr xs))
    (hobj : ∀ e ∈ xs, IsObj e) :
    handleSignal (.obj ms) req =
      .written (.obj (req.writeBack (Members.assign w.table (.arr (w.rows xs)) ms))) := by
  cases req with
  | eventFilter b c value =>
      cases hw
      exact handleSignal_eventFilter hxs hobj
  | alertPolicy b c value =>
      cases hw
      exact handleSignal_alertPolicy hxs hobj
  | pefConfInfo c value => cases hw

/-- The rows of a section that is an array. -/
def rowsOf (key : String) (d : Json) : List Json :=
  match d.find? key with
  | some (.arr xs) => xs
  | _ => []

theorem rowsOf_writeBack (req : SetRequest) {ms : List (String × Json)}
    (h : (ms.map Prod.fst).Nodup) (key : String) :
    rowsOf key (.obj (req.writeBack ms)) = rowsOf key (.obj ms) := by
  have hmerge : rowsOf key (.obj (Json.mergeMembers [] ms)) = rowsOf key (.obj ms) := by
    simp only [rowsOf, Json.find?, Json.lookup_mergeMembers key ms [] h]
    cases ms.lookup key with
    | none => rfl
    | some v => cases v <;> simp [Json.mergeSlot, Json.mergePatch]
  cases req with
  | eventFilter b c value => rfl
  | alertPolicy b c value => exact hmerge
  | pefConfInfo c value => exact hmerge

end Pef
