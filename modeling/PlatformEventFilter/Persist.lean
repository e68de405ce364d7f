/-
# `Persist` — the file follows the objects, across any interleaving

The objects are changed by Sets at once; the file is changed later, one signal
after the other, by the callbacks.  The store that is written behind is the
configuration file, and it represents the objects when loading it gives exactly
them.

    objects  --Set-->  objects'
      |                   |
    load                load          (`fileAfter_represents`)
      |                   |
    file   -signal->   file'

The square commutes for each Set the setters accept whose array has as many
members as the object has rows.  With it the file, once the signals still
pending have been handled, loads as the objects at every point of every run
(`reload_eq_live`).

The callbacks of the policy table and of the settings merge the file onto an
array, which drops members that are `null` at any depth; `ReadsRows.withoutNulls` says
that no section that loads can tell.
-/
import PlatformEventFilter.Lib.Run
import PlatformEventFilter.Monitor

namespace Pef

/-! ## Reading is not affected by dropped `null` members -/

/-- The value as it comes out of a merge onto nothing. -/
def withoutNulls (e : Json) : Json := Json.mergePatch .null e

/-- A conversion that fails on what a merge can change. -/
def Scalar {α : Type} (get : Json → Except Json.Error α) : Prop :=
  ∀ v x, get v = .ok x → Json.mergeSlot none v = some v

theorem scalar_getUnsigned (w : Nat) : Scalar (Json.getUnsigned w) := by
  intro v x h
  cases v <;> first | (cases h; done) | simp [Json.mergeSlot, Json.mergePatch]

theorem scalar_getInt : Scalar Json.getInt := by
  intro v x h
  cases v <;> first | (cases h; done) | simp [Json.mergeSlot, Json.mergePatch]

theorem scalar_getString : Scalar Json.getString := by
  intro v x h
  cases v <;> first | (cases h; done) | simp [Json.mergeSlot, Json.mergePatch]

theorem scalar_decode (c : ConfColumn) : Scalar c.decode := by
  cases c <;> first | exact scalar_getUnsigned _ | exact scalar_getString

/-- A reader that cannot tell an entry from the entry without its `null`s. -/
def Kept {α : Type} (read : Json → Except Json.Error α) : Prop :=
  ∀ e r, e.WF → read e = .ok r → read (withoutNulls e) = .ok r

/-- A reader that succeeds on objects only. -/
def OnObjects {α : Type} (read : Json → Except Json.Error α) : Prop :=
  ∀ e r, read e = .ok r → IsObj e

theorem withoutNulls_obj (ms : List (String × Json)) :
    withoutNulls (.obj ms) = .obj (Json.mergeMembers [] ms) := by
  simp [withoutNulls, Json.mergePatch, Json.members]

theorem lookup_withoutNulls {ms : List (String × Json)} (h : (Json.obj ms).WF) {k : String}
    {v : Json} (hv : ms.lookup k = some v) (hslot : Json.mergeSlot none v = some v) :
    (Json.mergeMembers [] ms).lookup k = some v := by
  rw [Json.lookup_mergeMembers k ms [] h.nodup, hv]
  exact hslot

theorem kept_subscript {α : Type} {get : Json → Except Json.Error α} (hget : Scalar get)
    (k : String) : Kept fun e => e.subscript k >>= get := by
  intro e r hwf h
  cases e with
  | obj ms =>
      simp only [withoutNulls_obj, Json.subscript] at h ⊢
      cases hk : ms.lookup k with
      | none => rw [hk] at h; cases h
      | some v =>
          rw [hk] at h
          rw [lookup_withoutNulls hwf hk (hget v r h)]
          exact h
  | _ => cases h

theorem kept_value {α : Type} {get : Json → Except Json.Error α} (hget : Scalar get)
    (k : String) (d : α) : Kept fun e => e.value k get d := by
  intro e r hwf h
  cases e with
  | obj ms =>
      simp only [withoutNulls_obj, Json.value] at h ⊢
      cases hk : ms.lookup k with
      | none =>
          rw [hk] at h
          rw [Json.lookup_mergeMembers k ms [] hwf.nodup, hk]
          exact h
      | some v =>
          rw [hk] at h
          rw [lookup_withoutNulls hwf hk (hget v r h)]
          exact h
  | _ => cases h

theorem Kept.map {α β : Type} {read : Json → Except Json.Error α} (h : Kept read)
    (f : α → β) : Kept fun e => (read e).map f := by
  intro e r hwf hr
  cases hx : read e with
  | error x => simp only [hx] at hr; cases hr
  | ok x => simpa only [hx, h e x hwf hx] using hr

theorem Kept.bind {α β : Type} {read : Json → Except Json.Error α}
    {next : α → Json → Except Json.Error β} (h : Kept read) (hn : ∀ x, Kept (next x)) :
    Kept fun e => read e >>= fun x => next x e := by
  intro e r hwf hr
  cases hx : read e with
  | error x => simp only [hx] at hr; cases hr
  | ok x =>
      simp only [hx, h e x hwf hx] at hr ⊢
      exact hn x e r hwf hr

theorem Kept.pure {α : Type} (x : α) : Kept fun _ => .ok x :=
  fun _ _ _ h => h

theorem onObjects_subscript {α : Type} (next : Json → Json → Except Json.Error α) (k : String) :
    OnObjects fun e => e.subscript k >>= next e := by
  intro e r h
  cases e with
  | obj ms => exact ⟨ms, rfl⟩
  | _ => cases h

theorem onObjects_value {α β : Type} (get : Json → Except Json.Error α) (k : String) (d : α)
    (f : α → β) : OnObjects fun e => (e.value k get d).map f := by
  intro e r h
  cases e with
  | obj ms => exact ⟨ms, rfl⟩
  | _ => cases h

/-! ## The readers of the sections -/

section Rows

variable {ι : Type} [DecidableEq ι] {β : ι → Type} {cell : Json → (c : ι) → Except Json.Error (β c)}
  {cs : List ι} {r₀ : Row β}

theorem kept_readCells (hcs : ∀ c, c ∈ cs) (h : ∀ c, Kept fun e => cell e c) :
    Kept fun e => readCells (cell e) cs r₀ := by
  intro e r hwf hr
  rw [readCells_eq_ok hcs] at hr ⊢
  exact fun c => h c e _ hwf (hr c)

theorem onObjects_readCells (hcs : ∀ c, c ∈ cs) (c₀ : ι) (h : OnObjects fun e => cell e c₀) :
    OnObjects fun e => readCells (cell e) cs r₀ :=
  fun e _ hr => h e _ ((readCells_eq_ok hcs).mp hr c₀)

end Rows

theorem kept_readUnsigned (w : Nat) (name : String) : Kept (readUnsigned w name) :=
  (kept_value scalar_getInt name 0).map _

theorem onObjects_readUnsigned (w : Nat) (name : String) : OnObjects (readUnsigned w name) :=
  onObjects_value _ _ _ _

theorem kept_readFilterRow : Kept readFilterRow :=
  kept_readCells FilterColumn.mem_all fun c => kept_readUnsigned c.width c.name

theorem onObjects_readFilterRow : OnObjects readFilterRow :=
  onObjects_readCells FilterColumn.mem_all .entryIds (onObjects_readUnsigned _ _)

theorem kept_readPolicyRow : Kept readPolicyRow := by
  refine kept_readCells PolicyColumn.mem_all fun c => ?_
  cases c with
  | eventSpecificStrs => exact kept_value scalar_getString _ _
  | _ => exact kept_readUnsigned 8 _

theorem onObjects_readPolicyRow : OnObjects readPolicyRow :=
  onObjects_readCells PolicyColumn.mem_all .groupNums (onObjects_readUnsigned _ _)

theorem kept_readAlertStringRow : Kept readAlertStringRow :=
  kept_readCells (fun c => by cases c <;> decide) fun c => kept_readUnsigned c.width c.name

theorem onObjects_readAlertStringRow : OnObjects readAlertStringRow :=
  onObjects_readCells (fun c => by cases c <;> decide) .entryIds (onObjects_readUnsigned _ _)

theorem kept_readConfRow : Kept readConfRow :=
  kept_readCells ConfColumn.mem_all fun c => kept_subscript (scalar_decode c) c.name

theorem onObjects_readConfRow : OnObjects readConfRow :=
  onObjects_readCells ConfColumn.mem_all .version (onObjects_subscript _ _)

theorem kept_readNumbered (stem : String) (n : Nat) : Kept (readNumbered stem n) := by
  unfold readNumbered
  induction List.range n with
  | nil => exact Kept.pure []
  | cons i is ih =>
      simp only [List.mapM_cons]
      exact (kept_subscript (scalar_getUnsigned 8) _).bind fun x => ih.bind fun xs => Kept.pure _

theorem onObjects_readNumbered (stem : String) (n : Nat) :
    OnObjects (readNumbered stem (n + 1)) := by
  intro e r h
  rw [readNumbered, List.range_succ_eq_map, List.mapM_cons] at h
  cases e with
  | obj ms => exact ⟨ms, rfl⟩
  | _ => cases h

theorem kept_readDestination : Kept readDestination := by
  have hassoc : readDestination = fun e =>
      (e.subscript "LanDestination" >>= Json.getInt) >>= fun lanDestEntry =>
        (e.subscript "LanChannel" >>= Json.getUnsigned 8) >>= fun lanChannel =>
          (e.subscript "DestinationType" >>= Json.getUnsigned 8) >>= fun destinationType =>
            .ok ⟨destStringTableObj ++ toString lanDestEntry, lanChannel, destinationType⟩ := by
    funext e
    simp only [readDestination, bind_assoc]
    rfl
  rw [hassoc]
  exact (kept_subscript scalar_getInt _).bind fun _ =>
    (kept_subscript (scalar_getUnsigned 8) _).bind fun _ =>
      (kept_subscript (scalar_getUnsigned 8) _).bind fun _ => Kept.pure _

theorem onObjects_readDestination : OnObjects readDestination := by
  intro e r h
  cases e with
  | obj ms => exact ⟨ms, rfl⟩
  | _ => cases h

/-! ## Sections of a rewritten file -/

theorem readsRows_obj {γ : Type} {es : List (String × Json)}
    {read : Json → Except Json.Error γ} {rows : List γ} (hwf : (Json.obj es).WF)
    (hk : Kept read) (ho : OnObjects read)
    (h : List.Forall₂ (fun e r => read e = .ok r) (es.map Prod.snd) rows) :
    Json.mergePatch .null (.obj es) = .obj (es.map fun m => (m.1, withoutNulls m.2)) ∧
      List.Forall₂ (fun e r => read e = .ok r) ((es.map Prod.snd).map withoutNulls) rows := by
  have hobj : ∀ m ∈ es, m.2 ≠ Json.null := by
    intro m hm hnull
    obtain ⟨i, hi, rfl⟩ := List.mem_iff_getElem.mp hm
    have hread := (List.forall₂_iff_get.mp h).2 i (by simpa using hi)
      (h.length_eq ▸ by simpa using hi)
    obtain ⟨ms', hms'⟩ := ho _ _ hread
    simp [hnull] at hms'
  have helems : ∀ e ∈ es.map Prod.snd, e.WF := by
    intro e he
    obtain ⟨m, hm, rfl⟩ := List.mem_map.mp he
    simp only [Json.WF] at hwf
    exact Json.wfMembers_iff.mp hwf.2 m hm
  have hmerge := Json.mergeMembers_fresh es [] (by simpa using hwf.nodup) hobj
  refine ⟨by simpa [Json.mergePatch, Json.members, withoutNulls] using hmerge, ?_⟩
  rw [List.forall₂_map_left_iff]
  clear hobj hmerge
  generalize es.map Prod.snd = entries at h helems
  induction h with
  | nil => exact .nil
  | cons hr _ ih =>
      exact .cons (hk _ _ (helems _ List.mem_cons_self) hr)
        (ih fun e he => helems e (List.mem_cons_of_mem _ he))

/-- Merging the file onto an array keeps what a section is read as. -/
theorem ReadsRows.withoutNulls {γ : Type} {ms : List (String × Json)} {key : String}
    {read : Json → Except Json.Error γ} {rows : List γ} (hwf : (Json.obj ms).WF)
    (hk : Kept read) (ho : OnObjects read) (h : ReadsRows (some (.obj ms)) key read rows) :
    ReadsRows (some (.obj (Json.mergeMembers [] ms))) key read rows := by
  obtain ⟨entries, hentries, hrows⟩ := h
  rw [sectionOf_obj, Except.ok.injEq] at hentries
  subst hentries
  have hlook := Json.lookup_mergeMembers key ms [] hwf.nodup
  unfold ReadsRows
  simp only [sectionOf_obj, hlook]
  cases hv : ms.lookup key with
  | none => exact ⟨_, rfl, by rwa [hv] at hrows⟩
  | some v =>
      rw [hv] at hrows
      cases v with
      | null => exact ⟨_, rfl, hrows⟩
      | arr xs =>
          refine ⟨xs, ?_, hrows⟩
          simp [Json.mergeSlot, Json.mergePatch, Json.items]
      | obj es =>
          obtain ⟨hmerge, hrows'⟩ := readsRows_obj (hwf.lookup hv) hk ho hrows
          refine ⟨_, ?_, hrows'⟩
          simp [Json.mergeSlot, hmerge, Json.items]
      | _ =>
          -- a scalar is visited as one entry, which no reader accepts
          cases hrows with
          | cons hr _ =>
              obtain ⟨ms', hms'⟩ := ho _ _ hr
              cases hms'

/-! ## What a callback writes is read back -/

theorem readUnsigned_num {w : Nat} {name : String} {ms : List (String × Json)} (hw : w ≤ 16)
    (x : BitVec w) (h : ms.lookup name = some (.num x.toNat)) :
    readUnsigned w name (.obj ms) = .ok x := by
  have hx : x.toNat < 2 ^ 16 := Nat.lt_of_lt_of_le x.isLt (Nat.pow_le_pow_right (by decide) hw)
  have hmod : (x.toNat : Int).bmod (2 ^ 32) = x.toNat := by
    rw [Int.bmod_eq_of_le] <;> omega
  simp only [readUnsigned, Json.value, h, Json.getInt, hmod, Except.map, BitVec.ofInt_natCast,
    BitVec.ofNat_toNat, BitVec.setWidth_eq]

theorem readUnsigned_congr {w : Nat} {name : String} {ms ms' : List (String × Json)}
    (h : ms'.lookup name = ms.lookup name) :
    readUnsigned w name (.obj ms') = readUnsigned w name (.obj ms) := by
  simp only [readUnsigned, Json.value, h]

theorem readFilterRow_setMember {e : Json} {r : Row FilterColumn.Cell} (c : FilterColumn)
    (x : c.Cell) (h : readFilterRow e = .ok r) :
    readFilterRow (setMember c.name e (c.json x)) = .ok (Function.update r c x) := by
  obtain ⟨ms, rfl⟩ := onObjects_readFilterRow e r h
  rw [readFilterRow, readCells_eq_ok FilterColumn.mem_all] at h ⊢
  intro c'
  rcases eq_or_ne c' c with rfl | hc
  · rw [Function.update_self]
    exact readUnsigned_num (by cases c' <;> decide) x (Members.lookup_assign_self ..)
  · rw [Function.update_of_ne hc]
    refine (readUnsigned_congr ?_).trans (h c')
    exact Members.lookup_assign_ne (fun hn => hc (FilterColumn.name_injective hn.symm)) ..

theorem readPolicyCell_congr {ms ms' : List (String × Json)} {c : PolicyColumn}
    (h : ms'.lookup c.name = ms.lookup c.name) :
    readPolicyCell (.obj ms') c = readPolicyCell (.obj ms) c := by
  cases c with
  | eventSpecificStrs =>
      have h' : ms'.lookup "EventSpecificAlertStr" = ms.lookup "EventSpecificAlertStr" := h
      simp only [readPolicyCell, Json.value, h']
  | _ => exact readUnsigned_congr h

theorem readPolicyCell_json {ms : List (String × Json)} {c : PolicyColumn} {x : c.Cell}
    (h : ms.lookup c.name = some (c.json x)) : readPolicyCell (.obj ms) c = .ok x := by
  cases c with
  | eventSpecificStrs =>
      have h' : ms.lookup "EventSpecificAlertStr" = some (.str x) := h
      simp only [readPolicyCell, Json.value, h', Json.getString]
  | _ => exact readUnsigned_num (by decide) x h

theorem readPolicyRow_setMember {e : Json} {r : Row PolicyColumn.Cell} (c : PolicyColumn)
    (x : c.Cell) (h : readPolicyRow e = .ok r) :
    readPolicyRow (setMember c.name e (c.json x)) = .ok (Function.update r c x) := by
  obtain ⟨ms, rfl⟩ := onObjects_readPolicyRow e r h
  rw [readPolicyRow, readCells_eq_ok PolicyColumn.mem_all] at h ⊢
  intro c'
  rcases eq_or_ne c' c with rfl | hc
  · rw [Function.update_self]
    exact readPolicyCell_json (Members.lookup_assign_self ..)
  · rw [Function.update_of_ne hc]
    refine (readPolicyCell_congr ?_).trans (h c')
    exact Members.lookup_assign_ne (fun hn => hc (PolicyColumn.name_injective hn.symm)) ..

/-- A setting as the callback writes it. -/
def ConfColumn.json : (c : ConfColumn) → c.Cell → Json
  | .version, x => .num x.toNat
  | .actionSupported, x => .num x.toNat
  | .maxEventTblEntry, x => .num x.toNat
  | .pefControl, x => .num x.toNat
  | .pefActionGblControl, x => .num x.toNat
  | .pefStartupDly, x => .num x.toNat
  | .pefAlertStartupDly, x => .num x.toNat
  | .lastBMCProcessedEventID, x => .num x.toNat
  | .lastSWProcessedEventID, x => .num x.toNat
  | .subject, s => .str s
  | .message, s => .str s

theorem ConfColumn.decode_json (c : ConfColumn) (x : c.Cell) : c.decode (c.json x) = .ok x := by
  cases c with
  | subject => rfl
  | message => rfl
  | _ => simp [decode, json, Json.getUnsigned]

theorem readConfRow_setMember {e : Json} {r : PefConfInfo} (c : ConfColumn) (x : c.Cell)
    (h : readConfRow e = .ok r) :
    readConfRow (setMember c.name e (c.json x)) = .ok (Function.update r c x) := by
  obtain ⟨ms, rfl⟩ := onObjects_readConfRow e r h
  rw [readConfRow, readCells_eq_ok ConfColumn.mem_all] at h ⊢
  intro c'
  rcases eq_or_ne c' c with rfl | hc
  · rw [Function.update_self]
    simp only [readConfCell, setMember, Json.subscript, Members.lookup_assign_self]
    exact c'.decode_json x
  · rw [Function.update_of_ne hc]
    have hlook := Members.lookup_assign_ne
      (fun hn => hc (ConfColumn.name_injective hn.symm)) (c.json x) ms
    simp only [readConfCell, setMember, Json.subscript, hlook]
    exact h c'

theorem pefConfInfoMatcher_first (c : ConfColumn) (value : c.Cell) (rest : PropertyMap)
    (file : Option Json) :
    pefConfInfoMatcher ((c.name, c.encode value) :: rest) file =
      .ofExcept ((editSection file "PEFConfInfo"
        (Json.updateItems fun values => values.mapM (Json.put c.name (c.json value)))).map
          fun p => p.1.mergePatch p.2) := by
  cases c <;> rfl

theorem handleSignal_pefConfInfo {ms : List (String × Json)} {e : Json} {c : ConfColumn}
    {x : c.Cell} (he : ms.lookup "PEFConfInfo" = some (.arr [e])) (hobj : IsObj e) :
    handleSignal (.obj ms) (.pefConfInfo c x) =
      .written (.obj (Json.mergeMembers [] (Members.assign "PEFConfInfo"
        (.arr [setMember c.name e (c.json x)]) ms))) := by
  have hedit : (Json.updateItems fun values => values.mapM (Json.put c.name (c.json x)))
      (.arr [e]) = .ok (.arr [setMember c.name e (c.json x)]) := by
    simp only [Json.updateItems, List.mapM_cons, List.mapM_nil, put_of_isObj hobj]
    rfl
  have key := editSection_of_array he hedit
  show pefConfInfoMatcher [(c.name, c.encode x)] _ = _
  rw [pefConfInfoMatcher_first, key]
  rfl

/-! ## The file represents the objects -/

/-- A table: an array of rows, or nothing at all. -/
def IsTable (v : Option Json) : Prop := v = none ∨ v = some .null ∨ ∃ xs, v = some (.arr xs)

/-- The file loads completely, as the objects of `s`; its tables are arrays and
there is one element of settings. -/
structure Represents (d : Json) (s : ManagerState) : Prop where
  wf : d.WF
  loads : parsePefConfToDbus (some d) = (s, .ok ())
  eventFilterTable : IsTable (d.find? "EventFilterTable")
  alertPolicyTable : IsTable (d.find? "AlertPolicyTable")
  pefConfInfo : ∃ e, d.find? "PEFConfInfo" = some (.arr [e])

/-- The section `key` of the file replaced by the array `ys`, and the file
written back as the callback of `req` does. -/
def rewritten (req : SetRequest) (key : String) (ys : List Json)
    (ms : List (String × Json)) : Json :=
  .obj (req.writeBack (Members.assign key (.arr ys) ms))

section Rewritten

variable {ms : List (String × Json)} {req : SetRequest} {key : String} {ys : List Json}

theorem wf_assign_arr (hwf : (Json.obj ms).WF) (hys : ∀ y ∈ ys, y.WF) :
    (Json.obj (Members.assign key (.arr ys) ms)).WF :=
  hwf.assign key (by simpa only [Json.WF] using Json.wfElems_iff.mpr hys)

theorem wf_rewritten (hwf : (Json.obj ms).WF) (hys : ∀ y ∈ ys, y.WF) :
    (rewritten req key ys ms).WF := by
  have h : (Json.obj (Members.assign key (.arr ys) ms)).WF := wf_assign_arr hwf hys
  have hmembers := h
  simp only [Json.WF] at hmembers
  cases req with
  | eventFilter b c value => exact h
  | _ => exact Json.wf_mergeMembers [] (by simp [Json.WF, Json.WFMembers]) _ hmembers.2

theorem ReadsRows.rewritten {γ : Type} {key' : String} {read : Json → Except Json.Error γ}
    {rows : List γ} (hwf : (Json.obj ms).WF) (hne : key ≠ key') (hys : ∀ y ∈ ys, y.WF)
    (hk : Kept read) (ho : OnObjects read) (h : ReadsRows (some (.obj ms)) key' read rows) :
    ReadsRows (some (rewritten req key ys ms)) key' read rows := by
  have hassign : ReadsRows (some (.obj (Members.assign key (.arr ys) ms))) key' read rows := by
    obtain ⟨entries, hentries, hrows⟩ := h
    refine ⟨entries, ?_, hrows⟩
    rw [sectionOf_obj, Members.lookup_assign_ne hne]
    rwa [sectionOf_obj] at hentries
  cases req with
  | eventFilter b c value => exact hassign
  | _ => exact hassign.withoutNulls (wf_assign_arr hwf hys) hk ho

theorem find?_rewritten_arr (hnd : (ms.map Prod.fst).Nodup) {key' : String} {xs : List Json}
    (h : (Members.assign key (.arr ys) ms).lookup key' = some (.arr xs)) :
    (rewritten req key ys ms).find? key' = some (.arr xs) := by
  cases req with
  | eventFilter b c value => exact h
  | _ =>
      refine (Json.lookup_mergeMembers key' _ [] (Members.nodup_assign hnd)).trans ?_
      rw [h]
      simp [Json.mergeSlot, Json.mergePatch]

theorem isTable_rewritten (hnd : (ms.map Prod.fst).Nodup) {key' : String}
    (h : IsTable ((Json.obj ms).find? key')) :
    IsTable ((rewritten req key ys ms).find? key') := by
  have hassign : IsTable ((Members.assign key (.arr ys) ms).lookup key') := by
    rw [Members.lookup_assign]
    split
    · exact Or.inr (Or.inr ⟨ys, rfl⟩)
    · exact h
  rcases hassign with h | h | ⟨xs, h⟩
  · cases req with
    | eventFilter b c value => exact Or.inl h
    | _ =>
        refine Or.inl ((Json.lookup_mergeMembers key' _ [] (Members.nodup_assign hnd)).trans ?_)
        rw [h]; rfl
  · cases req with
    | eventFilter b c value => exact Or.inr (Or.inl h)
    | _ =>
        refine Or.inl ((Json.lookup_mergeMembers key' _ [] (Members.nodup_assign hnd)).trans ?_)
        rw [h]; rfl
  · exact Or.inr (Or.inr ⟨xs, find?_rewritten_arr hnd h⟩)

theorem readsRows_rewritten_self {γ : Type} {read : Json → Except Json.Error γ} {rows : List γ}
    (hnd : (ms.map Prod.fst).Nodup)
    (h : List.Forall₂ (fun e r => read e = .ok r) ys rows) :
    ReadsRows (some (rewritten req key ys ms)) key read rows := by
  have hfind : (rewritten req key ys ms).find? key = some (.arr ys) :=
    find?_rewritten_arr hnd (Members.lookup_assign_self key (.arr ys) ms)
  refine ⟨ys, ?_, h⟩
  simp only [rewritten, Json.find?] at hfind ⊢
  rw [sectionOf_obj, hfind]
  rfl

end Rewritten

/-! ## The square commutes -/

theorem table_of_object {ι : Type} {β : ι → Type} {read : Json → Except Json.Error (Row β)}
    {n : Nat} {ms : List (String × Json)} {key : String} {rows : List (Row β)} {b : Bucket}
    (ht : IsTable (ms.lookup key)) (ho : OnObjects read)
    (hrows : ReadsRows (some (.obj ms)) key read rows)
    (hb : (exported (slice n 3 rows b)).isSome) :
    ∃ xs, ms.lookup key = some (.arr xs) ∧ (∀ e ∈ xs, IsObj e) ∧
      List.Forall₂ (fun e r => read e = .ok r) xs rows := by
  obtain ⟨entries, hentries, hrows⟩ := hrows
  rw [sectionOf_obj, Except.ok.injEq] at hentries
  subst hentries
  have hempty : rows ≠ [] := by
    rintro rfl
    have hnil : slice n 3 ([] : List (Row β)) b = [] := by
      unfold slice
      split
      · simp
      · split <;> simp
    rw [hnil] at hb
    cases hb
  rcases ht with h | h | ⟨xs, h⟩ <;> rw [h] at hrows
  · cases hrows; exact absurd rfl hempty
  · cases hrows; exact absurd rfl hempty
  · refine ⟨xs, h, fun e he => ?_, hrows⟩
    obtain ⟨i, hi, rfl⟩ := List.mem_iff_getElem.mp he
    exact ho _ _ ((List.forall₂_iff_get.mp hrows).2 i hi (hrows.length_eq ▸ hi))

theorem table_rewritten {ι : Type} [DecidableEq ι] {β : ι → Type}
    {read : Json → Except Json.Error (Row β)} {n : Nat} (hn : 0 < n)
    {ms : List (String × Json)} {key : String} {g : Bucket → Option (Table β)} {b : Bucket}
    {c : ι} {value : List (β c)} {name : String} {json : β c → Json}
    (hwf : (Json.obj ms).WF) (ht : IsTable (ms.lookup key)) (ho : OnObjects read)
    (hjson : ∀ x, (json x).WF)
    (hset : ∀ {e r} x, read e = .ok r →
      read (setMember name e (json x)) = .ok (Function.update r c x))
    (hl : SectionLoads (some (.obj ms)) key (exportBuckets read n 3) g) (hb : (g b).isSome)
    (hlen : ∀ l, g b = some l → value.length = (l c).length) :
    ∃ xs, ms.lookup key = some (.arr xs) ∧ (∀ e ∈ xs, IsObj e) ∧
      (∀ y ∈ overlay (setMember name) (b * n) (value.map json) xs, y.WF) ∧
      ∀ req, SectionLoads
        (some (rewritten req key (overlay (setMember name) (b * n) (value.map json) xs) ms)) key
        (exportBuckets read n 3) (setColumn g b c value) := by
  obtain ⟨rows, hrows, hg⟩ := (sectionLoads_buckets hn).mp hl
  have hb' : (exported (slice n 3 rows b)).isSome := hg b ▸ hb
  obtain ⟨xs, hxs, hobj, hread⟩ := table_of_object ht ho hrows hb'
  obtain ⟨l, hgl⟩ := Option.isSome_iff_exists.mp hb
  have hvs : value.length = (slice n 3 rows b).length := by
    obtain ⟨-, rfl⟩ := exported_eq_some.mp ((hg b).symm.trans hgl)
    rw [hlen _ hgl, Table.ofRows_rect]
  have hxswf : ∀ x ∈ xs, x.WF := by
    have := hwf.lookup hxs
    simp only [Json.WF] at this
    exact Json.wfElems_iff.mp this
  refine ⟨xs, hxs, hobj, fun y hy => ?_, fun req => ?_⟩
  · obtain ⟨x, hx, rfl | ⟨v, hv, rfl⟩⟩ := mem_overlay hy
    · exact hxswf y hx
    · obtain ⟨w, -, rfl⟩ := List.mem_map.mp hv
      obtain ⟨mx, rfl⟩ := hobj x hx
      exact (hxswf _ hx).assign name (hjson w)
  · have hcells : List.Forall₂ (fun v x => v = json x) (value.map json) value :=
      List.forall₂_map_left_iff.mpr (List.forall₂_same.mpr fun _ _ => rfl)
    have hover : List.Forall₂ (fun e r => read e = .ok r)
        (overlay (setMember name) (b * n) (value.map json) xs)
        (overlay (fun r x => Function.update r c x) (b * n) value rows) :=
      forall₂_overlay (fun hr hv => by subst hv; exact hset _ hr) (b * n) hread hcells
    refine (sectionLoads_buckets hn).mpr ⟨_, readsRows_rewritten_self hwf.nodup hover, fun b' => ?_⟩
    rw [exported_slice_overlay (by omega) (by omega) hvs, setColumn]
    rcases eq_or_ne b' b with rfl | hne
    · rw [Function.update_self, if_pos rfl, hg]
    · rw [Function.update_of_ne hne, if_neg (fun h => hne (Fin.ext h)), hg]

section Others

variable {ms : List (String × Json)} {key key' : String} {ys : List Json}

theorem SectionLoads.rows_rewritten {γ : Type} {read : Json → Except Json.Error γ} {g : List γ}
    (req : SetRequest) (hwf : (Json.obj ms).WF) (hys : ∀ y ∈ ys, y.WF) (hne : key ≠ key')
    (hk : Kept read) (ho : OnObjects read)
    (h : SectionLoads (some (.obj ms)) key' (exportRows read · []) g) :
    SectionLoads (some (rewritten req key ys ms)) key' (exportRows read · []) g :=
  sectionLoads_rows.mpr ((sectionLoads_rows.mp h).rewritten hwf hne hys hk ho)

theorem SectionLoads.buckets_rewritten {ι : Type} {β : ι → Type} {n : Nat} (hn : 0 < n)
    {read : Json → Except Json.Error (Row β)} {g : Bucket → Option (Table β)}
    (req : SetRequest) (hwf : (Json.obj ms).WF) (hys : ∀ y ∈ ys, y.WF) (hne : key ≠ key')
    (hk : Kept read) (ho : OnObjects read)
    (h : SectionLoads (some (.obj ms)) key' (exportBuckets read n 3) g) :
    SectionLoads (some (rewritten req key ys ms)) key' (exportBuckets read n 3) g := by
  obtain ⟨rows, hrows, hg⟩ := (sectionLoads_buckets hn).mp h
  exact (sectionLoads_buckets hn).mpr ⟨rows, hrows.rewritten hwf hne hys hk ho, hg⟩

/-- A rewritten file loads when the sections the callbacks write do; no other
section is touched. -/
theorem loaded_rewritten {s : ManagerState} {conf : List PefConfInfo}
    {filters : Bucket → Option EventFilterList} {policies : Bucket → Option AlertPolicyList}
    {req : SetRequest} (hl : Loaded (some (.obj ms)) s) (hwf : (Json.obj ms).WF)
    (hys : ∀ y ∈ ys, y.WF)
    (hkey : key ∉ ["SystemGUID", "OEMParam", "AlertStringTable", "DestinationSelector"])
    (hconf : SectionLoads (some (rewritten req key ys ms)) "PEFConfInfo"
      (exportRows readConfRow · []) conf)
    (hfilters : SectionLoads (some (rewritten req key ys ms)) "EventFilterTable"
      (exportBuckets readFilterRow 10 3) filters)
    (hpolicies : SectionLoads (some (rewritten req key ys ms)) "AlertPolicyTable"
      (exportBuckets readPolicyRow 15 3) policies) :
    Loaded (some (rewritten req key ys ms))
      { s with pefConfInfo := conf, eventFilterTable := filters, alertPolicyTable := policies } := by
  simp only [List.mem_cons, List.not_mem_nil, or_false, not_or] at hkey
  obtain ⟨hguid, hoem, hstring, hdest⟩ := hkey
  exact
    { pefConfInfo := hconf
      systemGUID := hl.systemGUID.rows_rewritten _ hwf hys hguid
        (kept_readNumbered _ _) (onObjects_readNumbered _ _)
      oemParam := hl.oemParam.rows_rewritten _ hwf hys hoem
        (kept_readNumbered _ _) (onObjects_readNumbered _ _)
      eventFilterTable := hfilters
      alertPolicyTable := hpolicies
      alertStringTable := hl.alertStringTable.buckets_rewritten (by decide) _ hwf hys hstring
        kept_readAlertStringRow onObjects_readAlertStringRow
      destinationSelector := hl.destinationSelector.rows_rewritten _ hwf hys hdest
        kept_readDestination onObjects_readDestination }

theorem Represents.rewritten {s : ManagerState} {conf : List PefConfInfo}
    {filters : Bucket → Option EventFilterList} {policies : Bucket → Option AlertPolicyList}
    {req : SetRequest} (h : Represents (.obj ms) s) (hys : ∀ y ∈ ys, y.WF)
    (hkey : key ∉ ["SystemGUID", "OEMParam", "AlertStringTable", "DestinationSelector"])
    (hsettings : ∃ e, (Members.assign key (.arr ys) ms).lookup "PEFConfInfo" = some (.arr [e]))
    (hconf : SectionLoads (some (Pef.rewritten req key ys ms)) "PEFConfInfo"
      (exportRows readConfRow · []) conf)
    (hfilters : SectionLoads (some (Pef.rewritten req key ys ms)) "EventFilterTable"
      (exportBuckets readFilterRow 10 3) filters)
    (hpolicies : SectionLoads (some (Pef.rewritten req key ys ms)) "AlertPolicyTable"
      (exportBuckets readPolicyRow 15 3) policies) :
    Represents (Pef.rewritten req key ys ms)
      { s with pefConfInfo := conf, eventFilterTable := filters, alertPolicyTable := policies } := by
  obtain ⟨e, he⟩ := hsettings
  have hl := parsePefConfToDbus_eq_ok.mp h.loads
  exact
    { wf := wf_rewritten h.wf hys
      loads := parsePefConfToDbus_eq_ok.mpr
        (loaded_rewritten hl h.wf hys hkey hconf hfilters hpolicies)
      eventFilterTable := isTable_rewritten h.wf.nodup h.eventFilterTable
      alertPolicyTable := isTable_rewritten h.wf.nodup h.alertPolicyTable
      pefConfInfo := ⟨e, find?_rewritten_arr h.wf.nodup he⟩ }

end Others

theorem ConfColumn.wf_json (c : ConfColumn) (x : c.Cell) : (c.json x).WF := by
  cases c <;> simp [json, Json.WF]

theorem PolicyColumn.wf_json (c : PolicyColumn) (x : c.Cell) : (c.json x).WF := by
  cases c <;> simp [json, Json.WF]

section AfterSet

variable {ms : List (String × Json)} {s : ManagerState}

theorem represents_eventFilter {b : Bucket} {c : FilterColumn} {value : List c.Cell}
    (h : Represents (.obj ms) s) (hb : (s.eventFilterTable b).isSome = true)
    (hlen : ∀ l, s.eventFilterTable b = some l → value.length = (l c).length) :
    Represents (fileAfter (.obj ms) (.eventFilter b c value))
      (assignProperty s (.eventFilter b c value)) := by
  have hl := parsePefConfToDbus_eq_ok.mp h.loads
  obtain ⟨xs, hxs, hobj, hys, hself⟩ := table_rewritten (by decide) h.wf h.eventFilterTable
    onObjects_readFilterRow (fun _ => by simp [FilterColumn.json, Json.WF])
    (fun x hr => readFilterRow_setMember c x hr) hl.eventFilterTable hb hlen
  obtain ⟨e, he⟩ := h.pefConfInfo
  have hfile : fileAfter (.obj ms) (.eventFilter b c value)
      = rewritten (.eventFilter b c value) "EventFilterTable" _ ms :=
    congrArg (MonitorOutcome.file _) (handleSignal_eventFilter hxs hobj)
  rw [hfile]
  exact h.rewritten hys (by decide)
    ⟨e, (Members.lookup_assign_ne (by decide) _ _).trans he⟩
    (hl.pefConfInfo.rows_rewritten _ h.wf hys (by decide) kept_readConfRow onObjects_readConfRow)
    (hself _)
    (hl.alertPolicyTable.buckets_rewritten (by decide) _ h.wf hys (by decide)
      kept_readPolicyRow onObjects_readPolicyRow)

theorem represents_alertPolicy {b : Bucket} {c : PolicyColumn} {value : List c.Cell}
    (h : Represents (.obj ms) s) (hb : (s.alertPolicyTable b).isSome = true)
    (hlen : ∀ l, s.alertPolicyTable b = some l → value.length = (l c).length) :
    Represents (fileAfter (.obj ms) (.alertPolicy b c value))
      (assignProperty s (.alertPolicy b c value)) := by
  have hl := parsePefConfToDbus_eq_ok.mp h.loads
  obtain ⟨xs, hxs, hobj, hys, hself⟩ := table_rewritten (by decide) h.wf h.alertPolicyTable
    onObjects_readPolicyRow c.wf_json
    (fun x hr => readPolicyRow_setMember c x hr) hl.alertPolicyTable hb hlen
  obtain ⟨e, he⟩ := h.pefConfInfo
  have hfile : fileAfter (.obj ms) (.alertPolicy b c value)
      = rewritten (.alertPolicy b c value) "AlertPolicyTable" _ ms :=
    congrArg (MonitorOutcome.file _) (handleSignal_alertPolicy hxs hobj)
  rw [hfile]
  exact h.rewritten hys (by decide)
    ⟨e, (Members.lookup_assign_ne (by decide) _ _).trans he⟩
    (hl.pefConfInfo.rows_rewritten _ h.wf hys (by decide) kept_readConfRow onObjects_readConfRow)
    (hl.eventFilterTable.buckets_rewritten (by decide) _ h.wf hys (by decide)
      kept_readFilterRow onObjects_readFilterRow)
    (hself _)

theorem settings_of_represents {e : Json} (h : Represents (.obj ms) s)
    (he : ms.lookup "PEFConfInfo" = some (.arr [e])) :
    ∃ r, readConfRow e = .ok r ∧ s.pefConfInfo = [r] := by
  have hl := parsePefConfToDbus_eq_ok.mp h.loads
  obtain ⟨entries, hentries, hrows⟩ := sectionLoads_rows.mp hl.pefConfInfo
  rw [sectionOf_obj, he, Except.ok.injEq] at hentries
  subst hentries
  generalize s.pefConfInfo = conf at hrows
  cases hrows with
  | cons hr hrest => cases hrest; exact ⟨_, hr, rfl⟩

theorem represents_pefConfInfo {c : ConfColumn} {value : c.Cell} (h : Represents (.obj ms) s) :
    Represents (fileAfter (.obj ms) (.pefConfInfo c value))
      (assignProperty s (.pefConfInfo c value)) := by
  have hl := parsePefConfToDbus_eq_ok.mp h.loads
  obtain ⟨e, he⟩ := h.pefConfInfo
  have he : ms.lookup "PEFConfInfo" = some (.arr [e]) := he
  obtain ⟨r, hr, hconf⟩ := settings_of_represents h he
  have hobj := onObjects_readConfRow e r hr
  have hewf : e.WF := by
    have := h.wf.lookup he
    simp only [Json.WF] at this
    exact Json.wfElems_iff.mp this e List.mem_cons_self
  have hys : ∀ y ∈ [setMember c.name e (c.json value)], y.WF := by
    intro y hy
    obtain ⟨me, rfl⟩ := hobj
    rw [List.mem_singleton.mp hy]
    exact hewf.assign c.name (c.wf_json value)
  have hself : SectionLoads (some (rewritten (.pefConfInfo c value) "PEFConfInfo"
      [setMember c.name e (c.json value)] ms)) "PEFConfInfo" (exportRows readConfRow · [])
      (s.pefConfInfo.map fun r => Function.update r c value) := by
    rw [hconf]
    exact sectionLoads_rows.mpr (readsRows_rewritten_self h.wf.nodup
      (.cons (readConfRow_setMember c value hr) .nil))
  have hfile : fileAfter (.obj ms) (.pefConfInfo c value)
      = rewritten (.pefConfInfo c value) "PEFConfInfo" _ ms :=
    congrArg (MonitorOutcome.file _) (handleSignal_pefConfInfo he hobj)
  rw [hfile]
  exact h.rewritten hys (by decide) ⟨_, Members.lookup_assign_self _ _ _⟩ hself
    (hl.eventFilterTable.buckets_rewritten (by decide) _ h.wf hys (by decide)
      kept_readFilterRow onObjects_readFilterRow)
    (hl.alertPolicyTable.buckets_rewritten (by decide) _ h.wf hys (by decide)
      kept_readPolicyRow onObjects_readPolicyRow)

end AfterSet

/-- Handling the signal of a Set leaves a file that represents the objects
after the Set. -/
theorem fileAfter_represents {d : Json} {s : ManagerState} {env : SetterEnv} {req : SetRequest}
    (h : Represents d s) (hacc : setAccepted env s req) (hfits : req.fits s) :
    Represents (fileAfter d req) (assignProperty s req) := by
  obtain ⟨ms, rfl⟩ : ∃ ms, d = .obj ms := by
    obtain ⟨e, he⟩ := h.pefConfInfo
    cases d with
    | obj ms => exact ⟨ms, rfl⟩
    | _ => cases he
  cases req with
  | eventFilter b c value =>
      simp only [setAccepted, Bool.and_eq_true] at hacc
      exact represents_eventFilter h hacc.1 (fits_of_some hfits)
  | alertPolicy b c value =>
      simp only [setAccepted, Bool.and_eq_true] at hacc
      exact represents_alertPolicy h hacc.1 (fits_of_some hfits)
  | pefConfInfo c value => exact represents_pefConfInfo h

/-! ## Runs -/

instance (c : PolicyColumn) : DecidableEq c.Cell := by
  cases c <;> exact inferInstance

instance (c : ConfColumn) : DecidableEq c.Cell := by
  cases c <;> exact inferInstance

/-- The property already has the value. -/
def SetRequest.unchanged (s : ManagerState) : SetRequest → Bool
  | .eventFilter b c value => (s.eventFilterTable b).all fun l => l c == value
  | .alertPolicy b c value => (s.alertPolicyTable b).all fun l => l c == value
  | .pefConfInfo c value => s.pefConfInfo.all fun r => r c == value

theorem setColumn_eq_self {ι : Type} [DecidableEq ι] {β : ι → Type}
    {t : Bucket → Option (Table β)} {b : Bucket} {c : ι} {value : List (β c)}
    (h : ∀ l, t b = some l → l c = value) : setColumn t b c value = t := by
  rw [setColumn, Function.update_eq_self_iff]
  cases hb : t b with
  | none => rfl
  | some l => rw [Option.map_some, ← h l hb, Function.update_eq_self]

theorem assignProperty_unchanged {s : ManagerState} {req : SetRequest} (h : req.unchanged s) :
    assignProperty s req = s := by
  have hall : ∀ {τ κ : Type} [BEq κ] [LawfulBEq κ] {o : Option τ} {f : τ → κ} {v : κ},
      (o.all fun l => f l == v) = true → ∀ l, o = some l → f l = v := by
    rintro τ κ _ _ o f v ho l rfl
    exact beq_iff_eq.mp ho
  cases req with
  | eventFilter b c value =>
      simp only [assignProperty, setColumn_eq_self (hall h)]
  | alertPolicy b c value =>
      simp only [assignProperty, setColumn_eq_self (hall h)]
  | pefConfInfo c value =>
      have hmap : s.pefConfInfo.map (fun r => Function.update r c value) = s.pefConfInfo := by
        refine (List.map_congr_left fun r hr => ?_).trans (List.map_id _)
        have hrc : r c = value := beq_iff_eq.mp (List.all_eq_true.mp h r hr)
        rw [← hrc, Function.update_eq_self]
        rfl
      simp only [assignProperty, hmap]

/-- The configuration file written behind the exported objects.  A change is a
Set together with what its setter is told by the rest of the system. -/
def persistence : WriteBehind ManagerState Json (SetterEnv × SetRequest) where
  represents := Represents
  accepts s u := setAccepted u.1 s u.2 && u.2.fits s
  unchanged s u := u.2.unchanged s
  update s u := assignProperty s u.2
  write d u := fileAfter d u.2
  commutes h hacc := by
    rw [Bool.and_eq_true] at hacc
    exact fileAfter_represents h hacc.1 hacc.2
  update_unchanged h := assignProperty_unchanged h

/-- Start from a file that loads completely.  At every point of every run of
Sets and signal deliveries, the file with the pending signals applied loads as
the objects; once none is pending, a restart changes nothing. -/
theorem reload_eq_live {d : Json} {s₀ : ManagerState} (h₀ : Represents d s₀)
    {es : List (WriteBehind.Event (SetterEnv × SetRequest))}
    {s : WriteBehind.State ManagerState Json (SetterEnv × SetRequest)}
    (h : Reached persistence.next ⟨s₀, [], d⟩ es s) :
    parsePefConfToDbus (some (persistence.settled s)) = (s.live, .ok ()) ∧
      (s.pending = [] → parsePefConfToDbus (some s.store) = (s.live, .ok ())) := by
  have h₀' : persistence.represents (persistence.settled ⟨s₀, [], d⟩) s₀ := h₀
  have hr : Represents (persistence.settled s) s.live := persistence.run_represents h₀' h
  refine ⟨hr.loads, fun hp => ?_⟩
  have := hr.loads
  rwa [WriteBehind.settled, hp] at this

/-- A file with one filter row and no policies. -/
def oneRowFile : Json := .obj
  [("PEFConfInfo", .arr [.obj
      [("Version", .num 32), ("ActionSupported", .num 63), ("MaxEventTblEntry", .num 40),
       ("PEFControl", .num 1), ("PEFActionGblControl", .num 63), ("PEFStartupDly", .num 60),
       ("PEFAlertStartupDly", .num 60), ("LastBMCProcessedEventID", .num 0),
       ("LastSWProcessedEventID", .num 0), ("Subject", .str ""), ("Message", .str "")]]),
   ("EventFilterTable", .arr [.obj []]),
   ("AlertPolicyTable", .arr [])]

/-- The row enabled, its signal handled, and a restart. -/
theorem reload_after_enabling_row :
    ∃ s, runFrom persistence.next ⟨(parsePefConfToDbus (some oneRowFile)).1, [], oneRowFile⟩
        [.set (⟨none, fun _ => none⟩, .eventFilter 0 .filterConfig [0x80]) true, .deliver]
        = some s ∧
      parsePefConfToDbus (some s.store) = (s.live, .ok ()) := by
  have h₀ : Represents oneRowFile (parsePefConfToDbus (some oneRowFile)).1 :=
    { wf := by simp [oneRowFile, Json.WF, Json.wfMembers_iff, Json.wfElems_iff]
      loads := Prod.ext rfl rfl
      eventFilterTable := Or.inr (Or.inr ⟨_, rfl⟩)
      alertPolicyTable := Or.inr (Or.inr ⟨_, rfl⟩)
      pefConfInfo := ⟨_, rfl⟩ }
  have hrun : runFrom persistence.next
      ⟨(parsePefConfToDbus (some oneRowFile)).1, [], oneRowFile⟩
      [.set (⟨none, fun _ => none⟩, .eventFilter 0 .filterConfig [0x80]) true, .deliver]
      = some _ := rfl
  exact ⟨_, hrun, (reload_eq_live h₀ (Reached.last hrun)).2 rfl⟩

end Pef
