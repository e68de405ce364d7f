/-
# `Selector` — the destination selectors, written back and read again

The fourth callback of `pef_config_update.hpp`, and the round trip of what it
writes.

    object Entry<n>        key the monitor writes     key the loader reads
    LanChannel             "LanChannel"               "LanChannel"
    DestinationSelector    "DestinationSelector"      "DestinationType"

The callback finds its row by the number in the object path, which the loader
has printed there (`findEntryNo_toString`).  A restart therefore brings back
every `LanChannel` that was set, and the `DestinationSelector`s of the previous
start: `selectors_reload_iff` says for which runs this makes no difference.
-/
import PlatformEventFilter.EntryNo
import PlatformEventFilter.Lib.Run

namespace Pef

/-! ## The callback -/

/-- The number of a row, `entry["LanDestination"]`. -/
def rowNumber (entry : Json) : Except Json.Error Int := do
  let (_, lanDestination) ← entry.access "LanDestination"
  lanDestination.getInt

/-- `entry[property] = value` in the first row of that number; a row without a
number has one inserted, as `null`, which does not convert. -/
def selectorWrite (entryVal : Int) (property : String) (variantVal : Variant) :
    List Json → Except Json.Error (List Json) :=
  Json.replaceFirst fun entry => do
    let entryNumber ← rowNumber entry
    if entryNumber = entryVal then
      match variantVal with
      | .u8 x => (Json.put property (.num x.toNat) entry).map some
      | .u16 x => (Json.put property (.num x.toNat) entry).map some
      | _ => pure (some entry)
    else pure none

/-- All the properties of the signal, one after the other. -/
def selectorWrites (entryVal : Int) : PropertyMap → Json → Except Json.Error Json
  | [], tbl => .ok tbl
  | (property, v) :: rest, tbl => do
      let variantVal := v.narrow (fun
        | .u8 _ | .u16 _ => true
        | _ => false) (.u8 0)
      let tbl ← tbl.updateItems (selectorWrite entryVal property variantVal)
      selectorWrites entryVal rest tbl

def destinationSelectorMatcher (propertiesChanged : PropertyMap) (objPath : String)
    (file : Option Json) : MonitorOutcome :=
  .ofExcept <| (editSection file "DestinationSelector"
    (selectorWrites (findEntryNo objPath) propertiesChanged)).map Prod.snd

/-! ## What the callback writes -/

theorem isObj_of_rowNumber {e : Json} {n : Int} (h : rowNumber e = .ok n) : IsObj e := by
  cases e with
  | obj ms => exact ⟨ms, rfl⟩
  | _ => cases h

theorem rowNumber_setMember {property : String} (hp : property ≠ "LanDestination") (e v : Json) :
    rowNumber (setMember property e v) = rowNumber e := by
  cases e with
  | obj ms =>
      simp only [rowNumber, setMember, Json.access, Members.lookup_assign_ne hp]
      cases ms.lookup "LanDestination" <;> rfl
  | _ => rfl

/-- The row with the member set, if it has the number. -/
def rowSet (entryVal : Int) (property : String) (v e : Json) : Json :=
  match rowNumber e with
  | .ok n => if n = entryVal then setMember property e v else e
  | .error _ => e

theorem rowNumber_rowSet {property : String} (hp : property ≠ "LanDestination") (entryVal : Int)
    (v e : Json) : rowNumber (rowSet entryVal property v e) = rowNumber e := by
  unfold rowSet
  split
  · split
    · exact rowNumber_setMember hp e v
    · rfl
  · rfl

theorem selectorWrite_cons {entryVal n : Int} {property : String} {x : U8} {e : Json}
    {es : List Json} (h : rowNumber e = .ok n) :
    selectorWrite entryVal property (.u8 x) (e :: es) =
      if n = entryVal then .ok (setMember property e (.num x.toNat) :: es)
      else (selectorWrite entryVal property (.u8 x) es).map (e :: ·) := by
  split
  · next hn =>
      refine Json.replaceFirst_cons_some ?_
      rw [h]
      show (if n = entryVal then (Json.put property (.num x.toNat) e).map some
        else pure none) = _
      rw [if_pos hn, put_of_isObj (isObj_of_rowNumber h)]
      rfl
  · next hn =>
      refine Json.replaceFirst_cons_none ?_
      rw [h]
      show (if n = entryVal then (Json.put property (.num x.toNat) e).map some
        else pure none) = _
      rw [if_neg hn]
      rfl

theorem selectorWrite_cons_error {entryVal : Int} {property : String} {x : U8} {e : Json}
    {es : List Json} {err : Json.Error} (h : rowNumber e = .error err) :
    selectorWrite entryVal property (.u8 x) (e :: es) = .error err := by
  refine Json.replaceFirst_cons_error ?_
  rw [h]
  rfl

/-- The rows carry the numbers `ns`. -/
def Numbered (rows : List Json) (ns : List Int) : Prop :=
  List.Forall₂ (fun e n => rowNumber e = .ok n) rows ns

/-- When the rows are numbered apart, the callback sets the one of the number. -/
theorem selectorWrite_numbered {entryVal : Int} {property : String} {x : U8} {rows : List Json}
    {ns : List Int} (h : Numbered rows ns) (hnd : ns.Nodup) :
    selectorWrite entryVal property (.u8 x) rows =
      .ok (rows.map (rowSet entryVal property (.num x.toNat))) := by
  induction h with
  | nil => rfl
  | @cons e n es ns hn hes ih =>
      rw [List.nodup_cons] at hnd
      rw [selectorWrite_cons hn, List.map_cons]
      have hself : rowSet entryVal property (.num x.toNat) e =
          if n = entryVal then setMember property e (.num x.toNat) else e := by
        simp only [rowSet, hn]
      rw [hself]
      split
      · next heq =>
          -- the other rows have other numbers
          have hrest : ∀ e' ∈ es, rowSet entryVal property (.num x.toNat) e' = e' := by
            intro e' he'
            obtain ⟨i, hi, rfl⟩ := List.mem_iff_getElem.mp he'
            have hi' : i < ns.length := hes.length_eq ▸ hi
            have hrow := (List.forall₂_iff_get.mp hes).2 i hi hi'
            have hne : ns.get ⟨i, hi'⟩ ≠ entryVal := by
              intro heq'
              exact hnd.1 (heq ▸ heq' ▸ List.get_mem ns ⟨i, hi'⟩)
            simp only [rowSet]
            rw [show rowNumber es[i] = .ok (ns.get ⟨i, hi'⟩) from hrow]
            exact if_neg hne
          rw [List.map_congr_left hrest, List.map_id']
      · rw [ih hnd.2]
        rfl

/-! ## One property, and the file after it -/

/-- The properties of an entry object. -/
inductive SelectorProperty where
  | lanChannel | destinationSelector
  deriving DecidableEq, Repr

def SelectorProperty.name : SelectorProperty → String
  | lanChannel => "LanChannel"
  | destinationSelector => "DestinationSelector"

theorem SelectorProperty.name_ne (p : SelectorProperty) : p.name ≠ "LanDestination" := by
  cases p <;> decide

/-- A Set on an entry object. -/
structure SelectorSet where
  objPath : String
  property : SelectorProperty
  value : U8

/-- The file after the signal of a Set has been handled. -/
def selectorFileAfter (d : Json) (u : SelectorSet) : Json :=
  (destinationSelectorMatcher [(u.property.name, .u8 u.value)] u.objPath (some d)).file d

/-- The rows of the destination selector table. -/
def selectorRows (d : Json) : List Json := ((d.find? "DestinationSelector").getD .null).items

/-- The file has a table whose rows are numbered apart. -/
structure NumberedTable (d : Json) (ns : List Int) : Prop where
  isObj : IsObj d
  numbered : Numbered (selectorRows d) ns
  nodup : ns.Nodup
  nonneg : ∀ n ∈ ns, 0 ≤ n

theorem items_updateItems {j : Json} {f : List Json → Except Json.Error (List Json)}
    {vs : List Json} (hobj : ∀ x ∈ j.items, IsObj x) (hf : f j.items = .ok vs)
    (hlen : vs.length = j.items.length) :
    ∃ j', j.updateItems f = .ok j' ∧ j'.items = vs := by
  cases j with
  | null =>
      refine ⟨.null, rfl, ?_⟩
      exact (List.eq_nil_of_length_eq_zero hlen).symm
  | arr xs =>
      have hxs : f xs = .ok vs := hf
      refine ⟨.arr vs, ?_, rfl⟩
      rw [Json.updateItems, hxs]
      rfl
  | obj ms =>
      have hms : f (ms.map Prod.snd) = .ok vs := hf
      refine ⟨.obj ((ms.map Prod.fst).zip vs), ?_, ?_⟩
      · rw [Json.updateItems, hms]
        rfl
      · have hle : vs.length ≤ (ms.map Prod.fst).length := by
          rw [hlen]
          simp [Json.items]
        exact List.map_snd_zip hle
  | _ =>
      obtain ⟨ms, hms⟩ := hobj _ List.mem_cons_self
      cases hms

/-- Of a numbered table, a Set changes the row of its number and nothing else. -/
theorem selectorFileAfter_numbered {d : Json} {ns : List Int} (h : NumberedTable d ns)
    (u : SelectorSet) :
    ∃ ms tbl, d = .obj ms ∧ selectorFileAfter d u =
        .obj (Members.assign "DestinationSelector" tbl ms) ∧
      tbl.items = (selectorRows d).map
        (rowSet (findEntryNo u.objPath) u.property.name (.num u.value.toNat)) := by
  obtain ⟨ms, rfl⟩ := h.isObj
  have hobj : ∀ e ∈ selectorRows (.obj ms), IsObj e := by
    intro e he
    obtain ⟨i, hi, rfl⟩ := List.mem_iff_getElem.mp he
    exact isObj_of_rowNumber ((List.forall₂_iff_get.mp h.numbered).2 i hi
      (h.numbered.length_eq ▸ hi))
  have hwrite : selectorWrite (findEntryNo u.objPath) u.property.name (.u8 u.value)
      (selectorRows (.obj ms)) = .ok _ := selectorWrite_numbered h.numbered h.nodup
  obtain ⟨tbl, htbl, hitems⟩ := items_updateItems hobj hwrite (List.length_map _)
  refine ⟨ms, tbl, rfl, ?_, hitems⟩
  have hwrites : selectorWrites (findEntryNo u.objPath) [(u.property.name, .u8 u.value)]
      ((ms.lookup "DestinationSelector").getD .null) = .ok tbl := by
    show ((((ms.lookup "DestinationSelector").getD .null).updateItems
      (selectorWrite (findEntryNo u.objPath) u.property.name (.u8 u.value))) >>= fun tbl =>
        selectorWrites (findEntryNo u.objPath) [] tbl) = _
    rw [show ((ms.lookup "DestinationSelector").getD .null).updateItems _ = .ok tbl from htbl]
    rfl
  rw [selectorFileAfter, destinationSelectorMatcher, editSection_obj, hwrites]
  rfl

/-! ## What the loader reads -/

theorem subscript_eq_ok {e v : Json} {k : String} (h : e.subscript k = .ok v) :
    ∃ ms, e = .obj ms ∧ ms.lookup k = some v := by
  cases e with
  | obj ms =>
      refine ⟨ms, rfl, ?_⟩
      simp only [Json.subscript] at h
      cases hv : ms.lookup k with
      | none => rw [hv] at h; cases h
      | some w => rw [hv] at h; exact congrArg some (Except.ok.inj h)
  | _ => cases h

theorem readDestination_eq_ok {e : Json} {r : DestinationEntry} :
    readDestination e = .ok r ↔
      ∃ ms number channel selector n, e = .obj ms ∧
        ms.lookup "LanDestination" = some number ∧ ms.lookup "LanChannel" = some channel ∧
        ms.lookup "DestinationType" = some selector ∧ number.getInt = .ok n ∧
        channel.getUnsigned 8 = .ok r.LanChannel ∧
        selector.getUnsigned 8 = .ok r.DestinationSelector ∧
        r.objPath = destStringTableObj ++ toString n := by
  constructor
  · intro h
    obtain ⟨number, hnumber, h⟩ := Json.exists_of_bind_eq_ok h
    obtain ⟨n, hn, h⟩ := Json.exists_of_bind_eq_ok h
    obtain ⟨channel, hchannel, h⟩ := Json.exists_of_bind_eq_ok h
    obtain ⟨lanChannel, hc, h⟩ := Json.exists_of_bind_eq_ok h
    obtain ⟨selector, hselector, h⟩ := Json.exists_of_bind_eq_ok h
    obtain ⟨destinationType, hd, h⟩ := Json.exists_of_bind_eq_ok h
    cases h
    obtain ⟨ms, rfl, hlan⟩ := subscript_eq_ok hnumber
    obtain ⟨_, hms, hchan⟩ := subscript_eq_ok hchannel
    cases hms
    obtain ⟨_, hms, hsel⟩ := subscript_eq_ok hselector
    cases hms
    exact ⟨ms, number, channel, selector, n, rfl, hlan, hchan, hsel, hn, hc, hd, rfl⟩
  · rintro ⟨ms, number, channel, selector, n, rfl, hnumber, hchannel, hselector, hn, hc, hd, hpath⟩
    obtain ⟨rPath, rChannel, rSelector⟩ := r
    simp only at hc hd hpath
    subst hpath
    simp only [readDestination, Json.subscript, hnumber, hchannel, hselector, bind, Except.bind, hn,
      hc, hd]
    rfl

theorem rowNumber_of_readDestination {e : Json} {r : DestinationEntry}
    (h : readDestination e = .ok r) :
    ∃ n, rowNumber e = .ok n ∧ r.objPath = destStringTableObj ++ toString n := by
  obtain ⟨ms, number, channel, selector, n, rfl, hnumber, -, -, hn, -, -, hpath⟩ :=
    readDestination_eq_ok.mp h
  refine ⟨n, ?_, hpath⟩
  simp only [rowNumber, Json.access, hnumber]
  exact hn

/-- The entry with what a restart brings back of a Set. -/
def SelectorSet.reload (u : SelectorSet) (e : DestinationEntry) : DestinationEntry :=
  if e.objPath = u.objPath then
    match u.property with
    | .lanChannel => { e with LanChannel := u.value }
    | .destinationSelector => e
  else e

theorem readDestination_setMember {e : Json} {r : DestinationEntry} {u : SelectorSet}
    (h : readDestination e = .ok r) (hpath : r.objPath = u.objPath) :
    readDestination (setMember u.property.name e (.num u.value.toNat)) = .ok (u.reload r) := by
  obtain ⟨ms, number, channel, selector, n, rfl, hnumber, hchannel, hselector, hn, hc, hd, hobj⟩ :=
    readDestination_eq_ok.mp h
  have hother : ∀ {k : String}, u.property.name ≠ k →
      (Members.assign u.property.name (.num u.value.toNat) ms).lookup k = ms.lookup k :=
    fun hk => Members.lookup_assign_ne hk _ ms
  rw [SelectorSet.reload, if_pos hpath, readDestination_eq_ok]
  cases hp : u.property with
  | lanChannel =>
      -- the key of the property is the key of the loader
      rw [hp] at hother
      refine ⟨_, number, .num u.value.toNat, selector, n, rfl, (hother (by decide)).trans hnumber,
        Members.lookup_assign_self _ _ _, (hother (by decide)).trans hselector, hn, ?_, hd, hobj⟩
      simp [Json.getUnsigned]
  | destinationSelector =>
      -- the loader does not read the key of the property
      rw [hp] at hother
      exact ⟨_, number, channel, selector, n, rfl, (hother (by decide)).trans hnumber,
        (hother (by decide)).trans hchannel, (hother (by decide)).trans hselector, hn, hc, hd, hobj⟩

/-- The sections before the destination selectors. -/
def mainSections (data : Option Json) : List (ManagerState → ManagerState × Except Json.Error Unit) :=
  [exportSection data "PEFConfInfo" (exportRows readConfRow · [])
      fun s g => { s with pefConfInfo := g },
   exportSection data "SystemGUID" (exportRows readSystemGuid · [])
      fun s g => { s with systemGUID := g },
   exportSection data "OEMParam" (exportRows readOemParam · [])
      fun s g => { s with oemParam := g },
   exportSection data "EventFilterTable" (exportBuckets readFilterRow 10 3)
      fun s g => { s with eventFilterTable := g },
   exportSection data "AlertPolicyTable" (exportBuckets readPolicyRow 15 3)
      fun s g => { s with alertPolicyTable := g },
   exportSection data "AlertStringTable" (exportBuckets readAlertStringRow 10 3)
      fun s g => { s with alertStringTable := g }]

theorem parsePefConfToDbus_main (data : Option Json) :
    parsePefConfToDbus data =
      match inOrder (mainSections data) ManagerState.initial with
      | (m, .ok ()) =>
          exportSection data "DestinationSelector" (exportRows readDestination · [])
            (fun s g => { s with destinationSelector := g }) m
      | (m, .error e) => (m, .error e) := by
  have hsplit : parsePefConfToDbus data = inOrder (mainSections data ++
      [exportSection data "DestinationSelector" (exportRows readDestination · [])
        fun s g => { s with destinationSelector := g }]) ManagerState.initial := rfl
  rw [hsplit, inOrder_append]
  rcases inOrder (mainSections data) ManagerState.initial with ⟨m, e | ⟨⟨⟩⟩⟩
  · rfl
  · exact inOrder_singleton _ m

theorem mainSections_selectors (data : Option Json) :
    (inOrder (mainSections data) ManagerState.initial).1.destinationSelector = [] := by
  refine inOrder_induct (P := fun s : ManagerState => s.destinationSelector = [])
    (fun f hf s hs => ?_) rfl
  simp only [mainSections, List.mem_cons, List.not_mem_nil, or_false] at hf
  rcases hf with rfl | rfl | rfl | rfl | rfl | rfl
  all_goals
    exact exportSection_induct (P := fun s : ManagerState => s.destinationSelector = []) hs
      fun _ => hs

theorem mainSections_assign (ms : List (String × Json)) (tbl : Json) :
    mainSections (some (.obj (Members.assign "DestinationSelector" tbl ms))) =
      mainSections (some (.obj ms)) := by
  have hsection : ∀ {γ : Type} (key : String) (load : List Json → γ × Except Json.Error Unit)
      (keep : ManagerState → γ → ManagerState), "DestinationSelector" ≠ key →
      exportSection (some (.obj (Members.assign "DestinationSelector" tbl ms))) key load keep =
        exportSection (some (.obj ms)) key load keep := by
    intro γ key load keep hkey
    funext s
    rw [exportSection, exportSection, sectionOf_obj, sectionOf_obj, Members.lookup_assign_ne hkey]
  simp only [mainSections]
  rw [hsection "PEFConfInfo" _ _ (by decide), hsection "SystemGUID" _ _ (by decide),
    hsection "OEMParam" _ _ (by decide), hsection "EventFilterTable" _ _ (by decide),
    hsection "AlertPolicyTable" _ _ (by decide), hsection "AlertStringTable" _ _ (by decide)]

theorem row_of_destinationSelector {ms : List (String × Json)} {r : DestinationEntry}
    (h : r ∈ (parsePefConfToDbus (some (.obj ms))).1.destinationSelector) :
    ∃ e ∈ selectorRows (.obj ms), readDestination e = .ok r := by
  have hmain := mainSections_selectors (some (.obj ms))
  rw [parsePefConfToDbus_main] at h
  rcases hrun : inOrder (mainSections (some (.obj ms))) ManagerState.initial with ⟨m, x | ⟨⟨⟩⟩⟩
  · rw [hrun] at h hmain
    rw [show m.destinationSelector = [] from hmain] at h
    cases h
  · rw [hrun] at h
    have hrows : r ∈ (exportRows readDestination (selectorRows (.obj ms)) []).1 := by
      simp only [exportSection, sectionOf_obj] at h
      exact h
    rcases mem_exportRows hrows with hread | hnil
    · exact hread
    · cases hnil

/-- A table whose rows are read as before, up to `g`, loads as before, up to `g`. -/
theorem parsePefConfToDbus_map {ms : List (String × Json)} {tbl : Json} {f : Json → Json}
    {g : DestinationEntry → DestinationEntry}
    (hitems : tbl.items = (selectorRows (.obj ms)).map f)
    (hread : ∀ e ∈ selectorRows (.obj ms), readDestination (f e) = (readDestination e).map g) :
    parsePefConfToDbus (some (.obj (Members.assign "DestinationSelector" tbl ms))) =
      ({ (parsePefConfToDbus (some (.obj ms))).1 with
          destinationSelector :=
            (parsePefConfToDbus (some (.obj ms))).1.destinationSelector.map g },
        (parsePefConfToDbus (some (.obj ms))).2) := by
  have hmain := mainSections_selectors (some (.obj ms))
  rw [parsePefConfToDbus_main, parsePefConfToDbus_main, mainSections_assign]
  rcases hrun : inOrder (mainSections (some (.obj ms))) ManagerState.initial with ⟨m, x | ⟨⟨⟩⟩⟩
  · rw [hrun] at hmain
    obtain ⟨c, g₁, o, ef, ap, as, ds⟩ := m
    have hnil : ds = [] := hmain
    subst hnil
    rfl
  · have hrows : exportRows readDestination ((selectorRows (.obj ms)).map f)
        (([] : List DestinationEntry).map g) = _ := exportRows_map hread
    rw [List.map_nil] at hrows
    simp only [exportSection, sectionOf_obj, Members.lookup_assign_self, Option.getD_some, hitems,
      hrows]
    rfl

/-! ## Runs of Sets and signals -/

/-- The entry after a Set. -/
def SelectorSet.apply (u : SelectorSet) (e : DestinationEntry) : DestinationEntry :=
  if e.objPath = u.objPath then
    match u.property with
    | .lanChannel => { e with LanChannel := u.value }
    | .destinationSelector => { e with DestinationSelector := u.value }
  else e

@[simp] theorem SelectorSet.apply_objPath (u : SelectorSet) (e : DestinationEntry) :
    (u.apply e).objPath = e.objPath := by
  unfold SelectorSet.apply
  split
  · cases u.property <;> rfl
  · rfl

/-- The entry with the selector of another. -/
def withSelectorOf (l e : DestinationEntry) : DestinationEntry :=
  { e with DestinationSelector := l.DestinationSelector }

/-- What a restart brings back of a Set is the Set, but for the selector. -/
theorem reload_withSelectorOf (u : SelectorSet) (l e : DestinationEntry) :
    u.reload (withSelectorOf l e) = withSelectorOf l (u.apply e) := by
  have hpath : (withSelectorOf l e).objPath = e.objPath := rfl
  rw [SelectorSet.reload, SelectorSet.apply, hpath]
  split
  · cases u.property <;> rfl
  · rfl

theorem Numbered.eq_of_number {rows : List Json} {ns : List Int} (h : Numbered rows ns)
    (hnd : ns.Nodup) {e e' : Json} {n : Int} (he : e ∈ rows) (he' : e' ∈ rows)
    (hn : rowNumber e = .ok n) (hn' : rowNumber e' = .ok n) : e = e' := by
  obtain ⟨i, hi, rfl⟩ := List.mem_iff_getElem.mp he
  obtain ⟨j, hj, rfl⟩ := List.mem_iff_getElem.mp he'
  have hlen := h.length_eq
  have hrow := (List.forall₂_iff_get.mp h).2
  have hi' : ns.get ⟨i, hlen ▸ hi⟩ = n := by
    have := (hrow i hi (hlen ▸ hi)).symm.trans hn
    exact Except.ok.inj this
  have hj' : ns.get ⟨j, hlen ▸ hj⟩ = n := by
    have := (hrow j hj (hlen ▸ hj)).symm.trans hn'
    exact Except.ok.inj this
  have hij := List.nodup_iff_injective_get.mp hnd (hi'.trans hj'.symm)
  have : i = j := congrArg Fin.val hij
  subst this
  rfl

theorem readDestination_rowSet {d : Json} {ns : List Int} (h : NumberedTable d ns)
    {u : SelectorSet} {e₀ : Json} {r₀ : DestinationEntry} (he₀ : e₀ ∈ selectorRows d)
    (hr₀ : readDestination e₀ = .ok r₀) (hpath : r₀.objPath = u.objPath) :
    ∀ e ∈ selectorRows d,
      readDestination (rowSet (findEntryNo u.objPath) u.property.name (.num u.value.toNat) e) =
        (readDestination e).map u.reload := by
  have hnumber : ∀ e ∈ selectorRows d, ∃ n ∈ ns, rowNumber e = .ok n := by
    intro e he
    obtain ⟨i, hi, rfl⟩ := List.mem_iff_getElem.mp he
    have hi' : i < ns.length := h.numbered.length_eq ▸ hi
    exact ⟨_, List.get_mem ns ⟨i, hi'⟩, (List.forall₂_iff_get.mp h.numbered).2 i hi hi'⟩
  obtain ⟨n₀, hn₀, hobj₀⟩ := rowNumber_of_readDestination hr₀
  obtain ⟨n₁, hmem₁, hn₁⟩ := hnumber e₀ he₀
  cases hn₀.symm.trans hn₁
  have hentry : findEntryNo u.objPath = n₀ := by
    rw [← hpath, hobj₀]
    exact findEntryNo_toString (h.nonneg n₀ hmem₁)
  intro e he
  obtain ⟨n, hmem, hn⟩ := hnumber e he
  rw [hentry]
  simp only [rowSet, hn]
  split
  · next heq =>
      -- the row of the Set is the row of its object
      subst heq
      cases h.numbered.eq_of_number h.nodup he he₀ hn hn₀
      rw [hr₀]
      exact readDestination_setMember hr₀ hpath
  · next hne =>
      cases hr : readDestination e with
      | error x => rfl
      | ok r =>
          obtain ⟨m, hm, hobj⟩ := rowNumber_of_readDestination hr
          cases hn.symm.trans hm
          have hother : r.objPath ≠ u.objPath := by
            intro heq
            have := findEntryNo_toString (h.nonneg n hmem)
            rw [← hobj, heq, hentry] at this
            exact hne this.symm
          show Except.ok r = Except.ok (u.reload r)
          rw [SelectorSet.reload, if_neg hother]

/-- Loading `t` is loading `d` with the `LanChannel`s of the live entries. -/
structure SelectorsStored (d t : Json) (live : List DestinationEntry) : Prop where
  numbered : ∃ ns, NumberedTable t ns
  paths : live.map DestinationEntry.objPath =
    (parsePefConfToDbus (some d)).1.destinationSelector.map DestinationEntry.objPath
  loads : parsePefConfToDbus (some t) =
    ({ (parsePefConfToDbus (some d)).1 with
        destinationSelector := List.zipWith withSelectorOf
          (parsePefConfToDbus (some d)).1.destinationSelector live },
      (parsePefConfToDbus (some d)).2)

/-- Handling the signal of a Set keeps the file in step, the selectors apart. -/
theorem selectorsStored_step {d t : Json} {live : List DestinationEntry} {u : SelectorSet}
    (h : SelectorsStored d t live) (hacc : ∃ e ∈ live, e.objPath = u.objPath) :
    SelectorsStored d (selectorFileAfter t u) (live.map u.apply) := by
  obtain ⟨⟨ns, hns⟩, hpaths, hloads⟩ := h
  obtain ⟨ms, tbl, rfl, hfile, hitems⟩ := selectorFileAfter_numbered hns u
  have hlen : live.length = (parsePefConfToDbus (some d)).1.destinationSelector.length := by
    have := congrArg List.length hpaths
    rwa [List.length_map, List.length_map] at this
  -- the object of the Set has a row in the file
  obtain ⟨r₀, hr₀, hpath₀⟩ : ∃ r ∈ (parsePefConfToDbus (some (.obj ms))).1.destinationSelector,
      r.objPath = u.objPath := by
    obtain ⟨e, he, hpath⟩ := hacc
    obtain ⟨i, hi, rfl⟩ := List.mem_iff_getElem.mp he
    rw [hloads]
    refine ⟨_, List.mem_iff_getElem.mpr ⟨i, ?_, rfl⟩, ?_⟩
    · rw [List.length_zipWith]
      omega
    · rw [List.getElem_zipWith]
      exact hpath
  obtain ⟨e₀, he₀, hread₀⟩ := row_of_destinationSelector hr₀
  rw [hfile]
  refine ⟨⟨ns, ⟨_, rfl⟩, ?_, hns.nodup, hns.nonneg⟩, ?_, ?_⟩
  · have hrows : selectorRows (.obj (Members.assign "DestinationSelector" tbl ms)) = tbl.items := by
      simp only [selectorRows, Json.find?, Members.lookup_assign_self, Option.getD_some]
    rw [hrows, hitems, Numbered, List.forall₂_map_left_iff]
    refine hns.numbered.imp fun e n hn => ?_
    rw [rowNumber_rowSet u.property.name_ne, hn]
  · rw [List.map_map, ← hpaths]
    exact List.map_congr_left fun e _ => u.apply_objPath e
  · rw [parsePefConfToDbus_map hitems (readDestination_rowSet hns he₀ hread₀ hpath₀), hloads]
    have hzip : (List.zipWith withSelectorOf (parsePefConfToDbus (some d)).1.destinationSelector
        live).map u.reload = List.zipWith withSelectorOf
          (parsePefConfToDbus (some d)).1.destinationSelector (live.map u.apply) := by
      rw [List.map_zipWith, List.zipWith_map_right]
      simp only [reload_withSelectorOf]
    simp only [hzip]

/-- The file written behind the entry objects that `d` loads as. -/
def selectorPersistence (d : Json) : WriteBehind (List DestinationEntry) Json SelectorSet where
  represents t live := SelectorsStored d t live
  accepts live u := live.any fun e => e.objPath = u.objPath
  unchanged live u := live.all fun e => u.apply e = e
  update live u := live.map u.apply
  write t u := selectorFileAfter t u
  commutes h hacc := by
    obtain ⟨e, he, hpath⟩ := List.any_eq_true.mp hacc
    exact selectorsStored_step h ⟨e, he, of_decide_eq_true hpath⟩
  update_unchanged h :=
    (List.map_congr_left fun e he => of_decide_eq_true (List.all_eq_true.mp h e he)).trans
      (List.map_id _)

/-- The value an event sets the property to. -/
def valueSet (objPath : String) (p : SelectorProperty) :
    WriteBehind.Event SelectorSet → Option U8
  | .set u _ => if u.objPath = objPath ∧ u.property = p then some u.value else none
  | .deliver => none

/-- The value the property was last set to. -/
def lastValue (objPath : String) (p : SelectorProperty)
    (es : List (WriteBehind.Event SelectorSet)) : Option U8 :=
  (es.filterMap (valueSet objPath p)).getLast?

/-- The entry with the values last set. -/
def lastSet (es : List (WriteBehind.Event SelectorSet)) (e : DestinationEntry) :
    DestinationEntry where
  objPath := e.objPath
  LanChannel := (lastValue e.objPath .lanChannel es).getD e.LanChannel
  DestinationSelector := (lastValue e.objPath .destinationSelector es).getD e.DestinationSelector

theorem lastValue_snoc (objPath : String) (p : SelectorProperty)
    (es : List (WriteBehind.Event SelectorSet)) (ev : WriteBehind.Event SelectorSet) :
    lastValue objPath p (es ++ [ev]) = (valueSet objPath p ev).or (lastValue objPath p es) := by
  rw [lastValue, List.filterMap_append, List.getLast?_append]
  cases hv : valueSet objPath p ev with
  | none => simp [hv, lastValue]
  | some v => simp [hv]

theorem lastSet_set (es : List (WriteBehind.Event SelectorSet)) (u : SelectorSet) (a : Bool)
    (e : DestinationEntry) : lastSet (es ++ [.set u a]) e = u.apply (lastSet es e) := by
  have hpath : (lastSet es e).objPath = e.objPath := rfl
  rw [SelectorSet.apply, hpath]
  simp only [lastSet, lastValue_snoc, valueSet]
  by_cases h : e.objPath = u.objPath
  · cases u.property <;> simp [h]
  · simp [h, Ne.symm h]

theorem lastSet_deliver (es : List (WriteBehind.Event SelectorSet)) (e : DestinationEntry) :
    lastSet (es ++ [.deliver]) e = lastSet es e := by
  simp only [lastSet, lastValue_snoc, valueSet, Option.none_or]

theorem live_eq_lastSet {d : Json} {loaded : List DestinationEntry}
    {es : List (WriteBehind.Event SelectorSet)}
    {s : WriteBehind.State (List DestinationEntry) Json SelectorSet}
    (h : runFrom (selectorPersistence d).next ⟨loaded, [], d⟩ es = some s) :
    s.live = loaded.map (lastSet es) := by
  have hstart : loaded = loaded.map (lastSet []) := (List.map_id loaded).symm
  refine runFrom.induct_history (P := fun pre s => s.live = loaded.map (lastSet pre)) hstart
    (fun pre ev post s s' _ _ hstep hs => ?_) (List.append_nil es).symm h
  cases ev with
  | set u announced =>
      simp only [WriteBehind.next] at hstep
      split at hstep
      · cases hstep
        show s.live.map u.apply = _
        rw [hs, List.map_map]
        exact List.map_congr_left fun e _ => (lastSet_set pre u announced e).symm
      · cases hstep
  | deliver =>
      obtain ⟨live, pending, store⟩ := s
      cases pending with
      | nil => cases hstep
      | cons u us =>
          cases hstep
          have hlive : live = loaded.map (lastSet pre) := hs
          show live = _
          rw [hlive]
          exact List.map_congr_left fun e _ => (lastSet_deliver pre e).symm

/-- Once every signal has been handled, a reload gives every entry the values
last set exactly when the `DestinationSelector`s have last been set, if at all,
to what they were at the start. -/
theorem selectors_reload_iff {d : Json} {ns : List Int} (ht : NumberedTable d ns)
    {es : List (WriteBehind.Event SelectorSet)}
    {s : WriteBehind.State (List DestinationEntry) Json SelectorSet}
    (h : runFrom (selectorPersistence d).next
      ⟨(parsePefConfToDbus (some d)).1.destinationSelector, [], d⟩ es = some s)
    (hdone : s.pending = []) :
    (parsePefConfToDbus (some s.store)).1.destinationSelector =
        (parsePefConfToDbus (some d)).1.destinationSelector.map (lastSet es) ↔
      ∀ e ∈ (parsePefConfToDbus (some d)).1.destinationSelector, ∀ v,
        lastValue e.objPath .destinationSelector es = some v → v = e.DestinationSelector := by
  have hself : ∀ es : List DestinationEntry, List.zipWith withSelectorOf es es = es := by
    intro es
    rw [List.zipWith_self]
    exact List.map_id es
  have hstart : (selectorPersistence d).represents
      ((selectorPersistence d).settled
        ⟨(parsePefConfToDbus (some d)).1.destinationSelector, [], d⟩)
      (parsePefConfToDbus (some d)).1.destinationSelector :=
    { numbered := ⟨ns, ht⟩
      paths := rfl
      loads := by
        rw [hself]
        rfl }
  have hstored : SelectorsStored d s.store s.live := by
    have := (selectorPersistence d).run_represents hstart (Reached.last h)
    rwa [WriteBehind.settled, hdone] at this
  rw [hstored.loads, live_eq_lastSet h]
  show List.zipWith withSelectorOf _ _ = _ ↔ _
  rw [List.zipWith_map_right, List.zipWith_self, List.map_inj_left]
  refine forall₂_congr fun e he => ?_
  constructor
  · intro heq v hv
    have hsel := congrArg DestinationEntry.DestinationSelector heq
    simp only [withSelectorOf, lastSet, hv, Option.getD_some] at hsel
    exact hsel.symm
  · intro hsel
    have hvalue : (lastValue e.objPath .destinationSelector es).getD e.DestinationSelector =
        e.DestinationSelector := by
      cases hv : lastValue e.objPath .destinationSelector es with
      | none => rfl
      | some v => exact hsel v hv
    simp only [withSelectorOf, lastSet, hvalue]

/-- A table of one row. -/
def oneSelectorFile : Json := .obj
  [("DestinationSelector", .arr [.obj
      [("LanDestination", .num 3), ("LanChannel", .num 1), ("DestinationType", .num 4)]])]

/-- The Set of a property of its entry object. -/
def setEntry3 (p : SelectorProperty) (value : U8) : SelectorSet :=
  ⟨"/xyz/openbmc_project/PefAlertManager/DestinationSelector/Entry3", p, value⟩

theorem oneSelectorFile_numbered : NumberedTable oneSelectorFile [3] where
  isObj := ⟨_, rfl⟩
  numbered := .cons rfl .nil
  nodup := by decide
  nonneg := by decide

/-- The `LanChannel` is there after a restart. -/
theorem lanChannel_reloads :
    ∃ s, runFrom (selectorPersistence oneSelectorFile).next
        ⟨(parsePefConfToDbus (some oneSelectorFile)).1.destinationSelector, [], oneSelectorFile⟩
        [.set (setEntry3 .lanChannel 2) true, .deliver] = some s ∧
      (parsePefConfToDbus (some s.store)).1.destinationSelector =
        [⟨"/xyz/openbmc_project/PefAlertManager/DestinationSelector/Entry3", 2, 4⟩] := by
  have hrun : runFrom (selectorPersistence oneSelectorFile).next
      ⟨(parsePefConfToDbus (some oneSelectorFile)).1.destinationSelector, [], oneSelectorFile⟩
      [.set (setEntry3 .lanChannel 2) true, .deliver] = some _ := rfl
  refine ⟨_, hrun, ?_⟩
  rw [(selectors_reload_iff oneSelectorFile_numbered hrun rfl).mpr ?_]
  · rfl
  · intro e he v hv
    obtain rfl := List.mem_singleton.mp he
    cases hv

/-- The `DestinationSelector` is not. -/
theorem destinationSelector_lost :
    ∃ s, runFrom (selectorPersistence oneSelectorFile).next
        ⟨(parsePefConfToDbus (some oneSelectorFile)).1.destinationSelector, [], oneSelectorFile⟩
        [.set (setEntry3 .destinationSelector 2) true, .deliver] = some s ∧
      s.pending = [] ∧
      s.live = [⟨"/xyz/openbmc_project/PefAlertManager/DestinationSelector/Entry3", 1, 2⟩] ∧
      (parsePefConfToDbus (some s.store)).1.destinationSelector =
        [⟨"/xyz/openbmc_project/PefAlertManager/DestinationSelector/Entry3", 1, 4⟩] :=
  ⟨_, rfl, rfl, rfl, rfl⟩

end Pef
