/-
# `Restart` — all objects of the manager, over any number of restarts

The manager exports seven sections of the configuration file, and any of their
properties can be set.  The signals of five of the objects are monitored, so that
some of what is set reaches the file and some does not:

    PEFConfInfo, EventFilterTable, AlertPolicyTable    written back
    DestinationSelector    the channel; the selector under a key nobody reads
    SystemGUID, OEMParam, AlertStringTable             not written

A restart loads the file and loses the signals that are pending.  What it brings
back is what the objects were at some earlier point, with the properties that are
not written as they were in the file at the first start (`afterReload`); and this
is so however often the manager is restarted, at whatever point of the run
(`restarts_load_earlier_state`).  The file never fails to load.
-/
import PlatformEventFilter.Persist
import PlatformEventFilter.Selector

namespace Pef

/-! ## Sets on any object -/

/-- A Set of any property of the manager's objects. -/
inductive ManagerSet where
  | table (env : SetterEnv) (req : SetRequest)
  | selector (u : SelectorSet)
  | alertString (b : Bucket) (c : AlertStringColumn) (value : List c.Cell)
  | systemGUID (iface byte : Nat) (x : U8)
  | oemParam (iface byte : Nat) (x : U8)

namespace ManagerSet

/-- The byte property number `byte` of an interface replaced. -/
def setByte (ifaces : List (List U8)) (iface byte : Nat) (x : U8) : List (List U8) :=
  ifaces.modify iface fun bytes => bytes.set byte x

/-- The object is there, and the setter of the property accepts the value; an array
that is written back has as many members as the one it replaces. -/
def accepted (s : ManagerState) : ManagerSet → Bool
  | table env req => setAccepted env s req && req.fits s
  | selector u => s.destinationSelector.any fun e => e.objPath = u.objPath
  | alertString b _ _ => (s.alertStringTable b).isSome
  | systemGUID iface byte _ => (s.systemGUID[iface]?).any fun bytes => byte < bytes.length
  | oemParam iface byte _ => (s.oemParam[iface]?).any fun bytes => byte < bytes.length

/-- The objects with the property set. -/
def apply (s : ManagerState) : ManagerSet → ManagerState
  | table _ req => assignProperty s req
  | selector u => { s with destinationSelector := s.destinationSelector.map u.apply }
  | alertString b c value => { s with alertStringTable := setColumn s.alertStringTable b c value }
  | systemGUID iface byte x => { s with systemGUID := setByte s.systemGUID iface byte x }
  | oemParam iface byte x => { s with oemParam := setByte s.oemParam iface byte x }

/-- The file after the signal of the Set; three of the objects have no monitor. -/
def fileAfter (d : Json) : ManagerSet → Json
  | table _ req => Pef.fileAfter d req
  | selector u => selectorFileAfter d u
  | _ => d

/-- The property already has the value. -/
def unchanged (s : ManagerState) : ManagerSet → Bool
  | table _ req => req.unchanged s
  | selector u => s.destinationSelector.all fun e => u.apply e = e
  | alertString b c value => (s.alertStringTable b).all fun l => l c == value
  | systemGUID iface byte x => setByte s.systemGUID iface byte x == s.systemGUID
  | oemParam iface byte x => setByte s.oemParam iface byte x == s.oemParam

theorem apply_unchanged {s : ManagerState} {u : ManagerSet} (h : u.unchanged s = true) :
    u.apply s = s := by
  cases u with
  | table env req => exact assignProperty_unchanged h
  | selector u =>
      have hmap : s.destinationSelector.map u.apply = s.destinationSelector :=
        (List.map_congr_left fun e he => of_decide_eq_true (List.all_eq_true.mp h e he)).trans
          (List.map_id _)
      rw [apply, hmap]
  | alertString b c value =>
      have hcolumn : setColumn s.alertStringTable b c value = s.alertStringTable := by
        refine setColumn_eq_self fun l hl => ?_
        rw [unchanged, hl, Option.all_some] at h
        exact beq_iff_eq.mp h
      rw [apply, hcolumn]
  | systemGUID iface byte x => rw [apply, beq_iff_eq.mp h]
  | oemParam iface byte x => rw [apply, beq_iff_eq.mp h]

end ManagerSet

/-! ## What a reload brings back -/

/-- The live objects with the properties that are not written back as they have
been loaded. -/
def afterReload (loaded live : ManagerState) : ManagerState :=
  { live with
    systemGUID := loaded.systemGUID
    oemParam := loaded.oemParam
    alertStringTable := loaded.alertStringTable
    destinationSelector :=
      List.zipWith withSelectorOf loaded.destinationSelector live.destinationSelector }

theorem zipWith_withSelectorOf_self (es : List DestinationEntry) :
    List.zipWith withSelectorOf es es = es := by
  rw [List.zipWith_self]
  exact List.map_id es

theorem zipWith_withSelectorOf_idem :
    ∀ ls es : List DestinationEntry,
      List.zipWith withSelectorOf ls (List.zipWith withSelectorOf ls es) =
        List.zipWith withSelectorOf ls es
  | [], _ => by rw [List.zipWith_nil_left, List.zipWith_nil_left]
  | _ :: _, [] => by rw [List.zipWith_nil_right, List.zipWith_nil_right]
  | l :: ls, e :: es => by
      rw [List.zipWith_cons_cons, List.zipWith_cons_cons, zipWith_withSelectorOf_idem ls es]
      rfl

theorem map_objPath_zipWith :
    ∀ {ls es : List DestinationEntry},
      es.map DestinationEntry.objPath = ls.map DestinationEntry.objPath →
        (List.zipWith withSelectorOf ls es).map DestinationEntry.objPath =
          ls.map DestinationEntry.objPath
  | [], _, _ => by rw [List.zipWith_nil_left]
  | _ :: _, [], h => by cases h
  | l :: ls, e :: es, h => by
      obtain ⟨hpath, hpaths⟩ := List.cons.inj h
      rw [List.zipWith_cons_cons, List.map_cons, List.map_cons, map_objPath_zipWith hpaths, ← hpath]
      rfl

theorem afterReload_self (s : ManagerState) : afterReload s s = s := by
  rw [afterReload, zipWith_withSelectorOf_self]

theorem afterReload_idem (loaded live : ManagerState) :
    afterReload loaded (afterReload loaded live) = afterReload loaded live := by
  simp only [afterReload, zipWith_withSelectorOf_idem]

theorem afterReload_assignProperty (loaded live : ManagerState) (req : SetRequest) :
    afterReload loaded (assignProperty live req) = assignProperty (afterReload loaded live) req := by
  cases req <;> rfl

theorem setAccepted_afterReload (env : SetterEnv) (loaded live : ManagerState) (req : SetRequest) :
    setAccepted env (afterReload loaded live) req = setAccepted env live req := by
  cases req <;> rfl

theorem fits_afterReload (loaded live : ManagerState) (req : SetRequest) :
    req.fits (afterReload loaded live) = req.fits live := by
  cases req <;> rfl

/-! ## What the file stands for -/

/-- The file loads as the live objects, the properties that are not written back as
they have been loaded; the selector table is an array of numbered rows. -/
structure Outlives (loaded : ManagerState) (t : Json) (live : ManagerState) : Prop where
  represents : Represents t (afterReload loaded live)
  selectorTable : IsTable (t.find? "DestinationSelector")
  numbered : ∃ ns, NumberedTable t ns
  paths : live.destinationSelector.map DestinationEntry.objPath =
    loaded.destinationSelector.map DestinationEntry.objPath

theorem selectorRows_obj (ms : List (String × Json)) :
    selectorRows (.obj ms) = ((ms.lookup "DestinationSelector").getD .null).items := rfl

section Tables

variable {ms : List (String × Json)} {s : ManagerState}

/-- The callback of an accepted Set writes one of the three tables. -/
theorem fileAfter_rewritten {env : SetterEnv} {req : SetRequest} (h : Represents (.obj ms) s)
    (hacc : setAccepted env s req) (hfits : req.fits s) :
    ∃ key ys, key ≠ "DestinationSelector" ∧ fileAfter (.obj ms) req = rewritten req key ys ms := by
  have hl := parsePefConfToDbus_eq_ok.mp h.loads
  cases req with
  | eventFilter b c value =>
      simp only [setAccepted, Bool.and_eq_true] at hacc
      obtain ⟨xs, hxs, hobj, -, -⟩ := table_rewritten (by decide) h.wf h.eventFilterTable
        onObjects_readFilterRow (fun _ => by simp [FilterColumn.json, Json.WF])
        (fun x hr => readFilterRow_setMember c x hr) hl.eventFilterTable hacc.1 (fits_of_some hfits)
      exact ⟨"EventFilterTable", _, by decide,
        congrArg (MonitorOutcome.file _) (handleSignal_eventFilter hxs hobj)⟩
  | alertPolicy b c value =>
      simp only [setAccepted, Bool.and_eq_true] at hacc
      obtain ⟨xs, hxs, hobj, -, -⟩ := table_rewritten (by decide) h.wf h.alertPolicyTable
        onObjects_readPolicyRow c.wf_json (fun x hr => readPolicyRow_setMember c x hr)
        hl.alertPolicyTable hacc.1 (fits_of_some hfits)
      exact ⟨"AlertPolicyTable", _, by decide,
        congrArg (MonitorOutcome.file _) (handleSignal_alertPolicy hxs hobj)⟩
  | pefConfInfo c value =>
      obtain ⟨e, he⟩ := h.pefConfInfo
      have he : ms.lookup "PEFConfInfo" = some (.arr [e]) := he
      obtain ⟨r, hr, -⟩ := settings_of_represents h he
      exact ⟨"PEFConfInfo", _, by decide, congrArg (MonitorOutcome.file _)
        (handleSignal_pefConfInfo he (onObjects_readConfRow e r hr))⟩

theorem selectorRows_rewritten {req : SetRequest} {key : String} {ys : List Json}
    (hnd : (ms.map Prod.fst).Nodup) (hkey : key ≠ "DestinationSelector")
    (h : IsTable (ms.lookup "DestinationSelector")) :
    selectorRows (rewritten req key ys ms) = selectorRows (.obj ms) := by
  have hassign : (Members.assign key (.arr ys) ms).lookup "DestinationSelector" =
      ms.lookup "DestinationSelector" := Members.lookup_assign_ne hkey _ _
  have hmerge := Json.lookup_mergeMembers "DestinationSelector"
    (Members.assign key (.arr ys) ms) [] (Members.nodup_assign hnd)
  rw [hassign] at hmerge
  cases req with
  | eventFilter b c value =>
      rw [rewritten, selectorRows_obj, selectorRows_obj]
      exact congrArg (fun o : Option Json => (o.getD .null).items) hassign
  | _ =>
      rw [rewritten, selectorRows_obj, selectorRows_obj]
      refine (congrArg (fun o : Option Json => (o.getD .null).items) hmerge).trans ?_
      rcases h with h | h | ⟨xs, h⟩
      · rw [h]; rfl
      · rw [h]; rfl
      · simp only [h, Json.mergeSlot, Json.mergePatch, Option.getD_some]

end Tables

theorem survives_table {loaded live : ManagerState} {t : Json} {env : SetterEnv} {req : SetRequest}
    (h : Outlives loaded t live) (hacc : setAccepted env live req) (hfits : req.fits live) :
    Outlives loaded (fileAfter t req) (assignProperty live req) := by
  obtain ⟨ns, hns⟩ := h.numbered
  obtain ⟨ms, rfl⟩ := hns.isObj
  have hacc' : setAccepted env (afterReload loaded live) req := by
    rwa [setAccepted_afterReload]
  have hfits' : req.fits (afterReload loaded live) := by
    rwa [fits_afterReload]
  obtain ⟨key, ys, hkey, hfile⟩ := fileAfter_rewritten h.represents hacc' hfits'
  have hrows : selectorRows (rewritten req key ys ms) = selectorRows (.obj ms) :=
    selectorRows_rewritten h.represents.wf.nodup hkey h.selectorTable
  exact
    { represents := by
        rw [afterReload_assignProperty]
        exact fileAfter_represents h.represents hacc' hfits'
      selectorTable := by
        rw [hfile]
        exact isTable_rewritten h.represents.wf.nodup h.selectorTable
      numbered := by
        refine ⟨ns, ?_⟩
        rw [hfile]
        exact
          { isObj := ⟨_, rfl⟩
            numbered := hrows ▸ hns.numbered
            nodup := hns.nodup
            nonneg := hns.nonneg }
      paths := by
        refine Eq.trans ?_ h.paths
        cases req <;> rfl }

section Selectors

variable {ms : List (String × Json)} {ns : List Int}

theorem selectorFileAfter_table (h : NumberedTable (.obj ms) ns)
    (ht : IsTable (ms.lookup "DestinationSelector")) (u : SelectorSet) :
    ∃ tbl, selectorFileAfter (.obj ms) u = .obj (Members.assign "DestinationSelector" tbl ms) ∧
      IsTable (some tbl) ∧ tbl.items = (selectorRows (.obj ms)).map
        (rowSet (findEntryNo u.objPath) u.property.name (.num u.value.toNat)) := by
  have hwrite : selectorWrite (findEntryNo u.objPath) u.property.name (.u8 u.value)
      (selectorRows (.obj ms)) = .ok _ := selectorWrite_numbered h.numbered h.nodup
  obtain ⟨tbl, htbl, htable, hitems⟩ : ∃ tbl,
      ((ms.lookup "DestinationSelector").getD .null).updateItems
        (selectorWrite (findEntryNo u.objPath) u.property.name (.u8 u.value)) = .ok tbl ∧
      IsTable (some tbl) ∧ tbl.items = (selectorRows (.obj ms)).map
        (rowSet (findEntryNo u.objPath) u.property.name (.num u.value.toNat)) := by
    rw [selectorRows_obj] at hwrite ⊢
    rcases ht with ht | ht | ⟨xs, ht⟩
    · rw [ht]
      exact ⟨.null, rfl, Or.inr (Or.inl rfl), rfl⟩
    · rw [ht]
      exact ⟨.null, rfl, Or.inr (Or.inl rfl), rfl⟩
    · rw [ht] at hwrite ⊢
      refine ⟨.arr _, ?_, Or.inr (Or.inr ⟨_, rfl⟩), rfl⟩
      rw [Option.getD_some, Json.updateItems]
      have hxs : selectorWrite (findEntryNo u.objPath) u.property.name (.u8 u.value) xs = .ok _ :=
        hwrite
      rw [hxs]
      rfl
  refine ⟨tbl, ?_, htable, hitems⟩
  have hwrites : selectorWrites (findEntryNo u.objPath) [(u.property.name, .u8 u.value)]
      ((ms.lookup "DestinationSelector").getD .null) = .ok tbl := by
    show ((((ms.lookup "DestinationSelector").getD .null).updateItems
      (selectorWrite (findEntryNo u.objPath) u.property.name (.u8 u.value))) >>= fun tbl =>
        selectorWrites (findEntryNo u.objPath) [] tbl) = _
    rw [htbl]
    rfl
  rw [selectorFileAfter, destinationSelectorMatcher, editSection_obj, hwrites]
  rfl

theorem wf_rowSet {e : Json} (he : e.WF) (entryVal : Int) (property : String) (x : U8) :
    (rowSet entryVal property (.num x.toNat) e).WF := by
  rw [rowSet]
  split
  · split
    · cases e with
      | obj ms => exact Json.WF.assign he property (by simp only [Json.WF])
      | _ => exact he
    · exact he
  · exact he

theorem wf_of_items {tbl : Json} (ht : IsTable (some tbl)) (h : ∀ e ∈ tbl.items, e.WF) : tbl.WF := by
  rcases ht with ht | ht | ⟨xs, ht⟩
  · cases ht
  · cases ht
    simp only [Json.WF]
  · cases ht
    simp only [Json.WF]
    exact Json.wfElems_iff.mpr h

theorem wf_selectorRows (hwf : (Json.obj ms).WF) (ht : IsTable (ms.lookup "DestinationSelector")) :
    ∀ e ∈ selectorRows (.obj ms), e.WF := by
  intro e he
  rw [selectorRows_obj] at he
  rcases ht with ht | ht | ⟨xs, ht⟩
  · rw [ht] at he
    exact absurd he List.not_mem_nil
  · rw [ht] at he
    exact absurd he List.not_mem_nil
  · have hxs := hwf.lookup ht
    simp only [Json.WF] at hxs
    rw [ht] at he
    exact Json.wfElems_iff.mp hxs e he

end Selectors

theorem survives_selector {loaded live : ManagerState} {t : Json} {u : SelectorSet}
    (h : Outlives loaded t live) (hacc : ∃ e ∈ live.destinationSelector, e.objPath = u.objPath) :
    Outlives loaded (selectorFileAfter t u)
      { live with destinationSelector := live.destinationSelector.map u.apply } := by
  obtain ⟨ns, hns⟩ := h.numbered
  obtain ⟨ms, rfl⟩ := hns.isObj
  obtain ⟨tbl, hfile, htable, hitems⟩ := selectorFileAfter_table hns h.selectorTable u
  have hloads := h.represents.loads
  have hpaths := map_objPath_zipWith h.paths
  -- the object of the Set comes from a row of the file
  obtain ⟨r₀, hr₀, hpath₀⟩ : ∃ r ∈ (parsePefConfToDbus (some (.obj ms))).1.destinationSelector,
      r.objPath = u.objPath := by
    obtain ⟨e, he, hpath⟩ := hacc
    have hmem : u.objPath ∈ (List.zipWith withSelectorOf loaded.destinationSelector
        live.destinationSelector).map DestinationEntry.objPath := by
      rw [hpaths, ← h.paths, ← hpath]
      exact List.mem_map_of_mem he
    obtain ⟨r, hr, hr'⟩ := List.mem_map.mp hmem
    rw [hloads]
    exact ⟨r, hr, hr'⟩
  obtain ⟨e₀, he₀, hread₀⟩ := row_of_destinationSelector hr₀
  have hother : ∀ {key : String}, "DestinationSelector" ≠ key →
      (Json.obj (Members.assign "DestinationSelector" tbl ms)).find? key =
        (Json.obj ms).find? key := fun hkey => Members.lookup_assign_ne hkey _ _
  have hself : (Members.assign "DestinationSelector" tbl ms).lookup "DestinationSelector" =
      some tbl := Members.lookup_assign_self _ _ _
  have hwf : tbl.WF := by
    refine wf_of_items htable fun e he => ?_
    rw [hitems] at he
    obtain ⟨e', he', rfl⟩ := List.mem_map.mp he
    exact wf_rowSet (wf_selectorRows h.represents.wf h.selectorTable e' he') _ _ _
  rw [hfile]
  exact
    { represents :=
        { wf := h.represents.wf.assign _ hwf
          loads := by
            rw [parsePefConfToDbus_map hitems
              (readDestination_rowSet hns he₀ hread₀ hpath₀), hloads]
            simp only [afterReload, List.map_zipWith, List.zipWith_map_right,
              reload_withSelectorOf]
          eventFilterTable := by
            rw [hother (by decide)]
            exact h.represents.eventFilterTable
          alertPolicyTable := by
            rw [hother (by decide)]
            exact h.represents.alertPolicyTable
          pefConfInfo := by
            rw [hother (by decide)]
            exact h.represents.pefConfInfo }
      selectorTable := by
        rw [Json.find?, hself]
        exact htable
      numbered := by
        refine ⟨ns, ⟨_, rfl⟩, ?_, hns.nodup, hns.nonneg⟩
        rw [selectorRows_obj, hself, Option.getD_some, hitems, Numbered, List.forall₂_map_left_iff]
        exact hns.numbered.imp fun e n hn => (rowNumber_rowSet u.property.name_ne _ _ e).trans hn
      paths := by
        refine Eq.trans ?_ h.paths
        rw [List.map_map]
        exact List.map_congr_left fun e _ => u.apply_objPath e }

/-- Handling the signal of any Set keeps the file in step. -/
theorem survives_fileAfter {loaded live : ManagerState} {t : Json} {u : ManagerSet}
    (h : Outlives loaded t live) (hacc : u.accepted live = true) :
    Outlives loaded (u.fileAfter t) (u.apply live) := by
  cases u with
  | table env req =>
      rw [ManagerSet.accepted, Bool.and_eq_true] at hacc
      exact survives_table h hacc.1 hacc.2
  | selector u =>
      obtain ⟨e, he, hpath⟩ := List.any_eq_true.mp hacc
      exact survives_selector h ⟨e, he, of_decide_eq_true hpath⟩
  | alertString b c value => exact ⟨h.represents, h.selectorTable, h.numbered, h.paths⟩
  | systemGUID iface byte x => exact ⟨h.represents, h.selectorTable, h.numbered, h.paths⟩
  | oemParam iface byte x => exact ⟨h.represents, h.selectorTable, h.numbered, h.paths⟩

/-! ## Runs with restarts -/

/-- The file written behind all the objects of a manager that has loaded them. -/
def managerPersistence (loaded : ManagerState) : WriteBehind ManagerState Json ManagerSet where
  represents t live := Outlives loaded t live
  accepts live u := u.accepted live
  unchanged live u := u.unchanged live
  update live u := u.apply live
  write t u := u.fileAfter t
  commutes := survives_fileAfter
  update_unchanged := ManagerSet.apply_unchanged

/-- A start of the manager. -/
def loadManager (t : Json) : ManagerState := (parsePefConfToDbus (some t)).1

/-- A Set, the delivery of a signal, or a restart. -/
abbrev managerStep (loaded : ManagerState) :=
  (managerPersistence loaded).nextOrRestart loadManager

/-- What a start loads is stood for by the file. -/
theorem survives_load {loaded live : ManagerState} {t : Json} (h : Outlives loaded t live) :
    Outlives loaded t (loadManager t) := by
  have hload : loadManager t = afterReload loaded live := congrArg Prod.fst h.represents.loads
  rw [hload]
  exact
    { represents := by
        rw [afterReload_idem]
        exact h.represents
      selectorTable := h.selectorTable
      numbered := h.numbered
      paths := map_objPath_zipWith h.paths }

theorem outlives_start {d : Json} {loaded : ManagerState} {ns : List Int}
    (h₀ : Represents d loaded) (hselectors : IsTable (d.find? "DestinationSelector"))
    (hnumbered : NumberedTable d ns) : Outlives loaded d loaded where
  represents := by
    rw [afterReload_self]
    exact h₀
  selectorTable := hselectors
  numbered := ⟨ns, hnumbered⟩
  paths := rfl

/-- From a file that loads completely, over any Sets, deliveries and restarts, with
signals pending or not: the file loads completely, and as what the objects were at
some point of the run, the properties that are not written back as they were in the
file at first.  Once no signal is pending that point is the present one. -/
theorem restarts_load_earlier_state {d : Json} {loaded : ManagerState} {ns : List Int}
    (h₀ : Represents d loaded) (hselectors : IsTable (d.find? "DestinationSelector"))
    (hnumbered : NumberedTable d ns) {es : List (WriteBehind.LifeEvent ManagerSet)}
    {s : WriteBehind.State ManagerState Json ManagerSet}
    (h : runFrom (managerStep loaded) ⟨loaded, [], d⟩ es = some s) :
    ∃ s₁, Reached (managerStep loaded) ⟨loaded, [], d⟩ es s₁ ∧
      parsePefConfToDbus (some s.store) = (afterReload loaded s₁.live, .ok ()) ∧
      (s.pending = [] → s₁.live = s.live) := by
  have hstart : (managerPersistence loaded).represents d loaded :=
    outlives_start h₀ hselectors hnumbered
  obtain ⟨x, ⟨s₁, hs₁, rfl⟩, hrep, hquiet⟩ :=
    WriteBehind.restarted_represents survives_load hstart h
  exact ⟨s₁, hs₁, hrep.represents.loads, hquiet⟩

/-- A filter row, an alert string and a destination selector. -/
def threeTablesFile : Json := .obj
  [("PEFConfInfo", .arr [.obj
      [("Version", .num 32), ("ActionSupported", .num 63), ("MaxEventTblEntry", .num 40),
       ("PEFControl", .num 1), ("PEFActionGblControl", .num 63), ("PEFStartupDly", .num 60),
       ("PEFAlertStartupDly", .num 60), ("LastBMCProcessedEventID", .num 0),
       ("LastSWProcessedEventID", .num 0), ("Subject", .str ""), ("Message", .str "")]]),
   ("EventFilterTable", .arr [.obj []]),
   ("AlertPolicyTable", .arr []),
   ("AlertStringTable", .arr [.obj []]),
   ("DestinationSelector", .arr [.obj
      [("LanDestination", .num 3), ("LanChannel", .num 1), ("DestinationType", .num 4)]])]

/-- The row is enabled and the signal handled; an alert string and a channel are set,
and the manager is restarted with both signals pending. -/
def restartRun (b : Bucket) : List (WriteBehind.LifeEvent ManagerSet) :=
  [.event (.set (.table ⟨none, fun _ => none⟩ (.eventFilter b .filterConfig [0x80])) true),
   .event .deliver,
   .event (.set (.alertString b .alertStringSet [5]) true),
   .event (.set (.selector (setEntry3 .lanChannel 2)) true),
   .restart]

theorem threeTablesFile_represents :
    Represents threeTablesFile (loadManager threeTablesFile) where
  wf := by simp [threeTablesFile, Json.WF, Json.wfMembers_iff, Json.wfElems_iff]
  loads := Prod.ext rfl rfl
  eventFilterTable := Or.inr (Or.inr ⟨_, rfl⟩)
  alertPolicyTable := Or.inr (Or.inr ⟨_, rfl⟩)
  pefConfInfo := ⟨_, rfl⟩

theorem threeTablesFile_numbered : NumberedTable threeTablesFile [3] where
  isObj := ⟨_, rfl⟩
  numbered := .cons rfl .nil
  nodup := by decide
  nonneg := by decide

/-- The row comes back enabled, the channel is lost. -/
theorem restarted_with_signals_pending :
    ∃ s s₁, runFrom (managerStep (loadManager threeTablesFile))
        ⟨loadManager threeTablesFile, [], threeTablesFile⟩ (restartRun 0) = some s ∧
      Reached (managerStep (loadManager threeTablesFile))
        ⟨loadManager threeTablesFile, [], threeTablesFile⟩ (restartRun 0) s₁ ∧
      parsePefConfToDbus (some s.store) =
        (afterReload (loadManager threeTablesFile) s₁.live, .ok ()) := by
  have hrun : runFrom (managerStep (loadManager threeTablesFile))
      ⟨loadManager threeTablesFile, [], threeTablesFile⟩ (restartRun 0) = some _ := rfl
  obtain ⟨s₁, hs₁, hloads, -⟩ := restarts_load_earlier_state threeTablesFile_represents
    (Or.inr (Or.inr ⟨_, rfl⟩)) threeTablesFile_numbered hrun
  exact ⟨_, s₁, hrun, hs₁, hloads⟩

end Pef
