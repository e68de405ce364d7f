/-
# `LanLive` — the two tables of destinations over Sets and restarts

A Set of a LAN property changes the object and, before it returns, the section of
the interface in the shared file; a restart makes the objects of the file again,
their arrays filled up.  `performPefAction` goes on with the objects, while
`getManagers` and `dispatchTestDestination` read the file for each alert and test.

    LanArrays.entry a i      what the two functions can read of a destination
    Mirrors s iface n i      the section says of it what the object says
    lanLifeStep s ev         an accepted Set on any interface, or a restart

A destination that is complete in the file at the start stays one destination
(`live_table_shown`), as long as no Set of its interface cuts an array off
in front of it.
-/
import PlatformEventFilter.LanTable

namespace Pef

/-! ## Entries -/

/-- The places of one destination in the arrays, `none` behind the end. -/
structure LanEntry where
  ipv4 : Option String
  ipv6 : Option String
  userName : Option String
  type : Option U8
  addressType : Option U8
  deriving DecidableEq, Repr

def LanArrays.entry (a : LanArrays) (i : Nat) : LanEntry where
  ipv4 := a.ipv4Arr[i]?
  ipv6 := a.ipv6Arr[i]?
  userName := a.userArr[i]?
  type := a.typeArr[i]?
  addressType := a.addressTypeArr[i]?

/-- An entry with its part of the property replaced. -/
def LanEntry.assign (x : LanEntry) (i : Nat) : LanSet → LanEntry
  | .ipv4 value => { x with ipv4 := value[i]? }
  | .ipv6 value => { x with ipv6 := value[i]? }
  | .userName value => { x with userName := value[i]? }
  | .type value => { x with type := value[i]? }
  | .addressType value => { x with addressType := value[i]? }
  | _ => x

theorem LanArrays.entry_assign (a : LanArrays) (req : LanSet) (i : Nat) :
    (a.assign req).entry i = (a.entry i).assign i req := by
  cases req <;> rfl

theorem LanArrays.rows_congr {a a' : LanArrays} {i : Nat} (h : a.entry i = a'.entry i) :
    a.managerRow i = a'.managerRow i ∧ a.testRow i = a'.testRow i := by
  simp only [LanArrays.entry, LanEntry.mk.injEq] at h
  obtain ⟨h4, h6, huser, htype, haddressType⟩ := h
  constructor
  · have haddress : addressAt a'.addressTypeArr[i]? a.ipv4Arr a.ipv6Arr i =
        addressAt a'.addressTypeArr[i]? a'.ipv4Arr a'.ipv6Arr i :=
      (addressAt_eq_iff _).mpr ⟨fun _ => h4, fun _ => h6⟩
    simp only [LanArrays.managerRow, Pef.managerRow, huser, htype, haddressType, haddress]
  · simp only [LanArrays.testRow, Pef.testRow, huser, htype]

/-- The length of the array that is set. -/
def LanSet.size? : LanSet → Option Nat
  | .communityString _ => none
  | .ipv4 value => some value.length
  | .ipv6 value => some value.length
  | .userName value => some value.length
  | .type value => some value.length
  | .timeout value => some value.length
  | .retries value => some value.length
  | .addressType value => some value.length

/-- The array that is set goes up to the index, or the index is none of a destination. -/
def LanSet.Reaches (req : LanSet) (destCount i : Nat) : Prop :=
  ∀ size, req.size? = some size → i < size ∨ destCount ≤ i

/-- Filling up does not show in the entry. -/
def LanArrays.FullAt (a : LanArrays) (n : U8) (i : Nat) : Prop := a.entry i = (a.pad n).entry i

theorem LanArrays.fullAt_assign {a : LanArrays} {n : U8} {i : Nat} {req : LanSet}
    (h : a.FullAt n i) (hreq : req.Reaches n.toNat i) : (a.assign req).FullAt n i := by
  simp only [FullAt, entry, pad, LanEntry.mk.injEq, getElem?_ensureSized_iff] at h ⊢
  obtain ⟨h4, h6, huser, htype, haddressType⟩ := h
  cases req with
  | communityString value => exact ⟨h4, h6, huser, htype, haddressType⟩
  | ipv4 value => exact ⟨hreq _ rfl, h6, huser, htype, haddressType⟩
  | ipv6 value => exact ⟨h4, hreq _ rfl, huser, htype, haddressType⟩
  | userName value => exact ⟨h4, h6, hreq _ rfl, htype, haddressType⟩
  | type value => exact ⟨h4, h6, huser, hreq _ rfl, haddressType⟩
  | timeout value => exact ⟨h4, h6, huser, htype, haddressType⟩
  | retries value => exact ⟨h4, h6, huser, htype, haddressType⟩
  | addressType value => exact ⟨h4, h6, huser, htype, hreq _ rfl⟩

/-! ## One table of live objects -/

/-- The properties of the live objects. -/
def LanSystem.params (s : LanSystem) : List (String × Option LanParam) :=
  s.objects.map fun p => (p.1, p.2.map LanObject.param)

/-- The properties of the object of an interface. -/
def LanSystem.param (s : LanSystem) (iface : String) : Option LanParam :=
  (s.object iface).map LanObject.param

theorem exposedArrays_params (s : LanSystem) (iface : String) :
    exposedArrays s.params iface = (s.param iface).bind LanParam.arrays := by
  have hlookup : ∀ objects : List (String × Option LanObject),
      (objects.map fun p => (p.1, p.2.map LanObject.param)).lookup iface =
        (objects.lookup iface).map fun o => o.map LanObject.param := by
    intro objects
    induction objects with
    | nil => rfl
    | cons p objects ih =>
        rw [List.map_cons, Members.lookup_cons, Members.lookup_cons, ih]
        split <;> rfl
  rw [exposedArrays, LanSystem.params, hlookup, LanSystem.param, LanSystem.object]
  rcases s.objects.lookup iface with _ | _ | o <;> rfl

theorem param_start (f : LanFiles) (objects : List (String × Option LanParam)) (iface : String) :
    (LanSystem.start f objects).param iface = (objects.lookup iface).join := by
  unfold LanSystem.param LanSystem.object LanSystem.start
  induction objects with
  | nil => rfl
  | cons p objects ih =>
      rw [List.map_cons, Members.lookup_cons, Members.lookup_cons]
      split
      · rcases p with ⟨name, _ | param⟩ <;> rfl
      · exact ih

theorem lookup_setObject (ifaceName iface : String) (o : LanObject) :
    ∀ objects : List (String × Option LanObject),
      (setObject objects ifaceName o).lookup iface =
        if ifaceName = iface then (objects.lookup iface).map fun _ => some o
        else objects.lookup iface
  | [] => by
      show none = _
      split <;> rfl
  | p :: objects => by
      have ih := lookup_setObject ifaceName iface o objects
      have hname : (if p.1 = ifaceName then (p.1, some o) else p).1 = p.1 := by
        split <;> rfl
      rw [setObject] at ih
      rw [setObject, List.map_cons, Members.lookup_cons, Members.lookup_cons, ih, hname]
      by_cases hp : p.1 = iface
      · rw [if_pos hp, if_pos hp, hp]
        by_cases hi : ifaceName = iface
        · rw [if_pos hi, if_pos hi.symm]
          rfl
        · rw [if_neg hi, if_neg (Ne.symm hi)]
      · rw [if_neg hp, if_neg hp]

/-! ## Sets and restarts -/

/-- A Set of a property of some interface, or a restart. -/
inductive LanLifeEvent where
  | set (e : LanEvent)
  | restart

/-- An accepted Set, or a restart that loads the files. -/
def lanLifeStep (s : LanSystem) : LanLifeEvent → Option LanSystem
  | .set e => setLan s e
  | .restart => match parseLanConf s.files with
      | .ok objects => some (.start s.files objects)
      | .error _ => none

/-- The section of the interface is in the shared file, and at the index it says
what the object says, also when both are filled up. -/
structure Mirrors (s : LanSystem) (iface : String) (destCount : Nat) (i : Nat) : Prop where
  names : lanInterfaces s.files = .ok (s.objects.map Prod.fst)
  loadable : Loadable s.files iface
  shared : (sharedSection s.files.shared iface).isSome = true
  plain : (arrayAt (lanConfig s.files iface) "AddressType").isSome = true
  object : ∃ n raw p a, n.toNat = destCount ∧ ArraysRead (lanConfig s.files iface) n raw ∧
    s.param iface = some p ∧ p.arrays = some a ∧ raw.entry i = a.entry i ∧ raw.FullAt n i ∧
    (lanConfig s.files iface).value "CommunityString" Json.getString "" = .ok p.CommunityString

theorem readTrapConfig_of_arrays {cfg : Json} {n : U8} {raw : LanArrays} {community : String}
    (hflat : hasFlatArrays cfg = true) (hplain : (arrayAt cfg "AddressType").isSome = true)
    (hraw : ArraysRead cfg n raw)
    (hcommunity : cfg.value "CommunityString" Json.getString "" = .ok community) :
    readTrapConfig cfg = .ok ⟨raw.typeArr, raw.addressTypeArr, raw.ipv4Arr, raw.ipv6Arr,
      raw.userArr, community⟩ := by
  obtain ⟨xs, hxs⟩ := Option.isSome_iff_exists.mp hplain
  have haddressType : ((arrayAt cfg "AddressType").getD []).mapM getByte =
      .ok raw.addressTypeArr := by
    rw [hxs, Option.getD_some, ← readBytes_eq hxs]
    exact hraw.addressTypeArr
  unfold readTrapConfig
  rw [typeArr_of_read hflat hraw, haddressType, hraw.ipv4Arr, hraw.ipv6Arr, hraw.userArr,
    hcommunity]
  rfl

/-- The community string in the file. -/
def fileCommunity (shared : Option Json) (iface : String) : Option String :=
  (fileTrapConfig shared iface).map TrapConfig.community

/-- The file shows the destination and the community string of the live object. -/
structure ShowsLive (s : LanSystem) (iface : String) (i : Nat) : Prop where
  rows : OneTable s.files s.params iface i
  community : fileCommunity s.files.shared iface = (s.param iface).map LanParam.CommunityString

theorem Mirrors.showsLive {s : LanSystem} {iface : String} {destCount i : Nat}
    (h : Mirrors s iface destCount i) : ShowsLive s iface i := by
  obtain ⟨n, raw, p, a, -, hraw, hp, ha, hentry, -, hcommunity⟩ := h.object
  obtain ⟨data, hdata⟩ := Option.isSome_iff_exists.mp h.shared
  have hflat := h.loadable.2.flat
  have htrap := readTrapConfig_of_arrays hflat h.plain hraw hcommunity
  have hfile : fileTrapConfig s.files.shared iface = some ⟨raw.typeArr, raw.addressTypeArr,
      raw.ipv4Arr, raw.ipv6Arr, raw.userArr, p.CommunityString⟩ := by
    rw [fileTrapConfig, fileConfig_of_shared hdata hflat, Option.bind_some, htrap]
    rfl
  obtain ⟨hmanager, htest⟩ := LanArrays.rows_congr hentry
  constructor
  · unfold OneTable fileManagerRow fileTestRow
    rw [hfile, fileConfig_of_shared hdata hflat, exposedArrays_params, hp]
    simp only [Option.bind_some, ha, testRow_of_trapConfig htrap]
    exact ⟨hmanager, htest⟩
  · rw [fileCommunity, hfile, hp]
    rfl

theorem mirrors_start {f : LanFiles} {objects : List (String × Option LanParam)}
    (hparse : parseLanConf f = .ok objects) {iface : String} {destCount i : Nat} {n : U8}
    {raw : LanArrays} (hload : Loadable f iface)
    (hshared : (sharedSection f.shared iface).isSome = true)
    (hplain : (arrayAt (lanConfig f iface) "AddressType").isSome = true) (hn : n.toNat = destCount)
    (hraw : ArraysRead (lanConfig f iface) n raw) (hfull : raw.FullAt n i) :
    Mirrors (.start f objects) iface destCount i := by
  obtain ⟨hnames, hall⟩ := parseLanConf_eq_ok.mp hparse
  obtain ⟨a, ha⟩ := Option.isSome_iff_exists.mp (exposedArrays_isSome hparse hload)
  obtain ⟨p, hp, harrays⟩ := Option.bind_eq_some_iff.mp ha
  have hread : readLanParam (lanConfig f iface) = .ok (some p) :=
    hall _ (Members.mem_of_lookup (Option.join_eq_some_iff.mp hp))
  have hpad : a = raw.pad n := by
    have hread' := (readLanParam_eq_some.mp hread).2.2.trans (congrArg Except.ok harrays)
    have hraw' := arraysOf_eq_some.mpr ⟨hload.2.flat, n, raw, hraw, rfl⟩
    cases hread'.symm.trans hraw'
    rfl
  refine ⟨?_, hload, hshared, hplain, n, raw, p, a, hn, hraw, ?_, harrays, ?_, hfull,
    (readLanParam_eq_some.mp hread).1⟩
  · simp only [LanSystem.start, List.map_map]
    exact hnames
  · rw [param_start]
    exact hp
  · rw [hpad]
    exact hfull

theorem arraysReadable_put {ms : List (String × Json)} (h : ArraysReadable (.obj ms))
    (req : LanSet) : ArraysReadable (.obj (Members.assign req.propName req.json ms)) := by
  obtain ⟨hflat, ⟨community, hcommunity⟩, n, raw, hraw⟩ := h
  refine ⟨hasFlatArrays_put req hflat, ?_, n, _, arraysRead_put hraw req⟩
  cases req with
  | communityString value =>
      refine ⟨value, ?_⟩
      simp only [LanSet.propName, LanSet.json, Json.value, Members.lookup_assign_self,
        Json.getString]
  | _ => exact ⟨community, (value_assign_ne (by simp [LanSet.propName]) _ _ _).trans hcommunity⟩

theorem community_put {ms : List (String × Json)} {p : LanParam}
    (h : (Json.obj ms).value "CommunityString" Json.getString "" = .ok p.CommunityString)
    (req : LanSet) :
    (Json.obj (Members.assign req.propName req.json ms)).value "CommunityString" Json.getString "" =
      .ok (p.assign req).CommunityString := by
  cases req with
  | communityString value => simp only [LanSet.propName, LanSet.json, Json.value,
      Members.lookup_assign_self, Json.getString, LanParam.assign]
  | _ => exact (value_assign_ne (by simp [LanSet.propName]) _ _ _).trans h

theorem arrays_assign_param {p : LanParam} {a : LanArrays} (h : p.arrays = some a) (req : LanSet) :
    (p.assign req).arrays = some (a.assign req) := by
  cases req with
  | communityString value => exact h
  | _ => simp only [LanParam.assign, h, Option.map_some]

theorem param_set {s : LanSystem} {e : LanEvent} {o : LanObject}
    (ho : s.object e.ifaceName = some o) (files : LanFiles) (iface : String) :
    LanSystem.param ⟨files, setObject s.objects e.ifaceName (o.assign e.req)⟩ iface =
      if e.ifaceName = iface then some (o.param.assign e.req) else s.param iface := by
  simp only [LanSystem.param, LanSystem.object, lookup_setObject]
  by_cases hi : e.ifaceName = iface
  · subst hi
    rw [if_pos rfl, if_pos rfl, Option.join_eq_some_iff.mp ho]
    rfl
  · rw [if_neg hi, if_neg hi]

/-- A Set that reaches the index keeps the section and the object in step. -/
theorem mirrors_set {s s' : LanSystem} {e : LanEvent} {iface : String} {destCount i : Nat}
    (h : Mirrors s iface destCount i) (hstep : setLan s e = some s')
    (hreach : e.ifaceName = iface → e.req.Reaches destCount i) : Mirrors s' iface destCount i := by
  obtain ⟨o, shared, ho, -, hshared, rfl⟩ := setLan_eq_some hstep
  obtain ⟨n, raw, p, a, rfl, hraw, hp, ha, hentry, hfull, hcommunity⟩ := h.object
  obtain ⟨⟨ifaces, hifaces, hmem⟩, hsection⟩ := h.loadable
  have hparam := param_set ho { s.files with shared := some shared } iface
  have hiface : e.ifaceName ≠ "Interfaces" := by
    intro hname
    have hobject := Members.mem_of_lookup (Option.join_eq_some_iff.mp ho)
    have heth : isEthInterfaceName e.ifaceName = true :=
      eth_of_mem_lanInterfaces h.names _ (List.mem_map_of_mem hobject)
    rw [hname] at heth
    exact absurd heth (by decide)
  have hnames : lanInterfaces { s.files with shared := some shared } =
      .ok ((setObject s.objects e.ifaceName (o.assign e.req)).map Prod.fst) := by
    refine h.names.trans (congrArg Except.ok ?_)
    rw [setObject, List.map_map]
    refine List.map_congr_left fun p _ => ?_
    show p.1 = (if p.1 = e.ifaceName then (p.1, some (o.assign e.req)) else p).1
    split <;> rfl
  obtain ⟨hothers, cfg', hcfg', hput⟩ := updateLanParamConfigValue_eq_ok hiface hshared
  by_cases hi : e.ifaceName = iface
  · -- the property is put into the section that is there
    subst hi
    rw [if_pos rfl] at hparam
    have hpo : s.param e.ifaceName = some o.param := by
      rw [LanSystem.param, ho]
      rfl
    cases hp.symm.trans hpo
    obtain ⟨data, hdata⟩ := Option.isSome_iff_exists.mp h.shared
    have hold := lanConfig_of_shared hdata
    obtain ⟨ms, hms⟩ := obj_of_value_eq_ok hraw.destCount
    rw [put_getD, hdata, ← hold, hms] at hput
    cases hput
    have hplain := h.plain
    rw [hms] at hraw hsection hcommunity hplain
    have hnew : lanConfig { s.files with shared := some shared } e.ifaceName =
        .obj (Members.assign e.req.propName e.req.json ms) := lanConfig_of_config hcfg'
    obtain ⟨data', hdata', -⟩ := Option.bind_eq_some_iff.mp hcfg'
    exact
      { names := hnames
        loadable := ⟨⟨ifaces, hifaces, hmem⟩, hnew ▸ arraysReadable_put hsection e.req⟩
        shared := Option.isSome_of_eq_some hdata'
        plain := hnew ▸ isSome_arrayAt_put (by decide) hplain
        object := ⟨n, raw.assign e.req, _, a.assign e.req, rfl, hnew ▸ arraysRead_put hraw e.req,
          hparam, arrays_assign_param ha e.req,
          by rw [LanArrays.entry_assign, LanArrays.entry_assign, hentry],
          LanArrays.fullAt_assign hfull (hreach rfl), hnew ▸ community_put hcommunity e.req⟩ }
  · -- the section of another interface
    rw [if_neg hi] at hparam
    have hsame := hothers iface (Ne.symm hi)
    have hcfg := lanConfig_congr hsame
    exact
      { names := hnames
        loadable := ⟨⟨ifaces, hifaces, hmem⟩, hcfg ▸ hsection⟩
        shared := hsame ▸ h.shared
        plain := hcfg ▸ h.plain
        object := ⟨n, raw, p, a, rfl, hcfg ▸ hraw, hparam.trans hp, ha, hentry, hfull,
          hcfg ▸ hcommunity⟩ }

theorem mirrors_restart {s : LanSystem} {objects : List (String × Option LanParam)} {iface : String}
    {destCount i : Nat} (h : Mirrors s iface destCount i)
    (hparse : parseLanConf s.files = .ok objects) :
    Mirrors (.start s.files objects) iface destCount i := by
  obtain ⟨n, raw, p, a, hn, hraw, -, -, -, hfull, -⟩ := h.object
  exact mirrors_start hparse h.loadable h.shared h.plain hn hraw hfull

theorem mirrors_lanLifeStep {s s' : LanSystem} {ev : LanLifeEvent} {iface : String}
    {destCount i : Nat} (h : Mirrors s iface destCount i) (hstep : lanLifeStep s ev = some s')
    (hreach : ∀ e, ev = .set e → e.ifaceName = iface → e.req.Reaches destCount i) :
    Mirrors s' iface destCount i := by
  cases ev with
  | set e => exact mirrors_set h hstep (hreach e rfl)
  | restart =>
      simp only [lanLifeStep] at hstep
      split at hstep
      · next objects hparse =>
          cases hstep
          exact mirrors_restart h hparse
      · cases hstep

/-- The members that make up an entry are arrays that go up to the index, or it is
the index of no destination. -/
def EntryComplete (cfg : Json) (i : Nat) : Prop :=
  (arrayAt cfg "AddressType").isSome = true ∧
    ∀ key ∈ ["IPv4", "IPv6", "UserName", "Type", "AddressType"], Unpadded cfg key i

theorem fullAt_of_entryComplete {cfg : Json} {n : U8} {raw : LanArrays} {i : Nat}
    (hload : ArraysReadable cfg) (hraw : ArraysRead cfg n raw) (h : EntryComplete cfg i) :
    raw.FullAt n i := by
  obtain ⟨hplain, hunpadded⟩ := h
  obtain ⟨xs, hxs⟩ := Option.isSome_iff_exists.mp hplain
  have haddressType : ((arrayAt cfg "AddressType").getD []).mapM getByte =
      .ok raw.addressTypeArr := by
    rw [hxs, Option.getD_some, ← readBytes_eq hxs]
    exact hraw.addressTypeArr
  simp only [LanArrays.FullAt, LanArrays.entry, LanArrays.pad, LanEntry.mk.injEq]
  exact ⟨(unpadded_iff hraw.destCount hraw.ipv4Arr _ i).mpr (hunpadded _ (by decide)),
    (unpadded_iff hraw.destCount hraw.ipv6Arr _ i).mpr (hunpadded _ (by decide)),
    (unpadded_iff hraw.destCount hraw.userArr _ i).mpr (hunpadded _ (by decide)),
    (unpadded_iff hraw.destCount (typeArr_of_read hload.flat hraw) _ i).mpr
      (hunpadded _ (by decide)),
    (unpadded_iff hraw.destCount haddressType _ i).mpr (hunpadded _ (by decide))⟩

section Runs

variable {f : LanFiles} {objects : List (String × Option LanParam)} {iface : String} {i : Nat}
  {es : List LanLifeEvent} {s : LanSystem}

theorem mirrors_reached (hparse : parseLanConf f = .ok objects) (hload : Loadable f iface)
    (hshared : (sharedSection f.shared iface).isSome = true)
    (hentry : EntryComplete (lanConfig f iface) i)
    (hreach : ∀ e, .set e ∈ es → e.ifaceName = iface →
      e.req.Reaches (destCountOf (lanConfig f iface)) i)
    (h : Reached lanLifeStep (.start f objects) es s) :
    Mirrors s iface (destCountOf (lanConfig f iface)) i := by
  obtain ⟨n, raw, hraw⟩ := hload.2.arrays
  have hn : n.toNat = destCountOf (lanConfig f iface) := by
    rw [destCountOf, hraw.destCount]
  have hstart := mirrors_start hparse hload hshared hentry.1 hn hraw
    (fullAt_of_entryComplete hload.2 hraw hentry)
  refine Reached.induct (P := fun s => Mirrors s iface (destCountOf (lanConfig f iface)) i) hstart
    (fun s ev s' hoccurs hs => ?_) h
  obtain ⟨pre, post, rfl, -, hstep⟩ := hoccurs
  refine mirrors_lanLifeStep hs hstep fun e he hi => ?_
  subst he
  exact hreach e (List.mem_append_right _ List.mem_cons_self) hi

/-- From files with the section of the interface in the shared file, its entry at
the index complete: whatever is set on any of the interfaces, and however often the
manager is restarted, the file shows the destination of the live object, as long as
the Sets of this interface do not end in front of the index. -/
theorem live_table_shown (hparse : parseLanConf f = .ok objects) (hload : Loadable f iface)
    (hshared : (sharedSection f.shared iface).isSome = true)
    (hentry : EntryComplete (lanConfig f iface) i)
    (hreach : ∀ e, .set e ∈ es → e.ifaceName = iface →
      e.req.Reaches (destCountOf (lanConfig f iface)) i)
    (h : Reached lanLifeStep (.start f objects) es s) : ShowsLive s iface i :=
  (mirrors_reached hparse hload hshared hentry hreach h).showsLive

end Runs

/-- The type set, a restart, and another type. -/
def typeSetTwice : List LanLifeEvent :=
  [.set sampleSet, .restart, .set ⟨"eth0", adminOnly.replies, .type [1]⟩]

theorem type_shown_after_restart :
    ∃ s, runFrom lanLifeStep (.start (sampleFiles (some (.obj [("eth0", sampleConfig)])))
        [("eth0", some sampleParam)]) typeSetTwice = some s ∧
      ShowsLive s "eth0" 0 := by
  have hparse : parseLanConf (sampleFiles (some (.obj [("eth0", sampleConfig)]))) =
      .ok [("eth0", some sampleParam)] := rfl
  have hexposed : exposedArrays [("eth0", some sampleParam)] "eth0" = sampleParam.arrays := rfl
  have hload := (exposedArrays_of_load hparse hexposed).1
  have hentry : EntryComplete (lanConfig (sampleFiles (some (.obj [("eth0", sampleConfig)]))) "eth0")
      0 := by
    refine ⟨rfl, fun key hkey => .inl ?_⟩
    revert key
    decide
  have hreach : ∀ e, .set e ∈ typeSetTwice → e.ifaceName = "eth0" → e.req.Reaches
      (destCountOf (lanConfig (sampleFiles (some (.obj [("eth0", sampleConfig)]))) "eth0")) 0 := by
    intro e he _ size hsize
    refine .inl ?_
    simp only [typeSetTwice, List.mem_cons, LanLifeEvent.set.injEq, reduceCtorEq, List.not_mem_nil,
      or_false, false_or] at he
    rcases he with rfl | rfl
    · cases hsize
      decide
    · cases hsize
      decide
  exact ⟨_, rfl, live_table_shown hparse hload rfl hentry hreach (.last rfl)⟩

end Pef
