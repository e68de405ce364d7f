/-
# `Destination` — three conversions of a destination selector

A selector is counted from 1, the arrays of a LAN object from 0.

    performPefAction          s < n, then s - 1
    getManagers               s - 1, then below n
    dispatchTestDestination   s ≠ 0, then s - 1, then below n

The first tests before it subtracts.  It therefore skips the last destination
of every array, and lets the selector 0 through, which becomes the largest
`size_t`.  The other two go on with what the arrays have at the index that the
selector means (`getManagers_selects`, `dispatchTestDestination_selects`), and
`selectorAgrees_iff` says that nothing else is wrong.
-/
import PlatformEventFilter.TestDestination

namespace Pef

/-! ## What a selector means -/

/-- The index of a selector that is counted from 1. -/
def selected (s : U8) (n : Nat) : Option Nat :=
  if 1 ≤ s.toNat ∧ s.toNat ≤ n then some (s.toNat - 1) else none

/-- The destination at an index; a mail destination needs a user. -/
def destinationAt (types : List U8) (users : Option (List String)) (i : Nat) :
    Option (U8 × String) :=
  match types[i]? with
  | none => none
  | some t => if t = 3 ∧ cellAt users "" i = "" then none else some (t, cellAt users "" i)

/-- The LAN object of a policy replies with these types and users. -/
structure LanReplies (env : Env) (site : Site) (ethMap : EthChannelMap)
    (policy : AlertPolicyTbl) (types : List U8) (users : Option (List String)) : Prop where
  iface : getInterfaceNameForChannel policy.ChannelNo ethMap ≠ ""
  replies : ∃ m : PropertyMap,
    env (.lanParam site (lanObjPath (getInterfaceNameForChannel policy.ChannelNo ethMap))) =
      some m ∧
    m.lookup "Type" = some (.u8s types) ∧ m.lookup "userName" = users.map Variant.strs

/-- The channel has an interface with a section in the shared file, which is read as
this. -/
structure SectionReplies (env : SnmpEnv) (channelNo : U8) (cfg : TrapConfig) : Prop where
  bus : env .newDefaultBus = some ()
  reads : ∃ iface, (ethChannels (env .channelInterfaceMap)).lookup channelNo = some iface ∧
    fileTrapConfig (env .lanParamConfFile) iface = some cfg

/-- All three functions take the selector `s` on arrays of length `n` to its index, and
none reads an array outside its bounds. -/
structure SelectorAgrees (s : U8) (n : Nat) : Prop where
  destination : ∀ (env : Env) (site : Site) (ethMap : EthChannelMap) (policy : AlertPolicyTbl)
    (types : List U8) (users : Option (List String)),
    LanReplies env site ethMap policy types users →
    policy.DestinationSel = s → types.length = n →
      (destinationFor site ethMap policy).outcome env =
        .ok ((selected s n).bind (destinationAt types users)) ∧
      ∀ i, Call.outOfBounds site i ∉ (destinationFor site ethMap policy).asked env
  /-- `getManagers` goes on with the row at that index, or with none. -/
  managers : ∀ (env : SnmpEnv) (channelNo : U8) (cfg : TrapConfig),
    SectionReplies env channelNo cfg → cfg.type.length = n →
      (getManagers (some channelNo) (some s)).outcome env =
          (managersOfPeer cfg ((selected s n).bind cfg.peerAt)).outcome env ∧
        (getManagers (some channelNo) (some s)).asked env =
          [.newDefaultBus, .channelInterfaceMap, .lanParamConfFile] ++
            (managersOfPeer cfg ((selected s n).bind cfg.peerAt)).asked env
  /-- `dispatchTestDestination` goes on with the row at that index, or with none. -/
  test : ∀ (env : SnmpEnv) (channelNo : U8) (cfg : Json) (destinations : List Json),
    Configured env channelNo cfg destinations → destinations.length = n →
      (dispatchTestDestination channelNo s).outcome env =
          (dispatchRow channelNo s ((selected s n).bind (testRowOf cfg))).outcome env ∧
        ∃ lookups, (∀ q ∈ lookups, q = .testChannelMap ∨ q = .testLanParamConfFile) ∧
          (dispatchTestDestination channelNo s).asked env =
            lookups ++ (dispatchRow channelNo s ((selected s n).bind (testRowOf cfg))).asked env

/-! ## The two that are right -/

theorem sizeSub_one {i : Nat} (h0 : i ≠ 0) (hi : i < 2 ^ 64) : sizeSub i 1 = i - 1 :=
  sizeSub_of_le (Nat.one_le_iff_ne_zero.mpr h0) hi

theorem selector_ne_zero {s : U8} (h : s ≠ 0) : s.toNat ≠ 0 := by
  intro h0
  exact h (BitVec.eq_of_toNat_eq h0)

theorem bind_selected {α : Type} {s : U8} (h : s ≠ 0) {n : Nat} {f : Nat → Option α}
    (hf : ∀ i, n ≤ i → f i = none) : (selected s n).bind f = f (s.toNat - 1) := by
  have h0 := selector_ne_zero h
  unfold selected
  split
  · rfl
  · exact (hf _ (by omega)).symm

theorem selected_zero (n : Nat) : selected 0 n = none := if_neg fun h => absurd h.1 (by decide)

theorem peerAt_outside {cfg : TrapConfig} {i : Nat} (h : cfg.type.length ≤ i) :
    cfg.peerAt i = none := by
  rw [TrapConfig.peerAt, TrapConfig.managerRow, managerRow, List.getElem?_eq_none h]
  rfl

/-- The selector 0 wraps to an index no array has. -/
theorem selectedPeer_zero {cfg : TrapConfig} (hn : cfg.type.length < 2 ^ 64) :
    selectedPeer cfg 0 = none := by
  have hnone : cfg.type[2 ^ 64 - 1]? = none := List.getElem?_eq_none (by omega)
  unfold selectedPeer
  rw [if_pos rfl]
  dsimp only
  rw [hnone]
  rfl

theorem selectedPeer_selected (s : U8) {cfg : TrapConfig} (hn : cfg.type.length < 2 ^ 64) :
    selectedPeer cfg s = (selected s cfg.type.length).bind cfg.peerAt := by
  rcases eq_or_ne s 0 with rfl | h0
  · rw [selectedPeer_zero hn, selected_zero, Option.bind_none]
  · rw [selectedPeer_eq cfg h0, bind_selected h0 fun _ => peerAt_outside]

theorem getManagers_selects (s : U8) {env : SnmpEnv} {channelNo : U8} {cfg : TrapConfig}
    (h : SectionReplies env channelNo cfg) (hn : cfg.type.length < 2 ^ 64) :
    (getManagers (some channelNo) (some s)).outcome env =
        (managersOfPeer cfg ((selected s cfg.type.length).bind cfg.peerAt)).outcome env ∧
      (getManagers (some channelNo) (some s)).asked env =
        [.newDefaultBus, .channelInterfaceMap, .lanParamConfFile] ++
          (managersOfPeer cfg ((selected s cfg.type.length).bind cfg.peerAt)).asked env := by
  obtain ⟨iface, hiface, hcfg⟩ := h.reads
  rw [← selectedPeer_selected s hn]
  exact ⟨outcome_getManagers h.bus hiface hcfg, asked_getManagers h.bus hiface hcfg⟩

theorem dispatchTestDestination_selects (s : U8) {env : SnmpEnv} {channelNo : U8} {cfg : Json}
    {destinations : List Json} (h : Configured env channelNo cfg destinations) :
    (dispatchTestDestination channelNo s).outcome env =
        (dispatchRow channelNo s
          ((selected s destinations.length).bind (testRowOf cfg))).outcome env ∧
      ∃ lookups, (∀ q ∈ lookups, q = .testChannelMap ∨ q = .testLanParamConfFile) ∧
        (dispatchTestDestination channelNo s).asked env = lookups ++
          (dispatchRow channelNo s
            ((selected s destinations.length).bind (testRowOf cfg))).asked env := by
  rcases eq_or_ne s 0 with rfl | h0
  · rw [selected_zero]
    exact ⟨rfl, [], List.forall_mem_nil _, rfl⟩
  · obtain ⟨iface, hiface, hcfg⟩ := h.getInterfaceNameForChannelForTest
    have hrow : fileTestRow (env .testLanParamConfFile) iface (s.toNat - 1) =
        (selected s destinations.length).bind (testRowOf cfg) := by
      rw [fileTestRow, hcfg, Option.bind_some, bind_selected h0 fun _ => testRowOf_outside h.type]
    rw [dispatchTestDestination_eq channelNo h0, ← hrow]
    refine ⟨?_, [.testChannelMap, .testLanParamConfFile], by simp, ?_⟩
    · rw [Ask.outcome_bind_ok env hiface]
      simp only [Ask.outcome_ask_bind]
    · rw [Ask.asked_bind_ok env hiface, asked_getInterfaceNameForChannelForTest]
      simp only [Ask.asked_ask_bind, List.cons_append, List.nil_append]

/-! ## The one that is not -/

section Process

variable {env : Env} {site : Site} {ethMap : EthChannelMap} {policy : AlertPolicyTbl}
  {types : List U8} {users : Option (List String)}

theorem readStrs_userName {m : PropertyMap} (h : m.lookup "userName" = users.map Variant.strs) :
    readStrs m "userName" = .ok users := by
  rw [readStrs, h]
  cases users <;> rfl

theorem LanReplies.run (h : LanReplies env site ethMap policy types users) :
    ∃ m : PropertyMap, readStrs m "userName" = .ok users ∧
      ∀ d, (selectDestination site policy.DestinationSel.toNat m types).outcome env = .ok d →
        (destinationFor site ethMap policy).outcome env = .ok d ∧
        (destinationFor site ethMap policy).asked env =
          .lanParam site (lanObjPath (getInterfaceNameForChannel policy.ChannelNo ethMap)) ::
            (selectDestination site policy.DestinationSel.toNat m types).asked env := by
  obtain ⟨m, hm, htype, huser⟩ := h.replies
  refine ⟨m, readStrs_userName huser, fun d hd => ?_⟩
  have hreply : (reply (some m)).outcome env = .ok m := rfl
  have hbytes : (ofExcept (Variant.u8s types).asArrays.getU8s).outcome env = .ok types := rfl
  rw [destinationFor, if_neg h.iface]
  constructor
  · refine outcome_catchSdbusplus_ok ?_
    rw [Ask.outcome_ask_bind, hm, Ask.outcome_bind_ok env hreply]
    simp only [htype]
    rw [Ask.outcome_bind_ok env hbytes, hd]
  · rw [asked_catchSdbusplus_ok (a := d)]
    · rw [Ask.asked_ask_bind, hm, Ask.asked_bind_ok env hreply]
      simp only [htype]
      rw [Ask.asked_bind_ok env hbytes]
      rfl
    · rw [Ask.outcome_ask_bind, hm, Ask.outcome_bind_ok env hreply]
      simp only [htype]
      rw [Ask.outcome_bind_ok env hbytes, hd]

theorem selectDestination_inside (env : Env) (site : Site) {m : PropertyMap}
    (hm : readStrs m "userName" = .ok users)
    {i : Nat} (h0 : i ≠ 0) (hi : i < types.length) (hn : types.length < 2 ^ 64) :
    (selectDestination site i m types).outcome env = .ok (destinationAt types users (i - 1)) ∧
      (selectDestination site i m types).asked env = [] := by
  have hne : ¬ types.isEmpty = true := by
    intro h
    rw [List.isEmpty_iff.mp h] at hi
    exact Nat.not_lt_zero _ hi
  have hlt : i - 1 < types.length := Nat.lt_of_le_of_lt (Nat.sub_le i 1) hi
  have hget : types[i - 1]? = some (types.get ⟨i - 1, hlt⟩) := List.getElem?_eq_getElem hlt
  have husers : (ofExcept (readStrs m "userName")).outcome env = .ok users := by
    rw [hm]; rfl
  rw [selectDestination, if_neg hne, if_pos hi]
  simp only [sizeSub_one h0 (Nat.lt_trans hi hn), subscriptAt, hget, destinationAt]
  rw [Ask.outcome_pure_bind, Ask.outcome_bind_ok env husers, Ask.asked_pure_bind,
    Ask.asked_bind_ok env husers, asked_ofExcept]
  exact ⟨rfl, rfl⟩

theorem selectDestination_outside (site : Site) (m : PropertyMap) {i : Nat} (hi : types.length ≤ i) :
    selectDestination site i m types = pure none := by
  rw [selectDestination]
  split
  · rfl
  · rw [if_neg (Nat.not_lt.mpr hi)]

/-- The selector 0 reads far behind the end of the array. -/
theorem selectDestination_zero (env : Env) (site : Site) {m : PropertyMap}
    (hm : readStrs m "userName" = .ok users)
    (h0 : 0 < types.length) (hn : types.length < 2 ^ 64) :
    (∃ d, (selectDestination site 0 m types).outcome env = .ok d) ∧
      Call.outOfBounds site (2 ^ 64 - 1) ∈ (selectDestination site 0 m types).asked env := by
  have hne : ¬ types.isEmpty = true := by
    intro h
    rw [List.isEmpty_iff.mp h] at h0
    exact Nat.not_lt_zero _ h0
  have hget : types[2 ^ 64 - 1]? = none := List.getElem?_eq_none (by omega)
  have husers : (ofExcept (readStrs m "userName")).outcome env = .ok users := by
    rw [hm]; rfl
  rw [selectDestination, if_neg hne, if_pos h0]
  simp only [show sizeSub 0 1 = 2 ^ 64 - 1 from rfl, subscriptAt, hget]
  rw [Ask.asked_ask_bind, Ask.outcome_ask_bind, Ask.outcome_bind_ok env husers]
  exact ⟨⟨_, rfl⟩, List.mem_cons_self⟩

/-- The event process takes the destination at the index, except for the two selectors. -/
theorem destinationFor_selects (h : LanReplies env site ethMap policy types users)
    (hn : types.length < 2 ^ 64)
    (hcond : types.length = 0 ∨
      (policy.DestinationSel ≠ 0 ∧ policy.DestinationSel.toNat ≠ types.length)) :
    (destinationFor site ethMap policy).outcome env =
        .ok ((selected policy.DestinationSel types.length).bind (destinationAt types users)) ∧
      ∀ i, Call.outOfBounds site i ∉ (destinationFor site ethMap policy).asked env := by
  obtain ⟨m, hm, hrun⟩ := h.run
  rcases Nat.lt_or_ge policy.DestinationSel.toNat types.length with hlt | hge
  · have hs : policy.DestinationSel.toNat ≠ 0 := by
      rcases hcond with h0 | ⟨hs, -⟩
      · rw [h0] at hlt
        exact absurd hlt (Nat.not_lt_zero _)
      · exact selector_ne_zero hs
    obtain ⟨hout, hasked⟩ := selectDestination_inside env site hm hs hlt hn
    obtain ⟨hfor, hforAsked⟩ := hrun _ hout
    refine ⟨?_, fun i hi => ?_⟩
    · rw [hfor, selected, if_pos ⟨Nat.pos_of_ne_zero hs, Nat.le_of_lt hlt⟩]
      rfl
    · rw [hforAsked, hasked] at hi
      cases List.mem_singleton.mp hi
  · have hskip := selectDestination_outside site m hge
    obtain ⟨hfor, hforAsked⟩ := hrun none (by rw [hskip]; rfl)
    have hnone : selected policy.DestinationSel types.length = none := by
      rw [selected, if_neg]
      rintro ⟨h1, h2⟩
      have heq := Nat.le_antisymm h2 hge
      rcases hcond with h0 | ⟨-, hs⟩
      · omega
      · exact hs heq
    refine ⟨?_, fun i hi => ?_⟩
    · rw [hfor, hnone]
      rfl
    · rw [hforAsked, hskip] at hi
      cases List.mem_singleton.mp hi

end Process

/-! ## When they agree -/

/-- One LAN object, with these types and no users. -/
def lanEnv (types : List U8) : Env
  | .lanParam .. => some [("Type", .u8s types)]
  | q => Env.dead q

theorem lanEnv_replies (s : U8) (types : List U8) :
    LanReplies (lanEnv types) ⟨0, 0⟩ [(1, "eth0")] { ChannelNo := 1, DestinationSel := s }
      types none where
  iface := show "eth0" ≠ "" by decide
  replies := ⟨_, rfl, rfl, rfl⟩

theorem not_selectorAgrees_zero {n : Nat} (h0 : 0 < n) (hn : n < 2 ^ 64) :
    ¬ SelectorAgrees 0 n := by
  intro h
  have hlen : (List.replicate n (0 : U8)).length = n := List.length_replicate
  have hlan := lanEnv_replies 0 (List.replicate n 0)
  obtain ⟨m, hm, hrun⟩ := hlan.run
  obtain ⟨⟨d, hd⟩, hread⟩ := selectDestination_zero (lanEnv (List.replicate n 0)) ⟨0, 0⟩ hm
    (by rw [hlen]; exact h0) (by rw [hlen]; exact hn)
  refine (h.destination _ _ _ _ _ _ hlan rfl hlen).2 (2 ^ 64 - 1) ?_
  rw [(hrun d hd).2]
  exact List.mem_cons_of_mem _ hread

theorem not_selectorAgrees_length {s : U8} (h0 : s ≠ 0) : ¬ SelectorAgrees s s.toNat := by
  intro h
  have hlen : (List.replicate s.toNat (0 : U8)).length = s.toNat := List.length_replicate
  have hlan := lanEnv_replies s (List.replicate s.toNat 0)
  obtain ⟨m, hm, hrun⟩ := hlan.run
  have hskip := selectDestination_outside ⟨0, 0⟩ m (Nat.le_of_eq hlen)
  have hnone := (hrun none (by rw [hskip]; rfl)).1
  have hpos : 0 < s.toNat := Nat.pos_of_ne_zero (selector_ne_zero h0)
  have hsome := (h.destination _ _ _ _ _ _ hlan rfl hlen).1
  rw [hnone, selected, if_pos ⟨hpos, Nat.le_refl _⟩, Option.bind_some, destinationAt,
    List.getElem?_replicate, if_pos (Nat.sub_lt hpos Nat.one_pos)] at hsome
  cases hsome

/-- The process agrees with the other two, and stays inside the arrays, for
every selector but 0 and the length of the array. -/
theorem selectorAgrees_iff {s : U8} {n : Nat} (hn : n < 2 ^ 64) :
    SelectorAgrees s n ↔ n = 0 ∨ (s ≠ 0 ∧ s.toNat ≠ n) := by
  constructor
  · intro h
    rcases Nat.eq_zero_or_pos n with h0 | hpos
    · exact Or.inl h0
    · refine Or.inr ⟨?_, ?_⟩
      · rintro rfl
        exact not_selectorAgrees_zero hpos hn h
      · rintro rfl
        refine not_selectorAgrees_length ?_ h
        rintro rfl
        exact Nat.lt_irrefl 0 hpos
  · intro hcond
    refine ⟨?_, ?_, ?_⟩
    · rintro env site ethMap policy types users hlan rfl rfl
      exact destinationFor_selects hlan hn hcond
    · rintro env channelNo cfg hreplies rfl
      exact getManagers_selects s hreplies hn
    · rintro env channelNo cfg destinations hconf rfl
      exact dispatchTestDestination_selects s hconf

theorem selector_two_of_three : SelectorAgrees 2 3 :=
  (selectorAgrees_iff (by decide)).mpr (Or.inr (by decide))

/-- The selector 0, on an array of one destination, reads outside of it. -/
theorem selector_zero_reads_outside : ¬ SelectorAgrees 0 1 :=
  not_selectorAgrees_zero (by decide) (by decide)

end Pef
