/-
# `TestDestination` — testing the destinations of a channel

`TestDestination` gets a zero-based selector, makes a one-based one of it modulo
256, compares that with a limit, and `dispatchTestDestination` makes an index of
it again:

    k  ↦  k + 1 (mod 256)  ↦  refused when 0 or above maxDestinationSel - 1  ↦  k

The selector setter admits `maxDestinationSel` itself.  Here the limit is one
less than that and is compared with the one-based selector, so the last of
`maxDestinationSel` destinations is out of reach.
-/
import PlatformEventFilter.SnmpStatus
import PlatformEventFilter.LanTable

namespace Pef

/-! ## The method -/

/-- What follows the check of the channel. -/
def testSelector (channelNo destinationSel : U8) : SnmpProg Bool :=
  let destinationSel := destinationSel + 1
  let maxDestinationSelLocal := maxDestinationSel - 1
  if destinationSel = 0 ∨ destinationSel > maxDestinationSelLocal then pure false
  else dispatchTestDestination channelNo destinationSel

def TestDestination (channelNo destinationSel : U8) : SnmpProg Bool :=
  if channelNo > 15 then pure false
  else do
    let channelMap ← snmpCall .testChannelMap
    match channelMap with
    -- the call fails, handled in the function
    | none => pure false
    | some channelMap =>
        let allowedEthChannelMap := channelMap.filter fun p => isEthInterfaceName p.2
        match allowedEthChannelMap.lookup channelNo with
        | none => pure false
        | some _ => testSelector channelNo destinationSel

/-! ## What a test should do -/

/-- The channel map has the channel on a LAN interface, and the configuration of
the interface has these elements in its Type array. -/
structure Configured (env : SnmpEnv) (channelNo : U8) (cfg : Json) (destinations : List Json) :
    Prop where
  channel : channelNo ≤ 15
  interface : ∃ channelMap iface, env .testChannelMap = some channelMap ∧
    channelMap.lookup channelNo = some iface ∧ isEthInterfaceName iface = true ∧
    fileConfig (env .testLanParamConfFile) iface = some cfg
  type : arrayAt cfg "Type" = some destinations

/-- The map is read twice, then the file, and the rest is the test of the
destination at index `k`. -/
structure Dispatches (env : SnmpEnv) (channelNo : U8) (cfg : Json) (k : U8) : Prop where
  asked : (TestDestination channelNo k).asked env =
    [.testChannelMap, .testChannelMap, .testLanParamConfFile] ++
      (dispatchRow channelNo (k + 1) (testRowOf cfg k.toNat)).asked env
  outcome : (TestDestination channelNo k).outcome env =
    (dispatchRow channelNo (k + 1) (testRowOf cfg k.toNat)).outcome env

/-- False is returned, and nothing was done but looking up the destination. -/
structure Refuses (env : SnmpEnv) (channelNo : U8) (k : U8) : Prop where
  asked : ∀ q ∈ (TestDestination channelNo k).asked env,
    q = .testChannelMap ∨ q = .testLanParamConfFile
  outcome : (TestDestination channelNo k).outcome env = .ok false

/-- Every destination can be tested, and no other selector is accepted. -/
structure EveryDestinationTestable (env : SnmpEnv) (channelNo : U8) (cfg : Json)
    (destinations : List Json) : Prop where
  dispatches : ∀ k : U8, k.toNat < destinations.length → Dispatches env channelNo cfg k
  refuses : ∀ k : U8, destinations.length ≤ k.toNat → Refuses env channelNo k

/-! ## Behind the range check -/

theorem lookup_filter_of_lookup {iface : String} {channelNo : U8}
    (heth : isEthInterfaceName iface = true) :
    ∀ {channelMap : List (U8 × String)}, channelMap.lookup channelNo = some iface →
      (channelMap.filter fun p => isEthInterfaceName p.2).lookup channelNo = some iface := by
  intro channelMap
  induction channelMap with
  | nil => exact id
  | cons p channelMap ih =>
      obtain ⟨no, name⟩ := p
      intro h
      rw [List.lookup_cons] at h
      rw [List.filter_cons]
      cases hno : channelNo == no with
      | true =>
          rw [hno] at h
          cases h
          rw [if_pos heth, List.lookup_cons, hno]
      | false =>
          rw [hno] at h
          split
          · rw [List.lookup_cons, hno]
            exact ih h
          · exact ih h

theorem toNat_add_one {k : U8} (hk : k.toNat < 255) : (k + 1).toNat = k.toNat + 1 := by
  rw [BitVec.toNat_add]
  exact Nat.mod_eq_of_lt (Nat.succ_lt_succ hk)

/-- The range check, in terms of the zero-based selector. -/
theorem selector_refused_iff (k : U8) :
    (k + 1 = 0 ∨ k + 1 > maxDestinationSel - 1) ↔ maxDestinationSel.toNat - 1 ≤ k.toNat := by
  have hmax : maxDestinationSel.toNat = 15 := rfl
  have hlimit : (maxDestinationSel - 1).toNat = 14 := rfl
  by_cases hk : k.toNat < 255
  · have hsel := toNat_add_one hk
    constructor
    · rintro (hzero | hgt)
      · rw [hzero] at hsel
        cases hsel
      · have hlt : (maxDestinationSel - 1).toNat < (k + 1).toNat := hgt
        omega
    · intro hle
      refine .inr ?_
      show (maxDestinationSel - 1).toNat < (k + 1).toNat
      omega
  · -- the increment wraps to 0
    have hk255 : k.toNat = 255 := by have := k.isLt; omega
    refine iff_of_true (.inl (BitVec.eq_of_toNat_eq ?_)) (by omega)
    rw [BitVec.toNat_add, hk255]
    rfl

section Run

variable {env : SnmpEnv} {channelNo : U8} {cfg : Json} {destinations : List Json}

theorem Configured.testDestination (h : Configured env channelNo cfg destinations) (k : U8) :
    (TestDestination channelNo k).asked env =
        .testChannelMap :: (testSelector channelNo k).asked env ∧
      (TestDestination channelNo k).outcome env = (testSelector channelNo k).outcome env := by
  obtain ⟨channelMap, iface, hmap, hlookup, heth, -⟩ := h.interface
  have hchannel : ¬ channelNo > 15 := BitVec.not_lt.mpr h.channel
  have hallowed := lookup_filter_of_lookup heth hlookup
  constructor
  · rw [TestDestination, if_neg hchannel, Ask.asked_ask_bind, hmap]
    simp only [hallowed]
  · rw [TestDestination, if_neg hchannel, Ask.outcome_ask_bind, hmap]
    simp only [hallowed]

theorem Configured.getInterfaceNameForChannelForTest
    (h : Configured env channelNo cfg destinations) :
    ∃ iface, (getInterfaceNameForChannelForTest channelNo).outcome env = .ok (some iface) ∧
      fileConfig (env .testLanParamConfFile) iface = some cfg := by
  obtain ⟨channelMap, iface, hmap, hlookup, heth, hcfg⟩ := h.interface
  refine ⟨iface, ?_, hcfg⟩
  rw [Pef.getInterfaceNameForChannelForTest, Ask.outcome_ask_bind, hmap, Ask.outcome_pure,
    Option.bind_some, hlookup, Option.filter_some, if_pos heth]

theorem asked_getInterfaceNameForChannelForTest :
    (getInterfaceNameForChannelForTest channelNo).asked env = [.testChannelMap] := by
  rw [getInterfaceNameForChannelForTest, Ask.asked_ask_bind, Ask.asked_pure]

theorem Configured.dispatches (h : Configured env channelNo cfg destinations) {k : U8}
    (hk : k.toNat < maxDestinationSel.toNat - 1) : Dispatches env channelNo cfg k := by
  obtain ⟨hasked, houtcome⟩ := h.testDestination k
  obtain ⟨iface, hiface, hcfg⟩ := h.getInterfaceNameForChannelForTest
  have hrange : ¬ (k + 1 = 0 ∨ k + 1 > maxDestinationSel - 1) :=
    fun h => absurd ((selector_refused_iff k).mp h) (Nat.not_le.mpr hk)
  have hzero : k + 1 ≠ 0 := fun h => hrange (.inl h)
  have hmax : maxDestinationSel.toNat = 15 := rfl
  have hsel : (k + 1).toNat = k.toNat + 1 := toNat_add_one (by omega)
  have hrow : fileTestRow (env .testLanParamConfFile) iface ((k + 1).toNat - 1) =
      testRowOf cfg k.toNat := by
    rw [fileTestRow, hcfg, Option.bind_some, hsel, Nat.add_sub_cancel]
  have hselector : testSelector channelNo k = dispatchTestDestination channelNo (k + 1) :=
    if_neg hrange
  rw [hselector, dispatchTestDestination_eq channelNo hzero] at hasked houtcome
  constructor
  · rw [hasked, Ask.asked_bind_ok _ hiface, asked_getInterfaceNameForChannelForTest]
    simp only [Ask.asked_ask_bind, hrow, List.cons_append, List.nil_append]
  · rw [houtcome, Ask.outcome_bind_ok _ hiface]
    simp only [Ask.outcome_ask_bind, hrow]

/-- A selector that is out of range is refused before the dispatcher. -/
theorem Configured.refuses (h : Configured env channelNo cfg destinations) {k : U8}
    (hk : maxDestinationSel.toNat - 1 ≤ k.toNat) :
    (TestDestination channelNo k).asked env = [.testChannelMap] ∧
      (TestDestination channelNo k).outcome env = .ok false := by
  obtain ⟨hasked, houtcome⟩ := h.testDestination k
  have hselector : testSelector channelNo k = pure false :=
    if_pos ((selector_refused_iff k).mpr hk)
  rw [hselector] at hasked houtcome
  exact ⟨hasked, houtcome⟩

theorem testRowOf_outside (htype : arrayAt cfg "Type" = some destinations) {i : Nat}
    (h : destinations.length ≤ i) : testRowOf cfg i = none := by
  rw [testRowOf, byteAt, htype, Option.bind_some, List.getElem?_eq_none h]
  rfl

theorem Dispatches.refuses_of_absent (htype : arrayAt cfg "Type" = some destinations) {k : U8}
    (h : Dispatches env channelNo cfg k) (hk : destinations.length ≤ k.toNat) :
    Refuses env channelNo k := by
  have hrow := testRowOf_outside htype hk
  obtain ⟨hasked, houtcome⟩ := h
  rw [hrow] at hasked houtcome
  refine ⟨fun q hq => ?_, houtcome⟩
  rw [hasked] at hq
  simpa [dispatchRow, or_assoc, or_comm] using hq

end Run

/-! ## Which tables can be tested -/

/-- All destinations can be tested exactly when there are fewer than
`maxDestinationSel`. -/
theorem everyDestinationTestable_iff {env : SnmpEnv} {channelNo : U8} {cfg : Json}
    {destinations : List Json} (h : Configured env channelNo cfg destinations)
    (hn : destinations.length ≤ maxDestinationSel.toNat) :
    EveryDestinationTestable env channelNo cfg destinations ↔
      destinations.length < maxDestinationSel.toNat := by
  have hmax : maxDestinationSel.toNat = 15 := rfl
  constructor
  · intro htest
    by_contra hfull
    have hk : ((14 : U8)).toNat < destinations.length := by
      show 14 < destinations.length
      omega
    -- the last selector is answered after a single lookup
    have hdispatch := (htest.dispatches 14 hk).asked
    have hrefuse := (h.refuses (show maxDestinationSel.toNat - 1 ≤ (14 : U8).toNat by decide)).1
    rw [hrefuse] at hdispatch
    cases hdispatch
  · intro hlt
    refine ⟨fun k hk => h.dispatches (by omega), fun k hk => ?_⟩
    by_cases hrange : k.toNat < maxDestinationSel.toNat - 1
    · exact (h.dispatches hrange).refuses_of_absent h.type hk
    · obtain ⟨hasked, houtcome⟩ := h.refuses (not_lt.mp hrange)
      refine ⟨fun q hq => .inl ?_, houtcome⟩
      rw [hasked] at hq
      exact List.mem_singleton.mp hq

/-- The configuration of an interface with that many trap destinations. -/
def trapDestinations (n : Nat) : Json :=
  .obj [("Type", .arr (List.replicate n (.num 1)))]

/-- Channel 1 is eth0 and has that many destinations. -/
def testEnv (n : Nat) : SnmpEnv
  | .testChannelMap => some [(1, "eth0")]
  | .testLanParamConfFile =>
      some (.obj [("Interfaces", .obj [("eth0", .obj [("Config", trapDestinations n)])])])
  | q => SnmpEnv.dead q

theorem configured_testEnv (n : Nat) :
    Configured (testEnv n) 1 (trapDestinations n) (List.replicate n (.num 1)) where
  channel := by decide
  interface := ⟨[(1, "eth0")], "eth0", rfl, by decide, by decide, rfl⟩
  type := rfl

theorem fourteen_destinations_testable :
    EveryDestinationTestable (testEnv 14) 1 (trapDestinations 14)
        (List.replicate 14 (.num 1)) ↔
      (List.replicate 14 (Json.num 1)).length < maxDestinationSel.toNat :=
  everyDestinationTestable_iff (configured_testEnv 14) (by decide)

/-- The fifteenth of fifteen destinations is refused. -/
theorem fifteenth_destination_untestable :
    Configured (testEnv 15) 1 (trapDestinations 15) (List.replicate 15 (.num 1)) ∧
      (List.replicate 15 (Json.num 1)).length ≤ maxDestinationSel.toNat ∧
      ¬ EveryDestinationTestable (testEnv 15) 1 (trapDestinations 15)
        (List.replicate 15 (.num 1)) := by
  refine ⟨configured_testEnv 15, by decide, fun htest => ?_⟩
  have hasked := (htest.dispatches 14 (by decide)).asked
  have hrefuse := ((configured_testEnv 15).refuses
    (show maxDestinationSel.toNat - 1 ≤ (14 : U8).toNat by decide)).1
  rw [hrefuse] at hasked
  cases hasked

end Pef
