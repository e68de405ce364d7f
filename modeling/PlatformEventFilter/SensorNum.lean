/-
# `SensorNum` — the numbers of the sensors, and their cache

`details::getSensorNumMap` numbers the sensors of the tree in its order, 255
for each of the units 0, 1 and 3, and keeps the map until the index that comes
with the tree changes.  The static pointer and the index are set before the
loop that fills the map, which throws after the last number; and the index does
not change when a mapper call fails, though the tree in the cache then does.

    numberSensors_spec          the numbers given, and when the loop throws
    handed_map_matches_tree     a run in which every reply fits hands out maps
                                of the tree at hand only
    unfit_reply_is_served       a reply that does not fit leads to a map of
                                other paths
-/
import PlatformEventFilter.Lib.Bimap
import PlatformEventFilter.SensorTree

namespace Pef

/-! ## Numbering -/

def maxSensorsPerLUN : U16 := 255
def maxIPMISensors : U16 := maxSensorsPerLUN * 3
def lun1Sensor0 : U16 := 0x100
def lun3Sensor0 : U16 := 0x300

abbrev SensorNumMap := Bimap Int String

/-- The index after this one.  There is none after the last of the third unit. -/
def nextSensorIndex (sensorIndex : U16) : Option U16 :=
  let next := sensorIndex + 1
  if next = maxSensorsPerLUN then some lun1Sensor0
  else if next = lun1Sensor0 ||| maxSensorsPerLUN then some lun3Sensor0
  else if next = lun3Sensor0 ||| maxSensorsPerLUN then none
  else some next

/-- The loop: the map it has filled, and whether it ran to its end. -/
def numberSensors (m : SensorNumMap) (sensorNum sensorIndex : U16) :
    List (String × Services) → SensorNumMap × Except String Unit
  | [] => (m, .ok ())
  | (path, _) :: sensors =>
      let m' := m.insert sensorNum.toNat path
      -- whether another sensor follows is not asked
      match nextSensorIndex sensorIndex with
      | none => (m', .error "Maximum number of IPMI sensors exceeded.")
      | some next => numberSensors m' next next sensors

/-- The `k`-th number, when there are enough. -/
def numberAt (k : Nat) : Nat :=
  if k < 255 then k else if k < 510 then 0x100 + (k - 255) else 0x300 + (k - 510)

theorem numberAt_lt_succ (k : Nat) : numberAt k < numberAt (k + 1) := by
  unfold numberAt
  grind

theorem numberAt_mod_ne {k : Nat} (hk : k < 765) : numberAt k % 256 ≠ 255 := by
  unfold numberAt
  grind

theorem nextSensorIndex_some {sensorIndex : U16} {k : Nat} (hk : k + 1 < 765)
    (h : sensorIndex.toNat = numberAt k) :
    ∃ next, nextSensorIndex sensorIndex = some next ∧ next.toNat = numberAt (k + 1) := by
  by_cases hfirst : k + 1 = 255
  · obtain rfl : k = 254 := by omega
    obtain rfl : sensorIndex = 0xFE := BitVec.eq_of_toNat_eq h
    exact ⟨lun1Sensor0, rfl, rfl⟩
  by_cases hsecond : k + 1 = 510
  · obtain rfl : k = 509 := by omega
    obtain rfl : sensorIndex = 0x1FE := BitVec.eq_of_toNat_eq h
    exact ⟨lun3Sensor0, rfl, rfl⟩
  -- inside a unit the index is incremented, and no end of a unit is reached
  have hsucc : (sensorIndex + 1).toNat = numberAt (k + 1) := by
    rw [BitVec.toNat_add, h]
    unfold numberAt
    grind
  have hinside : ∀ last : U16, last.toNat % 256 = 255 → sensorIndex + 1 ≠ last := by
    intro last hlast heq
    rw [← heq, hsucc] at hlast
    exact numberAt_mod_ne hk hlast
  refine ⟨sensorIndex + 1, ?_, hsucc⟩
  simp only [nextSensorIndex]
  rw [if_neg (hinside _ rfl), if_neg (hinside _ rfl), if_neg (hinside _ rfl)]

theorem nextSensorIndex_none {sensorIndex : U16} (h : sensorIndex.toNat = numberAt 764) :
    nextSensorIndex sensorIndex = none := by
  obtain rfl : sensorIndex = 0x3FE := BitVec.eq_of_toNat_eq h
  rfl

/-- While all numbers given lie below the `k`-th and no path is in yet, the next
path gets the `k`-th, and the same is true from the next number on. -/
theorem insert_numberAt {m : SensorNumMap} {k : Nat} {path : String} {paths : List String}
    (hlefts : ∀ n ∈ m.lefts, n < (numberAt k : Int)) (hpaths : (m.rights ++ path :: paths).Nodup) :
    (m.insert (numberAt k : Int) path).pairs = m.pairs ++ [((numberAt k : Int), path)] ∧
      (∀ n ∈ (m.insert (numberAt k : Int) path).lefts, n < (numberAt (k + 1) : Int)) ∧
      ((m.insert (numberAt k : Int) path).rights ++ paths).Nodup := by
  have hnumber : (numberAt k : Int) ∉ m.lefts := by
    intro hmem
    exact Int.lt_irrefl _ (hlefts _ hmem)
  have hpath : path ∉ m.rights := by
    intro hmem
    exact (List.nodup_append.mp hpaths).2.2 path hmem path List.mem_cons_self rfl
  refine ⟨Bimap.insert_pairs hnumber hpath, ?_, ?_⟩
  · intro n hn
    have hlt := numberAt_lt_succ k
    rw [Bimap.insert_lefts hnumber hpath] at hn
    rcases List.mem_append.mp hn with hn | hn
    · have hbelow := hlefts n hn
      omega
    · rw [List.mem_singleton.mp hn]
      omega
  · rw [Bimap.insert_rights hnumber hpath, List.append_assoc]
    exact hpaths

/-- From the `k`-th number on, the loop gives each sensor the next number as
long as there is one, and throws once it has given the last. -/
theorem numberSensors_spec {sensors : List (String × Services)} {m : SensorNumMap}
    {sensorIndex : U16} {k : Nat} (hk : k < 765) (hindex : sensorIndex.toNat = numberAt k)
    (hlefts : ∀ n ∈ m.lefts, n < (numberAt k : Int))
    (hpaths : (m.rights ++ sensors.map Prod.fst).Nodup) :
    (numberSensors m sensorIndex sensorIndex sensors).1.pairs =
        m.pairs ++ (((sensors.map Prod.fst).take (765 - k)).zipIdx k).map
          (fun sensor => ((numberAt sensor.2 : Int), sensor.1)) ∧
      ((numberSensors m sensorIndex sensorIndex sensors).2 = .ok () ↔
        k + sensors.length < 765) := by
  induction sensors generalizing m sensorIndex k with
  | nil => exact ⟨by simp [numberSensors], iff_of_true rfl hk⟩
  | cons sensor sensors ih =>
      obtain ⟨path, services⟩ := sensor
      obtain ⟨hpairs, hlefts', hpaths'⟩ := insert_numberAt hlefts hpaths
      by_cases hlast : k + 1 < 765
      · obtain ⟨next, hnext, hat⟩ := nextSensorIndex_some hlast hindex
        have hloop : numberSensors m sensorIndex sensorIndex ((path, services) :: sensors) =
            numberSensors (m.insert (numberAt k : Int) path) next next sensors := by
          rw [numberSensors, hnext, hindex]
        obtain ⟨hrest, hthrown⟩ := ih hlast hat hlefts' hpaths'
        have hroom : 765 - k = 765 - (k + 1) + 1 := by omega
        rw [hloop]
        refine ⟨?_, hthrown.trans (by rw [List.length_cons]; omega)⟩
        rw [hrest, hpairs, hroom, List.append_assoc]
        rfl
      · have hk' : k = 764 := by omega
        subst hk'
        have hloop : numberSensors m sensorIndex sensorIndex ((path, services) :: sensors) =
            (m.insert (numberAt 764 : Int) path,
              .error "Maximum number of IPMI sensors exceeded.") := by
          rw [numberSensors, nextSensorIndex_none hindex, hindex]
        rw [hloop]
        refine ⟨?_, iff_of_false (by intro h; cases h) (by rw [List.length_cons]; omega)⟩
        rw [hpairs]
        rfl

/-- The map the loop leaves behind for a tree. -/
def numbered (subtree : SensorSubTree) : SensorNumMap :=
  (numberSensors .empty 0 0 subtree.sensors).1

/-- The map and the tree have the same paths. -/
def SamePaths (m : SensorNumMap) (subtree : SensorSubTree) : Prop :=
  ∀ path, path ∈ m.rights ↔ path ∈ subtree.paths

/-- The loop over a whole tree: the sensors are numbered in their order, up to
the last number, and with that it throws. -/
theorem numberSensors_tree (subtree : SensorSubTree) :
    (numbered subtree).pairs = (subtree.paths.take 765).zipIdx.map
        (fun sensor => ((numberAt sensor.2 : Int), sensor.1)) ∧
      ((numberSensors .empty 0 0 subtree.sensors).2 = .ok () ↔
        subtree.sensors.length < 765) := by
  have hzero : (0 : U16).toNat = numberAt 0 := rfl
  have hspec := numberSensors_spec (m := .empty) (by omega) hzero (fun _ hn => nomatch hn)
    subtree.paths_nodup
  exact ⟨hspec.1, by rw [hspec.2, Nat.zero_add]⟩

theorem numbered_rights (subtree : SensorSubTree) :
    (numbered subtree).rights = subtree.paths.take 765 := by
  rw [Bimap.rights, (numberSensors_tree subtree).1, List.map_map]
  exact List.zipIdx_map_fst 0 _

theorem numbered_complete {subtree : SensorSubTree}
    (h : subtree.sensors.length ≤ maxIPMISensors.toNat) :
    (numbered subtree).rights = subtree.paths := by
  have hlength : subtree.paths.length = subtree.sensors.length := List.length_map _
  rw [numbered_rights]
  exact List.take_of_length_le (hlength ▸ h)

theorem samePaths_numbered_iff (subtree : SensorSubTree) :
    SamePaths (numbered subtree) subtree ↔ subtree.sensors.length ≤ maxIPMISensors.toNat := by
  have hlength : subtree.paths.length = subtree.sensors.length := List.length_map _
  constructor
  · intro h
    have hsub : subtree.paths ⊆ subtree.paths.take 765 := by
      intro path hpath
      rw [← numbered_rights]
      exact (h path).mpr hpath
    have hle : subtree.paths.length ≤ (subtree.paths.take 765).length :=
      List.Nodup.length_le_of_subset subtree.paths_nodup hsub
    rw [List.length_take, hlength] at hle
    exact Nat.le_trans hle (Nat.min_le_left 765 _)
  · intro h path
    rw [numbered_complete h]

/-! ## The cache -/

/-- The static variables of both functions. -/
structure SensorNumCache where
  tree : SensorTreeCache
  sensorNumMapPtr : Option SensorNumMap
  prevSensorUpdatedIndex : U16
  deriving DecidableEq

def SensorNumCache.initial : SensorNumCache := ⟨.initial, none, 0⟩

/-- The static variables after a call, the caller's map, and whether it was
made anew, unless the call throws. -/
structure SensorNumCall where
  cache : SensorNumCache
  sensorNumMap : Option SensorNumMap
  sensorNumMapUpated : Except String Bool

/-- The map is made anew. -/
def renumber (tree : SensorTreeCache) (curSensorUpdatedIndex : U16) (sensorTree : SensorSubTree)
    (sensorNumMap : Option SensorNumMap) : SensorNumCall :=
  match numberSensors .empty 0 0 sensorTree.sensors with
  | (m, .ok ()) => ⟨⟨tree, some m, curSensorUpdatedIndex⟩, some m, .ok true⟩
  -- the map as far as it got stays in the static pointer
  | (m, .error what) => ⟨⟨tree, some m, curSensorUpdatedIndex⟩, sensorNumMap, .error what⟩

/-- `details::getSensorNumMap`. -/
def details.getSensorNumMap (s : SensorNumCache) (connected : Bool) (mapper : MapperReply)
    (sensorNumMap : Option SensorNumMap) : SensorNumCall :=
  match details.getSensorSubtree s.tree connected mapper none with
  | (tree, none, _) => ⟨{ s with tree := tree }, sensorNumMap, .ok false⟩
  | (tree, some sensorTree, curSensorUpdatedIndex) =>
      if curSensorUpdatedIndex = s.prevSensorUpdatedIndex ∧ s.sensorNumMapPtr.isSome then
        ⟨{ s with tree := tree }, s.sensorNumMapPtr, .ok false⟩
      else renumber tree curSensorUpdatedIndex sensorTree sensorNumMap

/-- What a call changes. -/
def SensorNumCache.after (s : SensorNumCache) (connected : Bool) (mapper : MapperReply) :
    SensorNumCache :=
  (details.getSensorNumMap s connected mapper none).cache

/-- The map a call hands out. -/
def SensorNumCache.handsOut (s : SensorNumCache) (connected : Bool) (mapper : MapperReply) :
    Option SensorNumMap :=
  (details.getSensorNumMap s connected mapper none).sensorNumMap

theorem renumber_cache (tree : SensorTreeCache) (index : U16) (sensorTree : SensorSubTree)
    (sensorNumMap : Option SensorNumMap) :
    (renumber tree index sensorTree sensorNumMap).cache =
      ⟨tree, some (numbered sensorTree), index⟩ := by
  rw [renumber, numbered]
  split
  · next heq => rw [heq]
  · next heq => rw [heq]

theorem renumber_handsOut {tree : SensorTreeCache} {index : U16} {sensorTree : SensorSubTree}
    {m : SensorNumMap} (h : (renumber tree index sensorTree none).sensorNumMap = some m) :
    m = numbered sensorTree ∧ sensorTree.sensors.length ≤ maxIPMISensors.toNat := by
  rw [renumber] at h
  split at h
  · next heq =>
      cases h
      have hlt := (numberSensors_tree sensorTree).2.mp (congrArg Prod.snd heq)
      exact ⟨(congrArg Prod.fst heq).symm, Nat.le_of_lt hlt⟩
  · cases h

/-! ## Fitting replies -/

/-- A complete tree fits if there are numbers for its sensors; the remains of a
failed reply fit if the map cached numbers the same paths, or if nothing is
cached and there are numbers for them. -/
def MapperReply.Fits (sensorNumMapPtr : Option SensorNumMap) : MapperReply → Prop
  | .tree reply => (filterSensors reply).sensors.length ≤ maxIPMISensors.toNat
  | .failed read =>
      match sensorNumMapPtr with
      | none => read.sensors.length ≤ maxIPMISensors.toNat
      | some m => SamePaths m read

/-- The map belongs to the tree cached with it, and can be made for a tree
cached alone. -/
structure Coherent (s : SensorNumCache) : Prop where
  index : ∀ m, s.sensorNumMapPtr = some m → s.prevSensorUpdatedIndex = s.tree.sensorUpdatedIndex
  paths : ∀ m subtree, s.sensorNumMapPtr = some m → s.tree.sensorTreePtr = some subtree →
    SamePaths m subtree
  size : ∀ subtree, s.sensorNumMapPtr = none → s.tree.sensorTreePtr = some subtree →
    subtree.sensors.length ≤ maxIPMISensors.toNat

theorem coherent_initial : Coherent .initial where
  index _ h := nomatch h
  paths _ _ h := nomatch h
  size _ _ h := nomatch h

theorem coherent_invalidate {s : SensorNumCache} (h : Coherent s) :
    Coherent { s with tree := s.tree.invalidate } where
  index := h.index
  paths _ _ _ hcached := nomatch hcached
  size _ _ hcached := nomatch hcached

theorem coherent_numbered {index : U16} {subtree : SensorSubTree}
    (h : subtree.sensors.length ≤ maxIPMISensors.toNat) :
    Coherent ⟨⟨some subtree, index⟩, some (numbered subtree), index⟩ where
  index _ _ := rfl
  paths m subtree' hm hsubtree := by
    cases hm
    cases hsubtree
    exact (samePaths_numbered_iff subtree).mpr h
  size _ hnone := nomatch hnone

/-- A call does one of four things: it finds no connection, serves the cached
map with the cached tree, makes the map anew, or caches the remains of a failed
reply. -/
theorem getSensorNumMap_cases {s : SensorNumCache} (hs : Coherent s) (connected : Bool)
    (mapper : MapperReply) :
    (connected = false ∧ details.getSensorNumMap s connected mapper none = ⟨s, none, .ok false⟩) ∨
    (∃ subtree m, s.tree.sensorTreePtr = some subtree ∧ s.sensorNumMapPtr = some m ∧
        s.tree.handsOut connected mapper = some subtree ∧
        details.getSensorNumMap s connected mapper none = ⟨s, some m, .ok false⟩) ∨
    (∃ subtree index, s.tree.handsOut connected mapper = some subtree ∧
        (s.tree.sensorTreePtr = some subtree ∧ s.sensorNumMapPtr = none ∨
          s.tree.asks connected = true ∧ ∃ reply, mapper = .tree reply ∧
            subtree = filterSensors reply) ∧
        details.getSensorNumMap s connected mapper none =
          renumber ⟨some subtree, index⟩ index subtree none) ∨
    (∃ read, s.tree.asks connected = true ∧ mapper = .failed read ∧
        details.getSensorNumMap s connected mapper none =
          ⟨{ s with tree := { s.tree with sensorTreePtr := some read } }, none, .ok false⟩) := by
  rw [SensorTreeCache.handsOut, details.getSensorNumMap]
  obtain ⟨tree, sensorNumMapPtr, prevSensorUpdatedIndex⟩ := s
  rcases getSensorSubtree_cases tree connected mapper none with
    ⟨hconnected, heq⟩ | ⟨cached, -, hptr, heq⟩ | ⟨reply, hasks, rfl, heq⟩ | ⟨read, hasks, rfl, heq⟩
  · rw [heq]
    exact Or.inl ⟨hconnected, rfl⟩
  · rw [heq]
    refine Or.inr ?_
    cases sensorNumMapPtr with
    | some m =>
        have hserved : tree.sensorUpdatedIndex = prevSensorUpdatedIndex ∧
            (some m).isSome = true := ⟨(hs.index m rfl).symm, rfl⟩
        exact Or.inl ⟨cached, m, hptr, rfl, rfl, if_pos hserved⟩
    | none =>
        have hnot : ¬(tree.sensorUpdatedIndex = prevSensorUpdatedIndex ∧
            (none : Option SensorNumMap).isSome = true) := by
          rintro ⟨-, hsome⟩
          cases hsome
        have htree : tree = ⟨some cached, tree.sensorUpdatedIndex⟩ := by rw [← hptr]
        refine Or.inr (Or.inl ⟨cached, tree.sensorUpdatedIndex, rfl, Or.inl ⟨hptr, rfl⟩, ?_⟩)
        rw [← htree]
        exact if_neg hnot
  · rw [heq]
    have hnot : ¬(tree.sensorUpdatedIndex + 1 = prevSensorUpdatedIndex ∧
        sensorNumMapPtr.isSome = true) := by
      rintro ⟨hindex, hsome⟩
      obtain ⟨m, hm⟩ := Option.isSome_iff_exists.mp hsome
      -- the index just incremented is not the one remembered
      have hprev : prevSensorUpdatedIndex = tree.sensorUpdatedIndex := hs.index m hm
      bv_omega
    exact Or.inr (Or.inr (Or.inl ⟨_, _, rfl, Or.inr ⟨hasks, reply, rfl, rfl⟩, if_neg hnot⟩))
  · rw [heq]
    exact Or.inr (Or.inr (Or.inr ⟨read, hasks, rfl, rfl⟩))

/-- A call whose reply fits keeps the caches coherent, and hands out a map of
the tree at hand only. -/
theorem coherent_call {s : SensorNumCache} (hs : Coherent s) {connected : Bool}
    {mapper : MapperReply}
    (hfits : s.tree.asks connected = true → mapper.Fits s.sensorNumMapPtr) :
    Coherent (s.after connected mapper) ∧
      ∀ m, s.handsOut connected mapper = some m →
        ∃ subtree, s.tree.handsOut connected mapper = some subtree ∧ SamePaths m subtree := by
  rw [SensorNumCache.after, SensorNumCache.handsOut]
  rcases getSensorNumMap_cases hs connected mapper with
    ⟨-, heq⟩ | ⟨subtree, m, hcached, hptr, hout, heq⟩ |
    ⟨subtree, index, hout, hwhich, heq⟩ | ⟨read, hasks, rfl, heq⟩
  · rw [heq]
    exact ⟨hs, fun _ hm => nomatch hm⟩
  · rw [heq]
    refine ⟨hs, fun m' hm => ⟨subtree, hout, ?_⟩⟩
    cases hm
    exact hs.paths m subtree hptr hcached
  · have hsize : subtree.sensors.length ≤ maxIPMISensors.toNat := by
      rcases hwhich with ⟨hcached, hnone⟩ | ⟨hasks, reply, rfl, rfl⟩
      · exact hs.size subtree hnone hcached
      · exact hfits hasks
    rw [heq, renumber_cache]
    refine ⟨coherent_numbered hsize, fun m hm => ⟨subtree, hout, ?_⟩⟩
    rw [(renumber_handsOut hm).1]
    exact (samePaths_numbered_iff subtree).mpr hsize
  · rw [heq]
    refine ⟨?_, fun _ hm => nomatch hm⟩
    have hread := hfits hasks
    obtain ⟨tree, sensorNumMapPtr, prevSensorUpdatedIndex⟩ := s
    cases sensorNumMapPtr with
    | none =>
        refine ⟨fun _ hm => (nomatch hm), fun _ _ hm => (nomatch hm), fun subtree _ hcached => ?_⟩
        cases hcached
        exact hread
    | some m =>
        refine ⟨fun _ _ => hs.index m rfl, fun m' subtree hm hcached => ?_, fun _ h => nomatch h⟩
        cases hm
        cases hcached
        exact hread

/-! ## Runs -/

def numStep (s : SensorNumCache) : TreeEvent → Option SensorNumCache
  | .call connected mapper => some (s.after connected mapper)
  | .interfacesAdded => some { s with tree := s.tree.invalidate }
  | .interfacesRemoved => some { s with tree := s.tree.invalidate }

/-- Every reply the mapper gives in the run fits. -/
def RepliesFit (es : List TreeEvent) : Prop :=
  ∀ s connected mapper s', Occurs numStep .initial es s (.call connected mapper) s' →
    s.tree.asks connected = true → mapper.Fits s.sensorNumMapPtr

theorem coherent_reached {es : List TreeEvent} (hfits : RepliesFit es) {s : SensorNumCache}
    (h : Reached numStep .initial es s) : Coherent s := by
  refine Reached.induct (P := Coherent) coherent_initial (fun s e s' ho hs => ?_) h
  obtain ⟨_, _, _, _, hstep⟩ := id ho
  cases e with
  | interfacesAdded =>
      cases hstep
      exact coherent_invalidate hs
  | interfacesRemoved =>
      cases hstep
      exact coherent_invalidate hs
  | call connected mapper =>
      cases hstep
      exact (coherent_call hs (hfits s connected mapper _ ho)).1

/-- In a run in which every reply of the mapper fits, every map a call hands
out has the paths of the tree that was handed out to that call. -/
theorem handed_map_matches_tree {es : List TreeEvent} (hfits : RepliesFit es)
    {s s' : SensorNumCache} {connected : Bool} {mapper : MapperReply}
    (h : Occurs numStep .initial es s (.call connected mapper) s') {m : SensorNumMap}
    (hm : s.handsOut connected mapper = some m) :
    ∃ subtree, s.tree.handsOut connected mapper = some subtree ∧ SamePaths m subtree :=
  (coherent_call (coherent_reached hfits h.reached) (hfits s connected mapper s' h)).2 m hm

theorem numberedPath_injective (dir : String) : Function.Injective fun i => dir ++ Nat.repr i := by
  intro i j h
  have hrepr : i.repr = j.repr := (String.append_right_inj dir).mp h
  have hdigits : Nat.toDigits 10 i = Nat.toDigits 10 j := String.ofList_injective hrepr
  rw [← Nat.ofDigitChars_ten_toDigits (n := i), hdigits, Nat.ofDigitChars_ten_toDigits]

def oneSensor : SensorSubTree :=
  ⟨[("/xyz/openbmc_project/sensors/temperature/Inlet",
      [("xyz.openbmc_project.HwmonTempSensor", ["xyz.openbmc_project.Sensor.Value"])])],
    List.nodup_singleton _⟩

/-- A sensor is numbered, and the next call serves the map. -/
theorem cached_map_matches_tree :
    ∃ subtree, SensorTreeCache.handsOut ⟨some oneSensor, 1⟩ true (.failed .empty) = some subtree ∧
      SamePaths (numbered oneSensor) subtree := by
  have hserved : Occurs numStep .initial [.call true (.tree oneSensor), .call true (.failed .empty)]
      ⟨⟨some oneSensor, 1⟩, some (numbered oneSensor), 1⟩ (.call true (.failed .empty))
      ⟨⟨some oneSensor, 1⟩, some (numbered oneSensor), 1⟩ :=
    ⟨[.call true (.tree oneSensor)], [], rfl, rfl, rfl⟩
  refine handed_map_matches_tree ?_ hserved rfl
  intro s connected mapper s' ⟨pre, post, hes, hpre, _⟩ hasks
  cases pre with
  | nil =>
      cases hes
      cases hpre
      show 1 ≤ 765
      omega
  | cons e pre =>
      cases pre with
      | nil =>
          cases hes
          cases hpre
          cases hasks
      | cons e' pre => simp at hes

/-- A sensor is numbered and then removed.  After the mapper has failed once,
its map is served with an empty tree. -/
theorem stale_map_served :
    ¬∀ (es : List TreeEvent) (s s' : SensorNumCache) (connected : Bool) (mapper : MapperReply)
        (m : SensorNumMap),
      Occurs numStep .initial es s (.call connected mapper) s' →
      s.handsOut connected mapper = some m →
        ∃ subtree, s.tree.handsOut connected mapper = some subtree ∧ SamePaths m subtree := by
  intro h
  have hstale : Occurs numStep .initial
      [.call true (.tree oneSensor), .interfacesRemoved, .call true (.failed .empty),
        .call true (.tree .empty)]
      ⟨⟨some .empty, 1⟩, some (numbered oneSensor), 1⟩ (.call true (.tree .empty))
      ⟨⟨some .empty, 1⟩, some (numbered oneSensor), 1⟩ :=
    ⟨[.call true (.tree oneSensor), .interfacesRemoved, .call true (.failed .empty)], [],
      rfl, rfl, rfl⟩
  obtain ⟨subtree, htree, hsame⟩ := h _ _ _ _ _ (numbered oneSensor) hstale rfl
  cases htree
  have hmem := (hsame "/xyz/openbmc_project/sensors/temperature/Inlet").mp List.mem_cons_self
  cases hmem

/-! ## Replies that do not fit -/

theorem mismatch_served {subtree : SensorSubTree} {m : SensorNumMap} (h : ¬SamePaths m subtree)
    (index : U16) (mapper : MapperReply) :
    ∃ m' subtree', SensorNumCache.handsOut ⟨⟨some subtree, index⟩, some m, index⟩ true mapper =
        some m' ∧
      SensorTreeCache.handsOut ⟨some subtree, index⟩ true mapper = some subtree' ∧
      ¬SamePaths m' subtree' := by
  have hserved : index = index ∧ (some m).isSome = true := ⟨rfl, rfl⟩
  exact ⟨m, subtree, congrArg SensorNumCall.sensorNumMap (if_pos hserved), rfl, h⟩

/-- A reply that does not fit leads to a call that hands out a map of other
paths than its tree, at the next call or, if the map has yet to be made, at the
one after it, unless the cache is invalidated before. -/
theorem unfit_reply_is_served {s : SensorNumCache} (hs : Coherent s) {connected : Bool}
    {mapper : MapperReply} (hasks : s.tree.asks connected = true)
    (hunfit : ¬mapper.Fits s.sensorNumMapPtr) :
    ∃ later s₁, (∀ e ∈ later, TreeEvent.invalidates e = false) ∧
      runFrom numStep (s.after connected mapper) later = some s₁ ∧
      ∀ mapper', ∃ m subtree, s₁.handsOut true mapper' = some m ∧
        s₁.tree.handsOut true mapper' = some subtree ∧ ¬SamePaths m subtree := by
  have hlarge : ∀ subtree : SensorSubTree,
      ¬subtree.sensors.length ≤ maxIPMISensors.toNat → ¬SamePaths (numbered subtree) subtree :=
    fun subtree hsize hsame => hsize ((samePaths_numbered_iff subtree).mp hsame)
  rw [SensorNumCache.after]
  rcases getSensorNumMap_cases hs connected mapper with
    ⟨rfl, -⟩ | ⟨subtree, m, hcached, -, -, -⟩ |
    ⟨subtree, index, -, hwhich, heq⟩ | ⟨read, -, rfl, heq⟩
  · cases hasks
  · rw [SensorTreeCache.asks, hcached] at hasks
    simp at hasks
  · rw [heq, renumber_cache]
    rcases hwhich with ⟨hcached, -⟩ | ⟨-, reply, rfl, rfl⟩
    · rw [SensorTreeCache.asks, hcached] at hasks
      simp at hasks
    · exact ⟨[], _, fun _ he => (nomatch he), rfl, mismatch_served (hlarge _ hunfit) index⟩
  · rw [heq]
    obtain ⟨tree, sensorNumMapPtr, prevSensorUpdatedIndex⟩ := s
    cases sensorNumMapPtr with
    | some m =>
        obtain rfl : prevSensorUpdatedIndex = tree.sensorUpdatedIndex := hs.index m rfl
        exact ⟨[], _, fun _ he => (nomatch he), rfl, mismatch_served hunfit _⟩
    | none =>
        -- the next call numbers the remains, and the one after it serves them
        have hnot : ¬(tree.sensorUpdatedIndex = prevSensorUpdatedIndex ∧
            (none : Option SensorNumMap).isSome = true) := by
          rintro ⟨-, hsome⟩
          cases hsome
        have hnext : numStep ⟨⟨some read, tree.sensorUpdatedIndex⟩, none, prevSensorUpdatedIndex⟩
            (.call true (.failed read)) =
            some ⟨⟨some read, tree.sensorUpdatedIndex⟩, some (numbered read),
              tree.sensorUpdatedIndex⟩ := by
          rw [← renumber_cache _ _ _ none]
          exact congrArg (fun call => some (SensorNumCall.cache call)) (if_neg hnot)
        refine ⟨[.call true (.failed read)], _, ?_, Option.bind_eq_some_iff.mpr ⟨_, hnext, rfl⟩,
          mismatch_served (hlarge _ hunfit) _⟩
        intro e he
        rw [List.mem_singleton.mp he]
        rfl

end Pef
