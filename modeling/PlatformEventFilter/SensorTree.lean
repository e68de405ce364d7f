/-
# `SensorTree` — the sensor tree and its cache

`details::getSensorSubtree` keeps the sensor tree it got from the object mapper
until a sensor is added or removed.  The static pointer is set to a new, empty
tree before the mapper is asked, and the reply is read into that tree.  When
the call fails the pointer stays, so what looks like a cached tree is what had
been read of a reply that never completed.

    getSensorSubtree_cases    what a call can do, once and for all
    failed_call_is_served     after a failure the next call hands out the
                              remains, without asking the mapper
    treeCache_valid_iff       the cache is valid in exactly the runs in which
                              no mapper call fails
-/
import PlatformEventFilter.Lib.Run
import PlatformEventFilter.Types

namespace Pef

/-! ## Trees -/

/-- The services of an object, each with its interfaces. -/
abbrev Services := List (String × List String)

/-- The sensors by path, in the order of the map. -/
structure SensorSubTree where
  sensors : List (String × Services)
  paths_nodup : (sensors.map Prod.fst).Nodup
  deriving DecidableEq

def SensorSubTree.paths (subtree : SensorSubTree) : List String :=
  subtree.sensors.map Prod.fst

def SensorSubTree.empty : SensorSubTree := ⟨[], List.nodup_nil⟩

def serviceFilter : List String := ["xyz.openbmc_project.Pmt"]

/-- The sensor without the filtered services. -/
def stripServices (sensor : String × Services) : String × Services :=
  (sensor.1, sensor.2.filter fun service => service.1 ∉ serviceFilter)

/-- The filtered services are erased, and with them the sensors that have no
other. -/
def filterSensors (subtree : SensorSubTree) : SensorSubTree where
  sensors := (subtree.sensors.map stripServices).filter fun sensor => !sensor.2.isEmpty
  paths_nodup := by
    have hstrip : (subtree.sensors.map stripServices).map Prod.fst =
        subtree.sensors.map Prod.fst := by
      rw [List.map_map]
      rfl
    refine List.Nodup.sublist (List.Sublist.map _ List.filter_sublist) ?_
    rw [hstrip]
    exact subtree.paths_nodup

theorem filterSensors_eq_self {subtree : SensorSubTree}
    (hkept : ∀ sensor ∈ subtree.sensors,
      stripServices sensor = sensor ∧ sensor.2.isEmpty = false) :
    filterSensors subtree = subtree := by
  have hstrip : subtree.sensors.map stripServices = subtree.sensors :=
    (List.map_congr_left fun sensor hsensor => (hkept sensor hsensor).1).trans (List.map_id' _)
  have hfilter : (filterSensors subtree).sensors =
      (subtree.sensors.map stripServices).filter fun sensor => !sensor.2.isEmpty := rfl
  have hsensors : (filterSensors subtree).sensors = subtree.sensors := by
    rw [hfilter, hstrip]
    refine List.filter_eq_self.mpr fun sensor hsensor => ?_
    rw [(hkept sensor hsensor).2]
    rfl
  generalize filterSensors subtree = filtered at hsensors
  obtain ⟨sensors, paths_nodup⟩ := filtered
  cases hsensors
  rfl

/-! ## The cache -/

/-- What comes of a GetSubTree call. -/
inductive MapperReply where
  | tree (subtree : SensorSubTree)
  /-- the call fails, or its reply breaks off after this much -/
  | failed (read : SensorSubTree)
  deriving DecidableEq

/-- The static variables of `details::getSensorSubtree`. -/
structure SensorTreeCache where
  sensorTreePtr : Option SensorSubTree
  sensorUpdatedIndex : U16
  deriving DecidableEq

def SensorTreeCache.initial : SensorTreeCache := ⟨none, 0⟩

/-- A call that gets a connection asks the mapper if nothing is cached. -/
def SensorTreeCache.asks (s : SensorTreeCache) (connected : Bool) : Bool :=
  connected && s.sensorTreePtr.isNone

/-- `InterfacesAdded` and `InterfacesRemoved` below the sensors. -/
def SensorTreeCache.invalidate (s : SensorTreeCache) : SensorTreeCache :=
  { s with sensorTreePtr := none }

/-- `details::getSensorSubtree`: the cache after the call, the caller's tree and
the index returned. -/
def details.getSensorSubtree (s : SensorTreeCache) (connected : Bool) (mapper : MapperReply)
    (subtree : Option SensorSubTree) : SensorTreeCache × Option SensorSubTree × U16 :=
  if connected then
    match s.sensorTreePtr with
    | some cached => (s, some cached, s.sensorUpdatedIndex)
    | none =>
        match mapper with
        | .tree reply =>
            let s' : SensorTreeCache := ⟨some (filterSensors reply), s.sensorUpdatedIndex + 1⟩
            (s', s'.sensorTreePtr, s'.sensorUpdatedIndex)
        | .failed read =>
            -- the pointer has been set, and is not reset
            ({ s with sensorTreePtr := some read }, subtree, s.sensorUpdatedIndex)
  else (s, subtree, s.sensorUpdatedIndex)

/-- `getSensorSubtree`: the cache after the call, the caller's tree, and whether
it is one from the cache. -/
def getSensorSubtree (s : SensorTreeCache) (connected : Bool) (mapper : MapperReply)
    (subtree : SensorSubTree) : SensorTreeCache × SensorSubTree × Bool :=
  match details.getSensorSubtree s connected mapper none with
  | (s', some sensorTree, _) => (s', sensorTree, true)
  | (s', none, _) => (s', subtree, false)

/-- What a call changes. -/
def SensorTreeCache.after (s : SensorTreeCache) (connected : Bool) (mapper : MapperReply) :
    SensorTreeCache :=
  (details.getSensorSubtree s connected mapper none).1

/-- What a call hands out. -/
def SensorTreeCache.handsOut (s : SensorTreeCache) (connected : Bool) (mapper : MapperReply) :
    Option SensorSubTree :=
  (details.getSensorSubtree s connected mapper none).2.1

/-- A call does one of four things: it finds no connection, serves the cache,
fills it from the mapper, or leaves the remains of a failed reply in it. -/
theorem getSensorSubtree_cases (s : SensorTreeCache) (connected : Bool) (mapper : MapperReply)
    (subtree : Option SensorSubTree) :
    (connected = false ∧ details.getSensorSubtree s connected mapper subtree =
        (s, subtree, s.sensorUpdatedIndex)) ∨
    (∃ cached, connected = true ∧ s.sensorTreePtr = some cached ∧
        details.getSensorSubtree s connected mapper subtree =
          (s, some cached, s.sensorUpdatedIndex)) ∨
    (∃ reply, s.asks connected = true ∧ mapper = .tree reply ∧
        details.getSensorSubtree s connected mapper subtree =
          (⟨some (filterSensors reply), s.sensorUpdatedIndex + 1⟩, some (filterSensors reply),
            s.sensorUpdatedIndex + 1)) ∨
    (∃ read, s.asks connected = true ∧ mapper = .failed read ∧
        details.getSensorSubtree s connected mapper subtree =
          ({ s with sensorTreePtr := some read }, subtree, s.sensorUpdatedIndex)) := by
  obtain ⟨sensorTreePtr, sensorUpdatedIndex⟩ := s
  cases connected with
  | false => exact Or.inl ⟨rfl, rfl⟩
  | true =>
      refine Or.inr ?_
      cases sensorTreePtr with
      | some cached => exact Or.inl ⟨cached, rfl, rfl, rfl⟩
      | none =>
          refine Or.inr ?_
          cases mapper with
          | tree reply => exact Or.inl ⟨reply, rfl, rfl, rfl⟩
          | failed read => exact Or.inr ⟨read, rfl, rfl, rfl⟩

/-- The copying variant hands out a tree when the other does, and that tree. -/
theorem getSensorSubtree_eq (s : SensorTreeCache) (connected : Bool) (mapper : MapperReply)
    (subtree : SensorSubTree) :
    getSensorSubtree s connected mapper subtree =
      (s.after connected mapper, (s.handsOut connected mapper).getD subtree,
        (s.handsOut connected mapper).isSome) := by
  rw [getSensorSubtree, SensorTreeCache.after, SensorTreeCache.handsOut]
  obtain ⟨s', _ | sensorTree, index⟩ := details.getSensorSubtree s connected mapper none
  · rfl
  · rfl

/-- After a failed mapper call the next call hands out what had been read, and
does not ask the mapper, whatever it would say. -/
theorem failed_call_is_served {s : SensorTreeCache} {connected : Bool}
    (h : s.asks connected = true) (read : SensorSubTree) (mapper : MapperReply) :
    (s.after connected (.failed read)).asks true = false ∧
      (s.after connected (.failed read)).handsOut true mapper = some read := by
  obtain ⟨sensorTreePtr, sensorUpdatedIndex⟩ := s
  cases connected with
  | false => cases h
  | true =>
      cases sensorTreePtr with
      | some cached => cases h
      | none => exact ⟨rfl, rfl⟩

/-! ## Runs -/

inductive TreeEvent where
  | call (connected : Bool) (mapper : MapperReply)
  | interfacesAdded
  | interfacesRemoved
  deriving DecidableEq

def TreeEvent.invalidates : TreeEvent → Bool
  | .call .. => false
  | .interfacesAdded => true
  | .interfacesRemoved => true

def treeStep (s : SensorTreeCache) : TreeEvent → Option SensorTreeCache
  | .call connected mapper => some (s.after connected mapper)
  | .interfacesAdded => some s.invalidate
  | .interfacesRemoved => some s.invalidate

/-- The tree is what a GetSubTree call returned, filtered, with no invalidation
since. -/
def Fresh (es : List TreeEvent) (subtree : SensorSubTree) : Prop :=
  ∃ pre post reply s, es = pre ++ .call true (.tree reply) :: post ∧
    runFrom treeStep .initial pre = some s ∧ s.asks true = true ∧
    subtree = filterSensors reply ∧ ∀ e ∈ post, TreeEvent.invalidates e = false

/-- Every tree handed out in the run is fresh. -/
def ServesFresh (es : List TreeEvent) : Prop :=
  ∀ pre post connected mapper s subtree, es = pre ++ .call connected mapper :: post →
    runFrom treeStep .initial pre = some s → s.handsOut connected mapper = some subtree →
    Fresh (pre ++ [.call connected mapper]) subtree

/-- Every mapper call that fails in the run leaves the cache as it was. -/
def FailuresForgotten (es : List TreeEvent) : Prop :=
  ∀ s connected read s', Occurs treeStep .initial es s (.call connected (.failed read)) s' →
    s.asks connected = true → s' = s

/-- No mapper call fails in the run. -/
def MapperAnswers (es : List TreeEvent) : Prop :=
  ∀ s connected read s', Occurs treeStep .initial es s (.call connected (.failed read)) s' →
    s.asks connected = false

theorem Fresh.snoc {es : List TreeEvent} {e : TreeEvent} {subtree : SensorSubTree}
    (h : Fresh es subtree) (he : e.invalidates = false) : Fresh (es ++ [e]) subtree := by
  obtain ⟨pre, post, reply, s, rfl, hrun, hasks, htree, hpost⟩ := h
  refine ⟨pre, post ++ [e], reply, s, by simp, hrun, hasks, htree, ?_⟩
  intro e' he'
  rcases List.mem_append.mp he' with he' | he'
  · exact hpost e' he'
  · rw [List.mem_singleton.mp he']
    exact he

theorem Fresh.asked {pre : List TreeEvent} {s : SensorTreeCache} {connected : Bool}
    (hrun : runFrom treeStep .initial pre = some s) (hasks : s.asks connected = true)
    (reply : SensorSubTree) :
    Fresh (pre ++ [.call connected (.tree reply)]) (filterSensors reply) := by
  have hconnected : connected = true := (Bool.and_eq_true_iff.mp hasks).1
  subst hconnected
  exact ⟨pre, [], reply, s, rfl, hrun, hasks, rfl, fun _ he => nomatch he⟩

/-- As long as no mapper call fails, the cached tree is fresh. -/
theorem cached_fresh {es : List TreeEvent} (h : MapperAnswers es) {pre post : List TreeEvent}
    {s : SensorTreeCache} (hes : es = pre ++ post)
    (hrun : runFrom treeStep .initial pre = some s) :
    ∀ subtree, s.sensorTreePtr = some subtree → Fresh pre subtree := by
  have hnone : ∀ subtree, SensorTreeCache.initial.sensorTreePtr = some subtree →
      Fresh [] subtree := by
    intro _ h
    cases h
  refine runFrom.induct_history
    (P := fun pre s => ∀ subtree, s.sensorTreePtr = some subtree → Fresh pre subtree)
    hnone ?_ hes hrun
  intro pre e post s s' hes hrun hstep ih subtree hcached
  cases e with
  | interfacesAdded =>
      cases hstep
      cases hcached
  | interfacesRemoved =>
      cases hstep
      cases hcached
  | call connected mapper =>
      cases hstep
      rw [SensorTreeCache.after] at hcached
      rcases getSensorSubtree_cases s connected mapper none with
        ⟨-, heq⟩ | ⟨_, -, -, heq⟩ | ⟨reply, hasks, rfl, heq⟩ | ⟨read, hasks, rfl, -⟩
      · rw [heq] at hcached
        exact (ih subtree hcached).snoc rfl
      · rw [heq] at hcached
        exact (ih subtree hcached).snoc rfl
      · rw [heq] at hcached
        cases hcached
        exact Fresh.asked hrun hasks reply
      · have hnot := h s connected read _ ⟨pre, post, hes, hrun, rfl⟩
        rw [hasks] at hnot
        cases hnot

theorem servesFresh_of_mapperAnswers {es : List TreeEvent} (h : MapperAnswers es) :
    ServesFresh es := by
  intro pre post connected mapper s subtree hes hrun hout
  have hcached := cached_fresh h hes hrun
  rw [SensorTreeCache.handsOut] at hout
  rcases getSensorSubtree_cases s connected mapper none with
    ⟨-, heq⟩ | ⟨cached, -, hptr, heq⟩ | ⟨reply, hasks, rfl, heq⟩ | ⟨_, -, -, heq⟩
  · rw [heq] at hout
    cases hout
  · rw [heq] at hout
    cases hout
    exact (hcached _ hptr).snoc rfl
  · rw [heq] at hout
    cases hout
    exact Fresh.asked hrun hasks reply
  · rw [heq] at hout
    cases hout

theorem after_failed_ne {s : SensorTreeCache} {connected : Bool} (h : s.asks connected = true)
    (read : SensorSubTree) : s.after connected (.failed read) ≠ s := by
  intro heq
  have hserved := (failed_call_is_served h read (.failed read)).1
  have hconnected : connected = true := (Bool.and_eq_true_iff.mp h).1
  rw [heq, ← hconnected, h] at hserved
  cases hserved

/-- Trees handed out are fresh and failed calls leave no trace in exactly the
runs in which no mapper call fails. -/
theorem treeCache_valid_iff (es : List TreeEvent) :
    ServesFresh es ∧ FailuresForgotten es ↔ MapperAnswers es := by
  constructor
  · rintro ⟨-, hforgotten⟩ s connected read s' hoccurs
    cases hasks : s.asks connected with
    | false => rfl
    | true =>
        have hsame := hforgotten s connected read s' hoccurs hasks
        obtain ⟨_, _, _, _, hstep⟩ := hoccurs
        cases hstep
        exact absurd hsame (after_failed_ne hasks read)
  · intro h
    refine ⟨servesFresh_of_mapperAnswers h, ?_⟩
    intro s connected read s' hoccurs hasks
    rw [h s connected read s' hoccurs] at hasks
    cases hasks

/-- The mapper fails once, and the next call serves an empty tree that no
GetSubTree call returned. -/
theorem failure_is_served :
    ¬∀ es : List TreeEvent, ServesFresh es ∧ FailuresForgotten es := by
  intro h
  have hrun : runFrom treeStep .initial [.call true (.failed .empty)] =
      some ⟨some .empty, 0⟩ := rfl
  obtain ⟨pre, post, reply, s, hes, hpre, hasks, -⟩ :=
    (h [.call true (.failed .empty), .call true (.failed .empty)]).1
      [.call true (.failed .empty)] [] true (.failed .empty) _ .empty rfl hrun rfl
  have hmem : TreeEvent.call true (.tree reply) ∈
      [TreeEvent.call true (.failed .empty), .call true (.failed .empty)] := by
    rw [show [TreeEvent.call true (.failed .empty), .call true (.failed .empty)] = _ from hes]
    exact List.mem_append_right _ List.mem_cons_self
  simp at hmem

end Pef
