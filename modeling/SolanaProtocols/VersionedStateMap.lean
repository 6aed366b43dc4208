import Mathlib.Logic.Function.Basic
import SolanaProtocols.SlotHistory

/-!
# Slot-versioned map

The primitive the cache is built on.  Every insertion carries the slot the state
was observed at, stale writes are rejected, and a bounded history per key lets
readers ask for the state as of a reference slot.
-/

namespace SolanaProtocols

namespace Storage

open SlotHistory

/-- A value paired with the slot it was observed at. -/
structure StateWithSlot (T : Type*) where
  state : T
  slot : Nat
deriving DecidableEq, Repr

/-- The current observation for a key and a bounded history, newest first. -/
structure VersionedState (T : Type*) where
  current : StateWithSlot T
  history : List (StateWithSlot T)
deriving DecidableEq, Repr

def VersionedState.new {T : Type*} (state : T) (slot : Nat) :
    VersionedState T where
  current := ⟨state, slot⟩
  history := []

/-- Outcome of a slot-aware insert. -/
inductive InsertOutcome
  | inserted
  | updatedSameSlot
  | advanced
  | stale
deriving DecidableEq, Repr

structure VersionedStateMap (K T : Type*) where
  inner : K → Option (VersionedState T)
  depth : Nat

namespace VersionedStateMap

variable {K T : Type*}

/-- A new map retaining `depth` historical observations per key. -/
def withDepth (depth : Nat) : VersionedStateMap K T where
  inner _ := none
  depth := depth

section Operations

variable [DecidableEq K] (map : VersionedStateMap K T) (key : K)

def put (versioned : VersionedState T) : VersionedStateMap K T :=
  { map with inner := Function.update map.inner key (some versioned) }

/-- Insert an observation at `slot`. -/
def insert (state : T) (slot : Nat) : VersionedStateMap K T × InsertOutcome :=
  match map.inner key with
  | none => (map.put key (.new state slot), .inserted)
  | some versioned =>
      if slot < versioned.current.slot then
        (map, .stale)
      else if slot = versioned.current.slot then
        (map.put key { versioned with current.state := state }, .updatedSameSlot)
      else
        let history :=
          if 0 < map.depth then
            (versioned.current :: versioned.history).take map.depth
          else versioned.history
        (map.put key { current := ⟨state, slot⟩, history := history }, .advanced)

/-- The current value for `key`. -/
def get : Option T :=
  (map.inner key).map (·.current.state)

/-- The most recent observation at or before `referenceSlot`, with its slot. -/
def getAtSlotWithSlot (referenceSlot : Nat) : Option (T × Nat) :=
  (map.inner key).bind fun versioned =>
    if versioned.current.slot ≤ referenceSlot then
      some (versioned.current.state, versioned.current.slot)
    else
      (versioned.history.find? (·.slot ≤ referenceSlot)).map fun version =>
        (version.state, version.slot)

def getAtSlot (referenceSlot : Nat) : Option T :=
  (map.getAtSlotWithSlot key referenceSlot).map Prod.fst

/-- Remove a key, returning its current value if present. -/
def remove : VersionedStateMap K T × Option T :=
  ({ map with inner := Function.update map.inner key none }, map.get key)

def clear : VersionedStateMap K T :=
  { map with inner := fun _ => none }

end Operations

/-- All observations kept for a key, newest first. -/
def versions (map : VersionedStateMap K T) (key : K) : List (StateWithSlot T) :=
  match map.inner key with
  | none => []
  | some versioned => versioned.current :: versioned.history

/-- Reading as of a slot searches the versions, newest first. -/
theorem getAtSlotWithSlot_eq (map : VersionedStateMap K T) (key : K)
    (referenceSlot : Nat) :
    map.getAtSlotWithSlot key referenceSlot =
      (asOf StateWithSlot.slot (map.versions key) referenceSlot).map
        fun version => (version.state, version.slot) := by
  rw [getAtSlotWithSlot, versions]
  cases map.inner key with
  | none => rfl
  | some versioned =>
      by_cases inTime : versioned.current.slot ≤ referenceSlot <;>
        simp [asOf, inTime]

end VersionedStateMap

/-- An operation on a map. -/
inductive MapEvent (K T : Type*)
  | insert (key : K) (state : T) (slot : Nat)
  | remove (key : K)
  | clear

/-- A map and, for each key, the inserts accepted since its last removal, newest
first. -/
structure MapRun (K T : Type*) where
  map : VersionedStateMap K T
  accepted : K → List (StateWithSlot T)

namespace MapRun

variable {K T : Type*} [DecidableEq K]

def start (depth : Nat) : MapRun K T where
  map := .withDepth depth
  accepted _ := []

def step (run : MapRun K T) : MapEvent K T → MapRun K T
  | .insert key state slot =>
      let (map, outcome) := run.map.insert key state slot
      { map := map
        accepted :=
          if outcome = .stale then run.accepted
          else Function.update run.accepted key
            (⟨state, slot⟩ :: run.accepted key) }
  | .remove key =>
      { map := (run.map.remove key).1
        accepted := Function.update run.accepted key [] }
  | .clear => { map := run.map.clear, accepted := fun _ => [] }

/-- Any sequence of operations on a new map. -/
def ofEvents (depth : Nat) (events : List (MapEvent K T)) : MapRun K T :=
  events.foldl step (start depth)

/-- The versions of a key are its last accepted values at each slot, as many as
fit. -/
structure Represents (depth : Nat) (versions accepted : List (StateWithSlot T)) :
    Prop where
  ordered : Ordered StateWithSlot.slot accepted
  retained : versions = (latest StateWithSlot.slot accepted).take (depth + 1)

theorem Represents.nil (depth : Nat) :
    Represents depth ([] : List (StateWithSlot T)) [] :=
  ⟨List.Pairwise.nil, rfl⟩

variable {depth : Nat} {key other : K} {state : T} {slot : Nat}

theorem Represents.eq_nil {accepted : List (StateWithSlot T)}
    (represents : Represents depth [] accepted) : accepted = [] := by
  cases accepted with
  | nil => rfl
  | cons last older =>
      have retained := represents.retained
      simp [latest] at retained

/-- The current version is the last accepted insert. -/
theorem Represents.exists_last {current : StateWithSlot T}
    {history accepted : List (StateWithSlot T)}
    (represents : Represents depth (current :: history) accepted) :
    ∃ older, accepted = current :: older ∧
      history = ((latest StateWithSlot.slot accepted).tail).take depth := by
  cases accepted with
  | nil =>
      have retained := represents.retained
      simp [latest] at retained
  | cons last older =>
      have retained := represents.retained
      rw [latest, List.take_succ_cons, List.cons.injEq] at retained
      obtain ⟨rfl, retained⟩ := retained
      exact ⟨older, rfl, retained⟩

/-- A new observation at a slot that is not older than the last one. -/
theorem Represents.ordered_cons {current new : StateWithSlot T}
    {history accepted : List (StateWithSlot T)}
    (represents : Represents depth (current :: history) accepted)
    (notOlder : current.slot ≤ new.slot) :
    Ordered StateWithSlot.slot (new :: accepted) := by
  obtain ⟨older, rfl, -⟩ := represents.exists_last
  refine List.pairwise_cons.mpr ⟨fun version isAccepted => ?_, represents.ordered⟩
  rcases List.mem_cons.mp isAccepted with rfl | isOlder
  · exact notOlder
  · exact ((List.pairwise_cons.mp represents.ordered).1 version isOlder).trans
      notOlder

theorem Represents.sameSlot {current new : StateWithSlot T}
    {history accepted : List (StateWithSlot T)}
    (represents : Represents depth (current :: history) accepted)
    (same : new.slot = current.slot) :
    Represents depth (new :: history) (new :: accepted) := by
  have ordered := represents.ordered_cons same.ge
  obtain ⟨older, rfl, historyEq⟩ := represents.exists_last
  exact ⟨ordered, by
    rw [latest_cons_of_same represents.ordered same, List.take_succ_cons,
      ← historyEq]⟩

theorem Represents.advanced {current new : StateWithSlot T}
    {history accepted : List (StateWithSlot T)}
    (represents : Represents depth (current :: history) accepted)
    (newer : current.slot < new.slot) :
    Represents depth (new :: (current :: history).take depth)
      (new :: accepted) := by
  have ordered := represents.ordered_cons newer.le
  have allNewer : ∀ version ∈ accepted, version.slot < new.slot := by
    obtain ⟨older, rfl, -⟩ := represents.exists_last
    intro version isAccepted
    rcases List.mem_cons.mp isAccepted with rfl | isOlder
    · exact newer
    · exact ((List.pairwise_cons.mp represents.ordered).1 version
        isOlder).trans_lt newer
  exact ⟨ordered, by
    rw [latest_cons_of_newer allNewer, List.take_succ_cons, represents.retained,
      List.take_take, Nat.min_eq_left (Nat.le_succ depth)]⟩

/-- What every operation preserves. -/
structure Valid (depth : Nat) (run : MapRun K T) : Prop where
  depthEq : run.map.depth = depth
  represents : ∀ key, Represents depth (run.map.versions key) (run.accepted key)

theorem versions_put_self (map : VersionedStateMap K T)
    (versioned : VersionedState T) :
    (map.put key versioned).versions key =
      versioned.current :: versioned.history := by
  simp [VersionedStateMap.versions, VersionedStateMap.put]

theorem versions_put_of_ne (map : VersionedStateMap K T)
    (versioned : VersionedState T) (different : other ≠ key) :
    (map.put key versioned).versions other = map.versions other := by
  simp [VersionedStateMap.versions, VersionedStateMap.put, different]

/-- What an insert does: it is rejected, or it puts the versions that represent
one more accepted value. -/
theorem insert_cases {map : VersionedStateMap K T}
    {accepted : List (StateWithSlot T)}
    (represents : Represents map.depth (map.versions key) accepted) :
    (map.insert key state slot = (map, .stale)) ∨
      ∃ versioned outcome, map.insert key state slot =
          (map.put key versioned, outcome) ∧ outcome ≠ .stale ∧
        Represents map.depth (versioned.current :: versioned.history)
          (⟨state, slot⟩ :: accepted) := by
  rw [VersionedStateMap.insert]
  rw [VersionedStateMap.versions] at represents
  cases found : map.inner key with
  | none =>
      rw [found] at represents
      cases represents.eq_nil
      exact .inr ⟨_, _, rfl, by simp, List.pairwise_singleton _ _,
        by simp [latest, VersionedState.new]⟩
  | some versioned =>
      rw [found] at represents
      simp only at represents ⊢
      rcases lt_trichotomy slot versioned.current.slot with
        older | same | newer
      · exact .inl (if_pos older)
      · rw [if_neg (by omega), if_pos same]
        subst same
        exact .inr ⟨_, _, rfl, by simp, represents.sameSlot rfl⟩
      · rw [if_neg (by omega), if_neg (by omega)]
        refine .inr ⟨_, _, rfl, by simp, ?_⟩
        have advanced : Represents map.depth
            (⟨state, slot⟩ :: (versioned.current :: versioned.history).take
              map.depth) (⟨state, slot⟩ :: accepted) :=
          represents.advanced newer
        by_cases keeps : 0 < map.depth
        · simpa only [if_pos keeps] using advanced
        · obtain ⟨-, -, historyEq⟩ := represents.exists_last
          simp only [if_neg keeps]
          rw [Nat.eq_zero_of_not_pos keeps] at advanced historyEq ⊢
          rw [historyEq]
          exact advanced

omit [DecidableEq K] in
theorem Valid.start (depth : Nat) : Valid depth (start depth : MapRun K T) where
  depthEq := rfl
  represents _ := .nil depth

theorem Valid.insert {run : MapRun K T} (valid : Valid depth run) (key : K)
    (state : T) (slot : Nat) :
    Valid depth (run.step (.insert key state slot)) := by
  obtain ⟨rfl, represents⟩ := valid
  rcases @insert_cases _ _ _ key state slot _ _ (represents key) with
    rejected | ⟨versioned, outcome, accepted, notStale, represents'⟩
  · simp only [MapRun.step, rejected, if_true]
    exact ⟨rfl, represents⟩
  · simp only [MapRun.step, accepted, if_neg notStale]
    refine ⟨rfl, fun other => ?_⟩
    by_cases same : other = key
    · subst same
      simpa only [versions_put_self, Function.update_self] using represents'
    · simpa only [versions_put_of_ne _ _ same, Function.update_of_ne same]
        using represents other

theorem Valid.remove {run : MapRun K T} (valid : Valid depth run) (key : K) :
    Valid depth (run.step (.remove key)) := by
  refine ⟨valid.depthEq, fun other => ?_⟩
  have represents := valid.represents other
  by_cases same : other = key
  · subst same
    simpa [MapRun.step, VersionedStateMap.remove, VersionedStateMap.versions]
      using Represents.nil depth
  · simpa [MapRun.step, VersionedStateMap.remove, VersionedStateMap.versions,
      same] using represents

theorem Valid.step {run : MapRun K T} (valid : Valid depth run)
    (event : MapEvent K T) : Valid depth (run.step event) := by
  cases event with
  | insert key state slot => exact valid.insert key state slot
  | remove key => exact valid.remove key
  | clear => exact ⟨valid.depthEq, fun _ => .nil depth⟩

theorem valid_ofEvents (depth : Nat) (events : List (MapEvent K T)) :
    Valid depth (ofEvents depth events) := by
  have preserved : ∀ run : MapRun K T, Valid depth run →
      Valid depth (events.foldl MapRun.step run) := by
    induction events with
    | nil => exact fun _ valid => valid
    | cons event events ih => exact fun run valid => ih _ (valid.step event)
  exact preserved _ (.start depth)

/-- The slots a reader can still ask about: the newest `depth + 1` of those at
which an insert was accepted since the last removal. -/
def retainedSlots (depth : Nat) (accepted : List (StateWithSlot T)) :
    Finset Nat :=
  mostRecent (depth + 1) (slots StateWithSlot.slot accepted)

/-- The value of the last insert accepted at a slot. -/
def lastAcceptedAt (accepted : List (StateWithSlot T)) (slot : Nat) : Option T :=
  (accepted.find? (·.slot = slot)).map StateWithSlot.state

/-- As-of semantics of a map after a run. -/
structure AnswersAsOf (depth : Nat) (run : MapRun K T) : Prop where
  some_iff : ∀ key referenceSlot state slot,
    run.map.getAtSlotWithSlot key referenceSlot = some (state, slot) ↔
      IsGreatest {retained | retained ∈ retainedSlots depth (run.accepted key) ∧
          retained ≤ referenceSlot} slot ∧
        lastAcceptedAt (run.accepted key) slot = some state
  none_iff : ∀ key referenceSlot,
    run.map.getAtSlotWithSlot key referenceSlot = none ↔
      ∀ retained ∈ retainedSlots depth (run.accepted key),
        ¬ retained ≤ referenceSlot
  decreasing : ∀ key versioned, run.map.inner key = some versioned →
    (versioned.current :: versioned.history).Pairwise
        (fun newer older => older.slot < newer.slot) ∧
      versioned.history.length ≤ depth

/-- In every run, reading as of a slot gives the last value accepted at the
newest retained slot that is not newer, and the versions strictly decrease. -/
theorem answersAsOf_ofEvents (depth : Nat) (events : List (MapEvent K T)) :
    AnswersAsOf depth (ofEvents depth events) := by
  have valid := valid_ofEvents depth events
  generalize ofEvents depth events = run at valid
  refine ⟨fun key referenceSlot state slot => ?_, fun key referenceSlot => ?_,
    fun key versioned found => ?_⟩
  · obtain ⟨ordered, retained⟩ := valid.represents key
    rw [VersionedStateMap.getAtSlotWithSlot_eq, retained,
      Option.map_eq_some_iff, lastAcceptedAt]
    simp only [asOf_take_latest_eq_some_iff ordered, Option.map_eq_some_iff]
    constructor
    · rintro ⟨version, ⟨greatest, isLast⟩, same⟩
      cases same
      exact ⟨greatest, version, isLast, rfl⟩
    · rintro ⟨greatest, version, isLast, rfl⟩
      have same : version.slot = slot := by
        simpa using List.find?_some isLast
      subst same
      exact ⟨version, ⟨greatest, isLast⟩, rfl⟩
  · obtain ⟨ordered, retained⟩ := valid.represents key
    rw [VersionedStateMap.getAtSlotWithSlot_eq, retained,
      Option.map_eq_none_iff, asOf_take_latest_eq_none_iff ordered]
    rfl
  · obtain ⟨ordered, retained⟩ := valid.represents key
    rw [VersionedStateMap.versions, found] at retained
    simp only at retained
    constructor
    · rw [retained]
      exact ordered.latest.take (depth + 1)
    · have bounded := List.length_take_le (depth + 1)
        (latest StateWithSlot.slot (run.accepted key))
      rw [← retained, List.length_cons] at bounded
      omega

theorem decreasing_ofEvents (depth : Nat) (events : List (MapEvent K T))
    (key : K) :
    Decreasing StateWithSlot.slot ((ofEvents depth events).map.versions key) := by
  obtain ⟨ordered, retained⟩ := (valid_ofEvents depth events).represents key
  rw [retained]
  exact ordered.latest.take (depth + 1)

end MapRun

/-- The newest version that is not newer than the slot. -/
def Newest {T : Type*} (versions : List (StateWithSlot T)) (slot : Nat)
    (state : T) : Prop :=
  ∃ version ∈ versions, version.state = state ∧ IsGreatest
    {time | time ∈ slots StateWithSlot.slot versions ∧ time ≤ slot} version.slot

namespace VersionedStateMap

variable {K T : Type*} {map : VersionedStateMap K T} {key other : K} {state : T}
  {slot newSlot : Nat}

theorem getAtSlot_eq (map : VersionedStateMap K T) (key : K) (slot : Nat) :
    map.getAtSlot key slot =
      (asOf StateWithSlot.slot (map.versions key) slot).map
        StateWithSlot.state := by
  rw [getAtSlot, getAtSlotWithSlot_eq, Option.map_map]
  rfl

theorem getAtSlot_eq_some_iff
    (decreasing : Decreasing StateWithSlot.slot (map.versions key)) :
    map.getAtSlot key slot = some state ↔
      Newest (map.versions key) slot state := by
  rw [getAtSlot_eq, Option.map_eq_some_iff, Newest]
  simp only [asOf_eq_some_iff decreasing]
  constructor
  · rintro ⟨version, ⟨isVersion, greatest⟩, rfl⟩
    exact ⟨version, isVersion, rfl, greatest⟩
  · rintro ⟨version, isVersion, rfl, greatest⟩
    exact ⟨version, ⟨isVersion, greatest⟩, rfl⟩

end VersionedStateMap

end Storage

end SolanaProtocols
