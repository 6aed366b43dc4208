import SolanaProtocols.DepResolver

/-!
# Shutdown of the dependency resolver

The dispatcher is a shared object that owns the only sender of the dependency
queue.  Callers hold counted references to it, and the resolver holds one of
its own, so the queue never closes while there is a resolver to see it close.
-/

namespace SolanaProtocols

namespace Storage

/-- What receiving from the queue gives: an item, the end of the queue, or
nothing until something is sent. -/
inductive Received
  | item (pubkey : Pubkey)
  | closed
  | pending
deriving DecidableEq, Repr

/-- The dispatcher and the resolver with the references to the dispatcher:
those in callers' hands, all of them together, and the senders of the queue. -/
structure SharedIngest (C : Type) where
  core : ResolverState C
  handles : Nat
  resolverAlive : Bool
  strong : Nat
  senders : Nat

inductive SharedStep
  | clone
  | drop
  | update (update : AccountUpdate)
  | resolve (label : ResolverStep)
  | finish
  | abandon
deriving Repr

/-- Dispatch an update when nobody receives its dependencies any more. -/
def Ingest.applyUnreceived {C : Type} (registry : HandlerRegistry C)
    (ingest : Ingest C) (update : AccountUpdate) :
    Ingest C × Except HandlerError HandleResult :=
  match registry.dispatch ingest.cache update.owner update.pubkey update.data
      update.slot with
  | (cache, .error err) => ({ ingest with cache := cache }, .error err)
  | (cache, .ok result) =>
      ({ ingest with
        cache := cache
        depsDropped := ingest.depsDropped + (fetchTargets result).length },
        .ok result)

namespace SharedIngest

variable {C : Type} (registry : HandlerRegistry C)

/-- The caller gets one reference and the resolver another.  The sender moves
into the shared object. -/
def new (cache : C) : SharedIngest C where
  core := .start cache
  handles := 1
  resolverAlive := true
  strong := 2
  senders := 1

/-- Give up a reference.  The last one takes the object, and with it the
sender. -/
def release (state : SharedIngest C) : SharedIngest C :=
  { state with
    strong := state.strong - 1
    senders := if state.strong = 1 then state.senders - 1 else state.senders }

/-- Receive from the queue. -/
def recv (state : SharedIngest C) : Received :=
  match state.core.ingest.queue with
  | pubkey :: _ => .item pubkey
  | [] => if state.senders = 0 then .closed else .pending

/-- One step.  Callers clone, use and drop the handles they hold, the resolver
works as long as it is there, `finish` is the end of its loop, and `abandon`
is its caller dropping it. -/
def step (state : SharedIngest C) : SharedStep → Option (SharedIngest C)
  | .clone =>
      if 0 < state.handles then
        some { state with
          handles := state.handles + 1, strong := state.strong + 1 }
      else none
  | .drop =>
      if 0 < state.handles then
        some { state with handles := state.handles - 1 }.release
      else none
  | .update update =>
      if 0 < state.handles then
        if state.resolverAlive then
          (state.core.step registry (.apply update)).map fun core =>
            { state with core := core }
        else
          let (ingest, result) :=
            state.core.ingest.applyUnreceived registry update
          some { state with core := { state.core with
            ingest := ingest, history := reports result ++ state.core.history } }
      else none
  | .resolve (.apply _) => none
  | .resolve label =>
      if state.resolverAlive then
        (state.core.step registry label).map fun core =>
          { state with core := core }
      else none
  | .finish =>
      if state.resolverAlive ∧ state.core.phase = .idle ∧
          state.recv = .closed then
        some { state with resolverAlive := false }.release
      else none
  | .abandon =>
      if state.resolverAlive then
        some { state with resolverAlive := false }.release
      else none

/-- The states that are reached by any clones, drops, updates and resolutions. -/
inductive Reachable (cache : C) : SharedIngest C → Prop
  | new : Reachable cache (new cache)
  | step {label before after} (run : Reachable cache before)
      (stepEq : before.step registry label = some after) :
      Reachable cache after

/-- The counts are those of the references that exist. -/
structure Counted (state : SharedIngest C) : Prop where
  strong : state.strong = state.handles + if state.resolverAlive then 1 else 0
  senders : state.senders = if state.strong = 0 then 0 else 1

variable {registry} {cache : C} {state after : SharedIngest C}

theorem counted_new : Counted (new cache) := ⟨rfl, rfl⟩

theorem counted_release {handles : Nat} {alive : Bool}
    (counted : Counted state)
    (fewer : handles + (if alive then 1 else 0) + 1 = state.strong) :
    Counted { state with
      handles := handles, resolverAlive := alive }.release := by
  have sendersEq := counted.senders
  constructor
  · simp only [release]
    omega
  · simp only [release, sendersEq]
    split
    · rename_i last
      simp [last]
    · rename_i more
      have left : state.strong - 1 ≠ 0 := by omega
      have some : state.strong ≠ 0 := by omega
      simp [left, some]

/-- Every step keeps the counts right. -/
theorem counted_step {label : SharedStep} (counted : Counted state)
    (stepEq : state.step registry label = some after) : Counted after := by
  have strongEq := counted.strong
  have sendersEq := counted.senders
  cases label with
  | clone =>
      simp only [step, Option.ite_none_right_eq_some, Option.some.injEq] at stepEq
      obtain ⟨held, rfl⟩ := stepEq
      have some : state.strong ≠ 0 := by omega
      constructor
      · simp only
        omega
      · simpa [some] using sendersEq
  | drop =>
      simp only [step, Option.ite_none_right_eq_some, Option.some.injEq] at stepEq
      obtain ⟨held, rfl⟩ := stepEq
      exact counted_release counted (by omega)
  | update update =>
      simp only [step] at stepEq
      split_ifs at stepEq
      · obtain ⟨core, -, rfl⟩ := Option.map_eq_some_iff.mp stepEq
        exact ⟨strongEq, sendersEq⟩
      · cases stepEq
        exact ⟨strongEq, sendersEq⟩
  | resolve label =>
      cases label with
      | apply update => cases stepEq
      | receive | answer | dispatch =>
          simp only [step] at stepEq
          split_ifs at stepEq
          obtain ⟨core, -, rfl⟩ := Option.map_eq_some_iff.mp stepEq
          exact ⟨strongEq, sendersEq⟩
  | finish =>
      simp only [step, Option.ite_none_right_eq_some, Option.some.injEq] at stepEq
      obtain ⟨⟨alive, -, -⟩, rfl⟩ := stepEq
      apply counted_release counted
      simp only [alive, if_true] at strongEq
      simp [strongEq]
  | abandon =>
      simp only [step, Option.ite_none_right_eq_some, Option.some.injEq] at stepEq
      obtain ⟨alive, rfl⟩ := stepEq
      apply counted_release counted
      simp only [alive, if_true] at strongEq
      simp [strongEq]

theorem counted_of_reachable (reachable : Reachable registry cache state) :
    Counted state := by
  induction reachable with
  | new => exact counted_new
  | step run stepEq ih => exact counted_step ih stepEq

theorem recv_ne_closed (counted : Counted state)
    (alive : state.resolverAlive = true) : state.recv ≠ .closed := by
  have held : state.strong ≠ 0 := by
    rw [counted.strong, alive]
    simp
  have sending : state.senders ≠ 0 := by
    rw [counted.senders, if_neg held]
    exact Nat.one_ne_zero
  unfold recv
  cases state.core.ingest.queue with
  | nil => simp [sending]
  | cons pubkey queue => simp

/-- Callers have dropped every handle, and the queue of the resolver is empty. -/
def Orphaned (state : SharedIngest C) : Prop :=
  state.resolverAlive = true ∧ state.handles = 0 ∧
    state.core.ingest.queue = []

/-- The loop of the resolver ends when the last handle has been dropped and the
queue is empty. -/
def ShutsDown (registry : HandlerRegistry C) (cache : C) : Prop :=
  ∀ state, Reachable registry cache state → Orphaned state →
    state.recv = .closed

theorem recv_of_orphaned (counted : Counted state) (orphaned : Orphaned state) :
    state.recv = .pending := by
  obtain ⟨alive, -, empty⟩ := orphaned
  have open' := recv_ne_closed counted alive
  unfold recv at open' ⊢
  simp only [empty] at open' ⊢
  split at open'
  · exact absurd rfl open'
  · rename_i sending
    exact if_neg sending

theorem orphaned_waits {label : SharedStep} (counted : Counted state)
    (orphaned : Orphaned state) (isIdle : state.core.phase = .idle)
    (stepEq : state.step registry label = some after) : label = .abandon := by
  have waiting := recv_of_orphaned counted orphaned
  obtain ⟨alive, noHandle, empty⟩ := orphaned
  cases label with
  | clone => simp [step, noHandle] at stepEq
  | drop => simp [step, noHandle] at stepEq
  | update update => simp [step, noHandle] at stepEq
  | resolve label =>
      cases label with
      | apply update => cases stepEq
      | receive =>
          simp [step, alive, ResolverState.step, ResolverState.receive, isIdle,
            empty] at stepEq
      | answer result =>
          simp [step, alive, ResolverState.step, ResolverState.answer, isIdle]
            at stepEq
      | dispatch =>
          simp [step, alive, ResolverState.step, ResolverState.dispatch, isIdle]
            at stepEq
  | finish => simp [step, waiting] at stepEq
  | abandon => rfl

theorem finish_disabled (counted : Counted state) :
    state.step registry .finish = none := by
  simp only [step, ite_eq_right_iff]
  rintro ⟨alive, -, isClosed⟩
  exact absurd isClosed (recv_ne_closed counted alive)

theorem orphaned_drop (registry : HandlerRegistry C) (cache : C) :
    (new cache).step registry .drop =
        some { new cache with handles := 0, strong := 1 } ∧
      Orphaned { new cache with handles := 0, strong := 1 } :=
  ⟨rfl, rfl, rfl, rfl⟩

/-- Whatever the handlers and the cache, the resolver does not shut down: once
orphaned it waits on a queue that nobody else can send to, and its loop ends in
no reachable state. -/
theorem never_shutsDown (registry : HandlerRegistry C) (cache : C) :
    ¬ShutsDown registry cache ∧
      ∀ state, Reachable registry cache state →
        (Orphaned state → state.recv = .pending) ∧
          state.step registry .finish = none := by
  have pending : ∀ state, Reachable registry cache state → Orphaned state →
      state.recv = .pending := fun state reachable orphaned =>
    recv_of_orphaned (counted_of_reachable reachable) orphaned
  constructor
  · intro shutsDown
    obtain ⟨dropped, orphaned⟩ := orphaned_drop registry cache
    have reachable := Reachable.new.step dropped
    have ends := shutsDown _ reachable orphaned
    rw [pending _ reachable orphaned] at ends
    cases ends
  · intro state reachable
    exact ⟨pending state reachable,
      finish_disabled (counted_of_reachable reachable)⟩

/-- With no handlers at all, the resolver of a dispatcher whose only handle is
dropped waits for ever. -/
theorem orphan_waits_unregistered :
    ¬ShutsDown (HandlerRegistry.new : HandlerRegistry Unit) () := by
  intro shutsDown
  have ends := shutsDown _ (Reachable.new.step
    (orphaned_drop HandlerRegistry.new ()).1)
    (orphaned_drop HandlerRegistry.new ()).2
  cases ends

end SharedIngest

end Storage

end SolanaProtocols
