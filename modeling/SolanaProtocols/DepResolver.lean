import Mathlib.Data.Finset.Card
import Mathlib.Data.List.ReduceOption
import SolanaProtocols.HandlerRegistry

/-!
# Dependency resolution

`Ingest.apply` dispatches an update and queues the infrequent dependencies its
handler reports; a resolver fetches each of them once and feeds what it gets
back through `apply`.  The stream keeps applying updates while the resolver
awaits a fetch, so the two are one transition system.  A history of what
happened, newest first, is kept along with the state.
-/

namespace SolanaProtocols

namespace Storage

/-- An account update as the stream or a fetch delivers it. -/
structure AccountUpdate where
  pubkey : Pubkey
  owner : Pubkey
  data : Bytes
  slot : Nat
deriving DecidableEq, Repr

inductive FetchError
  | backend (message : String)
  | timeout (secs : Nat)
deriving DecidableEq, Repr

/-- Depth of the queue between the hot path and the resolver. -/
def depQueueCapacity : Nat := 1024

/-- The dispatcher's variables: the cache, the queue of dependencies, front
first, and the number of requests dropped because it was full. -/
structure Ingest (C : Type) where
  cache : C
  queue : List Pubkey
  depsDropped : Nat

/-- Dependencies that warrant a fetch. -/
def fetchTargets (result : HandleResult) : List Pubkey :=
  ((result.accountsToFetch ++ result.accountsToSubscribe).filter
    (·.expectation = .infrequent)).map Dependency.pubkey

namespace Ingest

variable {C : Type}

/-- Queue a dependency unless the queue is full. -/
def trySend (ingest : Ingest C) (pubkey : Pubkey) : Ingest C :=
  if ingest.queue.length < depQueueCapacity then
    { ingest with queue := ingest.queue ++ [pubkey] }
  else { ingest with depsDropped := ingest.depsDropped + 1 }

/-- Dispatch an update and queue its infrequent dependencies. -/
def apply (registry : HandlerRegistry C) (ingest : Ingest C)
    (update : AccountUpdate) : Ingest C × Except HandlerError HandleResult :=
  match registry.dispatch ingest.cache update.owner update.pubkey update.data
      update.slot with
  | (cache, .error err) => ({ ingest with cache := cache }, .error err)
  | (cache, .ok result) =>
      ((fetchTargets result).foldl trySend { ingest with cache := cache },
        .ok result)

end Ingest

/-- What happened in a run. -/
inductive IngestEvent
  | reported (dependency : Dependency)
  | fetched (pubkey : Pubkey)
  | failed (pubkey : Pubkey) (error : FetchError)
  | answered (pubkey : Pubkey)
  | applied (pubkey : Pubkey)
  | rejected (pubkey : Pubkey)
deriving DecidableEq, Repr

/-- Where the resolver is: waiting for a dependency, awaiting a fetch, or about
to dispatch a fetched update. -/
inductive ResolvePhase
  | idle
  | fetching (pubkey : Pubkey)
  | applying (pubkey : Pubkey) (update : AccountUpdate)
      (rest : List AccountUpdate)
deriving DecidableEq, Repr

/-- The dependency being resolved. -/
def ResolvePhase.pubkey : ResolvePhase → Option Pubkey
  | .idle => none
  | .fetching pubkey => some pubkey
  | .applying pubkey _ _ => some pubkey

/-- The head of the loop over fetched updates. -/
def ResolvePhase.next (pubkey : Pubkey) : List AccountUpdate → ResolvePhase
  | [] => .idle
  | update :: rest => .applying pubkey update rest

/-- Dispatcher and resolver. -/
structure ResolverState (C : Type) where
  ingest : Ingest C
  seen : Finset Pubkey
  phase : ResolvePhase
  history : List IngestEvent

/-- A step of the stream, the resolver or the fetcher. -/
inductive ResolverStep
  | apply (update : AccountUpdate)
  | receive
  | answer (result : Except FetchError (List (Option AccountUpdate)))
  | dispatch
deriving Repr

/-- What a handler reports, as history. -/
def reports : Except HandlerError HandleResult → List IngestEvent
  | .error _ => []
  | .ok result =>
      (result.accountsToFetch ++ result.accountsPendingGrpc ++
        result.accountsToSubscribe).map .reported

/-- How dispatching a fetched update went, as history. -/
def dispatchOutcome (pubkey : Pubkey) :
    Except HandlerError HandleResult → IngestEvent
  | .ok _ => .applied pubkey
  | .error _ => .rejected pubkey

namespace ResolverState

variable {C : Type} (registry : HandlerRegistry C)

/-- Before the first update. -/
def start (cache : C) : ResolverState C where
  ingest := { cache := cache, queue := [], depsDropped := 0 }
  seen := ∅
  phase := .idle
  history := []

/-- Take the next dependency from the queue, and fetch it unless it was
fetched before. -/
def receive (state : ResolverState C) : Option (ResolverState C) :=
  match state.phase, state.ingest.queue with
  | .idle, pubkey :: queue =>
      let state := { state with ingest.queue := queue }
      if pubkey ∈ state.seen then some state
      else some { state with
        seen := insert pubkey state.seen
        phase := .fetching pubkey
        history := .fetched pubkey :: state.history }
  | _, _ => none

/-- The fetch comes back.  As the fetcher's contract says, an answer has one
entry for the one account asked for. -/
def answer (state : ResolverState C)
    (result : Except FetchError (List (Option AccountUpdate))) :
    Option (ResolverState C) :=
  match state.phase, result with
  | .fetching pubkey, .error error => some { state with
      seen := state.seen.erase pubkey
      phase := .idle
      history := .failed pubkey error :: state.history }
  | .fetching pubkey, .ok updates =>
      if updates.length = 1 then some { state with
        phase := .next pubkey updates.reduceOption
        history := .answered pubkey :: state.history }
      else none
  | _, _ => none

/-- Dispatch the next fetched update. -/
def dispatch (state : ResolverState C) : Option (ResolverState C) :=
  match state.phase with
  | .applying pubkey update rest =>
      let (ingest, result) := state.ingest.apply registry update
      some { state with
        ingest := ingest
        phase := .next pubkey rest
        history := dispatchOutcome pubkey result ::
          (reports result ++ state.history) }
  | _ => none

/-- One step.  The stream can apply an update at any time. -/
def step (state : ResolverState C) : ResolverStep → Option (ResolverState C)
  | .apply update =>
      let (ingest, result) := state.ingest.apply registry update
      some { state with
        ingest := ingest, history := reports result ++ state.history }
  | .receive => state.receive
  | .answer result => state.answer result
  | .dispatch => state.dispatch registry

/-- The states reached by steps that are allowed where they are taken. -/
inductive Run (allowed : ResolverState C → ResolverStep → Prop) (cache : C) :
    ResolverState C → Prop
  | start : Run allowed cache (start cache)
  | step {label before after} (run : Run allowed cache before)
      (isAllowed : allowed before label)
      (stepEq : before.step registry label = some after) :
      Run allowed cache after

end ResolverState

section Apply

variable {C : Type} {registry : HandlerRegistry C} {ingest : Ingest C}
variable {update : AccountUpdate} {pubkey : Pubkey}

/-- Sending queues dependencies in order until the queue is full. -/
theorem foldl_trySend_queue (targets : List Pubkey) (ingest : Ingest C) :
    (targets.foldl Ingest.trySend ingest).queue =
      ingest.queue ++
        targets.take (depQueueCapacity - ingest.queue.length) := by
  induction targets generalizing ingest with
  | nil => simp
  | cons target targets ih =>
      rw [List.foldl_cons, ih, Ingest.trySend]
      by_cases room : ingest.queue.length < depQueueCapacity
      · obtain ⟨left, leftEq⟩ : ∃ left,
            depQueueCapacity - ingest.queue.length = left + 1 :=
          ⟨depQueueCapacity - ingest.queue.length - 1, by omega⟩
        simp only [room, if_true, List.length_append, List.length_singleton,
          Nat.sub_add_eq, leftEq, Nat.add_sub_cancel, List.take_succ_cons,
          List.append_assoc, List.singleton_append]
      · have full : depQueueCapacity - ingest.queue.length = 0 := by omega
        simp [room, full]

theorem apply_queue (registry : HandlerRegistry C) (ingest : Ingest C)
    (update : AccountUpdate) :
    (ingest.apply registry update).1.queue =
      ingest.queue ++ (match (ingest.apply registry update).2 with
        | .error _ => []
        | .ok result => (fetchTargets result).take
            (depQueueCapacity - ingest.queue.length)) := by
  rw [Ingest.apply]
  obtain ⟨cache, result⟩ := registry.dispatch ingest.cache update.owner
    update.pubkey update.data update.slot
  cases result with
  | error err => simp
  | ok result => exact foldl_trySend_queue _ _

theorem mem_fetchTargets {result : HandleResult} :
    pubkey ∈ fetchTargets result ↔
      ⟨pubkey, .infrequent⟩ ∈
        result.accountsToFetch ++ result.accountsToSubscribe := by
  simp only [fetchTargets, List.mem_map, List.mem_filter, decide_eq_true_eq]
  constructor
  · rintro ⟨⟨_, _⟩, ⟨isReported, rfl⟩, rfl⟩
    exact isReported
  · intro isReported
    exact ⟨_, ⟨isReported, rfl⟩, rfl⟩

/-- Only reported infrequent dependencies are queued. -/
theorem mem_queue_apply (isQueued : pubkey ∈ (ingest.apply registry update).1.queue) :
    pubkey ∈ ingest.queue ∨
      .reported ⟨pubkey, .infrequent⟩ ∈
        reports (ingest.apply registry update).2 := by
  rw [apply_queue, List.mem_append] at isQueued
  rcases isQueued with before | isNew
  · exact .inl before
  · cases applied : (ingest.apply registry update).2 with
    | error err => simp [applied] at isNew
    | ok result =>
        rw [applied] at isNew
        have isTarget := mem_fetchTargets.mp (List.mem_of_mem_take isNew)
        rw [List.mem_append] at isTarget
        refine .inr (List.mem_map_of_mem ?_)
        rcases isTarget with toFetch | toSubscribe
        · simp [toFetch]
        · simp [toSubscribe]

/-- A dependency reported while the queue has room is queued. -/
theorem mem_queue_of_room {result : HandleResult} {before after : List Pubkey}
    (applied : (ingest.apply registry update).2 = .ok result)
    (targets : fetchTargets result = before ++ pubkey :: after)
    (room : ingest.queue.length + before.length < depQueueCapacity) :
    pubkey ∈ (ingest.apply registry update).1.queue := by
  rw [apply_queue, applied, List.mem_append]
  refine .inr ?_
  simp only [targets]
  rw [List.take_append, List.mem_append]
  obtain ⟨left, leftEq⟩ : ∃ left, depQueueCapacity - ingest.queue.length -
      before.length = left + 1 :=
    ⟨depQueueCapacity - ingest.queue.length - before.length - 1, by omega⟩
  rw [leftEq]
  exact .inr List.mem_cons_self

theorem event_of_mem_reports {result : Except HandlerError HandleResult}
    {event : IngestEvent} (isReport : event ∈ reports result) :
    ∃ dependency, event = .reported dependency := by
  cases result with
  | error err => cases isReport
  | ok result =>
      obtain ⟨dependency, -, rfl⟩ := List.mem_map.mp isReport
      exact ⟨dependency, rfl⟩

end Apply

section History

/-- Every fetch in a history stands in a relation to what happened before. -/
def EveryFetch (relates : Pubkey → List IngestEvent → Prop) :
    List IngestEvent → Prop
  | [] => True
  | event :: earlier =>
      (∀ pubkey, event = .fetched pubkey → relates pubkey earlier) ∧
        EveryFetch relates earlier

variable {relates : Pubkey → List IngestEvent → Prop}
variable {history : List IngestEvent} {event : IngestEvent}

theorem everyFetch_cons (notFetch : ∀ pubkey, event ≠ .fetched pubkey) :
    EveryFetch relates (event :: history) ↔ EveryFetch relates history := by
  simp [EveryFetch, notFetch]

theorem everyFetch_reports (result : Except HandlerError HandleResult) :
    EveryFetch relates (reports result ++ history) ↔
      EveryFetch relates history := by
  have onlyReports := @event_of_mem_reports result
  generalize reports result = events at onlyReports
  induction events with
  | nil => rfl
  | cons event events ih =>
      obtain ⟨dependency, rfl⟩ := onlyReports List.mem_cons_self
      rw [List.cons_append, everyFetch_cons (by simp)]
      exact ih fun isReport => onlyReports (List.mem_cons_of_mem _ isReport)

theorem mem_reports_append (result : Except HandlerError HandleResult)
    (notReport : ∀ dependency, event ≠ .reported dependency) :
    event ∈ reports result ++ history ↔ event ∈ history := by
  rw [List.mem_append, or_iff_right]
  intro isReport
  obtain ⟨dependency, same⟩ := event_of_mem_reports isReport
  exact notReport dependency same

end History

section Steps

variable {C : Type} {registry : HandlerRegistry C}
variable {state after : ResolverState C} {label : ResolverStep}

/-- All a step can do. -/
inductive StepTo (registry : HandlerRegistry C) (state : ResolverState C) :
    ResolverStep → ResolverState C → Prop
  | stream (update : AccountUpdate) :
      StepTo registry state (.apply update) { state with
        ingest := (state.ingest.apply registry update).1
        history := reports (state.ingest.apply registry update).2 ++
          state.history }
  | skip (pubkey queue) (isIdle : state.phase = .idle)
      (isNext : state.ingest.queue = pubkey :: queue)
      (wasSeen : pubkey ∈ state.seen) :
      StepTo registry state .receive { state with ingest.queue := queue }
  | fetch (pubkey queue) (isIdle : state.phase = .idle)
      (isNext : state.ingest.queue = pubkey :: queue)
      (isNew : pubkey ∉ state.seen) :
      StepTo registry state .receive { state with
        ingest.queue := queue
        seen := insert pubkey state.seen
        phase := .fetching pubkey
        history := .fetched pubkey :: state.history }
  | fail (pubkey error) (isFetching : state.phase = .fetching pubkey) :
      StepTo registry state (.answer (.error error)) { state with
        seen := state.seen.erase pubkey
        phase := .idle
        history := .failed pubkey error :: state.history }
  | succeed (pubkey updates) (isFetching : state.phase = .fetching pubkey) :
      StepTo registry state (.answer (.ok updates)) { state with
        phase := .next pubkey updates.reduceOption
        history := .answered pubkey :: state.history }
  | dispatch (pubkey update rest)
      (isApplying : state.phase = .applying pubkey update rest) :
      StepTo registry state .dispatch { state with
        ingest := (state.ingest.apply registry update).1
        phase := .next pubkey rest
        history :=
          dispatchOutcome pubkey (state.ingest.apply registry update).2 ::
            (reports (state.ingest.apply registry update).2 ++ state.history) }

theorem stepTo_of_step (stepEq : state.step registry label = some after) :
    StepTo registry state label after := by
  cases label with
  | apply update =>
      cases stepEq
      exact .stream update
  | receive =>
      unfold ResolverState.step ResolverState.receive at stepEq
      cases isIdle : state.phase with
      | idle =>
          cases isNext : state.ingest.queue with
          | nil => simp [isIdle, isNext] at stepEq
          | cons pubkey queue =>
              simp only [isIdle, isNext] at stepEq
              by_cases wasSeen : pubkey ∈ state.seen
              · rw [if_pos wasSeen] at stepEq
                cases stepEq
                rw [← isIdle]
                exact .skip pubkey queue isIdle isNext wasSeen
              · rw [if_neg wasSeen] at stepEq
                cases stepEq
                exact .fetch pubkey queue isIdle isNext wasSeen
      | fetching pubkey => simp [isIdle] at stepEq
      | applying pubkey update rest => simp [isIdle] at stepEq
  | answer result =>
      unfold ResolverState.step ResolverState.answer at stepEq
      cases isFetching : state.phase with
      | idle => simp [isFetching] at stepEq
      | fetching pubkey =>
          cases result with
          | error error =>
              simp only [isFetching] at stepEq
              cases stepEq
              exact .fail pubkey error isFetching
          | ok updates =>
              simp only [isFetching] at stepEq
              split_ifs at stepEq
              cases stepEq
              exact .succeed pubkey updates isFetching
      | applying pubkey update rest => simp [isFetching] at stepEq
  | dispatch =>
      unfold ResolverState.step ResolverState.dispatch at stepEq
      cases isApplying : state.phase with
      | idle => simp [isApplying] at stepEq
      | fetching pubkey => simp [isApplying] at stepEq
      | applying pubkey update rest =>
          simp only [isApplying] at stepEq
          cases stepEq
          exact .dispatch pubkey update rest isApplying

end Steps

end Storage

end SolanaProtocols
