import SolanaProtocols.DepResolver

/-!
# What dependency resolution guarantees

A dependency counts as seen from the moment its fetch starts, and only a failed
fetch undoes that.  So fetches never repeat, but a dependency whose fetch found
no account, or whose update the registry rejected, is never fetched again.
-/

namespace SolanaProtocols

namespace Storage

variable {C : Type} {registry : HandlerRegistry C} {cache : C}
variable {state after : ResolverState C} {label : ResolverStep}
variable {allowed : ResolverState C → ResolverStep → Prop}

/-- What every step preserves. -/
structure ResolverState.Valid (state : ResolverState C) : Prop where
  queued : ∀ pubkey ∈ state.ingest.queue,
    .reported ⟨pubkey, .infrequent⟩ ∈ state.history
  onlyReported : EveryFetch (fun pubkey earlier =>
    .reported ⟨pubkey, .infrequent⟩ ∈ earlier) state.history
  onceApplied : EveryFetch (fun pubkey earlier =>
    .applied pubkey ∉ earlier) state.history
  seen_iff : ∀ pubkey, pubkey ∈ state.seen ↔
    .answered pubkey ∈ state.history ∨ state.phase = .fetching pubkey
  fetching : ∀ pubkey, state.phase = .fetching pubkey →
    .answered pubkey ∉ state.history
  applying : ∀ pubkey update rest, state.phase = .applying pubkey update rest →
    .answered pubkey ∈ state.history
  applied : ∀ pubkey, .applied pubkey ∈ state.history →
    .answered pubkey ∈ state.history

theorem ResolvePhase.next_ne_fetching {pubkey other : Pubkey}
    {updates : List AccountUpdate} :
    ResolvePhase.next pubkey updates ≠ .fetching other := by
  cases updates <;> simp [ResolvePhase.next]

theorem ResolvePhase.eq_of_next_eq_applying {pubkey other : Pubkey}
    {update : AccountUpdate} {updates rest : List AccountUpdate}
    (isApplying : ResolvePhase.next pubkey updates =
      .applying other update rest) : other = pubkey := by
  cases updates with
  | nil => cases isApplying
  | cons first updates =>
      cases isApplying
      rfl

theorem dispatchOutcome_cases (pubkey : Pubkey)
    (result : Except HandlerError HandleResult) :
    dispatchOutcome pubkey result = .applied pubkey ∨
      dispatchOutcome pubkey result = .rejected pubkey := by
  cases result with
  | error err => exact .inr rfl
  | ok result => exact .inl rfl

theorem valid_start (cache : C) : (ResolverState.start cache).Valid where
  queued := by simp [ResolverState.start]
  onlyReported := trivial
  onceApplied := trivial
  seen_iff := by simp [ResolverState.start]
  fetching := by simp [ResolverState.start]
  applying := by simp [ResolverState.start]
  applied := by simp [ResolverState.start]

/-- Dispatching an update only adds reports to the history. -/
theorem ResolverState.Valid.ingest (valid : state.Valid)
    (update : AccountUpdate) :
    ResolverState.Valid { state with
      ingest := (state.ingest.apply registry update).1
      history := reports (state.ingest.apply registry update).2 ++
        state.history } := by
  have sameHistory : ∀ event, (∀ dependency, event ≠ .reported dependency) →
      (event ∈ reports (state.ingest.apply registry update).2 ++
        state.history ↔ event ∈ state.history) :=
    fun event => mem_reports_append _
  exact {
    queued := fun pubkey isQueued => by
      rcases mem_queue_apply isQueued with before | isReport
      · exact List.mem_append_right _ (valid.queued pubkey before)
      · exact List.mem_append_left _ isReport
    onlyReported := (everyFetch_reports _).mpr valid.onlyReported
    onceApplied := (everyFetch_reports _).mpr valid.onceApplied
    seen_iff := by simpa [sameHistory] using valid.seen_iff
    fetching := by simpa [sameHistory] using valid.fetching
    applying := by simpa [sameHistory] using valid.applying
    applied := by simpa [sameHistory] using valid.applied }

/-- Recording how a fetched update was dispatched. -/
theorem ResolverState.Valid.recordOutcome (valid : state.Valid)
    {pubkey : Pubkey} {update : AccountUpdate} {rest : List AccountUpdate}
    (isApplying : state.phase = .applying pubkey update rest)
    (result : Except HandlerError HandleResult) :
    ResolverState.Valid { state with
      phase := .next pubkey rest
      history := dispatchOutcome pubkey result :: state.history } := by
  have answered := valid.applying pubkey update rest isApplying
  have seen_iff := valid.seen_iff
  simp only [isApplying, reduceCtorEq, or_false] at seen_iff
  have outcomeEq := dispatchOutcome_cases pubkey result
  generalize dispatchOutcome pubkey result = outcome at outcomeEq
  have notFetch : ∀ other, outcome ≠ .fetched other := by
    rcases outcomeEq with rfl | rfl <;> simp
  have notAnswer : ∀ other, .answered other ≠ outcome := by
    rcases outcomeEq with rfl | rfl <;> simp
  exact {
    queued := fun other isQueued => List.mem_cons_of_mem _
      (valid.queued other isQueued)
    onlyReported := (everyFetch_cons notFetch).mpr valid.onlyReported
    onceApplied := (everyFetch_cons notFetch).mpr valid.onceApplied
    seen_iff := fun other => by
      simp [seen_iff, notAnswer, ResolvePhase.next_ne_fetching]
    fetching := fun other same => absurd same ResolvePhase.next_ne_fetching
    applying := fun other update rest same => by
      rw [ResolvePhase.eq_of_next_eq_applying same]
      exact List.mem_cons_of_mem _ answered
    applied := fun other applied => by
      refine List.mem_cons_of_mem _ ?_
      rcases List.mem_cons.mp applied with same | applied
      · rcases outcomeEq with rfl | rfl
        · cases same
          exact answered
        · cases same
      · exact valid.applied other applied }

theorem ResolverState.Valid.step (valid : state.Valid)
    (steps : StepTo registry state label after) : after.Valid := by
  cases steps with
  | stream update => exact valid.ingest update
  | skip pubkey queue isIdle isNext wasSeen =>
      refine { valid with queued := fun other isQueued => ?_ }
      exact valid.queued other (isNext ▸ List.mem_cons_of_mem _ isQueued)
  | fetch pubkey queue isIdle isNext isNew =>
      have notAnswered : .answered pubkey ∉ state.history := fun answered =>
        isNew ((valid.seen_iff pubkey).mpr (.inl answered))
      have wasReported := valid.queued pubkey (isNext ▸ List.mem_cons_self)
      have notApplied : .applied pubkey ∉ state.history := fun applied =>
        notAnswered (valid.applied pubkey applied)
      have seen_iff := valid.seen_iff
      simp only [isIdle, reduceCtorEq, or_false] at seen_iff
      exact {
        queued := fun other isQueued => List.mem_cons_of_mem _
          (valid.queued other (isNext ▸ List.mem_cons_of_mem _ isQueued))
        onlyReported := ⟨fun other same => by cases same; exact wasReported,
          valid.onlyReported⟩
        onceApplied := ⟨fun other same => by cases same; exact notApplied,
          valid.onceApplied⟩
        seen_iff := fun other => by
          simp [seen_iff, or_comm, eq_comm]
        fetching := fun other same => by
          cases same
          simpa using notAnswered
        applying := by simp
        applied := by simpa using valid.applied }
  | fail pubkey error isFetching =>
      have notAnswered := valid.fetching pubkey isFetching
      have seen_iff := valid.seen_iff
      simp only [isFetching, ResolvePhase.fetching.injEq] at seen_iff
      exact {
        queued := fun other isQueued => List.mem_cons_of_mem _
          (valid.queued other isQueued)
        onlyReported := (everyFetch_cons (by simp)).mpr valid.onlyReported
        onceApplied := (everyFetch_cons (by simp)).mpr valid.onceApplied
        seen_iff := fun other => by
          by_cases same : other = pubkey
          · subst same
            simp [notAnswered]
          · simp [seen_iff, same, Ne.symm same]
        fetching := by simp
        applying := by simp
        applied := by simpa using valid.applied }
  | succeed pubkey updates isFetching =>
      have seen_iff := valid.seen_iff
      simp only [isFetching, ResolvePhase.fetching.injEq] at seen_iff
      exact {
        queued := fun other isQueued => List.mem_cons_of_mem _
          (valid.queued other isQueued)
        onlyReported := (everyFetch_cons (by simp)).mpr valid.onlyReported
        onceApplied := (everyFetch_cons (by simp)).mpr valid.onceApplied
        seen_iff := fun other => by
          simp only [seen_iff, List.mem_cons, IngestEvent.answered.injEq,
            ResolvePhase.next_ne_fetching, or_false]
          rw [or_comm, eq_comm]
        fetching := fun other same => absurd same ResolvePhase.next_ne_fetching
        applying := fun other update rest same => by
          rw [ResolvePhase.eq_of_next_eq_applying same]
          exact List.mem_cons_self
        applied := fun other applied => List.mem_cons_of_mem _
          (valid.applied other (by simpa using applied)) }
  | dispatch pubkey update rest isApplying =>
      exact (valid.ingest update).recordOutcome isApplying _

theorem ResolverState.Run.valid
    (run : ResolverState.Run registry allowed cache state) : state.Valid := by
  induction run with
  | start => exact valid_start cache
  | step run isAllowed stepEq ih => exact ih.step (stepTo_of_step stepEq)

/-- Dependency resolution loses nothing and repeats nothing. -/
structure ResolverState.Resolves (registry : HandlerRegistry C)
    (state : ResolverState C) : Prop where
  /-- Only dependencies reported as infrequent are fetched. -/
  onlyReported : EveryFetch (fun pubkey earlier =>
    .reported ⟨pubkey, .infrequent⟩ ∈ earlier) state.history
  /-- Nothing is fetched again once its update was applied. -/
  onceApplied : EveryFetch (fun pubkey earlier =>
    .applied pubkey ∉ earlier) state.history
  /-- What is seen, outside its own resolution, was applied. -/
  seenApplied : ∀ pubkey ∈ state.seen, state.phase.pubkey ≠ some pubkey →
    .applied pubkey ∈ state.history
  /-- A report that finds room in the queue is queued. -/
  requeued : ∀ update result before pubkey after,
    (state.ingest.apply registry update).2 = .ok result →
    fetchTargets result = before ++ pubkey :: after →
    state.ingest.queue.length + before.length < depQueueCapacity →
    pubkey ∈ (state.ingest.apply registry update).1.queue
  /-- What is queued and was not applied is fetched when its turn comes. -/
  refetched : ∀ pubkey queue, state.phase = .idle →
    state.ingest.queue = pubkey :: queue → .applied pubkey ∉ state.history →
    ∃ after, state.receive = some after ∧ after.phase = .fetching pubkey

/-- Every fetch that was answered and dealt with had its update applied. -/
def ResolverState.EveryAnswerApplied (state : ResolverState C) : Prop :=
  ∀ pubkey, .answered pubkey ∈ state.history →
    state.phase.pubkey ≠ some pubkey → .applied pubkey ∈ state.history

theorem ResolverState.Valid.seen_iff_answered (valid : state.Valid)
    {pubkey : Pubkey} (elsewhere : state.phase.pubkey ≠ some pubkey) :
    pubkey ∈ state.seen ↔ .answered pubkey ∈ state.history := by
  rw [valid.seen_iff, or_iff_left]
  intro isFetching
  rw [isFetching] at elsewhere
  exact elsewhere rfl

theorem ResolverState.Valid.resolves_iff (registry : HandlerRegistry C)
    (valid : state.Valid) :
    state.Resolves registry ↔ state.EveryAnswerApplied := by
  constructor
  · intro resolves pubkey answered elsewhere
    exact resolves.seenApplied pubkey
      ((valid.seen_iff_answered elsewhere).mpr answered) elsewhere
  · intro everyAnswer
    have seenApplied : ∀ pubkey ∈ state.seen,
        state.phase.pubkey ≠ some pubkey → .applied pubkey ∈ state.history :=
      fun pubkey wasSeen elsewhere => everyAnswer pubkey
        ((valid.seen_iff_answered elsewhere).mp wasSeen) elsewhere
    refine ⟨valid.onlyReported, valid.onceApplied, seenApplied,
      fun update result before pubkey after => mem_queue_of_room, ?_⟩
    intro pubkey queue isIdle isNext notApplied
    have isNew : pubkey ∉ state.seen := fun wasSeen =>
      notApplied (seenApplied pubkey wasSeen (by simp [isIdle,
        ResolvePhase.pubkey]))
    simp [ResolverState.receive, isIdle, isNext, isNew]

/-- A step that does not lose a dependency: an answer has an update, and the
registry takes a fetched update. -/
def Succeeds (registry : HandlerRegistry C) (state : ResolverState C) :
    ResolverStep → Prop
  | .answer (.ok updates) => ∃ update, updates = [some update]
  | .dispatch => ∀ pubkey update rest,
      state.phase = .applying pubkey update rest →
      ∃ result, (registry.dispatch state.ingest.cache update.owner update.pubkey
        update.data update.slot).2 = .ok result
  | _ => True

theorem apply_eq_ok {update : AccountUpdate} {ingest : Ingest C}
    {result : HandleResult}
    (dispatched : (registry.dispatch ingest.cache update.owner update.pubkey
      update.data update.slot).2 = .ok result) :
    (ingest.apply registry update).2 = .ok result := by
  rw [Ingest.apply]
  cases outcome : registry.dispatch ingest.cache update.owner update.pubkey
      update.data update.slot with
  | mk cache result' =>
      rw [outcome] at dispatched
      cases dispatched
      rfl

/-- Along steps that succeed every answer is applied or about to be. -/
theorem ResolverState.Run.answered_of_succeeds
    (run : ResolverState.Run registry (Succeeds registry) cache state) :
    ∀ pubkey, .answered pubkey ∈ state.history →
      .applied pubkey ∈ state.history ∨
        ∃ update rest, state.phase = .applying pubkey update rest := by
  induction run with
  | start => simp [ResolverState.start]
  | @step label before after run succeeds stepEq ih =>
      intro other answered
      cases stepTo_of_step stepEq with
      | stream update =>
          rw [mem_reports_append _ (by simp)] at answered
          rw [mem_reports_append _ (by simp)]
          exact ih other answered
      | skip pubkey queue isIdle isNext wasSeen => exact ih other answered
      | fetch pubkey queue isIdle isNext isNew =>
          have applied := ih other (by simpa using answered)
          simp only [isIdle, reduceCtorEq, exists_false, or_false] at applied
          exact .inl (List.mem_cons_of_mem _ applied)
      | fail pubkey error isFetching =>
          have applied := ih other (by simpa using answered)
          simp only [isFetching, reduceCtorEq, exists_false, or_false] at applied
          exact .inl (List.mem_cons_of_mem _ applied)
      | succeed pubkey updates isFetching =>
          obtain ⟨update, rfl⟩ := succeeds
          rcases List.mem_cons.mp answered with same | answered
          · cases same
            exact .inr ⟨update, [], rfl⟩
          · have applied := ih other answered
            simp only [isFetching, reduceCtorEq, exists_false, or_false]
              at applied
            exact .inl (List.mem_cons_of_mem _ applied)
      | dispatch pubkey update rest isApplying =>
          obtain ⟨result, dispatched⟩ := succeeds pubkey update rest isApplying
          simp only [apply_eq_ok dispatched, dispatchOutcome] at answered ⊢
          rw [List.mem_cons, mem_reports_append _ (by simp)] at answered
          rw [List.mem_cons, mem_reports_append _ (by simp)]
          have answered := ih other (answered.resolve_left (by simp))
          rcases answered with applied | ⟨update', rest', isApplying'⟩
          · exact .inl (.inr applied)
          · rw [isApplying] at isApplying'
            cases isApplying'
            exact .inl (.inl rfl)

/-- In every reachable state resolution has done its work exactly when every
answered fetch had its update applied, and so it has in every state reached by
steps that all succeed. -/
theorem ResolverState.Run.resolves
    (run : ResolverState.Run registry (fun _ _ => True) cache state) :
    (state.Resolves registry ↔ state.EveryAnswerApplied) ∧
      (ResolverState.Run registry (Succeeds registry) cache state →
        state.Resolves registry) := by
  refine ⟨run.valid.resolves_iff registry, fun run => ?_⟩
  refine (run.valid.resolves_iff registry).mpr fun pubkey answered elsewhere => ?_
  refine (run.answered_of_succeeds pubkey answered).resolve_right ?_
  rintro ⟨update, rest, isApplying⟩
  rw [isApplying] at elsewhere
  exact elsewhere rfl

section Config

/-- A handler whose accounts all need the config account `2`. -/
def configHandler : StorageHandler Unit where
  State := Unit
  programId := 1
  discriminator := none
  deserialize _ := .ok ()
  apply cache _ _ _ := (cache, .ok {
    accountsToFetch := [⟨2, .infrequent⟩]
    accountsPendingGrpc := []
    accountsToSubscribe := [] })

def configRegistry : HandlerRegistry Unit :=
  { HandlerRegistry.new with
    fallback := fun owner => if owner = 1 then [configHandler.erase] else [] }

def poolUpdate : AccountUpdate := ⟨5, 1, [], 100⟩

def configUpdate : AccountUpdate := ⟨2, 1, [], 101⟩

/-- The config account was reported, fetched and applied. -/
def configApplied : ResolverState Unit where
  ingest := { cache := (), queue := [2], depsDropped := 0 }
  seen := {2}
  phase := .idle
  history := [.applied 2, .reported ⟨2, .infrequent⟩, .answered 2, .fetched 2,
    .reported ⟨2, .infrequent⟩]

theorem ResolverState.Run.append (steps : List ResolverStep)
    (run : ResolverState.Run registry (fun _ _ => True) cache state)
    (stepsEq : steps.foldlM (fun state label => state.step registry label) state =
      some after) :
    ResolverState.Run registry (fun _ _ => True) cache after := by
  induction steps generalizing state with
  | nil =>
      cases stepsEq
      exact run
  | cons label steps ih =>
      rw [List.foldlM_cons, Option.bind_eq_bind, Option.bind_eq_some_iff]
        at stepsEq
      obtain ⟨next, stepEq, stepsEq⟩ := stepsEq
      exact ih (.step run trivial stepEq) stepsEq

theorem resolves_configApplied :
    (configApplied.Resolves configRegistry ↔ configApplied.EveryAnswerApplied) ∧
      (ResolverState.Run configRegistry (Succeeds configRegistry) ()
        configApplied → configApplied.Resolves configRegistry) :=
  ResolverState.Run.resolves (.append
    [.apply poolUpdate, .receive, .answer (.ok [some configUpdate]), .dispatch]
    .start rfl)

/-- The config account did not exist when it was fetched.  It was reported
again since, and was not fetched again. -/
def configMissing : ResolverState Unit where
  ingest := { cache := (), queue := [], depsDropped := 0 }
  seen := {2}
  phase := .idle
  history := [.reported ⟨2, .infrequent⟩, .answered 2, .fetched 2,
    .reported ⟨2, .infrequent⟩]

theorem configMissing_not_resolves :
    ResolverState.Run configRegistry (fun _ _ => True) () configMissing ∧
      2 ∈ configMissing.seen ∧ configMissing.phase = .idle ∧
      .applied 2 ∉ configMissing.history ∧
      ¬ configMissing.Resolves configRegistry := by
  have notApplied : .applied 2 ∉ configMissing.history := by decide
  refine ⟨.append [.apply poolUpdate, .receive, .answer (.ok [none]),
    .apply poolUpdate, .receive] .start rfl, by decide, rfl, notApplied, ?_⟩
  intro resolves
  exact notApplied (resolves.seenApplied 2 (by decide) (by decide))

end Config

end Storage

end SolanaProtocols
