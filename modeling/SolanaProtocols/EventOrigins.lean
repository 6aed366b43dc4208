import SolanaProtocols.ExtractReports
import SolanaProtocols.SwapOrigins

/-!
# Origins of recorded events

Every recorded event, of whatever kind, is traced to the record that carries what
the program emitted and to the instruction whose accounts and arguments say the
rest.  No record is used twice, so what is added up over the events is what the
programs emitted.
-/

namespace SolanaProtocols

open Parsing Chain Protocols MachineArithmetic

/-- Where a recorded event comes from: its record, if it has one, and the index of
the instruction that it belongs to. -/
structure EventOrigin where
  event : ChainEvent
  record : Option EventRecord
  source : Nat

section Tracing

variable (externals : Externals) (ix : ParsedInstruction)

/-- The discriminator and the body of an event. -/
abbrev Emission := Discriminator × Bytes

/-- A body that decodes as an event. -/
def DecodesAs {Event : Type} (event : ProtocolEvent Event) (value : Event)
    (emission : Emission) : Prop :=
  emission.1 = event.discriminator ∧ event.tryFromSlice emission.2 = .ok value

/-- What an instruction of a protocol and the emission below it say, swaps apart. -/
inductive SaysEvent : Protocol → ChainEvent → Option Emission → Prop
  /-- A graduation is named by the accounts and by the event alike. -/
  | migrate {event : Pumpfun.CompletePumpAmmMigrationEvent} {emission : Emission}
      {accounts : Opened Pumpfun.MigrateAccounts}
      (decoded : DecodesAs Pumpfun.CompletePumpAmmMigrationEvent.protocolEvent event
        emission)
      (read : Pumpfun.MigrateAccounts.struct.fromAccountKeys ix.accounts = .ok accounts)
      (agree : event.mint = accounts.declared.mint ∧
        event.bondingCurve = accounts.declared.bondingCurve ∧
          event.pool = accounts.declared.pool) :
      SaysEvent .pumpfun (.migration event.migration) (some emission)
  | migrateV2 {event : Pumpfun.CompletePumpAmmMigrationEvent} {emission : Emission}
      {accounts : Opened Pumpfun.MigrateV2Accounts}
      (decoded : DecodesAs Pumpfun.CompletePumpAmmMigrationEvent.protocolEvent event
        emission)
      (read : Pumpfun.MigrateV2Accounts.struct.fromAccountKeys ix.accounts = .ok accounts)
      (agree : event.mint = accounts.declared.baseMint ∧
        event.bondingCurve = accounts.declared.bondingCurve ∧
          event.pool = accounts.declared.pool) :
      SaysEvent .pumpfun (.migration event.migration) (some emission)
  /-- A creation is the instruction's, and the event adds to it where there is one. -/
  | create {params : Pumpfun.CreateParams} {accounts : Pumpfun.CreateAccounts}
      {event : Option Pumpfun.CreateEvent} {emission : Option Emission}
      (instruction : (Pumpfun.pumpfunInstruction externals.utf8Error).tryFromSlice
        ix.data = .ok ⟨.create, params⟩)
      (read : ix.accounts = Pumpfun.CreateAccounts.struct.keys accounts)
      (decoded : Option.Rel
        (DecodesAs (Pumpfun.CreateEvent.protocolEvent externals.utf8Error)) event
        emission) :
      SaysEvent .pumpfun (.tokenCreation (Pumpfun.creationOf accounts.mint
        accounts.bondingCurve accounts.user params.name params.symbol params.uri event))
        emission
  | createV2 {params : Pumpfun.CreateV2Params} {accounts : Opened Pumpfun.CreateV2Accounts}
      {event : Option Pumpfun.CreateEvent} {emission : Option Emission}
      (instruction : (Pumpfun.pumpfunInstruction externals.utf8Error).tryFromSlice
        ix.data = .ok ⟨.createV2, params⟩)
      (read : Pumpfun.CreateV2Accounts.struct.fromAccountKeys ix.accounts = .ok accounts)
      (decoded : Option.Rel
        (DecodesAs (Pumpfun.CreateEvent.protocolEvent externals.utf8Error)) event
        emission) :
      SaysEvent .pumpfun (.tokenCreation (Pumpfun.creationOf accounts.declared.mint
        accounts.declared.bondingCurve
        (if params.creator = 0 then accounts.declared.user else params.creator)
        params.name params.symbol params.uri event)) emission
  | collected {event : Pumpfun.CollectCreatorFeeEvent} {emission : Emission}
      (decoded : DecodesAs Pumpfun.CollectCreatorFeeEvent.protocolEvent event emission) :
      SaysEvent .pumpfun (.creatorFee (Pumpfun.collected event)) (some emission)
  | distributed {event : Pumpfun.DistributeCreatorFeesEvent} {emission : Emission}
      (decoded : DecodesAs Pumpfun.DistributeCreatorFeesEvent.protocolEvent event
        emission) :
      SaysEvent .pumpfun (.creatorFee (Pumpfun.distributed event)) (some emission)
  | deposited {event : PumpSwap.DepositEvent} {emission : Emission}
      {accounts : PumpSwap.DepositAccounts}
      (decoded : DecodesAs PumpSwap.DepositEvent.protocolEvent event emission)
      (read : ix.accounts = PumpSwap.DepositAccounts.struct.keys accounts)
      (agree : event.pool = accounts.pool) :
      SaysEvent .pumpSwap (.liquidity (event.liquidity accounts.pool)) (some emission)
  | withdrawn {event : PumpSwap.WithdrawEvent} {emission : Emission}
      {accounts : PumpSwap.WithdrawAccounts}
      (decoded : DecodesAs PumpSwap.WithdrawEvent.protocolEvent event emission)
      (read : ix.accounts = PumpSwap.WithdrawAccounts.struct.keys accounts)
      (agree : event.pool = accounts.pool) :
      SaysEvent .pumpSwap (.liquidity (event.liquidity accounts.pool)) (some emission)
  /-- The event of an opened pool says the amounts, and nothing in it is compared. -/
  | opened {event : PumpSwap.CreatePoolEvent} {emission : Emission}
      {accounts : PumpSwap.CreatePoolAccounts}
      (decoded : DecodesAs PumpSwap.CreatePoolEvent.protocolEvent event emission)
      (read : ix.accounts = PumpSwap.CreatePoolAccounts.struct.keys accounts) :
      SaysEvent .pumpSwap (.migration (event.migration externals.addresses
        accounts.baseMint accounts.pool)) (some emission)
  | coinCreatorFee {event : PumpSwap.CollectCoinCreatorFeeEvent} {emission : Emission}
      {accounts : PumpSwap.CollectCoinCreatorFeeAccounts}
      (decoded : DecodesAs PumpSwap.CollectCoinCreatorFeeEvent.protocolEvent event
        emission)
      (read : ix.accounts =
        PumpSwap.CollectCoinCreatorFeeAccounts.struct.keys accounts) :
      SaysEvent .pumpSwap (.creatorFee (event.creatorFee accounts.quoteMint))
        (some emission)

variable (all : List ParsedInstruction) (entries : List LogEntry)
  (skips : ParsedInstruction → Prop)

/-- A record of a protocol that carries an emission and belongs to an instruction. -/
structure Holds (protocol : Protocol) (source : Nat) (record : EventRecord)
    (emission : Emission) : Prop where
  carries : record.Carries all entries protocol.programId emission.1 emission.2
  fromSource : FromSource all entries skips protocol record source

/-- The event is what its record and its instruction say. -/
inductive EventOrigin.Traced : EventOrigin → Prop
  | swap {swap : Swap} {record : EventRecord} {source : Nat}
      (traced : SwapOrigin.Traced externals all entries skips ⟨swap, record, source⟩) :
      Traced ⟨.swap swap, some record, source⟩
  | other {event : ChainEvent} {record : Option EventRecord} {source : Nat}
      {ix : ParsedInstruction} {protocol : Protocol} {emission : Option Emission}
      (there : all[source]? = some ix) (program : ix.programId = protocol.programId)
      (said : SaysEvent externals ix protocol event emission)
      (holds : Option.Rel (Holds all entries skips protocol source) record emission) :
      Traced ⟨event, record, source⟩

/-- Every event has an origin, no two have the same record, and only a DAMM v2
instruction is the source of two. -/
def EventsCountedOnce (events : List ChainEvent) : Prop :=
  ∃ origins : List EventOrigin, origins.map EventOrigin.event = events ∧
    (∀ origin ∈ origins, origin.Traced externals all entries skips) ∧
      (origins.filterMap EventOrigin.record).Nodup ∧
        origins.Pairwise fun first second => first.source = second.source →
          ∃ ix, all[first.source]? = some ix ∧
            ix.programId = MeteoraDammV2.programId

end Tracing

section Emission

variable {externals : Externals} {readsOther : List Pubkey → Bytes → Bool}
  {all : List ParsedInstruction} {entries : List LogEntry}
  {skips : ParsedInstruction → Prop} {ix : ParsedInstruction} {index fuel : Nat}
  {event : ChainEvent}

/-- An event with its origin that the instruction at an index emits. -/
structure EmitsEvent (externals : Externals) (all : List ParsedInstruction)
    (entries : List LogEntry) (skips : ParsedInstruction → Prop) (index : Nat)
    (origin : EventOrigin) : Prop where
  traced : origin.Traced externals all entries skips
  emittedAt : ∀ record ∈ origin.record, EmittedAt all entries record index
  ownSource : origin.source = index ∨ ∃ ix, all[origin.source]? = some ix ∧
    ix.programId = MeteoraDammV2.programId

theorem exists_holds_of_childEvent {Event : Type} {expected : ProtocolEvent Event}
    {protocol : Protocol} {value : Event} (wellParsed : WellParsed all entries)
    (here : all[index]? = some ix) (pump : protocol ∈ [.pumpfun, .pumpSwap])
    (found : childEvent expected ix all protocol.programId = .ok value) :
    ∃ record emission, DecodesAs expected value emission ∧
      Holds all entries skips protocol index record emission ∧
        EmittedAt all entries record index := by
  have notDamm : protocol.programId ≠ MeteoraDammV2.programId := by
    intro same
    have protocolEq := Protocol.programId_injective
      (same.trans (rfl : _ = Protocol.meteoraDammV2.programId))
    rw [protocolEq] at pump
    exact absurd pump (by decide)
  obtain ⟨record, body, decoded, carries, fromSource, emittedAt⟩ :=
    exists_record_of_childEvent wellParsed here notDamm pump found
  exact ⟨record, ⟨_, body⟩, ⟨rfl, decoded⟩, ⟨carries, fromSource⟩, emittedAt⟩

theorem emitsEvent_of_childEvent {Event : Type} {expected : ProtocolEvent Event}
    {protocol : Protocol} {value : Event} (wellParsed : WellParsed all entries)
    (here : all[index]? = some ix) (program : ix.programId = protocol.programId)
    (pump : protocol ∈ [.pumpfun, .pumpSwap])
    (found : childEvent expected ix all protocol.programId = .ok value)
    (said : ∀ emission, DecodesAs expected value emission →
      SaysEvent externals ix protocol event (some emission)) :
    ∃ origin, origin.event = event ∧
      EmitsEvent externals all entries skips index origin := by
  obtain ⟨record, emission, decoded, holds, emittedAt⟩ :=
    exists_holds_of_childEvent wellParsed here pump found
  refine ⟨⟨event, some record, index⟩, rfl,
    .other here program (said emission decoded) (.some holds), ?_, .inl rfl⟩
  rintro _ ⟨⟩
  exact emittedAt

theorem emitsEvent_of_creation {event : Option Pumpfun.CreateEvent}
    {record : ChainEvent} (wellParsed : WellParsed all entries)
    (here : all[index]? = some ix)
    (program : ix.programId = Protocol.pumpfun.programId)
    (found : optionalChildEvent (Pumpfun.CreateEvent.protocolEvent externals.utf8Error)
      ix all Pumpfun.programId = .ok event)
    (said : ∀ emission, Option.Rel
        (DecodesAs (Pumpfun.CreateEvent.protocolEvent externals.utf8Error)) event
        emission → SaysEvent externals ix .pumpfun record emission) :
    ∃ origin, origin.event = record ∧
      EmitsEvent externals all entries skips index origin := by
  cases event with
  | none =>
      refine ⟨⟨record, none, index⟩, rfl, .other here program (said none .none) .none,
        ?_, .inl rfl⟩
      rintro _ ⟨⟩
  | some value =>
      have foundChild : childEvent
          (Pumpfun.CreateEvent.protocolEvent externals.utf8Error) ix all
          Protocol.pumpfun.programId = .ok value := by
        rw [optionalChildEvent] at found
        split at found
        next value' here' =>
          cases found
          exact here'
        next => cases found
        next => cases found
      exact emitsEvent_of_childEvent wellParsed here program (by decide) foundChild
        fun emission decoded => said (some emission) (.some decoded)

/-- What the pumpfun extractor records besides swaps. -/
theorem emitsEvent_pumpfun (wellParsed : WellParsed all entries)
    (here : all[index]? = some ix)
    (program : ix.programId = Protocol.pumpfun.programId)
    (recorded : (Pumpfun.outcome externals.utf8Error externals.addresses ix all).event =
      some event) (noSwap : event.asSwap = none) :
    ∃ origin, origin.event = event ∧
      EmitsEvent externals all entries skips index origin := by
  rw [Pumpfun.outcome] at recorded
  split_ifs at recorded
  · cases recorded
  split at recorded
  next => cases recorded
  next parsed instruction =>
    have recorded := ExtractOutcome.event_ofExtracted_eq_some_iff.mp recorded
    obtain ⟨variant, params⟩ := parsed
    cases variant with
    | buy | buyExactSolIn | sell | buyV2 | buyExactQuoteInV2 | sellV2 =>
        obtain ⟨swap, -, rfl⟩ := recordSwap_eq_ok_iff.mp recorded
        cases noSwap
    | create =>
        obtain ⟨found, creation, optional, built, rfl⟩ :=
          Pumpfun.creationVia_eq_ok_iff.mp recorded
        obtain ⟨accounts, read, rfl⟩ :=
          Pumpfun.CreateParams.creation_eq_ok_iff.mp built
        exact emitsEvent_of_creation wellParsed here program optional
          fun emission decoded => .create instruction read decoded
    | createV2 =>
        obtain ⟨found, creation, optional, built, rfl⟩ :=
          Pumpfun.creationVia_eq_ok_iff.mp recorded
        obtain ⟨accounts, read, rfl⟩ :=
          Pumpfun.CreateV2Params.creation_eq_ok_iff.mp built
        exact emitsEvent_of_creation wellParsed here program optional
          fun emission decoded => .createV2 instruction read decoded
    | migrate =>
        obtain ⟨value, found, built⟩ := eventVia_eq_ok_iff.mp recorded
        obtain ⟨accounts, read, agree, rfl⟩ :=
          Pumpfun.MigrateParams.migration_eq_ok_iff.mp built
        exact emitsEvent_of_childEvent wellParsed here program (by decide) found
          fun emission decoded => .migrate decoded read agree
    | migrateV2 =>
        obtain ⟨value, found, built⟩ := eventVia_eq_ok_iff.mp recorded
        obtain ⟨accounts, read, agree, rfl⟩ :=
          Pumpfun.MigrateV2Params.migration_eq_ok_iff.mp built
        exact emitsEvent_of_childEvent wellParsed here program (by decide) found
          fun emission decoded => .migrateV2 decoded read agree
    | collectCreatorFee | collectCreatorFeeV2 =>
        obtain ⟨value, found, rfl⟩ := Pumpfun.feeVia_eq_ok_iff.mp recorded
        exact emitsEvent_of_childEvent wellParsed here program (by decide) found
          fun emission decoded => .collected decoded
    | distributeCreatorFees | distributeCreatorFeesV2 =>
        obtain ⟨value, found, rfl⟩ := Pumpfun.feeVia_eq_ok_iff.mp recorded
        exact emitsEvent_of_childEvent wellParsed here program (by decide) found
          fun emission decoded => .distributed decoded

/-- What the PumpSwap extractor records besides swaps. -/
theorem emitsEvent_pumpSwap (wellParsed : WellParsed all entries)
    (here : all[index]? = some ix)
    (program : ix.programId = Protocol.pumpSwap.programId)
    {build : Build} {becomes : ExtractOutcome}
    (ended : PumpSwap.outcome build externals.utf8Error externals.addresses ix all =
      some becomes)
    (recorded : becomes.event = some event) (noSwap : event.asSwap = none) :
    ∃ origin, origin.event = event ∧
      EmitsEvent externals all entries skips index origin := by
  rw [PumpSwap.outcome] at ended
  split_ifs at ended
  · cases ended
    cases recorded
  split at ended
  next =>
    cases ended
    cases recorded
  next parsed instruction =>
    obtain ⟨extracted, read, rfl⟩ := Option.map_eq_some_iff.mp ended
    obtain rfl := ExtractOutcome.event_ofExtracted_eq_some_iff.mp recorded
    obtain ⟨variant, params⟩ := parsed
    cases variant with
    | buy | buyExactQuoteIn | sell =>
        obtain ⟨swap, records⟩ := PumpSwap.exists_swap_of_swapEventVia read
        cases records
        cases noSwap
    | createPool =>
        obtain ⟨value, found, built⟩ := eventVia_eq_ok_iff.mp (Option.some.inj read)
        obtain ⟨accounts, opened, rfl⟩ :=
          PumpSwap.CreatePoolParams.migration_eq_ok_iff.mp built
        exact emitsEvent_of_childEvent wellParsed here program (by decide) found
          fun emission decoded => .opened decoded opened
    | collectCoinCreatorFee =>
        obtain ⟨value, found, built⟩ := eventVia_eq_ok_iff.mp (Option.some.inj read)
        obtain ⟨accounts, opened, rfl⟩ :=
          PumpSwap.CollectCoinCreatorFeeParams.creatorFee_eq_ok_iff.mp built
        exact emitsEvent_of_childEvent wellParsed here program (by decide) found
          fun emission decoded => .coinCreatorFee decoded opened
    | deposit =>
        obtain ⟨value, found, built⟩ := eventVia_eq_ok_iff.mp (Option.some.inj read)
        obtain ⟨accounts, opened, agree, rfl⟩ :=
          PumpSwap.DepositParams.liquidity_eq_ok_iff.mp built
        exact emitsEvent_of_childEvent wellParsed here program (by decide) found
          fun emission decoded => .deposited decoded opened agree
    | withdraw =>
        obtain ⟨value, found, built⟩ := eventVia_eq_ok_iff.mp (Option.some.inj read)
        obtain ⟨accounts, opened, agree, rfl⟩ :=
          PumpSwap.WithdrawParams.liquidity_eq_ok_iff.mp built
        exact emitsEvent_of_childEvent wellParsed here program (by decide) found
          fun emission decoded => .withdrawn decoded opened agree

theorem isSwap_of_ofOption {found : Option Swap}
    (recorded : (ExtractOutcome.ofOption (found.map .swap)).event = some event) :
    event.asSwap ≠ none := by
  cases found with
  | none => cases recorded
  | some swap =>
      cases recorded
      exact Option.some_ne_none swap

theorem MeteoraDlmm.isSwap_of_outcome {sdk : Sdk}
    (recorded : (outcome sdk readsOther ix all).event = some event) :
    event.asSwap ≠ none := by
  rw [outcome] at recorded
  cases tagged : hasEventTag ix.data with
  | true =>
      rw [if_pos tagged] at recorded
      cases recorded
  | false =>
      rw [if_neg (Bool.not_eq_true _ ▸ tagged)] at recorded
      split at recorded
      next => exact isSwap_of_ofOption recorded
      next => split at recorded <;> cases recorded

theorem emitsEvent_of_swap {registry : EventRegistry} {outcome : ExtractOutcome} {swap : Swap}
    (wellParsed : WellParsed all entries)
    (registered : EventRegistry.withAllProtocols build externals readsOther = some registry)
    (here : all[index]? = some ix)
    (ended : registry.outcome fuel ix all = some outcome)
    (recorded : outcome.event = some (.swap swap)) :
    ∃ origin, origin.event = .swap swap ∧
      EmitsEvent externals all entries NotOuterSwap index origin := by
  have extracted := EventRegistry.extract_of_outcome registered
    (withAllProtocols_eq externals) ended
  rw [ExtractOutcome.swap, recorded, Option.bind_some] at extracted
  obtain ⟨origin, rfl, emits⟩ := emits_of_extract wellParsed
    (withAllProtocols_eq externals) here extracted
  refine ⟨⟨.swap origin.swap, some origin.record, origin.source⟩, rfl,
    .swap emits.traced, ?_, ?_⟩
  · rintro _ ⟨⟩
    exact emits.emittedAt
  · obtain ⟨source, there, program, -⟩ := emits.traced.parties
    rcases emits.ownSource with isDamm | own
    · exact .inr ⟨source, there, by rw [program, isDamm]; rfl⟩
    · exact .inl own

theorem emitsEvent_of_outcome {registry : EventRegistry} {outcome : ExtractOutcome}
    (wellParsed : WellParsed all entries)
    (registered : EventRegistry.withAllProtocols build externals readsOther = some registry)
    (here : all[index]? = some ix)
    (ended : registry.outcome fuel ix all = some outcome)
    (recorded : outcome.event = some event) :
    ∃ origin, origin.event = event ∧
      EmitsEvent externals all entries NotOuterSwap index origin := by
  cases isSwap : event.asSwap with
  | some swap =>
      cases event with
      | swap record => exact emitsEvent_of_swap wellParsed registered here ended recorded
      | _ => cases isSwap
  | none =>
      rcases EventRegistry.outcome_cases registered ix with ⟨program, runs⟩ |
        ⟨program, runs⟩ | ⟨-, runs⟩ | ⟨-, runs⟩ | ⟨-, runs⟩
      · rw [runs] at ended
        cases ended
        exact emitsEvent_pumpfun wellParsed here program recorded isSwap
      · rw [runs] at ended
        exact emitsEvent_pumpSwap wellParsed here program ended recorded isSwap
      · rw [runs] at ended
        cases ended
        exact absurd isSwap (MeteoraDlmm.isSwap_of_outcome recorded)
      · rw [runs, MeteoraDammV2.outcome] at ended
        obtain ⟨found, -, rfl⟩ := Option.map_eq_some_iff.mp ended
        exact absurd isSwap (isSwap_of_ofOption recorded)
      · rw [runs] at ended
        cases ended
        cases recorded

/-- Two events have different records, and different sources unless these are DAMM
v2 instructions. -/
def EventOrigin.Apart (all : List ParsedInstruction) (first second : EventOrigin) :
    Prop :=
  (∀ one ∈ first.record, ∀ other ∈ second.record, one ≠ other) ∧
    (first.source = second.source → ∃ ix, all[first.source]? = some ix ∧
      ix.programId = MeteoraDammV2.programId)

theorem EventOrigin.apart_of_emits {first second : EventOrigin} {earlier later : Nat}
    (different : earlier ≠ later)
    (atEarlier : EmitsEvent externals all entries skips earlier first)
    (atLater : EmitsEvent externals all entries skips later second) :
    first.Apart all second := by
  constructor
  · rintro one isFirst _ isSecond rfl
    exact different ((atEarlier.emittedAt one isFirst).unique
      (atLater.emittedAt one isSecond))
  · intro sameSource
    rcases atEarlier.ownSource with firstSource | damm
    · rcases atLater.ownSource with secondSource | damm
      · exact absurd (firstSource.symm.trans (sameSource.trans secondSource)) different
      · rwa [sameSource]
    · exact damm

/-- The instructions from one on record events with origins of their own. -/
theorem exists_eventOrigins {registry : EventRegistry}
    (wellParsed : WellParsed all entries)
    (registered : EventRegistry.withAllProtocols build externals readsOther = some registry)
    {before rest : List ParsedInstruction} (allEq : all = before ++ rest)
    {outcomes : List ExtractOutcome}
    (ended : registry.outcomes fuel all rest = some outcomes) :
    ∃ origins : List EventOrigin,
      origins.map EventOrigin.event = outcomes.filterMap ExtractOutcome.event ∧
        (∀ origin ∈ origins, ∃ index, before.length ≤ index ∧
          EmitsEvent externals all entries NotOuterSwap index origin) ∧
            origins.Pairwise (EventOrigin.Apart all) := by
  induction rest generalizing before outcomes with
  | nil =>
      cases ended
      exact ⟨[], rfl, fun _ member => absurd member List.not_mem_nil, .nil⟩
  | cons ix rest ih =>
      have here : all[before.length]? = some ix := by simp [allEq]
      have restEq : all = (before ++ [ix]) ++ rest := by simp [allEq]
      obtain ⟨outcome, endedHere, ended⟩ := Option.bind_eq_some_iff.mp ended
      obtain ⟨others, endedRest, ended⟩ := Option.bind_eq_some_iff.mp ended
      cases ended
      obtain ⟨origins, events, emitted, apart⟩ := ih restEq endedRest
      simp only [List.length_append, List.length_singleton] at emitted
      cases recorded : outcome.event with
      | none =>
          refine ⟨origins, by rw [List.filterMap_cons_none recorded, events],
            fun origin member => ?_, apart⟩
          obtain ⟨index, after, emits⟩ := emitted origin member
          exact ⟨index, (Nat.le_succ _).trans after, emits⟩
      | some event =>
          obtain ⟨first, rfl, emitsFirst⟩ :=
            emitsEvent_of_outcome wellParsed registered here endedHere recorded
          refine ⟨first :: origins, by rw [List.filterMap_cons_some recorded,
            List.map_cons, events], fun origin member => ?_, List.pairwise_cons.mpr
              ⟨fun origin member => ?_, apart⟩⟩
          · rcases List.mem_cons.mp member with rfl | member
            · exact ⟨_, le_rfl, emitsFirst⟩
            · obtain ⟨index, after, emits⟩ := emitted origin member
              exact ⟨index, (Nat.le_succ _).trans after, emits⟩
          · obtain ⟨index, after, emits⟩ := emitted origin member
            exact EventOrigin.apart_of_emits (Nat.ne_of_lt after) emitsFirst emits

end Emission

section Runs

variable {externals : Externals} {readsOther : List Pubkey → Bytes → Bool}
  {registry : EventRegistry} {build : Build} {fuel : Nat}
  {state after : ReportState} {tx : RawTransaction} {txs : List RawTransaction}
  {parsed : ExtractedTransaction} {extracted : List ExtractedTransaction}

theorem eventsCountedOnce_of_extractAndReport
    (registered : EventRegistry.withAllProtocols build externals readsOther = some registry)
    (ran : extractAndReport registry build fuel state tx = some (after, parsed)) :
    EventsCountedOnce externals tx.instructions tx.entries NotOuterSwap parsed.events := by
  rw [extractAndReport] at ran
  split_ifs at ran with success
  · obtain ⟨⟨next, events⟩, ranEach, ran⟩ := Option.bind_eq_some_iff.mp ran
    cases ran
    obtain ⟨outcomes, ended, rfl⟩ := exists_outcomes_of_extractEach ranEach
    obtain ⟨origins, eventsEq, emitted, apart⟩ := exists_eventOrigins
      (wellParsed_parseInstructions tx.accountKeys tx.raws tx.entries) registered
      (List.nil_append _).symm ended
    refine ⟨origins, eventsEq, fun origin member => ?_, ?_, apart.imp And.right⟩
    · obtain ⟨index, -, emits⟩ := emitted origin member
      exact emits.traced
    · exact List.Pairwise.filterMap _ (fun first second apart one isFirst other isSecond =>
        apart.1 one isFirst other isSecond) apart
  · cases ran
    exact ⟨[], rfl, fun _ member => absurd member List.not_mem_nil, List.nodup_nil, .nil⟩

theorem eventsCountedOnce_of_extractAll
    (registered : EventRegistry.withAllProtocols build externals readsOther = some registry)
    (ran : extractAll registry build fuel state txs = some (after, extracted)) :
    List.Forall₂ (fun tx parsed => EventsCountedOnce externals tx.instructions tx.entries
      NotOuterSwap parsed.events) txs extracted := by
  induction txs generalizing state extracted with
  | nil =>
      cases ran
      exact .nil
  | cons tx txs ih =>
      obtain ⟨⟨next, parsed⟩, ranHere, ran⟩ := Option.bind_eq_some_iff.mp ran
      obtain ⟨⟨last, others⟩, ranRest, ran⟩ := Option.bind_eq_some_iff.mp ran
      cases ran
      exact .cons (eventsCountedOnce_of_extractAndReport registered ranHere) (ih ranRest)

/-- Extraction ends unless the build stops over fees, and when it ends no event is
counted twice. -/
theorem extractions_counted_once
    (registered : EventRegistry.withAllProtocols build externals readsOther = some registry)
    (capture : Bool) (few : (executed txs).length < 2 ^ 64)
    (enough : ∀ tx ∈ txs, tx.raws.length ≤ fuel) :
    (FeesAddUp build externals (executed txs) ↔ ∃ state extracted,
        extractAll registry build fuel (.initial capture) txs = some (state, extracted)) ∧
      ∀ state extracted,
        extractAll registry build fuel (.initial capture) txs = some (state, extracted) →
          List.Forall₂ (fun tx parsed => EventsCountedOnce externals tx.instructions
            tx.entries NotOuterSwap parsed.events) txs extracted := by
  refine ⟨(ends_iff_feesAddUp registered enough).symm.trans
    (ends_iff_exists_extractAll capture few), fun state extracted ran => ?_⟩
  exact eventsCountedOnce_of_extractAll registered ran

/-- A creator, the key `5`, collects ten lamports. -/
def feeTransaction : RawTransaction where
  header := { success := true, tokenBalances := [] }
  accountKeys := [Pumpfun.programId]
  raws :=
    [⟨0, [], (Pumpfun.instructionDiscriminator .collectCreatorFee).toList, some 1⟩,
      ⟨0, [], eventData Pumpfun.CollectCreatorFeeEvent.protocolEvent.discriminator
        (Pumpfun.CollectCreatorFeeEvent.fields.encode ⟨0, 5, 10, wsol⟩), some 2⟩]
  entries := []

theorem feeTransaction_counted_once : ∃ registry,
    EventRegistry.withAllProtocols .debug Pumpfun.plainExternals (fun _ _ => false) =
        some registry ∧
      ∃ state extracted,
        extractAll registry .debug 2 (.initial false) [feeTransaction] =
            some (state, extracted) ∧
          List.Forall₂ (fun tx parsed => EventsCountedOnce Pumpfun.plainExternals
            tx.instructions tx.entries NotOuterSwap parsed.events) [feeTransaction]
            extracted := by
  have registered :=
    EventRegistry.withAllProtocols_eq .debug Pumpfun.plainExternals fun _ _ => false
  obtain ⟨ends, countedOnce⟩ := @extractions_counted_once _ _ _ _ 2 [feeTransaction]
    registered false (by decide) (by decide)
  have onPumpfun : ∀ call ∈ executed [feeTransaction],
      call.1.programId = Pumpfun.programId := by decide
  have addUp : FeesAddUp .debug Pumpfun.plainExternals (executed [feeTransaction]) :=
    .of_others fun call member => onPumpfun call member ▸ by decide
  obtain ⟨state, extracted, ran⟩ := ends.mp addUp
  exact ⟨_, registered, state, extracted, ran, countedOnce state extracted ran⟩

end Runs

end SolanaProtocols
