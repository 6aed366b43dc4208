import SolanaProtocols.KeyTally
import SolanaProtocols.RecordedSwaps
import SolanaProtocols.Undecoded

/-!
# Reports of an extraction

Extraction counts what it could not record: a failure under its protocol and its
kind, and an instruction that does not decode under its shape.  Over a whole run
every instruction of a successful transaction is recorded, counted or one that
records nothing, and on the pump programs only event instructions record nothing.
-/

namespace SolanaProtocols

open Parsing Chain MachineArithmetic KeyTally
open Undecoded (UndecodedState Report)

/-- Short form of a protocol's name. -/
def Protocol.shortName : Protocol → String
  | pumpfun => "pumpfun"
  | pumpSwap => "pumpswap"
  | raydiumV4 => "raydium_v4"
  | raydiumClmm => "raydium_clmm"
  | raydiumCpmm => "raydium_cpmm"
  | raydiumLaunchpad => "raydium_launchpad"
  | meteoraDlmm => "meteora_dlmm"
  | meteoraDbc => "meteora_dbc"
  | meteoraDammV2 => "meteora_damm_v2"

namespace Chain

/-- Stable label for counters. -/
def ExtractError.kind : ExtractError → String
  | accountLayout .. => "account_layout"
  | eventMissing .. => "event_missing"
  | eventUndecodable .. => "event_undecodable"
  | corroboration .. => "corroboration"

/-- What the process counts. -/
structure ReportState where
  failures : Nat
  tally : Counters (String × String)
  undecoded : UndecodedState

/-- What the process starts with, where samples are captured or not. -/
def ReportState.initial (capture : Bool) : ReportState :=
  ⟨0, ∅, { UndecodedState.initial with capture := capture }⟩

section Report

variable (build : Build) (state : ReportState)

/-- Record an extraction failure.  `none` is a panic. -/
def reportExtractFailure (protocol : Protocol) (err : ExtractError) :
    Option ReportState :=
  let key := (protocol.shortName, err.kind)
  (build.add 64 ((state.tally.lookup key).getD 0) 1).map fun count =>
    { state with
      failures := (state.failures + 1) % 2 ^ 64
      tally := state.tally.insert key count }

/-- A rejected instruction as it is reported. -/
def rejected (ix : ParsedInstruction) : Report where
  program := ix.programId
  data := ix.data
  accounts := ix.accounts

/-- Report what became of an instruction, and keep what it records. -/
def note (ix : ParsedInstruction) : ExtractOutcome → Option (ReportState × Option ChainEvent)
  | .recorded event => some (state, some event)
  | .failed protocol err =>
      (reportExtractFailure build state protocol err).map fun state => (state, none)
  | .undecoded =>
      (Undecoded.report build state.undecoded (rejected ix)).map fun undecoded =>
        ({ state with undecoded := undecoded }, none)
  | .nothing => some (state, none)

end Report

section Extract

variable (registry : EventRegistry) (build : Build) (fuel : Nat)

/-- Extract one instruction after the other.  `none` is a panic, or a walk that has
not ended. -/
def extractEach (all : List ParsedInstruction) (state : ReportState) :
    List ParsedInstruction → Option (ReportState × List ChainEvent)
  | [] => some (state, [])
  | ix :: rest => do
      let outcome ← registry.outcome fuel ix all
      let (state, event) ← note build state ix outcome
      let (state, events) ← extractEach all state rest
      return (state, event.toList ++ events)

/-- A transaction with the events that were recorded for it. -/
structure ExtractedTransaction where
  events : List ChainEvent
  instructions : List ParsedInstruction
  tokenBalances : List TokenBalanceChange

/-- A transaction before its instructions are parsed. -/
structure RawTransaction where
  header : TransactionHeader
  accountKeys : List Pubkey
  raws : List RawInstruction
  entries : List LogEntry

def RawTransaction.instructions (tx : RawTransaction) : List ParsedInstruction :=
  parseInstructions tx.accountKeys tx.raws tx.entries

/-- Assemble a transaction from its header and its instructions.  Nothing is kept
of a failed one. -/
def extractAndReport (state : ReportState) (tx : RawTransaction) :
    Option (ReportState × ExtractedTransaction) :=
  if tx.header.success then do
    let (state, events) ← extractEach registry build fuel tx.instructions state
      tx.instructions
    return (state, ⟨events, tx.instructions, tx.header.tokenBalances⟩)
  else some (state, ⟨[], [], []⟩)

/-- Extract transactions as they come. -/
def extractAll (state : ReportState) :
    List RawTransaction → Option (ReportState × List ExtractedTransaction)
  | [] => some (state, [])
  | tx :: txs => do
      let (state, extracted) ← extractAndReport registry build fuel state tx
      let (state, rest) ← extractAll state txs
      return (state, extracted :: rest)

/-- The instructions that are extracted, each with those of its transaction. -/
def executed (txs : List RawTransaction) :
    List (ParsedInstruction × List ParsedInstruction) :=
  txs.flatMap fun tx =>
    if tx.header.success then tx.instructions.map fun ix => (ix, tx.instructions)
    else []

end Extract

/-- An instruction and what became of it. -/
structure Noted where
  ix : ParsedInstruction
  all : List ParsedInstruction
  outcome : ExtractOutcome

namespace ExtractOutcome

/-- What a failure counts under. -/
def label : ExtractOutcome → Option (String × String)
  | failed protocol err => some (protocol.shortName, err.kind)
  | _ => none

def isUndecoded : ExtractOutcome → Bool
  | undecoded => true
  | _ => false

def isNothing : ExtractOutcome → Bool
  | nothing => true
  | _ => false

end ExtractOutcome

namespace Noted

variable (noted : Noted)

def event : Option ChainEvent :=
  noted.outcome.event

def label : Option (String × String) :=
  noted.outcome.label

/-- The report about an instruction that did not decode. -/
def report : Option Report :=
  if noted.outcome.isUndecoded then some (rejected noted.ix) else none

end Noted

section Reported

variable {build : Build} {capture : Bool} {state after : UndecodedState}
  {call : Report} {calls more : List Report}

theorem report_fields (reported : Undecoded.report build state call = some after) :
    after.total = (state.total + 1) % 2 ^ 64 ∧ after.capture = state.capture := by
  rw [Undecoded.report] at reported
  dsimp only at reported
  split_ifs at reported
  · cases reported
    exact ⟨rfl, rfl⟩
  · split at reported
    next existing _ =>
      obtain ⟨seen, -, rfl⟩ := Option.map_eq_some_iff.mp reported
      exact ⟨rfl, rfl⟩
    next =>
      cases reported
      exact ⟨rfl, rfl⟩

theorem reportEach_append :
    Undecoded.reportEach build state (calls ++ more) =
      (Undecoded.reportEach build state calls).bind
        (Undecoded.reportEach build · more) := by
  induction calls generalizing state with
  | nil => rfl
  | cons call calls ih =>
      rw [List.cons_append, Undecoded.reportEach, Undecoded.reportEach, Option.bind_assoc]
      exact congrArg _ (funext fun next => ih)

/-- Reports are counted, whether or not samples are captured. -/
theorem reportEach_fields (few : state.total + calls.length < 2 ^ 64)
    (ran : Undecoded.reportEach build state calls = some after) :
    after.total = state.total + calls.length ∧ after.capture = state.capture := by
  induction calls generalizing state with
  | nil =>
      cases ran
      exact ⟨rfl, rfl⟩
  | cons call calls ih =>
      obtain ⟨next, reported, ran⟩ := Option.bind_eq_some_iff.mp ran
      obtain ⟨totalEq, captureEq⟩ := report_fields reported
      rw [List.length_cons] at few ⊢
      have counted : next.total = state.total + 1 := by
        rw [totalEq, Nat.mod_eq_of_lt (by omega)]
      obtain ⟨totalEq', captureEq'⟩ := ih (by omega) ran
      exact ⟨by omega, captureEq'.trans captureEq⟩

/-- While there are few reports, the next one does not panic. -/
theorem exists_report (few : calls.length + 1 < 2 ^ 64)
    (ran : Undecoded.reportEach build (ReportState.initial capture).undecoded calls =
      some state) :
    ∃ after, Undecoded.report build state call = some after := by
  cases capture with
  | true =>
      have tracks : Undecoded.Tracks ([] ++ calls) state := Undecoded.tracks_start.run ran
      refine tracks.exists_report ((List.countP_le_length).trans_lt ?_)
      rwa [List.nil_append, List.length_append]
  | false =>
      have start : (ReportState.initial false).undecoded.total + calls.length < 2 ^ 64 :=
        (Nat.zero_add _).trans_lt (Nat.lt_of_succ_lt few)
      have uncaptured : state.capture = false := (reportEach_fields start ran).2
      rw [Undecoded.report]
      dsimp only
      rw [uncaptured]
      exact ⟨_, rfl⟩

end Reported

section Accounts

variable {registry : EventRegistry} {build : Build} {capture : Bool} {fuel : Nat}
  {all : List ParsedInstruction} {noted more : List Noted} {next : Noted}
  {state after : ReportState} {events new : List ChainEvent}

/-- The instructions went through their extractors. -/
structure Ran (registry : EventRegistry) (fuel : Nat)
    (calls : List (ParsedInstruction × List ParsedInstruction))
    (noted : List Noted) : Prop where
  calls : noted.map (fun one => (one.ix, one.all)) = calls
  outcomes : ∀ one ∈ noted, registry.outcome fuel one.ix one.all = some one.outcome

theorem Ran.nil : Ran registry fuel [] [] :=
  ⟨rfl, fun _ member => absurd member List.not_mem_nil⟩

theorem Ran.cons {ix : ParsedInstruction} {outcome : ExtractOutcome}
    {calls : List (ParsedInstruction × List ParsedInstruction)}
    (ran : Ran registry fuel calls noted)
    (ended : registry.outcome fuel ix all = some outcome) :
    Ran registry fuel ((ix, all) :: calls) (⟨ix, all, outcome⟩ :: noted) :=
  ⟨congrArg _ ran.calls, List.forall_mem_cons.mpr ⟨ended, ran.outcomes⟩⟩

theorem Ran.append {calls others : List (ParsedInstruction × List ParsedInstruction)}
    (ran : Ran registry fuel calls noted) (later : Ran registry fuel others more) :
    Ran registry fuel (calls ++ others) (noted ++ more) :=
  ⟨by rw [List.map_append, ran.calls, later.calls],
    List.forall_mem_append.mpr ⟨ran.outcomes, later.outcomes⟩⟩

/-- The counters say what became of the instructions. -/
structure Accounts (build : Build) (capture : Bool) (noted : List Noted)
    (state : ReportState) (events : List ChainEvent) : Prop where
  events : events = noted.filterMap Noted.event
  failures : state.failures = (noted.filterMap Noted.label).length
  tally : Tallies (noted.filterMap Noted.label) state.tally
  undecoded : Undecoded.reportEach build (ReportState.initial capture).undecoded
    (noted.filterMap Noted.report) = some state.undecoded

theorem Accounts.initial : Accounts build capture [] (.initial capture) [] where
  events := rfl
  failures := rfl
  tally := tallies_nil
  undecoded := rfl

theorem filterMap_concat {Item Value : Type} (read : Item → Option Value)
    (items : List Item) (item : Item) :
    (items ++ [item]).filterMap read = items.filterMap read ++ (read item).toList := by
  cases value : read item <;> simp [value]

theorem exists_reportExtractFailure {seen : List (String × String)}
    (failures : state.failures = seen.length) (tally : Tallies seen state.tally)
    (few : seen.length + 1 < 2 ^ 64) (protocol : Protocol) (err : ExtractError) :
    ∃ after, reportExtractFailure build state protocol err = some after ∧
      after.failures = (seen ++ [(protocol.shortName, err.kind)]).length ∧
        Tallies (seen ++ [(protocol.shortName, err.kind)]) after.tally ∧
          after.undecoded = state.undecoded := by
  have counted := tally.getD_le (protocol.shortName, err.kind)
  rw [reportExtractFailure, add_eq (by omega)]
  refine ⟨_, rfl, ?_, tally.increment _, rfl⟩
  simp only [failures, List.length_append, List.length_singleton]
  exact Nat.mod_eq_of_lt few

/-- What one more instruction adds to the counters. -/
theorem Accounts.step (accounts : Accounts build capture noted state events)
    (few : noted.length + 1 < 2 ^ 64) (ix : ParsedInstruction)
    (all : List ParsedInstruction) (outcome : ExtractOutcome) :
    ∃ after event, note build state ix outcome = some (after, event) ∧
      Accounts build capture (noted ++ [⟨ix, all, outcome⟩]) after
        (events ++ event.toList) := by
  obtain ⟨eventsEq, failuresEq, tally, undecoded⟩ := accounts
  have labels := List.length_filterMap_le Noted.label noted
  have reports := List.length_filterMap_le Noted.report noted
  cases outcome with
  | recorded event =>
      refine ⟨state, some event, rfl, ?_, ?_, ?_, ?_⟩ <;> rw [filterMap_concat]
      · exact congrArg (· ++ [event]) eventsEq
      · exact failuresEq.trans (congrArg List.length (List.append_nil _).symm)
      · exact (List.append_nil _).symm ▸ tally
      · exact (List.append_nil _).symm ▸ undecoded
  | nothing =>
      refine ⟨state, none, rfl, ?_, ?_, ?_, ?_⟩ <;> rw [filterMap_concat]
      · exact congrArg (· ++ []) eventsEq
      · exact failuresEq.trans (congrArg List.length (List.append_nil _).symm)
      · exact (List.append_nil _).symm ▸ tally
      · exact (List.append_nil _).symm ▸ undecoded
  | failed protocol err =>
      obtain ⟨after, counted, failures, tally, same⟩ := exists_reportExtractFailure
        failuresEq tally (by omega) protocol err
      refine ⟨after, none, by rw [note, counted, Option.map_some], ?_, ?_, ?_, ?_⟩ <;>
        rw [filterMap_concat]
      · exact congrArg (· ++ []) eventsEq
      · exact failures
      · exact tally
      · rw [same]
        exact (List.append_nil _).symm ▸ undecoded
  | undecoded =>
      obtain ⟨after, reported⟩ := exists_report (by omega) undecoded
      refine ⟨{ state with undecoded := after }, none,
        by rw [note, reported, Option.map_some], ?_, ?_, ?_, ?_⟩ <;>
        rw [filterMap_concat]
      · exact congrArg (· ++ []) eventsEq
      · exact failuresEq.trans (congrArg List.length (List.append_nil _).symm)
      · exact (List.append_nil _).symm ▸ tally
      · rw [reportEach_append, undecoded]
        change (Undecoded.report build state.undecoded (rejected ix)).bind some = some after
        rw [reported, Option.bind_some]

/-- One instruction after the other. -/
theorem Accounts.extractEach {rest : List ParsedInstruction}
    (accounts : Accounts build capture noted state events)
    (few : noted.length + rest.length < 2 ^ 64)
    (ends : ∀ ix ∈ rest, ∃ outcome, registry.outcome fuel ix all = some outcome) :
    ∃ after new more, extractEach registry build fuel all state rest = some (after, new) ∧
      Ran registry fuel (rest.map fun ix => (ix, all)) more ∧
        Accounts build capture (noted ++ more) after (events ++ new) := by
  induction rest generalizing noted state events with
  | nil =>
      refine ⟨state, [], [], rfl, .nil, ?_⟩
      rwa [List.append_nil, List.append_nil]
  | cons ix rest ih =>
      rw [List.length_cons] at few
      obtain ⟨outcome, ended⟩ := ends ix List.mem_cons_self
      obtain ⟨next, event, kept, stepped⟩ := accounts.step (by omega) ix all outcome
      obtain ⟨after, new, more, ran, calls, reached⟩ := ih stepped
        (by rw [List.length_append, List.length_singleton]; omega)
        fun other member => ends other (List.mem_cons_of_mem _ member)
      refine ⟨after, event.toList ++ new, ⟨ix, all, outcome⟩ :: more, ?_,
        calls.cons ended, ?_⟩
      · simp only [Chain.extractEach, ended, kept, ran, Option.bind_eq_bind,
          Option.bind_some]
        rfl
      · rwa [List.append_assoc, List.append_assoc] at reached

theorem eq_event_of_note {ix : ParsedInstruction} {outcome : ExtractOutcome}
    {event : Option ChainEvent}
    (noted : note build state ix outcome = some (after, event)) :
    event = outcome.event := by
  cases outcome with
  | recorded | nothing =>
      cases noted
      rfl
  | failed | undecoded =>
      rw [note, Option.map_eq_some_iff] at noted
      obtain ⟨next, -, same⟩ := noted
      exact (Prod.ext_iff.mp same).2.symm

/-- The events are those of the outcomes, whatever is reported. -/
theorem exists_outcomes_of_extractEach
    {rest : List ParsedInstruction}
    (ran : extractEach registry build fuel all state rest = some (after, events)) :
    ∃ outcomes, registry.outcomes fuel all rest = some outcomes ∧
      events = outcomes.filterMap ExtractOutcome.event := by
  induction rest generalizing state events with
  | nil =>
      cases ran
      exact ⟨[], rfl, rfl⟩
  | cons ix rest ih =>
      obtain ⟨outcome, ended, ran⟩ := Option.bind_eq_some_iff.mp ran
      obtain ⟨⟨next, event⟩, noted, ran⟩ := Option.bind_eq_some_iff.mp ran
      obtain ⟨⟨last, later⟩, ranRest, ran⟩ := Option.bind_eq_some_iff.mp ran
      cases ran
      obtain ⟨outcomes, endedRest, rfl⟩ := ih ranRest
      refine ⟨outcome :: outcomes, by simp [EventRegistry.outcomes, ended, endedRest], ?_⟩
      rw [eq_event_of_note noted, List.filterMap_cons]
      cases outcome.event <;> rfl

section Transactions

variable {externals : Externals} {readsOther : List Pubkey → Bytes → Bool}
  {txs : List RawTransaction} {tx : RawTransaction}

theorem executed_cons :
    executed (tx :: txs) = executed [tx] ++ executed txs := by
  simp [executed]

theorem executed_of_success (success : tx.header.success = true) :
    executed [tx] = tx.instructions.map fun ix => (ix, tx.instructions) := by
  simp [executed, success]

/-- The extractors of some instructions end. -/
def Ends (registry : EventRegistry) (fuel : Nat)
    (calls : List (ParsedInstruction × List ParsedInstruction)) : Prop :=
  ∀ call ∈ calls, ∃ outcome, registry.outcome fuel call.1 call.2 = some outcome

/-- One transaction. -/
theorem Accounts.transaction (accounts : Accounts build capture noted state events)
    (few : noted.length + (executed [tx]).length < 2 ^ 64)
    (ends : Ends registry fuel (executed [tx])) :
    ∃ after extracted more,
      extractAndReport registry build fuel state tx = some (after, extracted) ∧
        Ran registry fuel (executed [tx]) more ∧
          Accounts build capture (noted ++ more) after (events ++ extracted.events) := by
  rw [extractAndReport]
  by_cases success : tx.header.success = true
  · rw [executed_of_success success] at few ends ⊢
    rw [List.length_map] at few
    have endsEach : ∀ ix ∈ tx.instructions, ∃ outcome,
        registry.outcome fuel ix tx.instructions = some outcome :=
      fun ix member => ends (ix, tx.instructions) (List.mem_map_of_mem member)
    obtain ⟨after, new, more, ran, called, reached⟩ := accounts.extractEach few endsEach
    refine ⟨after, ⟨new, tx.instructions, tx.header.tokenBalances⟩, more, ?_, called,
      reached⟩
    simp only [if_pos success, ran, Option.bind_eq_bind, Option.bind_some]
    rfl
  · have calls : executed [tx] = [] := by
      simp [executed, success]
    refine ⟨state, ⟨[], [], []⟩, [], if_neg success, calls ▸ .nil, ?_⟩
    rwa [List.append_nil, List.append_nil]

/-- Transactions as they come. -/
theorem Accounts.extractAll (accounts : Accounts build capture noted state events)
    (few : noted.length + (executed txs).length < 2 ^ 64)
    (ends : Ends registry fuel (executed txs)) :
    ∃ after extracted more,
      extractAll registry build fuel state txs = some (after, extracted) ∧
        Ran registry fuel (executed txs) more ∧
          Accounts build capture (noted ++ more) after
            (events ++ extracted.flatMap ExtractedTransaction.events) := by
  induction txs generalizing noted state events with
  | nil =>
      refine ⟨state, [], [], rfl, .nil, ?_⟩
      rwa [List.append_nil, List.flatMap_nil, List.append_nil]
  | cons tx txs ih =>
      rw [executed_cons] at few ends ⊢
      rw [List.length_append] at few
      obtain ⟨endsFirst, endsRest⟩ := List.forall_mem_append.mp ends
      have fewFirst : noted.length + (executed [tx]).length < 2 ^ 64 := by omega
      obtain ⟨next, first, more, ran, called, reached⟩ :=
        accounts.transaction fewFirst endsFirst
      have counted : more.length = (executed [tx]).length := by
        rw [← called.calls, List.length_map]
      obtain ⟨after, rest, later, ranRest, calledRest, reachedRest⟩ := ih reached
        (by rw [List.length_append]; omega) endsRest
      refine ⟨after, first :: rest, more ++ later, ?_, called.append calledRest, ?_⟩
      · simp only [Chain.extractAll, ran, ranRest, Option.bind_eq_bind, Option.bind_some]
        rfl
      · rwa [List.flatMap_cons, ← List.append_assoc, ← List.append_assoc]

theorem ends_of_extractEach {rest : List ParsedInstruction} {new : List ChainEvent}
    (ran : extractEach registry build fuel all state rest = some (after, new)) :
    ∀ ix ∈ rest, ∃ outcome, registry.outcome fuel ix all = some outcome := by
  induction rest generalizing state new with
  | nil => exact fun _ member => absurd member List.not_mem_nil
  | cons ix rest ih =>
      obtain ⟨outcome, ended, ran⟩ := Option.bind_eq_some_iff.mp ran
      obtain ⟨⟨next, event⟩, -, ran⟩ := Option.bind_eq_some_iff.mp ran
      obtain ⟨⟨last, later⟩, ranRest, ran⟩ := Option.bind_eq_some_iff.mp ran
      cases ran
      exact List.forall_mem_cons.mpr ⟨⟨outcome, ended⟩, ih ranRest⟩

theorem ends_of_extractAndReport {parsed : ExtractedTransaction}
    (ran : extractAndReport registry build fuel state tx = some (after, parsed)) :
    Ends registry fuel (executed [tx]) := by
  rw [extractAndReport] at ran
  split_ifs at ran with success
  · obtain ⟨⟨between, new⟩, ranEach, -⟩ := Option.bind_eq_some_iff.mp ran
    rw [executed_of_success success]
    exact List.forall_mem_map.mpr (ends_of_extractEach ranEach)
  · have calls : executed [tx] = [] := by
      simp [executed, success]
    rw [calls]
    exact fun _ member => absurd member List.not_mem_nil

theorem ends_of_extractAll {extracted : List ExtractedTransaction}
    (ran : extractAll registry build fuel state txs = some (after, extracted)) :
    Ends registry fuel (executed txs) := by
  induction txs generalizing state extracted with
  | nil => exact fun _ member => absurd member List.not_mem_nil
  | cons tx txs ih =>
      obtain ⟨⟨next, parsed⟩, ranHere, ran⟩ := Option.bind_eq_some_iff.mp ran
      obtain ⟨⟨last, others⟩, ranRest, ran⟩ := Option.bind_eq_some_iff.mp ran
      cases ran
      rw [executed_cons]
      exact List.forall_mem_append.mpr ⟨ends_of_extractAndReport ranHere, ih ranRest⟩

/-- Extraction that starts with empty reports ends if the extractors do. -/
theorem ends_iff_exists_extractAndReport (capture : Bool)
    (few : (executed [tx]).length < 2 ^ 64) :
    Ends registry fuel (executed [tx]) ↔ ∃ state parsed,
      extractAndReport registry build fuel (.initial capture) tx = some (state, parsed) := by
  have start : Accounts build capture [] (.initial capture) [] := .initial
  constructor
  · intro ends
    obtain ⟨state, parsed, -, ran, -⟩ :=
      start.transaction ((Nat.zero_add _).trans_lt few) ends
    exact ⟨state, parsed, ran⟩
  · rintro ⟨state, parsed, ran⟩
    exact ends_of_extractAndReport ran

theorem ends_iff_exists_extractAll (capture : Bool)
    (few : (executed txs).length < 2 ^ 64) :
    Ends registry fuel (executed txs) ↔ ∃ state extracted,
      extractAll registry build fuel (.initial capture) txs = some (state, extracted) := by
  have start : Accounts build capture [] (.initial capture) [] := .initial
  constructor
  · intro ends
    obtain ⟨state, extracted, -, ran, -⟩ :=
      start.extractAll ((Nat.zero_add _).trans_lt few) ends
    exact ⟨state, extracted, ran⟩
  · rintro ⟨state, extracted, ran⟩
    exact ends_of_extractAll ran

/-- The extractors of executed instructions end unless they panic over fees. -/
theorem ends_iff_feesAddUp
    (registered : EventRegistry.withAllProtocols build externals readsOther = some registry)
    (enough : ∀ tx ∈ txs, tx.raws.length ≤ fuel) :
    Ends registry fuel (executed txs) ↔ FeesAddUp build externals (executed txs) := by
  have panics (call) (member : call ∈ executed txs) :
      registry.outcome fuel call.1 call.2 = none ↔
        build.operators = .panics ∧ call.1.programId = PumpSwap.programId ∧
          PumpSwap.FeesOverflow externals.utf8Error externals.addresses call.1 call.2 := by
    obtain ⟨tx, isTx, member⟩ := List.mem_flatMap.mp member
    split_ifs at member with success
    · obtain ⟨ix, isIx, rfl⟩ := List.mem_map.mp member
      obtain ⟨index, here⟩ := List.mem_iff_getElem?.mp isIx
      exact EventRegistry.outcome_eq_none_iff registered
        (wellParsed_parseInstructions tx.accountKeys tx.raws tx.entries) here
        (length_parseInstructions.trans_le (enough tx isTx))
    · cases member
  have ends (call) (member : call ∈ executed txs) :
      (∃ outcome, registry.outcome fuel call.1 call.2 = some outcome) ↔
        (build.operators = .panics → call.1.programId = PumpSwap.programId →
          ¬PumpSwap.FeesOverflow externals.utf8Error externals.addresses call.1 call.2) := by
    rw [← Option.isSome_iff_exists, Option.isSome_iff_ne_none, ne_eq, panics call member]
    simp only [not_and]
  constructor
  · intro endsAll
    cases operators : build.operators with
    | wraps => exact .inl operators
    | panics =>
        exact .inr fun call member => (ends call member).mp (endsAll call member) operators
  · rintro (wraps | addUp) call member
    · exact (ends call member).mpr fun stops => by cases wraps.symm.trans stops
    · exact (ends call member).mpr fun _ => addUp call member

end Transactions

theorem countP_places (one : Noted) :
    (if one.event.isSome = true then 1 else 0) +
        (if one.label.isSome = true then 1 else 0) +
          (if one.report.isSome = true then 1 else 0) +
            (if one.outcome.isNothing = true then 1 else 0) = 1 := by
  obtain ⟨ix, all, outcome⟩ := one
  cases outcome <;> rfl

theorem length_partition (noted : List Noted) :
    (noted.filterMap Noted.event).length + (noted.filterMap Noted.label).length +
        (noted.filterMap Noted.report).length +
          noted.countP (fun one => one.outcome.isNothing) = noted.length := by
  simp only [List.length_filterMap_eq_countP]
  induction noted with
  | nil => rfl
  | cons one noted ih =>
      have placed := countP_places one
      simp only [List.countP_cons, List.length_cons]
      omega

end Accounts

section Silent

variable {utf8Error : Bytes → String} {addresses : AddressDerivation}
  {ix : ParsedInstruction} {all : List ParsedInstruction}

theorem eventVia_ne_nothing {Event : Type} {event : ProtocolEvent Event}
    {program : Pubkey}
    {build : Event → ParsedInstruction → Except ExtractError ChainEvent} :
    eventVia event program build ix all ≠ .ok none := by
  simp [eventVia, bind_eq_ok_iff, pure, Except.pure]

theorem recordSwap_ne_nothing {swap : Except ExtractError (Option Swap)}
    (records : swap ≠ .ok none) : recordSwap swap ≠ .ok none := by
  rcases swap with err | _ | swap
  · simp [recordSwap, Except.map]
  · exact absurd rfl records
  · simp [recordSwap, Except.map]

theorem isNothing_ofExtracted {protocol : Protocol} {extracted : Extracted}
    (records : extracted ≠ .ok none) :
    (ExtractOutcome.ofExtracted protocol extracted).isNothing = false := by
  rcases extracted with err | _ | record
  · rfl
  · exact absurd rfl records
  · rfl

end Silent

end Chain

namespace Pumpfun

variable {utf8Error : Bytes → String} {addresses : AddressDerivation}
  {ix : ParsedInstruction} {all : List ParsedInstruction}

theorem swapVia_ne_nothing
    {build : TradeEvent → ParsedInstruction → Except ExtractError Swap} :
    swapVia utf8Error build ix all ≠ .ok none := by
  simp [swapVia, bind_eq_ok_iff, pure, Except.pure]

theorem creationVia_ne_nothing
    {build : Option CreateEvent → ParsedInstruction →
      Except ExtractError TokenCreation} :
    creationVia utf8Error ix all build ≠ .ok none := by
  simp [creationVia, bind_eq_ok_iff, pure, Except.pure]

theorem feeVia_ne_nothing {Event : Type} {event : ProtocolEvent Event}
    {fee : Event → CreatorFee} : feeVia ix all event fee ≠ .ok none :=
  eventVia_ne_nothing

theorem eventOf_ne_nothing (parsed : (pumpfunInstruction utf8Error).Instruction) :
    eventOf utf8Error addresses ix all parsed ≠ .ok none := by
  obtain ⟨variant, params⟩ := parsed
  cases variant with
  | buy | buyExactSolIn | sell | buyV2 | buyExactQuoteInV2 | sellV2 =>
      exact recordSwap_ne_nothing swapVia_ne_nothing
  | create | createV2 => exact creationVia_ne_nothing
  | migrate | migrateV2 => exact eventVia_ne_nothing
  | collectCreatorFee | collectCreatorFeeV2 | distributeCreatorFees
  | distributeCreatorFeesV2 => exact feeVia_ne_nothing

theorem isNothing_outcome :
    (outcome utf8Error addresses ix all).isNothing = hasEventTag ix.data := by
  rw [outcome]
  cases tagged : hasEventTag ix.data with
  | true => rfl
  | false =>
      rw [if_neg Bool.false_ne_true]
      cases (pumpfunInstruction utf8Error).tryFromSlice ix.data with
      | error err => rfl
      | ok parsed => exact isNothing_ofExtracted (eventOf_ne_nothing parsed)

end Pumpfun

namespace PumpSwap

variable {build : Build} {utf8Error : Bytes → String} {addresses : AddressDerivation}
  {ix : ParsedInstruction} {all : List ParsedInstruction}

theorem eventOf_ne_nothing {parsed : pumpSwapInstruction.Instruction}
    {extracted : Extracted}
    (ended : eventOf build utf8Error addresses ix all parsed = some extracted) :
    extracted ≠ .ok none := by
  rintro rfl
  obtain ⟨variant, params⟩ := parsed
  cases variant with
  | buy | buyExactQuoteIn | sell =>
      obtain ⟨swap, records⟩ := exists_swap_of_swapEventVia ended
      cases records
  | createPool | collectCoinCreatorFee | deposit | withdraw =>
      exact eventVia_ne_nothing (Option.some.inj ended)

theorem isNothing_outcome {becomes : ExtractOutcome}
    (ended : outcome build utf8Error addresses ix all = some becomes) :
    becomes.isNothing = hasEventTag ix.data := by
  rw [outcome] at ended
  cases tagged : hasEventTag ix.data with
  | true =>
      rw [if_pos tagged] at ended
      cases ended
      rfl
  | false =>
      rw [if_neg (Bool.not_eq_true _ ▸ tagged)] at ended
      cases read : pumpSwapInstruction.tryFromSlice ix.data with
      | error err =>
          rw [read] at ended
          cases ended
          rfl
      | ok parsed =>
          rw [read] at ended
          obtain ⟨extracted, recorded, rfl⟩ := Option.map_eq_some_iff.mp ended
          exact isNothing_ofExtracted (eventOf_ne_nothing recorded)

end PumpSwap

namespace Chain

section Accounted

variable {externals : Externals} {readsOther : List Pubkey → Bytes → Bool}
  {registry : EventRegistry} {build : Build} {capture : Bool} {fuel : Nat}
  {txs : List RawTransaction} {noted : List Noted} {state : ReportState}
  {extracted : List ExtractedTransaction}

/-- Every extracted instruction is accounted for: it is among the recorded events,
the counted failures or the reports, or nothing came of it, which on the pump
programs only happens to event instructions. -/
structure Accounted (registry : EventRegistry) (build : Build) (capture : Bool)
    (fuel : Nat) (txs : List RawTransaction) (noted : List Noted) (state : ReportState)
    (extracted : List ExtractedTransaction) : Prop where
  ran : Ran registry fuel (executed txs) noted
  accounts : Accounts build capture noted state
    (extracted.flatMap ExtractedTransaction.events)
  tallied : (state.tally.entries.map Sigma.snd).sum = state.failures
  conserved : (extracted.flatMap ExtractedTransaction.events).length + state.failures +
    state.undecoded.total + noted.countP (fun one => one.outcome.isNothing) =
      (executed txs).length
  silent : ∀ one ∈ noted,
    one.ix.programId = Pumpfun.programId ∨ one.ix.programId = PumpSwap.programId →
      one.outcome.isNothing = hasEventTag one.ix.data

/-- Extraction of fewer than 2^64 instructions ends unless the build stops over the
fees of one, and when it ends it accounts for each of them. -/
theorem extractions_accounted
    (registered : EventRegistry.withAllProtocols build externals readsOther = some registry)
    (capture : Bool) (few : (executed txs).length < 2 ^ 64)
    (enough : ∀ tx ∈ txs, tx.raws.length ≤ fuel) :
    (FeesAddUp build externals (executed txs) ↔ ∃ state extracted,
        extractAll registry build fuel (.initial capture) txs = some (state, extracted)) ∧
      ∀ state extracted,
        extractAll registry build fuel (.initial capture) txs = some (state, extracted) →
          ∃ noted, Accounted registry build capture fuel txs noted state extracted := by
  have start : Accounts build capture [] (.initial capture) [] := .initial
  refine ⟨(ends_iff_feesAddUp registered enough).symm.trans
    (ends_iff_exists_extractAll capture few), fun state extracted ran => ?_⟩
  obtain ⟨state', extracted', noted, ran', called, accounts⟩ :=
    start.extractAll ((Nat.zero_add _).trans_lt few) (ends_of_extractAll ran)
  cases ran.symm.trans ran'
  rw [List.nil_append, List.nil_append] at accounts
  have counted : noted.length = (executed txs).length := by
    rw [← called.calls, List.length_map]
  refine ⟨noted, called, accounts, ?_, ?_, ?_⟩
  · rw [accounts.tally.sum_eq, accounts.failures]
  · have reports := List.length_filterMap_le Noted.report noted
    have reported := (reportEach_fields (by
      change 0 + (noted.filterMap Noted.report).length < 2 ^ 64
      omega) accounts.undecoded).1
    rw [accounts.events, accounts.failures, reported, ← counted, ← length_partition noted]
    exact congrArg (_ + · + _) (Nat.zero_add _)
  · intro one member pump
    have ended := called.outcomes one member
    rcases EventRegistry.outcome_cases registered one.ix with ⟨-, runs⟩ | ⟨-, runs⟩ |
      ⟨program, -⟩ | ⟨program, -⟩ | ⟨⟨notPumpfun, notPumpSwap, -, -⟩, -⟩
    · rw [runs] at ended
      rw [← Option.some.inj ended, Pumpfun.isNothing_outcome]
    · rw [runs] at ended
      exact PumpSwap.isNothing_outcome ended
    · rw [program] at pump
      exact absurd pump (by decide)
    · rw [program] at pump
      exact absurd pump (by decide)
    · exact absurd pump (not_or.mpr ⟨notPumpfun, notPumpSwap⟩)

/-- A transaction of one pumpfun instruction that does not decode. -/
def oddTransaction : RawTransaction where
  header := { success := true, tokenBalances := [] }
  accountKeys := [Pumpfun.programId]
  raws := [⟨0, [], [1, 2, 3], some 1⟩]
  entries := []

theorem oddTransaction_accounted : ∃ registry,
    EventRegistry.withAllProtocols .debug Pumpfun.plainExternals (fun _ _ => false) =
        some registry ∧
      ∃ noted state extracted,
        extractAll registry .debug 1 (.initial true) [oddTransaction] =
            some (state, extracted) ∧
          Accounted registry .debug true 1 [oddTransaction] noted state extracted := by
  have registered :=
    EventRegistry.withAllProtocols_eq .debug Pumpfun.plainExternals fun _ _ => false
  obtain ⟨ends, accounted⟩ := @extractions_accounted _ _ _ _ 1 [oddTransaction] registered
    true (by decide) (by decide)
  have onPumpfun : ∀ call ∈ executed [oddTransaction],
      call.1.programId = Pumpfun.programId := by decide
  have addUp : FeesAddUp .debug Pumpfun.plainExternals (executed [oddTransaction]) :=
    .of_others fun call member => onPumpfun call member ▸ by decide
  obtain ⟨state, extracted, ran⟩ := ends.mp addUp
  obtain ⟨noted, isAccounted⟩ := accounted state extracted ran
  exact ⟨_, registered, noted, state, extracted, ran, isAccounted⟩

end Accounted

end Chain

end SolanaProtocols
