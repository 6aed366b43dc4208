import SolanaProtocols.Corroboration
import SolanaProtocols.InstructionFlatten
import SolanaProtocols.TokenBalances

/-!
# Extracting a transaction

The registry dispatches every instruction of a transaction to the extractor of
its program, and `extractTransaction` collects what they record.  Only the swaps
are kept here.  The walk up of DAMM v2 takes a bound, and an extraction whose
walks have not ended is `none`.
-/

namespace SolanaProtocols

open Parsing Chain

namespace Chain

/-- An extractor, given a bound for its walks. -/
abbrev ExtractFn :=
  Nat → ParsedInstruction → List ParsedInstruction → Option (Option Swap)

/-- Extractors by program. -/
structure ExtractorRegistry where
  byProgram : List (Pubkey × ExtractFn)

namespace ExtractorRegistry

def new : ExtractorRegistry where
  byProgram := []

/-- Register one protocol's extractor.  `none` is the panic on a duplicate. -/
def register (registry : ExtractorRegistry) (programId : Pubkey)
    (extract : ExtractFn) : Option ExtractorRegistry :=
  if (registry.byProgram.lookup programId).isSome then none
  else some { byProgram := (programId, extract) :: registry.byProgram }

/-- The registry of every protocol the crate knows about. -/
def withAllProtocols (externals : Externals) : Option ExtractorRegistry := do
  let registry ← new.register Pumpfun.programId fun _ ix all =>
    some (SwapExtractor.pumpfun.extract externals ix all)
  let registry ← registry.register PumpSwap.programId fun _ ix all =>
    some (SwapExtractor.pumpSwap.extract externals ix all)
  let registry ← registry.register MeteoraDammV2.programId MeteoraDammV2.extract
  registry.register MeteoraDlmm.programId fun _ ix all =>
    some (SwapExtractor.meteoraDlmm.extract externals ix all)

/-- Look up the extractor of a program. -/
def get (registry : ExtractorRegistry) (programId : Pubkey) : Option ExtractFn :=
  registry.byProgram.lookup programId

/-- Run the registered extractor, if any, against an instruction. -/
def extract (registry : ExtractorRegistry) (fuel : Nat) (ix : ParsedInstruction)
    (all : List ParsedInstruction) : Option (Option Swap) :=
  match registry.get ix.programId with
  | none => some none
  | some extractor => extractor fuel ix all

end ExtractorRegistry

/-- What extraction needs besides the instructions. -/
structure TransactionHeader where
  success : Bool
  tokenBalances : List TokenBalanceChange

/-- A transaction with what was recorded for it. -/
structure ParsedTransaction where
  events : List Swap
  instructions : List ParsedInstruction
  tokenBalances : List TokenBalanceChange

/-- What the instructions record, in order. -/
def extractEvents (registry : ExtractorRegistry) (fuel : Nat)
    (all : List ParsedInstruction) :
    List ParsedInstruction → Option (List Swap)
  | [] => some []
  | ix :: rest => do
      let event ← registry.extract fuel ix all
      let events ← extractEvents registry fuel all rest
      return event.toList ++ events

/-- Assemble a transaction from its header and its instructions.  Nothing is
kept of a failed one. -/
def extractTransaction (fuel : Nat) (header : TransactionHeader)
    (instructions : List ParsedInstruction) (registry : ExtractorRegistry) :
    Option ParsedTransaction := do
  let (events, kept) ←
    if header.success then
      (extractEvents registry fuel instructions instructions).map fun events =>
        (events, instructions)
    else some ([], [])
  return {
    events := events
    instructions := kept
    tokenBalances := if header.success then header.tokenBalances else [] }

end Chain

namespace SwapExtractor

/-- The protocol of an extractor. -/
def protocol : SwapExtractor → Protocol
  | pumpfun => .pumpfun
  | pumpSwap => .pumpSwap
  | meteoraDlmm => .meteoraDlmm

end SwapExtractor

namespace MeteoraDammV2

section Walk

variable {all : List ParsedInstruction} {entries : List LogEntry}
  {ix : ParsedInstruction} {fuel more index : Nat}

/-- The walk up ends, since parents come first. -/
theorem exists_resolveOuterSwap (wellParsed : WellParsed all entries)
    (here : all[index]? = some ix) (enough : all.length ≤ fuel) :
    ∃ outer, resolveOuterSwap fuel ix all = some outer := by
  rw [resolveOuterSwap]
  cases parentEq : ix.parentIndex with
  | none => exact ⟨none, rfl⟩
  | some parent =>
      have inside := (List.getElem?_eq_some_iff.mp here).1
      have before := wellParsed.parent here parentEq
      refine PassLoop.exists_run_of_measure (fun _ => True) id
        (fun idx _ => ⟨_, rfl⟩) ?_ trivial
        (before.trans (inside.trans_le enough))
      intro idx next _ follows
      refine ⟨trivial, ?_⟩
      have steps : resolveStep all idx = .next next := Option.some.inj follows
      rw [resolveStep] at steps
      split at steps
      next => cases steps
      next candidate candidateEq =>
        split_ifs at steps
        split at steps
        next => cases steps
        next up upEq =>
          cases steps
          exact wellParsed.parent candidateEq upEq

theorem resolveOuterSwap_mono {outer : Option ParsedInstruction}
    (enough : fuel ≤ more) (ended : resolveOuterSwap fuel ix all = some outer) :
    resolveOuterSwap more ix all = some outer := by
  rw [resolveOuterSwap] at ended ⊢
  cases parentEq : ix.parentIndex with
  | none => rwa [parentEq] at ended
  | some parent =>
      rw [parentEq] at ended
      exact PassLoop.run_mono (fun _ _ pass => pass) enough ended

/-- The checks before the event is parsed are its parser's own. -/
theorem extract_eq (fuel : Nat) (ix : ParsedInstruction)
    (all : List ParsedInstruction) :
    extract fuel ix all =
      match EvtSwap2.fromSelfCpiData ix.data with
      | none => some none
      | some event => (resolveOuterSwap fuel ix all).map fun outer =>
          outer.bind (swapOf event) := by
  rw [extract]
  split_ifs with unmarked other
  · have refused : EvtSwap2.fromSelfCpiData ix.data = none := by
      rw [EvtSwap2.fromSelfCpiData]
      split_ifs with short untagged
      · rfl
      · rfl
      · exact absurd unmarked (not_or.mpr ⟨short, untagged⟩)
      · exact absurd unmarked (not_or.mpr ⟨short, untagged⟩)
    rw [refused]
  · have refused : EvtSwap2.fromSelfCpiData ix.data = none := by
      rw [not_or] at unmarked
      rw [EvtSwap2.fromSelfCpiData, if_neg unmarked.1, if_neg unmarked.2,
        if_pos other]
    rw [refused]
  · rfl

theorem exists_extract (wellParsed : WellParsed all entries)
    (here : all[index]? = some ix) (enough : all.length ≤ fuel) :
    ∃ event, extract fuel ix all = some event := by
  obtain ⟨outer, ended⟩ := exists_resolveOuterSwap wellParsed here enough
  rw [extract_eq]
  cases EvtSwap2.fromSelfCpiData ix.data with
  | none => exact ⟨none, rfl⟩
  | some event =>
      simp only [ended, Option.map_some]
      exact ⟨_, rfl⟩

theorem extract_mono {event : Option Swap} (enough : fuel ≤ more)
    (ended : extract fuel ix all = some event) :
    extract more ix all = some event := by
  rw [extract_eq] at ended ⊢
  cases parsed : EvtSwap2.fromSelfCpiData ix.data with
  | none => rwa [parsed] at ended
  | some parsed' =>
      simp only [parsed] at ended ⊢
      obtain ⟨outer, outerEq, rfl⟩ := Option.map_eq_some_iff.mp ended
      rw [resolveOuterSwap_mono enough outerEq, Option.map_some]

theorem extract_eq_some_iff {swap : Swap} :
    extract fuel ix all = some (some swap) ↔ ∃ event outer,
      EvtSwap2.fromSelfCpiData ix.data = some event ∧
        resolveOuterSwap fuel ix all = some (some outer) ∧
          swapOf event outer = some swap := by
  rw [extract_eq]
  cases EvtSwap2.fromSelfCpiData ix.data with
  | none => simp
  | some event => simp [Option.bind_eq_some_iff]

end Walk

end MeteoraDammV2

section Registry

variable {externals : Externals} {registry : ExtractorRegistry}
  {all : List ParsedInstruction} {entries : List LogEntry}
  {ix : ParsedInstruction} {fuel more index : Nat}

theorem withAllProtocols_eq (externals : Externals) :
    ExtractorRegistry.withAllProtocols externals = some
      { byProgram := [
          (MeteoraDlmm.programId, fun _ ix all =>
            some (SwapExtractor.meteoraDlmm.extract externals ix all)),
          (MeteoraDammV2.programId, MeteoraDammV2.extract),
          (PumpSwap.programId, fun _ ix all =>
            some (SwapExtractor.pumpSwap.extract externals ix all)),
          (Pumpfun.programId, fun _ ix all =>
            some (SwapExtractor.pumpfun.extract externals ix all))] } := by
  rfl

/-- Which extractor an instruction is dispatched to. -/
theorem extract_cases
    (registered : ExtractorRegistry.withAllProtocols externals = some registry)
    (ix : ParsedInstruction) :
    (∃ extractor : SwapExtractor,
      ix.programId = extractor.protocol.programId ∧ ∀ fuel all,
        registry.extract fuel ix all = some (extractor.extract externals ix all)) ∨
      (ix.programId = MeteoraDammV2.programId ∧ ∀ fuel all,
        registry.extract fuel ix all = MeteoraDammV2.extract fuel ix all) ∨
      ∀ fuel all, registry.extract fuel ix all = some none := by
  cases found : registry.get ix.programId with
  | none => exact .inr <| .inr fun _ _ => by rw [ExtractorRegistry.extract, found]
  | some extractor =>
      have runs (fuel : Nat) (all : List ParsedInstruction) :
          registry.extract fuel ix all = extractor fuel ix all := by
        rw [ExtractorRegistry.extract, found]
      cases (withAllProtocols_eq externals).symm.trans registered
      obtain ⟨before, after, listEq, -⟩ := List.lookup_eq_some_iff.mp found
      have member : (ix.programId, extractor) ∈ _ :=
        listEq ▸ List.mem_append_right before List.mem_cons_self
      simp only [List.mem_cons, Prod.mk.injEq, List.not_mem_nil, or_false]
        at member
      rcases member with ⟨program, rfl⟩ | ⟨program, rfl⟩ | ⟨program, rfl⟩ |
        ⟨program, rfl⟩
      · exact .inl ⟨.meteoraDlmm, program, runs⟩
      · exact .inr (.inl ⟨program, runs⟩)
      · exact .inl ⟨.pumpSwap, program, runs⟩
      · exact .inl ⟨.pumpfun, program, runs⟩

theorem extract_of_meteoraDammV2
    (registered : ExtractorRegistry.withAllProtocols externals = some registry)
    (program : ix.programId = MeteoraDammV2.programId) :
    registry.extract fuel ix all = MeteoraDammV2.extract fuel ix all := by
  cases (withAllProtocols_eq externals).symm.trans registered
  rw [ExtractorRegistry.extract, program]
  rfl

theorem exists_extract (wellParsed : WellParsed all entries)
    (registered : ExtractorRegistry.withAllProtocols externals = some registry)
    (here : all[index]? = some ix) :
    ∃ event, ∀ fuel, all.length ≤ fuel →
      registry.extract fuel ix all = some event := by
  rcases extract_cases registered ix with
    ⟨extractor, -, runs⟩ | ⟨-, runs⟩ | runs
  · exact ⟨_, fun fuel _ => runs fuel all⟩
  · obtain ⟨event, ended⟩ :=
      MeteoraDammV2.exists_extract wellParsed here le_rfl
    exact ⟨event, fun fuel enough =>
      (runs fuel all).trans (MeteoraDammV2.extract_mono enough ended)⟩
  · exact ⟨none, fun fuel _ => runs fuel all⟩

theorem extractTransaction_of_success {events : List Swap}
    {tokenBalances : List TokenBalanceChange}
    (extracted : extractEvents registry fuel all all = some events) :
    extractTransaction fuel { success := true, tokenBalances := tokenBalances }
      all registry = some { events, instructions := all, tokenBalances } := by
  simp [extractTransaction, extracted]

end Registry

end SolanaProtocols
