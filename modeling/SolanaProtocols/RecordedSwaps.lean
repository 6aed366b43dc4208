import SolanaProtocols.EventExtract

/-!
# Swaps among the events

Leaving out what is not a swap from what the whole extractors record gives what the
swap extractors record, so whatever holds of recorded swaps holds of the swaps among
the events.
-/

namespace SolanaProtocols

open Parsing Chain Protocols
open MachineArithmetic (Build)

namespace Chain

namespace ExtractOutcome

/-- The swap among what an instruction records. -/
def swap (outcome : ExtractOutcome) : Option Swap :=
  outcome.event.bind ChainEvent.asSwap

@[simp] theorem swap_ofOption_map (found : Option Swap) :
    (ofOption (found.map .swap)).swap = found := by
  cases found <;> rfl

theorem swap_ofExtracted_recordSwap (protocol : Protocol)
    (built : Except ExtractError (Option Swap)) :
    (ofExtracted protocol (recordSwap built)).swap =
      match built with
      | .ok swap => swap
      | .error _ => none := by
  rcases built with err | _ | swap <;> rfl

theorem swap_ofExtracted_of_no_swap {protocol : Protocol} {extracted : Extracted}
    (noSwap : ∀ record, extracted = .ok (some record) → record.asSwap = none) :
    (ofExtracted protocol extracted).swap = none := by
  rcases extracted with err | _ | record
  · rfl
  · rfl
  · exact noSwap record rfl

end ExtractOutcome

end Chain

namespace Pumpfun

variable {utf8Error : Bytes → String} {addresses : AddressDerivation}
  {ix : ParsedInstruction} {all : List ParsedInstruction}

/-- What the whole extractor makes of an instruction that decodes. -/
theorem swap_eventOf (parsed : (pumpfunInstruction utf8Error).Instruction) :
    (ExtractOutcome.ofExtracted .pumpfun (eventOf utf8Error addresses ix all parsed)).swap =
      match swapOf utf8Error addresses ix all parsed with
      | .ok swap => swap
      | .error _ => none := by
  obtain ⟨variant, params⟩ := parsed
  cases variant with
  | buy | buyExactSolIn | sell | buyV2 | buyExactQuoteInV2 | sellV2 =>
      exact ExtractOutcome.swap_ofExtracted_recordSwap _ _
  | create | createV2 =>
      refine ExtractOutcome.swap_ofExtracted_of_no_swap fun record recorded => ?_
      obtain ⟨event, creation, -, -, rfl⟩ := creationVia_eq_ok_iff.mp recorded
      rfl
  | migrate =>
      refine ExtractOutcome.swap_ofExtracted_of_no_swap fun record recorded => ?_
      obtain ⟨event, -, built⟩ := eventVia_eq_ok_iff.mp recorded
      obtain ⟨accounts, -, -, rfl⟩ := MigrateParams.migration_eq_ok_iff.mp built
      rfl
  | migrateV2 =>
      refine ExtractOutcome.swap_ofExtracted_of_no_swap fun record recorded => ?_
      obtain ⟨event, -, built⟩ := eventVia_eq_ok_iff.mp recorded
      obtain ⟨accounts, -, -, rfl⟩ := MigrateV2Params.migration_eq_ok_iff.mp built
      rfl
  | collectCreatorFee | collectCreatorFeeV2 | distributeCreatorFees
  | distributeCreatorFeesV2 =>
      refine ExtractOutcome.swap_ofExtracted_of_no_swap fun record recorded => ?_
      obtain ⟨event, -, rfl⟩ := feeVia_eq_ok_iff.mp recorded
      rfl

theorem swap_outcome (utf8Error : Bytes → String) (addresses : AddressDerivation)
    (ix : ParsedInstruction) (all : List ParsedInstruction) :
    (outcome utf8Error addresses ix all).swap = extract utf8Error addresses ix all := by
  rw [outcome, extract, tryExtract]
  by_cases tagged : hasEventTag ix.data = true
  · rw [if_pos tagged, if_pos tagged]
    rfl
  · rw [if_neg tagged, if_neg tagged]
    cases (pumpfunInstruction utf8Error).tryFromSlice ix.data with
    | error err => rfl
    | ok parsed => exact swap_eventOf parsed

end Pumpfun

namespace PumpSwap

variable {build : Build} {utf8Error : Bytes → String} {addresses : AddressDerivation}
  {ix : ParsedInstruction} {all : List ParsedInstruction}

theorem swap_eventOf {parsed : pumpSwapInstruction.Instruction} {extracted : Extracted}
    (ended : eventOf build utf8Error addresses ix all parsed = some extracted) :
    (ExtractOutcome.ofExtracted .pumpSwap extracted).swap =
      match swapOf utf8Error addresses ix all parsed with
      | .ok swap => swap
      | .error _ => none := by
  obtain ⟨variant, params⟩ := parsed
  cases variant with
  | buy | buyExactQuoteIn =>
      cases eq_of_swapEventVia (fun _ _ built => feeAmount_of_buySwap built) ended
      exact ExtractOutcome.swap_ofExtracted_recordSwap _ _
  | sell =>
      cases eq_of_swapEventVia (fun _ _ built => SellParams.feeAmount_of_swap built) ended
      exact ExtractOutcome.swap_ofExtracted_recordSwap _ _
  | createPool =>
      cases ended
      refine ExtractOutcome.swap_ofExtracted_of_no_swap fun record recorded => ?_
      obtain ⟨event, -, built⟩ := eventVia_eq_ok_iff.mp recorded
      obtain ⟨accounts, -, rfl⟩ := CreatePoolParams.migration_eq_ok_iff.mp built
      rfl
  | collectCoinCreatorFee =>
      cases ended
      refine ExtractOutcome.swap_ofExtracted_of_no_swap fun record recorded => ?_
      obtain ⟨event, -, built⟩ := eventVia_eq_ok_iff.mp recorded
      obtain ⟨accounts, -, rfl⟩ :=
        CollectCoinCreatorFeeParams.creatorFee_eq_ok_iff.mp built
      rfl
  | deposit =>
      cases ended
      refine ExtractOutcome.swap_ofExtracted_of_no_swap fun record recorded => ?_
      obtain ⟨event, -, built⟩ := eventVia_eq_ok_iff.mp recorded
      obtain ⟨accounts, -, -, rfl⟩ := DepositParams.liquidity_eq_ok_iff.mp built
      rfl
  | withdraw =>
      cases ended
      refine ExtractOutcome.swap_ofExtracted_of_no_swap fun record recorded => ?_
      obtain ⟨event, -, built⟩ := eventVia_eq_ok_iff.mp recorded
      obtain ⟨accounts, -, -, rfl⟩ := WithdrawParams.liquidity_eq_ok_iff.mp built
      rfl

theorem swap_outcome {becomes : ExtractOutcome}
    (ended : outcome build utf8Error addresses ix all = some becomes) :
    becomes.swap = extract utf8Error addresses ix all := by
  rw [outcome] at ended
  rw [extract, tryExtract]
  by_cases tagged : hasEventTag ix.data = true
  · rw [if_pos tagged] at ended ⊢
    cases ended
    rfl
  · rw [if_neg tagged] at ended ⊢
    cases read : pumpSwapInstruction.tryFromSlice ix.data with
    | error err =>
        rw [read] at ended
        cases ended
        rfl
    | ok parsed =>
        rw [read] at ended
        obtain ⟨extracted, recorded, rfl⟩ := Option.map_eq_some_iff.mp ended
        exact swap_eventOf recorded

end PumpSwap

theorem MeteoraDlmm.swap_outcome (sdk : Sdk) (readsOther : List Pubkey → Bytes → Bool)
    (ix : ParsedInstruction) (all : List ParsedInstruction) :
    (outcome sdk readsOther ix all).swap = extract sdk ix all := by
  rw [outcome, extract]
  by_cases tagged : hasEventTag ix.data = true
  · rw [if_pos tagged, if_pos tagged]
    rfl
  · rw [if_neg tagged, if_neg tagged]
    cases parseSwap sdk ix with
    | none =>
        change ExtractOutcome.swap (if _ then _ else _) = none
        split <;> rfl
    | some form => exact ExtractOutcome.swap_ofOption_map _

theorem MeteoraDammV2.map_swap_outcome (fuel : Nat) (ix : ParsedInstruction)
    (all : List ParsedInstruction) :
    (outcome fuel ix all).map ExtractOutcome.swap = extract fuel ix all := by
  rw [outcome, Option.map_map]
  cases extract fuel ix all with
  | none => rfl
  | some swap => exact congrArg some (ExtractOutcome.swap_ofOption_map swap)

namespace Chain

section Registry

variable {build : Build} {externals : Externals}
  {readsOther : List Pubkey → Bytes → Bool} {registry : EventRegistry}
  {swaps : ExtractorRegistry}

theorem EventRegistry.withAllProtocols_eq (build : Build) (externals : Externals)
    (readsOther : List Pubkey → Bytes → Bool) :
    EventRegistry.withAllProtocols build externals readsOther = some
      { byProgram := [
          (MeteoraDlmm.programId, fun _ ix all =>
            some (MeteoraDlmm.outcome externals.dlmm readsOther ix all)),
          (MeteoraDammV2.programId, MeteoraDammV2.outcome),
          (PumpSwap.programId, fun _ ix all =>
            PumpSwap.outcome build externals.utf8Error externals.addresses ix all),
          (Pumpfun.programId, fun _ ix all =>
            some (Pumpfun.outcome externals.utf8Error externals.addresses ix all))] } := by
  rfl

/-- Which extractor an instruction is dispatched to. -/
theorem EventRegistry.outcome_cases
    (registered : EventRegistry.withAllProtocols build externals readsOther = some registry)
    (ix : ParsedInstruction) :
    (ix.programId = Pumpfun.programId ∧ ∀ fuel all, registry.outcome fuel ix all =
        some (Pumpfun.outcome externals.utf8Error externals.addresses ix all)) ∨
      (ix.programId = PumpSwap.programId ∧ ∀ fuel all, registry.outcome fuel ix all =
        PumpSwap.outcome build externals.utf8Error externals.addresses ix all) ∨
      (ix.programId = MeteoraDlmm.programId ∧ ∀ fuel all, registry.outcome fuel ix all =
        some (MeteoraDlmm.outcome externals.dlmm readsOther ix all)) ∨
      (ix.programId = MeteoraDammV2.programId ∧ ∀ fuel all,
        registry.outcome fuel ix all = MeteoraDammV2.outcome fuel ix all) ∨
      ((ix.programId ≠ Pumpfun.programId ∧ ix.programId ≠ PumpSwap.programId ∧
          ix.programId ≠ MeteoraDlmm.programId ∧
            ix.programId ≠ MeteoraDammV2.programId) ∧
        ∀ fuel all, registry.outcome fuel ix all = some .nothing) := by
  cases (EventRegistry.withAllProtocols_eq build externals readsOther).symm.trans registered
  by_cases pumpfun : ix.programId = Pumpfun.programId
  · exact .inl ⟨pumpfun, fun _ _ => by rw [outcome, pumpfun]; rfl⟩
  by_cases pumpSwap : ix.programId = PumpSwap.programId
  · exact .inr <| .inl ⟨pumpSwap, fun _ _ => by rw [outcome, pumpSwap]; rfl⟩
  by_cases dlmm : ix.programId = MeteoraDlmm.programId
  · exact .inr <| .inr <| .inl ⟨dlmm, fun _ _ => by rw [outcome, dlmm]; rfl⟩
  by_cases damm : ix.programId = MeteoraDammV2.programId
  · exact .inr <| .inr <| .inr <| .inl ⟨damm, fun _ _ => by rw [outcome, damm]; rfl⟩
  · refine .inr <| .inr <| .inr <| .inr
      ⟨⟨pumpfun, pumpSwap, dlmm, damm⟩, fun fuel all => ?_⟩
    simp only [outcome, List.lookup_cons, beq_eq_false_iff_ne.mpr pumpfun,
      beq_eq_false_iff_ne.mpr pumpSwap, beq_eq_false_iff_ne.mpr dlmm,
      beq_eq_false_iff_ne.mpr damm, List.lookup_nil]

/-- The swap of what becomes of an instruction is what the swap extractors record. -/
theorem EventRegistry.extract_of_outcome {becomes : ExtractOutcome} {fuel : Nat}
    {ix : ParsedInstruction} {all : List ParsedInstruction}
    (registered : EventRegistry.withAllProtocols build externals readsOther = some registry)
    (swapsRegistered : ExtractorRegistry.withAllProtocols externals = some swaps)
    (ended : registry.outcome fuel ix all = some becomes) :
    swaps.extract fuel ix all = some becomes.swap := by
  cases (SolanaProtocols.withAllProtocols_eq externals).symm.trans swapsRegistered
  rcases outcome_cases registered ix with ⟨program, runs⟩ | ⟨program, runs⟩ |
    ⟨program, runs⟩ | ⟨program, runs⟩ | ⟨⟨pumpfun, pumpSwap, dlmm, damm⟩, runs⟩
  · rw [runs] at ended
    cases ended
    rw [ExtractorRegistry.extract, program]
    exact congrArg some (Pumpfun.swap_outcome _ _ ix all).symm
  · rw [runs] at ended
    rw [ExtractorRegistry.extract, program, PumpSwap.swap_outcome ended]
    rfl
  · rw [runs] at ended
    cases ended
    rw [ExtractorRegistry.extract, program]
    exact congrArg some (MeteoraDlmm.swap_outcome _ _ ix all).symm
  · rw [runs] at ended
    rw [ExtractorRegistry.extract, program]
    exact (MeteoraDammV2.map_swap_outcome fuel ix all).symm.trans
      (congrArg (Option.map ExtractOutcome.swap) ended)
  · rw [runs] at ended
    cases ended
    simp only [ExtractorRegistry.extract, ExtractorRegistry.get, List.lookup_cons,
      beq_eq_false_iff_ne.mpr pumpfun, beq_eq_false_iff_ne.mpr pumpSwap,
      beq_eq_false_iff_ne.mpr dlmm, beq_eq_false_iff_ne.mpr damm, List.lookup_nil]
    rfl

theorem EventRegistry.extractEvents_of_outcomes {becomes : List ExtractOutcome}
    {fuel : Nat} {all rest : List ParsedInstruction}
    (registered : EventRegistry.withAllProtocols build externals readsOther = some registry)
    (swapsRegistered : ExtractorRegistry.withAllProtocols externals = some swaps)
    (ended : registry.outcomes fuel all rest = some becomes) :
    extractEvents swaps fuel all rest = some (becomes.filterMap ExtractOutcome.swap) := by
  induction rest generalizing becomes with
  | nil =>
      cases ended
      rfl
  | cons ix rest ih =>
      obtain ⟨outcome, endedHere, ended⟩ := Option.bind_eq_some_iff.mp ended
      obtain ⟨outcomes, endedRest, ended⟩ := Option.bind_eq_some_iff.mp ended
      cases ended
      rw [extractEvents, extract_of_outcome registered swapsRegistered endedHere,
        ih endedRest]
      cases recorded : outcome.swap <;> simp [recorded]

/-- The build wraps around at overflows, or the fees of every PumpSwap instruction
add up. -/
def FeesAddUp (build : Build) (externals : Externals)
    (calls : List (ParsedInstruction × List ParsedInstruction)) : Prop :=
  build.operators = .wraps ∨ ∀ call ∈ calls, call.1.programId = PumpSwap.programId →
    ¬PumpSwap.FeesOverflow externals.utf8Error externals.addresses call.1 call.2

theorem FeesAddUp.of_others {calls : List (ParsedInstruction × List ParsedInstruction)}
    (others : ∀ call ∈ calls, call.1.programId ≠ PumpSwap.programId) :
    FeesAddUp build externals calls :=
  .inr fun call member onPumpSwap => absurd onPumpSwap (others call member)

/-- The extraction of an instruction of a parsed list ends, or its fees overflow. -/
theorem EventRegistry.outcome_eq_none_iff {entries : List LogEntry} {index fuel : Nat}
    {all : List ParsedInstruction} {ix : ParsedInstruction}
    (registered : EventRegistry.withAllProtocols build externals readsOther = some registry)
    (wellParsed : WellParsed all entries) (here : all[index]? = some ix)
    (enough : all.length ≤ fuel) :
    registry.outcome fuel ix all = none ↔
      build.operators = .panics ∧ ix.programId = PumpSwap.programId ∧
        PumpSwap.FeesOverflow externals.utf8Error externals.addresses ix all := by
  rcases outcome_cases registered ix with ⟨program, runs⟩ | ⟨program, runs⟩ |
    ⟨program, runs⟩ | ⟨program, runs⟩ | ⟨⟨-, notPumpSwap, -, -⟩, runs⟩
  · rw [runs, program]
    exact iff_of_false (Option.some_ne_none _) fun panics => absurd panics.2.1 (by decide)
  · rw [runs, PumpSwap.outcome_eq_none_iff]
    exact and_congr_right fun _ => (and_iff_right program).symm
  · rw [runs, program]
    exact iff_of_false (Option.some_ne_none _) fun panics => absurd panics.2.1 (by decide)
  · obtain ⟨swap, ended⟩ := MeteoraDammV2.exists_extract wellParsed here enough
    rw [runs, program, MeteoraDammV2.outcome, ended]
    exact iff_of_false (Option.some_ne_none _) fun panics => absurd panics.2.1 (by decide)
  · rw [runs]
    exact iff_of_false (Option.some_ne_none _) fun panics => notPumpSwap panics.2.1

end Registry

end Chain

end SolanaProtocols
