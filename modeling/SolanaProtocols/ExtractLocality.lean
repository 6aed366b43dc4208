import SolanaProtocols.CallTree
import SolanaProtocols.RecordedSwaps

/-!
# Where extraction looks

What becomes of an instruction depends on the call that it is, on its own log, on
the data of its direct children and on the calls above it, and on nothing else of
the transaction.
-/

namespace SolanaProtocols

open Parsing Chain Protocols
open MachineArithmetic (Build)

/-- The call that an instruction is. -/
def Parsing.ParsedInstruction.call (ix : ParsedInstruction) : Call where
  program := ix.programId
  accounts := ix.accounts
  data := ix.data

namespace Chain

section Places

variable (all others : List ParsedInstruction)

/-- The same calls are above two places. -/
inductive SameAbove : Option Nat → Option Nat → Prop
  | none : SameAbove none none
  | some {parent parent' : Nat} {ix other : ParsedInstruction}
      (here : all[parent]? = some ix) (there : others[parent']? = some other)
      (call : ix.call = other.call)
      (above : SameAbove ix.parentIndex other.parentIndex) :
      SameAbove (some parent) (some parent')

/-- Two instructions are the same call, with the same data in the log and the same
below them. -/
structure SameInside (ix other : ParsedInstruction) : Prop where
  call : ix.call = other.call
  logs : ∀ expected, ix.findDataLogWithDiscriminator expected =
    other.findDataLogWithDiscriminator expected
  children : ∀ program, (childrenOn ix all program).map ParsedInstruction.data =
    (childrenOn other others program).map ParsedInstruction.data

/-- The calls above them are the same too. -/
structure SamePlace (ix other : ParsedInstruction) : Prop
    extends SameInside all others ix other where
  above : SameAbove all others ix.parentIndex other.parentIndex

end Places

/-- What is above a place stays above it in a longer list. -/
theorem SameAbove.mono {all others longer : List ParsedInstruction}
    {place place' : Option Nat} (above : SameAbove all others place place')
    (longerBy : others <+: longer) : SameAbove all longer place place' := by
  induction above with
  | none => exact .none
  | some here there call above ih =>
      obtain ⟨back, rfl⟩ := longerBy
      have inside := (List.getElem?_eq_some_iff.mp there).1
      exact .some here ((List.getElem?_append_left inside).trans there) call ih

section Events

variable {all others : List ParsedInstruction} {ix other : ParsedInstruction}
  {Event : Type} (event : ProtocolEvent Event)

theorem fromChildren_congr {children children' : List ParsedInstruction}
    (same : children.map ParsedInstruction.data = children'.map ParsedInstruction.data) :
    fromChildren event children = fromChildren event children' := by
  induction children generalizing children' with
  | nil => rw [List.map_eq_nil_iff.mp same.symm]
  | cons child children ih =>
      obtain ⟨child', rest, rfl, dataEq, restEq⟩ := List.map_eq_cons_iff.mp same.symm
      rw [fromChildren, fromChildren, dataEq, ih restEq.symm]

variable (program : Pubkey)

theorem childEvent_congr (same : SameInside all others ix other) :
    childEvent event ix all program = childEvent event other others program := by
  rw [childEvent, childEvent, fromChildren_congr event (same.children program), same.logs]

theorem optionalChildEvent_congr (same : SameInside all others ix other) :
    optionalChildEvent event ix all program =
      optionalChildEvent event other others program := by
  rw [optionalChildEvent, optionalChildEvent, childEvent_congr event program same]

theorem eventVia_congr {build : Event → ParsedInstruction → Except ExtractError ChainEvent}
    (same : SameInside all others ix other)
    (builds : ∀ found, build found ix = build found other) :
    eventVia event program build ix all = eventVia event program build other others := by
  rw [eventVia, eventVia, childEvent_congr event program same]
  simp only [builds]

end Events

end Chain

namespace Pumpfun

variable {utf8Error : Bytes → String} {addresses : AddressDerivation}
  {all others : List ParsedInstruction} {ix other : ParsedInstruction}

theorem swapVia_congr {build : TradeEvent → ParsedInstruction → Except ExtractError Swap}
    (same : SameInside all others ix other)
    (builds : ∀ event, build event ix = build event other) :
    swapVia utf8Error build ix all = swapVia utf8Error build other others := by
  rw [swapVia, swapVia, childEvent_congr _ _ same, optionalChildEvent_congr _ _ same]
  simp only [builds]

theorem creationVia_congr
    {build : Option CreateEvent → ParsedInstruction → Except ExtractError TokenCreation}
    (same : SameInside all others ix other)
    (builds : ∀ event, build event ix = build event other) :
    creationVia utf8Error ix all build = creationVia utf8Error other others build := by
  rw [creationVia, creationVia, optionalChildEvent_congr _ _ same]
  simp only [builds]

theorem feeVia_congr {Event : Type} {event : ProtocolEvent Event} {fee : Event → CreatorFee}
    (same : SameInside all others ix other) :
    feeVia ix all event fee = feeVia other others event fee :=
  eventVia_congr event programId same fun _ => rfl

theorem eventOf_congr (same : SameInside all others ix other)
    (parsed : (pumpfunInstruction utf8Error).Instruction) :
    eventOf utf8Error addresses ix all parsed =
      eventOf utf8Error addresses other others parsed := by
  obtain ⟨program, accounts, data, logs, height, parent, index⟩ := ix
  obtain ⟨program', accounts', data', logs', height', parent', index'⟩ := other
  cases same.call
  obtain ⟨variant, params⟩ := parsed
  cases variant with
  | buy | buyExactSolIn | sell | buyV2 | buyExactQuoteInV2 | sellV2 =>
      exact congrArg recordSwap (swapVia_congr same fun _ => rfl)
  | create | createV2 => exact creationVia_congr same fun _ => rfl
  | migrate | migrateV2 => exact eventVia_congr _ _ same fun _ => rfl
  | collectCreatorFee | collectCreatorFeeV2 | distributeCreatorFees
  | distributeCreatorFeesV2 => exact feeVia_congr same

theorem outcome_congr (same : SameInside all others ix other) :
    outcome utf8Error addresses ix all = outcome utf8Error addresses other others := by
  have data : ix.data = other.data := congrArg Call.data same.call
  simp only [outcome, data, eventOf_congr same]

end Pumpfun

namespace PumpSwap

variable {build : Build} {utf8Error : Bytes → String} {addresses : AddressDerivation}
  {all others : List ParsedInstruction} {ix other : ParsedInstruction}

theorem swapEventVia_congr {Event : Type} {fees : Event → Fees}
    {event : ProtocolEvent Event}
    {swap : Event → ParsedInstruction → Except ExtractError Swap}
    (same : SameInside all others ix other)
    (swaps : ∀ found, swap found ix = swap found other) :
    swapEventVia build fees event swap ix all =
      swapEventVia build fees event swap other others := by
  rw [swapEventVia, swapEventVia, childEvent_congr _ _ same]
  simp only [swaps]

theorem eventOf_congr (same : SameInside all others ix other)
    (parsed : pumpSwapInstruction.Instruction) :
    eventOf build utf8Error addresses ix all parsed =
      eventOf build utf8Error addresses other others parsed := by
  obtain ⟨program, accounts, data, logs, height, parent, index⟩ := ix
  obtain ⟨program', accounts', data', logs', height', parent', index'⟩ := other
  cases same.call
  obtain ⟨variant, params⟩ := parsed
  cases variant with
  | buy | buyExactQuoteIn | sell => exact swapEventVia_congr same fun _ => rfl
  | createPool | collectCoinCreatorFee | deposit | withdraw =>
      exact congrArg some (eventVia_congr _ _ same fun _ => rfl)

theorem outcome_congr (same : SameInside all others ix other) :
    outcome build utf8Error addresses ix all =
      outcome build utf8Error addresses other others := by
  have data : ix.data = other.data := congrArg Call.data same.call
  simp only [outcome, data, eventOf_congr same]

end PumpSwap

namespace MeteoraDlmm

variable {sdk : Sdk} {readsOther : List Pubkey → Bytes → Bool}
  {all others : List ParsedInstruction} {ix other : ParsedInstruction}

/-- The body of an event with a discriminator, if the data is one. -/
def bodyOf (expected : Discriminator) (data : Bytes) : Option Bytes :=
  if data.length < 16 then none
  else if data.take 8 ≠ anchorEventTag.toList then none
  else if (data.drop 8).take 8 ≠ expected.toList then none
  else some (data.drop 16)

/-- The event is looked for in the direct children on the program. -/
theorem findEventBody_eq (expected : Discriminator) :
    findEventBody ix all expected =
      ((childrenOn ix all programId).map ParsedInstruction.data).findSome?
        (bodyOf expected) := by
  rw [findEventBody, childrenOn]
  induction all with
  | nil => rfl
  | cons child all ih =>
      rw [List.findSome?_cons, ih, List.filter_cons]
      by_cases ofParent : child.parentIndex = some ix.instructionIndex
      · by_cases onProgram : child.programId = programId
        · have selected : (child.parentIndex == some ix.instructionIndex &&
              child.programId == programId) = true := by
            simp [ofParent, onProgram]
          rw [if_neg (not_not.mpr ofParent), if_neg (not_not.mpr onProgram),
            if_pos selected, List.map_cons, List.findSome?_cons]
          rfl
        · simp [ofParent, onProgram]
      · simp [ofParent]

theorem outcome_congr (same : SameInside all others ix other) :
    outcome sdk readsOther ix all = outcome sdk readsOther other others := by
  have event (expected : Discriminator) :
      findEventBody ix all expected = findEventBody other others expected := by
    rw [findEventBody_eq, findEventBody_eq, same.children]
  obtain ⟨program, accounts, data, logs, height, parent, index⟩ := ix
  obtain ⟨program', accounts', data', logs', height', parent', index'⟩ := other
  cases same.call
  simp only [outcome, extractSwap, event]
  rfl

end MeteoraDlmm

namespace MeteoraDammV2

variable {all others : List ParsedInstruction} {ix other : ParsedInstruction}
  {fuel : Nat}

theorem isOuterSwap_congr (same : ix.call = other.call) :
    isOuterSwap ix = isOuterSwap other := by
  have program : ix.programId = other.programId := congrArg Call.program same
  have data : ix.data = other.data := congrArg Call.data same
  rw [isOuterSwap, isOuterSwap, program, data]

/-- What the walk does at an instruction. -/
theorem resolveStep_eq {index : Nat} (here : all[index]? = some ix) :
    resolveStep all index = if isOuterSwap ix then .leave (some ix)
      else ix.parentIndex.elim (.leave none) .next := by
  rw [resolveStep, here]
  dsimp only
  cases ix.parentIndex <;> rfl

/-- Walks up from two places go alike. -/
theorem walk_congr {place place' : Option Nat} (above : SameAbove all others place place') :
    ∀ parent ∈ place, ∀ parent' ∈ place',
      (PassLoop.run (fun idx => some (resolveStep all idx)) fuel parent).map
          (Option.map ParsedInstruction.call) =
        (PassLoop.run (fun idx => some (resolveStep others idx)) fuel parent').map
          (Option.map ParsedInstruction.call) := by
  induction above generalizing fuel with
  | none => exact fun _ absent => absurd absent (Option.not_mem_none _)
  | @some parent parent' ix other here there call above ih =>
      rintro _ ⟨⟩ _ ⟨⟩
      have stepHere := resolveStep_eq here
      have stepThere := resolveStep_eq there
      cases fuel with
      | zero => rfl
      | succ fuel =>
          cases outer : isOuterSwap other with
          | true =>
              rw [isOuterSwap_congr call, if_pos outer] at stepHere
              rw [if_pos outer] at stepThere
              rw [PassLoop.run_leave (congrArg some stepHere),
                PassLoop.run_leave (congrArg some stepThere)]
              exact congrArg (some ∘ some) call
          | false =>
              rw [isOuterSwap_congr call, if_neg (Bool.not_eq_true _ ▸ outer)] at stepHere
              rw [if_neg (Bool.not_eq_true _ ▸ outer)] at stepThere
              generalize ix.parentIndex = up at stepHere above ih
              generalize other.parentIndex = up' at stepThere above ih
              cases above with
              | none =>
                  rw [PassLoop.run_leave (congrArg some stepHere),
                    PassLoop.run_leave (congrArg some stepThere)]
              | some =>
                  rw [PassLoop.run_next (congrArg some stepHere),
                    PassLoop.run_next (congrArg some stepThere)]
                  exact ih _ rfl _ rfl

theorem resolveOuterSwap_congr (same : SamePlace all others ix other) :
    (resolveOuterSwap fuel ix all).map (Option.map ParsedInstruction.call) =
      (resolveOuterSwap fuel other others).map (Option.map ParsedInstruction.call) := by
  have above := same.above
  rw [resolveOuterSwap, resolveOuterSwap]
  generalize ix.parentIndex = place at above
  generalize other.parentIndex = place' at above
  cases above with
  | none => rfl
  | some here there call up =>
      exact walk_congr (.some here there call up) _ rfl _ rfl

theorem swapOf_congr {event : EvtSwap2} (same : ix.call = other.call) :
    swapOf event ix = swapOf event other := by
  obtain ⟨program, accounts, data, logs, height, parent, index⟩ := ix
  obtain ⟨program', accounts', data', logs', height', parent', index'⟩ := other
  cases same
  rfl

theorem map_bind_swapOf_congr {event : EvtSwap2} {one two : Option (Option ParsedInstruction)}
    (same : one.map (Option.map ParsedInstruction.call) =
      two.map (Option.map ParsedInstruction.call)) :
    one.map (fun outer => outer.bind (swapOf event)) =
      two.map (fun outer => outer.bind (swapOf event)) := by
  rcases one with _ | _ | ix <;> rcases two with _ | _ | other <;>
    simp only [Option.map_none, Option.map_some, Option.some.injEq, reduceCtorEq] at same ⊢
  exact swapOf_congr same

theorem outcome_congr_of_walks {more : Nat} (data : ix.data = other.data)
    (walks : (resolveOuterSwap fuel ix all).map (Option.map ParsedInstruction.call) =
      (resolveOuterSwap more other others).map (Option.map ParsedInstruction.call)) :
    outcome fuel ix all = outcome more other others := by
  rw [outcome, outcome, extract_eq, extract_eq, data]
  cases EvtSwap2.fromSelfCpiData other.data with
  | none => rfl
  | some event => exact congrArg (Option.map _) (map_bind_swapOf_congr walks)

theorem outcome_congr (same : SamePlace all others ix other) :
    outcome fuel ix all = outcome fuel other others :=
  outcome_congr_of_walks (congrArg Call.data same.call) (resolveOuterSwap_congr same)

end MeteoraDammV2

namespace Chain

variable {build : Build} {externals : Externals}
  {readsOther : List Pubkey → Bytes → Bool}
  {registry : EventRegistry} {all others : List ParsedInstruction}
  {ix other : ParsedInstruction}

theorem EventRegistry.lookup_cases {program : Pubkey} {extractor : OutcomeFn}
    (registered : EventRegistry.withAllProtocols build externals readsOther = some registry)
    (found : registry.byProgram.lookup program = some extractor) :
    (program = MeteoraDlmm.programId ∧ extractor = fun _ ix all =>
        some (MeteoraDlmm.outcome externals.dlmm readsOther ix all)) ∨
      (program = MeteoraDammV2.programId ∧ extractor = MeteoraDammV2.outcome) ∨
      (program = PumpSwap.programId ∧ extractor = fun _ ix all =>
        PumpSwap.outcome build externals.utf8Error externals.addresses ix all) ∨
      (program = Pumpfun.programId ∧ extractor = fun _ ix all =>
        some (Pumpfun.outcome externals.utf8Error externals.addresses ix all)) := by
  cases (EventRegistry.withAllProtocols_eq build externals readsOther).symm.trans registered
  obtain ⟨before, after, listEq, -⟩ := List.lookup_eq_some_iff.mp found
  have member : (program, extractor) ∈ _ :=
    listEq ▸ List.mem_append_right before List.mem_cons_self
  simpa only [List.mem_cons, Prod.mk.injEq, List.not_mem_nil, or_false] using member

/-- What becomes of an instruction depends on its place only. -/
theorem EventRegistry.outcome_congr
    (registered : EventRegistry.withAllProtocols build externals readsOther = some registry)
    (same : SamePlace all others ix other) (fuel : Nat) :
    registry.outcome fuel ix all = registry.outcome fuel other others := by
  have program : ix.programId = other.programId := congrArg Call.program same.call
  rw [outcome, outcome, program]
  cases found : registry.byProgram.lookup other.programId with
  | none => rfl
  | some extractor =>
      rcases lookup_cases registered found with ⟨-, rfl⟩ | ⟨-, rfl⟩ | ⟨-, rfl⟩ | ⟨-, rfl⟩
      · exact congrArg some (MeteoraDlmm.outcome_congr same.toSameInside)
      · exact MeteoraDammV2.outcome_congr same
      · exact PumpSwap.outcome_congr same.toSameInside
      · exact congrArg some (Pumpfun.outcome_congr same.toSameInside)

/-- On other programs than DAMM v2 the calls above do not matter. -/
theorem EventRegistry.outcome_congr_of_ne
    (registered : EventRegistry.withAllProtocols build externals readsOther = some registry)
    (same : SameInside all others ix other)
    (notDamm : ix.programId ≠ MeteoraDammV2.programId) (fuel more : Nat) :
    registry.outcome fuel ix all = registry.outcome more other others := by
  have program : ix.programId = other.programId := congrArg Call.program same.call
  rw [program] at notDamm
  rw [outcome, outcome, program]
  cases found : registry.byProgram.lookup other.programId with
  | none => rfl
  | some extractor =>
      rcases lookup_cases registered found with ⟨-, rfl⟩ | ⟨isDamm, -⟩ | ⟨-, rfl⟩ | ⟨-, rfl⟩
      · exact congrArg some (MeteoraDlmm.outcome_congr same)
      · exact absurd isDamm notDamm
      · exact PumpSwap.outcome_congr same
      · exact congrArg some (Pumpfun.outcome_congr same)

end Chain

end SolanaProtocols
