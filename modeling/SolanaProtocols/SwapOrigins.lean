import SolanaProtocols.ExtractTransaction

/-!
# Origins of recorded swaps

Every swap of a transaction is traced to the record that carries its event, an
event instruction or an entry of the log, and to the source whose accounts name
its pool and trader.  An instruction emits one swap at most and its record leads
back to it, so no record is used twice.
-/

namespace SolanaProtocols

open Parsing Chain
open Pumpfun (U64)

/-- A place that carries an event. -/
inductive EventRecord
  | instruction (index : Nat)
  | log (position : Nat)
deriving DecidableEq, Repr

/-- Where a recorded swap comes from: its event, and the index of the
instruction that names its pool and trader. -/
structure SwapOrigin where
  swap : Swap
  record : EventRecord
  source : Nat

section Tracing

variable (externals : Externals) (all : List ParsedInstruction)
  (entries : List LogEntry)

/-- The record is an event of a program. -/
def EventRecord.Carries (program : Pubkey) (disc : Discriminator)
    (body : Bytes) : EventRecord → Prop
  | instruction index => ∃ ix, all[index]? = some ix ∧
      ix.programId = program ∧ ix.data = eventData disc body
  | log position => entries[position]? = some (.data disc body)

/-- The amounts in and out of a trade on the curve. -/
def Pumpfun.TradeEvent.amounts (event : Pumpfun.TradeEvent) : U64 × U64 :=
  if event.isBuy then (event.solAmount, event.tokenAmount)
  else (event.tokenAmount, event.solAmount)

/-- The swap events of the protocols with the amounts in and out that they
say. -/
inductive SaysAmounts : Protocol → Discriminator → Bytes → U64 × U64 → Prop
  | trade {body : Bytes} {event : Pumpfun.TradeEvent}
      (decoded : (Pumpfun.tradeEvent externals.utf8Error).tryFromSlice body =
        .ok event) :
      SaysAmounts .pumpfun
        (Pumpfun.tradeEvent externals.utf8Error).discriminator body event.amounts
  | buy {body : Bytes} {event : PumpSwap.BuyEvent}
      (decoded : (PumpSwap.buyEvent externals.utf8Error).tryFromSlice body =
        .ok event) :
      SaysAmounts .pumpSwap
        (PumpSwap.buyEvent externals.utf8Error).discriminator body
        (event.grossQuoteIn, event.baseAmountOut)
  | sell {body : Bytes} {event : PumpSwap.SellEvent}
      (decoded : PumpSwap.sellEvent.tryFromSlice body = .ok event) :
      SaysAmounts .pumpSwap PumpSwap.sellEvent.discriminator body
        (event.baseAmountIn, event.userQuoteAmountOut)
  | dlmmSwap {body : Bytes} {event : MeteoraDlmm.SwapEvent}
      (decoded : externals.dlmm.swapEvent body = some event) :
      SaysAmounts .meteoraDlmm MeteoraDlmm.swapEventDiscriminator body
        (event.amountIn, event.amountOut)
  | evtSwap2 {body rest : Bytes} {event : MeteoraDammV2.EvtSwap2}
      (decoded : MeteoraDammV2.EvtSwap2.fields.decode body = .ok (event, rest)) :
      SaysAmounts .meteoraDammV2 MeteoraDammV2.evtSwap2Discriminator body
        (event.inputAmountGross, event.outputAmount)

/-- The accounts of the swap instruction that an instruction is, and the slots
of its pool and its trader. -/
inductive SwapSlots (ix : ParsedInstruction) :
    Protocol → AccountsStruct → AccountName → AccountName → Prop
  | pumpfun
      {parsed : (Pumpfun.pumpfunInstruction externals.utf8Error).Instruction}
      {form : Pumpfun.SwapForm}
      (decoded : (Pumpfun.pumpfunInstruction externals.utf8Error).tryFromSlice
        ix.data = .ok parsed)
      (formEq : Pumpfun.SwapForm.ofVariant parsed.variant = some form) :
      SwapSlots ix .pumpfun (form.accounts externals.addresses)
        .bondingCurve .user
  | pumpSwapBuy {parsed : PumpSwap.pumpSwapInstruction.Instruction}
      (decoded : PumpSwap.pumpSwapInstruction.tryFromSlice ix.data = .ok parsed)
      (isBuy : parsed.variant = .buy ∨ parsed.variant = .buyExactQuoteIn) :
      SwapSlots ix .pumpSwap (PumpSwap.BuyAccounts externals.addresses)
        .pool .user
  | pumpSwapSell {parsed : PumpSwap.pumpSwapInstruction.Instruction}
      (decoded : PumpSwap.pumpSwapInstruction.tryFromSlice ix.data = .ok parsed)
      (isSell : parsed.variant = .sell) :
      SwapSlots ix .pumpSwap (PumpSwap.SellAccounts externals.addresses)
        .pool .user
  | meteoraDlmm {form : MeteoraDlmm.SwapForm} {common : MeteoraDlmm.SwapCommon}
      (parsed : MeteoraDlmm.parseSwap externals.dlmm ix = some (form, common)) :
      SwapSlots ix .meteoraDlmm form.accounts .lbPair .user
  | meteoraDammV2 :
      SwapSlots ix .meteoraDammV2 MeteoraDammV2.SwapAccounts .pool .payer

/-- The instruction's accounts give the swap's pool and trader. -/
def NamesParties (ix : ParsedInstruction) (swap : Swap) : Prop :=
  ∃ struct poolSlot traderSlot,
    SwapSlots externals ix swap.protocol struct poolSlot traderSlot ∧
      ∃ accounts, struct.fromAccountKeys ix.accounts = .ok accounts ∧
        swap.pool = struct.account accounts poolSlot ∧
          swap.trader = struct.account accounts traderSlot

variable (skips : ParsedInstruction → Prop)

/-- An instruction is below another with only instructions of a kind in
between. -/
inductive Below : ParsedInstruction → ParsedInstruction → Prop
  | child {ix outer : ParsedInstruction} {parent : Nat}
      (parentEq : ix.parentIndex = some parent)
      (outerEq : all[parent]? = some outer) : Below ix outer
  | deeper {ix between outer : ParsedInstruction} {parent : Nat}
      (parentEq : ix.parentIndex = some parent)
      (betweenEq : all[parent]? = some between) (skipped : skips between)
      (below : Below between outer) : Below ix outer

/-- How the record of a protocol's swap is found from the source. -/
inductive FromSource : Protocol → EventRecord → Nat → Prop
  | child {protocol : Protocol} {index source : Nat} {ix : ParsedInstruction}
      (searches : protocol ∈ [.pumpfun, .pumpSwap, .meteoraDlmm])
      (here : all[index]? = some ix) (ofSource : ix.parentIndex = some source) :
      FromSource protocol (.instruction index) source
  | ownLog {protocol : Protocol} {position source : Nat}
      (readsLog : protocol ∈ [.pumpfun, .pumpSwap])
      (own : position ∈ logPositions all entries source) :
      FromSource protocol (.log position) source
  | below {index source : Nat} {ix outer : ParsedInstruction}
      (here : all[index]? = some ix) (there : all[source]? = some outer)
      (below : Below all skips ix outer) :
      FromSource .meteoraDammV2 (.instruction index) source

/-- The swap is what its record and its source say, and these belong
together. -/
structure SwapOrigin.Traced (origin : SwapOrigin) : Prop where
  amounts : ∃ disc body,
    SaysAmounts externals origin.swap.protocol disc body
        (origin.swap.amountIn, origin.swap.amountOut) ∧
      origin.record.Carries all entries origin.swap.protocol.programId disc body
  parties : ∃ ix, all[origin.source]? = some ix ∧
    ix.programId = origin.swap.protocol.programId ∧
      NamesParties externals ix origin.swap
  fromSource :
    FromSource all entries skips origin.swap.protocol origin.record origin.source

/-- Every swap has an origin, no two have the same record, and only a DAMM v2
instruction is the source of two. -/
def CountedOnce (swaps : List Swap) : Prop :=
  ∃ origins : List SwapOrigin, origins.map SwapOrigin.swap = swaps ∧
    (∀ origin ∈ origins, origin.Traced externals all entries skips) ∧
      (origins.map SwapOrigin.record).Nodup ∧
        origins.Pairwise fun first second => first.source = second.source →
          ∃ ix, all[first.source]? = some ix ∧
            ix.programId = MeteoraDammV2.programId

/-- Extraction from a successful transaction ends, and what it records is
counted once. -/
def ExtractsOnce : Prop :=
  ∃ registry, ExtractorRegistry.withAllProtocols externals = some registry ∧
    ∀ tokenBalances, ∃ parsed,
      (∀ fuel, all.length ≤ fuel →
        extractTransaction fuel
          { success := true, tokenBalances := tokenBalances } all registry =
            some parsed) ∧
        CountedOnce externals all entries skips parsed.events

end Tracing

section Emission

variable {externals : Externals} {all : List ParsedInstruction}
  {entries : List LogEntry} {skips : ParsedInstruction → Prop}

/-- The instruction whose extraction uses a record: the event itself on DAMM v2,
the parent of the event elsewhere, and the instruction whose log it is. -/
inductive EmittedAt (all : List ParsedInstruction) (entries : List LogEntry) :
    EventRecord → Nat → Prop
  | event {index : Nat} {ix : ParsedInstruction} (here : all[index]? = some ix)
      (program : ix.programId = MeteoraDammV2.programId) :
      EmittedAt all entries (.instruction index) index
  | parent {index source : Nat} {ix : ParsedInstruction}
      (here : all[index]? = some ix)
      (program : ix.programId ≠ MeteoraDammV2.programId)
      (ofSource : ix.parentIndex = some source) :
      EmittedAt all entries (.instruction index) source
  | log {position source : Nat} {disc : Discriminator} {payload : Bytes}
      (isData : entries[position]? = some (.data disc payload))
      (own : position ∈ logPositions all entries source) :
      EmittedAt all entries (.log position) source

theorem EmittedAt.unique {record : EventRecord} {first second : Nat}
    (atFirst : EmittedAt all entries record first)
    (atSecond : EmittedAt all entries record second) : first = second := by
  cases atFirst with
  | event here program =>
      cases atSecond with
      | event => rfl
      | parent here' program' =>
          cases here.symm.trans here'
          exact absurd program program'
  | parent here program ofSource =>
      cases atSecond with
      | event here' program' =>
          cases here.symm.trans here'
          exact absurd program' program
      | parent here' program' ofSource' =>
          cases here.symm.trans here'
          exact Option.some.inj (ofSource.symm.trans ofSource')
  | log isData own =>
      cases atSecond with
      | log isData' own' => exact logPositions_unique isData own own'

/-- A swap with its origin that the instruction at an index emits. -/
structure Emits (externals : Externals) (all : List ParsedInstruction)
    (entries : List LogEntry) (skips : ParsedInstruction → Prop) (index : Nat)
    (origin : SwapOrigin) : Prop where
  traced : origin.Traced externals all entries skips
  emittedAt : EmittedAt all entries origin.record index
  ownSource : origin.swap.protocol = .meteoraDammV2 ∨ origin.source = index

/-- The event that was found for an instruction is in a record below it. -/
theorem exists_record_of_childEvent {Event : Type} {event : ProtocolEvent Event}
    {ix : ParsedInstruction} {index : Nat} {protocol : Protocol} {value : Event}
    (wellParsed : WellParsed all entries) (here : all[index]? = some ix)
    (program : protocol.programId ≠ MeteoraDammV2.programId)
    (readsLog : protocol ∈ [.pumpfun, .pumpSwap])
    (found : childEvent event ix all protocol.programId = .ok value) :
    ∃ record body, event.tryFromSlice body = .ok value ∧
      record.Carries all entries protocol.programId event.discriminator body ∧
        FromSource all entries skips protocol record index ∧
          EmittedAt all entries record index := by
  have searches : protocol ∈ [.pumpfun, .pumpSwap, .meteoraDlmm] :=
    List.mem_append_left [Protocol.meteoraDlmm] readsLog
  rcases childEvent_eq_ok found with
    ⟨child, inside, ofParent, onProgram, body, dataEq, decoded⟩ |
      ⟨payload, inLog, decoded⟩
  · obtain ⟨position, there⟩ := List.mem_iff_getElem?.mp inside
    rw [wellParsed.index here] at ofParent
    exact ⟨.instruction position, body,
      (event.fromEventBody_eq_ok_iff).mp decoded,
      ⟨child, there, onProgram, dataEq⟩, .child searches there ofParent,
      .parent there (onProgram ▸ program) ofParent⟩
  · rw [wellParsed.logs here] at inLog
    obtain ⟨position, own, isData⟩ := List.mem_filterMap.mp inLog
    exact ⟨.log position, payload, (event.fromEventBody_eq_ok_iff).mp decoded,
      isData, .ownLog readsLog own, .log isData own⟩

section Extractors

variable {ix : ParsedInstruction} {index fuel : Nat} {swap : Swap}

theorem emits_of_childEvent {Event : Type} {event : ProtocolEvent Event}
    {protocol : Protocol} {value : Event} (wellParsed : WellParsed all entries)
    (here : all[index]? = some ix) (program : ix.programId = protocol.programId)
    (protocolEq : swap.protocol = protocol)
    (readsLog : protocol ∈ [.pumpfun, .pumpSwap])
    (found : childEvent event ix all protocol.programId = .ok value)
    (amounts : ∀ body, event.tryFromSlice body = .ok value →
      SaysAmounts externals protocol event.discriminator body
        (swap.amountIn, swap.amountOut))
    (parties : NamesParties externals ix swap) :
    ∃ origin, origin.swap = swap ∧
      Emits externals all entries skips index origin := by
  subst protocolEq
  have notDamm : swap.protocol.programId ≠ MeteoraDammV2.programId := by
    intro same
    have protocolEq := Protocol.programId_injective
      (same.trans (rfl : _ = Protocol.meteoraDammV2.programId))
    rw [protocolEq] at readsLog
    exact absurd readsLog (by decide)
  obtain ⟨record, body, decoded, carries, fromSource, emittedAt⟩ :=
    exists_record_of_childEvent wellParsed here notDamm readsLog found
  exact ⟨⟨swap, record, index⟩, rfl,
    ⟨⟨_, body, amounts body decoded, carries⟩, ⟨ix, here, program, parties⟩,
      fromSource⟩, emittedAt, .inr rfl⟩

theorem emits_pumpfun (wellParsed : WellParsed all entries)
    (here : all[index]? = some ix)
    (program : ix.programId = Protocol.pumpfun.programId)
    (recorded : SwapExtractor.pumpfun.extract externals ix all = some swap) :
    ∃ origin, origin.swap = swap ∧
      Emits externals all entries skips index origin := by
  obtain ⟨-, read, readEq, -, describes⟩ :=
    (SwapExtractor.pumpfun.explains externals ix all).sound swap recorded
  obtain ⟨parsed, form, event, accounts, decoded, formEq, found, keysRead, rfl⟩ :=
    Pumpfun.exists_of_reading readEq
  have protocolEq : swap.protocol = .pumpfun := describes.protocol
  have amountsEq : event.amounts = (swap.amountIn, swap.amountOut) := by
    rw [describes.amountIn, describes.amountOut, Pumpfun.TradeEvent.amounts,
      Pumpfun.SwapForm.reading]
    cases event.isBuy <;> rfl
  refine emits_of_childEvent wellParsed here program protocolEq (by decide)
    found (fun body decoded => amountsEq ▸ .trade decoded) ?_
  exact ⟨_, _, _, protocolEq ▸ .pumpfun decoded formEq, accounts, keysRead,
    (Option.some.inj describes.pool).symm,
    (Option.some.inj describes.trader).symm⟩

theorem emits_pumpSwap (wellParsed : WellParsed all entries)
    (here : all[index]? = some ix)
    (program : ix.programId = Protocol.pumpSwap.programId)
    (recorded : SwapExtractor.pumpSwap.extract externals ix all = some swap) :
    ∃ origin, origin.swap = swap ∧
      Emits externals all entries skips index origin := by
  obtain ⟨-, read, readEq, -, describes⟩ :=
    (SwapExtractor.pumpSwap.explains externals ix all).sound swap recorded
  obtain ⟨parsed, decoded, ⟨isBuy, event, accounts, found, keysRead, rfl⟩ |
    ⟨isSell, event, accounts, found, keysRead, rfl⟩⟩ :=
    PumpSwap.exists_of_reading readEq
  · have protocolEq : swap.protocol = .pumpSwap := describes.protocol
    have amountsEq : (event.grossQuoteIn, event.baseAmountOut) =
        (swap.amountIn, swap.amountOut) := by
      rw [describes.amountIn, describes.amountOut]
      rfl
    refine emits_of_childEvent wellParsed here program protocolEq (by decide)
      found (fun body decoded => amountsEq ▸ .buy decoded) ?_
    exact ⟨_, _, _, protocolEq ▸ .pumpSwapBuy decoded isBuy, accounts, keysRead,
      (Option.some.inj describes.pool).symm,
      (Option.some.inj describes.trader).symm⟩
  · have protocolEq : swap.protocol = .pumpSwap := describes.protocol
    have amountsEq : (event.baseAmountIn, event.userQuoteAmountOut) =
        (swap.amountIn, swap.amountOut) := by
      rw [describes.amountIn, describes.amountOut]
      rfl
    refine emits_of_childEvent wellParsed here program protocolEq (by decide)
      found (fun body decoded => amountsEq ▸ .sell decoded) ?_
    exact ⟨_, _, _, protocolEq ▸ .pumpSwapSell decoded isSell, accounts,
      keysRead, (Option.some.inj describes.pool).symm,
      (Option.some.inj describes.trader).symm⟩

theorem emits_meteoraDlmm (wellParsed : WellParsed all entries)
    (here : all[index]? = some ix)
    (program : ix.programId = Protocol.meteoraDlmm.programId)
    (recorded : SwapExtractor.meteoraDlmm.extract externals ix all = some swap) :
    ∃ origin, origin.swap = swap ∧
      Emits externals all entries skips index origin := by
  obtain ⟨-, read, readEq, -, describes⟩ :=
    (SwapExtractor.meteoraDlmm.explains externals ix all).sound swap recorded
  obtain ⟨form, common, body, event, parsed, found, decoded, rfl⟩ :=
    MeteoraDlmm.exists_of_reading externals.dlmm readEq
  have protocolEq : swap.protocol = .meteoraDlmm := describes.protocol
  have amountsEq : (event.amountIn, event.amountOut) =
      (swap.amountIn, swap.amountOut) := by
    rw [describes.amountIn, describes.amountOut]
    rfl
  obtain ⟨child, inside, ofParent, onProgram, dataEq⟩ :=
    MeteoraDlmm.exists_of_findEventBody found
  obtain ⟨accounts, keysRead, rfl⟩ := MeteoraDlmm.exists_of_parseSwap parsed
  obtain ⟨position, there⟩ := List.mem_iff_getElem?.mp inside
  rw [wellParsed.index here] at ofParent
  have notDamm : child.programId ≠ MeteoraDammV2.programId := by
    rw [onProgram]
    exact (Protocol.programId_injective.ne (by decide) :
      Protocol.meteoraDlmm.programId ≠ Protocol.meteoraDammV2.programId)
  have amounts : SaysAmounts externals swap.protocol
      MeteoraDlmm.swapEventDiscriminator body (swap.amountIn, swap.amountOut) :=
    protocolEq ▸ amountsEq ▸ .dlmmSwap decoded
  have carries : (EventRecord.instruction position).Carries all entries
      swap.protocol.programId MeteoraDlmm.swapEventDiscriminator body :=
    protocolEq ▸ ⟨child, there, onProgram, dataEq⟩
  have parties : NamesParties externals ix swap :=
    ⟨_, _, _, protocolEq ▸ .meteoraDlmm parsed, accounts, keysRead,
      (Option.some.inj describes.pool).symm,
      (Option.some.inj describes.trader).symm⟩
  have fromSource : FromSource all entries skips swap.protocol
      (.instruction position) index :=
    protocolEq ▸ .child (by decide) there ofParent
  exact ⟨⟨swap, .instruction position, index⟩, rfl,
    ⟨⟨_, body, amounts, carries⟩, ⟨ix, here, protocolEq ▸ program, parties⟩,
      fromSource⟩, .parent there notDamm ofParent, .inr rfl⟩

end Extractors

section WalkUp

variable {ix outer : ParsedInstruction} {index fuel : Nat} {swap : Swap}

/-- What the walk up does not stop at. -/
def NotOuterSwap (ix : ParsedInstruction) : Prop :=
  MeteoraDammV2.isOuterSwap ix = false

/-- The walk up ends at the nearest instruction that it stops at. -/
theorem below_of_run {idx : Nat} (parentEq : ix.parentIndex = some idx)
    (ended : PassLoop.run (fun idx => some (MeteoraDammV2.resolveStep all idx))
      fuel idx = some (some outer)) :
    ∃ source : Nat, all[source]? = some outer ∧
      MeteoraDammV2.isOuterSwap outer = true ∧ Below all NotOuterSwap ix outer := by
  induction fuel generalizing ix idx with
  | zero => cases ended
  | succ fuel ih =>
      rcases PassLoop.run_succ_eq_some_iff.mp ended with leaves | ⟨next, steps, rest⟩
      · have leaves := Option.some.inj leaves
        rw [MeteoraDammV2.resolveStep] at leaves
        split at leaves
        next => cases leaves
        next candidate candidateEq =>
          split_ifs at leaves with isOuter
          · cases leaves
            exact ⟨idx, candidateEq, isOuter, .child parentEq candidateEq⟩
          · split at leaves <;> cases leaves
      · have steps := Option.some.inj steps
        rw [MeteoraDammV2.resolveStep] at steps
        split at steps
        next => cases steps
        next candidate candidateEq =>
          split_ifs at steps with isOuter
          split at steps
          next => cases steps
          next up upEq =>
            cases steps
            obtain ⟨source, there, stops, below⟩ := ih upEq rest
            exact ⟨source, there, stops, .deeper parentEq candidateEq
              (Bool.eq_false_iff.mpr isOuter) below⟩

theorem below_of_resolveOuterSwap
    (ended : MeteoraDammV2.resolveOuterSwap fuel ix all = some (some outer)) :
    ∃ source : Nat, all[source]? = some outer ∧
      MeteoraDammV2.isOuterSwap outer = true ∧ Below all NotOuterSwap ix outer := by
  rw [MeteoraDammV2.resolveOuterSwap] at ended
  split at ended
  next => cases ended
  next idx parentEq => exact below_of_run parentEq ended

theorem emits_meteoraDammV2 (here : all[index]? = some ix)
    (program : ix.programId = MeteoraDammV2.programId)
    (recorded : MeteoraDammV2.extract fuel ix all = some (some swap)) :
    ∃ origin, origin.swap = swap ∧
      Emits externals all entries NotOuterSwap index origin := by
  obtain ⟨event, outer, parsed, ended, swapEq⟩ :=
    MeteoraDammV2.extract_eq_some_iff.mp recorded
  obtain ⟨source, there, stops, below⟩ := below_of_resolveOuterSwap ended
  obtain ⟨rest, dataEq⟩ :=
    MeteoraDammV2.EvtSwap2.fromSelfCpiData_eq_some_iff.mp parsed
  obtain ⟨accounts, keysRead, protocolEq, poolEq, traderEq, amountsEq⟩ :=
    MeteoraDammV2.exists_of_swapOf swapEq
  have outerProgram : outer.programId = MeteoraDammV2.programId := by
    simp only [MeteoraDammV2.isOuterSwap, Bool.and_eq_true, beq_iff_eq] at stops
    exact stops.1.1
  have amounts : SaysAmounts externals swap.protocol
      MeteoraDammV2.evtSwap2Discriminator
      (MeteoraDammV2.EvtSwap2.fields.encode event ++ rest)
      (swap.amountIn, swap.amountOut) :=
    protocolEq ▸ amountsEq ▸
      .evtSwap2 (MeteoraDammV2.EvtSwap2.fields.decode_encode event rest)
  have carries : (EventRecord.instruction index).Carries all entries
      swap.protocol.programId MeteoraDammV2.evtSwap2Discriminator
      (MeteoraDammV2.EvtSwap2.fields.encode event ++ rest) :=
    protocolEq ▸ ⟨ix, here, program, dataEq⟩
  have parties : NamesParties externals outer swap :=
    ⟨_, _, _, protocolEq ▸ .meteoraDammV2, accounts, keysRead, poolEq, traderEq⟩
  have fromSource : FromSource all entries NotOuterSwap swap.protocol
      (.instruction index) source :=
    protocolEq ▸ .below here there below
  exact ⟨⟨swap, .instruction index, source⟩, rfl,
    ⟨⟨_, _, amounts, carries⟩, ⟨outer, there, protocolEq ▸ outerProgram, parties⟩,
      fromSource⟩, .event here program, .inl protocolEq⟩

end WalkUp

section Run

variable {registry : ExtractorRegistry} {ix : ParsedInstruction}
  {index fuel : Nat} {swap : Swap}

theorem emits_of_extract (wellParsed : WellParsed all entries)
    (registered : ExtractorRegistry.withAllProtocols externals = some registry)
    (here : all[index]? = some ix)
    (recorded : registry.extract fuel ix all = some (some swap)) :
    ∃ origin, origin.swap = swap ∧
      Emits externals all entries NotOuterSwap index origin := by
  rcases extract_cases registered ix with
    ⟨extractor, program, runs⟩ | ⟨program, runs⟩ | runs
  · rw [runs] at recorded
    have recorded := Option.some.inj recorded
    cases extractor with
    | pumpfun => exact emits_pumpfun wellParsed here program recorded
    | pumpSwap => exact emits_pumpSwap wellParsed here program recorded
    | meteoraDlmm => exact emits_meteoraDlmm wellParsed here program recorded
  · rw [runs] at recorded
    exact emits_meteoraDammV2 here program recorded
  · rw [runs] at recorded
    cases recorded

/-- Two swaps have different records, and different sources unless these are
DAMM v2 instructions. -/
def SwapOrigin.Apart (all : List ParsedInstruction)
    (first second : SwapOrigin) : Prop :=
  first.record ≠ second.record ∧
    (first.source = second.source → ∃ ix, all[first.source]? = some ix ∧
      ix.programId = MeteoraDammV2.programId)

theorem apart_of_emits {first second : SwapOrigin} {earlier later : Nat}
    (different : earlier ≠ later)
    (atEarlier : Emits externals all entries skips earlier first)
    (atLater : Emits externals all entries skips later second) :
    first.Apart all second := by
  refine ⟨fun sameRecord => different ?_, fun sameSource => ?_⟩
  · exact (sameRecord ▸ atEarlier.emittedAt).unique atLater.emittedAt
  · obtain ⟨ix, there, program, -⟩ := atEarlier.traced.parties
    obtain ⟨ix', there', program', -⟩ := atLater.traced.parties
    rcases atEarlier.ownSource with isDamm | firstSource
    · exact ⟨ix, there, by rw [program, isDamm]; rfl⟩
    rcases atLater.ownSource with isDamm | secondSource
    · exact ⟨ix', sameSource ▸ there', by rw [program', isDamm]; rfl⟩
    · exact absurd (firstSource.symm.trans (sameSource.trans secondSource))
        different

/-- The instructions from one on record swaps with origins of their own. -/
theorem exists_origins (wellParsed : WellParsed all entries)
    (registered : ExtractorRegistry.withAllProtocols externals = some registry)
    {before rest : List ParsedInstruction} (allEq : all = before ++ rest) :
    ∃ origins : List SwapOrigin,
      (∀ fuel, all.length ≤ fuel → extractEvents registry fuel all rest =
        some (origins.map SwapOrigin.swap)) ∧
      (∀ origin ∈ origins, ∃ index, before.length ≤ index ∧
        Emits externals all entries NotOuterSwap index origin) ∧
      origins.Pairwise (SwapOrigin.Apart all) := by
  induction rest generalizing before with
  | nil =>
      exact ⟨[], fun _ _ => rfl, fun _ member => absurd member List.not_mem_nil,
        .nil⟩
  | cons ix rest ih =>
      have here : all[before.length]? = some ix := by simp [allEq]
      have restEq : all = (before ++ [ix]) ++ rest := by simp [allEq]
      obtain ⟨event, ended⟩ := exists_extract wellParsed registered here
      obtain ⟨origins, runs, emitted, apart⟩ := ih restEq
      simp only [List.length_append, List.length_singleton] at emitted
      cases event with
      | none =>
          refine ⟨origins, fun fuel enough => ?_, fun origin member => ?_, apart⟩
          · simp [extractEvents, ended fuel enough, runs fuel enough]
          · obtain ⟨index, after, emits⟩ := emitted origin member
            exact ⟨index, (Nat.le_succ _).trans after, emits⟩
      | some swap =>
          obtain ⟨first, rfl, emitsFirst⟩ :=
            emits_of_extract wellParsed registered here (ended _ le_rfl)
          refine ⟨first :: origins, fun fuel enough => ?_,
            fun origin member => ?_, List.pairwise_cons.mpr
              ⟨fun origin member => ?_, apart⟩⟩
          · simp [extractEvents, ended fuel enough, runs fuel enough]
          · rcases List.mem_cons.mp member with rfl | member
            · exact ⟨_, le_rfl, emitsFirst⟩
            · obtain ⟨index, after, emits⟩ := emitted origin member
              exact ⟨index, (Nat.le_succ _).trans after, emits⟩
          · obtain ⟨index, after, emits⟩ := emitted origin member
            exact apart_of_emits (Nat.ne_of_lt after) emitsFirst emits

end Run

end Emission

/-- Extraction from a transaction that `parseInstructions` built ends, and
counts every swap once. -/
theorem extractsOnce (externals : Externals) (accountKeys : List Pubkey)
    (raws : List RawInstruction) (entries : List LogEntry) :
    ExtractsOnce externals (parseInstructions accountKeys raws entries) entries
      NotOuterSwap := by
  have wellParsed := wellParsed_parseInstructions accountKeys raws entries
  generalize parseInstructions accountKeys raws entries = all at wellParsed ⊢
  obtain ⟨registry, registered⟩ : ∃ registry,
      ExtractorRegistry.withAllProtocols externals = some registry :=
    ⟨_, withAllProtocols_eq externals⟩
  obtain ⟨origins, runs, emitted, apart⟩ :=
    exists_origins wellParsed registered (List.nil_append all).symm
  refine ⟨registry, registered, fun tokenBalances =>
    ⟨⟨origins.map SwapOrigin.swap, all, tokenBalances⟩, fun fuel enough => ?_,
      origins, rfl, fun origin member => ?_, ?_, apart.imp And.right⟩⟩
  · exact extractTransaction_of_success (runs fuel enough)
  · obtain ⟨index, -, emits⟩ := emitted origin member
    exact emits.traced
  · exact List.pairwise_map.mpr (apart.imp And.left)

section ShortInstruction

open MeteoraDammV2

/-- What is not a DAMM v2 instruction without the event tag. -/
def NotNonEvent (ix : ParsedInstruction) : Prop :=
  ix.programId = programId → hasEventTag ix.data = true

def shortKeys : List Pubkey := [programId, 1]

/-- An event of the pool `1`. -/
def shortEvent : EvtSwap2 where
  pool := 1
  tradeDirection := 0
  collectFeeMode := 0
  hasReferral := false
  params := ⟨10, 0, 0⟩
  swapResult := ⟨10, 10, 0, 5, 0, 0, 0, 0, 0⟩
  includedTransferFeeAmountIn := 10
  includedTransferFeeAmountOut := 5
  excludedTransferFeeAmountOut := 5
  currentTimestamp := 0
  reserveAAmount := 1000
  reserveBAmount := 1000

/-- A swap that calls DAMM v2 without data, which emits the event. -/
def shortRaws : List RawInstruction :=
  [{ programIdIdx := 0
     accountIndices := List.replicate 14 1
     data := [248, 198, 158, 145, 225, 117, 135, 200]
     stackHeight := some 1 },
   { programIdIdx := 0
     accountIndices := []
     data := []
     stackHeight := some 2 },
   { programIdIdx := 0
     accountIndices := []
     data := eventData evtSwap2Discriminator (EvtSwap2.fields.encode shortEvent)
     stackHeight := some 3 }]

def shortSwap : ParsedInstruction where
  programId := programId
  accounts := List.replicate 14 1
  data := [248, 198, 158, 145, 225, 117, 135, 200]
  logs := []
  stackHeight := 1
  parentIndex := none
  instructionIndex := 0

def shortBetween : ParsedInstruction where
  programId := programId
  accounts := []
  data := []
  logs := []
  stackHeight := 2
  parentIndex := some 0
  instructionIndex := 1

def shortEventInstruction : ParsedInstruction where
  programId := programId
  accounts := []
  data := eventData evtSwap2Discriminator (EvtSwap2.fields.encode shortEvent)
  logs := []
  stackHeight := 3
  parentIndex := some 1
  instructionIndex := 2

def shortAll : List ParsedInstruction :=
  [shortSwap, shortBetween, shortEventInstruction]

theorem parseInstructions_shortRaws :
    parseInstructions shortKeys shortRaws [] = shortAll :=
  rfl

theorem exists_extract_shortEvent :
    ∃ swap, swap.protocol = .meteoraDammV2 ∧
      MeteoraDammV2.extract 3 shortEventInstruction shortAll = some (some swap) := by
  obtain ⟨accounts, keysRead⟩ : ∃ accounts,
      SwapAccounts.fromAccountKeys shortSwap.accounts = .ok accounts :=
    AccountsStruct.exists_of_length rfl
  have poolEq : SwapAccounts.account accounts .pool = shortEvent.pool :=
    AccountsStruct.account_eq keysRead (by decide) (by decide)
  have parsed : EvtSwap2.fromSelfCpiData shortEventInstruction.data =
      some shortEvent :=
    EvtSwap2.fromSelfCpiData_eq_some_iff.mpr ⟨[], by rw [List.append_nil]; rfl⟩
  have ended : resolveOuterSwap 3 shortEventInstruction shortAll =
      some (some shortSwap) := rfl
  have built : ∃ swap, swapOf shortEvent shortSwap = some swap := by
    rw [swapOf, keysRead]
    simp only [poolEq, ne_eq, not_true_eq_false, if_false]
    exact ⟨_, rfl⟩
  obtain ⟨swap, swapEq⟩ := built
  obtain ⟨-, -, protocolEq, -⟩ := exists_of_swapOf swapEq
  exact ⟨swap, protocolEq,
    extract_eq_some_iff.mpr ⟨shortEvent, shortSwap, parsed, ended, swapEq⟩⟩

theorem eq_two_of_carries {index : Nat} {program : Pubkey}
    {disc : Discriminator} {body : Bytes}
    (carries : (EventRecord.instruction index).Carries shortAll [] program disc
      body) : index = 2 := by
  obtain ⟨ix, here, -, dataEq⟩ := carries
  have tagged : hasEventTag ix.data = true :=
    dataEq ▸ hasEventTag_eventData disc body
  match index with
  | 0 =>
      cases here
      exact absurd tagged (by decide)
  | 1 =>
      cases here
      exact absurd tagged (by decide)
  | 2 => rfl
  | index + 3 => cases here

theorem eq_shortBetween_of_below {outer : ParsedInstruction}
    (below : Below shortAll NotNonEvent shortEventInstruction outer) :
    outer = shortBetween := by
  cases below with
  | child parentEq outerEq =>
      cases parentEq
      cases outerEq
      rfl
  | deeper parentEq betweenEq skipped =>
      cases parentEq
      cases betweenEq
      exact absurd (skipped rfl) (by decide)

theorem not_namesParties_shortBetween {externals : Externals} {swap : Swap}
    (protocolEq : swap.protocol = .meteoraDammV2) :
    ¬ NamesParties externals shortBetween swap := by
  rintro ⟨struct, poolSlot, traderSlot, slots, accounts, keysRead, -⟩
  rw [protocolEq] at slots
  cases slots
  cases keysRead

/-- A swap is taken from a source with another non-event instruction in
between. -/
theorem not_extractsOnce_shortRaws :
    ¬ ∀ (externals : Externals) (accountKeys : List Pubkey)
      (raws : List RawInstruction) (entries : List LogEntry),
      ExtractsOnce externals (parseInstructions accountKeys raws entries) entries
        NotNonEvent := by
  intro claimed
  obtain ⟨registry, registered, extracts⟩ :=
    claimed Pumpfun.plainExternals shortKeys shortRaws []
  rw [parseInstructions_shortRaws] at extracts
  obtain ⟨parsed, runs, origins, swapsEq, traced, -⟩ := extracts []
  obtain ⟨swap, protocolEq, recorded⟩ := exists_extract_shortEvent
  have swapNone : registry.extract 3 shortSwap shortAll = some none :=
    extract_of_meteoraDammV2 registered rfl
  have betweenNone : registry.extract 3 shortBetween shortAll = some none :=
    extract_of_meteoraDammV2 registered rfl
  have eventSome : registry.extract 3 shortEventInstruction shortAll =
      some (some swap) :=
    (extract_of_meteoraDammV2 registered rfl).trans recorded
  have events : extractEvents registry 3 shortAll
      [shortSwap, shortBetween, shortEventInstruction] = some [swap] := by
    simp only [extractEvents, swapNone, betweenNone, eventSome,
      Option.bind_eq_bind, Option.bind_some]
    rfl
  cases (runs 3 le_rfl).symm.trans (extractTransaction_of_success events)
  obtain ⟨⟨swap', record, source⟩, rfl, swapEq⟩ :=
    List.map_eq_singleton_iff.mp swapsEq
  obtain rfl : swap' = swap := swapEq
  obtain ⟨⟨disc, body, -, carries⟩, ⟨ix, ixEq, -, parties⟩, fromSource⟩ :=
    traced _ (List.mem_singleton_self _)
  simp only [protocolEq] at carries fromSource
  cases fromSource with
  | child searches => exact absurd searches (by decide)
  | ownLog readsLog => exact absurd readsLog (by decide)
  | below here there below =>
      cases eq_two_of_carries carries
      cases here
      cases ixEq.symm.trans there
      cases eq_shortBetween_of_below below
      exact not_namesParties_shortBetween protocolEq parties

end ShortInstruction

end SolanaProtocols
