import SolanaProtocols.PoolOrders
import SolanaProtocols.SwapMath

/-!
# Swaps by classification

An instruction can be classified as a swap without its accounts: which amount is
exact, which bounds the other side, and whether it buys.  Where the registry parses a
swap the two agree on the amounts, and on the direction where the event has one.  The
classifications of four enums take a swap with an exact input for a buy.
-/

namespace SolanaProtocols

open Swap (SwapDirection)
open Pumpfun (U64)
open Parsing Parsing.Registry Chain Protocols

namespace Parsing.Classify

/-- An amount of a classification. -/
inductive SwapAmount
  | exact (amount : U64)
  | minimum (amount : U64)
  | maximum (amount : U64)
  | unknown
deriving DecidableEq

def SwapAmount.amount : SwapAmount → Option U64
  | exact amount | minimum amount | maximum amount => some amount
  | unknown => none

/-- Classification data for a swap. -/
structure SwapClassification where
  direction : SwapDirection
  amountIn : SwapAmount
  amountOut : SwapAmount
  mint : Option Pubkey
  pool : Option Pubkey
  user : Option Pubkey
deriving DecidableEq

namespace SwapClassification

def new (direction : SwapDirection) (amountIn amountOut : SwapAmount) :
    SwapClassification where
  direction := direction
  amountIn := amountIn
  amountOut := amountOut
  mint := none
  pool := none
  user := none

/-- The input is given and the output bounded from below. -/
def exactIn (direction : SwapDirection) (amountIn minimumOut : U64) :
    SwapClassification :=
  new direction (.exact amountIn) (.minimum minimumOut)

/-- The output is given and the input bounded from above. -/
def exactOut (direction : SwapDirection) (maximumIn amountOut : U64) :
    SwapClassification :=
  new direction (.maximum maximumIn) (.exact amountOut)

/-- The amounts are those of a swap, and so is the direction, if it has one. -/
structure Describes (classification : SwapClassification) (swap : SwapEvent) : Prop where
  amountIn : ∀ amount ∈ classification.amountIn.amount, swap.amountIn = amount
  amountOut : ∀ amount ∈ classification.amountOut.amount, swap.amountOut = amount
  direction : ∀ isBuy ∈ swap.isBuy,
    classification.direction = if isBuy then .buy else .sell

end SwapClassification

end Parsing.Classify

open Parsing.Classify

/-- Classify an instruction of PumpSwap. -/
def PumpSwap.asSwap : PumpSwap.pumpSwapInstruction.Instruction → Option SwapClassification
  | ⟨.buy, params⟩ =>
      let params : PumpSwap.BuyParams := params
      some (.exactOut .buy params.maxQuoteAmountIn params.baseAmountOut)
  | ⟨.buyExactQuoteIn, params⟩ =>
      let params : PumpSwap.BuyExactQuoteInParams := params
      some (.exactIn .buy params.spendableQuoteIn params.minBaseAmountOut)
  | ⟨.sell, params⟩ =>
      let params : PumpSwap.SellParams := params
      some (.exactIn .sell params.baseAmountIn params.minQuoteAmountOut)
  | _ => none

/-- The classification of either version: an exact input buys. -/
def RaydiumClmm.classify (amount otherAmountThreshold : U64) (isBaseInput : Bool) :
    SwapClassification :=
  if isBaseInput then .exactIn .buy amount otherAmountThreshold
  else .exactOut .sell otherAmountThreshold amount

/-- Classify an instruction of a concentrated pool. -/
def RaydiumClmm.asSwap :
    RaydiumClmm.raydiumClmmInstruction.Instruction → Option SwapClassification
  | ⟨.swap, params⟩ =>
      let params : RaydiumClmm.SwapParams := params
      some (classify params.amount params.otherAmountThreshold params.isBaseInput)
  | ⟨.swapV2, params⟩ =>
      let params : RaydiumClmm.SwapV2Params := params
      some (classify params.amount params.otherAmountThreshold params.isBaseInput)

/-- Classify an instruction of a constant product pool. -/
def RaydiumCpmm.asSwap :
    RaydiumCpmm.raydiumCpmmInstruction.Instruction → Option SwapClassification
  | ⟨.swapBaseInput, params⟩ =>
      let params : RaydiumCpmm.SwapBaseInputParams := params
      some (.exactIn .buy params.amountIn params.minimumAmountOut)
  | ⟨.swapBaseOutput, params⟩ =>
      let params : RaydiumCpmm.SwapBaseOutputParams := params
      some (.exactOut .sell params.maximumAmountIn params.amountOut)

/-- Classify an instruction of the launchpad. -/
def RaydiumLaunchpad.asSwap :
    RaydiumLaunchpad.raydiumLaunchpadInstruction.Instruction →
      Option SwapClassification
  | ⟨.buyExactIn, params⟩ =>
      let params : RaydiumLaunchpad.BuyExactInParams := params
      some (.exactIn .buy params.amountIn params.minimumAmountOut)
  | ⟨.buyExactOut, params⟩ =>
      let params : RaydiumLaunchpad.BuyExactOutParams := params
      some (.exactOut .buy params.maximumAmountIn params.amountOut)
  | ⟨.sellExactIn, params⟩ =>
      let params : RaydiumLaunchpad.SellExactInParams := params
      some (.exactIn .sell params.amountIn params.minimumAmountOut)
  | ⟨.sellExactOut, params⟩ =>
      let params : RaydiumLaunchpad.SellExactOutParams := params
      some (.exactOut .sell params.maximumAmountIn params.amountOut)

/-- The second version: an exact output sells, and the amounts of an unknown mode are
unknown. -/
def MeteoraDbc.Swap2Params.classify (params : MeteoraDbc.Swap2Params) :
    SwapClassification :=
  match MeteoraDbc.SwapMode.fromU8 params.swapMode with
  | some .exactIn | some .partialFill => .exactIn .buy params.amount0 params.amount1
  | some .exactOut => .exactOut .sell params.amount1 params.amount0
  | none => .new .buy .unknown .unknown

/-- Classify an instruction of a bonding curve. -/
def MeteoraDbc.asSwap :
    MeteoraDbc.meteoraDbcInstruction.Instruction → Option SwapClassification
  | ⟨.swap, params⟩ =>
      let params : MeteoraDbc.SwapParams := params
      some (.exactIn .buy params.amountIn params.minimumAmountOut)
  | ⟨.swap2, params⟩ =>
      let params : MeteoraDbc.Swap2Params := params
      some params.classify

/-- Classify an instruction of pumpfun, of either version. -/
def Pumpfun.asSwap {utf8Error : Bytes → String} :
    (Pumpfun.pumpfunInstruction utf8Error).Instruction → Option SwapClassification
  | ⟨.buy, params⟩ =>
      let params : Pumpfun.BuyParams := params
      some (.exactOut .buy params.maxSolCost params.amount)
  | ⟨.buyV2, params⟩ =>
      let params : Pumpfun.BuyV2Params := params
      some (.exactOut .buy params.maxSolCost params.amount)
  | ⟨.buyExactSolIn, params⟩ =>
      let params : Pumpfun.BuyExactSolInParams := params
      some (.exactIn .buy params.spendableSolIn params.minTokensOut)
  | ⟨.buyExactQuoteInV2, params⟩ =>
      let params : Pumpfun.BuyExactQuoteInV2Params := params
      some (.exactIn .buy params.spendableQuoteIn params.minTokensOut)
  | ⟨.sell, params⟩ =>
      let params : Pumpfun.SellParams := params
      some (.exactIn .sell params.amount params.minSolOutput)
  | ⟨.sellV2, params⟩ =>
      let params : Pumpfun.SellV2Params := params
      some (.exactIn .sell params.amount params.minSolOutput)
  | _ => none

namespace Parsing.Classify

/-- A classification says whether an event is a swap, and describes it. -/
def Agrees (event : RegistryEvent) : Option SwapClassification → Prop
  | none => event.asSwap = none
  | some classification => ∃ swap, event = .swap swap ∧ classification.Describes swap

/-- The classifications of a parser's instructions agree with its events. -/
def Classifies (parser : EventParser)
    (asSwap : parser.enum.Instruction → Option SwapClassification) : Prop :=
  ∀ (instruction : parser.enum.Instruction),
    ∀ reader ∈ parser.reader instruction.variant, ∀ accounts,
      Agrees (reader.event accounts instruction.params) (asSwap instruction)

theorem describes_exactIn {direction : SwapDirection} {swap : SwapEvent}
    {amountIn minimumOut : U64} (sameIn : swap.amountIn = amountIn)
    (sameOut : swap.amountOut = minimumOut)
    (sameDirection : ∀ isBuy ∈ swap.isBuy, direction = if isBuy then .buy else .sell) :
    (SwapClassification.exactIn direction amountIn minimumOut).Describes swap where
  amountIn _ same := sameIn.trans (Option.some.inj same)
  amountOut _ same := sameOut.trans (Option.some.inj same)
  direction := sameDirection

theorem describes_exactOut {direction : SwapDirection} {swap : SwapEvent}
    {maximumIn amountOut : U64} (sameIn : swap.amountIn = maximumIn)
    (sameOut : swap.amountOut = amountOut)
    (sameDirection : ∀ isBuy ∈ swap.isBuy, direction = if isBuy then .buy else .sell) :
    (SwapClassification.exactOut direction maximumIn amountOut).Describes swap where
  amountIn _ same := sameIn.trans (Option.some.inj same)
  amountOut _ same := sameOut.trans (Option.some.inj same)
  direction := sameDirection

/-- A swap without a direction is described by its amounts. -/
theorem undirected {direction : SwapDirection} {swap : SwapEvent}
    (silent : swap.isBuy = none) :
    ∀ isBuy ∈ swap.isBuy, direction = if isBuy then .buy else .sell := by
  rw [silent]
  exact fun _ stated => by cases stated

theorem directed {direction : SwapDirection} {swap : SwapEvent} {isBuy : Bool}
    (states : swap.isBuy = some isBuy) (same : direction = if isBuy then .buy else .sell) :
    ∀ stated ∈ swap.isBuy, direction = if stated then .buy else .sell := by
  rw [states]
  rintro _ ⟨⟩
  exact same

theorem pumpSwap_classifies (addresses : AddressDerivation) :
    Classifies (PumpSwap.pumpSwapParser addresses) PumpSwap.asSwap := by
  rintro ⟨variant, params⟩ reader found accounts
  cases variant with
  | buy =>
      cases found
      exact ⟨_, rfl, describes_exactOut rfl rfl (directed rfl rfl)⟩
  | buyExactQuoteIn =>
      cases found
      exact ⟨_, rfl, describes_exactIn rfl rfl (directed rfl rfl)⟩
  | sell =>
      cases found
      exact ⟨_, rfl, describes_exactIn rfl rfl (directed rfl rfl)⟩
  | _ => cases found <;> rfl

theorem raydiumClmm_classifies :
    Classifies RaydiumClmm.fixedParser.eventParser RaydiumClmm.asSwap := by
  rintro ⟨variant, params⟩ reader found accounts
  cases variant with
  | swap =>
      cases found
      obtain ⟨amount, threshold, limit, isBaseInput⟩ := params
      cases isBaseInput
      · exact ⟨_, rfl, describes_exactOut rfl rfl (undirected rfl)⟩
      · exact ⟨_, rfl, describes_exactIn rfl rfl (undirected rfl)⟩
  | swapV2 =>
      cases found
      obtain ⟨amount, threshold, limit, isBaseInput⟩ := params
      cases isBaseInput
      · exact ⟨_, rfl, describes_exactOut rfl rfl (undirected rfl)⟩
      · exact ⟨_, rfl, describes_exactIn rfl rfl (undirected rfl)⟩

theorem raydiumCpmm_classifies :
    Classifies RaydiumCpmm.fixedParser.eventParser RaydiumCpmm.asSwap := by
  rintro ⟨variant, params⟩ reader found accounts
  cases variant with
  | swapBaseInput =>
      cases found
      exact ⟨_, rfl, describes_exactIn rfl rfl (undirected rfl)⟩
  | swapBaseOutput =>
      cases found
      exact ⟨_, rfl, describes_exactOut rfl rfl (undirected rfl)⟩

theorem raydiumLaunchpad_classifies :
    Classifies RaydiumLaunchpad.fixedParser.eventParser RaydiumLaunchpad.asSwap := by
  rintro ⟨variant, params⟩ reader found accounts
  cases variant with
  | buyExactIn =>
      cases found
      exact ⟨_, rfl, describes_exactIn rfl rfl (directed rfl rfl)⟩
  | buyExactOut =>
      cases found
      exact ⟨_, rfl, describes_exactOut rfl rfl (directed rfl rfl)⟩
  | sellExactIn =>
      cases found
      exact ⟨_, rfl, describes_exactIn rfl rfl (directed rfl rfl)⟩
  | sellExactOut =>
      cases found
      exact ⟨_, rfl, describes_exactOut rfl rfl (directed rfl rfl)⟩

theorem classify_describes {params : MeteoraDbc.Swap2Params}
    {accounts : MeteoraDbc.SwapAccounts} :
    params.classify.Describes (userSwap .meteoraDbc accounts.pool accounts.baseMint
      accounts.quoteMint params.amounts.1 params.amounts.2 accounts.payer) := by
  rw [MeteoraDbc.Swap2Params.classify, MeteoraDbc.Swap2Params.amounts]
  cases MeteoraDbc.SwapMode.fromU8 params.swapMode with
  | none =>
      exact
        { amountIn := fun _ stated => by cases stated
          amountOut := fun _ stated => by cases stated
          direction := undirected rfl }
  | some mode =>
      cases mode with
      | exactIn => exact describes_exactIn rfl rfl (undirected rfl)
      | partialFill => exact describes_exactIn rfl rfl (undirected rfl)
      | exactOut => exact describes_exactOut rfl rfl (undirected rfl)

theorem meteoraDbc_classifies :
    Classifies MeteoraDbc.fixedParser.eventParser MeteoraDbc.asSwap := by
  rintro ⟨variant, params⟩ reader found accounts
  cases variant with
  | swap =>
      cases found
      exact ⟨_, rfl, describes_exactIn rfl rfl (undirected rfl)⟩
  | swap2 =>
      cases found
      exact ⟨_, rfl, classify_describes⟩

/-- What can be told of an instruction without its accounts. -/
def classification {Variant : Type} {enum : InstructionEnum Variant}
    (asSwap : enum.Instruction → Option SwapClassification) (data : Bytes) :
    Option SwapClassification :=
  (enum.tryFromSlice data).toOption.bind asSwap

/-- The classification of an instruction, by its program.  The fourth Raydium program
and the stub have none. -/
def classify (utf8Error : Bytes → String) (parser : ProtocolParser) (data : Bytes) :
    Option SwapClassification :=
  match parser with
  | .pumpfun => classification (@Pumpfun.asSwap utf8Error) data
  | .pumpSwap => classification PumpSwap.asSwap data
  | .raydiumClmm => classification RaydiumClmm.asSwap data
  | .raydiumCpmm => classification RaydiumCpmm.asSwap data
  | .raydiumLaunchpad => classification RaydiumLaunchpad.asSwap data
  | .meteoraDbc => classification MeteoraDbc.asSwap data
  | .raydiumV4 | .meteoraDlmm => none

section Registry

variable {utf8Error : Bytes → String} {addresses : AddressDerivation}
  {ix : ParsedInstruction} {event : RegistryEvent}

theorem Classifies.agrees {parser : EventParser}
    {asSwap : parser.enum.Instruction → Option SwapClassification}
    (classifies : Classifies parser asSwap) (parsed : parser.parse ix = .ok (some event)) :
    Agrees event (classification asSwap ix.data) := by
  obtain ⟨instruction, decoded, reader, found, accounts, -, rfl⟩ :=
    EventParser.parse_eq_ok_some_iff.mp parsed
  rw [classification, decoded]
  exact classifies instruction reader found accounts

/-- A swap of pumpfun has the direction of its classification; its amounts come from
the log. -/
theorem pumpfun_direction {swap : SwapEvent}
    (parsed : pumpfunParse utf8Error ix = .ok (some (.swap swap))) :
    ∃ classification, classify utf8Error .pumpfun ix.data = some classification ∧
      ∀ isBuy ∈ swap.isBuy, classification.direction = if isBuy then .buy else .sell := by
  rw [pumpfunParse] at parsed
  split at parsed
  next => cases parsed
  next instruction decoded =>
    obtain ⟨variant, params⟩ := instruction
    have ofSwap {variant : Pumpfun.PumpfunVariant}
        (isSwap : pumpfunParseSwap utf8Error ix variant = .ok (some (.swap swap))) :
        swap.isBuy = some variant.isBuy := by
      obtain ⟨mint, curve, user, logData, -, -, -, -, -, made⟩ :=
        pumpfunParseSwap_eq_ok_iff.mp isSwap
      cases made
      rfl
    rw [classify, classification, decoded]
    cases variant with
    | buy => exact ⟨_, rfl, directed (ofSwap parsed) rfl⟩
    | buyExactSolIn => exact ⟨_, rfl, directed (ofSwap parsed) rfl⟩
    | sell => exact ⟨_, rfl, directed (ofSwap parsed) rfl⟩
    | create =>
        simp only [pumpfunEvent, pumpfunParseCreate, bind_eq_ok_iff] at parsed
        obtain ⟨mint, -, curve, -, creator, -, made⟩ := parsed
        cases made
    | createV2 =>
        simp only [pumpfunEvent, pumpfunParseCreateV2, bind_eq_ok_iff] at parsed
        obtain ⟨mint, -, curve, -, signer, -, made⟩ := parsed
        cases made
    | _ => cases parsed

/-- What an event and the classification of its instruction have in common.  The
amounts of a pumpfun swap are those of the log. -/
def Consistent (utf8Error : Bytes → String) (parser : ProtocolParser) (data : Bytes)
    (event : RegistryEvent) : Prop :=
  match parser with
  | .raydiumV4 => classify utf8Error parser data = none
  | .pumpfun => ∀ swap ∈ event.asSwap,
      ∃ classification, classify utf8Error parser data = some classification ∧
        ∀ isBuy ∈ swap.isBuy, classification.direction = if isBuy then .buy else .sell
  | _ => Agrees event (classify utf8Error parser data)

theorem consistent {parser : ProtocolParser}
    (parsed : parser.parseEvent utf8Error addresses ix = .ok (some event)) :
    Consistent utf8Error parser ix.data event := by
  cases parser with
  | pumpfun =>
      intro swap isSwap
      have isEvent : event = .swap swap := by
        cases event <;> cases isSwap
        rfl
      refine @pumpfun_direction utf8Error ix swap ?_
      rw [← @erase_pumpfun utf8Error addresses ix, parsed, isEvent]
      rfl
  | pumpSwap => exact (pumpSwap_classifies addresses).agrees parsed
  | raydiumV4 => rfl
  | raydiumClmm => exact raydiumClmm_classifies.agrees parsed
  | raydiumCpmm => exact raydiumCpmm_classifies.agrees parsed
  | raydiumLaunchpad => exact raydiumLaunchpad_classifies.agrees parsed
  | meteoraDlmm => cases parsed
  | meteoraDbc => exact meteoraDbc_classifies.agrees parsed

end Registry

end Parsing.Classify

namespace Protocols.PoolOrder

open Parsing.Classify

/-- The direction that an order is classified to have. -/
def classifiedDirection : PoolOrder → Option SwapDirection
  | raydiumV4 .. => none
  | raydiumClmm _ params => some (if params.isBaseInput then .buy else .sell)
  | raydiumCpmm .. => some .buy
  | launchpadBuy .. => some .buy
  | launchpadSell .. => some .sell
  | meteoraDbc .. => some .buy

theorem classify_built {utf8Error : Bytes → String}
    {overflow : MachineArithmetic.Overflow} {addresses : BuilderAddresses}
    {tokens : TokenAccountInstructions} {user : Pubkey} {order : PoolOrder}
    {instruction : Instruction}
    (built : order.buildSwapWithSetup overflow addresses tokens user false =
      some [instruction]) :
    ∃ parser : ProtocolParser, instruction.programId = parser.programId ∧
      (classify utf8Error parser instruction.data).map SwapClassification.direction =
        order.classifiedDirection := by
  have ofExact {Variant : Type} {enum : InstructionEnum Variant} (exact : enum.Exact)
      (asSwap : enum.Instruction → Option SwapClassification)
      (written : enum.Instruction) :
      classification asSwap written.data = asSwap written := by
    rw [classification, exact.tryFromSlice_eq_ok_iff.mpr rfl]
    rfl
  cases order with
  | raydiumV4 keys isBuy params =>
      cases built
      exact ⟨.raydiumV4, rfl, rfl⟩
  | raydiumClmm config params =>
      rw [buildSwapWithSetup, RaydiumClmm.SwapV2Builder.buildSwapWithSetup,
        Option.map_eq_some_iff] at built
      obtain ⟨swap, isBuilt, isOnly⟩ := built
      rw [RaydiumClmm.SwapV2Builder.buildSwapInstruction, Option.map_eq_some_iff] at isBuilt
      obtain ⟨arrays, -, rfl⟩ := isBuilt
      cases isOnly
      refine ⟨.raydiumClmm, rfl, ?_⟩
      refine (congrArg (Option.map SwapClassification.direction)
        (ofExact RaydiumClmm.raydiumClmmInstruction_exact RaydiumClmm.asSwap
          ⟨.swapV2, params⟩)).trans ?_
      obtain ⟨amount, threshold, limit, isBaseInput⟩ := params
      cases isBaseInput <;> rfl
  | raydiumCpmm config params =>
      cases built
      exact ⟨.raydiumCpmm, rfl, congrArg (Option.map SwapClassification.direction)
        (ofExact RaydiumCpmm.raydiumCpmmInstruction_exact RaydiumCpmm.asSwap
          ⟨.swapBaseInput, params⟩)⟩
  | launchpadBuy keys params =>
      cases built
      exact ⟨.raydiumLaunchpad, rfl, congrArg (Option.map SwapClassification.direction)
        (ofExact RaydiumLaunchpad.raydiumLaunchpadInstruction_exact RaydiumLaunchpad.asSwap
          ⟨.buyExactIn, params⟩)⟩
  | launchpadSell keys params =>
      cases built
      exact ⟨.raydiumLaunchpad, rfl, congrArg (Option.map SwapClassification.direction)
        (ofExact RaydiumLaunchpad.raydiumLaunchpadInstruction_exact RaydiumLaunchpad.asSwap
          ⟨.sellExactIn, params⟩)⟩
  | meteoraDbc config params =>
      cases built
      exact ⟨.meteoraDbc, rfl, congrArg (Option.map SwapClassification.direction)
        (ofExact MeteoraDbc.meteoraDbcInstruction_exact MeteoraDbc.asSwap
          ⟨.swap, params⟩)⟩

end Protocols.PoolOrder

namespace Parsing.Classify

/-- Every event of the full registry is consistent with the classification of its
instruction, without the accounts.  A built swap has the direction of its order on the
launchpad; elsewhere the classification only tells an exact input, which it takes for a
buy, from an exact output. -/
theorem classifications_consistent (utf8Error : Bytes → String)
    (addresses : AddressDerivation) :
    (∀ (parser : ProtocolParser) (ix : ParsedInstruction) (event : RegistryEvent),
      ix.programId = parser.programId →
        ProtocolRegistry.withAllProtocols.parseEvent utf8Error addresses ix =
            .ok (some event) →
          Consistent utf8Error parser ix.data event) ∧
      ∀ (overflow : MachineArithmetic.Overflow) (builders : BuilderAddresses)
        (tokens : TokenAccountInstructions) (user : Pubkey) (order : PoolOrder)
        (instruction : Instruction),
        order.buildSwapWithSetup overflow builders tokens user false =
            some [instruction] →
          ∃ parser : ProtocolParser, instruction.programId = parser.programId ∧
            (classify utf8Error parser instruction.data).map
                SwapClassification.direction =
              order.classifiedDirection :=
  ⟨fun _ _ _ program parsed => consistent
      ((ProtocolRegistry.parseEvent_withAllProtocols program).symm.trans parsed),
    fun _ _ _ _ _ _ built => PoolOrder.classify_built built⟩

/-- A sell of a pool of token 2 against token 3. -/
def cpmmSell : PoolOrder :=
  .raydiumCpmm (plainCpmmConfig false) ⟨10, 9⟩

/-- The sell is parsed to a swap of these amounts, and is classified as a buy. -/
theorem classifications_consistent_cpmmSell :
    ∃ (instruction : Instruction) (event : RegistryEvent),
      cpmmSell.buildSwapWithSetup .panics SwapBuilder.capturedAddresses plainCreation 7
          false = some [instruction] ∧
        ProtocolRegistry.withAllProtocols.parseEvent (fun _ => "")
            SwapBuilder.capturedAddresses.toAddressDerivation instruction.found =
          .ok (some event) ∧
        Consistent (fun _ => "") .raydiumCpmm instruction.data event ∧
        ∃ parser : ProtocolParser, instruction.programId = parser.programId ∧
          (classify (fun _ => "") parser instruction.data).map
            SwapClassification.direction = some .buy := by
  obtain ⟨ofEvents, ofOrders⟩ := classifications_consistent (fun _ => "")
    SwapBuilder.capturedAddresses.toAddressDerivation
  obtain ⟨instruction, built, program, parsed⟩ : ∃ instruction : Instruction,
      cpmmSell.buildSwapWithSetup .panics SwapBuilder.capturedAddresses plainCreation 7
          false = some [instruction] ∧
        instruction.programId = ProtocolParser.raydiumCpmm.programId ∧
        ProtocolRegistry.withAllProtocols.parseEvent (fun _ => "")
            SwapBuilder.capturedAddresses.toAddressDerivation instruction.found =
          .ok (some (.swap (userSwap .raydiumCpmm 1 2 3 10 9 7))) :=
    ⟨_, rfl, rfl, rfl⟩
  exact ⟨instruction, _, built, parsed,
    ofEvents .raydiumCpmm instruction.found _ program parsed,
    ofOrders .panics SwapBuilder.capturedAddresses plainCreation 7 cpmmSell _ built⟩

end Parsing.Classify

end SolanaProtocols
