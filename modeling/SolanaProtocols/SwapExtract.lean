import SolanaProtocols.PassLoop
import SolanaProtocols.SwapAccounts
import SolanaProtocols.SwapEvents

/-!
# Swap extractors

What the extractors of the four protocols record as a swap.  The pump programs
and DLMM extract at the swap instruction and look for the event below it; DAMM
v2 extracts at the event and walks up to the swap.  Instructions that record
something other than a swap count as recording none here.
-/

namespace SolanaProtocols

open Parsing Chain Protocols
open Pumpfun (U64)

namespace Chain

/-- Read an accounts struct off an instruction. -/
def readAccounts (struct : AccountsStruct) (ix : ParsedInstruction) :
    Except ExtractError (Accounts struct.layout) :=
  (struct.fromAccountKeys ix.accounts).mapError (.accountLayout struct.name)

@[simp] theorem readAccounts_eq_ok_iff {struct : AccountsStruct}
    {ix : ParsedInstruction} {accounts : Accounts struct.layout} :
    readAccounts struct ix = .ok accounts ↔
      struct.fromAccountKeys ix.accounts = .ok accounts := by
  rw [readAccounts]
  cases struct.fromAccountKeys ix.accounts <;> simp [Except.mapError]

end Chain

namespace Pumpfun

section Swaps

variable (addresses : AddressDerivation)

/-- Everything a pumpfun swap needs beyond the event. -/
structure SwapIdentity where
  mint : Pubkey
  pool : Pubkey
  trader : Pubkey
deriving DecidableEq

/-- The first forms read identity from fixed account slots. -/
def identityFromV1 (struct : AccountsStruct) (ix : ParsedInstruction) :
    Except ExtractError SwapIdentity := do
  let accounts ← readAccounts struct ix
  return {
    mint := struct.account accounts .mint
    pool := struct.account accounts .bondingCurve
    trader := struct.account accounts .user }

def identityFromV1Buy (ix : ParsedInstruction) :
    Except ExtractError SwapIdentity :=
  identityFromV1 (BuyAccounts addresses) ix

def identityFromV1Sell (ix : ParsedInstruction) :
    Except ExtractError SwapIdentity :=
  identityFromV1 (SellAccounts addresses) ix

/-- Identity for the second forms, read from the account list and corroborated
against the event. -/
def identityFromV2 (struct : AccountsStruct) (accounts : Accounts struct.layout)
    (event : TradeEvent) : Except ExtractError SwapIdentity := do
  corroborate "mint" event.mint (struct.account accounts .baseMint)
  corroborate "trader" event.user (struct.account accounts .user)
  corroborate "bonding_curve" (deriveBondingCurvePda addresses event.mint)
    (struct.account accounts .bondingCurve)
  return {
    mint := event.mint
    pool := struct.account accounts .bondingCurve
    trader := struct.account accounts .user }

/-- Map a trade event onto a swap, given identity. -/
def swapFrom (identity : SwapIdentity) (event : TradeEvent)
    (ix : ParsedInstruction) (trackVolume : OptionBool) : Swap where
  protocol := .pumpfun
  instruction := SwapInstruction.resolve ix.programId ix.data
  trackVolume := trackVolume
  -- Set by `swapVia`.
  completedCurve := false
  pool := identity.pool
  trader := identity.trader
  tokenIn := if event.isBuy then wsol else identity.mint
  amountIn := if event.isBuy then event.solAmount else event.tokenAmount
  tokenOut := if event.isBuy then identity.mint else wsol
  amountOut := if event.isBuy then event.tokenAmount else event.solAmount
  feeAmount := saturatingAdd event.fee event.creatorFee
  feeMint := wsol
  stateBefore := none
  stateAfter := some <|
    if event.isBuy then
      .reserves event.virtualSolReserves event.virtualTokenReserves
    else .reserves event.virtualTokenReserves event.virtualSolReserves

def BuyParams.swap (params : BuyParams) (event : TradeEvent)
    (ix : ParsedInstruction) : Except ExtractError Swap := do
  let identity ← identityFromV1Buy addresses ix
  corroborate "mint" event.mint identity.mint
  return swapFrom identity event ix params.trackVolume

def BuyExactSolInParams.swap (params : BuyExactSolInParams) (event : TradeEvent)
    (ix : ParsedInstruction) : Except ExtractError Swap := do
  let identity ← identityFromV1Buy addresses ix
  corroborate "mint" event.mint identity.mint
  return swapFrom identity event ix params.trackVolume

def SellParams.swap (event : TradeEvent) (ix : ParsedInstruction) :
    Except ExtractError Swap := do
  let identity ← identityFromV1Sell addresses ix
  corroborate "mint" event.mint identity.mint
  return swapFrom identity event ix .none

def BuyV2Params.swap (event : TradeEvent) (ix : ParsedInstruction) :
    Except ExtractError Swap := do
  let accounts ← readAccounts (BuyV2Accounts addresses) ix
  let identity ← identityFromV2 addresses _ accounts event
  return swapFrom identity event ix .none

def BuyExactQuoteInV2Params.swap (params : BuyExactQuoteInV2Params)
    (event : TradeEvent) (ix : ParsedInstruction) :
    Except ExtractError Swap := do
  let accounts ← readAccounts (BuyV2Accounts addresses) ix
  let identity ← identityFromV2 addresses _ accounts event
  return swapFrom identity event ix params.trackVolume

def SellV2Params.swap (event : TradeEvent) (ix : ParsedInstruction) :
    Except ExtractError Swap := do
  let accounts ← readAccounts (SellV2Accounts addresses) ix
  let identity ← identityFromV2 addresses _ accounts event
  return swapFrom identity event ix .none

end Swaps

section Extract

variable (utf8Error : Bytes → String) (addresses : AddressDerivation)

/-- Resolve an instruction's event, then let it build its own swap. -/
def swapVia (build : TradeEvent → ParsedInstruction → Except ExtractError Swap)
    (ix : ParsedInstruction) (all : List ParsedInstruction) :
    Except ExtractError (Option Swap) := do
  let event ← childEvent (tradeEvent utf8Error) ix all programId
  let swap ← build event ix
  let completed ← optionalChildEvent completeEvent ix all programId
  return some { swap with completedCurve := completed.isSome }

/-- The swap of a decoded instruction. -/
def swapOf (ix : ParsedInstruction) (all : List ParsedInstruction) :
    (pumpfunInstruction utf8Error).Instruction →
      Except ExtractError (Option Swap)
  | ⟨.buy, params⟩ => swapVia utf8Error (BuyParams.swap addresses params) ix all
  | ⟨.buyExactSolIn, params⟩ =>
      swapVia utf8Error (BuyExactSolInParams.swap addresses params) ix all
  | ⟨.sell, _⟩ => swapVia utf8Error (SellParams.swap addresses) ix all
  | ⟨.buyV2, _⟩ => swapVia utf8Error (BuyV2Params.swap addresses) ix all
  | ⟨.buyExactQuoteInV2, params⟩ =>
      swapVia utf8Error (BuyExactQuoteInV2Params.swap addresses params) ix all
  | ⟨.sellV2, _⟩ => swapVia utf8Error (SellV2Params.swap addresses) ix all
  -- Creations, graduations and creator fees.
  | _ => .ok none

def tryExtract (ix : ParsedInstruction) (all : List ParsedInstruction) :
    Except ExtractError (Option Swap) :=
  if hasEventTag ix.data then .ok none
  else
    match (pumpfunInstruction utf8Error).tryFromSlice ix.data with
    | .error _ => .ok none
    | .ok parsed => swapOf utf8Error addresses ix all parsed

/-- What `PumpfunExtractor` records.  A failure is reported and records
nothing. -/
def extract (ix : ParsedInstruction) (all : List ParsedInstruction) :
    Option Swap :=
  match tryExtract utf8Error addresses ix all with
  | .ok swap => swap
  | .error _ => none

end Extract

end Pumpfun

namespace PumpSwap

section Swaps

variable (addresses : AddressDerivation)

/-- Shared by both buy forms: the trader pays quote.  The fees are added as
machine integers. -/
def buySwap (event : BuyEvent) (ix : ParsedInstruction)
    (trackVolume : OptionBool) : Except ExtractError Swap := do
  let struct := BuyAccounts addresses
  let accounts ← readAccounts struct ix
  corroborate "pool" event.pool (struct.account accounts .pool)
  return {
    protocol := .pumpSwap
    instruction := SwapInstruction.resolve ix.programId ix.data
    trackVolume := trackVolume
    completedCurve := false
    pool := struct.account accounts .pool
    trader := struct.account accounts .user
    tokenIn := struct.account accounts .quoteMint
    amountIn := event.grossQuoteIn
    tokenOut := struct.account accounts .baseMint
    amountOut := event.baseAmountOut
    feeAmount := event.lpFee + event.protocolFee + event.coinCreatorFee
    feeMint := struct.account accounts .quoteMint
    stateBefore := some <| .reserves event.poolQuoteTokenReserves
      event.poolBaseTokenReserves
    stateAfter := none }

def BuyParams.swap (params : BuyParams) (event : BuyEvent)
    (ix : ParsedInstruction) : Except ExtractError Swap :=
  buySwap addresses event ix params.trackVolume

def BuyExactQuoteInParams.swap (params : BuyExactQuoteInParams)
    (event : BuyEvent) (ix : ParsedInstruction) : Except ExtractError Swap :=
  buySwap addresses event ix params.trackVolume

def SellParams.swap (event : SellEvent) (ix : ParsedInstruction) :
    Except ExtractError Swap := do
  let struct := SellAccounts addresses
  let accounts ← readAccounts struct ix
  corroborate "pool" event.pool (struct.account accounts .pool)
  return {
    protocol := .pumpSwap
    instruction := SwapInstruction.resolve ix.programId ix.data
    trackVolume := .none
    completedCurve := false
    pool := struct.account accounts .pool
    trader := struct.account accounts .user
    tokenIn := struct.account accounts .baseMint
    amountIn := event.baseAmountIn
    tokenOut := struct.account accounts .quoteMint
    amountOut := event.userQuoteAmountOut
    feeAmount := event.lpFee + event.protocolFee + event.coinCreatorFee
    feeMint := struct.account accounts .quoteMint
    stateBefore := some <| .reserves event.poolBaseTokenReserves
      event.poolQuoteTokenReserves
    stateAfter := none }

end Swaps

section Extract

variable (utf8Error : Bytes → String) (addresses : AddressDerivation)

/-- Resolve an instruction's event, then let it build its own swap. -/
def swapVia {Event : Type} (event : ProtocolEvent Event)
    (build : Event → ParsedInstruction → Except ExtractError Swap)
    (ix : ParsedInstruction) (all : List ParsedInstruction) :
    Except ExtractError (Option Swap) := do
  let found ← childEvent event ix all programId
  let swap ← build found ix
  return some swap

/-- The swap of a decoded instruction. -/
def swapOf (ix : ParsedInstruction) (all : List ParsedInstruction) :
    pumpSwapInstruction.Instruction → Except ExtractError (Option Swap)
  | ⟨.buy, params⟩ =>
      swapVia (buyEvent utf8Error) (BuyParams.swap addresses params) ix all
  | ⟨.buyExactQuoteIn, params⟩ =>
      swapVia (buyEvent utf8Error) (BuyExactQuoteInParams.swap addresses params)
        ix all
  | ⟨.sell, _⟩ => swapVia sellEvent (SellParams.swap addresses) ix all
  -- Pool creations, creator fees, deposits and withdrawals.
  | _ => .ok none

def tryExtract (ix : ParsedInstruction) (all : List ParsedInstruction) :
    Except ExtractError (Option Swap) :=
  if hasEventTag ix.data then .ok none
  else
    match pumpSwapInstruction.tryFromSlice ix.data with
    | .error _ => .ok none
    | .ok parsed => swapOf utf8Error addresses ix all parsed

/-- What `PumpSwapExtractor` records. -/
def extract (ix : ParsedInstruction) (all : List ParsedInstruction) :
    Option Swap :=
  match tryExtract utf8Error addresses ix all with
  | .ok swap => swap
  | .error _ => none

end Extract

end PumpSwap

namespace MeteoraDlmm

/-- The swap instructions. -/
inductive SwapForm
  | swap
  | swap2
  | swapExactOut
  | swapExactOut2
  | swapWithPriceImpact
  | swapWithPriceImpact2
deriving DecidableEq, Repr

/-- The program's SDK: the instruction discriminators, whether the arguments of
an instruction decode, and the decoder of the swap event. -/
structure Sdk where
  discriminator : SwapForm → Discriminator
  decodesArgs : SwapForm → Bytes → Bool
  swapEvent : Bytes → Option SwapEvent

namespace SwapForm

/-- The forms in the order of the dispatch. -/
def all : List SwapForm :=
  [swap, swap2, swapExactOut, swapExactOut2, swapWithPriceImpact,
    swapWithPriceImpact2]

def accounts : SwapForm → AccountsStruct
  | swap => SwapAccounts
  | swap2 => Swap2Accounts
  | swapExactOut => SwapExactOutAccounts
  | swapExactOut2 => SwapExactOut2Accounts
  | swapWithPriceImpact => SwapWithPriceImpactAccounts
  | swapWithPriceImpact2 => SwapWithPriceImpact2Accounts

end SwapForm

/-- The accounts every swap form exposes. -/
structure SwapCommon where
  lbPair : Pubkey
  user : Pubkey
  tokenXMint : Pubkey
  tokenYMint : Pubkey
deriving DecidableEq

/-- The common accounts of a swap form. -/
def common (struct : AccountsStruct) (accounts : Accounts struct.layout) :
    SwapCommon where
  lbPair := struct.account accounts .lbPair
  user := struct.account accounts .user
  tokenXMint := struct.account accounts .tokenXMint
  tokenYMint := struct.account accounts .tokenYMint

section Extract

variable (sdk : Sdk)

/-- Resolve an instruction as a swap form and its common accounts.  Other
instructions are none. -/
def parseSwap (ix : ParsedInstruction) : Option (SwapForm × SwapCommon) := do
  let disc ← firstChunk ix.data
  let form ← SwapForm.all.find? fun form => sdk.discriminator form == disc
  match form.accounts.fromAccountKeys ix.accounts with
  | .error _ => none
  | .ok accounts =>
      if sdk.decodesArgs form (ix.data.drop 8) then
        some (form, common form.accounts accounts)
      else none

/-- The body of the first child that carries the event. -/
def findEventBody (outer : ParsedInstruction) (all : List ParsedInstruction)
    (expected : Discriminator) : Option Bytes :=
  all.findSome? fun child =>
    if child.parentIndex ≠ some outer.instructionIndex then none
    else if child.programId ≠ programId then none
    else if child.data.length < 16 then none
    else if child.data.take 8 ≠ anchorEventTag.toList then none
    else if (child.data.drop 8).take 8 ≠ expected.toList then none
    else some (child.data.drop 16)

def extractSwap (outer : ParsedInstruction) (all : List ParsedInstruction)
    (common : SwapCommon) : Option Swap := do
  let body ← findEventBody outer all swapEventDiscriminator
  let event ← sdk.swapEvent body
  if event.lbPair ≠ common.lbPair then none
  else
    let tokenIn := if event.swapForY then common.tokenXMint else common.tokenYMint
    some {
      protocol := .meteoraDlmm
      instruction := SwapInstruction.resolve outer.programId outer.data
      trackVolume := .none
      completedCurve := false
      pool := common.lbPair
      trader := common.user
      tokenIn := tokenIn
      amountIn := event.amountIn
      tokenOut := if event.swapForY then common.tokenYMint else common.tokenXMint
      amountOut := event.amountOut
      feeAmount := event.fee
      feeMint := tokenIn
      stateBefore := some (.bin event.startBinId)
      stateAfter := some (.bin event.endBinId) }

/-- What `MeteoraDlmmExtractor` records. -/
def extract (ix : ParsedInstruction) (all : List ParsedInstruction) :
    Option Swap :=
  if hasEventTag ix.data then none
  else do
    let (_, common) ← parseSwap sdk ix
    extractSwap sdk ix all common

variable {sdk}

theorem exists_of_parseSwap {ix : ParsedInstruction} {form : SwapForm}
    {found : SwapCommon} (parsed : parseSwap sdk ix = some (form, found)) :
    ∃ accounts, form.accounts.fromAccountKeys ix.accounts = .ok accounts ∧
      found = common form.accounts accounts := by
  simp only [parseSwap, Option.bind_eq_bind, Option.bind_eq_some_iff] at parsed
  obtain ⟨disc, -, form', -, parsed⟩ := parsed
  split at parsed
  next => cases parsed
  next accounts read =>
    split_ifs at parsed
    cases parsed
    exact ⟨accounts, read, rfl⟩

theorem exists_of_findEventBody {outer : ParsedInstruction}
    {all : List ParsedInstruction} {expected : Discriminator} {body : Bytes}
    (found : findEventBody outer all expected = some body) :
    ∃ child ∈ all, child.parentIndex = some outer.instructionIndex ∧
      child.programId = programId ∧ child.data = eventData expected body := by
  obtain ⟨child, inside, carries⟩ := List.exists_of_findSome?_eq_some found
  split_ifs at carries with stranger foreign short untagged other
  have bodyEq : eventBody child.data expected = some (child.data.drop 16) := by
    rw [eventBody_eq_ite, if_neg short, if_neg untagged, if_neg other]
  rw [carries] at bodyEq
  exact ⟨child, inside, not_not.mp stranger, not_not.mp foreign,
    eventBody_eq_some_iff.mp bodyEq⟩

end Extract

end MeteoraDlmm

namespace MeteoraDammV2

/-- Whether an instruction is one that events belong to. -/
def isOuterSwap (candidate : ParsedInstruction) : Bool :=
  candidate.programId == programId && 8 ≤ candidate.data.length &&
    candidate.data.take 8 != anchorEventTag.toList

/-- One step of the walk up. -/
def resolveStep (all : List ParsedInstruction) (idx : Nat) :
    Pass Nat (Option ParsedInstruction) :=
  match all[idx]? with
  | none => .leave none
  | some candidate =>
      if isOuterSwap candidate then .leave (some candidate)
      else
        match candidate.parentIndex with
        | none => .leave none
        | some parent => .next parent

/-- Walk up to the swap instruction that an event belongs to.  `none` is a walk
that has not ended. -/
def resolveOuterSwap (fuel : Nat) (eventIx : ParsedInstruction)
    (all : List ParsedInstruction) : Option (Option ParsedInstruction) :=
  match eventIx.parentIndex with
  | none => some none
  | some idx => PassLoop.run (fun idx => some (resolveStep all idx)) fuel idx

/-- The swap of an event and the instruction it belongs to. -/
def swapOf (event : EvtSwap2) (outer : ParsedInstruction) : Option Swap :=
  match SwapAccounts.fromAccountKeys outer.accounts with
  | .error _ => none
  | .ok accounts =>
      let account := SwapAccounts.account accounts
      if event.pool ≠ account .pool then none
      else
        let tokenIn := if event.isAToB then account .tokenAMint
          else account .tokenBMint
        some {
          protocol := .meteoraDammV2
          instruction := SwapInstruction.resolve outer.programId outer.data
          trackVolume := .none
          completedCurve := false
          pool := account .pool
          trader := account .payer
          tokenIn := tokenIn
          amountIn := event.inputAmountGross
          tokenOut := if event.isAToB then account .tokenBMint
            else account .tokenAMint
          amountOut := event.outputAmount
          feeAmount := 0
          feeMint := tokenIn
          stateBefore := none
          stateAfter := some <|
            if event.isAToB then
              .reserves event.reserveAAmount event.reserveBAmount
            else .reserves event.reserveBAmount event.reserveAAmount }

/-- What `MeteoraDammV2Extractor` records.  `none` is a walk that has not
ended. -/
def extract (fuel : Nat) (ix : ParsedInstruction)
    (all : List ParsedInstruction) : Option (Option Swap) :=
  if ix.data.length < 16 ∨ ix.data.take 8 ≠ anchorEventTag.toList then some none
  else if (ix.data.drop 8).take 8 ≠ evtSwap2Discriminator.toList then some none
  else
    match EvtSwap2.fromSelfCpiData ix.data with
    | none => some none
    | some event =>
        (resolveOuterSwap fuel ix all).map fun outer =>
          outer.bind (swapOf event)

/-- The parties are the accounts' and the amounts are the event's. -/
theorem exists_of_swapOf {event : EvtSwap2} {outer : ParsedInstruction}
    {swap : Swap} (built : swapOf event outer = some swap) :
    ∃ accounts, SwapAccounts.fromAccountKeys outer.accounts = .ok accounts ∧
      swap.protocol = .meteoraDammV2 ∧
        swap.pool = SwapAccounts.account accounts .pool ∧
          swap.trader = SwapAccounts.account accounts .payer ∧
            (event.inputAmountGross, event.outputAmount) =
              (swap.amountIn, swap.amountOut) := by
  rw [swapOf] at built
  split at built
  next => cases built
  next accounts read =>
    by_cases other : event.pool ≠ SwapAccounts.account accounts .pool
    · simp only [if_pos other, reduceCtorEq] at built
    · simp only [if_neg other, Option.some.injEq] at built
      cases built
      exact ⟨accounts, read, rfl, rfl, rfl, rfl⟩

end MeteoraDammV2

end SolanaProtocols
