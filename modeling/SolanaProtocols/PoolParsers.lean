import SolanaProtocols.RegistryEvents
import SolanaProtocols.SwapAccounts

/-!
# Parsers of the pool programs

The instruction parsers of PumpSwap, of the Raydium programs and of the Meteora
programs, and the registry that finds them by program.  Amounts are the declared
ones, with the slippage bound on the other side.
-/

namespace SolanaProtocols

open Parsing Chain Protocols
open Pumpfun (U64)

namespace Parsing.Registry

/-- A swap by a user. -/
def userSwap (protocol : Protocol) (pool tokenIn tokenOut : Pubkey)
    (amountIn amountOut : U64) (user : Pubkey) : SwapEvent :=
  (SwapEvent.new protocol pool tokenIn tokenOut amountIn amountOut).withUser user

end Parsing.Registry

open Parsing.Registry

namespace PumpSwap

open PumpSwapVariant

section Readers

variable (addresses : AddressDerivation)

/-- A buy gives the quote mint for the base mint. -/
def parsedBuy (accounts : Accounts (BuyAccounts addresses).layout)
    (amountIn amountOut : U64) : RegistryEvent :=
  let account := (BuyAccounts addresses).account accounts
  .swap <| (userSwap .pumpSwap (account .pool) (account .quoteMint)
    (account .baseMint) amountIn amountOut (account .user)).withDirection true

def parsedSell (accounts : Accounts (SellAccounts addresses).layout)
    (amountIn amountOut : U64) : RegistryEvent :=
  let account := (SellAccounts addresses).account accounts
  .swap <| (userSwap .pumpSwap (account .pool) (account .baseMint)
    (account .quoteMint) amountIn amountOut (account .user)).withDirection false

def createPoolEvent (accounts : CreatePoolAccounts) (params : CreatePoolParams) :
    RegistryEvent :=
  .poolCreation
    { protocol := .pumpSwap
      pool := accounts.pool
      tokenA := accounts.baseMint
      tokenB := accounts.quoteMint
      initialAmountA := params.baseAmountIn
      initialAmountB := params.quoteAmountIn
      creator := some accounts.creator
      lpMint := some accounts.lpMint }

def depositEvent (accounts : DepositAccounts) (params : DepositParams) : RegistryEvent :=
  .liquidityAdd
    { protocol := .pumpSwap
      pool := accounts.pool
      user := accounts.user
      tokenA := accounts.baseMint
      tokenB := accounts.quoteMint
      amountA := params.maxBaseAmountIn
      amountB := params.maxQuoteAmountIn
      lpAmount := some params.lpTokenAmountOut }

def withdrawEvent (accounts : WithdrawAccounts) (params : WithdrawParams) :
    RegistryEvent :=
  .liquidityRemove
    { protocol := .pumpSwap
      pool := accounts.pool
      user := accounts.user
      tokenA := accounts.baseMint
      tokenB := accounts.quoteMint
      amountA := params.minBaseAmountOut
      amountB := params.minQuoteAmountOut
      lpAmount := some params.lpTokenAmountIn }

def pumpSwapParser : EventParser where
  Variant := PumpSwapVariant
  enum := pumpSwapInstruction
  reader
    | buyExactQuoteIn => some
        { Accounts := Accounts (BuyAccounts addresses).layout
          fromAccountKeys := (BuyAccounts addresses).fromAccountKeys
          event := fun accounts (params : BuyExactQuoteInParams) =>
            parsedBuy addresses accounts params.spendableQuoteIn
              params.minBaseAmountOut }
    | buy => some
        { Accounts := Accounts (BuyAccounts addresses).layout
          fromAccountKeys := (BuyAccounts addresses).fromAccountKeys
          event := fun accounts (params : BuyParams) =>
            parsedBuy addresses accounts params.maxQuoteAmountIn
              params.baseAmountOut }
    | sell => some
        { Accounts := Accounts (SellAccounts addresses).layout
          fromAccountKeys := (SellAccounts addresses).fromAccountKeys
          event := fun accounts (params : SellParams) =>
            parsedSell addresses accounts params.baseAmountIn
              params.minQuoteAmountOut }
    | createPool => some (.fixed CreatePoolAccounts.struct createPoolEvent)
    | deposit => some (.fixed DepositAccounts.struct depositEvent)
    | withdraw => some (.fixed WithdrawAccounts.struct withdrawEvent)
    -- The withdrawal of fees is left to the extractor.
    | collectCoinCreatorFee => none

def pumpSwapParse : ParsedInstruction → Except ParseError (Option RegistryEvent) :=
  (pumpSwapParser addresses).parse

end Readers

end PumpSwap

namespace RaydiumV4

open RaydiumV4Variant

/-- The token accounts of the user stand in for the mints, which are not among
the accounts. -/
def swapEvent (accounts : SwapBaseInAccounts) (amountIn amountOut : U64) :
    RegistryEvent :=
  .swap <| userSwap .raydiumV4 accounts.ammId accounts.userSourceTokenAccount
    accounts.userDestinationTokenAccount amountIn amountOut accounts.userSourceOwner

def initialize2Event (accounts : Initialize2Accounts) (params : Initialize2Params) :
    RegistryEvent :=
  .poolCreation
    { protocol := .raydiumV4
      pool := accounts.ammId
      tokenA := accounts.coinMint
      tokenB := accounts.pcMint
      initialAmountA := params.initCoinAmount
      initialAmountB := params.initPcAmount
      creator := some accounts.user
      lpMint := some accounts.lpMint }

/-- The vaults stand in for the mints. -/
def depositEvent (accounts : DepositAccounts) (params : DepositParams) : RegistryEvent :=
  .liquidityAdd
    { protocol := .raydiumV4
      pool := accounts.ammId
      user := accounts.user
      tokenA := accounts.coinVault
      tokenB := accounts.pcVault
      amountA := params.maxCoinAmount
      amountB := params.maxPcAmount }

/-- Only the amount of pool tokens is declared. -/
def withdrawEvent (accounts : WithdrawAccounts) (params : WithdrawParams) :
    RegistryEvent :=
  .liquidityRemove
    { protocol := .raydiumV4
      pool := accounts.ammId
      user := accounts.user
      tokenA := accounts.coinVault
      tokenB := accounts.pcVault
      amountA := 0
      amountB := 0
      lpAmount := some params.amount }

/-- Swaps of both kinds are read with the accounts of the first. -/
def fixedParser : FixedParser where
  Variant := RaydiumV4Variant
  enum := raydiumV4Instruction
  exact := raydiumV4Instruction_exact
  Accounts
    | swapBaseIn => SwapBaseInAccounts
    | swapBaseOut => SwapBaseInAccounts
    | initialize2 => Initialize2Accounts
    | deposit => DepositAccounts
    | withdraw => WithdrawAccounts
  struct
    | swapBaseIn => SwapBaseInAccounts.struct
    | swapBaseOut => SwapBaseInAccounts.struct
    | initialize2 => Initialize2Accounts.struct
    | deposit => DepositAccounts.struct
    | withdraw => WithdrawAccounts.struct
  event
    | swapBaseIn => fun accounts (params : SwapBaseInParams) =>
        swapEvent accounts params.amountIn params.minimumAmountOut
    | swapBaseOut => fun accounts (params : SwapBaseOutParams) =>
        swapEvent accounts params.maxAmountIn params.amountOut
    | initialize2 => initialize2Event
    | deposit => depositEvent
    | withdraw => withdrawEvent

def raydiumV4Parse : ParsedInstruction → Except ParseError (Option RegistryEvent) :=
  fixedParser.eventParser.parse

end RaydiumV4

namespace RaydiumClmm

open RaydiumClmmVariant

/-- The amount is of the input or of the output, and the threshold bounds the
other one. -/
def amounts (amount otherAmountThreshold : U64) (isBaseInput : Bool) : U64 × U64 :=
  if isBaseInput then (amount, otherAmountThreshold)
  else (otherAmountThreshold, amount)

/-- The vaults stand in for the mints. -/
def swapEvent (accounts : SwapAccounts) (params : SwapParams) : RegistryEvent :=
  let (amountIn, amountOut) :=
    amounts params.amount params.otherAmountThreshold params.isBaseInput
  .swap <| userSwap .raydiumClmm accounts.poolState accounts.inputVault
    accounts.outputVault amountIn amountOut accounts.payer

def swapV2Event (accounts : SwapV2Accounts) (params : SwapV2Params) : RegistryEvent :=
  let (amountIn, amountOut) :=
    amounts params.amount params.otherAmountThreshold params.isBaseInput
  .swap <| userSwap .raydiumClmm accounts.poolState accounts.inputVaultMint
    accounts.outputVaultMint amountIn amountOut accounts.payer

def fixedParser : FixedParser where
  Variant := RaydiumClmmVariant
  enum := raydiumClmmInstruction
  exact := raydiumClmmInstruction_exact
  Accounts
    | swap => SwapAccounts
    | swapV2 => SwapV2Accounts
  struct
    | swap => SwapAccounts.struct
    | swapV2 => SwapV2Accounts.struct
  event
    | swap => swapEvent
    | swapV2 => swapV2Event

def raydiumClmmParse : ParsedInstruction → Except ParseError (Option RegistryEvent) :=
  fixedParser.eventParser.parse

end RaydiumClmm

namespace RaydiumCpmm

open RaydiumCpmmVariant

def swapEvent (accounts : SwapAccounts) (amountIn amountOut : U64) : RegistryEvent :=
  .swap <| userSwap .raydiumCpmm accounts.poolState accounts.inputTokenMint
    accounts.outputTokenMint amountIn amountOut accounts.payer

def fixedParser : FixedParser where
  Variant := RaydiumCpmmVariant
  enum := raydiumCpmmInstruction
  exact := raydiumCpmmInstruction_exact
  Accounts _ := SwapAccounts
  struct _ := SwapAccounts.struct
  event
    | swapBaseInput => fun accounts (params : SwapBaseInputParams) =>
        swapEvent accounts params.amountIn params.minimumAmountOut
    | swapBaseOutput => fun accounts (params : SwapBaseOutputParams) =>
        swapEvent accounts params.maximumAmountIn params.amountOut

def raydiumCpmmParse : ParsedInstruction → Except ParseError (Option RegistryEvent) :=
  fixedParser.eventParser.parse

end RaydiumCpmm

namespace RaydiumLaunchpad

open RaydiumLaunchpadVariant

def buyEvent (accounts : SwapAccounts) (amountIn amountOut : U64) : RegistryEvent :=
  .swap <| (userSwap .raydiumLaunchpad accounts.poolState accounts.quoteTokenMint
    accounts.baseTokenMint amountIn amountOut accounts.payer).withDirection true

def sellEvent (accounts : SwapAccounts) (amountIn amountOut : U64) : RegistryEvent :=
  .swap <| (userSwap .raydiumLaunchpad accounts.poolState accounts.baseTokenMint
    accounts.quoteTokenMint amountIn amountOut accounts.payer).withDirection false

def fixedParser : FixedParser where
  Variant := RaydiumLaunchpadVariant
  enum := raydiumLaunchpadInstruction
  exact := raydiumLaunchpadInstruction_exact
  Accounts _ := SwapAccounts
  struct _ := SwapAccounts.struct
  event
    | buyExactIn => fun accounts (params : BuyExactInParams) =>
        buyEvent accounts params.amountIn params.minimumAmountOut
    | buyExactOut => fun accounts (params : BuyExactOutParams) =>
        buyEvent accounts params.maximumAmountIn params.amountOut
    | sellExactIn => fun accounts (params : SellExactInParams) =>
        sellEvent accounts params.amountIn params.minimumAmountOut
    | sellExactOut => fun accounts (params : SellExactOutParams) =>
        sellEvent accounts params.maximumAmountIn params.amountOut

def raydiumLaunchpadParse :
    ParsedInstruction → Except ParseError (Option RegistryEvent) :=
  fixedParser.eventParser.parse

end RaydiumLaunchpad

namespace MeteoraDbc

open MeteoraDbcVariant

/-- How the two amounts of the second version are meant. -/
inductive SwapMode
  | exactIn
  | partialFill
  | exactOut
deriving DecidableEq, Repr

def SwapMode.fromU8 (value : UInt8) : Option SwapMode :=
  if value = 0 then some exactIn
  else if value = 1 then some partialFill
  else if value = 2 then some exactOut
  else none

/-- The input and the output.  An unknown mode is taken to declare the input
first. -/
def Swap2Params.amounts (params : Swap2Params) : U64 × U64 :=
  match SwapMode.fromU8 params.swapMode with
  | some .exactOut => (params.amount1, params.amount0)
  | _ => (params.amount0, params.amount1)

/-- The base mint stands as the input, whichever way the swap goes. -/
def swapEvent (accounts : SwapAccounts) (amountIn amountOut : U64) : RegistryEvent :=
  .swap <| userSwap .meteoraDbc accounts.pool accounts.baseMint accounts.quoteMint
    amountIn amountOut accounts.payer

def fixedParser : FixedParser where
  Variant := MeteoraDbcVariant
  enum := meteoraDbcInstruction
  exact := meteoraDbcInstruction_exact
  Accounts _ := SwapAccounts
  struct _ := SwapAccounts.struct
  event
    | swap => fun accounts (params : SwapParams) =>
        swapEvent accounts params.amountIn params.minimumAmountOut
    | swap2 => fun accounts (params : Swap2Params) =>
        swapEvent accounts params.amounts.1 params.amounts.2

def meteoraDbcParse : ParsedInstruction → Except ParseError (Option RegistryEvent) :=
  fixedParser.eventParser.parse

end MeteoraDbc

namespace MeteoraDlmm

/-- A stub: instructions parse, without an event. -/
def meteoraDlmmParse (_ : ParsedInstruction) :
    Except ParseError (Option RegistryEvent) :=
  .ok none

end MeteoraDlmm

namespace Parsing.Registry

section Parse

variable (utf8Error : Bytes → String) (addresses : AddressDerivation)

/-- Parse an instruction into an event with its data. -/
def ProtocolParser.parseEvent :
    ProtocolParser → ParsedInstruction → Except ParseError (Option RegistryEvent)
  | pumpfun, ix => (pumpfunParse utf8Error ix).map (·.bind RegistryEvent.ofPumpfun)
  | pumpSwap, ix => PumpSwap.pumpSwapParse addresses ix
  | raydiumV4, ix => RaydiumV4.raydiumV4Parse ix
  | raydiumClmm, ix => RaydiumClmm.raydiumClmmParse ix
  | raydiumCpmm, ix => RaydiumCpmm.raydiumCpmmParse ix
  | raydiumLaunchpad, ix => RaydiumLaunchpad.raydiumLaunchpadParse ix
  | meteoraDlmm, ix => MeteoraDlmm.meteoraDlmmParse ix
  | meteoraDbc, ix => MeteoraDbc.meteoraDbcParse ix

namespace ProtocolRegistry

variable (registry : ProtocolRegistry)

/-- Parse an instruction of a registered program. -/
def parseEvent (ix : ParsedInstruction) : Except ParseError (Option RegistryEvent) :=
  match registry.parsers ix.programId with
  | some parser => parser.parseEvent utf8Error addresses ix
  | none => .error (.unknownProgram ix.programId)

/-- Parse an instruction, without an event for unknown programs. -/
def tryParse (ix : ParsedInstruction) : Except ParseError (Option RegistryEvent) :=
  match registry.parsers ix.programId with
  | some parser => parser.parseEvent utf8Error addresses ix
  | none => .ok none

/-- Parse all instructions and collect events. -/
def parseAll (instructions : List ParsedInstruction) :
    List (Except ParseError RegistryEvent) :=
  instructions.foldl (fun events ix =>
    match registry.tryParse utf8Error addresses ix with
    | .ok (some event) => events ++ [.ok event]
    | .ok none => events
    | .error err => events ++ [.error err]) []

/-- Parse all instructions, returning only the events of one kind. -/
def parseKind {Event : Type} (kind : RegistryEvent → Option Event)
    (instructions : List ParsedInstruction) : List (Except ParseError Event) :=
  (registry.parseAll utf8Error addresses instructions).filterMap fun
    | .ok event => (kind event).map .ok
    | .error err => some (.error err)

def parseSwaps : List ParsedInstruction → List (Except ParseError SwapEvent) :=
  registry.parseKind utf8Error addresses RegistryEvent.asSwap

end ProtocolRegistry

end Parse

end Parsing.Registry

end SolanaProtocols
