import SolanaProtocols.RegistryParsing
import SolanaProtocols.TickArrays
import SolanaProtocols.TokenAccounts

/-!
# Builders of the pool programs

The swap builders of the Raydium programs and of the bonding curves of Meteora.
What they build is parsed as the swap that was asked for, but for two programs: a
swap of a concentrated pool names tick arrays that its parser does not model, and
the accounts of a bonding curve do not say which way the swap goes.
-/

namespace SolanaProtocols

open Parsing Chain Protocols
open Pumpfun (U64)

/-- Instructions of the associated token account program. -/
structure TokenAccountInstructions where
  createAssociatedTokenAccountIdempotent :
    (payer wallet mint tokenProgram : Pubkey) → Instruction
  programId_eq (payer wallet mint tokenProgram : Pubkey) :
    (createAssociatedTokenAccountIdempotent payer wallet mint tokenProgram).programId =
      splAssociatedTokenAccount

/-- The swap, and the creation of its output account before it. -/
def withSetup (createAta : Bool) (creation swap : Instruction) : List Instruction :=
  (if createAta then [creation] else []) ++ [swap]

namespace RaydiumV4

/-- The keys needed to build swaps of a pool. -/
structure RaydiumV4Keys where
  ammId : Pubkey
  ammAuthority : Pubkey
  ammOpenOrders : Pubkey
  ammTargetOrders : Pubkey
  baseVault : Pubkey
  quoteVault : Pubkey
  baseMint : Pubkey
  quoteMint : Pubkey
  serumMarket : Pubkey
  serumProgramId : Pubkey
  serumBids : Pubkey
  serumAsks : Pubkey
  serumEventQueue : Pubkey
  serumCoinVault : Pubkey
  serumPcVault : Pubkey
  serumVaultSigner : Pubkey

section Building

variable (addresses : BuilderAddresses)

def SwapBaseInAccounts.fromKeys (keys : RaydiumV4Keys)
    (user sourceMint destMint : Pubkey) : SwapBaseInAccounts where
  tokenProgram := splToken
  ammId := keys.ammId
  ammAuthority := keys.ammAuthority
  ammOpenOrders := keys.ammOpenOrders
  ammTargetOrders := keys.ammTargetOrders
  poolCoinTokenAccount := keys.baseVault
  poolPcTokenAccount := keys.quoteVault
  serumProgramId := keys.serumProgramId
  serumMarket := keys.serumMarket
  serumBids := keys.serumBids
  serumAsks := keys.serumAsks
  serumEventQueue := keys.serumEventQueue
  serumCoinVaultAccount := keys.serumCoinVault
  serumPcVaultAccount := keys.serumPcVault
  serumVaultSigner := keys.serumVaultSigner
  userSourceTokenAccount := addresses.getAssociatedTokenAddress user sourceMint
  userDestinationTokenAccount := addresses.getAssociatedTokenAddress user destMint
  userSourceOwner := user

/-- Quote tokens for base tokens. -/
def SwapBaseInAccounts.forBuy (keys : RaydiumV4Keys) (user : Pubkey) :
    SwapBaseInAccounts :=
  fromKeys addresses keys user keys.quoteMint keys.baseMint

/-- Base tokens for quote tokens. -/
def SwapBaseInAccounts.forSell (keys : RaydiumV4Keys) (user : Pubkey) :
    SwapBaseInAccounts :=
  fromKeys addresses keys user keys.baseMint keys.quoteMint

def SwapBaseInBuilder.buildSwapInstruction (keys : RaydiumV4Keys × Bool) (user : Pubkey)
    (params : SwapBaseInParams) : Instruction where
  programId := Protocol.raydiumV4.programId
  accounts := SwapBaseInAccounts.struct.toAccountMetas <|
    if keys.2 then .forBuy addresses keys.1 user else .forSell addresses keys.1 user
  data := (instructionParams .swapBaseIn).toData params

def SwapBaseInBuilder.buildSwapWithSetup (tokens : TokenAccountInstructions)
    (keys : RaydiumV4Keys × Bool) (user : Pubkey) (params : SwapBaseInParams)
    (createAta : Bool) : List Instruction :=
  withSetup createAta
    (tokens.createAssociatedTokenAccountIdempotent user user
      (if keys.2 then keys.1.baseMint else keys.1.quoteMint) splToken)
    (buildSwapInstruction addresses keys user params)

end Building

end RaydiumV4

namespace RaydiumClmm

/-- `MemoSq4gqABAXKb96qnH8TysNcWxMyWCqXgDLGmfcHr`. -/
def memoProgramId : Pubkey :=
  0x8d44054140a81fe481bb92bcddb5357c7c38da6071e8244d062129995a534a05

/-- Configuration for building a swap. -/
structure SwapV2BuilderConfig where
  keys : RaydiumClmmKeys
  isBuy : Bool
  currentTick : Int
  tickArrayCount : Nat

section Building

variable (overflow : MachineArithmetic.Overflow) (addresses : BuilderAddresses)

/-- A buy gives token 1 for token 0. -/
def SwapV2Accounts.fromKeys (keys : RaydiumClmmKeys) (user : Pubkey) (isBuy : Bool) :
    SwapV2Accounts :=
  let (inputMint, outputMint, inputVault, outputVault) :=
    if isBuy then (keys.tokenMint1, keys.tokenMint0, keys.tokenVault1, keys.tokenVault0)
    else (keys.tokenMint0, keys.tokenMint1, keys.tokenVault0, keys.tokenVault1)
  { payer := user
    ammConfig := keys.ammConfig
    poolState := keys.poolId
    inputTokenAccount := addresses.getAssociatedTokenAddress user inputMint
    outputTokenAccount := addresses.getAssociatedTokenAddress user outputMint
    inputVault := inputVault
    outputVault := outputVault
    observationState := keys.observationKey
    tokenProgram := splToken
    tokenProgram2022 := TokenProgram.splToken2022Id
    memoProgram := memoProgramId
    inputVaultMint := inputMint
    outputVaultMint := outputMint }

/-- The tick arrays follow the accounts. -/
def SwapV2Builder.buildSwapInstruction (config : SwapV2BuilderConfig) (user : Pubkey)
    (params : SwapV2Params) : Option Instruction :=
  (config.keys.tickArraysForSwap overflow addresses config.currentTick config.isBuy
      config.tickArrayCount).map fun tickArrays =>
    { programId := Protocol.raydiumClmm.programId
      accounts :=
        SwapV2Accounts.struct.toAccountMetas
            (.fromKeys addresses config.keys user config.isBuy) ++
          tickArrays.map fun tickArray =>
            { pubkey := tickArray, isSigner := false, isWritable := true }
      data := (instructionParams .swapV2).toData params }

def SwapV2Builder.buildSwapWithSetup (tokens : TokenAccountInstructions)
    (config : SwapV2BuilderConfig) (user : Pubkey) (params : SwapV2Params)
    (createAta : Bool) : Option (List Instruction) :=
  (buildSwapInstruction overflow addresses config user params).map <|
    withSetup createAta <| tokens.createAssociatedTokenAccountIdempotent user user
      (if config.isBuy then config.keys.tokenMint0 else config.keys.tokenMint1) splToken

end Building

end RaydiumClmm

namespace RaydiumCpmm

/-- `GpMZbSM2GgvTKHJirzeGfMFoaZ8UR2X7F4v8vHTvxFbL`. -/
def authority : Pubkey :=
  0x679a8e2f4fe8b52b0573f30d6064b95064f0d6b437d0c74a21b492b2f5d900eb

/-- The keys needed to build swaps of a pool. -/
structure RaydiumCpmmKeys where
  poolId : Pubkey
  ammConfig : Pubkey
  token0Mint : Pubkey
  token1Mint : Pubkey
  token0Vault : Pubkey
  token1Vault : Pubkey
  token0Program : Pubkey
  token1Program : Pubkey
  observationKey : Pubkey

/-- Configuration for building a swap. -/
structure SwapBaseInputBuilderConfig where
  keys : RaydiumCpmmKeys
  isBuy : Bool

section Building

variable (addresses : BuilderAddresses)

/-- A buy gives token 1 for token 0. -/
def SwapAccounts.fromKeys (keys : RaydiumCpmmKeys) (user : Pubkey) (isBuy : Bool) :
    SwapAccounts :=
  let (inputMint, outputMint) :=
    if isBuy then (keys.token1Mint, keys.token0Mint)
    else (keys.token0Mint, keys.token1Mint)
  let (inputVault, outputVault) :=
    if isBuy then (keys.token1Vault, keys.token0Vault)
    else (keys.token0Vault, keys.token1Vault)
  let (inputTokenProgram, outputTokenProgram) :=
    if isBuy then (keys.token1Program, keys.token0Program)
    else (keys.token0Program, keys.token1Program)
  { payer := user
    authority := RaydiumCpmm.authority
    ammConfig := keys.ammConfig
    poolState := keys.poolId
    inputTokenAccount := addresses.getAssociatedTokenAddressWithProgramId user inputMint
      inputTokenProgram
    outputTokenAccount := addresses.getAssociatedTokenAddressWithProgramId user outputMint
      outputTokenProgram
    inputVault := inputVault
    outputVault := outputVault
    inputTokenProgram := inputTokenProgram
    outputTokenProgram := outputTokenProgram
    inputTokenMint := inputMint
    outputTokenMint := outputMint
    observationState := keys.observationKey }

def SwapBaseInputBuilder.buildSwapInstruction (config : SwapBaseInputBuilderConfig)
    (user : Pubkey) (params : SwapBaseInputParams) : Instruction where
  programId := Protocol.raydiumCpmm.programId
  accounts := SwapAccounts.struct.toAccountMetas
    (.fromKeys addresses config.keys user config.isBuy)
  data := (instructionParams .swapBaseInput).toData params

def SwapBaseInputBuilder.buildSwapWithSetup (tokens : TokenAccountInstructions)
    (config : SwapBaseInputBuilderConfig) (user : Pubkey) (params : SwapBaseInputParams)
    (createAta : Bool) : List Instruction :=
  let (outputMint, outputProgram) :=
    if config.isBuy then (config.keys.token0Mint, config.keys.token0Program)
    else (config.keys.token1Mint, config.keys.token1Program)
  withSetup createAta
    (tokens.createAssociatedTokenAccountIdempotent user user outputMint outputProgram)
    (buildSwapInstruction addresses config user params)

end Building

end RaydiumCpmm

namespace RaydiumLaunchpad

/-- The keys needed to build swaps of a pool. -/
structure LaunchpadKeys where
  poolId : Pubkey
  authority : Pubkey
  globalConfig : Pubkey
  platformConfig : Pubkey
  baseMint : Pubkey
  quoteMint : Pubkey
  baseVault : Pubkey
  quoteVault : Pubkey
  baseTokenProgram : Pubkey
  quoteTokenProgram : Pubkey

section Building

variable (addresses : BuilderAddresses)

def LaunchpadKeys.eventAuthority : Pubkey :=
  addresses.findProgramAddress [seed "__event_authority"]
    Protocol.raydiumLaunchpad.programId

def LaunchpadKeys.userBaseAta (keys : LaunchpadKeys) (user : Pubkey) : Pubkey :=
  addresses.getAssociatedTokenAddressWithProgramId user keys.baseMint
    keys.baseTokenProgram

def LaunchpadKeys.userQuoteAta (keys : LaunchpadKeys) (user : Pubkey) : Pubkey :=
  addresses.getAssociatedTokenAddressWithProgramId user keys.quoteMint
    keys.quoteTokenProgram

/-- The accounts are the same for a buy and for a sell. -/
def SwapAccounts.fromKeys (keys : LaunchpadKeys) (user : Pubkey) : SwapAccounts where
  payer := user
  authority := keys.authority
  globalConfig := keys.globalConfig
  platformConfig := keys.platformConfig
  poolState := keys.poolId
  userBaseToken := keys.userBaseAta addresses user
  userQuoteToken := keys.userQuoteAta addresses user
  baseVault := keys.baseVault
  quoteVault := keys.quoteVault
  baseTokenMint := keys.baseMint
  quoteTokenMint := keys.quoteMint
  baseTokenProgram := keys.baseTokenProgram
  quoteTokenProgram := keys.quoteTokenProgram
  eventAuthority := LaunchpadKeys.eventAuthority addresses
  program := Protocol.raydiumLaunchpad.programId

def BuyExactInBuilder.buildSwapInstruction (keys : LaunchpadKeys) (user : Pubkey)
    (params : BuyExactInParams) : Instruction where
  programId := Protocol.raydiumLaunchpad.programId
  accounts := SwapAccounts.struct.toAccountMetas (.fromKeys addresses keys user)
  data := (instructionParams .buyExactIn).toData params

def BuyExactInBuilder.buildSwapWithSetup (tokens : TokenAccountInstructions)
    (keys : LaunchpadKeys) (user : Pubkey) (params : BuyExactInParams)
    (createAta : Bool) : List Instruction :=
  withSetup createAta
    (tokens.createAssociatedTokenAccountIdempotent user user keys.baseMint
      keys.baseTokenProgram)
    (buildSwapInstruction addresses keys user params)

/-- No account is created before a sell, even if it is asked for. -/
def SellExactInBuilder.buildSwapInstruction (keys : LaunchpadKeys) (user : Pubkey)
    (params : SellExactInParams) : Instruction where
  programId := Protocol.raydiumLaunchpad.programId
  accounts := SwapAccounts.struct.toAccountMetas (.fromKeys addresses keys user)
  data := (instructionParams .sellExactIn).toData params

end Building

end RaydiumLaunchpad

namespace MeteoraDbc

/-- `FhVo3mqL8PW5pH5U2CN4XE33DokiyZnUwuGpH2hmHLuM`. -/
def poolAuthority : Pubkey :=
  0x8dbdc3e8453bc2015b16896fc3b245701a2502b2c9e7106c8bc86721f6863da

/-- The keys needed to build swaps of a pool. -/
structure DbcKeys where
  pool : Pubkey
  config : Pubkey
  baseMint : Pubkey
  quoteMint : Pubkey
  baseVault : Pubkey
  quoteVault : Pubkey
  tokenBaseProgram : Pubkey
  tokenQuoteProgram : Pubkey

/-- Configuration for building a swap. -/
structure SwapBuilderConfig where
  keys : DbcKeys
  isBuy : Bool

section Building

variable (addresses : BuilderAddresses)

def DbcKeys.eventAuthority : Pubkey :=
  addresses.findProgramAddress [seed "__event_authority"] Protocol.meteoraDbc.programId

def DbcKeys.userBaseAta (keys : DbcKeys) (user : Pubkey) : Pubkey :=
  addresses.getAssociatedTokenAddressWithProgramId user keys.baseMint
    keys.tokenBaseProgram

def DbcKeys.userQuoteAta (keys : DbcKeys) (user : Pubkey) : Pubkey :=
  addresses.getAssociatedTokenAddressWithProgramId user keys.quoteMint
    keys.tokenQuoteProgram

/-- A buy gives quote tokens for base tokens. -/
def SwapAccounts.fromKeys (keys : DbcKeys) (user : Pubkey) (isBuy : Bool) :
    SwapAccounts :=
  let (inputTokenAccount, outputTokenAccount) :=
    if isBuy then (keys.userQuoteAta addresses user, keys.userBaseAta addresses user)
    else (keys.userBaseAta addresses user, keys.userQuoteAta addresses user)
  { poolAuthority := MeteoraDbc.poolAuthority
    config := keys.config
    pool := keys.pool
    inputTokenAccount := inputTokenAccount
    outputTokenAccount := outputTokenAccount
    baseVault := keys.baseVault
    quoteVault := keys.quoteVault
    baseMint := keys.baseMint
    quoteMint := keys.quoteMint
    payer := user
    tokenBaseProgram := keys.tokenBaseProgram
    tokenQuoteProgram := keys.tokenQuoteProgram
    referralTokenAccount := Protocol.meteoraDbc.programId
    eventAuthority := DbcKeys.eventAuthority addresses
    program := Protocol.meteoraDbc.programId }

def SwapBuilder.buildSwapInstruction (config : SwapBuilderConfig) (user : Pubkey)
    (params : SwapParams) : Instruction where
  programId := Protocol.meteoraDbc.programId
  accounts := SwapAccounts.struct.toAccountMetas
    (.fromKeys addresses config.keys user config.isBuy)
  data := (instructionParams .swap).toData params

def SwapBuilder.buildSwapWithSetup (tokens : TokenAccountInstructions)
    (config : SwapBuilderConfig) (user : Pubkey) (params : SwapParams)
    (createAta : Bool) : List Instruction :=
  let (outputMint, outputProgram) :=
    if config.isBuy then (config.keys.baseMint, config.keys.tokenBaseProgram)
    else (config.keys.quoteMint, config.keys.tokenQuoteProgram)
  withSetup createAta
    (tokens.createAssociatedTokenAccountIdempotent user user outputMint outputProgram)
    (buildSwapInstruction addresses config user params)

end Building

end MeteoraDbc

end SolanaProtocols
