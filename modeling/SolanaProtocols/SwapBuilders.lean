import Mathlib.Data.Set.Function
import SolanaProtocols.InstructionBuilder

/-!
# Swap builders

The builders of pumpfun and PumpSwap derive the accounts that they append in one
place, and the accounts structs derive them again from the declared slots in
another.  Both sides have to use the same seeds under the same program; where
they do not, the list of buyback vaults takes what was not found.
-/

namespace SolanaProtocols

open Parsing Protocols

/-- Address derivations of other crates that only builders use. -/
structure BuilderAddresses extends AddressDerivation where
  getAssociatedTokenAddressWithProgramId : Pubkey → Pubkey → Pubkey → Pubkey

/-- `TokenkegQfeZyiNwAJbNbGKPFXCWuBvf9Ss623VQ5DA`. -/
def splToken : Pubkey :=
  0xa900ff7e85f58c3a91375b5fed85b41cac79ebce46e1cbd993a165d7e1f6dd06

/-- `ATokenGPvbdGVxr1b2hvZbsiqW5xWH25efTNsLJA8knL`. -/
def splAssociatedTokenAccount : Pubkey :=
  0x59f8e9dbd87b8e048410ffda99135a0b830d8e1429103dbbf189244e8f25978c

def systemProgram : Pubkey := 0

namespace Pumpfun

/-- `4wTV1YmiEkRvAtNtsSGPtUrqRYQMe5SKy2uB4Jjaxnjf`. -/
def globalPda : Pubkey :=
  0xa6723c79d92337fb8974eac1458dd5182fdce45763f6bcca80540fee695e863a

/-- `62qc2CNXwrYqQScmEdiZFFAnJR262PxWEuNQtxfafNgV`. -/
def feeCollector : Pubkey :=
  0xe6b35caa6765f915516eceb956d9f3542a06b57c199c28e397bc5cddd0f8c24a

/-- `Ce6TQqeHC9p8KetsN6JsjHK7UTZk7nasjjnr7XxXp9F1`. -/
def eventAuthorityPda : Pubkey :=
  0x645cd359e0533bace9c557dd6af6379ab54a84b5c8233d884e1cfc01eb36f1ac

/-- `Hq2wp8uJ9jCPsYgNHex8RtqdvMPfVGoYwjvF1ATiwn2Y`. -/
def globalVolumeAccumulatorPda : Pubkey :=
  0x2d6efe10b7738d83c8d9a033130d5f036c290387074e1f632d416348a51109fa

/-- The keys needed to build pumpfun swaps. -/
structure PumpfunKeys where
  mint : Pubkey
  creator : Pubkey
  bondingCurve : Pubkey
  associatedBondingCurve : Pubkey
  creatorVault : Pubkey

section Building

variable (addresses : BuilderAddresses)

def deriveCreatorVaultPda (creator : Pubkey) : Pubkey :=
  addresses.findProgramAddress [seed "creator-vault", pubkey.encode creator]
    programId

/-- Create keys from the mint and its creator. -/
def PumpfunKeys.new (mint creator : Pubkey) : PumpfunKeys :=
  let bondingCurve := deriveBondingCurvePda addresses.toAddressDerivation mint
  { mint := mint
    creator := creator
    bondingCurve := bondingCurve
    associatedBondingCurve := addresses.getAssociatedTokenAddress bondingCurve mint
    creatorVault := deriveCreatorVaultPda addresses creator }

/-- The declared accounts of a buy. -/
def BuyAccounts.declared
    (feeRecipient mint user tokenProgram creatorVault : Pubkey) :
    NamedKeys BuyAccounts.slots :=
  let bondingCurve := deriveBondingCurvePda addresses.toAddressDerivation mint
  { entries :=
      [(.global, globalPda), (.feeRecipient, feeRecipient), (.mint, mint),
       (.bondingCurve, bondingCurve),
       (.associatedBondingCurve, addresses.getAssociatedTokenAddressWithProgramId
         bondingCurve mint tokenProgram),
       (.associatedUser, addresses.getAssociatedTokenAddressWithProgramId user
         mint tokenProgram),
       (.user, user), (.systemProgram, systemProgram),
       (.tokenProgram, tokenProgram), (.creatorVault, creatorVault),
       (.eventAuthority, eventAuthorityPda), (.program, programId),
       (.globalVolumeAccumulator, globalVolumeAccumulatorPda),
       (.userVolumeAccumulator,
         deriveUserVolumeAccumulatorPda addresses.toAddressDerivation user),
       (.feeConfig, feeConfigPda), (.feeProgram, pumpFeesProgramId)]
    names := rfl }

/-- The declared accounts of a sell. -/
def SellAccounts.declared
    (feeRecipient mint user creatorVault tokenProgram : Pubkey) :
    NamedKeys SellAccounts.slots :=
  let bondingCurve := deriveBondingCurvePda addresses.toAddressDerivation mint
  { entries :=
      [(.global, globalPda), (.feeRecipient, feeRecipient), (.mint, mint),
       (.bondingCurve, bondingCurve),
       (.associatedBondingCurve, addresses.getAssociatedTokenAddressWithProgramId
         bondingCurve mint tokenProgram),
       (.associatedUser, addresses.getAssociatedTokenAddressWithProgramId user
         mint tokenProgram),
       (.user, user), (.systemProgram, systemProgram),
       (.creatorVault, creatorVault), (.tokenProgram, tokenProgram),
       (.eventAuthority, eventAuthorityPda), (.program, programId),
       (.feeConfig, feeConfigPda), (.feeProgram, pumpFeesProgramId)]
    names := rfl }

/-- The second curve of the mint is appended; the accumulator of the user, which
the caller opts into, is not. -/
def appendedAccounts (mint : Pubkey) : List Conditional :=
  [.absent, .present (deriveBondingCurveV2Pda addresses.toAddressDerivation mint)]

/-- Fill in a buy from its inputs. -/
def BuyAccounts.derive
    (feeRecipient mint user tokenProgram creatorVault : Pubkey) :
    Accounts (BuyAccounts addresses.toAddressDerivation).layout :=
  (BuyAccounts addresses.toAddressDerivation).fill
    (BuyAccounts.declared addresses feeRecipient mint user tokenProgram creatorVault)
    (appendedAccounts addresses mint) rfl

/-- Fill in a sell from its inputs. -/
def SellAccounts.derive
    (feeRecipient mint user creatorVault tokenProgram : Pubkey) :
    Accounts (SellAccounts addresses.toAddressDerivation).layout :=
  (SellAccounts addresses.toAddressDerivation).fill
    (SellAccounts.declared addresses feeRecipient mint user creatorVault tokenProgram)
    (appendedAccounts addresses mint) rfl

def BuyAccounts.new (keys : PumpfunKeys) (user : Pubkey) :
    Accounts (BuyAccounts addresses.toAddressDerivation).layout :=
  BuyAccounts.derive addresses feeCollector keys.mint user splToken
    keys.creatorVault

def SellAccounts.new (keys : PumpfunKeys) (user : Pubkey) :
    Accounts (SellAccounts addresses.toAddressDerivation).layout :=
  SellAccounts.derive addresses feeCollector keys.mint user keys.creatorVault
    splToken

end Building

/-- Create new buy parameters. -/
def BuyParams.new (amount maxSolCost : U64) : BuyParams :=
  ⟨amount, maxSolCost, .none⟩

/-- Set the trailing `OptionBool`. -/
def BuyParams.withTrackVolume (params : BuyParams) (trackVolume : OptionBool) :
    BuyParams :=
  { params with trackVolume := trackVolume }

/-- Create new sell parameters. -/
def SellParams.new (amount minSolOutput : U64) : SellParams :=
  ⟨amount, minSolOutput, .none⟩

end Pumpfun

namespace PumpSwap

open Pumpfun (pubkey U64)

/-- `ADyA8hdefvWN2dbGGWFotbzWxrAvLW83WG6QCVXvJKqw`. -/
def globalConfig : Pubkey :=
  0xd670e1218e85692bf7eeea4b0a6e3b23d314ecd2d21cf119aa551ffe44a60b89

/-- `62qc2CNXwrYqQScmEdiZFFAnJR262PxWEuNQtxfafNgV`. -/
def protocolFeeRecipient : Pubkey :=
  0xe6b35caa6765f915516eceb956d9f3542a06b57c199c28e397bc5cddd0f8c24a

/-- `94qWNrtmfn42h3ZjUZwWvK1MEo9uVmmrBPd2hpNjYDjb`. -/
def protocolFeeRecipientTokenAccount : Pubkey :=
  0xae67ae4528c4cf7a96d9e1c49540fa74c196cca0754aeb1c7380885f9515d977

/-- `GS4CU59F31iL7aR2Q8zVS8DRrcRnXX1yjQ66TqNVQnaR`. -/
def eventAuthority : Pubkey :=
  0x5e7458941672ec3bb72fb6717ae41692131c897960b8b9c0619f832895704ae5

/-- `C2aFPdENg4A2HQsmrd5rTw5TaYBX5Ku887cWjbFKtZpw`. -/
def globalVolumeAccumulator : Pubkey :=
  0xb4f7aadd18298a17f9583ee90d82f9c3e1c27e43838fa62cc1ad587e12bbd7a3

/-- `pfeeUxB6jkeY1Hxd7CsFCAjcbHA9rWtchMGdZ6VojVZ`. -/
def feeProgram : Pubkey :=
  0x707cc214a46a519c00401fa42cc9f14c27155607bcf7a88d568e5a05a9ff350c

/-- The keys needed to build PumpSwap swaps. -/
structure PumpSwapKeys where
  pool : Pubkey
  baseMint : Pubkey
  quoteMint : Pubkey
  poolBaseTokenAccount : Pubkey
  poolQuoteTokenAccount : Pubkey
  coinCreator : Pubkey
  creatorVaultAuthority : Pubkey
  creatorVaultAta : Pubkey

section Building

variable (addresses : BuilderAddresses)

def deriveCreatorVaultAuthority (coinCreator : Pubkey) : Pubkey :=
  addresses.findProgramAddress [seed "creator_vault", pubkey.encode coinCreator]
    programId

/-- The accumulator that a buy declares: it is derived under the fee program. -/
def deriveUserVolumeAccumulator (user : Pubkey) : Pubkey :=
  addresses.findProgramAddress
    [seed "user_volume_accumulator", pubkey.encode user] feeProgram

/-- Create keys from the pool's address and the fields of its state. -/
def PumpSwapKeys.new (pool baseMint quoteMint poolBaseTokenAccount
    poolQuoteTokenAccount coinCreator : Pubkey) : PumpSwapKeys :=
  let creatorVaultAuthority := deriveCreatorVaultAuthority addresses coinCreator
  { pool := pool
    baseMint := baseMint
    quoteMint := quoteMint
    poolBaseTokenAccount := poolBaseTokenAccount
    poolQuoteTokenAccount := poolQuoteTokenAccount
    coinCreator := coinCreator
    creatorVaultAuthority := creatorVaultAuthority
    creatorVaultAta :=
      addresses.getAssociatedTokenAddress creatorVaultAuthority quoteMint }

def PumpSwapKeys.userBaseAta (keys : PumpSwapKeys) (user : Pubkey) : Pubkey :=
  addresses.getAssociatedTokenAddress user keys.baseMint

def PumpSwapKeys.userQuoteAta (keys : PumpSwapKeys) (user : Pubkey) : Pubkey :=
  addresses.getAssociatedTokenAddress user keys.quoteMint

/-- The declared accounts of a buy. -/
def BuyAccounts.declared (keys : PumpSwapKeys) (user : Pubkey) :
    NamedKeys BuyAccounts.slots where
  entries :=
    [(.pool, keys.pool), (.user, user), (.globalConfig, globalConfig),
     (.baseMint, keys.baseMint), (.quoteMint, keys.quoteMint),
     (.userBaseTokenAccount, keys.userBaseAta addresses user),
     (.userQuoteTokenAccount, keys.userQuoteAta addresses user),
     (.poolBaseTokenAccount, keys.poolBaseTokenAccount),
     (.poolQuoteTokenAccount, keys.poolQuoteTokenAccount),
     (.protocolFeeRecipient, protocolFeeRecipient),
     (.protocolFeeRecipientTokenAccount, protocolFeeRecipientTokenAccount),
     (.baseTokenProgram, splToken), (.quoteTokenProgram, splToken),
     (.systemProgram, systemProgram),
     (.associatedTokenProgram, splAssociatedTokenAccount),
     (.eventAuthority, eventAuthority), (.program, programId),
     (.coinCreatorVaultAta, keys.creatorVaultAta),
     (.coinCreatorVaultAuthority, keys.creatorVaultAuthority),
     (.globalVolumeAccumulator, globalVolumeAccumulator),
     (.userVolumeAccumulator, deriveUserVolumeAccumulator addresses user),
     (.feeConfig, Pumpfun.pumpSwapFeeConfigPda), (.feeProgram, feeProgram)]
  names := rfl

/-- The declared accounts of a sell. -/
def SellAccounts.declared (keys : PumpSwapKeys) (user : Pubkey) :
    NamedKeys SellAccounts.slots where
  entries :=
    [(.pool, keys.pool), (.user, user), (.globalConfig, globalConfig),
     (.baseMint, keys.baseMint), (.quoteMint, keys.quoteMint),
     (.userBaseTokenAccount, keys.userBaseAta addresses user),
     (.userQuoteTokenAccount, keys.userQuoteAta addresses user),
     (.poolBaseTokenAccount, keys.poolBaseTokenAccount),
     (.poolQuoteTokenAccount, keys.poolQuoteTokenAccount),
     (.protocolFeeRecipient, protocolFeeRecipient),
     (.protocolFeeRecipientTokenAccount, protocolFeeRecipientTokenAccount),
     (.baseTokenProgram, splToken), (.quoteTokenProgram, splToken),
     (.systemProgram, systemProgram),
     (.associatedTokenProgram, splAssociatedTokenAccount),
     (.eventAuthority, eventAuthority), (.program, programId),
     (.coinCreatorVaultAta, keys.creatorVaultAta),
     (.coinCreatorVaultAuthority, keys.creatorVaultAuthority),
     (.feeConfig, Pumpfun.pumpSwapFeeConfigPda), (.feeProgram, feeProgram)]
  names := rfl

/-- The token account of the accumulator under the program of PumpSwap. -/
def quoteVolumeAccumulator (user quoteMint : Pubkey) : Pubkey :=
  addresses.getAssociatedTokenAddress
    (userVolumeAccumulator addresses.toAddressDerivation user) quoteMint

def BuyAccounts.fromKeys (keys : PumpSwapKeys) (user : Pubkey) :
    Accounts (BuyAccounts addresses.toAddressDerivation).layout :=
  (BuyAccounts addresses.toAddressDerivation).fill
    (BuyAccounts.declared addresses keys user)
    [.present (quoteVolumeAccumulator addresses user keys.quoteMint)] rfl

def SellAccounts.fromKeys (keys : PumpSwapKeys) (user : Pubkey) :
    Accounts (SellAccounts addresses.toAddressDerivation).layout :=
  (SellAccounts addresses.toAddressDerivation).fill
    (SellAccounts.declared addresses keys user)
    [.present (quoteVolumeAccumulator addresses user keys.quoteMint),
      .present (userVolumeAccumulator addresses.toAddressDerivation user)] rfl

end Building

/-- Create new buy parameters. -/
def BuyParams.new (baseAmountOut maxQuoteAmountIn : U64) : BuyParams :=
  ⟨baseAmountOut, maxQuoteAmountIn, .none⟩

/-- Set the trailing `OptionBool`. -/
def BuyParams.withTrackVolume (params : BuyParams) (trackVolume : OptionBool) :
    BuyParams :=
  { params with trackVolume := trackVolume }

/-- Create new sell parameters. -/
def SellParams.new (baseAmountIn minQuoteAmountOut : U64) : SellParams :=
  ⟨baseAmountIn, minQuoteAmountOut, .none⟩

end PumpSwap

namespace Protocols

/-- The swap builders of pumpfun and PumpSwap. -/
inductive SwapBuilder
  | pumpfunBuy
  | pumpfunSell
  | pumpSwapBuy
  | pumpSwapSell
deriving DecidableEq, Repr

namespace SwapBuilder

def Keys : SwapBuilder → Type
  | pumpfunBuy | pumpfunSell => Pumpfun.PumpfunKeys
  | pumpSwapBuy | pumpSwapSell => PumpSwap.PumpSwapKeys

/-- The instruction that a builder builds. -/
def instructionBuilder (utf8Error : Bytes → String) (addresses : BuilderAddresses) :
    (builder : SwapBuilder) → InstructionBuilder builder.Keys
  | pumpfunBuy =>
      { Variant := Pumpfun.PumpfunVariant
        enum := Pumpfun.pumpfunInstruction utf8Error
        variant := .buy
        programId := Pumpfun.programId
        struct := Pumpfun.BuyAccounts addresses.toAddressDerivation
        accounts := Pumpfun.BuyAccounts.new addresses }
  | pumpfunSell =>
      { Variant := Pumpfun.PumpfunVariant
        enum := Pumpfun.pumpfunInstruction utf8Error
        variant := .sell
        programId := Pumpfun.programId
        struct := Pumpfun.SellAccounts addresses.toAddressDerivation
        accounts := Pumpfun.SellAccounts.new addresses }
  | pumpSwapBuy =>
      { Variant := PumpSwap.PumpSwapVariant
        enum := PumpSwap.pumpSwapInstruction
        variant := .buy
        programId := PumpSwap.programId
        struct := PumpSwap.BuyAccounts addresses.toAddressDerivation
        accounts := PumpSwap.BuyAccounts.fromKeys addresses }
  | pumpSwapSell =>
      { Variant := PumpSwap.PumpSwapVariant
        enum := PumpSwap.pumpSwapInstruction
        variant := .sell
        programId := PumpSwap.programId
        struct := PumpSwap.SellAccounts addresses.toAddressDerivation
        accounts := PumpSwap.SellAccounts.fromKeys addresses }

variable {utf8Error : Bytes → String} {addresses : BuilderAddresses} {user : Pubkey}

/-- What a pumpfun builder appends is found again unless the accumulator, which
it left out, has the address of the curve. -/
theorem resolve_pumpfun {slots : NamedSlots} {declared : NamedKeys slots}
    {mintKey : Pubkey}
    (userEq : slots.account declared.fields .user = user)
    (mintEq : slots.account declared.fields .mint = mintKey) :
    AccountLayout.resolve declared.fields
        (AccountsStruct.resolvedSlots
          [fun fields => Pumpfun.deriveUserVolumeAccumulatorPda
              addresses.toAddressDerivation (slots.account fields .user),
            fun fields => Pumpfun.deriveBondingCurveV2Pda
              addresses.toAddressDerivation (slots.account fields .mint)]) []
        ((Pumpfun.appendedAccounts addresses mintKey).flatMap Conditional.keys) =
          (Pumpfun.appendedAccounts addresses mintKey, []) ↔
      Pumpfun.deriveUserVolumeAccumulatorPda addresses.toAddressDerivation user ≠
        Pumpfun.deriveBondingCurveV2Pda addresses.toAddressDerivation mintKey := by
  by_cases same : Pumpfun.deriveUserVolumeAccumulatorPda
      addresses.toAddressDerivation user =
        Pumpfun.deriveBondingCurveV2Pda addresses.toAddressDerivation mintKey
  · simp [AccountsStruct.resolvedSlots, AccountLayout.resolve, userEq, mintEq,
      Pumpfun.appendedAccounts, Conditional.keys, same]
  · simp [AccountsStruct.resolvedSlots, AccountLayout.resolve, userEq, mintEq,
      Pumpfun.appendedAccounts, Conditional.keys, same]

section Common

variable (builder : SwapBuilder)

theorem distinct : Function.Injective
    (builder.instructionBuilder utf8Error addresses).enum.discriminator := by
  cases builder with
  | pumpfunBuy | pumpfunSell => exact Pumpfun.instructionDiscriminator_injective
  | pumpSwapBuy | pumpSwapSell => exact PumpSwap.instructionDiscriminator_injective

theorem writesDiscriminator
    (params : (builder.instructionBuilder utf8Error addresses).Params) :
    ((builder.instructionBuilder utf8Error addresses).instruction
      params).WritesDiscriminator := by
  cases builder <;> rfl

/-- The slots that a builder fills in. -/
def slots : SwapBuilder → NamedSlots
  | pumpfunBuy => Pumpfun.BuyAccounts.slots
  | pumpfunSell => Pumpfun.SellAccounts.slots
  | pumpSwapBuy => PumpSwap.BuyAccounts.slots
  | pumpSwapSell => PumpSwap.SellAccounts.slots

theorem required_slots : ∀ slot ∈ builder.slots, slot.2.optional = false := by
  cases builder <;> decide

theorem allRequired :
    (builder.instructionBuilder utf8Error addresses).struct.AllRequired := by
  cases builder with
  | pumpfunBuy => exact required_slots pumpfunBuy
  | pumpfunSell => exact required_slots pumpfunSell
  | pumpSwapBuy => exact required_slots pumpSwapBuy
  | pumpSwapSell => exact required_slots pumpSwapSell

theorem listed :
    (builder.instructionBuilder utf8Error addresses).struct.layout.remaining ≠
      none := by
  cases builder <;> exact Option.some_ne_none _

end Common

section ReadBack

variable {builder : SwapBuilder} {keys : builder.Keys}
  {params : (builder.instructionBuilder utf8Error addresses).Params}

/-- What is appended is found again, and the trailer is in the form of its
bytes. -/
theorem readsBack_iff_resolve
    {declared : NamedKeys
      (builder.instructionBuilder utf8Error addresses).struct.slots}
    {appended : List Conditional}
    {complete : appended.length = (builder.instructionBuilder utf8Error
      addresses).struct.layout.appended.count}
    (filled : (builder.instructionBuilder utf8Error addresses).accounts keys user =
      (builder.instructionBuilder utf8Error addresses).struct.fill declared appended
        complete)
    {resolvedSlots : List ResolvedSlot}
    (resolved : (builder.instructionBuilder utf8Error
      addresses).struct.layout.appended = .resolved resolvedSlots) :
    (builder.instructionBuilder utf8Error addresses).ReadsBack keys user params ↔
      AccountLayout.resolve declared.fields resolvedSlots []
          (appended.flatMap Conditional.keys) = (appended, []) ∧
        ((builder.instructionBuilder utf8Error addresses).instruction
          params).Canonical :=
  InstructionBuilder.readsBack_iff_of_fill builder.distinct
    (builder.writesDiscriminator params) filled builder.allRequired builder.listed
    resolved

end ReadBack

theorem readsBack_pumpfunBuy_iff {keys : Pumpfun.PumpfunKeys}
    {params : (instructionBuilder utf8Error addresses pumpfunBuy).Params} :
    (instructionBuilder utf8Error addresses pumpfunBuy).ReadsBack keys user params ↔
      Pumpfun.deriveUserVolumeAccumulatorPda addresses.toAddressDerivation user ≠
          Pumpfun.deriveBondingCurveV2Pda addresses.toAddressDerivation keys.mint ∧
        ((instructionBuilder utf8Error addresses pumpfunBuy).instruction
          params).Canonical := by
  rw [@readsBack_iff_resolve utf8Error addresses user pumpfunBuy keys params _ _ rfl
    rfl _ rfl]
  exact and_congr_left' (resolve_pumpfun rfl rfl)

theorem readsBack_pumpfunSell_iff {keys : Pumpfun.PumpfunKeys}
    {params : (instructionBuilder utf8Error addresses pumpfunSell).Params} :
    (instructionBuilder utf8Error addresses pumpfunSell).ReadsBack keys user params ↔
      Pumpfun.deriveUserVolumeAccumulatorPda addresses.toAddressDerivation user ≠
          Pumpfun.deriveBondingCurveV2Pda addresses.toAddressDerivation keys.mint ∧
        ((instructionBuilder utf8Error addresses pumpfunSell).instruction
          params).Canonical := by
  rw [@readsBack_iff_resolve utf8Error addresses user pumpfunSell keys params _ _ rfl
    rfl _ rfl]
  exact and_congr_left' (resolve_pumpfun rfl rfl)

theorem resolve_pumpSwapBuy {keys : PumpSwap.PumpSwapKeys} :
    AccountLayout.resolve (PumpSwap.BuyAccounts.declared addresses keys user).fields
        (AccountsStruct.resolvedSlots
          [fun fields => addresses.getAssociatedTokenAddress
            (PumpSwap.BuyAccounts.slots.account fields .userVolumeAccumulator)
            (PumpSwap.BuyAccounts.slots.account fields .quoteMint)]) []
        [PumpSwap.quoteVolumeAccumulator addresses user keys.quoteMint] =
      if addresses.getAssociatedTokenAddress
          (PumpSwap.deriveUserVolumeAccumulator addresses user) keys.quoteMint =
            PumpSwap.quoteVolumeAccumulator addresses user keys.quoteMint then
        ([.present (PumpSwap.quoteVolumeAccumulator addresses user keys.quoteMint)],
          [])
      else
        ([.absent], [PumpSwap.quoteVolumeAccumulator addresses user keys.quoteMint]) := by
  have accumulatorEq : PumpSwap.BuyAccounts.slots.account
      (PumpSwap.BuyAccounts.declared addresses keys user).fields
        .userVolumeAccumulator =
          PumpSwap.deriveUserVolumeAccumulator addresses user := rfl
  have quoteEq : PumpSwap.BuyAccounts.slots.account
      (PumpSwap.BuyAccounts.declared addresses keys user).fields .quoteMint =
        keys.quoteMint := rfl
  simp only [AccountsStruct.resolvedSlots, List.map_cons, List.map_nil,
    AccountLayout.resolve, accumulatorEq, quoteEq, List.mem_singleton]
  split
  next same => simp [same]
  next => rfl

theorem resolve_pumpSwapSell {keys : PumpSwap.PumpSwapKeys} :
    AccountLayout.resolve (PumpSwap.SellAccounts.declared addresses keys user).fields
        (AccountsStruct.resolvedSlots
          [fun fields => addresses.getAssociatedTokenAddress
              (PumpSwap.userVolumeAccumulator addresses.toAddressDerivation
                (PumpSwap.SellAccounts.slots.account fields .user))
              (PumpSwap.SellAccounts.slots.account fields .quoteMint),
            fun fields => PumpSwap.userVolumeAccumulator addresses.toAddressDerivation
              (PumpSwap.SellAccounts.slots.account fields .user)]) []
        [PumpSwap.quoteVolumeAccumulator addresses user keys.quoteMint,
          PumpSwap.userVolumeAccumulator addresses.toAddressDerivation user] =
      ([.present (PumpSwap.quoteVolumeAccumulator addresses user keys.quoteMint),
          .present (PumpSwap.userVolumeAccumulator addresses.toAddressDerivation user)],
        []) := by
  have userEq : PumpSwap.SellAccounts.slots.account
      (PumpSwap.SellAccounts.declared addresses keys user).fields .user = user := rfl
  have quoteEq : PumpSwap.SellAccounts.slots.account
      (PumpSwap.SellAccounts.declared addresses keys user).fields .quoteMint =
        keys.quoteMint := rfl
  simp [AccountsStruct.resolvedSlots, AccountLayout.resolve, userEq, quoteEq,
    PumpSwap.quoteVolumeAccumulator]

theorem readsBack_pumpSwapSell_iff {keys : PumpSwap.PumpSwapKeys}
    {params : (instructionBuilder utf8Error addresses pumpSwapSell).Params} :
    (instructionBuilder utf8Error addresses pumpSwapSell).ReadsBack keys user params ↔
      ((instructionBuilder utf8Error addresses pumpSwapSell).instruction
        params).Canonical := by
  rw [@readsBack_iff_resolve utf8Error addresses user pumpSwapSell keys params _ _ rfl
    rfl _ rfl]
  exact and_iff_right resolve_pumpSwapSell

/-- A buy would only be read back if the two accumulators had one token
account. -/
theorem readsBack_pumpSwapBuy_iff {keys : PumpSwap.PumpSwapKeys}
    {params : (instructionBuilder utf8Error addresses pumpSwapBuy).Params} :
    (instructionBuilder utf8Error addresses pumpSwapBuy).ReadsBack keys user params ↔
      addresses.getAssociatedTokenAddress
          (PumpSwap.deriveUserVolumeAccumulator addresses user) keys.quoteMint =
            PumpSwap.quoteVolumeAccumulator addresses user keys.quoteMint ∧
        ((instructionBuilder utf8Error addresses pumpSwapBuy).instruction
          params).Canonical := by
  rw [@readsBack_iff_resolve utf8Error addresses user pumpSwapBuy keys params _ _ rfl
    rfl _ rfl]
  refine and_congr_left' ?_
  have resolved := @resolve_pumpSwapBuy addresses user keys
  constructor
  · intro found
    by_contra different
    rw [if_neg different] at resolved
    cases resolved.symm.trans found
  · intro same
    rw [if_pos same] at resolved
    exact resolved

/-- With two token accounts, the one that a buy appends is read as a buyback
vault. -/
theorem absorbed_pumpSwapBuy {keys : PumpSwap.PumpSwapKeys}
    (different : addresses.getAssociatedTokenAddress
      (PumpSwap.deriveUserVolumeAccumulator addresses user) keys.quoteMint ≠
        PumpSwap.quoteVolumeAccumulator addresses user keys.quoteMint) :
    (PumpSwap.BuyAccounts addresses.toAddressDerivation).layout.readFields
        ((PumpSwap.BuyAccounts.fromKeys addresses keys user).toAccountMetas.map
          AccountMeta.pubkey) =
      .ok ⟨(PumpSwap.BuyAccounts.declared addresses keys user).fields, [.absent],
        [PumpSwap.quoteVolumeAccumulator addresses user keys.quoteMint]⟩ := by
  have read := @AccountsStruct.readFields_fill
    (PumpSwap.BuyAccounts addresses.toAddressDerivation)
    (PumpSwap.BuyAccounts.declared addresses keys user)
    [.present (PumpSwap.quoteVolumeAccumulator addresses user keys.quoteMint)] rfl
    (required_slots pumpSwapBuy) (Option.some_ne_none _) _ rfl
  have resolved := @resolve_pumpSwapBuy addresses user keys
  rw [if_neg different] at resolved
  refine read.trans (congrArg Except.ok ?_)
  exact congrArg (fun found => AccountFields.mk _ found.1 found.2) resolved

/-- The derivations under programs that tell the appended accounts apart. -/
def programAddresses :
    (builder : SwapBuilder) → builder.Keys → Pubkey → Set (List Bytes × Pubkey)
  | pumpfunBuy, keys, user => pumpfun keys user
  | pumpfunSell, keys, user => pumpfun keys user
  | pumpSwapBuy, _, user => pumpSwap user
  | pumpSwapSell, _, user => pumpSwap user
where
  pumpfun (keys : Pumpfun.PumpfunKeys) (user : Pubkey) : Set (List Bytes × Pubkey) :=
    {([seed "user_volume_accumulator", Pumpfun.pubkey.encode user],
        Pumpfun.programId),
      ([seed "bonding-curve-v2", Pumpfun.pubkey.encode keys.mint],
        Pumpfun.programId)}
  pumpSwap (user : Pubkey) : Set (List Bytes × Pubkey) :=
    {([seed "user_volume_accumulator", Pumpfun.pubkey.encode user],
        PumpSwap.programId),
      ([seed "user_volume_accumulator", Pumpfun.pubkey.encode user],
        PumpSwap.feeProgram)}

/-- The owners and the mints of the token accounts among them. -/
def tokenAddresses (addresses : BuilderAddresses) :
    (builder : SwapBuilder) → builder.Keys → Pubkey → Set (Pubkey × Pubkey)
  | pumpfunBuy, _, _ => ∅
  | pumpfunSell, _, _ => ∅
  | pumpSwapBuy, keys, user => pumpSwap keys user
  | pumpSwapSell, keys, user => pumpSwap keys user
where
  pumpSwap (keys : PumpSwap.PumpSwapKeys) (user : Pubkey) : Set (Pubkey × Pubkey) :=
    {(PumpSwap.userVolumeAccumulator addresses.toAddressDerivation user,
        keys.quoteMint),
      (PumpSwap.deriveUserVolumeAccumulator addresses user, keys.quoteMint)}

/-- Different arguments have different addresses.  There are more arguments than
addresses, so this can only be asked of those that matter to a builder. -/
structure Injective (addresses : BuilderAddresses) (builder : SwapBuilder)
    (keys : builder.Keys) (user : Pubkey) : Prop where
  programs : Set.InjOn (fun asked => addresses.findProgramAddress asked.1 asked.2)
    (builder.programAddresses keys user)
  tokens : Set.InjOn
    (fun asked => addresses.getAssociatedTokenAddress asked.1 asked.2)
    (builder.tokenAddresses addresses keys user)

theorem volumeSeed_ne_curveSeed :
    seed "user_volume_accumulator" ≠ seed "bonding-curve-v2" := by
  decide +kernel

theorem accumulator_ne_curve {keys : Pumpfun.PumpfunKeys}
    (injective : Set.InjOn
      (fun asked => addresses.findProgramAddress asked.1 asked.2)
      (programAddresses.pumpfun keys user)) :
    Pumpfun.deriveUserVolumeAccumulatorPda addresses.toAddressDerivation user ≠
      Pumpfun.deriveBondingCurveV2Pda addresses.toAddressDerivation keys.mint := by
  intro same
  have arguments := injective (.inl rfl) (.inr rfl) same
  exact volumeSeed_ne_curveSeed (List.cons.inj (Prod.ext_iff.mp arguments).1).1

theorem tokenAccounts_ne {keys : PumpSwap.PumpSwapKeys}
    (injective : Injective addresses pumpSwapBuy keys user) :
    addresses.getAssociatedTokenAddress
        (PumpSwap.deriveUserVolumeAccumulator addresses user) keys.quoteMint ≠
      PumpSwap.quoteVolumeAccumulator addresses user keys.quoteMint := by
  intro sameToken
  have owners := injective.tokens (.inr rfl) (.inl rfl) sameToken
  have samePda : PumpSwap.deriveUserVolumeAccumulator addresses user =
      PumpSwap.userVolumeAccumulator addresses.toAddressDerivation user :=
    (Prod.ext_iff.mp owners).1
  have arguments := injective.programs (.inr rfl) (.inl rfl) samePda
  have samePrograms : PumpSwap.feeProgram = PumpSwap.programId :=
    (Prod.ext_iff.mp arguments).2
  exact absurd samePrograms (by decide)

section Captured

/-- `3iiVSarh6AM311Mk3pFuZSeJhQN1gf16iCnHYNbp6Am5`, the user of a captured
buy. -/
def capturedUser : Pubkey :=
  0xf856e7eca44f671d63ecec0c25b0994a38aa7a498ee9dde25b2ba723af196728

/-- `CX2v7JSHJQDcNooubzzvZG8TPaDwbaPgfzcXRSWJpump`, its base mint. -/
def capturedMint : Pubkey :=
  0x3f5c30c4f8daed7db1587b60326831d0629f6a9015735857506948da812522ab

/-- The program addresses behind that buy, and behind a swap of the same mint
by the same user on the curve, as if the user had created the coin. -/
def capturedPrograms : List ((List Bytes × Pubkey) × Pubkey) :=
  let bytes := Pumpfun.pubkey.encode
  [(([seed "bonding-curve", bytes capturedMint], Pumpfun.programId),
      -- `8YgCqgyKiehz1tQ8igmrkrgAnjN4mEuuUY6R9fVQFj2b`
      0xe4cf9fe8b016d501d7fe92167f072aa5bf298b75f0856f39e6375d054e241f70),
   (([seed "bonding-curve-v2", bytes capturedMint], Pumpfun.programId),
      -- `BrSMfjMFeFiaywggZLXBSbY39YpQeS4BLxuPEauWJ3xb`
      0x98ebf074ce3ec66853083581a085be3ce72164c245aa9c2125105b99d9ff3ea1),
   (([seed "creator-vault", bytes capturedUser], Pumpfun.programId),
      -- `BKPJxC8Ag3zhE7T9Levwf6dTnDD3QZ7NNxWj7MSivDAZ`
      0x52aab96a2eebb63c1b263ab4c77be9e5b5506e4431cfa78a062c79fa9c8c4a99),
   (([seed "user_volume_accumulator", bytes capturedUser], Pumpfun.programId),
      -- `FEKRtduzPrA2APuYC67V48drHMZy43ymozSgphenbH5q`
      0x1865f140983fd0bf74a30dd3986b86a8ebf04d2c3fb83bec9e366ceb60016dd3),
   (([seed "creator_vault", bytes capturedUser], PumpSwap.programId),
      -- `B47BYhBxXvP9maVQwRzGgQfqsQMBH7MXvTiHNcnTjghS`
      0x35b6cdc69af55edae3a67b968b64c4379cfadfc11fc5b6751261eccffc996095),
   (([seed "user_volume_accumulator", bytes capturedUser], PumpSwap.programId),
      -- `74CCTKrqVLMRyuCCYJxTg11bKqcTTrrHJW2xZcDARwrN`
      0x57959b60219b87548a30ea5fa6ad3e89cf05a9ee6782032a621649866786f759),
   (([seed "user_volume_accumulator", bytes capturedUser], PumpSwap.feeProgram),
      -- `7nAS3as5Brg69pWrKku1DsY98qh8GqgteHL55MBgrdiM`
      0xc68a62856b05574cb794114bbb6ce8bed0901d462360aaa2f3901b8f2becb764)]

/-- The token accounts among them, all of the classic token program. -/
def capturedTokens : List ((Pubkey × Pubkey) × Pubkey) :=
  [((0xe4cf9fe8b016d501d7fe92167f072aa5bf298b75f0856f39e6375d054e241f70,
        capturedMint),
      -- `9YDTBWWQTYftT8iiYnbDnadZSQacQiX59AZpG1X4yvz4`
      0x915eae817b023dd8aed6aa500970ea560340c0bdf9b49911d073be474f94dc7e),
   ((capturedUser, capturedMint),
      -- `9CHZawhskybGEQQbPedTz6oeGuVUN5ED2SSBFFNUHwFB`
      0x9e3cbe73cc9ee2d84e4769a2f5490edfbbaefcc74f49b8667567f4495e9cc179),
   ((capturedUser, wsol),
      -- `82jWETKfHeniM3E8nA3tqjuZqSL6YpEReKqas2b7YfVn`
      0x95b66b075428e74c39440a3b91f3394581728fdd9326cc5b1e25aa3cdf727368),
   ((0x35b6cdc69af55edae3a67b968b64c4379cfadfc11fc5b6751261eccffc996095, wsol),
      -- `8ut1iasK7CcFuX9oJd8ro8yL6f2UFG6jU2HFyjRmHmLr`
      0x6f0be8b43b6dd72f66542da106883a5f61c5aa8f54a704ef470cfa30bfb08d75),
   ((0x57959b60219b87548a30ea5fa6ad3e89cf05a9ee6782032a621649866786f759, wsol),
      -- `2Vu3QbPzexDHTfZPZjq7vR5T9ENerRffeBiV5NxhZdyv`
      0x157e84ba1318180d1c0bb7155b52a5bee8b8105076900fc72cde64cc07cb4216),
   ((0xc68a62856b05574cb794114bbb6ce8bed0901d462360aaa2f3901b8f2becb764, wsol),
      -- `5FDaqJB4RP1SA1EzxmKFEyMUNQ6kWxT3G1oCt68jUf2N`
      0x9fb7a131e9e8707ddaa2ebc67e5377a69509d3c765c5319a3dd047fe661b133f)]

def capturedAddresses : BuilderAddresses where
  findProgramAddress seeds program :=
    (capturedPrograms.lookup (seeds, program)).getD 0
  getAssociatedTokenAddress owner mintKey :=
    (capturedTokens.lookup (owner, mintKey)).getD 0
  getAssociatedTokenAddressWithProgramId owner mintKey _ :=
    (capturedTokens.lookup (owner, mintKey)).getD 0

def capturedCurveKeys : Pumpfun.PumpfunKeys :=
  .new capturedAddresses capturedMint capturedUser

def capturedPoolKeys : PumpSwap.PumpSwapKeys :=
  .new capturedAddresses
    -- `7reC27fVChhUSbAkiTBm24BMn1ChvgRAvprhyFRgab4m`
    0xba7cda51daa911d6864c96e92465190b4fe23981d1be25f16f3d0a56cea1dd65
    capturedMint wsol
    -- `CD9HZmHvLQ1oMBbguLnUy8DxehjdCTbWtkg5i7nFw1Wg`
    0x2991ef7439a488156f42ca8a5b017f5ee037ed22719eb7e0cad19538fbe48ca6
    -- `AGABV8RVufNBDKVMRYejcTmCpuDh3kojZMaCVLyjmTBS`
    0x45885b158d1bac278cbd6d4e4fe19731c3d92d6707b90a2fcbb1731874469b89
    capturedUser

theorem injective_pumpfunBuy_captured :
    Injective capturedAddresses pumpfunBuy capturedCurveKeys capturedUser where
  programs := by
    refine Set.injOn_pair.mpr fun same => absurd same ?_
    decide +kernel
  tokens := Set.injOn_empty _

theorem injective_pumpSwapBuy_captured :
    Injective capturedAddresses pumpSwapBuy capturedPoolKeys capturedUser where
  programs := by
    refine Set.injOn_pair.mpr fun same => absurd same ?_
    decide +kernel
  tokens := by
    refine Set.injOn_pair.mpr fun same => absurd same ?_
    decide +kernel

end Captured

/-- Every builder but the PumpSwap buy is read back, if the trailer is in the
form of its bytes. -/
theorem readsBack_iff_ne_pumpSwapBuy (utf8Error : Bytes → String)
    (addresses : BuilderAddresses) (builder : SwapBuilder) (keys : builder.Keys)
    (user : Pubkey)
    (params : (builder.instructionBuilder utf8Error addresses).Params)
    (injective : Injective addresses builder keys user) :
    (builder.instructionBuilder utf8Error addresses).ReadsBack keys user params ↔
      builder ≠ pumpSwapBuy ∧
        ((builder.instructionBuilder utf8Error addresses).instruction
          params).Canonical := by
  cases builder with
  | pumpfunBuy =>
      refine readsBack_pumpfunBuy_iff.trans ?_
      exact and_congr_left' (iff_of_true (accumulator_ne_curve injective.programs)
        (by decide))
  | pumpfunSell =>
      refine readsBack_pumpfunSell_iff.trans ?_
      exact and_congr_left' (iff_of_true (accumulator_ne_curve injective.programs)
        (by decide))
  | pumpSwapBuy =>
      refine readsBack_pumpSwapBuy_iff.trans ?_
      exact and_congr_left' (iff_of_false (tokenAccounts_ne injective)
        (not_not_intro rfl))
  | pumpSwapSell =>
      refine readsBack_pumpSwapSell_iff.trans ?_
      exact (and_iff_right (by decide)).symm

theorem readsBack_pumpfunBuy_captured :
    (instructionBuilder (fun _ => "") capturedAddresses pumpfunBuy).ReadsBack
      capturedCurveKeys capturedUser
        ((Pumpfun.BuyParams.new 1000000000 100000000).withTrackVolume .someTrue) :=
  (readsBack_iff_ne_pumpSwapBuy _ capturedAddresses pumpfunBuy capturedCurveKeys
    capturedUser _ injective_pumpfunBuy_captured).mpr ⟨by decide, trivial⟩

/-- The plainest pool buy is not read back, and neither is a curve buy with a
trailer whose byte has a form of its own. -/
theorem not_readsBack_captured :
    (Injective capturedAddresses pumpSwapBuy capturedPoolKeys capturedUser ∧
        ¬ (instructionBuilder (fun _ => "") capturedAddresses pumpSwapBuy).ReadsBack
          capturedPoolKeys capturedUser
            (PumpSwap.BuyParams.new 1000000 500000000)) ∧
      (Injective capturedAddresses pumpfunBuy capturedCurveKeys capturedUser ∧
        ¬ (instructionBuilder (fun _ => "") capturedAddresses pumpfunBuy).ReadsBack
          capturedCurveKeys capturedUser
            ((Pumpfun.BuyParams.new 1000000000 100000000).withTrackVolume
              (.unattributed ⟨[1], by decide⟩))) := by
  refine ⟨⟨injective_pumpSwapBuy_captured, fun read => ?_⟩,
    ⟨injective_pumpfunBuy_captured, fun read => ?_⟩⟩
  · exact tokenAccounts_ne injective_pumpSwapBuy_captured
      (readsBack_pumpSwapBuy_iff.mp read).1
  · exact absurd (readsBack_pumpfunBuy_iff.mp read).2
      (fun canonical => canonical (by decide))

end SwapBuilder

end Protocols

end SolanaProtocols
