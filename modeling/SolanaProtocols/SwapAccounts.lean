import SolanaProtocols.AccountLayout
import SolanaProtocols.SwapRecord

/-!
# Accounts of the swap instructions

Each accounts struct lists its declared slots by name, in order, and the slots
past them whose addresses it derives.  Deriving an address is left to another
crate.
-/

namespace SolanaProtocols

namespace Parsing

/-- The names of declared slots. -/
inductive AccountName
  | global
  | feeRecipient
  | mint
  | bondingCurve
  | associatedBondingCurve
  | associatedUser
  | user
  | systemProgram
  | tokenProgram
  | creatorVault
  | eventAuthority
  | program
  | globalVolumeAccumulator
  | userVolumeAccumulator
  | feeConfig
  | feeProgram
  | baseMint
  | quoteMint
  | baseTokenProgram
  | quoteTokenProgram
  | associatedTokenProgram
  | associatedQuoteFeeRecipient
  | buybackFeeRecipient
  | associatedQuoteBuybackFeeRecipient
  | associatedBaseBondingCurve
  | associatedQuoteBondingCurve
  | associatedBaseUser
  | associatedQuoteUser
  | associatedCreatorVault
  | sharingConfig
  | associatedUserVolumeAccumulator
  | pool
  | globalConfig
  | userBaseTokenAccount
  | userQuoteTokenAccount
  | poolBaseTokenAccount
  | poolQuoteTokenAccount
  | protocolFeeRecipient
  | protocolFeeRecipientTokenAccount
  | coinCreatorVaultAta
  | coinCreatorVaultAuthority
  | lbPair
  | binArrayBitmapExtension
  | reserveX
  | reserveY
  | userTokenIn
  | userTokenOut
  | tokenXMint
  | tokenYMint
  | oracle
  | hostFeeIn
  | tokenXProgram
  | tokenYProgram
  | memoProgram
  | poolAuthority
  | inputTokenAccount
  | outputTokenAccount
  | tokenAVault
  | tokenBVault
  | tokenAMint
  | tokenBMint
  | payer
  | tokenAProgram
  | tokenBProgram
  | referralTokenAccount
deriving DecidableEq, Repr

namespace Slot

def readonly : DeclaredSlot := ⟨false, false, false⟩

def writable : DeclaredSlot := ⟨true, false, false⟩

def signer : DeclaredSlot := ⟨false, true, false⟩

def writableSigner : DeclaredSlot := ⟨true, true, false⟩

end Slot

/-- Declared slots by name, in order. -/
abbrev NamedSlots := List (AccountName × DeclaredSlot)

/-- The index of a named slot. -/
def NamedSlots.indexOf (slots : NamedSlots) (name : AccountName) : Nat :=
  slots.findIdx fun slot => slot.1 == name

/-- The account in a named slot. -/
def NamedSlots.account (slots : NamedSlots) (declared : List (Option Pubkey))
    (name : AccountName) : Pubkey :=
  (declared.getD (slots.indexOf name) none).getD 0

/-- An accounts struct. -/
structure AccountsStruct where
  name : String
  slots : NamedSlots
  layout : AccountLayout
  declared : layout.declared = slots.map Prod.snd

namespace AccountsStruct

variable (struct : AccountsStruct)

/-- Parse from a list of account keys. -/
def fromAccountKeys (keys : List Pubkey) :
    Except InstructionParseError (Accounts struct.layout) :=
  struct.layout.fromPubkeys keys

/-- The account in a named slot. -/
def account (accounts : Accounts struct.layout) (name : AccountName) : Pubkey :=
  struct.slots.account accounts.fields.declared name

/-- Every declared slot is required. -/
def AllRequired : Prop :=
  ∀ slot ∈ struct.slots, slot.2.optional = false

instance : Decidable struct.AllRequired :=
  List.decidableBAll _ _

/-- A struct without slots past the declared ones. -/
def ofDeclared (name : String) (programId : Pubkey) (slots : NamedSlots) :
    AccountsStruct where
  name := name
  slots := slots
  layout :=
    { programId := programId
      declared := slots.map Prod.snd
      appended := .conditional []
      remaining := none }
  declared := rfl

/-- A struct that derives the addresses of some appended slots and keeps the
remaining accounts as buyback vaults. -/
def ofResolved (name : String) (programId : Pubkey) (slots : NamedSlots)
    (derives : List (List (Option Pubkey) → Pubkey)) : AccountsStruct where
  name := name
  slots := slots
  layout :=
    { programId := programId
      declared := slots.map Prod.snd
      appended := .resolved (derives.map fun derive =>
        { writable := false
          signer := false
          derive := fun declared _ => derive declared })
      remaining := some ⟨"buyback_vaults", false⟩ }
  declared := rfl

variable {struct} {keys : List Pubkey}

/-- A required slot holds the key at its index. -/
theorem account_eq {accounts : Accounts struct.layout}
    (read : struct.fromAccountKeys keys = .ok accounts)
    (required : struct.AllRequired) {name : AccountName}
    (inside : struct.slots.indexOf name < struct.slots.length) :
    struct.account accounts name = keys.getD (struct.slots.indexOf name) 0 := by
  obtain ⟨enough, fieldsEq, -⟩ := AccountLayout.readFields_eq_ok_iff.mp
    (AccountLayout.fromPubkeys_eq_ok_iff.mp read)
  rw [struct.declared, List.length_map] at enough
  have slot : (struct.slots[struct.slots.indexOf name].2).optional = false :=
    required _ (List.getElem_mem inside)
  have value : (struct.layout.declaredValues keys)[struct.slots.indexOf name]? =
      some (some keys[struct.slots.indexOf name]) := by
    rw [AccountLayout.declaredValues, List.getElem?_zipWith, struct.declared,
      List.getElem?_map, List.getElem?_eq_getElem inside,
      List.getElem?_eq_getElem (inside.trans_le enough)]
    simp [AccountLayout.declaredValue, slot]
  have key : keys.getD (struct.slots.indexOf name) 0 =
      keys[struct.slots.indexOf name] := by
    rw [List.getD_eq_getElem?_getD,
      List.getElem?_eq_getElem (inside.trans_le enough), Option.getD_some]
  rw [key, account, NamedSlots.account, fieldsEq, List.getD_eq_getElem?_getD,
    value]
  rfl

theorem readAppended_nil (layout : AccountLayout)
    (declared : List (Option Pubkey)) :
    (layout.readAppended declared []).2 = [] := by
  have conditionals (names : List String) :
      (AccountLayout.readConditionals names []).2 = [] := by
    cases names <;> rfl
  have resolved (slots : List ResolvedSlot) (earlier : List Conditional) :
      (AccountLayout.resolve declared slots earlier []).2 = [] := by
    induction slots generalizing earlier with
    | nil => rfl
    | cons slot slots ih => exact ih _
  rw [AccountLayout.readAppended]
  cases layout.appended with
  | conditional names => exact conditionals names
  | resolved slots => exact resolved slots []

theorem exists_of_length (filled : keys.length = struct.slots.length) :
    ∃ accounts, struct.fromAccountKeys keys = .ok accounts := by
  have long : struct.layout.declared.length = keys.length := by
    rw [struct.declared, List.length_map, filled]
  have nothing : keys.drop struct.layout.declared.length = [] := by
    rw [long, List.drop_length]
  have read := AccountLayout.readFields_eq_ok_iff.mpr
    ⟨long.le, rfl, fun _ => by
      rw [AccountLayout.appendedValues, nothing, readAppended_nil]⟩
  exact ⟨⟨_, AccountLayout.readFields_fit read⟩,
    AccountLayout.fromPubkeys_eq_ok_iff.mpr read⟩

end AccountsStruct

end Parsing

open Parsing Slot

/-- The address derivations of other crates. -/
structure AddressDerivation where
  findProgramAddress : List Bytes → Pubkey → Pubkey
  getAssociatedTokenAddress : Pubkey → Pubkey → Pubkey

/-- A seed that is text. -/
def seed (text : String) : Bytes :=
  text.toUTF8.toList

namespace Pumpfun

section Derivations

variable (addresses : AddressDerivation)

def deriveBondingCurvePda (mint : Pubkey) : Pubkey :=
  addresses.findProgramAddress [seed "bonding-curve", pubkey.encode mint]
    programId

def deriveBondingCurveV2Pda (mint : Pubkey) : Pubkey :=
  addresses.findProgramAddress [seed "bonding-curve-v2", pubkey.encode mint]
    programId

def deriveUserVolumeAccumulatorPda (user : Pubkey) : Pubkey :=
  addresses.findProgramAddress
    [seed "user_volume_accumulator", pubkey.encode user] programId

end Derivations

def BuyAccounts.slots : NamedSlots :=
    [(.global, readonly), (.feeRecipient, writable), (.mint, readonly),
     (.bondingCurve, writable), (.associatedBondingCurve, writable),
     (.associatedUser, writable), (.user, writableSigner),
     (.systemProgram, readonly), (.tokenProgram, readonly),
     (.creatorVault, writable), (.eventAuthority, readonly),
     (.program, readonly), (.globalVolumeAccumulator, readonly),
     (.userVolumeAccumulator, writable), (.feeConfig, readonly),
     (.feeProgram, readonly)]

def SellAccounts.slots : NamedSlots :=
    [(.global, readonly), (.feeRecipient, writable), (.mint, readonly),
     (.bondingCurve, writable), (.associatedBondingCurve, writable),
     (.associatedUser, writable), (.user, writableSigner),
     (.systemProgram, readonly), (.creatorVault, writable),
     (.tokenProgram, readonly), (.eventAuthority, readonly),
     (.program, readonly), (.feeConfig, readonly), (.feeProgram, readonly)]

def BuyV2Accounts.slots : NamedSlots :=
    [(.global, readonly), (.baseMint, readonly), (.quoteMint, readonly),
     (.baseTokenProgram, readonly), (.quoteTokenProgram, readonly),
     (.associatedTokenProgram, readonly), (.feeRecipient, writable),
     (.associatedQuoteFeeRecipient, writable),
     (.buybackFeeRecipient, writable),
     (.associatedQuoteBuybackFeeRecipient, writable),
     (.bondingCurve, writable), (.associatedBaseBondingCurve, writable),
     (.associatedQuoteBondingCurve, writable), (.user, writableSigner),
     (.associatedBaseUser, writable), (.associatedQuoteUser, writable),
     (.creatorVault, writable), (.associatedCreatorVault, writable),
     (.sharingConfig, readonly), (.globalVolumeAccumulator, readonly),
     (.userVolumeAccumulator, writable),
     (.associatedUserVolumeAccumulator, writable), (.feeConfig, readonly),
     (.feeProgram, readonly), (.systemProgram, readonly),
     (.eventAuthority, readonly), (.program, readonly)]

def SellV2Accounts.slots : NamedSlots :=
    [(.global, readonly), (.baseMint, readonly), (.quoteMint, readonly),
     (.baseTokenProgram, readonly), (.quoteTokenProgram, readonly),
     (.associatedTokenProgram, readonly), (.feeRecipient, writable),
     (.associatedQuoteFeeRecipient, writable),
     (.buybackFeeRecipient, writable),
     (.associatedQuoteBuybackFeeRecipient, writable),
     (.bondingCurve, writable), (.associatedBaseBondingCurve, writable),
     (.associatedQuoteBondingCurve, writable), (.user, writableSigner),
     (.associatedBaseUser, writable), (.associatedQuoteUser, writable),
     (.creatorVault, writable), (.associatedCreatorVault, writable),
     (.sharingConfig, readonly), (.userVolumeAccumulator, writable),
     (.associatedUserVolumeAccumulator, writable), (.feeConfig, readonly),
     (.feeProgram, readonly), (.systemProgram, readonly),
     (.eventAuthority, readonly), (.program, readonly)]

/-- A swap's accounts: the user's volume accumulator and the second curve of the
mint may be appended. -/
def swapAccounts (addresses : AddressDerivation) (name : String)
    (slots : NamedSlots) (mintName : AccountName) : AccountsStruct :=
  .ofResolved name programId slots
    [fun declared =>
        deriveUserVolumeAccumulatorPda addresses (slots.account declared .user),
      fun declared =>
        deriveBondingCurveV2Pda addresses (slots.account declared mintName)]

def BuyAccounts (addresses : AddressDerivation) : AccountsStruct :=
  swapAccounts addresses "BuyAccounts" BuyAccounts.slots .mint

def SellAccounts (addresses : AddressDerivation) : AccountsStruct :=
  swapAccounts addresses "SellAccounts" SellAccounts.slots .mint

def BuyV2Accounts (addresses : AddressDerivation) : AccountsStruct :=
  swapAccounts addresses "BuyV2Accounts" BuyV2Accounts.slots .baseMint

def SellV2Accounts (addresses : AddressDerivation) : AccountsStruct :=
  swapAccounts addresses "SellV2Accounts" SellV2Accounts.slots .baseMint

end Pumpfun

namespace PumpSwap

open Pumpfun (pubkey)

def BuyAccounts.slots : NamedSlots :=
    [(.pool, writable), (.user, writableSigner), (.globalConfig, readonly),
     (.baseMint, readonly), (.quoteMint, readonly),
     (.userBaseTokenAccount, writable), (.userQuoteTokenAccount, writable),
     (.poolBaseTokenAccount, writable), (.poolQuoteTokenAccount, writable),
     (.protocolFeeRecipient, readonly),
     (.protocolFeeRecipientTokenAccount, writable),
     (.baseTokenProgram, readonly), (.quoteTokenProgram, readonly),
     (.systemProgram, readonly), (.associatedTokenProgram, readonly),
     (.eventAuthority, readonly), (.program, readonly),
     (.coinCreatorVaultAta, writable), (.coinCreatorVaultAuthority, readonly),
     (.globalVolumeAccumulator, readonly), (.userVolumeAccumulator, writable),
     (.feeConfig, readonly), (.feeProgram, readonly)]

def SellAccounts.slots : NamedSlots :=
    [(.pool, writable), (.user, writableSigner), (.globalConfig, readonly),
     (.baseMint, readonly), (.quoteMint, readonly),
     (.userBaseTokenAccount, writable), (.userQuoteTokenAccount, writable),
     (.poolBaseTokenAccount, writable), (.poolQuoteTokenAccount, writable),
     (.protocolFeeRecipient, readonly),
     (.protocolFeeRecipientTokenAccount, writable),
     (.baseTokenProgram, readonly), (.quoteTokenProgram, readonly),
     (.systemProgram, readonly), (.associatedTokenProgram, readonly),
     (.eventAuthority, readonly), (.program, readonly),
     (.coinCreatorVaultAta, writable), (.coinCreatorVaultAuthority, readonly),
     (.feeConfig, readonly), (.feeProgram, readonly)]

/-- The volume accumulator of a user. -/
def userVolumeAccumulator (addresses : AddressDerivation) (user : Pubkey) :
    Pubkey :=
  addresses.findProgramAddress
    [seed "user_volume_accumulator", pubkey.encode user] programId

/-- The token account of the declared accumulator may be appended. -/
def BuyAccounts (addresses : AddressDerivation) : AccountsStruct :=
  .ofResolved "BuyAccounts" programId BuyAccounts.slots
    [fun declared => addresses.getAssociatedTokenAddress
      (BuyAccounts.slots.account declared .userVolumeAccumulator)
      (BuyAccounts.slots.account declared .quoteMint)]

/-- The user's accumulator, which no slot declares, and its token account may be
appended. -/
def SellAccounts (addresses : AddressDerivation) : AccountsStruct :=
  .ofResolved "SellAccounts" programId SellAccounts.slots
    [fun declared => addresses.getAssociatedTokenAddress
        (userVolumeAccumulator addresses
          (SellAccounts.slots.account declared .user))
        (SellAccounts.slots.account declared .quoteMint),
      fun declared => userVolumeAccumulator addresses
        (SellAccounts.slots.account declared .user)]

end PumpSwap

namespace MeteoraDammV2

def SwapAccounts : AccountsStruct :=
  .ofDeclared "SwapAccounts" programId
    [(.poolAuthority, readonly), (.pool, writable),
     (.inputTokenAccount, writable), (.outputTokenAccount, writable),
     (.tokenAVault, writable), (.tokenBVault, writable),
     (.tokenAMint, readonly), (.tokenBMint, readonly), (.payer, signer),
     (.tokenAProgram, readonly), (.tokenBProgram, readonly),
     (.referralTokenAccount, writable), (.eventAuthority, readonly),
     (.program, readonly)]

end MeteoraDammV2

namespace MeteoraDlmm

/-- The slots of the first swap instructions. -/
def swapSlots : NamedSlots :=
    [(.lbPair, writable), (.binArrayBitmapExtension, readonly),
     (.reserveX, writable), (.reserveY, writable), (.userTokenIn, writable),
     (.userTokenOut, writable), (.tokenXMint, readonly),
     (.tokenYMint, readonly), (.oracle, writable), (.hostFeeIn, writable),
     (.user, signer), (.tokenXProgram, readonly), (.tokenYProgram, readonly),
     (.eventAuthority, readonly), (.program, readonly)]

/-- The slots of the second versions. -/
def swap2Slots : NamedSlots :=
    [(.lbPair, writable), (.binArrayBitmapExtension, readonly),
     (.reserveX, writable), (.reserveY, writable), (.userTokenIn, writable),
     (.userTokenOut, writable), (.tokenXMint, readonly),
     (.tokenYMint, readonly), (.oracle, writable), (.hostFeeIn, writable),
     (.user, signer), (.tokenXProgram, readonly), (.tokenYProgram, readonly),
     (.memoProgram, readonly), (.eventAuthority, readonly),
     (.program, readonly)]

def SwapAccounts : AccountsStruct :=
  .ofDeclared "SwapAccounts" programId swapSlots

def Swap2Accounts : AccountsStruct :=
  .ofDeclared "Swap2Accounts" programId swap2Slots

def SwapExactOutAccounts : AccountsStruct :=
  .ofDeclared "SwapExactOutAccounts" programId swapSlots

def SwapExactOut2Accounts : AccountsStruct :=
  .ofDeclared "SwapExactOut2Accounts" programId swap2Slots

def SwapWithPriceImpactAccounts : AccountsStruct :=
  .ofDeclared "SwapWithPriceImpactAccounts" programId swapSlots

def SwapWithPriceImpact2Accounts : AccountsStruct :=
  .ofDeclared "SwapWithPriceImpact2Accounts" programId swap2Slots

end MeteoraDlmm

end SolanaProtocols
