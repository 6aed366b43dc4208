import SolanaProtocols.InstructionCodec
import SolanaProtocols.PumpConfig

/-!
# Instructions of the pump programs

The PumpSwap and the pumpfun instruction enums, variant by variant: which
discriminator the enum looks for, which the arguments struct writes, and the
declared arguments.
-/

namespace SolanaProtocols

open Protocols PrefixCodec Pumpfun

def u16 : PrefixCodec (BitVec 16) := littleEndian 2

namespace PumpSwap

/-- The variants of `PumpSwapInstruction`. -/
inductive PumpSwapVariant
  | buy
  | buyExactQuoteIn
  | sell
  | createPool
  | deposit
  | withdraw
  | collectCoinCreatorFee
deriving DecidableEq, Repr

/-- The start of `sha256("global:<name>")` of each variant. -/
def instructionDiscriminator : PumpSwapVariant → Discriminator
  | .buy => #v[102, 6, 61, 18, 1, 218, 235, 234]
  | .buyExactQuoteIn => #v[198, 46, 21, 82, 180, 217, 232, 112]
  | .sell => #v[51, 230, 133, 164, 1, 127, 131, 173]
  | .createPool => #v[233, 146, 209, 142, 207, 104, 64, 188]
  | .deposit => #v[242, 35, 198, 137, 82, 225, 242, 182]
  | .withdraw => #v[183, 18, 70, 156, 148, 109, 161, 34]
  | .collectCoinCreatorFee => #v[160, 57, 89, 42, 181, 139, 43, 66]

structure BuyParams where
  baseAmountOut : U64
  maxQuoteAmountIn : U64
  trackVolume : OptionBool
deriving DecidableEq

def BuyParams.arguments : Arguments BuyParams :=
  .trailing (u64.pair u64)
    { toFun := fun ⟨(a, b), c⟩ => ⟨a, b, c⟩
      invFun := fun ⟨a, b, c⟩ => ((a, b), c)
      left_inv := fun _ => rfl
      right_inv := fun _ => rfl }

structure BuyExactQuoteInParams where
  spendableQuoteIn : U64
  minBaseAmountOut : U64
  trackVolume : OptionBool
deriving DecidableEq

def BuyExactQuoteInParams.arguments : Arguments BuyExactQuoteInParams :=
  .trailing (u64.pair u64)
    { toFun := fun ⟨(a, b), c⟩ => ⟨a, b, c⟩
      invFun := fun ⟨a, b, c⟩ => ((a, b), c)
      left_inv := fun _ => rfl
      right_inv := fun _ => rfl }

structure SellParams where
  baseAmountIn : U64
  minQuoteAmountOut : U64
  trackVolume : OptionBool
deriving DecidableEq

def SellParams.arguments : Arguments SellParams :=
  .trailing (u64.pair u64)
    { toFun := fun ⟨(a, b), c⟩ => ⟨a, b, c⟩
      invFun := fun ⟨a, b, c⟩ => ((a, b), c)
      left_inv := fun _ => rfl
      right_inv := fun _ => rfl }

structure CreatePoolParams where
  index : BitVec 16
  baseAmountIn : U64
  quoteAmountIn : U64
  coinCreator : Pubkey
  isMayhemMode : Bool
  isCashbackCoin : OptionBool
deriving DecidableEq

def CreatePoolParams.arguments : Arguments CreatePoolParams :=
  .trailing (u16.pair (u64.pair (u64.pair (pubkey.pair bool))))
    { toFun := fun ⟨(a, b, c, d, e), f⟩ => ⟨a, b, c, d, e, f⟩
      invFun := fun ⟨a, b, c, d, e, f⟩ => ((a, b, c, d, e), f)
      left_inv := fun _ => rfl
      right_inv := fun _ => rfl }

structure DepositParams where
  lpTokenAmountOut : U64
  maxBaseAmountIn : U64
  maxQuoteAmountIn : U64
deriving DecidableEq

def DepositParams.arguments : Arguments DepositParams :=
  .fixed ((u64.pair (u64.pair u64)).equiv
    { toFun := fun (a, b, c) => ⟨a, b, c⟩
      invFun := fun ⟨a, b, c⟩ => (a, b, c)
      left_inv := fun _ => rfl
      right_inv := fun _ => rfl })

structure WithdrawParams where
  lpTokenAmountIn : U64
  minBaseAmountOut : U64
  minQuoteAmountOut : U64
deriving DecidableEq

def WithdrawParams.arguments : Arguments WithdrawParams :=
  .fixed ((u64.pair (u64.pair u64)).equiv
    { toFun := fun (a, b, c) => ⟨a, b, c⟩
      invFun := fun ⟨a, b, c⟩ => (a, b, c)
      left_inv := fun _ => rfl
      right_inv := fun _ => rfl })

/-- A derived arguments struct that writes a variant's discriminator. -/
def derivedParams {Params : Type} (name : String) (variant : PumpSwapVariant)
    (arguments : Arguments Params) : InstructionParams :=
  .derived ("solana_protocols::protocols::pumpswap::instructions::" ++ name)
    (some (instructionDiscriminator variant).toList) arguments

/-- The arguments type of each variant. -/
def instructionParams :
    PumpSwapVariant → InstructionParams
  | .buy =>
      derivedParams "buy::BuyParams" .buy
        BuyParams.arguments
  | .buyExactQuoteIn =>
      derivedParams "buy_exact_quote_in::BuyExactQuoteInParams" .buyExactQuoteIn
        BuyExactQuoteInParams.arguments
  | .sell =>
      derivedParams "sell::SellParams" .sell
        SellParams.arguments
  | .createPool =>
      derivedParams "create_pool::CreatePoolParams" .createPool
        CreatePoolParams.arguments
  | .deposit =>
      derivedParams "deposit::DepositParams" .deposit
        DepositParams.arguments
  | .withdraw =>
      derivedParams "withdraw::WithdrawParams" .withdraw
        WithdrawParams.arguments
  | .collectCoinCreatorFee => .noParams

def pumpSwapInstruction :
    InstructionEnum PumpSwapVariant where
  discSize := 8
  discSize_valid := by decide
  discriminator := instructionDiscriminator
  params := instructionParams
  variants := [.buy, .buyExactQuoteIn, .sell, .createPool, .deposit, .withdraw,
    .collectCoinCreatorFee]
  mem_variants variant := by cases variant <;> decide

theorem instructionDiscriminator_injective :
    Function.Injective instructionDiscriminator := by
  intro first second same
  cases first <;> cases second <;>
    first
    | rfl
    | exact absurd same (by decide)

theorem writesDiscriminator_iff (instruction : pumpSwapInstruction.Instruction) :
    instruction.WritesDiscriminator ↔
      instruction.variant ≠ .collectCoinCreatorFee := by
  obtain ⟨variant, params⟩ := instruction
  cases variant with
  | collectCoinCreatorFee =>
      have unwritten : ([] : Bytes) ≠
          (instructionDiscriminator .collectCoinCreatorFee).toList := by decide
      exact iff_of_false unwritten (by simp)
  | _ => exact iff_of_true rfl (by simp)

theorem roundTrips_iff (instruction : pumpSwapInstruction.Instruction) :
    instruction.RoundTrips ↔
      instruction.variant ≠ .collectCoinCreatorFee ∧ instruction.Canonical := by
  rw [instruction.roundTrips_iff instructionDiscriminator_injective,
    writesDiscriminator_iff]

/-- Collecting the creator fee. -/
def collectFee : pumpSwapInstruction.Instruction where
  variant := .collectCoinCreatorFee
  params := InstructionParams.NoParams.mk

/-- A sell whose trailer is one byte that has a form of its own. -/
def sellTrailing : pumpSwapInstruction.Instruction where
  variant := .sell
  params := SellParams.mk 1 1 (.unattributed ⟨[1], by decide⟩)

/-- The instruction without arguments is written as nothing at all, its
discriminator is read but not written back, and a trailer is read as another
form. -/
theorem collectFee_not_roundTrips :
    collectFee.data = [] ∧ ¬ collectFee.RoundTrips ∧
      ¬ pumpSwapInstruction.Reencodes collectFee.discriminator.toList ∧
        ¬ sellTrailing.RoundTrips := by
  refine ⟨rfl, ?_, ?_, ?_⟩
  · rw [roundTrips_iff]
    exact fun writes => writes.1 rfl
  · intro reencodes
    have read := (InstructionEnum.tryFromSlice_eq_ok_iff
      instructionDiscriminator_injective).mpr
        (⟨(List.append_nil collectFee.discriminator.toList).symm, trivial⟩ :
          collectFee.discriminator.toList =
              collectFee.discriminator.toList ++ collectFee.arguments ∧
            collectFee.Canonical)
    exact absurd (reencodes collectFee read) (by decide)
  · rw [roundTrips_iff]
    intro canonical
    exact canonical.2 (by decide)

theorem instruction_codec_iff_pumpSwap :
    (∀ instruction : pumpSwapInstruction.Instruction, instruction.RoundTrips ↔
        instruction.WritesDiscriminator ∧ instruction.Canonical) ∧
      (∀ data, pumpSwapInstruction.Reencodes data ↔
        ¬ pumpSwapInstruction.NamesUnwritten data) ∧
        ∀ data, pumpSwapInstruction.Malformed data →
          ∃ err, pumpSwapInstruction.tryFromSlice data = .error err :=
  InstructionEnum.instruction_codec_iff instructionDiscriminator_injective

end PumpSwap

namespace Pumpfun

/-- The variants of `PumpfunInstruction`. -/
inductive PumpfunVariant
  | buy
  | buyV2
  | buyExactSolIn
  | buyExactQuoteInV2
  | sell
  | sellV2
  | create
  | createV2
  | migrate
  | migrateV2
  | collectCreatorFee
  | collectCreatorFeeV2
  | distributeCreatorFees
  | distributeCreatorFeesV2
deriving DecidableEq, Repr

/-- The start of `sha256("global:<name>")` of each variant. -/
def instructionDiscriminator : PumpfunVariant → Discriminator
  | .buy => #v[102, 6, 61, 18, 1, 218, 235, 234]
  | .buyV2 => #v[184, 23, 238, 97, 103, 197, 211, 61]
  | .buyExactSolIn => #v[56, 252, 116, 8, 158, 223, 205, 95]
  | .buyExactQuoteInV2 => #v[194, 171, 28, 70, 104, 77, 91, 47]
  | .sell => #v[51, 230, 133, 164, 1, 127, 131, 173]
  | .sellV2 => #v[93, 246, 130, 60, 231, 233, 64, 178]
  | .create => #v[24, 30, 200, 40, 5, 28, 7, 119]
  | .createV2 => #v[214, 144, 76, 236, 95, 139, 49, 180]
  | .migrate => #v[155, 234, 231, 146, 236, 158, 162, 30]
  | .migrateV2 => #v[187, 203, 18, 31, 206, 237, 254, 41]
  | .collectCreatorFee => #v[20, 22, 86, 123, 198, 28, 219, 132]
  | .collectCreatorFeeV2 => #v[207, 17, 138, 242, 4, 34, 19, 56]
  | .distributeCreatorFees => #v[165, 114, 103, 0, 121, 206, 247, 81]
  | .distributeCreatorFeesV2 => #v[255, 203, 19, 79, 244, 68, 8, 159]

structure BuyParams where
  amount : U64
  maxSolCost : U64
  trackVolume : OptionBool
deriving DecidableEq

def BuyParams.arguments : Arguments BuyParams :=
  .trailing (u64.pair u64)
    { toFun := fun ⟨(a, b), c⟩ => ⟨a, b, c⟩
      invFun := fun ⟨a, b, c⟩ => ((a, b), c)
      left_inv := fun _ => rfl
      right_inv := fun _ => rfl }

structure BuyV2Params where
  amount : U64
  maxSolCost : U64
deriving DecidableEq

def BuyV2Params.arguments : Arguments BuyV2Params :=
  .fixed ((u64.pair u64).equiv
    { toFun := fun (a, b) => ⟨a, b⟩
      invFun := fun ⟨a, b⟩ => (a, b)
      left_inv := fun _ => rfl
      right_inv := fun _ => rfl })

structure BuyExactSolInParams where
  spendableSolIn : U64
  minTokensOut : U64
  trackVolume : OptionBool
deriving DecidableEq

def BuyExactSolInParams.arguments : Arguments BuyExactSolInParams :=
  .trailing (u64.pair u64)
    { toFun := fun ⟨(a, b), c⟩ => ⟨a, b, c⟩
      invFun := fun ⟨a, b, c⟩ => ((a, b), c)
      left_inv := fun _ => rfl
      right_inv := fun _ => rfl }

structure BuyExactQuoteInV2Params where
  spendableQuoteIn : U64
  minTokensOut : U64
  trackVolume : OptionBool
deriving DecidableEq

def BuyExactQuoteInV2Params.arguments : Arguments BuyExactQuoteInV2Params :=
  .trailing (u64.pair u64)
    { toFun := fun ⟨(a, b), c⟩ => ⟨a, b, c⟩
      invFun := fun ⟨a, b, c⟩ => ((a, b), c)
      left_inv := fun _ => rfl
      right_inv := fun _ => rfl }

structure SellParams where
  amount : U64
  minSolOutput : U64
  trackVolume : OptionBool
deriving DecidableEq

def SellParams.arguments : Arguments SellParams :=
  .trailing (u64.pair u64)
    { toFun := fun ⟨(a, b), c⟩ => ⟨a, b, c⟩
      invFun := fun ⟨a, b, c⟩ => ((a, b), c)
      left_inv := fun _ => rfl
      right_inv := fun _ => rfl }

structure SellV2Params where
  amount : U64
  minSolOutput : U64
deriving DecidableEq

def SellV2Params.arguments : Arguments SellV2Params :=
  .fixed ((u64.pair u64).equiv
    { toFun := fun (a, b) => ⟨a, b⟩
      invFun := fun ⟨a, b⟩ => (a, b)
      left_inv := fun _ => rfl
      right_inv := fun _ => rfl })

structure CreateParams where
  name : CountedString
  symbol : CountedString
  uri : CountedString
  creator : Pubkey
deriving DecidableEq

def CreateParams.arguments (utf8Error : Bytes → String) :
    Arguments CreateParams :=
  .fixed (((string utf8Error).pair <| (string utf8Error).pair <|
      (string utf8Error).pair pubkey).equiv
    { toFun := fun (a, b, c, d) => ⟨a, b, c, d⟩
      invFun := fun ⟨a, b, c, d⟩ => (a, b, c, d)
      left_inv := fun _ => rfl
      right_inv := fun _ => rfl })

structure CreateV2Params where
  name : CountedString
  symbol : CountedString
  uri : CountedString
  creator : Pubkey
  isMayhemMode : Bool
  isCashbackEnabled : OptionBool
deriving DecidableEq

def CreateV2Params.arguments (utf8Error : Bytes → String) :
    Arguments CreateV2Params :=
  .trailing
    ((string utf8Error).pair <| (string utf8Error).pair <|
      (string utf8Error).pair <| pubkey.pair bool)
    { toFun := fun ⟨(a, b, c, d, e), f⟩ => ⟨a, b, c, d, e, f⟩
      invFun := fun ⟨a, b, c, d, e, f⟩ => ((a, b, c, d, e), f)
      left_inv := fun _ => rfl
      right_inv := fun _ => rfl }

structure MigrateParams where
deriving DecidableEq

def MigrateParams.arguments : Arguments MigrateParams :=
  .fixed (.only ⟨⟩ fun _ => rfl)

structure MigrateV2Params where
deriving DecidableEq

def MigrateV2Params.arguments : Arguments MigrateV2Params :=
  .fixed (.only ⟨⟩ fun _ => rfl)

structure CollectCreatorFeeParams where
deriving DecidableEq

def CollectCreatorFeeParams.arguments : Arguments CollectCreatorFeeParams :=
  .fixed (.only ⟨⟩ fun _ => rfl)

structure CollectCreatorFeeV2Params where
deriving DecidableEq

def CollectCreatorFeeV2Params.arguments : Arguments CollectCreatorFeeV2Params :=
  .fixed (.only ⟨⟩ fun _ => rfl)

structure DistributeCreatorFeesParams where
deriving DecidableEq

def DistributeCreatorFeesParams.arguments :
    Arguments DistributeCreatorFeesParams :=
  .fixed (.only ⟨⟩ fun _ => rfl)

structure DistributeCreatorFeesV2Params where
  initializeAta : Bool
deriving DecidableEq

def DistributeCreatorFeesV2Params.arguments :
    Arguments DistributeCreatorFeesV2Params :=
  .fixed ((bool).equiv
    { toFun := fun a => ⟨a⟩
      invFun := fun ⟨a⟩ => (a)
      left_inv := fun _ => rfl
      right_inv := fun _ => rfl })

/-- A derived arguments struct that writes a variant's discriminator. -/
def derivedParams {Params : Type} (name : String) (variant : PumpfunVariant)
    (arguments : Arguments Params) : InstructionParams :=
  .derived ("solana_protocols::protocols::pumpfun::instructions::" ++ name)
    (some (instructionDiscriminator variant).toList) arguments

/-- The arguments type of each variant. -/
def instructionParams (utf8Error : Bytes → String) :
    PumpfunVariant → InstructionParams
  | .buy =>
      derivedParams "buy::BuyParams" .buy
        BuyParams.arguments
  | .buyV2 =>
      derivedParams "buy_v2::BuyV2Params" .buyV2
        BuyV2Params.arguments
  | .buyExactSolIn =>
      derivedParams "buy_exact_sol_in::BuyExactSolInParams" .buyExactSolIn
        BuyExactSolInParams.arguments
  | .buyExactQuoteInV2 =>
      derivedParams "buy_exact_quote_in_v2::BuyExactQuoteInV2Params"
        .buyExactQuoteInV2 BuyExactQuoteInV2Params.arguments
  | .sell =>
      derivedParams "sell::SellParams" .sell
        SellParams.arguments
  | .sellV2 =>
      derivedParams "sell_v2::SellV2Params" .sellV2
        SellV2Params.arguments
  | .create =>
      derivedParams "create::CreateParams" .create
        (CreateParams.arguments utf8Error)
  | .createV2 =>
      derivedParams "create_v2::CreateV2Params" .createV2
        (CreateV2Params.arguments utf8Error)
  | .migrate =>
      derivedParams "migrate::MigrateParams" .migrate
        MigrateParams.arguments
  | .migrateV2 =>
      derivedParams "migrate_v2::MigrateV2Params" .migrateV2
        MigrateV2Params.arguments
  | .collectCreatorFee =>
      derivedParams "collect_creator_fee::CollectCreatorFeeParams"
        .collectCreatorFee CollectCreatorFeeParams.arguments
  | .collectCreatorFeeV2 =>
      derivedParams "collect_creator_fee_v2::CollectCreatorFeeV2Params"
        .collectCreatorFeeV2 CollectCreatorFeeV2Params.arguments
  | .distributeCreatorFees =>
      derivedParams "distribute_creator_fees::DistributeCreatorFeesParams"
        .distributeCreatorFees DistributeCreatorFeesParams.arguments
  | .distributeCreatorFeesV2 =>
      derivedParams "distribute_creator_fees_v2::DistributeCreatorFeesV2Params"
        .distributeCreatorFeesV2 DistributeCreatorFeesV2Params.arguments

def pumpfunInstruction (utf8Error : Bytes → String) :
    InstructionEnum PumpfunVariant where
  discSize := 8
  discSize_valid := by decide
  discriminator := instructionDiscriminator
  params := instructionParams utf8Error
  variants := [.buy, .buyV2, .buyExactSolIn, .buyExactQuoteInV2, .sell, .sellV2,
    .create, .createV2, .migrate, .migrateV2, .collectCreatorFee,
    .collectCreatorFeeV2, .distributeCreatorFees, .distributeCreatorFeesV2]
  mem_variants variant := by cases variant <;> decide

theorem instructionDiscriminator_injective :
    Function.Injective instructionDiscriminator := by
  intro first second same
  cases first <;> cases second <;>
    first
    | rfl
    | exact absurd same (by decide)

/-- Pumpfun instructions survive the round trip but for trailers in another
form than their bytes have, and data is written as it was read. -/
theorem roundTrips_iff (utf8Error : Bytes → String)
    (instruction : (pumpfunInstruction utf8Error).Instruction) :
    instruction.RoundTrips ↔ instruction.Canonical := by
  rw [instruction.roundTrips_iff instructionDiscriminator_injective]
  obtain ⟨variant, params⟩ := instruction
  cases variant <;> exact and_iff_right rfl

theorem reencodes (utf8Error : Bytes → String) (data : Bytes) :
    (pumpfunInstruction utf8Error).Reencodes data := by
  rw [InstructionEnum.reencodes_iff instructionDiscriminator_injective]
  rintro ⟨⟨variant, params⟩, unwritten, -⟩
  cases variant <;> exact unwritten rfl

end Pumpfun

end SolanaProtocols
