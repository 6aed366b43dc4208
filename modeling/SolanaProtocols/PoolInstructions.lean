import SolanaProtocols.InstructionCodec
import SolanaProtocols.PoolLayouts
import SolanaProtocols.SwapRecord

/-!
# Instructions of the pool programs

The instruction enums of the Raydium programs and of the bonding curves of
Meteora.  Every arguments struct has fields of fixed size and writes the
discriminator that its enum looks for.
-/

namespace SolanaProtocols

namespace Protocols.InstructionEnum

theorem eight_valid : 8 ∈ [1, 2, 4, 8] := by decide

/-- What is written is read back, and what is read was written so. -/
structure Exact {Variant : Type} (enum : InstructionEnum Variant) : Prop where
  distinct : Function.Injective enum.discriminator
  writes (instruction : enum.Instruction) : instruction.WritesDiscriminator
  canonical (instruction : enum.Instruction) : instruction.Canonical

theorem Exact.tryFromSlice_eq_ok_iff {Variant : Type} {enum : InstructionEnum Variant}
    (exact : enum.Exact) {data : Bytes} {instruction : enum.Instruction} :
    enum.tryFromSlice data = .ok instruction ↔ data = instruction.data := by
  rw [InstructionEnum.tryFromSlice_eq_ok_iff exact.distinct, instruction.data_eq,
    exact.writes instruction, and_iff_left (exact.canonical instruction)]

end Protocols.InstructionEnum

open Protocols PrefixCodec PoolLayouts
open Pumpfun (U64 u64 u128)

namespace RaydiumV4

/-- The variants of `RaydiumV4Instruction`. -/
inductive RaydiumV4Variant
  | swapBaseIn
  | swapBaseOut
  | initialize2
  | deposit
  | withdraw
deriving DecidableEq, Repr

/-- Instruction indices of one byte. -/
def instructionDiscriminator : RaydiumV4Variant → Vector UInt8 1
  | .swapBaseIn => #v[9]
  | .swapBaseOut => #v[11]
  | .initialize2 => #v[1]
  | .deposit => #v[3]
  | .withdraw => #v[4]

structure SwapBaseInParams where
  amountIn : U64
  minimumAmountOut : U64
deriving DecidableEq

def SwapBaseInParams.arguments : Arguments SwapBaseInParams :=
  .fixed ((u64.pair u64).equiv
    { toFun := fun (a, b) => ⟨a, b⟩
      invFun := fun ⟨a, b⟩ => (a, b)
      left_inv := fun _ => rfl
      right_inv := fun _ => rfl })

structure SwapBaseOutParams where
  maxAmountIn : U64
  amountOut : U64
deriving DecidableEq

def SwapBaseOutParams.arguments : Arguments SwapBaseOutParams :=
  .fixed ((u64.pair u64).equiv
    { toFun := fun (a, b) => ⟨a, b⟩
      invFun := fun ⟨a, b⟩ => (a, b)
      left_inv := fun _ => rfl
      right_inv := fun _ => rfl })

structure Initialize2Params where
  nonce : UInt8
  openTime : U64
  initPcAmount : U64
  initCoinAmount : U64
deriving DecidableEq

def Initialize2Params.arguments : Arguments Initialize2Params :=
  .fixed ((byte.pair (u64.pair (u64.pair u64))).equiv
    { toFun := fun (a, b, c, d) => ⟨a, b, c, d⟩
      invFun := fun ⟨a, b, c, d⟩ => (a, b, c, d)
      left_inv := fun _ => rfl
      right_inv := fun _ => rfl })

structure DepositParams where
  maxCoinAmount : U64
  maxPcAmount : U64
  baseSide : U64
deriving DecidableEq

def DepositParams.arguments : Arguments DepositParams :=
  .fixed ((u64.pair (u64.pair u64)).equiv
    { toFun := fun (a, b, c) => ⟨a, b, c⟩
      invFun := fun ⟨a, b, c⟩ => (a, b, c)
      left_inv := fun _ => rfl
      right_inv := fun _ => rfl })

structure WithdrawParams where
  amount : U64
deriving DecidableEq

def WithdrawParams.arguments : Arguments WithdrawParams :=
  .fixed (u64.equiv
    { toFun := fun a => ⟨a⟩
      invFun := fun ⟨a⟩ => a
      left_inv := fun _ => rfl
      right_inv := fun _ => rfl })

/-- A derived arguments struct that writes a variant's discriminator. -/
def derivedParams {Params : Type} (name : String) (variant : RaydiumV4Variant)
    (arguments : Arguments Params) : InstructionParams :=
  .derived ("solana_protocols::protocols::raydium_v4::instructions::" ++ name)
    (some (instructionDiscriminator variant).toList) arguments

/-- The arguments type of each variant. -/
def instructionParams : RaydiumV4Variant → InstructionParams
  | .swapBaseIn =>
      derivedParams "swap::SwapBaseInParams" .swapBaseIn
        SwapBaseInParams.arguments
  | .swapBaseOut =>
      derivedParams "swap::SwapBaseOutParams" .swapBaseOut
        SwapBaseOutParams.arguments
  | .initialize2 =>
      derivedParams "initialize2::Initialize2Params" .initialize2
        Initialize2Params.arguments
  | .deposit =>
      derivedParams "deposit::DepositParams" .deposit
        DepositParams.arguments
  | .withdraw =>
      derivedParams "withdraw::WithdrawParams" .withdraw
        WithdrawParams.arguments

def raydiumV4Instruction : InstructionEnum RaydiumV4Variant where
  discSize := 1
  discSize_valid := by decide
  discriminator := instructionDiscriminator
  params := instructionParams
  variants := [.swapBaseIn, .swapBaseOut, .initialize2, .deposit, .withdraw]
  mem_variants variant := by cases variant <;> decide

theorem instructionDiscriminator_injective :
    Function.Injective instructionDiscriminator := by
  intro first second same
  cases first <;> cases second <;>
    first
    | rfl
    | exact absurd same (by decide)

theorem raydiumV4Instruction_exact : raydiumV4Instruction.Exact where
  distinct := instructionDiscriminator_injective
  writes := by
    rintro ⟨variant, params⟩
    cases variant <;> rfl
  canonical := by
    rintro ⟨variant, params⟩
    cases variant <;> exact trivial

end RaydiumV4

namespace RaydiumClmm

/-- The variants of `RaydiumClmmInstruction`. -/
inductive RaydiumClmmVariant
  | swap
  | swapV2
deriving DecidableEq, Repr

/-- The start of `sha256("global:<name>")` of each variant. -/
def instructionDiscriminator : RaydiumClmmVariant → Discriminator
  | .swap => #v[248, 198, 158, 145, 225, 117, 135, 200]
  | .swapV2 => #v[43, 4, 237, 11, 26, 201, 30, 98]

structure SwapParams where
  amount : U64
  otherAmountThreshold : U64
  sqrtPriceLimitX64 : U128
  isBaseInput : Bool
deriving DecidableEq

def SwapParams.arguments : Arguments SwapParams :=
  .fixed ((u64.pair (u64.pair (u128.pair bool))).equiv
    { toFun := fun (a, b, c, d) => ⟨a, b, c, d⟩
      invFun := fun ⟨a, b, c, d⟩ => (a, b, c, d)
      left_inv := fun _ => rfl
      right_inv := fun _ => rfl })

structure SwapV2Params where
  amount : U64
  otherAmountThreshold : U64
  sqrtPriceLimitX64 : U128
  isBaseInput : Bool
deriving DecidableEq

def SwapV2Params.arguments : Arguments SwapV2Params :=
  .fixed ((u64.pair (u64.pair (u128.pair bool))).equiv
    { toFun := fun (a, b, c, d) => ⟨a, b, c, d⟩
      invFun := fun ⟨a, b, c, d⟩ => (a, b, c, d)
      left_inv := fun _ => rfl
      right_inv := fun _ => rfl })

/-- A derived arguments struct that writes a variant's discriminator. -/
def derivedParams {Params : Type} (name : String) (variant : RaydiumClmmVariant)
    (arguments : Arguments Params) : InstructionParams :=
  .derived ("solana_protocols::protocols::raydium_clmm::instructions::" ++ name)
    (some (instructionDiscriminator variant).toList) arguments

/-- The arguments type of each variant. -/
def instructionParams : RaydiumClmmVariant → InstructionParams
  | .swap =>
      derivedParams "swap::SwapParams" .swap
        SwapParams.arguments
  | .swapV2 =>
      derivedParams "swap_v2::SwapV2Params" .swapV2
        SwapV2Params.arguments

def raydiumClmmInstruction : InstructionEnum RaydiumClmmVariant where
  discSize := 8
  discSize_valid := InstructionEnum.eight_valid
  discriminator := instructionDiscriminator
  params := instructionParams
  variants := [.swap, .swapV2]
  mem_variants variant := by cases variant <;> decide

theorem instructionDiscriminator_injective :
    Function.Injective instructionDiscriminator := by
  intro first second same
  cases first <;> cases second <;>
    first
    | rfl
    | exact absurd same (by decide)

theorem raydiumClmmInstruction_exact : raydiumClmmInstruction.Exact where
  distinct := instructionDiscriminator_injective
  writes := by
    rintro ⟨variant, params⟩
    cases variant <;> rfl
  canonical := by
    rintro ⟨variant, params⟩
    cases variant <;> exact trivial

end RaydiumClmm

namespace RaydiumCpmm

/-- The variants of `RaydiumCpmmInstruction`. -/
inductive RaydiumCpmmVariant
  | swapBaseInput
  | swapBaseOutput
deriving DecidableEq, Repr

/-- The start of `sha256("global:<name>")` of each variant. -/
def instructionDiscriminator : RaydiumCpmmVariant → Discriminator
  | .swapBaseInput => #v[143, 190, 90, 218, 196, 30, 51, 222]
  | .swapBaseOutput => #v[55, 217, 98, 86, 163, 74, 180, 173]

structure SwapBaseInputParams where
  amountIn : U64
  minimumAmountOut : U64
deriving DecidableEq

def SwapBaseInputParams.arguments : Arguments SwapBaseInputParams :=
  .fixed ((u64.pair u64).equiv
    { toFun := fun (a, b) => ⟨a, b⟩
      invFun := fun ⟨a, b⟩ => (a, b)
      left_inv := fun _ => rfl
      right_inv := fun _ => rfl })

structure SwapBaseOutputParams where
  maximumAmountIn : U64
  amountOut : U64
deriving DecidableEq

def SwapBaseOutputParams.arguments : Arguments SwapBaseOutputParams :=
  .fixed ((u64.pair u64).equiv
    { toFun := fun (a, b) => ⟨a, b⟩
      invFun := fun ⟨a, b⟩ => (a, b)
      left_inv := fun _ => rfl
      right_inv := fun _ => rfl })

/-- A derived arguments struct that writes a variant's discriminator. -/
def derivedParams {Params : Type} (name : String) (variant : RaydiumCpmmVariant)
    (arguments : Arguments Params) : InstructionParams :=
  .derived ("solana_protocols::protocols::raydium_cpmm::instructions::" ++ name)
    (some (instructionDiscriminator variant).toList) arguments

/-- The arguments type of each variant. -/
def instructionParams : RaydiumCpmmVariant → InstructionParams
  | .swapBaseInput =>
      derivedParams "swap::SwapBaseInputParams" .swapBaseInput
        SwapBaseInputParams.arguments
  | .swapBaseOutput =>
      derivedParams "swap::SwapBaseOutputParams" .swapBaseOutput
        SwapBaseOutputParams.arguments

def raydiumCpmmInstruction : InstructionEnum RaydiumCpmmVariant where
  discSize := 8
  discSize_valid := InstructionEnum.eight_valid
  discriminator := instructionDiscriminator
  params := instructionParams
  variants := [.swapBaseInput, .swapBaseOutput]
  mem_variants variant := by cases variant <;> decide

theorem instructionDiscriminator_injective :
    Function.Injective instructionDiscriminator := by
  intro first second same
  cases first <;> cases second <;>
    first
    | rfl
    | exact absurd same (by decide)

theorem raydiumCpmmInstruction_exact : raydiumCpmmInstruction.Exact where
  distinct := instructionDiscriminator_injective
  writes := by
    rintro ⟨variant, params⟩
    cases variant <;> rfl
  canonical := by
    rintro ⟨variant, params⟩
    cases variant <;> exact trivial

end RaydiumCpmm

namespace RaydiumLaunchpad

/-- The variants of `RaydiumLaunchpadInstruction`. -/
inductive RaydiumLaunchpadVariant
  | buyExactIn
  | buyExactOut
  | sellExactIn
  | sellExactOut
deriving DecidableEq, Repr

/-- The start of `sha256("global:<name>")` of each variant. -/
def instructionDiscriminator : RaydiumLaunchpadVariant → Discriminator
  | .buyExactIn => #v[250, 234, 13, 123, 213, 156, 19, 236]
  | .buyExactOut => #v[24, 211, 116, 40, 105, 3, 153, 56]
  | .sellExactIn => #v[149, 39, 222, 155, 211, 124, 152, 26]
  | .sellExactOut => #v[95, 200, 71, 34, 8, 9, 11, 166]

structure BuyExactInParams where
  amountIn : U64
  minimumAmountOut : U64
  shareFeeRate : U64
deriving DecidableEq

def BuyExactInParams.arguments : Arguments BuyExactInParams :=
  .fixed ((u64.pair (u64.pair u64)).equiv
    { toFun := fun (a, b, c) => ⟨a, b, c⟩
      invFun := fun ⟨a, b, c⟩ => (a, b, c)
      left_inv := fun _ => rfl
      right_inv := fun _ => rfl })

structure BuyExactOutParams where
  amountOut : U64
  maximumAmountIn : U64
  shareFeeRate : U64
deriving DecidableEq

def BuyExactOutParams.arguments : Arguments BuyExactOutParams :=
  .fixed ((u64.pair (u64.pair u64)).equiv
    { toFun := fun (a, b, c) => ⟨a, b, c⟩
      invFun := fun ⟨a, b, c⟩ => (a, b, c)
      left_inv := fun _ => rfl
      right_inv := fun _ => rfl })

structure SellExactInParams where
  amountIn : U64
  minimumAmountOut : U64
  shareFeeRate : U64
deriving DecidableEq

def SellExactInParams.arguments : Arguments SellExactInParams :=
  .fixed ((u64.pair (u64.pair u64)).equiv
    { toFun := fun (a, b, c) => ⟨a, b, c⟩
      invFun := fun ⟨a, b, c⟩ => (a, b, c)
      left_inv := fun _ => rfl
      right_inv := fun _ => rfl })

structure SellExactOutParams where
  amountOut : U64
  maximumAmountIn : U64
  shareFeeRate : U64
deriving DecidableEq

def SellExactOutParams.arguments : Arguments SellExactOutParams :=
  .fixed ((u64.pair (u64.pair u64)).equiv
    { toFun := fun (a, b, c) => ⟨a, b, c⟩
      invFun := fun ⟨a, b, c⟩ => (a, b, c)
      left_inv := fun _ => rfl
      right_inv := fun _ => rfl })

/-- A derived arguments struct that writes a variant's discriminator. -/
def derivedParams {Params : Type} (name : String) (variant : RaydiumLaunchpadVariant)
    (arguments : Arguments Params) : InstructionParams :=
  .derived ("solana_protocols::protocols::raydium_launchpad::instructions::" ++ name)
    (some (instructionDiscriminator variant).toList) arguments

/-- The arguments type of each variant. -/
def instructionParams : RaydiumLaunchpadVariant → InstructionParams
  | .buyExactIn =>
      derivedParams "swap::BuyExactInParams" .buyExactIn
        BuyExactInParams.arguments
  | .buyExactOut =>
      derivedParams "swap::BuyExactOutParams" .buyExactOut
        BuyExactOutParams.arguments
  | .sellExactIn =>
      derivedParams "swap::SellExactInParams" .sellExactIn
        SellExactInParams.arguments
  | .sellExactOut =>
      derivedParams "swap::SellExactOutParams" .sellExactOut
        SellExactOutParams.arguments

def raydiumLaunchpadInstruction : InstructionEnum RaydiumLaunchpadVariant where
  discSize := 8
  discSize_valid := InstructionEnum.eight_valid
  discriminator := instructionDiscriminator
  params := instructionParams
  variants := [.buyExactIn, .buyExactOut, .sellExactIn, .sellExactOut]
  mem_variants variant := by cases variant <;> decide

theorem instructionDiscriminator_injective :
    Function.Injective instructionDiscriminator := by
  intro first second same
  cases first <;> cases second <;>
    first
    | rfl
    | exact absurd same (by decide)

theorem raydiumLaunchpadInstruction_exact : raydiumLaunchpadInstruction.Exact where
  distinct := instructionDiscriminator_injective
  writes := by
    rintro ⟨variant, params⟩
    cases variant <;> rfl
  canonical := by
    rintro ⟨variant, params⟩
    cases variant <;> exact trivial

end RaydiumLaunchpad

namespace MeteoraDbc

/-- The variants of `MeteoraDbcInstruction`. -/
inductive MeteoraDbcVariant
  | swap
  | swap2
deriving DecidableEq, Repr

/-- The start of `sha256("global:<name>")` of each variant. -/
def instructionDiscriminator : MeteoraDbcVariant → Discriminator
  | .swap => #v[248, 198, 158, 145, 225, 117, 135, 200]
  | .swap2 => #v[65, 75, 63, 76, 235, 91, 91, 136]

structure SwapParams where
  amountIn : U64
  minimumAmountOut : U64
deriving DecidableEq

def SwapParams.arguments : Arguments SwapParams :=
  .fixed ((u64.pair u64).equiv
    { toFun := fun (a, b) => ⟨a, b⟩
      invFun := fun ⟨a, b⟩ => (a, b)
      left_inv := fun _ => rfl
      right_inv := fun _ => rfl })

structure Swap2Params where
  amount0 : U64
  amount1 : U64
  swapMode : UInt8
deriving DecidableEq

def Swap2Params.arguments : Arguments Swap2Params :=
  .fixed ((u64.pair (u64.pair byte)).equiv
    { toFun := fun (a, b, c) => ⟨a, b, c⟩
      invFun := fun ⟨a, b, c⟩ => (a, b, c)
      left_inv := fun _ => rfl
      right_inv := fun _ => rfl })

/-- A derived arguments struct that writes a variant's discriminator. -/
def derivedParams {Params : Type} (name : String) (variant : MeteoraDbcVariant)
    (arguments : Arguments Params) : InstructionParams :=
  .derived ("solana_protocols::protocols::meteora_dbc::instructions::" ++ name)
    (some (instructionDiscriminator variant).toList) arguments

/-- The arguments type of each variant. -/
def instructionParams : MeteoraDbcVariant → InstructionParams
  | .swap =>
      derivedParams "swap::SwapParams" .swap
        SwapParams.arguments
  | .swap2 =>
      derivedParams "swap::Swap2Params" .swap2
        Swap2Params.arguments

def meteoraDbcInstruction : InstructionEnum MeteoraDbcVariant where
  discSize := 8
  discSize_valid := InstructionEnum.eight_valid
  discriminator := instructionDiscriminator
  params := instructionParams
  variants := [.swap, .swap2]
  mem_variants variant := by cases variant <;> decide

theorem instructionDiscriminator_injective :
    Function.Injective instructionDiscriminator := by
  intro first second same
  cases first <;> cases second <;>
    first
    | rfl
    | exact absurd same (by decide)

theorem meteoraDbcInstruction_exact : meteoraDbcInstruction.Exact where
  distinct := instructionDiscriminator_injective
  writes := by
    rintro ⟨variant, params⟩
    cases variant <;> rfl
  canonical := by
    rintro ⟨variant, params⟩
    cases variant <;> exact trivial

end MeteoraDbc

end SolanaProtocols
