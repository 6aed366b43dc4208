import SolanaProtocols.PumpInstructions

/-!
# Recorded swaps

What extraction records for a swap, the programs it may belong to, and the
catalogue of the swap instructions of the pump programs, which is looked up by
program and discriminator.
-/

namespace SolanaProtocols

/-- `pAMMBay6oceH9fJKBRHGP5D4bD4sWpmSwMn52FMfXEA`. -/
def PumpSwap.programId : Pubkey :=
  0x63a8e9180c09f8d4b471d556318d29f4654065bb1808259476c65e82fcde140c

/-- `LBUZKhRxPF3XUpBCjp4YzTKgLccjZhTSDM9YuVaPwxo`. -/
def MeteoraDlmm.programId : Pubkey :=
  0xbcb020853bba085792b073621c0c5915ce0c64e2e9cc32c926e884bc2fe1e904

/-- `cpamdpZCGKUy5JxQXB4dcpGPiikHawvSWAd6mEn1sGG`. -/
def MeteoraDammV2.programId : Pubkey :=
  0xed5af9383a06ed6c20af6af79f3852978edb706ab6d4872b9c157a6535212d09

/-- `So11111111111111111111111111111111111111112`. -/
def wsol : Pubkey :=
  0x100000000f0a098553beb1adc39c4da35c01846637f68fb8481abfe57889b06

namespace Protocol

/-- The on-chain program of a protocol. -/
def programId : Protocol → Pubkey
  | pumpfun => Pumpfun.programId
  | pumpSwap => PumpSwap.programId
  -- `675kPX9MHTjS2zt1qfr1NYHuzeLXfQM9H24wFSUt1Mp8`
  | raydiumV4 =>
      0xcd8ab6f87decff0ca9a221f15c97b9a14c52a316ed9077203fc30236c449d94b
  -- `CAMMCzo5YL8w4VFF8KVHrK22GGUsp5VTaW7grrKgrWqK`
  | raydiumClmm =>
      0x1e40b09cd307fd5722b792c1c13f1359b12ce32fba14b790b55dcf049ecad5a5
  -- `CPMMoo8L3F4NbTegBCKVNunggL7H1ZpdTHKxQB5qKP1C`
  | raydiumCpmm =>
      0x73ec200c69432e94930c92eba8e6acb5955bfd93aa5025845259294f8b5a2aa9
  -- `LanMV9sAd7wArD4vJFi2qDdfnVhFxYSUg6eADduJ3uj`
  | raydiumLaunchpad =>
      0x22c951ac210fcf71f15621c6c85a6f8aaf898f4f2cb591efe126ca4d953b0405
  | meteoraDlmm => MeteoraDlmm.programId
  -- `dbcij3LWUppWqq96dh6gJWwBifmcGfLSB5D4DuSMaqN`
  | meteoraDbc =>
      0x49d1cab462c6e3deb5c91c60da03190d33a03a97c3b1ccd6b7b1f724a50c6009
  | meteoraDammV2 => MeteoraDammV2.programId

def all : List Protocol :=
  [pumpfun, pumpSwap, raydiumV4, raydiumClmm, raydiumCpmm, raydiumLaunchpad,
    meteoraDlmm, meteoraDbc, meteoraDammV2]

def fromProgramId (programId : Pubkey) : Option Protocol :=
  all.find? fun protocol => protocol.programId == programId

theorem mem_all (protocol : Protocol) : protocol ∈ all := by
  cases protocol <;> decide

theorem programId_injective : Function.Injective programId := by
  intro first second same
  cases first <;> cases second <;>
    first
    | rfl
    | exact absurd same (by decide)

/-- A program id leads back to the protocol that has it. -/
@[simp] theorem fromProgramId_programId (protocol : Protocol) :
    fromProgramId protocol.programId = some protocol := by
  cases found : fromProgramId protocol.programId with
  | none =>
      have missed := List.find?_eq_none.mp found protocol (mem_all protocol)
      simp at missed
  | some other =>
      have same := List.find?_some found
      rw [programId_injective (beq_iff_eq.mp same)]

end Protocol

/-- The first eight bytes, if there are as many. -/
def firstChunk (data : Bytes) : Option Discriminator :=
  if enough : 8 ≤ data.length then
    some ⟨(data.take 8).toArray, by simp [enough]⟩
  else none

theorem firstChunk_eq_some_iff {data : Bytes} {head : Discriminator} :
    firstChunk data = some head ↔ head.toList <+: data := by
  rw [List.prefix_iff_eq_take, head.length_toList, firstChunk]
  split
  next enough =>
    rw [Option.some_inj, ← Vector.toList_inj]
    simp [eq_comm]
  next short =>
    refine iff_of_false (by simp) fun front => short ?_
    have length := congrArg List.length front
    rw [head.length_toList, List.length_take] at length
    omega

namespace Chain

open Pumpfun (U64)
open Protocols (OptionBool)

/-- A specific swap instruction on a specific program. -/
inductive SwapInstruction
  | pumpfunBuy
  | pumpfunBuyV2
  | pumpfunBuyExactSolIn
  | pumpfunBuyExactQuoteInV2
  | pumpfunSell
  | pumpfunSellV2
  | pumpSwapBuy
  | pumpSwapBuyExactQuoteIn
  | pumpSwapSell
  | unknown (discriminator : Discriminator)
deriving DecidableEq, Repr

namespace SwapInstruction

/-- Every catalogued instruction. -/
def all : List SwapInstruction :=
  [pumpfunBuy, pumpfunBuyV2, pumpfunBuyExactSolIn, pumpfunBuyExactQuoteInV2,
    pumpfunSell, pumpfunSellV2, pumpSwapBuy, pumpSwapBuyExactQuoteIn,
    pumpSwapSell]

/-- The discriminator, which the instruction's name determines. -/
def discriminator : SwapInstruction → Option Discriminator
  | pumpfunBuy => some (Pumpfun.instructionDiscriminator .buy)
  | pumpfunBuyV2 => some (Pumpfun.instructionDiscriminator .buyV2)
  | pumpfunBuyExactSolIn =>
      some (Pumpfun.instructionDiscriminator .buyExactSolIn)
  | pumpfunBuyExactQuoteInV2 =>
      some (Pumpfun.instructionDiscriminator .buyExactQuoteInV2)
  | pumpfunSell => some (Pumpfun.instructionDiscriminator .sell)
  | pumpfunSellV2 => some (Pumpfun.instructionDiscriminator .sellV2)
  | pumpSwapBuy => some (PumpSwap.instructionDiscriminator .buy)
  | pumpSwapBuyExactQuoteIn =>
      some (PumpSwap.instructionDiscriminator .buyExactQuoteIn)
  | pumpSwapSell => some (PumpSwap.instructionDiscriminator .sell)
  | unknown _ => none

/-- The program this instruction belongs to. -/
def protocol : SwapInstruction → Option Protocol
  | pumpfunBuy | pumpfunBuyV2 | pumpfunBuyExactSolIn
  | pumpfunBuyExactQuoteInV2 | pumpfunSell | pumpfunSellV2 => some .pumpfun
  | pumpSwapBuy | pumpSwapBuyExactQuoteIn | pumpSwapSell => some .pumpSwap
  | unknown _ => none

/-- Resolve from the owning program and the first eight bytes. -/
def fromDiscriminator (protocol : Protocol) (data : Bytes) : SwapInstruction :=
  match firstChunk data with
  | none => unknown (Vector.replicate 8 0)
  | some head =>
      (all.find? fun candidate => candidate.protocol == some protocol &&
        candidate.discriminator == some head).getD (unknown head)

/-- The swap instruction of a program that the data names. -/
def resolve (program : Pubkey) (data : Bytes) : SwapInstruction :=
  match Protocol.fromProgramId program with
  | some protocol => fromDiscriminator protocol data
  | none => ((firstChunk data).map unknown).getD (unknown (Vector.replicate 8 0))

/-- Every catalogued instruction is found again by its discriminator. -/
theorem fromDiscriminator_discriminator :
    ∀ instruction ∈ all, ∃ protocol head,
      instruction.protocol = some protocol ∧
        instruction.discriminator = some head ∧
          fromDiscriminator protocol head.toList = instruction := by
  intro instruction catalogued
  cases instruction with
  | unknown head => simp [all] at catalogued
  | _ => exact ⟨_, _, rfl, rfl, by decide⟩

end SwapInstruction

/-- The state of a pool's curve. -/
inductive CurveState
  | reserves (inSide outSide : U64)
  | bin (id : BitVec 32)
  | sqrtPriceX64 (price : BitVec 128)
deriving DecidableEq, Repr

/-- A swap, whatever the protocol. -/
structure Swap where
  protocol : Protocol
  instruction : SwapInstruction
  trackVolume : OptionBool
  completedCurve : Bool
  pool : Pubkey
  trader : Pubkey
  tokenIn : Pubkey
  amountIn : U64
  tokenOut : Pubkey
  amountOut : U64
  feeAmount : U64
  feeMint : Pubkey
  stateBefore : Option CurveState
  stateAfter : Option CurveState
deriving DecidableEq

/-- `saturating_add` -/
def saturatingAdd (x y : U64) : U64 :=
  if x.toNat + y.toNat < 2 ^ 64 then x + y else BitVec.allOnes 64

end Chain

end SolanaProtocols
