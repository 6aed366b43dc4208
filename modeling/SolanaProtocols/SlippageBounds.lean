import SolanaProtocols.MachineArithmetic
import SolanaProtocols.PumpInstructions
import SolanaProtocols.SwapMath

/-!
# Slippage bounds

A tolerance in basis points turns a quoted amount into a bound: the least output
or the greatest input that a trade accepts.  The two formulas are written out in
several places.  They round down and agree everywhere, but the tolerance is
subtracted from the whole without a check, and the bound of an input is cut to a
word.
-/

namespace SolanaProtocols

open MachineArithmetic Swap

section Formulas

/-- `(amount * (10000 - slippageBps) / 10000) as u64`. -/
def minWithin (build : Build) (amount slippageBps : Nat) : Option Nat := do
  let left ← build.sub 128 10000 slippageBps
  let product ← build.mul 128 amount left
  build.cast 64 (product / 10000)

/-- `(amount * (10000 + slippageBps) / 10000) as u64`. -/
def maxWithin (build : Build) (amount slippageBps : Nat) : Option Nat := do
  let whole ← build.add 128 10000 slippageBps
  let product ← build.mul 128 amount whole
  build.cast 64 (product / 10000)

end Formulas

/-- Slippage tolerance. -/
structure Slippage where
  bps : UInt16
deriving DecidableEq, Repr

/-- The minimum amount to receive. -/
def Slippage.applyMin (build : Build) (self : Slippage) (amount : UInt64) :
    Option UInt64 :=
  (minWithin build amount.toNat self.bps.toNat).map UInt64.ofNat

/-- The maximum amount to pay. -/
def Slippage.applyMax (build : Build) (self : Slippage) (amount : UInt64) :
    Option UInt64 :=
  (maxWithin build amount.toNat self.bps.toNat).map UInt64.ofNat

def Swap.SwapOutput.minOutput (build : Build) (self : SwapOutput)
    (slippageBps : UInt16) : Option UInt64 :=
  (minWithin build self.amountOut.toNat slippageBps.toNat).map UInt64.ofNat

def Swap.SwapOutput.maxInput (build : Build) (self : SwapOutput)
    (slippageBps : UInt16) : Option UInt64 :=
  (maxWithin build self.amountIn.toNat slippageBps.toNat).map UInt64.ofNat

def Pumpfun.BuyParams.fromSwapOutput (build : Build) (tokensOut solIn : UInt64)
    (slippageBps : UInt16) : Option Pumpfun.BuyParams := do
  let minTokens ← minWithin build tokensOut.toNat slippageBps.toNat
  let maxSol ← maxWithin build solIn.toNat slippageBps.toNat
  return { amount := .ofNat 64 minTokens
           maxSolCost := .ofNat 64 maxSol
           trackVolume := .none }

def Pumpfun.SellParams.fromSwapOutput (build : Build) (tokensIn solOut : UInt64)
    (slippageBps : UInt16) : Option Pumpfun.SellParams := do
  let minSol ← minWithin build solOut.toNat slippageBps.toNat
  return { amount := tokensIn.toBitVec
           minSolOutput := .ofNat 64 minSol
           trackVolume := .none }

def PumpSwap.BuyParams.fromSwapOutput (build : Build) (tokensOut solIn : UInt64)
    (slippageBps : UInt16) : Option PumpSwap.BuyParams := do
  let minTokens ← minWithin build tokensOut.toNat slippageBps.toNat
  let maxSol ← maxWithin build solIn.toNat slippageBps.toNat
  return { baseAmountOut := .ofNat 64 minTokens
           maxQuoteAmountIn := .ofNat 64 maxSol
           trackVolume := .none }

def PumpSwap.SellParams.fromSwapOutput (build : Build) (tokensIn solOut : UInt64)
    (slippageBps : UInt16) : Option PumpSwap.SellParams := do
  let minSol ← minWithin build solOut.toNat slippageBps.toNat
  return { baseAmountIn := tokensIn.toBitVec
           minQuoteAmountOut := .ofNat 64 minSol
           trackVolume := .none }

section Exact

variable {build : Build} {amount slippageBps bound : Nat}

theorem minimum_le (amount slippageBps : Nat) :
    amount * (10000 - slippageBps) / 10000 ≤ amount := by
  refine Nat.div_le_of_le_mul ?_
  rw [Nat.mul_comm 10000]
  exact Nat.mul_le_mul_left amount (Nat.sub_le ..)

theorem le_maximum (amount slippageBps : Nat) :
    amount ≤ amount * (10000 + slippageBps) / 10000 := by
  rw [Nat.le_div_iff_mul_le (by decide)]
  exact Nat.mul_le_mul_left amount (Nat.le_add_right ..)

theorem maximum_product_lt (small : amount < 2 ^ 64) (tolerance : slippageBps < 2 ^ 16) :
    amount * (10000 + slippageBps) < 2 ^ 128 := by
  have less : amount * (10000 + slippageBps) ≤ 2 ^ 64 * (10000 + 2 ^ 16) :=
    Nat.mul_le_mul small.le (Nat.add_le_add_left tolerance.le 10000)
  omega

theorem minWithin_eq (small : amount < 2 ^ 64) (within : slippageBps ≤ 10000) :
    minWithin build amount slippageBps =
      some (amount * (10000 - slippageBps) / 10000) := by
  have product : amount * (10000 - slippageBps) ≤ amount * 10000 :=
    Nat.mul_le_mul_left amount (Nat.sub_le ..)
  rw [minWithin, bind_of_eq_some (sub_eq within (by decide)),
    bind_of_eq_some (mul_eq (by omega)),
    cast_eq ((minimum_le amount slippageBps).trans_lt small)]

theorem maxWithin_eq (small : amount < 2 ^ 64) (tolerance : slippageBps < 2 ^ 16)
    (fits : amount * (10000 + slippageBps) / 10000 < 2 ^ 64) :
    maxWithin build amount slippageBps =
      some (amount * (10000 + slippageBps) / 10000) := by
  rw [maxWithin, bind_of_eq_some (add_eq (by omega)),
    bind_of_eq_some (mul_eq (maximum_product_lt small tolerance)), cast_eq fits]

theorem le_of_minWithin (stops : build.operators = .panics)
    (computed : minWithin build amount slippageBps = some bound) :
    slippageBps ≤ 10000 := by
  by_contra beyond
  rw [minWithin, sub_eq_none stops (not_le.mp beyond)] at computed
  cases computed

/-- A build that stops at lossy casts has a maximum only if it fits. -/
theorem lt_of_maxWithin (stops : build.casts = .panics) (small : amount < 2 ^ 64)
    (tolerance : slippageBps < 2 ^ 16)
    (computed : maxWithin build amount slippageBps = some bound) :
    amount * (10000 + slippageBps) / 10000 < 2 ^ 64 := by
  rw [maxWithin, bind_of_eq_some (add_eq (by omega)),
    bind_of_eq_some (mul_eq (maximum_product_lt small tolerance)), Build.cast, stops,
    Overflow.settle] at computed
  split at computed
  next inRange => exact_mod_cast inRange.2
  next => cases computed

end Exact

section Brackets

/-- The least output within a tolerance: computed alike by every build and in every
place, at most the quote, and not raised by more tolerance. -/
structure BoundsOutput (amountOut : UInt64) (slippageBps : UInt16)
    (minimum : UInt64) : Prop where
  exact : minimum.toNat = amountOut.toNat * (10000 - slippageBps.toNat) / 10000
  slippage : ∀ build, (Slippage.mk slippageBps).applyMin build amountOut = some minimum
  output : ∀ build (output : SwapOutput), output.amountOut = amountOut →
    output.minOutput build slippageBps = some minimum
  pumpfunSell : ∀ build tokensIn,
    Pumpfun.SellParams.fromSwapOutput build tokensIn amountOut slippageBps =
      some ⟨tokensIn.toBitVec, minimum.toBitVec, .none⟩
  pumpSwapSell : ∀ build tokensIn,
    PumpSwap.SellParams.fromSwapOutput build tokensIn amountOut slippageBps =
      some ⟨tokensIn.toBitVec, minimum.toBitVec, .none⟩
  le_quote : minimum ≤ amountOut
  antitone : ∀ build, ∀ tighter ≤ slippageBps, ∃ higher,
    (Slippage.mk tighter).applyMin build amountOut = some higher ∧ minimum ≤ higher

/-- The greatest input within a tolerance: computed alike by every build and in
every place, at least the quote, and not lowered by more tolerance. -/
structure BoundsInput (amountIn : UInt64) (slippageBps : UInt16)
    (maximum : UInt64) : Prop where
  exact : maximum.toNat = amountIn.toNat * (10000 + slippageBps.toNat) / 10000
  slippage : ∀ build, (Slippage.mk slippageBps).applyMax build amountIn = some maximum
  output : ∀ build (output : SwapOutput), output.amountIn = amountIn →
    output.maxInput build slippageBps = some maximum
  quote_le : amountIn ≤ maximum
  monotone : ∀ build, ∀ tighter ≤ slippageBps, ∃ lower,
    (Slippage.mk tighter).applyMax build amountIn = some lower ∧ lower ≤ maximum

/-- The bounds of a quote, which a buy has both of. -/
structure BracketsQuote (amountIn amountOut : UInt64) (slippageBps : UInt16)
    (minimum maximum : UInt64) : Prop where
  least : BoundsOutput amountOut slippageBps minimum
  greatest : BoundsInput amountIn slippageBps maximum
  pumpfunBuy : ∀ build,
    Pumpfun.BuyParams.fromSwapOutput build amountOut amountIn slippageBps =
      some ⟨minimum.toBitVec, maximum.toBitVec, .none⟩
  pumpSwapBuy : ∀ build,
    PumpSwap.BuyParams.fromSwapOutput build amountOut amountIn slippageBps =
      some ⟨minimum.toBitVec, maximum.toBitVec, .none⟩

section Quotes

variable {amountIn amountOut : UInt64} {slippageBps : UInt16}

theorem toBitVec_eq_ofNat {word : UInt64} {value : Nat} (same : word.toNat = value) :
    word.toBitVec = BitVec.ofNat 64 value := by
  rw [← same]
  exact (BitVec.ofNat_toNat 64 word.toBitVec).trans (BitVec.setWidth_eq _) |>.symm

theorem applyMin_eq (build : Build) (within : slippageBps.toNat ≤ 10000) :
    (Slippage.mk slippageBps).applyMin build amountOut =
      some (.ofNat (amountOut.toNat * (10000 - slippageBps.toNat) / 10000)) := by
  rw [Slippage.applyMin, minWithin_eq amountOut.toNat_lt within]
  rfl

theorem applyMax_eq (build : Build)
    (fits : amountIn.toNat * (10000 + slippageBps.toNat) / 10000 < 2 ^ 64) :
    (Slippage.mk slippageBps).applyMax build amountIn =
      some (.ofNat (amountIn.toNat * (10000 + slippageBps.toNat) / 10000)) := by
  rw [Slippage.applyMax, maxWithin_eq amountIn.toNat_lt slippageBps.toNat_lt fits]
  rfl

theorem toNat_minimum (amountOut : UInt64) (slippageBps : UInt16) :
    (UInt64.ofNat (amountOut.toNat * (10000 - slippageBps.toNat) / 10000)).toNat =
      amountOut.toNat * (10000 - slippageBps.toNat) / 10000 :=
  UInt64.toNat_ofNat_of_lt' ((minimum_le ..).trans_lt amountOut.toNat_lt)

theorem boundsOutput_of_le (within : slippageBps.toNat ≤ 10000) :
    BoundsOutput amountOut slippageBps
      (.ofNat (amountOut.toNat * (10000 - slippageBps.toNat) / 10000)) where
  exact := toNat_minimum amountOut slippageBps
  slippage build := applyMin_eq build within
  output build output quoted := by
    rw [SwapOutput.minOutput, quoted, minWithin_eq amountOut.toNat_lt within]
    rfl
  pumpfunSell build tokensIn := by
    rw [Pumpfun.SellParams.fromSwapOutput, minWithin_eq amountOut.toNat_lt within]
    rfl
  pumpSwapSell build tokensIn := by
    rw [PumpSwap.SellParams.fromSwapOutput, minWithin_eq amountOut.toNat_lt within]
    rfl
  le_quote := by
    rw [UInt64.le_iff_toNat_le, toNat_minimum]
    exact minimum_le ..
  antitone build tighter le := by
    have less : tighter.toNat ≤ slippageBps.toNat := UInt16.le_iff_toNat_le.mp le
    refine ⟨_, applyMin_eq build (less.trans within), ?_⟩
    rw [UInt64.le_iff_toNat_le, toNat_minimum, toNat_minimum]
    exact Nat.div_le_div_right (Nat.mul_le_mul_left _ (Nat.sub_le_sub_left less 10000))

/-- A least output needs a tolerance of at most the whole. -/
theorem exists_boundsOutput_iff :
    (∃ minimum, BoundsOutput amountOut slippageBps minimum) ↔
      slippageBps.toNat ≤ 10000 := by
  constructor
  · rintro ⟨minimum, bounds⟩
    obtain ⟨computed, computedEq, -⟩ :=
      Option.map_eq_some_iff.mp (bounds.slippage Build.exact)
    exact le_of_minWithin rfl computedEq
  · intro within
    exact ⟨_, boundsOutput_of_le within⟩

theorem boundsInput_of_lt
    (fits : amountIn.toNat * (10000 + slippageBps.toNat) / 10000 < 2 ^ 64) :
    BoundsInput amountIn slippageBps
      (.ofNat (amountIn.toNat * (10000 + slippageBps.toNat) / 10000)) where
  exact := UInt64.toNat_ofNat_of_lt' fits
  slippage build := applyMax_eq build fits
  output build output quoted := by
    rw [SwapOutput.maxInput, quoted,
      maxWithin_eq amountIn.toNat_lt slippageBps.toNat_lt fits]
    rfl
  quote_le := by
    rw [UInt64.le_iff_toNat_le, UInt64.toNat_ofNat_of_lt' fits]
    exact le_maximum ..
  monotone build tighter le := by
    have lower : amountIn.toNat * (10000 + tighter.toNat) / 10000 ≤
        amountIn.toNat * (10000 + slippageBps.toNat) / 10000 :=
      Nat.div_le_div_right (Nat.mul_le_mul_left _
        (Nat.add_le_add_left (UInt16.le_iff_toNat_le.mp le) 10000))
    refine ⟨_, applyMax_eq build (lower.trans_lt fits), ?_⟩
    rw [UInt64.le_iff_toNat_le, UInt64.toNat_ofNat_of_lt' fits,
      UInt64.toNat_ofNat_of_lt' (lower.trans_lt fits)]
    exact lower

/-- A greatest input has to fit in a word. -/
theorem exists_boundsInput_iff :
    (∃ maximum, BoundsInput amountIn slippageBps maximum) ↔
      amountIn.toNat * (10000 + slippageBps.toNat) / 10000 < 2 ^ 64 := by
  constructor
  · rintro ⟨maximum, bounds⟩
    obtain ⟨computed, computedEq, -⟩ :=
      Option.map_eq_some_iff.mp (bounds.slippage Build.exact)
    exact lt_of_maxWithin rfl amountIn.toNat_lt slippageBps.toNat_lt computedEq
  · intro fits
    exact ⟨_, boundsInput_of_lt fits⟩

/-- The bounds of a quote bracket it exactly where the tolerance is at most the
whole and the greatest input fits in a word. -/
theorem bracketsQuote_iff (amountIn amountOut : UInt64) (slippageBps : UInt16) :
    (∃ minimum maximum, BracketsQuote amountIn amountOut slippageBps minimum maximum) ↔
      slippageBps.toNat ≤ 10000 ∧
        amountIn.toNat * (10000 + slippageBps.toNat) / 10000 < 2 ^ 64 := by
  constructor
  · rintro ⟨minimum, maximum, brackets⟩
    exact ⟨exists_boundsOutput_iff.mp ⟨minimum, brackets.least⟩,
      exists_boundsInput_iff.mp ⟨maximum, brackets.greatest⟩⟩
  · rintro ⟨within, fits⟩
    obtain ⟨minimum, least⟩ := (@exists_boundsOutput_iff amountOut _).mpr within
    obtain ⟨maximum, greatest⟩ := exists_boundsInput_iff.mpr fits
    have minimumBits := toBitVec_eq_ofNat least.exact
    have maximumBits := toBitVec_eq_ofNat greatest.exact
    refine ⟨minimum, maximum, least, greatest, fun build => ?_, fun build => ?_⟩
    · rw [Pumpfun.BuyParams.fromSwapOutput, minWithin_eq amountOut.toNat_lt within,
        maxWithin_eq amountIn.toNat_lt slippageBps.toNat_lt fits, minimumBits,
        maximumBits]
      rfl
    · rw [PumpSwap.BuyParams.fromSwapOutput, minWithin_eq amountOut.toNat_lt within,
        maxWithin_eq amountIn.toNat_lt slippageBps.toNat_lt fits, minimumBits,
        maximumBits]
      rfl

/-- A tolerance of the whole limits a cost of `2 ^ 63` lamports to nothing.  One
basis point more stops a debug build, and a release build asks for more than
the quote. -/
theorem wideTolerance_not_bracketsQuote :
    (Pumpfun.BuyParams.fromSwapOutput Build.release 1000000 9223372036854775808 10000 =
        some ⟨0, 0, .none⟩ ∧
      ¬ ∃ minimum maximum,
        BracketsQuote 9223372036854775808 1000000 10000 minimum maximum) ∧
      (Slippage.mk 10001).applyMin Build.debug 1000000 = none ∧
      (Slippage.mk 10001).applyMin Build.release 1000000 = some 2980993842311463441 ∧
      ¬ ∃ minimum maximum, BracketsQuote 1000000 1000000 10001 minimum maximum := by
  refine ⟨⟨by decide, ?_⟩, by decide, by decide, ?_⟩
  · rintro ⟨minimum, maximum, brackets⟩
    have fits := exists_boundsInput_iff.mp ⟨maximum, brackets.greatest⟩
    revert fits
    decide
  · rintro ⟨minimum, maximum, brackets⟩
    have within := exists_boundsOutput_iff.mp ⟨minimum, brackets.least⟩
    revert within
    decide

end Quotes

end Brackets

end SolanaProtocols
