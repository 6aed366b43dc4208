import SolanaProtocols.DlmmState

/-!
# Meteora DLMM pool and bin arithmetic

The fee, price and per-bin swap functions of the DLMM quoter.  They are checked
throughout: an operation that leaves its width, or divides by zero, is an error
carrying the message the on-chain program uses.
-/

namespace SolanaProtocols

namespace MeteoraDlmm

section SafeMath

def safeAdd (width x y : Nat) : Except String Nat :=
  okOr (checkedAdd width x y) "LBError::MathOverflow"

def safeSub (x y : Nat) : Except String Nat :=
  okOr (checkedSub x y) "LBError::MathOverflow"

def safeMul (width x y : Nat) : Except String Nat :=
  okOr (checkedMul width x y) "LBError::MathOverflow"

def safeDiv (x y : Nat) : Except String Nat :=
  okOr (checkedDiv x y) "LBError::MathOverflow"

def safeShl (width x shift : Nat) : Except String Nat :=
  okOr (checkedShl width x shift) "LBError::MathOverflow"

/-- The result of a signed operation, if it fits. -/
def safeSigned (width : Nat) (x : Int) : Except String Int :=
  okOr (checkedSigned width x) "LBError::MathOverflow"

/-- Narrowing conversion. -/
def safeCast (width x : Nat) : Except String Nat :=
  okOr (tryFrom width x) "LBError::TypeCastFailed"

theorem safeAdd_eq_ok_iff {width x y sum : Nat} :
    safeAdd width x y = .ok sum ↔ x + y < 2 ^ width ∧ x + y = sum := by
  rw [safeAdd, okOr_eq_ok_iff, checkedAdd_eq_some_iff]

theorem safeSub_eq_ok_iff {x y difference : Nat} :
    safeSub x y = .ok difference ↔ y ≤ x ∧ x - y = difference := by
  rw [safeSub, okOr_eq_ok_iff, checkedSub_eq_some_iff]

theorem safeCast_eq_ok_iff {width x narrow : Nat} :
    safeCast width x = .ok narrow ↔ x < 2 ^ width ∧ x = narrow := by
  rw [safeCast, okOr_eq_ok_iff, tryFrom_eq_some_iff]

theorem safeSigned_eq_ok_iff {width : Nat} {x narrow : Int} :
    safeSigned width x = .ok narrow ↔
      (-2 ^ (width - 1) ≤ x ∧ x < 2 ^ (width - 1)) ∧ x = narrow := by
  rw [safeSigned, okOr_eq_ok_iff, checkedSigned_eq_some_iff]

theorem safeSub_of_le {x y : Nat} (le : y ≤ x) : safeSub x y = .ok (x - y) := by
  simp [safeSub, le]

theorem safeSigned_of_range {width : Nat} {x : Int}
    (lower : -2 ^ (width - 1) ≤ x) (upper : x < 2 ^ (width - 1)) :
    safeSigned width x = .ok x := by
  simp [safeSigned, lower, upper]

end SafeMath

section FixedPoint

def scaleOffset : Nat := 64

/-- One in Q64.64. -/
def one : Nat := 2 ^ scaleOffset

def maxExponential : Nat := 0x80000

/-- Multiplication in Q64.64. -/
def mulScaled (x y : Nat) : Option Nat := do
  return (← checkedMul 128 x y) >>> scaleOffset

/-- One of the unrolled iterations of `pow`: the base is squared and, when the
exponent has the bit, multiplied into the result. -/
def powStep (exponent : Nat) (state : Nat × Nat) (bit : Nat) :
    Option (Nat × Nat) := do
  let squaredBase ← mulScaled state.1 state.1
  let result ← (if exponent.testBit bit then mulScaled state.2 squaredBase
    else some state.2)
  return (squaredBase, result)

/-- `base ^ exp` in Q64.64. -/
def pow (base : Nat) (exp : Int) : Option Nat :=
  let exponent := exp.natAbs
  if exp = 0 then
    some one
  else if maxExponential ≤ exponent then
    none
  else do
    let negative := decide (exp < 0)
    let (squaredBase, invert) ← (if one ≤ base then
        (checkedDiv (2 ^ 128 - 1) base).map (·, !negative)
      else some (base, negative))
    let result ← (if exponent.testBit 0 then mulScaled one squaredBase
      else some one)
    let (_, result) ← (List.range' 1 18).foldlM (powStep exponent)
      (squaredBase, result)
    if result = 0 then
      none
    else if invert then
      checkedDiv (2 ^ 128 - 1) result
    else
      some result

/-- Price of a bin in Q64.64. -/
def getPriceFromId (activeId : Int) (binStep : Nat) : Except String Nat := do
  let bps ← safeDiv (← safeShl 128 binStep scaleOffset) basisPointMax
  let base ← safeAdd 128 one bps
  okOr (pow base activeId) "LBError::MathOverflow"

inductive Rounding
  | up
  | down

/-- `(x * y) / denominator` with a 256-bit product. -/
def mulDiv (x y denominator : Nat) (rounding : Rounding) : Option Nat := do
  if denominator = 0 then
    none
  let prod ← checkedMul 256 x y
  match rounding with
  | .up => tryFrom 128 ((prod + denominator - 1) / denominator)
  | .down => tryFrom 128 (prod / denominator)

/-- `(x * y) >> offset`. -/
def mulShr (x y offset : Nat) (rounding : Rounding) : Option Nat := do
  mulDiv x y (← checkedShl 128 1 offset) rounding

/-- `(x << offset) / y`. -/
def shlDiv (x y offset : Nat) (rounding : Rounding) : Option Nat := do
  mulDiv x (← checkedShl 128 1 offset) y rounding

def safeMulShrCast (x y offset : Nat) (rounding : Rounding) :
    Except String Nat := do
  safeCast 64 (← okOr (mulShr x y offset rounding) "LBError::MathOverflow")

def safeShlDivCast (x y offset : Nat) (rounding : Rounding) :
    Except String Nat := do
  safeCast 64 (← okOr (shlDiv x y offset rounding) "LBError::MathOverflow")

end FixedPoint

section Fee

/-- Base fee rate in `feePrecision` units. -/
def getBaseFee (pair : LbPair) : Except String Nat := do
  let base ← safeMul 128
    (← safeMul 128 pair.parameters.baseFactor pair.binStep) 10
  let power := pair.parameters.baseFeePowerFactor
  if power = 0 then
    return base
  let scale ← okOr (checkedPow 128 10 power) "LBError::MathOverflow"
  safeMul 128 base scale

/-- Variable fee rate for a volatility accumulator, rounded up. -/
def computeVariableFee (pair : LbPair) (volatilityAccumulator : Nat) :
    Except String Nat := do
  if pair.parameters.variableFeeControl = 0 then
    return 0
  let squareVfaBin ←
    okOr (checkedPow 128 (← safeMul 128 volatilityAccumulator pair.binStep) 2)
      "LBError::MathOverflow"
  let vFee ← safeMul 128 pair.parameters.variableFeeControl squareVfaBin
  safeDiv (← safeAdd 128 vFee 99999999999) 100000000000

def getVariableFee (pair : LbPair) : Except String Nat :=
  computeVariableFee pair pair.vParameters.volatilityAccumulator

/-- Total fee rate, capped at `maxFeeRate`. -/
def getTotalFee (pair : LbPair) : Except String Nat := do
  let total ← safeAdd 128 (← getBaseFee pair) (← getVariableFee pair)
  return min total maxFeeRate

/-- Fee charged on top of an amount that does not include it. -/
def computeFee (pair : LbPair) (amount : Nat) : Except String Nat := do
  let totalFeeRate ← getTotalFee pair
  let denominator ← safeSub feePrecision totalFeeRate
  let fee ← safeSub
    (← safeAdd 128 (← safeMul 128 amount totalFeeRate) denominator) 1
  safeCast 64 (← safeDiv fee denominator)

/-- Fee contained in an amount that includes it. -/
def computeFeeFromAmount (pair : LbPair) (amountWithFees : Nat) :
    Except String Nat := do
  let totalFeeRate ← getTotalFee pair
  let feeAmount ← safeAdd 128 (← safeMul 128 amountWithFees totalFeeRate)
    (feePrecision - 1)
  safeCast 64 (← safeDiv feeAmount feePrecision)

def computeProtocolFee (pair : LbPair) (feeAmount : Nat) :
    Except String Nat := do
  safeCast 64 (← safeDiv
    (← safeMul 128 feeAmount pair.parameters.protocolShare) basisPointMax)

end Fee

section Volatility

/-- Decay the volatility references by the time since the last trade. -/
def updateReferences (pair : LbPair) (currentTimestamp : Int) :
    Except String LbPair := do
  let elapsed ← safeSigned 64
    (currentTimestamp - pair.vParameters.lastUpdateTimestamp)
  if elapsed < pair.parameters.filterPeriod then
    return pair
  let volatilityReference ← (if elapsed < pair.parameters.decayPeriod then do
      safeDiv (← safeMul 32 pair.vParameters.volatilityAccumulator
        pair.parameters.reductionFactor) basisPointMax
    else pure 0)
  return { pair with vParameters := { pair.vParameters with
    indexReference := pair.activeId
    volatilityReference := volatilityReference } }

def updateVolatilityAccumulator (pair : LbPair) : Except String LbPair := do
  let deltaId ← safeSigned 64
    (pair.vParameters.indexReference - pair.activeId)
  let volatilityAccumulator ← safeAdd 64 pair.vParameters.volatilityReference
    (← safeMul 64 deltaId.natAbs basisPointMax)
  let volatilityAccumulator ← safeCast 32
    (min volatilityAccumulator pair.parameters.maxVolatilityAccumulator)
  return { pair with vParameters := { pair.vParameters with
    volatilityAccumulator := volatilityAccumulator } }

/-- Move the active bin one step in the swap direction. -/
def advanceActiveBin (pair : LbPair) (swapForY : Bool) :
    Except String LbPair := do
  let next ← safeSigned 32
    (if swapForY then pair.activeId - 1 else pair.activeId + 1)
  if minBinId ≤ next ∧ next ≤ maxBinId then
    return { pair with activeId := next }
  else
    throw "LBError::BinIdOutOfRange"

end Volatility

section Bin

def maxAmountOut (bin : Bin) (swapForY : Bool) : Nat :=
  if swapForY then bin.amountY else bin.amountX

/-- Required input for a given output, rounded up. -/
def getAmountIn (amountOut price : Nat) (swapForY : Bool) : Except String Nat :=
  if swapForY then safeShlDivCast amountOut price scaleOffset .up
  else safeMulShrCast amountOut price scaleOffset .up

/-- Input that drains the bin, rounded up. -/
def maxAmountIn (bin : Bin) (price : Nat) (swapForY : Bool) :
    Except String Nat :=
  if swapForY then safeShlDivCast bin.amountY price scaleOffset .up
  else safeMulShrCast bin.amountX price scaleOffset .up

theorem maxAmountIn_eq (bin : Bin) (price : Nat) (swapForY : Bool) :
    maxAmountIn bin price swapForY =
      getAmountIn (maxAmountOut bin swapForY) price swapForY := by
  cases swapForY <;> simp [maxAmountIn, getAmountIn, maxAmountOut]

/-- Output for a given input without fee, rounded down. -/
def getAmountOut (amountIn price : Nat) (swapForY : Bool) : Except String Nat :=
  if swapForY then safeMulShrCast price amountIn scaleOffset .down
  else safeShlDivCast amountIn price scaleOffset .down

/-- The bin has none of the side the swap is buying. -/
def isEmpty (bin : Bin) (sideIn : Bool) : Bool :=
  if sideIn then bin.amountX == 0 else bin.amountY == 0

/-- The stored price, computed and stored first when it is zero. -/
def getOrStoreBinPrice (bin : Bin) (id : Int) (binStep : Nat) :
    Except String (Nat × Bin) := do
  if bin.price = 0 then
    let price ← getPriceFromId id binStep
    return (price, { bin with price := price })
  else
    return (bin.price, bin)

structure BinSwapResult where
  amountInWithFees : Nat
  amountOut : Nat
  fee : Nat
  protocolFeeAfterHostFee : Nat
  hostFee : Nat
  isExactOutAmount : Bool
deriving DecidableEq, Repr

/-- The amounts of a swap and what goes into the bin.  The swap takes what the input
buys, or everything when the input is more than that costs. -/
def binSwapAmounts (bin : Bin) (amountIn price : Nat) (swapForY : Bool)
    (pair : LbPair) (hostFeeBps : Option Nat) :
    Except String (BinSwapResult × Nat) := do
  let binMaxAmountOut := maxAmountOut bin swapForY
  let binMaxAmountIn ← maxAmountIn bin price swapForY
  let maxFee ← computeFee pair binMaxAmountIn
  let binMaxAmountIn ← safeAdd 64 binMaxAmountIn maxFee
  let (amountInWithFees, amountOut, fee, protocolFee) ← (
    if binMaxAmountIn < amountIn then do
      pure (binMaxAmountIn, binMaxAmountOut, maxFee,
        ← computeProtocolFee pair maxFee)
    else do
      let fee ← computeFeeFromAmount pair amountIn
      let amountInAfterFee ← safeSub amountIn fee
      let amountOut ← getAmountOut amountInAfterFee price swapForY
      pure (amountIn, min amountOut binMaxAmountOut, fee,
        ← computeProtocolFee pair fee))
  let hostFee ← (
    match hostFeeBps with
    | some bps => do safeDiv (← safeMul 64 protocolFee bps) basisPointMax
    | none => pure 0)
  let protocolFeeAfterHostFee ← safeSub protocolFee hostFee
  let amountIntoBin ← safeSub amountInWithFees fee
  return ({ amountInWithFees, amountOut, fee, protocolFeeAfterHostFee,
            hostFee, isExactOutAmount := false }, amountIntoBin)

/-- Swap with a bin: its reserves follow the amounts. -/
def binSwap (bin : Bin) (amountIn price : Nat) (swapForY : Bool) (pair : LbPair)
    (hostFeeBps : Option Nat) : Except String (BinSwapResult × Bin) := do
  let (result, amountIntoBin) ←
    binSwapAmounts bin amountIn price swapForY pair hostFeeBps
  if swapForY then
    let amountX ← safeAdd 64 bin.amountX amountIntoBin
    let amountY ← safeSub bin.amountY result.amountOut
    return (result, { bin with amountX := amountX, amountY := amountY })
  else
    let amountY ← safeAdd 64 bin.amountY amountIntoBin
    let amountX ← safeSub bin.amountX result.amountOut
    return (result, { bin with amountX := amountX, amountY := amountY })

/-- The amounts of a swap are worked out before the reserves change. -/
theorem exists_amounts_of_binSwap {bin stored : Bin} {amountIn price : Nat}
    {swapForY : Bool} {pair : LbPair} {hostFeeBps : Option Nat} {result : BinSwapResult}
    (ok : binSwap bin amountIn price swapForY pair hostFeeBps = .ok (result, stored)) :
    ∃ amountIntoBin,
      binSwapAmounts bin amountIn price swapForY pair hostFeeBps =
        .ok (result, amountIntoBin) := by
  simp only [binSwap, bind_eq_ok_iff] at ok
  obtain ⟨⟨amounts, amountIntoBin⟩, amountsEq, ok⟩ := ok
  refine ⟨amountIntoBin, ?_⟩
  cases swapForY with
  | true =>
    simp only [if_true, bind_eq_ok_iff] at ok
    obtain ⟨amountX, -, amountY, -, ok⟩ := ok
    cases ok
    exact amountsEq
  | false =>
    simp only [Bool.false_eq_true, if_false, bind_eq_ok_iff] at ok
    obtain ⟨amountY, -, amountX, -, ok⟩ := ok
    cases ok
    exact amountsEq

/-- Swap until the requested output is produced or the bin is drained. -/
def binSwapExactOut (bin : Bin) (amountIn price : Nat) (swapForY : Bool)
    (pair : LbPair) (hostFeeBps : Option Nat) (exactOutAmount : Nat) :
    Except String (BinSwapResult × Bin) := do
  let binMaxAmountOut := maxAmountOut bin swapForY
  if binMaxAmountOut ≤ exactOutAmount then
    let (result, bin) ← binSwap bin amountIn price swapForY pair hostFeeBps
    if exactOutAmount = binMaxAmountOut then
      return ({ result with isExactOutAmount := true }, bin)
    else
      return (result, bin)
  else
    let exactAmountIn ← getAmountIn exactOutAmount price swapForY
    let fee ← computeFee pair exactAmountIn
    let amountInWithFees ← safeAdd 64 exactAmountIn fee
    let (result, bin) ←
      binSwap bin amountInWithFees price swapForY pair hostFeeBps
    return ({ result with isExactOutAmount := true }, bin)

end Bin

section BinArray

/-- Index of the array containing a bin id. -/
def binIdToBinArrayIndex (binId : Int) : Except String Int :=
  let idx := binId.tdiv maxBinPerArray
  let rem := binId.tmod maxBinPerArray
  if binId < 0 ∧ rem ≠ 0 then safeSigned 32 (idx - 1)
  else .ok idx

/-- The array of an `i32` is found by dividing and rounding down. -/
theorem binIdToBinArrayIndex_of_range {binId : Int}
    (lower : -2 ^ 31 ≤ binId) (upper : binId < 2 ^ 31) :
    binIdToBinArrayIndex binId = .ok (binId / maxBinPerArray) := by
  have sizeEq : ((maxBinPerArray : Nat) : Int) = 70 := rfl
  rw [binIdToBinArrayIndex]
  rcases Int.lt_or_le binId 0 with negative | nonneg
  · obtain ⟨magnitude, rfl⟩ : ∃ magnitude : Nat, binId = -magnitude :=
      ⟨binId.natAbs, by omega⟩
    have quotient : (-(magnitude : Int)).tdiv maxBinPerArray =
        -((magnitude : Int) / 70) := by
      rw [sizeEq, Int.neg_tdiv, Int.tdiv_eq_ediv_of_nonneg (by omega)]
    have remainder : (-(magnitude : Int)).tmod maxBinPerArray =
        -((magnitude : Int) % 70) := by
      rw [sizeEq, Int.neg_tmod, Int.tmod_eq_emod_of_nonneg (by omega)]
    by_cases rounds : (-(magnitude : Int)).tmod maxBinPerArray ≠ 0
    · rw [if_pos ⟨negative, rounds⟩, quotient,
        safeSigned_of_range (by omega) (by omega), sizeEq]
      congr 1
      omega
    · rw [if_neg fun both => rounds both.2, quotient, sizeEq]
      congr 1
      omega
  · rw [if_neg (by omega), Int.tdiv_eq_ediv_of_nonneg nonneg]

/-- The array of a bin id is found by dividing and rounding down. -/
theorem binIdToBinArrayIndex_eq {binId : Int}
    (inside : minBinId ≤ binId ∧ binId ≤ maxBinId) :
    binIdToBinArrayIndex binId = .ok (binId / maxBinPerArray) := by
  obtain ⟨lower, upper⟩ := inside
  simp only [minBinId, maxBinId] at lower upper
  exact binIdToBinArrayIndex_of_range (by omega) (by omega)

/-- First and last bin id of an array. -/
def binArrayLowerUpperBinId (index : Int) : Except String (Int × Int) := do
  let lower ← safeSigned 32 (index * maxBinPerArray)
  let upper ← safeSigned 32 ((← safeSigned 32 (lower + maxBinPerArray)) - 1)
  return (lower, upper)

/-- The bounds of an array, and one past them, are `i32`. -/
def BoundsFit (index : Int) : Prop :=
  -2 ^ 31 ≤ index * maxBinPerArray ∧
    index * maxBinPerArray + maxBinPerArray < 2 ^ 31

instance {index : Int} : Decidable (BoundsFit index) :=
  inferInstanceAs (Decidable (_ ∧ _))

theorem binArrayLowerUpperBinId_eq_ok_iff {index lower upper : Int} :
    binArrayLowerUpperBinId index = .ok (lower, upper) ↔
      BoundsFit index ∧ lower = index * maxBinPerArray ∧
        upper = index * maxBinPerArray + maxBinPerArray - 1 := by
  have sizeEq : ((maxBinPerArray : Nat) : Int) = 70 := rfl
  simp only [binArrayLowerUpperBinId, BoundsFit, bind_eq_ok_iff,
    safeSigned_eq_ok_iff, sizeEq]
  constructor
  · rintro ⟨_, ⟨lowerFits, rfl⟩, _, ⟨pastFits, rfl⟩, _, ⟨-, rfl⟩, bounds⟩
    cases bounds
    exact ⟨⟨lowerFits.1, pastFits.2⟩, rfl, rfl⟩
  · rintro ⟨⟨lowerFits, pastFits⟩, rfl, rfl⟩
    exact ⟨_, ⟨⟨lowerFits, by omega⟩, rfl⟩, _, ⟨⟨by omega, pastFits⟩, rfl⟩, _,
      ⟨⟨by omega, by omega⟩, rfl⟩, rfl⟩

theorem BoundsFit.indexFits {index : Int} (fits : BoundsFit index) :
    checkedSigned 32 index = some index := by
  have sizeEq : ((maxBinPerArray : Nat) : Int) = 70 := rfl
  rw [BoundsFit, sizeEq] at fits
  rw [checkedSigned_eq_some_iff]
  exact ⟨⟨by omega, by omega⟩, rfl⟩

/-- Position of a bin id inside an array. -/
def binIndexInArray (array : BinArray) (binId : Int) :
    Except String (Fin maxBinPerArray) := do
  let arrayIndexI32 ←
    okOr (checkedSigned 32 array.index) "LBError::TypeCastFailed"
  let (lower, upper) ← binArrayLowerUpperBinId arrayIndexI32
  if binId < lower ∨ upper < binId then
    throw "LBError::InvalidBinId"
  else
    let index ← (
      if 0 < binId then safeSigned 32 (binId - lower)
      else do
        let fromUpper ← safeSigned 32 (upper - binId)
        let index ← safeSigned 32 ((maxBinPerArray : Int) - fromUpper)
        safeSigned 32 (index - 1))
    if inside : 0 ≤ index ∧ index < maxBinPerArray then
      return ⟨index.toNat, by omega⟩
    else
      throw "LBError::InvalidBinId"

def isBinIdWithinRange (array : BinArray) (binId : Int) : Bool :=
  match checkedSigned 32 array.index with
  | none => false
  | some arrayIndexI32 =>
      match binArrayLowerUpperBinId arrayIndexI32 with
      | .error _ => false
      | .ok (lower, upper) => decide (lower ≤ binId) && decide (binId ≤ upper)

/-- The bin `getBinMut` refers to. -/
def getBin (array : BinArray) (binId : Int) : Except String Bin := do
  let idx ← binIndexInArray array binId
  return array.bins[idx]

/-- Write through the reference `getBinMut` returns. -/
def setBin (array : BinArray) (binId : Int) (bin : Bin) :
    Except String BinArray := do
  let idx ← binIndexInArray array binId
  return { array with bins := array.bins.set idx bin }

end BinArray

end MeteoraDlmm

end SolanaProtocols
