import Mathlib.Data.Int.Range
import SolanaProtocols.DlmmBinSwap
import SolanaProtocols.DlmmPosition
import SolanaProtocols.RangeLoop

/-!
# Metrics of a DLMM position

The metrics of a position add up, over the bins of its range, what its share of
each bin is worth and the fees that it has not collected.  The loop passes over
a bin without a share, with the fees that wait there, and it takes the product
of a rate and a share, both with 64 fractional bits, to have 64 of them as well.
The sums are compared with the ones over every bin.
-/

namespace SolanaProtocols

namespace MeteoraDlmm

open RangeLoop
open PoolLayouts (U128)

section Code

/-- A bin array with all fields of its bins. -/
structure BinArrayRecord where
  index : Int
  bins : Vector BinRecord maxBinPerArray
deriving DecidableEq, Repr

/-- The part of an array that swaps read. -/
def BinArrayRecord.toBinArray (array : BinArrayRecord) : BinArray where
  index := array.index
  bins := array.bins.map (·.toBin)

inductive PositionRangeStatus
  | inRange
  | belowRange
  | aboveRange
deriving DecidableEq, Repr

structure PositionMetrics where
  currentValueX : Nat
  currentValueY : Nat
  uncollectedFeeX : Nat
  uncollectedFeeY : Nat
  rangeStatus : PositionRangeStatus
  rangeWidthBins : Nat
deriving DecidableEq, Repr

/-- `as u32` on a signed integer. -/
def asU32 (x : Int) : Nat :=
  (x % 2 ^ 32).toNat

/-- The value of a computation that panics when there is none. -/
def orPanic {Value : Type} : Option Value → Except Fault Value
  | none => .error .panic
  | some value => .ok value

def binArrayKeysForRange (deriveBinArrayAddress : Pubkey → Int → Pubkey)
    (pool : Pubkey) (lowerBinId upperBinId : Int) :
    Except String (List Pubkey) := do
  if upperBinId < lowerBinId then
    throw "LBError::InvalidBinId"
  let lowerIdx ← binIdToBinArrayIndex lowerBinId
  let upperIdx ← binIdToBinArrayIndex upperBinId
  return (Int.range lowerIdx (upperIdx + 1)).map (deriveBinArrayAddress pool)

def binArrayKeysForPosition (deriveBinArrayAddress : Pubkey → Int → Pubkey)
    (pool : Pubkey) (position : PositionV2) : Except String (List Pubkey) :=
  binArrayKeysForRange deriveBinArrayAddress pool position.lowerBinId.toInt
    position.upperBinId.toInt

def notCovered : String :=
  "position bin id not covered by any cached bin array"

/-- The first array whose bounds hold the bin id. -/
def pickArrayForBin (arrays : List BinArrayRecord) (binId : Int) :
    Except String BinArrayRecord :=
  okOr (arrays.find? fun array => isBinIdWithinRange array.toBinArray binId)
    notCovered

/-- `getBin` with all fields of the bin. -/
def getBinRecord (array : BinArrayRecord) (binId : Int) :
    Except String BinRecord := do
  let idx ← binIndexInArray array.toBinArray binId
  return array.bins.get idx

/-- Tokens that a share of a bin is worth. -/
def binShareToAmounts (bin : BinRecord) (share : Nat) :
    Except String (Nat × Nat) := do
  if bin.liquiditySupply = 0 then
    return (0, 0)
  let xAmt ← okOr (mulDiv share bin.amountX bin.liquiditySupply .down)
    "LBError::MathOverflow"
  let yAmt ← okOr (mulDiv share bin.amountY bin.liquiditySupply .down)
    "LBError::MathOverflow"
  return (← safeCast 64 xAmt, ← safeCast 64 yAmt)

/-- Fees of one side of a bin, pending and accrued since the checkpoint. -/
def uncollectedFee (binPerTokenStored positionPerTokenComplete share
    pending : Nat) : Except String Nat := do
  let newlyAccrued ← (
    if binPerTokenStored ≤ positionPerTokenComplete then pure 0
    else do
      let delta := binPerTokenStored - positionPerTokenComplete
      let raw ← safeMul 128 delta share
      let scaled := raw >>> scaleOffset
      safeCast 64 scaled)
  safeAdd 64 pending newlyAccrued

/-- The sums of the loop over the bins. -/
structure Totals where
  currentValueX : Nat
  currentValueY : Nat
  feeX : Nat
  feeY : Nat
deriving DecidableEq, Repr

/-- Add what a share of a bin is worth. -/
def addAmounts (totals : Totals) (bin : BinRecord) (share : Nat) :
    Except String Totals := do
  let (xAmt, yAmt) ← binShareToAmounts bin share
  let currentValueX ← safeAdd 64 totals.currentValueX xAmt
  let currentValueY ← safeAdd 64 totals.currentValueY yAmt
  return { totals with
    currentValueX := currentValueX, currentValueY := currentValueY }

/-- Add the fees of a bin. -/
def addFees (totals : Totals) (bin : BinRecord) (feeInfo : FeeInfo)
    (share : Nat) : Except String Totals := do
  let feeX ← safeAdd 64 totals.feeX
    (← uncollectedFee bin.feeAmountXPerTokenStored
      feeInfo.feeXPerTokenComplete.toNat share feeInfo.feeXPending.toNat)
  let feeY ← safeAdd 64 totals.feeY
    (← uncollectedFee bin.feeAmountYPerTokenStored
      feeInfo.feeYPerTokenComplete.toNat share feeInfo.feeYPending.toNat)
  return { totals with feeX := feeX, feeY := feeY }

/-- The loop over the bins, at one offset in the range. -/
def metricsStep (position : PositionV2Full) (arrays : List BinArrayRecord)
    (totals : Totals) (offset : Nat) : Except Fault Totals := do
  let binId := position.base.lowerBinId.toInt + offset
  let share ← orPanic (position.liquidityShare offset)
  let share ← (okOr share "position offset past decoded bins").mapError .err
  if share = 0 then
    return totals
  else
    let array ← (pickArrayForBin arrays binId).mapError .err
    let bin ← (getBinRecord array binId).mapError .err
    let totals ← (addAmounts totals bin share.toNat).mapError .err
    let feeInfo ← orPanic (position.feeInfo offset)
    let feeInfo ←
      (okOr feeInfo "position offset past decoded bins").mapError .err
    (addFees totals bin feeInfo share.toNat).mapError .err

/-- The end of `computeMetrics`. -/
def reportMetrics (position : PositionV2Full) (pair : LbPair)
    (totals : Totals) : Except Fault PositionMetrics := do
  let lowerBinId := position.base.lowerBinId.toInt
  let upperBinId := position.base.upperBinId.toInt
  let rangeStatus :=
    if pair.activeId < lowerBinId then .belowRange
    else if upperBinId < pair.activeId then .aboveRange
    else .inRange
  let width ← orPanic (binWidth lowerBinId upperBinId)
  return {
    currentValueX := totals.currentValueX
    currentValueY := totals.currentValueY
    uncollectedFeeX := totals.feeX
    uncollectedFeeY := totals.feeY
    rangeStatus := rangeStatus
    rangeWidthBins := asU32 width }

def computeMetrics (deriveBinArrayAddress : Pubkey → Int → Pubkey)
    (pool : Pubkey) (position : PositionV2Full) (pair : LbPair)
    (binArrays : Pubkey → Option BinArrayRecord) :
    Except Fault PositionMetrics := do
  let lowerBinId := position.base.lowerBinId.toInt
  let upperBinId := position.base.upperBinId.toInt
  let arrayKeys ← (binArrayKeysForPosition deriveBinArrayAddress pool
    position.base).mapError .err
  let arrays ← (arrayKeys.mapM fun key => okOr (binArrays key)
    "position bin array missing from cache snapshot").mapError .err
  let totals ← rangeLoop (metricsStep position arrays) ⟨0, 0, 0, 0⟩
    (upperBinId - lowerBinId + 1).toNat
  reportMetrics position pair totals

end Code

section Locating

variable {array : BinArray} {binId : Int}

/-- An array holds the bin ids that divide to its index, if its bounds can be
computed. -/
theorem isBinIdWithinRange_iff :
    isBinIdWithinRange array binId = true ↔
      BoundsFit array.index ∧ binId / maxBinPerArray = array.index := by
  have sizeEq : ((maxBinPerArray : Nat) : Int) = 70 := rfl
  by_cases fits : BoundsFit array.index
  · have bounds := binArrayLowerUpperBinId_eq_ok_iff.mpr ⟨fits, rfl, rfl⟩
    simp only [isBinIdWithinRange, fits.indexFits, bounds, Bool.and_eq_true,
      decide_eq_true_eq, fits, true_and, sizeEq]
    omega
  · simp only [fits, false_and, iff_false, isBinIdWithinRange]
    cases indexEq : checkedSigned 32 array.index with
    | none => exact Bool.false_ne_true
    | some indexI32 =>
        obtain rfl := (checkedSigned_eq_some_iff.mp indexEq).2
        cases boundsEq : binArrayLowerUpperBinId array.index with
        | error message => simp only [boundsEq]; exact Bool.false_ne_true
        | ok bounds =>
            exact absurd (binArrayLowerUpperBinId_eq_ok_iff.mp boundsEq).1 fits

theorem binSlot_lt (binId : Int) :
    (binId % maxBinPerArray).toNat < maxBinPerArray := by
  have sizeEq : ((maxBinPerArray : Nat) : Int) = 70 := rfl
  rw [sizeEq, maxBinPerArray]
  omega

/-- Place of a bin id in its array. -/
def binSlot (binId : Int) : Fin maxBinPerArray :=
  ⟨(binId % maxBinPerArray).toNat, binSlot_lt binId⟩

theorem binIndexInArray_eq_binSlot (fits : BoundsFit array.index)
    (inside : binId / maxBinPerArray = array.index) :
    binIndexInArray array binId = .ok (binSlot binId) := by
  have sizeEq : ((maxBinPerArray : Nat) : Int) = 70 := rfl
  have bounds := binArrayLowerUpperBinId_eq_ok_iff.mpr ⟨fits, rfl, rfl⟩
  rw [sizeEq] at inside
  have notOutside : ¬ (binId < array.index * maxBinPerArray ∨
      array.index * maxBinPerArray + maxBinPerArray - 1 < binId) := by
    rw [sizeEq]
    omega
  simp only [BoundsFit, sizeEq] at fits
  have located : (if 0 < binId then
        safeSigned 32 (binId - array.index * maxBinPerArray)
      else do
        let fromUpper ← safeSigned 32
          (array.index * maxBinPerArray + maxBinPerArray - 1 - binId)
        let index ← safeSigned 32 ((maxBinPerArray : Int) - fromUpper)
        safeSigned 32 (index - 1)) =
      .ok (binId % maxBinPerArray) := by
    rw [sizeEq]
    split_ifs
    · rw [safeSigned_of_range (by omega) (by omega)]
      congr 1
      omega
    · simp only [bind_eq_ok_iff]
      refine ⟨_, safeSigned_of_range (by omega) (by omega), _,
        safeSigned_of_range (by omega) (by omega), ?_⟩
      rw [safeSigned_of_range (by omega) (by omega)]
      congr 1
      omega
  have slotInside : 0 ≤ binId % maxBinPerArray ∧
      binId % maxBinPerArray < maxBinPerArray := by
    rw [sizeEq]
    omega
  have indexFits := (show BoundsFit array.index by
    simpa only [BoundsFit, sizeEq] using fits).indexFits
  simp only [binIndexInArray, indexFits, okOr, bounds, bind, Except.bind,
    notOutside, if_false] at located ⊢
  rw [located]
  simp only [slotInside, and_self, dif_pos]
  rfl

end Locating

section Views

inductive TokenSide
  | x
  | y
deriving DecidableEq, Repr

theorem TokenSide.all {holds : TokenSide → Prop} (x : holds .x) (y : holds .y)
    (side : TokenSide) : holds side :=
  match side with
  | .x => x
  | .y => y

def BinRecord.amount (bin : BinRecord) : TokenSide → Nat
  | .x => bin.amountX
  | .y => bin.amountY

def BinRecord.feeAmountPerTokenStored (bin : BinRecord) : TokenSide → Nat
  | .x => bin.feeAmountXPerTokenStored
  | .y => bin.feeAmountYPerTokenStored

def FeeInfo.perTokenComplete (feeInfo : FeeInfo) : TokenSide → Nat
  | .x => feeInfo.feeXPerTokenComplete.toNat
  | .y => feeInfo.feeYPerTokenComplete.toNat

def FeeInfo.pending (feeInfo : FeeInfo) : TokenSide → Nat
  | .x => feeInfo.feeXPending.toNat
  | .y => feeInfo.feeYPending.toNat

def PositionMetrics.currentValue (metrics : PositionMetrics) : TokenSide → Nat
  | .x => metrics.currentValueX
  | .y => metrics.currentValueY

def PositionMetrics.uncollectedFee (metrics : PositionMetrics) :
    TokenSide → Nat
  | .x => metrics.uncollectedFeeX
  | .y => metrics.uncollectedFeeY

def Totals.currentValue (totals : Totals) : TokenSide → Nat
  | .x => totals.currentValueX
  | .y => totals.currentValueY

def Totals.fee (totals : Totals) : TokenSide → Nat
  | .x => totals.feeX
  | .y => totals.feeY

/-- A bin of the range, and what the position keeps about it. -/
structure SlotView where
  binId : Int
  share : U128
  bin : BinRecord
  feeInfo : FeeInfo
deriving DecidableEq

/-- The bin at an offset in the range, in the array that its id divides to. -/
def viewAt (position : PositionV2Full) (stored : Int → Option BinArrayRecord)
    (offset : Nat) : Option SlotView := do
  let binId := position.base.lowerBinId.toInt + offset
  let share ← (position.liquidityShare offset).join
  let feeInfo ← (position.feeInfo offset).join
  let array ← stored (binId / maxBinPerArray)
  return { binId, share, bin := array.bins.get (binSlot binId), feeInfo }

/-- The bins at the first offsets of the range. -/
def Views (position : PositionV2Full) (stored : Int → Option BinArrayRecord)
    (count : Nat) (views : List SlotView) : Prop :=
  (List.range count).map (viewAt position stored) = views.map some

instance {position : PositionV2Full} {stored : Int → Option BinArrayRecord}
    {count : Nat} {views : List SlotView} :
    Decidable (Views position stored count views) :=
  inferInstanceAs (Decidable (_ = _))

theorem Views.unique {position : PositionV2Full}
    {stored : Int → Option BinArrayRecord} {count : Nat}
    {views others : List SlotView} (viewed : Views position stored count views)
    (viewedToo : Views position stored count others) : views = others :=
  (Option.some_injective _).list_map (viewed.symm.trans viewedToo)

namespace SlotView

/-- Tokens that the share is worth; none where the bin has no supply. -/
def value (view : SlotView) (side : TokenSide) : Nat :=
  view.share.toNat * view.bin.amount side / view.bin.liquiditySupply

/-- Growth of the fee rate since the checkpoint, over the share.  Both have 64
fractional bits, so the product has 128 of them. -/
def accruedScaled (view : SlotView) (side : TokenSide) : Nat :=
  (view.bin.feeAmountPerTokenStored side - view.feeInfo.perTokenComplete side) *
    view.share.toNat

/-- Fees that are owed, pending and accrued. -/
def owed (view : SlotView) (side : TokenSide) : Nat :=
  view.feeInfo.pending side + view.accruedScaled side / 2 ^ 128

/-- Fees as the loop computes them. -/
def computed (view : SlotView) (side : TokenSide) : Nat :=
  view.feeInfo.pending side + view.accruedScaled side / 2 ^ 64

/-- Fees that the loop adds. -/
def added (view : SlotView) (side : TokenSide) : Nat :=
  if view.share = 0 then 0 else view.computed side

/-- Fees that the loop passes over. -/
def dropped (view : SlotView) (side : TokenSide) : Nat :=
  if view.share = 0 then view.feeInfo.pending side else 0

/-- Fees that the loop adds because it shifts out 64 bits of 128. -/
def excess (view : SlotView) (side : TokenSide) : Nat :=
  view.accruedScaled side / 2 ^ 64 - view.accruedScaled side / 2 ^ 128

/-- The products of a bin fit in the integers that hold them. -/
def ProductsFit (view : SlotView) : Prop :=
  ∀ side, (view.bin.liquiditySupply = 0 ∨
      view.share.toNat * view.bin.amount side < 2 ^ 256) ∧
    view.accruedScaled side < 2 ^ 128

/-- A bin that the loop gets past, if the sums fit. -/
def Passes (view : SlotView) : Prop :=
  view.share = 0 ∨ BoundsFit (view.binId / maxBinPerArray) ∧ view.ProductsFit

theorem added_add_dropped (view : SlotView) (side : TokenSide) :
    view.added side + view.dropped side =
      view.owed side + view.excess side := by
  have finer : view.accruedScaled side / 2 ^ 128 ≤
      view.accruedScaled side / 2 ^ 64 :=
    Nat.div_le_div_left (Nat.pow_le_pow_right (by decide) (by decide))
      (Nat.two_pow_pos 64)
  rw [added, computed, dropped, owed, excess]
  split_ifs with noShare
  · have nothing : view.accruedScaled side = 0 := by
      rw [accruedScaled, noShare]
      rfl
    rw [nothing, Nat.zero_div, Nat.zero_div]
    omega
  · omega

end SlotView

/-- The totals after one more bin. -/
def Totals.plus (totals : Totals) (view : SlotView) : Totals where
  currentValueX := totals.currentValueX + view.value .x
  currentValueY := totals.currentValueY + view.value .y
  feeX := totals.feeX + view.added .x
  feeY := totals.feeY + view.added .y

/-- The totals of some bins. -/
def Totals.sum (views : List SlotView) : Totals where
  currentValueX := (views.map (·.value .x)).sum
  currentValueY := (views.map (·.value .y)).sum
  feeX := (views.map (·.added .x)).sum
  feeY := (views.map (·.added .y)).sum

/-- The totals are `u64`s. -/
def Totals.Fit (totals : Totals) : Prop :=
  ∀ side, totals.currentValue side < 2 ^ 64 ∧ totals.fee side < 2 ^ 64

namespace Totals

variable {totals : Totals} {views : List SlotView} {view : SlotView}
variable {side : TokenSide}

theorem currentValue_plus : (totals.plus view).currentValue side =
    totals.currentValue side + view.value side := by
  cases side <;> rfl

theorem fee_plus :
    (totals.plus view).fee side = totals.fee side + view.added side := by
  cases side <;> rfl

theorem currentValue_sum :
    (sum views).currentValue side = (views.map (·.value side)).sum := by
  cases side <;> rfl

theorem fee_sum : (sum views).fee side = (views.map (·.added side)).sum := by
  cases side <;> rfl

theorem sum_concat : sum (views ++ [view]) = (sum views).plus view := by
  simp [sum, plus]

theorem plus_of_no_share (noShare : view.share = 0) :
    totals.plus view = totals := by
  have noValue : ∀ side, view.value side = 0 := by
    intro side
    rw [SlotView.value, noShare]
    simp
  have nothingAdded : ∀ side, view.added side = 0 := fun side => if_pos noShare
  simp only [plus, noValue, nothingAdded, Nat.add_zero]

theorem Fit.of_plus (fit : (totals.plus view).Fit) : totals.Fit := by
  intro side
  have both := fit side
  rw [currentValue_plus, fee_plus] at both
  omega

end Totals

end Views

section Amounts

variable {bin : BinRecord} {feeInfo : FeeInfo} {share : Nat}
variable {totals after : Totals}

theorem binShareToAmounts_eq_ok_iff {amounts : Nat × Nat} :
    binShareToAmounts bin share = .ok amounts ↔
      (∀ side, bin.liquiditySupply = 0 ∨ share * bin.amount side < 2 ^ 256) ∧
        amounts.1 < 2 ^ 64 ∧ amounts.2 < 2 ^ 64 ∧
        amounts = (share * bin.amount .x / bin.liquiditySupply,
          share * bin.amount .y / bin.liquiditySupply) := by
  rw [binShareToAmounts]
  by_cases noSupply : bin.liquiditySupply = 0
  · rw [if_pos noSupply, noSupply, Nat.div_zero, Nat.div_zero]
    constructor
    · intro ok
      cases ok
      exact ⟨fun _ => .inl rfl, by decide, by decide, rfl⟩
    · rintro ⟨-, -, -, rfl⟩
      rfl
  · rw [if_neg noSupply]
    simp only [safeCast_eq_ok_iff, bind_eq_ok_iff, okOr_eq_ok_iff,
      mulDiv_down_eq_some_iff, noSupply, false_or]
    constructor
    · rintro ⟨x, ⟨-, xFits, -, rfl⟩, y, ⟨-, yFits, -, rfl⟩, _, ⟨xSmall, rfl⟩, _,
        ⟨ySmall, rfl⟩, same⟩
      cases same
      exact ⟨TokenSide.all xFits yFits, xSmall, ySmall, rfl⟩
    · rintro ⟨fits, xSmall, ySmall, rfl⟩
      have wide : 2 ^ 64 ≤ 2 ^ 128 := by decide
      exact ⟨_, ⟨noSupply, fits .x, xSmall.trans_le wide, rfl⟩, _,
        ⟨noSupply, fits .y, ySmall.trans_le wide, rfl⟩, _, ⟨xSmall, rfl⟩, _,
        ⟨ySmall, rfl⟩, rfl⟩

theorem uncollectedFee_eq_ok_iff {stored complete pending fee : Nat} :
    uncollectedFee stored complete share pending = .ok fee ↔
      (stored - complete) * share < 2 ^ 128 ∧
        pending + (stored - complete) * share / 2 ^ 64 < 2 ^ 64 ∧
        pending + (stored - complete) * share / 2 ^ 64 = fee := by
  rw [uncollectedFee]
  by_cases behind : stored ≤ complete
  · rw [if_pos behind, Nat.sub_eq_zero_of_le behind, Nat.zero_mul, Nat.zero_div]
    simp only [pure_bind, safeAdd_eq_ok_iff]
    exact ⟨fun ok => ⟨Nat.two_pow_pos 128, ok⟩, fun ok => ok.2⟩
  · rw [if_neg behind]
    simp only [bind_eq_ok_iff, safeAdd_eq_ok_iff, safeMul, safeCast_eq_ok_iff,
      okOr_eq_ok_iff, checkedMul_eq_some_iff, Nat.shiftRight_eq_div_pow,
      scaleOffset]
    constructor
    · rintro ⟨_, ⟨_, ⟨fits, rfl⟩, -, rfl⟩, feeFits, feeEq⟩
      exact ⟨fits, feeFits, feeEq⟩
    · rintro ⟨fits, feeFits, feeEq⟩
      exact ⟨_, ⟨_, ⟨fits, rfl⟩, (Nat.le_add_left _ _).trans_lt feeFits, rfl⟩,
        feeFits, feeEq⟩

variable {view : SlotView}

theorem addAmounts_eq_ok_iff :
    addAmounts totals view.bin view.share.toNat = .ok after ↔
      (∀ side, view.bin.liquiditySupply = 0 ∨
        view.share.toNat * view.bin.amount side < 2 ^ 256) ∧
        (∀ side, after.currentValue side < 2 ^ 64) ∧
        after = { totals with
          currentValueX := totals.currentValueX + view.value .x
          currentValueY := totals.currentValueY + view.value .y } := by
  simp only [addAmounts, bind_eq_ok_iff, binShareToAmounts_eq_ok_iff,
    safeAdd_eq_ok_iff]
  constructor
  · rintro ⟨_, ⟨products, -, -, rfl⟩, _, ⟨xFits, rfl⟩, _, ⟨yFits, rfl⟩, same⟩
    cases same
    exact ⟨products, TokenSide.all xFits yFits, rfl⟩
  · rintro ⟨products, fit, rfl⟩
    exact ⟨_, ⟨products, (Nat.le_add_left _ _).trans_lt (fit .x),
      (Nat.le_add_left _ _).trans_lt (fit .y), rfl⟩, _, ⟨fit .x, rfl⟩, _,
      ⟨fit .y, rfl⟩, rfl⟩

theorem addFees_eq_ok_iff :
    addFees totals view.bin view.feeInfo view.share.toNat = .ok after ↔
      (∀ side, view.accruedScaled side < 2 ^ 128) ∧
        (∀ side, after.fee side < 2 ^ 64) ∧
        after = { totals with
          feeX := totals.feeX + view.computed .x
          feeY := totals.feeY + view.computed .y } := by
  simp only [addFees, bind_eq_ok_iff, uncollectedFee_eq_ok_iff,
    safeAdd_eq_ok_iff]
  constructor
  · rintro ⟨_, ⟨xProduct, -, rfl⟩, _, ⟨xFits, rfl⟩, _, ⟨yProduct, -, rfl⟩, _,
      ⟨yFits, rfl⟩, same⟩
    cases same
    exact ⟨TokenSide.all xProduct yProduct, TokenSide.all xFits yFits, rfl⟩
  · rintro ⟨products, fit, rfl⟩
    exact ⟨_, ⟨products .x, (Nat.le_add_left _ _).trans_lt (fit .x), rfl⟩, _,
      ⟨fit .x, rfl⟩, _,
      ⟨products .y, (Nat.le_add_left _ _).trans_lt (fit .y), rfl⟩, _,
      ⟨fit .y, rfl⟩, rfl⟩

theorem addAmounts_addFees_eq_ok_iff (held : view.share ≠ 0) :
    (addAmounts totals view.bin view.share.toNat >>= fun middle =>
        addFees middle view.bin view.feeInfo view.share.toNat) = .ok after ↔
      view.ProductsFit ∧ after = totals.plus view ∧ after.Fit := by
  have added : ∀ side, view.added side = view.computed side :=
    fun side => if_neg held
  simp only [bind_eq_ok_iff, addAmounts_eq_ok_iff, addFees_eq_ok_iff,
    Totals.plus, added]
  constructor
  · rintro ⟨middle, ⟨products, values, rfl⟩, accrued, fees, rfl⟩
    exact ⟨fun side => ⟨products side, accrued side⟩, rfl,
      TokenSide.all ⟨values .x, fees .x⟩ ⟨values .y, fees .y⟩⟩
  · rintro ⟨products, rfl, fit⟩
    refine ⟨_, ⟨fun side => (products side).1, ?_, rfl⟩,
      fun side => (products side).2, fun side => (fit side).2, rfl⟩
    exact TokenSide.all (fit .x).1 (fit .y).1

end Amounts

section Lookups

variable {position : PositionV2Full} {stored : Int → Option BinArrayRecord}
variable {arrays : List BinArrayRecord} {totals after : Totals}
variable {first last binId : Int} {offset : Nat} {view : SlotView}

/-- The arrays under the indices of a range, all of which are there. -/
def Gathers (stored : Int → Option BinArrayRecord) (first last : Int)
    (arrays : List BinArrayRecord) : Prop :=
  (Int.range first (last + 1)).map stored = arrays.map some

/-- The arrays under the indices of a range have these indices. -/
def IndexedWithin (stored : Int → Option BinArrayRecord) (first last : Int) :
    Prop :=
  ∀ index, first ≤ index → index ≤ last → ∀ array,
    stored index = some array → array.index = index

theorem Gathers.mem_iff (gathers : Gathers stored first last arrays)
    (array : BinArrayRecord) :
    array ∈ arrays ↔
      ∃ index, (first ≤ index ∧ index ≤ last) ∧ stored index = some array := by
  rw [mem_of_map_eq_map_some gathers]
  simp only [Int.mem_range_iff, Int.lt_add_one_iff]

/-- A bin is found in the array that its id divides to, unless the bounds of the
array overflow. -/
theorem pickArrayForBin_eq (gathers : Gathers stored first last arrays)
    (indexed : IndexedWithin stored first last)
    (above : first ≤ binId / maxBinPerArray)
    (below : binId / maxBinPerArray ≤ last) {array : BinArrayRecord}
    (found : stored (binId / maxBinPerArray) = some array) :
    pickArrayForBin arrays binId =
      if BoundsFit (binId / maxBinPerArray) then .ok array
      else .error notCovered := by
  have within : ∀ other ∈ arrays,
      isBinIdWithinRange other.toBinArray binId = true ↔
        BoundsFit (binId / maxBinPerArray) ∧ other = array := by
    intro other isOther
    obtain ⟨index, ⟨indexAbove, indexBelow⟩, otherFound⟩ :=
      (gathers.mem_iff other).mp isOther
    have otherIndex := indexed index indexAbove indexBelow other otherFound
    rw [isBinIdWithinRange_iff]
    change BoundsFit other.index ∧ _ = other.index ↔ _
    rw [otherIndex]
    constructor
    · rintro ⟨fits, rfl⟩
      exact ⟨fits, Option.some.inj (otherFound.symm.trans found)⟩
    · rintro ⟨fits, rfl⟩
      have sameIndex := indexed _ above below other found
      rw [← otherIndex, sameIndex]
      exact ⟨fits, rfl⟩
  rw [pickArrayForBin]
  cases picked : arrays.find? fun array =>
      isBinIdWithinRange array.toBinArray binId with
  | none =>
      rw [if_neg]
      · rfl
      · intro fits
        have isArray := (gathers.mem_iff array).mpr ⟨_, ⟨above, below⟩, found⟩
        exact List.find?_eq_none.mp picked array isArray
          ((within array isArray).mpr ⟨fits, rfl⟩)
  | some other =>
      have holds : isBinIdWithinRange other.toBinArray binId = true := by
        simpa only using List.find?_some picked
      obtain ⟨fits, rfl⟩ :=
        (within other (List.mem_of_find?_eq_some picked)).mp holds
      rw [if_pos fits]
      rfl

theorem getBinRecord_eq {array : BinArrayRecord} (fits : BoundsFit array.index)
    (inside : binId / maxBinPerArray = array.index) :
    getBinRecord array binId = .ok (array.bins.get (binSlot binId)) := by
  rw [getBinRecord,
    @binIndexInArray_eq_binSlot array.toBinArray binId fits inside]
  rfl

theorem viewAt_eq_some_iff :
    viewAt position stored offset = some view ↔
      ∃ share feeInfo array,
        position.liquidityShare offset = some (some share) ∧
        position.feeInfo offset = some (some feeInfo) ∧
        stored ((position.base.lowerBinId.toInt + offset) / maxBinPerArray) =
          some array ∧
        view = {
          binId := position.base.lowerBinId.toInt + offset
          share, feeInfo
          bin := array.bins.get (binSlot
            (position.base.lowerBinId.toInt + offset)) } := by
  simp only [viewAt, Option.bind_eq_bind, Option.bind_eq_some_iff,
    Option.join_eq_some_iff]
  constructor
  · rintro ⟨share, shareRead, feeInfo, feeRead, array, found, same⟩
    cases same
    exact ⟨share, feeInfo, array, shareRead, feeRead, found, rfl⟩
  · rintro ⟨share, feeInfo, array, shareRead, feeRead, found, rfl⟩
    exact ⟨share, shareRead, feeInfo, feeRead, array, found, rfl⟩

end Lookups

section Loop

variable {position : PositionV2Full} {stored : Int → Option BinArrayRecord}
variable {arrays : List BinArrayRecord} {totals after : Totals}
variable {offset count : Nat} {view : SlotView}

namespace PositionV2Full

/-- Index of the array that holds the first bin of the range. -/
def firstArray (position : PositionV2Full) : Int :=
  position.base.lowerBinId.toInt / maxBinPerArray

/-- Index of the array that holds the last bin of the range. -/
def lastArray (position : PositionV2Full) : Int :=
  position.base.upperBinId.toInt / maxBinPerArray

theorem arrayOf_inside (below : offset < position.width) :
    position.firstArray ≤
        (position.base.lowerBinId.toInt + offset) / maxBinPerArray ∧
      (position.base.lowerBinId.toInt + offset) / maxBinPerArray ≤
        position.lastArray := by
  rw [width] at below
  exact ⟨Int.ediv_le_ediv (by decide) (by omega),
    Int.ediv_le_ediv (by decide) (by omega)⟩

end PositionV2Full

/-- The arrays of a position are gathered under their own indices. -/
structure ArraysReady (position : PositionV2Full)
    (stored : Int → Option BinArrayRecord) (arrays : List BinArrayRecord) :
    Prop where
  gathers : Gathers stored position.firstArray position.lastArray arrays
  indexed : IndexedWithin stored position.firstArray position.lastArray

/-- At a bin with a share the loop adds what the bin holds, unless it cannot find
the bin; a bin without one it passes over. -/
theorem metricsStep_of_view (ready : ArraysReady position stored arrays)
    (below : offset < position.width)
    (viewed : viewAt position stored offset = some view) :
    metricsStep position arrays totals offset =
      if view.share = 0 then .ok totals
      else if BoundsFit (view.binId / maxBinPerArray) then
        (addAmounts totals view.bin view.share.toNat >>= fun middle =>
          addFees middle view.bin view.feeInfo view.share.toNat).mapError .err
      else .error (.err notCovered) := by
  obtain ⟨share, feeInfo, array, shareRead, feeRead, found, rfl⟩ :=
    viewAt_eq_some_iff.mp viewed
  obtain ⟨notBefore, notAfter⟩ := PositionV2Full.arrayOf_inside below
  have picked := pickArrayForBin_eq ready.gathers ready.indexed notBefore
    notAfter found
  have indexEq := ready.indexed _ notBefore notAfter array found
  rw [metricsStep, shareRead]
  by_cases noShare : share = 0
  · rw [if_pos noShare]
    simp only [orPanic, okOr, bind, Except.bind, Except.mapError, noShare, if_true]
    rfl
  rw [if_neg noShare]
  by_cases fits : BoundsFit
      ((position.base.lowerBinId.toInt + offset) / maxBinPerArray)
  · rw [if_pos fits] at picked ⊢
    have got := getBinRecord_eq (indexEq ▸ fits) indexEq.symm
    simp only [orPanic, okOr, bind, Except.bind, Except.mapError, noShare,
      if_false, picked, got, feeRead]
    cases addAmounts totals _ share.toNat <;> rfl
  · rw [if_neg fits] at picked ⊢
    simp only [orPanic, okOr, bind, Except.bind, Except.mapError, noShare,
      if_false, picked]

theorem exists_view (ready : ArraysReady position stored arrays)
    (below : offset < position.width) {share : U128}
    (read : position.liquidityShare offset = some (some share)) :
    ∃ view, viewAt position stored offset = some view := by
  obtain ⟨feeInfo, feeRead⟩ := PositionV2Full.exists_slot read
    position.base.feeInfos (·.feeInfo)
  have present := exists_map_eq_map_some_iff.mp ⟨arrays, ready.gathers⟩ _
    (Int.mem_range_iff.mpr ((PositionV2Full.arrayOf_inside below).imp_right
      Int.lt_add_one_iff.mpr))
  obtain ⟨array, found⟩ := Option.isSome_iff_exists.mp present
  exact ⟨_, viewAt_eq_some_iff.mpr
    ⟨share, feeInfo, array, read, feeRead, found, rfl⟩⟩

theorem metricsStep_of_no_view (ready : ArraysReady position stored arrays)
    (below : offset < position.width)
    (notViewed : viewAt position stored offset = none) :
    metricsStep position arrays totals offset = .error .panic ∨
      metricsStep position arrays totals offset =
        .error (.err "position offset past decoded bins") := by
  cases read : position.liquidityShare offset with
  | none =>
      left
      rw [metricsStep, read]
      rfl
  | some share =>
      cases share with
      | none =>
          right
          rw [metricsStep, read]
          rfl
      | some share =>
          obtain ⟨view, viewed⟩ := exists_view ready below read
          rw [notViewed] at viewed
          cases viewed

theorem metricsStep_eq_ok_iff (ready : ArraysReady position stored arrays)
    (below : offset < position.width) (fit : totals.Fit) :
    metricsStep position arrays totals offset = .ok after ↔
      ∃ view, viewAt position stored offset = some view ∧ view.Passes ∧
        after = totals.plus view ∧ after.Fit := by
  cases viewed : viewAt position stored offset with
  | none =>
      refine iff_of_false ?_ (by simp)
      rcases @metricsStep_of_no_view _ _ _ totals _ ready below viewed with
        step | step
      all_goals
        rw [step]
        exact nofun
  | some view =>
      rw [metricsStep_of_view ready below viewed]
      simp only [Option.some.injEq, exists_eq_left', SlotView.Passes]
      by_cases noShare : view.share = 0
      · rw [if_pos noShare, Totals.plus_of_no_share noShare, Except.ok.injEq]
        constructor
        · rintro rfl
          exact ⟨.inl noShare, rfl, fit⟩
        · rintro ⟨-, rfl, -⟩
          rfl
      rw [if_neg noShare]
      by_cases fits : BoundsFit (view.binId / maxBinPerArray)
      · rw [if_pos fits, mapError_eq_ok_iff,
          addAmounts_addFees_eq_ok_iff noShare]
        simp only [noShare, fits, true_and, false_or]
      · rw [if_neg fits]
        refine iff_of_false nofun ?_
        rintro ⟨noShare' | ⟨fits', -⟩, -⟩
        · exact noShare noShare'
        · exact fits fits'

/-- The errors of adding a bin are not about arrays. -/
theorem addAmounts_addFees_ne_notCovered :
    (addAmounts totals view.bin view.share.toNat >>= fun middle =>
      addFees middle view.bin view.feeInfo view.share.toNat) ≠
      .error notCovered := by
  have overflow : "LBError::MathOverflow" ≠ notCovered := by decide
  have narrowed : "LBError::TypeCastFailed" ≠ notCovered := by decide
  have fee : ∀ stored complete share pending,
      uncollectedFee stored complete share pending ≠ .error notCovered := by
    intro stored complete share pending
    refine bind_ne_error ?_ fun _ _ => okOr_ne_error overflow
    split
    · exact nofun
    · exact bind_ne_error (okOr_ne_error overflow) fun _ _ =>
        okOr_ne_error narrowed
  refine bind_ne_error ?_ fun middle _ => ?_
  · refine bind_ne_error ?_ fun _ _ => ?_
    · rw [binShareToAmounts]
      split
      · exact nofun
      · exact bind_ne_error (okOr_ne_error overflow) fun _ _ =>
          bind_ne_error (okOr_ne_error overflow) fun _ _ =>
          bind_ne_error (okOr_ne_error narrowed) fun _ _ =>
          bind_ne_error (okOr_ne_error narrowed) fun _ _ => nofun
    · exact bind_ne_error (okOr_ne_error overflow) fun _ _ =>
        bind_ne_error (okOr_ne_error overflow) fun _ _ => nofun
  · exact bind_ne_error (fee _ _ _ _) fun _ _ =>
      bind_ne_error (okOr_ne_error overflow) fun _ _ =>
      bind_ne_error (fee _ _ _ _) fun _ _ =>
      bind_ne_error (okOr_ne_error overflow) fun _ _ => nofun

theorem metricsStep_eq_notCovered_iff
    (ready : ArraysReady position stored arrays)
    (below : offset < position.width) :
    metricsStep position arrays totals offset = .error (.err notCovered) ↔
      ∃ view, viewAt position stored offset = some view ∧ view.share ≠ 0 ∧
        ¬ BoundsFit (view.binId / maxBinPerArray) := by
  cases viewed : viewAt position stored offset with
  | none =>
      refine iff_of_false ?_ (by simp)
      rcases @metricsStep_of_no_view _ _ _ totals _ ready below viewed with
        step | step
      · rw [step]
        exact nofun
      · rw [step]
        intro same
        exact absurd (Fault.err.inj (Except.error.inj same)) (by decide)
  | some view =>
      rw [metricsStep_of_view ready below viewed]
      simp only [Option.some.injEq, exists_eq_left']
      by_cases noShare : view.share = 0
      · rw [if_pos noShare]
        simp [noShare]
      rw [if_neg noShare]
      by_cases fits : BoundsFit (view.binId / maxBinPerArray)
      · rw [if_pos fits]
        refine iff_of_false (mapError_ne_error (fun _ _ => Fault.err.inj)
          addAmounts_addFees_ne_notCovered) fun both => both.2 fits
      · rw [if_neg fits]
        exact iff_of_true rfl ⟨noShare, fits⟩

/-- The first bins of the range are passed, and their totals fit. -/
structure PassesUpTo (position : PositionV2Full)
    (stored : Int → Option BinArrayRecord) (count : Nat)
    (views : List SlotView) : Prop where
  viewed : Views position stored count views
  passes : ∀ view ∈ views, view.Passes
  fit : (Totals.sum views).Fit

theorem passesUpTo_succ_iff {views : List SlotView} :
    PassesUpTo position stored (count + 1) views ↔
      ∃ earlier view, views = earlier ++ [view] ∧
        PassesUpTo position stored count earlier ∧
        viewAt position stored count = some view ∧ view.Passes ∧
        ((Totals.sum earlier).plus view).Fit := by
  constructor
  · rintro ⟨viewed, passes, fit⟩
    obtain ⟨earlier, view, rfl, viewedEarlier, viewedLast⟩ :=
      map_range_succ_eq_iff.mp viewed
    rw [Totals.sum_concat] at fit
    exact ⟨earlier, view, rfl,
      ⟨viewedEarlier, fun other isOther =>
        passes other (List.mem_append_left _ isOther), fit.of_plus⟩,
      viewedLast, passes view (List.mem_append_right _ List.mem_cons_self), fit⟩
  · rintro ⟨earlier, view, rfl, ⟨viewed, passes, -⟩, viewedLast, passesLast, fit⟩
    refine ⟨map_range_succ_eq_iff.mpr ⟨earlier, view, rfl, viewed, viewedLast⟩,
      fun other isOther => ?_, Totals.sum_concat ▸ fit⟩
    rcases List.mem_append.mp isOther with isEarlier | isLast
    · exact passes other isEarlier
    · rw [List.mem_singleton.mp isLast]
      exact passesLast

/-- The loop ends in the totals of the bins, if it passes all of them. -/
theorem metricsLoop_eq_ok_iff (ready : ArraysReady position stored arrays)
    (inside : count ≤ position.width) :
    rangeLoop (metricsStep position arrays) ⟨0, 0, 0, 0⟩ count = .ok totals ↔
      ∃ views, PassesUpTo position stored count views ∧
        totals = Totals.sum views := by
  let reaches : Nat → Totals → Prop := fun count totals =>
    ∃ views, PassesUpTo position stored count views ∧ totals = Totals.sum views
  refine @rangeLoop_eq_ok_iff _ _ _ _ _ _ reaches (fun totals => ?_)
    fun index below after => ?_
  · constructor
    · rintro ⟨views, ⟨viewed, -, -⟩, rfl⟩
      obtain rfl := List.map_eq_nil_iff.mp viewed.symm
      rfl
    · rintro rfl
      refine ⟨[], ⟨rfl, nofun, fun side => ?_⟩, rfl⟩
      cases side <;> decide
  · have belowWidth := below.trans_le inside
    simp only [reaches, passesUpTo_succ_iff]
    constructor
    · rintro ⟨_, ⟨earlier, view, rfl, passes, viewed, passesLast, fit⟩, rfl⟩
      refine ⟨Totals.sum earlier, ⟨earlier, passes, rfl⟩, ?_⟩
      rw [metricsStep_eq_ok_iff ready belowWidth passes.fit, Totals.sum_concat]
      exact ⟨view, viewed, passesLast, rfl, fit⟩
    · rintro ⟨_, ⟨earlier, passes, rfl⟩, stepped⟩
      obtain ⟨view, viewed, passesLast, rfl, fit⟩ :=
        (metricsStep_eq_ok_iff ready belowWidth passes.fit).mp stepped
      exact ⟨_, ⟨earlier, view, rfl, passes, viewed, passesLast, fit⟩,
        Totals.sum_concat.symm⟩

/-- The loop reports a bin as not covered if it gets to a bin with a share in an
array whose bounds overflow. -/
theorem metricsLoop_eq_notCovered_iff
    (ready : ArraysReady position stored arrays) :
    rangeLoop (metricsStep position arrays) ⟨0, 0, 0, 0⟩ position.width =
        .error (.err notCovered) ↔
      ∃ offset < position.width, ∃ views,
        PassesUpTo position stored offset views ∧
        ∃ view, viewAt position stored offset = some view ∧ view.share ≠ 0 ∧
          ¬ BoundsFit (view.binId / maxBinPerArray) := by
  rw [rangeLoop_eq_error_iff]
  constructor
  · rintro ⟨offset, below, totals, looped, stepped⟩
    obtain ⟨views, passes, -⟩ :=
      (metricsLoop_eq_ok_iff ready below.le).mp looped
    exact ⟨offset, below, views, passes,
      (metricsStep_eq_notCovered_iff ready below).mp stepped⟩
  · rintro ⟨offset, below, views, passes, missed⟩
    exact ⟨offset, below, Totals.sum views,
      (metricsLoop_eq_ok_iff ready below.le).mpr ⟨views, passes, rfl⟩,
      (metricsStep_eq_notCovered_iff ready below).mpr missed⟩

end Loop

section Metrics

variable {deriveBinArrayAddress : Pubkey → Int → Pubkey} {pool : Pubkey}
variable {position : PositionV2Full} {pair : LbPair}
variable {binArrays : Pubkey → Option BinArrayRecord}
variable {arrays : List BinArrayRecord} {metrics : PositionMetrics}

/-- The array cached under the address of an index. -/
def cached (deriveBinArrayAddress : Pubkey → Int → Pubkey) (pool : Pubkey)
    (binArrays : Pubkey → Option BinArrayRecord) (index : Int) :
    Option BinArrayRecord :=
  binArrays (deriveBinArrayAddress pool index)

/-- Every array of the position is cached. -/
def AllCached (deriveBinArrayAddress : Pubkey → Int → Pubkey) (pool : Pubkey)
    (position : PositionV2Full) (binArrays : Pubkey → Option BinArrayRecord) :
    Prop :=
  ∀ keys, binArrayKeysForPosition deriveBinArrayAddress pool position.base =
    .ok keys → ∀ key ∈ keys, (binArrays key).isSome

/-- The arrays that are cached under the addresses of their indices. -/
def CachedByIndex (deriveBinArrayAddress : Pubkey → Int → Pubkey)
    (pool : Pubkey) (binArrays : Pubkey → Option BinArrayRecord) : Prop :=
  ∀ index, -2 ^ 63 ≤ index → index < 2 ^ 63 → ∀ array,
    binArrays (deriveBinArrayAddress pool index) = some array →
      array.index = index

theorem binIdToBinArrayIndex_toInt (binId : BitVec 32) :
    binIdToBinArrayIndex binId.toInt = .ok (binId.toInt / maxBinPerArray) :=
  binIdToBinArrayIndex_of_range (BitVec.le_toInt binId) BitVec.toInt_lt

theorem binArrayKeysForPosition_eq (base : PositionV2) :
    binArrayKeysForPosition deriveBinArrayAddress pool base =
      if base.upperBinId.toInt < base.lowerBinId.toInt then
        .error "LBError::InvalidBinId"
      else .ok ((Int.range (base.lowerBinId.toInt / maxBinPerArray)
        (base.upperBinId.toInt / maxBinPerArray + 1)).map
          (deriveBinArrayAddress pool)) := by
  rw [binArrayKeysForPosition, binArrayKeysForRange]
  by_cases reversed : base.upperBinId.toInt < base.lowerBinId.toInt
  · rw [if_pos reversed, if_pos reversed]
    rfl
  · rw [if_neg reversed, if_neg reversed, binIdToBinArrayIndex_toInt,
      binIdToBinArrayIndex_toInt]
    rfl

theorem computeMetrics_of_gathers
    (ordered : position.base.lowerBinId.toInt ≤ position.base.upperBinId.toInt)
    (gathers : Gathers (cached deriveBinArrayAddress pool binArrays)
      position.firstArray position.lastArray arrays) :
    computeMetrics deriveBinArrayAddress pool position pair binArrays =
      rangeLoop (metricsStep position arrays) ⟨0, 0, 0, 0⟩ position.width >>=
        reportMetrics position pair := by
  have collected := (@mapM_okOr_eq_ok_iff _ _
    ((Int.range position.firstArray (position.lastArray + 1)).map
      (deriveBinArrayAddress pool)) arrays binArrays
    "position bin array missing from cache snapshot").mpr (by
      rw [List.map_map]
      exact gathers)
  rw [computeMetrics, binArrayKeysForPosition_eq, if_neg (not_lt.mpr ordered)]
  simp only [PositionV2Full.firstArray, PositionV2Full.lastArray] at collected
  simp only [bind, Except.bind, Except.mapError, collected]
  rfl

theorem allCached_iff
    (ordered : position.base.lowerBinId.toInt ≤ position.base.upperBinId.toInt) :
    AllCached deriveBinArrayAddress pool position binArrays ↔
      ∃ arrays, Gathers (cached deriveBinArrayAddress pool binArrays)
        position.firstArray position.lastArray arrays := by
  rw [AllCached, binArrayKeysForPosition_eq, if_neg (not_lt.mpr ordered)]
  simp only [Except.ok.injEq, forall_eq', Gathers, exists_map_eq_map_some_iff,
    List.forall_mem_map, cached, PositionV2Full.firstArray,
    PositionV2Full.lastArray]

theorem ready_of_cachedByIndex
    (byIndex : CachedByIndex deriveBinArrayAddress pool binArrays)
    (gathers : Gathers (cached deriveBinArrayAddress pool binArrays)
      position.firstArray position.lastArray arrays) :
    ArraysReady position (cached deriveBinArrayAddress pool binArrays)
      arrays := by
  refine ⟨gathers, fun index above below array found => ?_⟩
  have sizeEq : ((maxBinPerArray : Nat) : Int) = 70 := rfl
  have lowest : -2 ^ 31 ≤ position.base.lowerBinId.toInt := BitVec.le_toInt _
  have highest : position.base.upperBinId.toInt < 2 ^ 31 := BitVec.toInt_lt
  rw [PositionV2Full.firstArray, sizeEq] at above
  rw [PositionV2Full.lastArray, sizeEq] at below
  exact byIndex index (by omega) (by omega) array found

/-- Without all the arrays there are no metrics, and the error is not about a
bin. -/
theorem computeMetrics_of_not_gathers
    (notGathered : position.base.lowerBinId.toInt ≤
      position.base.upperBinId.toInt → ∀ arrays,
        ¬ Gathers (cached deriveBinArrayAddress pool binArrays)
          position.firstArray position.lastArray arrays) :
    ∃ message, message ≠ notCovered ∧
      computeMetrics deriveBinArrayAddress pool position pair binArrays =
        .error (.err message) := by
  rw [computeMetrics, binArrayKeysForPosition_eq]
  by_cases reversed : position.base.upperBinId.toInt <
      position.base.lowerBinId.toInt
  · rw [if_pos reversed]
    exact ⟨"LBError::InvalidBinId", by decide, rfl⟩
  rw [if_neg reversed]
  cases collected : ((Int.range (position.base.lowerBinId.toInt / maxBinPerArray)
      (position.base.upperBinId.toInt / maxBinPerArray + 1)).map
        (deriveBinArrayAddress pool)).mapM fun key => okOr (binArrays key)
          "position bin array missing from cache snapshot" with
  | error message =>
      refine ⟨message, ?_, ?_⟩
      · rintro rfl
        exact mapM_okOr_ne_error (by decide) collected
      · simp only [bind, Except.bind, Except.mapError, collected]
  | ok arrays =>
      have gathers := mapM_okOr_eq_ok_iff.mp collected
      rw [List.map_map] at gathers
      exact absurd gathers (notGathered (not_lt.mp reversed) arrays)

theorem reportMetrics_sums {totals : Totals}
    (reported : reportMetrics position pair totals = .ok metrics)
    (side : TokenSide) :
    metrics.currentValue side = totals.currentValue side ∧
      metrics.uncollectedFee side = totals.fee side := by
  obtain ⟨width, -, built⟩ := bind_eq_ok_iff.mp reported
  cases built
  cases side <;> exact ⟨rfl, rfl⟩

theorem reportMetrics_ne_notCovered (totals : Totals) :
    reportMetrics position pair totals ≠ .error (.err notCovered) := by
  refine bind_ne_error ?_ fun _ _ => nofun
  cases binWidth position.base.lowerBinId.toInt position.base.upperBinId.toInt
  · exact nofun
  · exact nofun

/-- Metrics are the totals of the bins of the range, all of which are passed. -/
theorem passesUpTo_of_computeMetrics
    (byIndex : CachedByIndex deriveBinArrayAddress pool binArrays)
    (computed : computeMetrics deriveBinArrayAddress pool position pair
      binArrays = .ok metrics) :
    AllCached deriveBinArrayAddress pool position binArrays ∧
      ∃ views, PassesUpTo position (cached deriveBinArrayAddress pool binArrays)
        position.width views ∧ ∀ side,
          metrics.currentValue side = (views.map (·.value side)).sum ∧
          metrics.uncollectedFee side = (views.map (·.added side)).sum := by
  by_cases gathered : position.base.lowerBinId.toInt ≤
      position.base.upperBinId.toInt ∧
        ∃ arrays, Gathers (cached deriveBinArrayAddress pool binArrays)
          position.firstArray position.lastArray arrays
  · obtain ⟨ordered, arrays, gathers⟩ := gathered
    rw [computeMetrics_of_gathers ordered gathers, bind_eq_ok_iff] at computed
    obtain ⟨totals, looped, reported⟩ := computed
    obtain ⟨views, passes, rfl⟩ := (metricsLoop_eq_ok_iff
      (ready_of_cachedByIndex byIndex gathers) le_rfl).mp looped
    refine ⟨(allCached_iff ordered).mpr ⟨arrays, gathers⟩, views, passes,
      fun side => ?_⟩
    rw [← Totals.currentValue_sum, ← Totals.fee_sum]
    exact reportMetrics_sums reported side
  · obtain ⟨message, -, failed⟩ := @computeMetrics_of_not_gathers
      deriveBinArrayAddress pool position pair binArrays
      fun ordered arrays gathers => gathered ⟨ordered, arrays, gathers⟩
    rw [failed] at computed
    cases computed

/-- Where all bins of the range are passed there are metrics. -/
theorem exists_metrics
    (byIndex : CachedByIndex deriveBinArrayAddress pool binArrays)
    (allCached : AllCached deriveBinArrayAddress pool position binArrays)
    (ordered : position.base.lowerBinId.toInt ≤ position.base.upperBinId.toInt)
    {views : List SlotView}
    (passes : PassesUpTo position (cached deriveBinArrayAddress pool binArrays)
      position.width views) :
    ∃ metrics, computeMetrics deriveBinArrayAddress pool position pair
      binArrays = .ok metrics := by
  obtain ⟨arrays, gathers⟩ := (allCached_iff ordered).mp allCached
  have looped := (metricsLoop_eq_ok_iff
    (ready_of_cachedByIndex byIndex gathers) le_rfl).mpr ⟨views, passes, rfl⟩
  -- the range has a first bin, and its share is read only if the width fits
  have isFirst : 0 ∈ List.range position.width := by
    rw [List.mem_range, PositionV2Full.width]
    omega
  have viewed := exists_map_eq_map_some_iff.mp ⟨views, passes.viewed⟩ 0 isFirst
  obtain ⟨view, viewed⟩ := Option.isSome_iff_exists.mp viewed
  obtain ⟨share, -, -, read, -⟩ := viewAt_eq_some_iff.mp viewed
  obtain ⟨count, counted, -⟩ := Option.bind_eq_some_iff.mp read
  obtain ⟨width, fits, -⟩ := Option.map_eq_some_iff.mp counted
  rw [computeMetrics_of_gathers ordered gathers, looped]
  simp only [bind, Except.bind, reportMetrics, fits, orPanic]
  exact ⟨_, rfl⟩

/-- A bin is reported as not covered exactly when the arrays are there and the
loop gets to a bin with a share in an array whose bounds overflow. -/
theorem computeMetrics_eq_notCovered_iff
    (byIndex : CachedByIndex deriveBinArrayAddress pool binArrays)
    (allCached : AllCached deriveBinArrayAddress pool position binArrays) :
    computeMetrics deriveBinArrayAddress pool position pair binArrays =
        .error (.err notCovered) ↔
      ∃ offset < position.width, ∃ views,
        PassesUpTo position (cached deriveBinArrayAddress pool binArrays)
          offset views ∧
        ∃ view, viewAt position (cached deriveBinArrayAddress pool binArrays)
            offset = some view ∧ view.share ≠ 0 ∧
          ¬ BoundsFit (view.binId / maxBinPerArray) := by
  by_cases ordered : position.base.lowerBinId.toInt ≤
      position.base.upperBinId.toInt
  · obtain ⟨arrays, gathers⟩ := (allCached_iff ordered).mp allCached
    rw [computeMetrics_of_gathers ordered gathers, ← metricsLoop_eq_notCovered_iff
      (ready_of_cachedByIndex byIndex gathers)]
    constructor
    · intro failed
      by_contra looped
      exact bind_ne_error looped (fun totals _ =>
        reportMetrics_ne_notCovered totals) failed
    · intro looped
      rw [looped]
      rfl
  · obtain ⟨message, different, failed⟩ := @computeMetrics_of_not_gathers
      deriveBinArrayAddress pool position pair binArrays
      fun ordered' => absurd ordered' ordered
    rw [failed]
    refine iff_of_false
      (fun same => different (Fault.err.inj (Except.error.inj same))) ?_
    rintro ⟨offset, below, -⟩
    rw [PositionV2Full.width] at below
    omega

end Metrics

section Exact

/-- The metrics count every bin of the range, with the fees that are owed, and no
bin is reported as not covered when the arrays are there. -/
structure CountsEveryBin (deriveBinArrayAddress : Pubkey → Int → Pubkey)
    (pool : Pubkey) (position : PositionV2Full) (pair : LbPair)
    (binArrays : Pubkey → Option BinArrayRecord) : Prop where
  counted : ∀ metrics,
    computeMetrics deriveBinArrayAddress pool position pair binArrays =
      .ok metrics →
    ∃ views, Views position (cached deriveBinArrayAddress pool binArrays)
      position.width views ∧ ∀ side,
        metrics.uncollectedFee side = (views.map (·.owed side)).sum ∧
        metrics.currentValue side = (views.map (·.value side)).sum
  covered : AllCached deriveBinArrayAddress pool position binArrays →
    computeMetrics deriveBinArrayAddress pool position pair binArrays ≠
      .error (.err notCovered)

/-- If the loop passes every bin, the fees that it drops are as much as those
that it adds in excess, on both sides. -/
def FeesBalance (position : PositionV2Full)
    (stored : Int → Option BinArrayRecord) : Prop :=
  ∀ views, PassesUpTo position stored position.width views → ∀ side,
    (views.map (·.dropped side)).sum = (views.map (·.excess side)).sum

/-- No bin with a share that the loop gets to is in an array whose bounds
overflow. -/
def SharesWithinBounds (position : PositionV2Full)
    (stored : Int → Option BinArrayRecord) : Prop :=
  ∀ offset < position.width, ∀ views, PassesUpTo position stored offset views →
    ∀ view, viewAt position stored offset = some view → view.share ≠ 0 →
      BoundsFit (view.binId / maxBinPerArray)

theorem sum_added_add_sum_dropped (views : List SlotView) (side : TokenSide) :
    (views.map (·.added side)).sum + (views.map (·.dropped side)).sum =
      (views.map (·.owed side)).sum + (views.map (·.excess side)).sum := by
  rw [← List.sum_map_add, ← List.sum_map_add]
  congr 1
  exact List.map_congr_left fun view _ => view.added_add_dropped side

/-- Metrics with the fees that are owed balance what is dropped with the
excess. -/
theorem feesBalance_of_countsEveryBin
    {deriveBinArrayAddress : Pubkey → Int → Pubkey} {pool : Pubkey}
    {position : PositionV2Full} {pair : LbPair}
    {binArrays : Pubkey → Option BinArrayRecord}
    (byIndex : CachedByIndex deriveBinArrayAddress pool binArrays)
    (allCached : AllCached deriveBinArrayAddress pool position binArrays)
    (counts : CountsEveryBin deriveBinArrayAddress pool position pair
      binArrays) :
    FeesBalance position (cached deriveBinArrayAddress pool binArrays) := by
  intro views passes side
  by_cases ordered : position.base.lowerBinId.toInt ≤
      position.base.upperBinId.toInt
  · obtain ⟨metrics, computed⟩ := @exists_metrics _ _ _ pair _ byIndex allCached
      ordered _ passes
    obtain ⟨owing, viewed, owed⟩ := counts.counted metrics computed
    obtain ⟨-, adding, passed, added⟩ :=
      passesUpTo_of_computeMetrics byIndex computed
    obtain rfl := viewed.unique passes.viewed
    obtain rfl := passed.viewed.unique viewed
    have balance := sum_added_add_sum_dropped adding side
    rw [← (added side).2, ← (owed side).1] at balance
    exact Nat.add_left_cancel balance
  · have noBins : position.width = 0 := by
      rw [PositionV2Full.width]
      omega
    have viewed := passes.viewed
    rw [noBins] at viewed
    obtain rfl := List.map_eq_nil_iff.mp viewed.symm
    rfl

/-- The metrics count every bin exactly when the dropped fees happen to balance
the excess and no share lies at the edge of the `i32` range. -/
theorem countsEveryBin_iff (deriveBinArrayAddress : Pubkey → Int → Pubkey)
    (pool : Pubkey) (position : PositionV2Full) (pair : LbPair)
    (binArrays : Pubkey → Option BinArrayRecord)
    (byIndex : CachedByIndex deriveBinArrayAddress pool binArrays) :
    CountsEveryBin deriveBinArrayAddress pool position pair binArrays ↔
      (AllCached deriveBinArrayAddress pool position binArrays →
        FeesBalance position (cached deriveBinArrayAddress pool binArrays) ∧
        SharesWithinBounds position
          (cached deriveBinArrayAddress pool binArrays)) := by
  constructor
  · intro counts allCached
    refine ⟨feesBalance_of_countsEveryBin byIndex allCached counts, ?_⟩
    intro offset below views passes view viewed held
    by_contra overflows
    exact counts.covered allCached
      ((computeMetrics_eq_notCovered_iff byIndex allCached).mpr
        ⟨offset, below, views, passes, view, viewed, held, overflows⟩)
  · intro right
    constructor
    · intro metrics computed
      obtain ⟨allCached, views, passes, sums⟩ :=
        passesUpTo_of_computeMetrics byIndex computed
      refine ⟨views, passes.viewed, fun side => ⟨?_, (sums side).1⟩⟩
      have balance := sum_added_add_sum_dropped views side
      rw [(right allCached).1 views passes side] at balance
      rw [(sums side).2]
      exact Nat.add_right_cancel balance
    · intro allCached failed
      obtain ⟨offset, below, views, passes, view, viewed, held, overflows⟩ :=
        (computeMetrics_eq_notCovered_iff byIndex allCached).mp failed
      exact overflows
        ((right allCached).2 offset below views passes view viewed held)

/-- A position over bin `0`, with a share and with fees that wait there. -/
def oneBinPosition (share : U128) : PositionV2Full where
  base := {
    discriminator := positionV2Discriminator
    lbPair := 0
    owner := 0
    liquidityShares := .replicate 70 share
    rewardInfos := .replicate 70 (.replicate 48 0)
    feeInfos := .replicate 70 ⟨0, 0, 5, 0⟩
    lowerBinId := 0
    upperBinId := 0
    unread := .replicate 200 0 }
  extendedBins := []

/-- The arrays with array `0` cached under its own address. -/
def arrayZeroCached (key : Pubkey) : Option BinArrayRecord :=
  if key = indexedAddress 0 0 then
    some { index := 0, bins := .replicate 70 balancedBin }
  else none

theorem arrayZeroCached_byIndex :
    CachedByIndex indexedAddress 0 arrayZeroCached := by
  intro index above below array found
  rw [arrayZeroCached] at found
  split_ifs at found with same
  · cases found
    exact (indexedAddress_injOn_i64 0 ⟨above, below⟩ (by decide) same).symm

theorem countsEveryBin_iff_oneBin :
    CountsEveryBin indexedAddress 0 (oneBinPosition 1) onePercentPair
        arrayZeroCached ↔
      (AllCached indexedAddress 0 (oneBinPosition 1) arrayZeroCached →
        FeesBalance (oneBinPosition 1)
            (cached indexedAddress 0 arrayZeroCached) ∧
          SharesWithinBounds (oneBinPosition 1)
            (cached indexedAddress 0 arrayZeroCached)) :=
  countsEveryBin_iff indexedAddress 0 (oneBinPosition 1) onePercentPair
    arrayZeroCached arrayZeroCached_byIndex

/-- Fees that wait in a bin without a share are not counted. -/
theorem oneBinPosition_drops_pending :
    CachedByIndex indexedAddress 0 arrayZeroCached ∧
      ¬ CountsEveryBin indexedAddress 0 (oneBinPosition 0) onePercentPair
        arrayZeroCached := by
  refine ⟨arrayZeroCached_byIndex, fun counts => ?_⟩
  have computed : computeMetrics indexedAddress 0 (oneBinPosition 0)
      onePercentPair arrayZeroCached = .ok ⟨0, 0, 0, 0, .inRange, 1⟩ := by
    decide +kernel
  obtain ⟨views, viewed, sums⟩ := counts.counted _ computed
  have viewedOne : Views (oneBinPosition 0)
      (cached indexedAddress 0 arrayZeroCached) (oneBinPosition 0).width
      [⟨0, 0, balancedBin, ⟨0, 0, 5, 0⟩⟩] := by
    decide +kernel
  obtain rfl := viewed.unique viewedOne
  exact absurd (sums .x).1 (by decide)

end Exact

end MeteoraDlmm

end SolanaProtocols
