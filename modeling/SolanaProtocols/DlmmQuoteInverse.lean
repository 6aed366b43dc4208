import SolanaProtocols.DlmmQuoteTermination
import SolanaProtocols.ProportionalCharge

/-!
# Exact-out quotes are minimal

An exact-out quote charges each bin the least input that buys the output taken
from it, and an exact-in quote takes from each bin what its input buys.  On the
same pool the two walks visit the same bins at the same fee rates, so the input
an exact-out quote asks for delivers the output and no smaller input does.
-/

namespace SolanaProtocols

namespace MeteoraDlmm

open BitScan ProportionalCharge

section Price

theorem mulScaled_lt {x y product : Nat} (ok : mulScaled x y = some product) :
    product < 2 ^ 128 := by
  simp only [mulScaled, Option.bind_eq_bind, Option.bind_eq_some_iff,
    checkedMul_eq_some_iff] at ok
  obtain ⟨_, ⟨bounded, rfl⟩, ok⟩ := ok
  cases ok
  exact (Nat.shiftRight_le _ _).trans_lt bounded

theorem powStep_lt {exponent bit : Nat} {state after : Nat × Nat}
    (before : state.2 < 2 ^ 128)
    (ok : powStep exponent state bit = some after) : after.2 < 2 ^ 128 := by
  simp only [powStep, Option.bind_eq_bind, Option.bind_eq_some_iff] at ok
  obtain ⟨squaredBase, -, result, resultEq, ok⟩ := ok
  cases ok
  split_ifs at resultEq
  · exact mulScaled_lt resultEq
  · cases resultEq
    exact before

theorem foldlM_powStep_lt {exponent : Nat} {bits : List Nat}
    {state after : Nat × Nat} (before : state.2 < 2 ^ 128)
    (ok : bits.foldlM (powStep exponent) state = some after) :
    after.2 < 2 ^ 128 := by
  induction bits generalizing state with
  | nil =>
      cases ok
      exact before
  | cons bit bits ih =>
      rw [List.foldlM_cons, Option.bind_eq_bind, Option.bind_eq_some_iff] at ok
      obtain ⟨next, stepEq, rest⟩ := ok
      exact ih (powStep_lt before stepEq) rest

/-- A power that does not overflow is positive. -/
theorem pow_pos {base price : Nat} {exp : Int} (ok : pow base exp = some price) :
    0 < price := by
  by_cases zero : exp = 0
  · rw [pow, if_pos zero] at ok
    cases ok
    decide
  by_cases large : maxExponential ≤ exp.natAbs
  · rw [pow, if_neg zero, if_pos large] at ok
    cases ok
  rw [pow, if_neg zero, if_neg large] at ok
  simp only [Option.bind_eq_bind, Option.bind_eq_some_iff] at ok
  obtain ⟨⟨squaredBase, invert⟩, -, start, startEq, ⟨squared, result⟩, foldEq,
    ok⟩ := ok
  have startLt : start < 2 ^ 128 := by
    split_ifs at startEq
    · exact mulScaled_lt startEq
    · cases startEq
      decide
  have resultLt : result < 2 ^ 128 := foldlM_powStep_lt startLt foldEq
  by_cases vanishes : result = 0
  · rw [if_pos vanishes] at ok
    cases ok
  rw [if_neg vanishes] at ok
  split_ifs at ok
  · rw [checkedDiv_eq_some_iff] at ok
    rw [← ok.2]
    exact Nat.div_pos (by omega) (by omega)
  · cases ok
    omega

theorem getOrStoreBinPrice_pos {bin priced : Bin} {id : Int}
    {binStep price : Nat}
    (ok : getOrStoreBinPrice bin id binStep = .ok (price, priced)) :
    0 < price := by
  rw [getOrStoreBinPrice] at ok
  split_ifs at ok with missing
  · simp only [bind_eq_ok_iff, getPriceFromId, okOr_eq_ok_iff] at ok
    obtain ⟨stored, ⟨-, -, -, -, base, -, powEq⟩, ok⟩ := ok
    cases ok
    exact pow_pos powEq
  · cases ok
    omega

end Price

section Amounts

variable {swapForY : Bool} {pair : LbPair} {bin stored : Bin}
variable {amount price rate fee : Nat}

/-- Inputs that `rateUnit` outputs cost, before fees. -/
def rateCost (swapForY : Bool) (price : Nat) : Nat :=
  if swapForY then one else price

def rateUnit (swapForY : Bool) (price : Nat) : Nat :=
  if swapForY then price else one

theorem rateCost_pos (pricePos : 0 < price) : 0 < rateCost swapForY price := by
  cases swapForY
  · exact pricePos
  · exact Nat.two_pow_pos _

theorem rateUnit_pos (pricePos : 0 < price) : 0 < rateUnit swapForY price := by
  cases swapForY
  · exact Nat.two_pow_pos _
  · exact pricePos

theorem mulDiv_up {x y denominator quotient : Nat}
    (ok : mulDiv x y denominator .up = some quotient) :
    quotient = (x * y) ⌈/⌉ denominator := by
  rw [mulDiv] at ok
  split_ifs at ok
  · cases ok
  · simp only [Option.bind_eq_bind, Option.bind_eq_some_iff,
      checkedMul_eq_some_iff, tryFrom_eq_some_iff] at ok
    obtain ⟨_, ⟨-, rfl⟩, -, rfl⟩ := ok
    rfl

theorem mulDiv_down_eq_some_iff {x y denominator quotient : Nat} :
    mulDiv x y denominator .down = some quotient ↔
      denominator ≠ 0 ∧ x * y < 2 ^ 256 ∧ quotient < 2 ^ 128 ∧
        quotient = x * y / denominator := by
  rw [mulDiv]
  split_ifs with isZero
  · exact ⟨nofun, fun holds => absurd isZero holds.1⟩
  · simp only [Option.bind_eq_bind, Option.bind_eq_some_iff,
      checkedMul_eq_some_iff, tryFrom_eq_some_iff]
    constructor
    · rintro ⟨_, ⟨fits, rfl⟩, quotientFits, rfl⟩
      exact ⟨isZero, fits, quotientFits, rfl⟩
    · rintro ⟨-, fits, quotientFits, rfl⟩
      exact ⟨_, ⟨fits, rfl⟩, quotientFits, rfl⟩

theorem mulDiv_down {x y denominator quotient : Nat}
    (ok : mulDiv x y denominator .down = some quotient) :
    quotient = x * y / denominator :=
  (mulDiv_down_eq_some_iff.mp ok).2.2.2

theorem checkedShl_scaleOffset : checkedShl 128 1 scaleOffset = some one := by
  decide

theorem safeMulShrCast_cases {x y quotient : Nat} {rounding : Rounding}
    (ok : safeMulShrCast x y scaleOffset rounding = .ok quotient) :
    mulDiv x y one rounding = some quotient := by
  simp only [safeMulShrCast, bind_eq_ok_iff, okOr_eq_ok_iff,
    safeCast_eq_ok_iff, mulShr, checkedShl_scaleOffset] at ok
  obtain ⟨_, ok, -, rfl⟩ := ok
  exact ok

theorem safeShlDivCast_cases {x y quotient : Nat} {rounding : Rounding}
    (ok : safeShlDivCast x y scaleOffset rounding = .ok quotient) :
    mulDiv x one y rounding = some quotient := by
  simp only [safeShlDivCast, bind_eq_ok_iff, okOr_eq_ok_iff,
    safeCast_eq_ok_iff, shlDiv, checkedShl_scaleOffset] at ok
  obtain ⟨_, ok, -, rfl⟩ := ok
  exact ok

theorem getAmountIn_eq {amountIn : Nat}
    (ok : getAmountIn amount price swapForY = .ok amountIn) :
    amountIn =
      scaleUp (rateCost swapForY price) (rateUnit swapForY price) amount := by
  cases swapForY
  · exact mulDiv_up (safeMulShrCast_cases ok)
  · exact mulDiv_up (safeShlDivCast_cases ok)

theorem getAmountOut_eq {amountOut : Nat}
    (ok : getAmountOut amount price swapForY = .ok amountOut) :
    amountOut =
      scaleDown (rateCost swapForY price) (rateUnit swapForY price) amount := by
  cases swapForY
  · exact mulDiv_down (safeShlDivCast_cases ok)
  · rw [mulDiv_down (safeMulShrCast_cases ok), Nat.mul_comm]
    rfl

theorem getTotalFee_lt (ok : getTotalFee pair = .ok rate) :
    rate < feePrecision := by
  simp only [getTotalFee, bind_eq_ok_iff] at ok
  obtain ⟨_, -, _, -, total, -, ok⟩ := ok
  cases ok
  exact (Nat.min_le_right _ _).trans_lt (by decide)

theorem computeFee_cases (ok : computeFee pair amount = .ok fee) :
    ∃ rate, getTotalFee pair = .ok rate ∧
      fee = feeOnTop feePrecision rate amount := by
  simp only [computeFee, safeSub, safeAdd, safeMul, safeDiv, safeCast,
    bind_eq_ok_iff, okOr_eq_ok_iff, checkedSub_eq_some_iff,
    checkedAdd_eq_some_iff, checkedMul_eq_some_iff, checkedDiv_eq_some_iff,
    tryFrom_eq_some_iff] at ok
  obtain ⟨rate, rateEq, _, ⟨-, rfl⟩, _, ⟨-, rfl⟩, _, ⟨-, rfl⟩, _, ⟨-, rfl⟩, _,
    ⟨-, rfl⟩, -, rfl⟩ := ok
  exact ⟨rate, rateEq, rfl⟩

theorem computeFeeFromAmount_eq (rateEq : getTotalFee pair = .ok rate)
    (ok : computeFeeFromAmount pair amount = .ok fee) :
    fee = feeIncluded feePrecision rate amount := by
  simp only [computeFeeFromAmount, rateEq, safeAdd, safeMul, safeDiv, safeCast,
    bind_eq_ok_iff, okOr_eq_ok_iff, checkedAdd_eq_some_iff,
    checkedMul_eq_some_iff, checkedDiv_eq_some_iff, tryFrom_eq_some_iff,
    Except.ok.injEq] at ok
  obtain ⟨_, rfl, _, ⟨-, rfl⟩, _, ⟨-, rfl⟩, _, ⟨-, rfl⟩, -, rfl⟩ := ok
  rw [feeIncluded, Nat.ceilDiv_eq_add_pred_div, Nat.add_sub_assoc]
  exact Nat.one_le_iff_ne_zero.mpr (by decide)

/-- Input, fee included, for an output at the price of a bin. -/
def costOf (swapForY : Bool) (rate price output : Nat) : Nat :=
  needed feePrecision rate (rateCost swapForY price) (rateUnit swapForY price)
    output

/-- Output for an input, fee included, at the price of a bin. -/
def boughtBy (swapForY : Bool) (rate price input : Nat) : Nat :=
  delivered feePrecision rate (rateCost swapForY price)
    (rateUnit swapForY price) input

theorem costOf_gc (rateLt : rate < feePrecision) (pricePos : 0 < price) :
    GaloisConnection (costOf swapForY rate price)
      (boughtBy swapForY rate price) :=
  needed_gc rateLt (rateCost_pos pricePos) (rateUnit_pos pricePos)

/-- A swap uses as much of the input as draining the bin costs, and gives what
that buys. -/
theorem binSwap_cases {result : BinSwapResult} (pricePos : 0 < price)
    (ok : binSwap bin amount price swapForY pair none = .ok (result, stored)) :
    ∃ rate, getTotalFee pair = .ok rate ∧
      result.amountInWithFees =
        min amount (costOf swapForY rate price (maxAmountOut bin swapForY)) ∧
      result.amountOut =
        min (boughtBy swapForY rate price amount) (maxAmountOut bin swapForY) ∧
      result.fee = feeIncluded feePrecision rate result.amountInWithFees := by
  obtain ⟨amountIntoBin, ok⟩ := exists_amounts_of_binSwap ok
  simp only [binSwapAmounts, bind_eq_ok_iff] at ok
  obtain ⟨maxIn, maxInEq, maxFee, maxFeeEq, drainIn, drainInEq,
    ⟨used, out, fee, protocolFee⟩, amountsEq, hostFee, -, afterHost, -,
    intoBin, -, ok⟩ := ok
  cases ok
  rw [maxAmountIn_eq] at maxInEq
  obtain ⟨rate, rateEq, rfl⟩ := computeFee_cases maxFeeEq
  have rateLt := getTotalFee_lt rateEq
  rw [getAmountIn_eq maxInEq] at drainInEq amountsEq
  rw [safeAdd_eq_ok_iff] at drainInEq
  have drainCost : drainIn =
      costOf swapForY rate price (maxAmountOut bin swapForY) :=
    drainInEq.2.symm
  refine ⟨rate, rateEq, ?_⟩
  by_cases drains : drainIn < amount
  · rw [if_pos drains] at amountsEq
    simp only [bind_eq_ok_iff] at amountsEq
    obtain ⟨_, -, amountsEq⟩ := amountsEq
    cases amountsEq
    have buysAll : maxAmountOut bin swapForY ≤
        boughtBy swapForY rate price amount :=
      (costOf_gc rateLt pricePos).le_u (drainCost ▸ drains.le)
    refine ⟨?_, (Nat.min_eq_right buysAll).symm, ?_⟩
    · rw [← drainCost, Nat.min_eq_right drains.le]
    · rw [drainCost]
      exact (feeIncluded_withFee rateLt _).symm
  · rw [if_neg drains] at amountsEq
    simp only [bind_eq_ok_iff] at amountsEq
    obtain ⟨included, includedEq, afterFee, afterFeeEq, bought, boughtEq, _, -,
      amountsEq⟩ := amountsEq
    cases amountsEq
    have feeEq := computeFeeFromAmount_eq rateEq includedEq
    rw [safeSub_eq_ok_iff] at afterFeeEq
    refine ⟨?_, ?_, feeEq⟩
    · rw [← drainCost]
      exact (Nat.min_eq_left (not_lt.mp drains)).symm
    · rw [getAmountOut_eq boughtEq, ← afterFeeEq.2, feeEq]
      rfl

end Amounts

section Arrays

variable {array other stored stored' : BinArray} {binId id : Int}
variable {bin bin' : Bin} {swapForY : Bool}

/-- The position of a bin id determines the id. -/
theorem binIndexInArray_eq {idx : Fin maxBinPerArray}
    (ok : binIndexInArray array binId = .ok idx) :
    binId = array.index * maxBinPerArray + idx.val := by
  simp only [binIndexInArray, safeSigned, bind_eq_ok_iff, okOr_eq_ok_iff,
    checkedSigned_eq_some_iff] at ok
  obtain ⟨_, ⟨-, rfl⟩, ⟨lower, upper⟩, bounds, ok⟩ := ok
  obtain ⟨-, rfl, rfl⟩ := binArrayLowerUpperBinId_eq_ok_iff.mp bounds
  by_cases outside : binId < array.index * maxBinPerArray ∨
      array.index * maxBinPerArray + maxBinPerArray - 1 < binId
  · rw [if_pos outside] at ok
    cases ok
  rw [if_neg outside, bind_eq_ok_iff] at ok
  obtain ⟨index, indexEq, ok⟩ := ok
  have indexEq' : index = binId - array.index * maxBinPerArray := by
    by_cases positive : 0 < binId
    · rw [if_pos positive, okOr_eq_ok_iff, checkedSigned_eq_some_iff] at indexEq
      exact indexEq.2.symm
    · rw [if_neg positive] at indexEq
      simp only [bind_eq_ok_iff, okOr_eq_ok_iff, checkedSigned_eq_some_iff]
        at indexEq
      obtain ⟨_, ⟨-, rfl⟩, _, ⟨-, rfl⟩, -, rfl⟩ := indexEq
      omega
  split_ifs at ok with inside
  cases ok
  rw [Int.toNat_of_nonneg inside.1]
  omega

theorem binIndexInArray_congr (same : array.index = other.index) :
    binIndexInArray array binId = binIndexInArray other binId := by
  rw [binIndexInArray, binIndexInArray, same]

theorem getBin_setBin_of_ne (ok : setBin array id bin = .ok stored)
    (different : binId ≠ id) : getBin stored binId = getBin array binId := by
  have sameIndex := setBin_index ok
  simp only [setBin, bind_eq_ok_iff] at ok
  obtain ⟨idx, idxEq, ok⟩ := ok
  rw [getBin, getBin, binIndexInArray_congr sameIndex]
  cases found : binIndexInArray array binId with
  | error message => rfl
  | ok idx' =>
      have idxNe : idx.val ≠ idx'.val := by
        intro same
        rw [binIndexInArray_eq found, binIndexInArray_eq idxEq, same] at different
        exact different rfl
      cases ok
      simp only [bind, Except.bind, pure, Except.pure, Except.ok.injEq]
      simp [idxNe]

/-- Two copies of an array with the same bins from an id on. -/
structure AgreesAhead (swapForY : Bool) (id : Int) (array other : BinArray) :
    Prop where
  index : array.index = other.index
  bins : ∀ binId, Ahead swapForY id binId →
    getBin array binId = getBin other binId

theorem AgreesAhead.advance (agrees : AgreesAhead swapForY id array other)
    (ok : setBin array id bin = .ok stored)
    (ok' : setBin other id bin' = .ok stored') :
    AgreesAhead swapForY (id + increment swapForY) stored stored' where
  index := (setBin_index ok).trans (agrees.index.trans (setBin_index ok').symm)
  bins := fun binId ahead => by
    have different := ne_of_ahead_increment ahead
    rw [getBin_setBin_of_ne ok different, getBin_setBin_of_ne ok' different]
    exact agrees.bins binId (ahead_increment.trans ahead)

end Arrays

section Fills

variable {swapForY : Bool} {bin stored : Bin} {price : Nat}
variable {walk filled : Walk}

/-- What an exact-out quote charges for a bin. -/
theorem exactOutFill_charges
    (ok : exactOutFill swapForY bin price walk = .ok (filled, stored)) :
    ∃ rate spent,
      getTotalFee walk.pair = .ok rate ∧
      spent = costOf swapForY rate price
        (min walk.amount (maxAmountOut bin swapForY)) ∧
      filled.pair = walk.pair ∧
      filled.amount = walk.amount - maxAmountOut bin swapForY ∧
      filled.totalFee =
        walk.totalFee + feeIncluded feePrecision rate spent ∧
      filled.total + filled.totalFee =
        walk.total + walk.totalFee + spent := by
  obtain ⟨amountIn, fee, amountInEq, feeEq, rfl⟩ := exactOutFill_cases ok
  obtain ⟨rate, rateEq, rfl⟩ := computeFee_cases feeEq
  rw [getAmountIn_eq amountInEq] at *
  refine ⟨rate, _, rateEq, rfl, rfl, ?_, ?_, ?_⟩
  · simp only
    omega
  · rw [costOf, needed, feeIncluded_withFee (getTotalFee_lt rateEq)]
  · simp only [costOf, needed, withFee]
    omega

theorem exactInFill_takes (pricePos : 0 < price)
    (ok : exactInFill swapForY bin price walk = .ok (filled, stored)) :
    ∃ rate used,
      getTotalFee walk.pair = .ok rate ∧
      used = min walk.amount
        (costOf swapForY rate price (maxAmountOut bin swapForY)) ∧
      filled.pair = walk.pair ∧
      filled.amount = walk.amount - used ∧
      filled.totalFee = walk.totalFee + feeIncluded feePrecision rate used ∧
      filled.total = walk.total +
        min (boughtBy swapForY rate price walk.amount)
          (maxAmountOut bin swapForY) := by
  obtain ⟨result, swapped, -, rfl⟩ := exactInFill_cases ok
  obtain ⟨rate, rateEq, usedEq, outEq, feeEq⟩ := binSwap_cases pricePos swapped
  exact ⟨rate, _, rateEq, usedEq, rfl, rfl, congrArg _ feeEq, congrArg _ outEq⟩

end Fills

section Runs

variable {fill : Fill} {inputs : QuoteInputs} {searchFuel fuel : Nat}
variable {point next : QuotePoint} {last : Walk}

theorem leaves_iff :
    quotePass fill inputs searchFuel point = some (.leave (.ok last)) ↔
      point = .search last ∧ last.amount = 0 := by
  cases point with
  | search walk =>
      simp only [quotePass]
      split_ifs with done
      · constructor
        · intro leaves
          cases leaves
          exact ⟨rfl, done⟩
        · rintro ⟨same, -⟩
          cases same
          rfl
      · have notLast : ¬ (QuotePoint.search walk = .search last ∧
            last.amount = 0) := by
          rintro ⟨same, done'⟩
          cases same
          exact done done'
        simp only [notLast, iff_false]
        cases getBinArrayPubkeysForSwap walk.pair inputs.bitmapExtension
            inputs.swapForY 1 inputs.deriveBinArrayAddress inputs.lbPairPubkey
            searchFuel with
        | none => simp
        | some result =>
            cases result with
            | error fault => simp
            | ok pubkeys =>
                cases found : pubkeys.getLast? with
                | none => simp [found]
                | some activePda =>
                    cases cached : inputs.binArrays activePda <;>
                      simp [found, cached]
  | bins activeArray walk =>
      simp only [quotePass]
      split_ifs
      · simp
      · cases binPass fill inputs.swapForY activeArray walk <;> simp

theorem run_done (done : point.walk.amount = 0)
    (finished : PassLoop.run (quotePass fill inputs searchFuel) fuel point =
      some (.ok last)) : last = point.walk := by
  induction fuel generalizing point with
  | zero => simp [PassLoop.run] at finished
  | succ fuel ih =>
      rcases PassLoop.run_succ_eq_some_iff.mp finished with
        leaves | ⟨next, steps, rest⟩
      · obtain ⟨rfl, -⟩ := leaves_iff.mp leaves
        rfl
      · cases point with
        | search walk =>
            have left := (search_follows_iff.mp steps).1
            rw [QuotePoint.walk] at done
            omega
        | bins activeArray walk =>
            rcases bins_follows_iff.mp steps with ⟨-, rfl⟩ | ⟨-, left, -⟩
            · exact @ih (.search walk) done rest
            · rw [QuotePoint.walk] at done
              omega

theorem run_step (left : 0 < point.walk.amount)
    (finished : PassLoop.run (quotePass fill inputs searchFuel) fuel point =
      some (.ok last)) :
    ∃ rest next,
      PassLoop.Follows (quotePass fill inputs searchFuel) point next ∧
      fuel = rest + 1 ∧
      PassLoop.run (quotePass fill inputs searchFuel) rest next =
        some (.ok last) := by
  cases fuel with
  | zero => simp [PassLoop.run] at finished
  | succ fuel =>
      rcases PassLoop.run_succ_eq_some_iff.mp finished with
        leaves | ⟨next, steps, rest⟩
      · obtain ⟨rfl, done⟩ := leaves_iff.mp leaves
        rw [QuotePoint.walk] at left
        omega
      · exact ⟨fuel, next, steps, rfl, rest⟩

/-- Two walks at the same loop head, over the same pool and the same bins from
the active one on. -/
inductive SamePlace (swapForY : Bool) : QuotePoint → QuotePoint → Prop
  | search {walk other : Walk} (samePair : walk.pair = other.pair) :
      SamePlace swapForY (.search walk) (.search other)
  | bins {array array' : BinArray} {walk other : Walk}
      (samePair : walk.pair = other.pair)
      (agrees : AgreesAhead swapForY walk.pair.activeId array array') :
      SamePlace swapForY (.bins array walk) (.bins array' other)

/-- An exact-in walk ended in `final`, compared with the cost and fee of an
amount to deliver. -/
structure Matches (cost fee deliver : Nat) (other final : Walk) : Prop where
  enough : other.amount = cost →
    other.total + deliver ≤ final.total ∧
      final.totalFee = other.totalFee + fee
  short : other.amount < cost → final.total < other.total + deliver

/-- An exact-out walk charges a cost and a fee, and an exact-in walk from the
same place matches them. -/
structure Inverse (inputs : QuoteInputs) (searchFuel : Nat) (point : QuotePoint)
    (last : Walk) (cost fee : Nat) : Prop where
  charged : last.total + last.totalFee =
    point.walk.total + point.walk.totalFee + cost
  kept : last.totalFee = point.walk.totalFee + fee
  costPos : 0 < cost
  isMatched : ∀ more other final, SamePlace inputs.swapForY point other →
    PassLoop.run (quotePass exactInFill inputs searchFuel) more other =
      some (.ok final) →
    Matches cost fee point.walk.amount other.walk final

theorem matches_done {cost fee deliver more : Nat} {other : QuotePoint}
    {final : Walk} (costPos : 0 < cost) (deliverPos : 0 < deliver)
    (done : other.walk.amount = 0)
    (finished : PassLoop.run (quotePass exactInFill inputs searchFuel) more
      other = some (.ok final)) :
    Matches cost fee deliver other.walk final := by
  rw [run_done done finished]
  exact ⟨fun isCost => by omega, fun _ => by omega⟩

theorem Matches.congr {cost fee deliver : Nat} {other other' final : Walk}
    (amountEq : other.amount = other'.amount)
    (totalEq : other.total = other'.total)
    (feeEq : other.totalFee = other'.totalFee) :
    Matches cost fee deliver other final ↔
      Matches cost fee deliver other' final := by
  constructor
  · rintro ⟨enough, short⟩
    exact ⟨by rwa [← amountEq, ← totalEq, ← feeEq],
      by rwa [← amountEq, ← totalEq]⟩
  · rintro ⟨enough, short⟩
    exact ⟨by rwa [amountEq, totalEq, feeEq], by rwa [amountEq, totalEq]⟩

theorem FindsArray.unique {walk other : Walk} {array array' : BinArray}
    (samePair : walk.pair = other.pair)
    (finds : FindsArray inputs searchFuel walk array)
    (finds' : FindsArray inputs searchFuel other array') : array = array' := by
  obtain ⟨pubkeys, activePda, searched, found, cached⟩ := finds
  obtain ⟨pubkeys', activePda', searched', found', cached'⟩ := finds'
  rw [← samePair, searched] at searched'
  cases searched'
  rw [found] at found'
  cases found'
  rw [cached] at cached'
  cases cached'
  rfl

variable {cost fee : Nat}

theorem inverse_search {walk : Walk} {array : BinArray}
    (left : 0 < walk.amount)
    (finds : FindsArray inputs searchFuel walk array)
    (inverse : Inverse inputs searchFuel (.bins array walk) last cost fee) :
    Inverse inputs searchFuel (.search walk) last cost fee where
  charged := inverse.charged
  kept := inverse.kept
  costPos := inverse.costPos
  isMatched := by
    intro more point final same finished
    by_cases done : point.walk.amount = 0
    · exact matches_done inverse.costPos left done finished
    · obtain ⟨rest, next, steps, rfl, finished⟩ :=
        run_step (Nat.pos_of_ne_zero done) finished
      cases same with
      | @search _ other samePair =>
          obtain ⟨-, array', finds', rfl⟩ := search_follows_iff.mp steps
          cases finds.unique samePair finds'
          exact inverse.isMatched rest (.bins array other) final
            (.bins samePair ⟨rfl, fun _ _ => rfl⟩) finished

theorem inverse_exit {walk : Walk} {array : BinArray} (left : 0 < walk.amount)
    (outside : isBinIdWithinRange array walk.pair.activeId = false)
    (inverse : Inverse inputs searchFuel (.search walk) last cost fee) :
    Inverse inputs searchFuel (.bins array walk) last cost fee where
  charged := inverse.charged
  kept := inverse.kept
  costPos := inverse.costPos
  isMatched := by
    intro more point final same finished
    by_cases done : point.walk.amount = 0
    · exact matches_done inverse.costPos left done finished
    · obtain ⟨rest, next, steps, rfl, finished⟩ :=
        run_step (Nat.pos_of_ne_zero done) finished
      cases same with
      | @bins _ array' _ other samePair agrees =>
          rw [isBinIdWithinRange_congr agrees.index, samePair] at outside
          rcases bins_follows_iff.mp steps with ⟨-, rfl⟩ | ⟨within, -, -⟩
          · exact inverse.isMatched rest (.search other) final
              (.search samePair) finished
          · rw [outside] at within
            cases within

/-- A pass over the same bin of the same pool reads the same bin and price. -/
theorem binPass_same {swapForY : Bool} {array array' after : BinArray}
    {walk other next : Walk} {pair : LbPair} {bin priced : Bin} {price : Nat}
    (samePair : walk.pair = other.pair)
    (agrees : AgreesAhead swapForY walk.pair.activeId array array')
    (pairEq : updateVolatilityAccumulator walk.pair = .ok pair)
    (binEq : getBin array pair.activeId = .ok bin)
    (priceEq : getOrStoreBinPrice bin pair.activeId pair.binStep =
      .ok (price, priced))
    (passed : binPass fill swapForY array' other = .ok (after, next)) :
    ∃ filled stored,
      (if isEmpty priced (!swapForY) then
          filled = { other with pair := pair } ∧ stored = priced
        else
          fill swapForY priced price { other with pair := pair } =
            .ok (filled, stored)) ∧
      setBin array' pair.activeId stored = .ok after ∧
      (if 0 < filled.amount then
          ∃ advanced, advanceActiveBin filled.pair swapForY = .ok advanced ∧
            next = { filled with pair := advanced }
        else next = filled) := by
  obtain ⟨pair', bin', price', priced', filled, stored, pairEq', binEq',
    priceEq', rest⟩ := binPass_cases passed
  rw [← samePair, pairEq] at pairEq'
  cases pairEq'
  have sameBin := agrees.bins pair.activeId
    (updateVolatilityAccumulator_activeId pairEq ▸ Ahead.refl ..)
  rw [← sameBin, binEq] at binEq'
  cases binEq'
  rw [priceEq] at priceEq'
  cases priceEq'
  exact ⟨filled, stored, rest⟩

theorem samePlace_advance {swapForY : Bool} {array array' after after' : BinArray}
    {bin bin' : Bin} {filled filled' : Walk} {advanced advanced' : LbPair}
    (samePair : filled'.pair = filled.pair)
    (agrees : AgreesAhead swapForY filled.pair.activeId array array')
    (setEq : setBin array filled.pair.activeId bin = .ok after)
    (setEq' : setBin array' filled.pair.activeId bin' = .ok after')
    (moved : advanceActiveBin filled.pair swapForY = .ok advanced)
    (moved' : advanceActiveBin filled'.pair swapForY = .ok advanced') :
    SamePlace swapForY (.bins after { filled with pair := advanced })
      (.bins after' { filled' with pair := advanced' }) := by
  rw [samePair, moved] at moved'
  cases moved'
  refine .bins rfl ?_
  simp only [(advanceActiveBin_activeId moved).1]
  exact agrees.advance setEq setEq'

/-- Filling a bin, or passing over an empty one. -/
def FillsBin (fill : Fill) (swapForY : Bool) (priced : Bin) (price : Nat)
    (walk filled : Walk) (stored : Bin) : Prop :=
  if isEmpty priced (!swapForY) then filled = walk ∧ stored = priced
  else fill swapForY priced price walk = .ok (filled, stored)

/-- What a bin cost an exact-out walk. -/
structure Charges (spent charged : Nat) (walk filled : Walk) : Prop where
  samePair : filled.pair = walk.pair
  total : filled.total + filled.totalFee = walk.total + walk.totalFee + spent
  totalFee : filled.totalFee = walk.totalFee + charged
  spentPos : filled.amount = 0 → 0 < spent

/-- An exact-in walk in a bin that cost an exact-out walk `spent`: with less
than that it ends here, short of what the bin gave; with more it goes on if the
exact-out walk does. -/
structure FillMatches (spent charged : Nat) (walk filled other filled' : Walk) :
    Prop where
  samePair : filled'.pair = filled.pair
  short : other.amount < spent → filled'.amount = 0 ∧
    filled'.total + filled.amount < other.total + walk.amount
  enough : spent ≤ other.amount →
    other.amount = spent ∨ 0 < filled.amount →
      filled'.amount = other.amount - spent ∧
        filled'.totalFee = other.totalFee + charged ∧
        other.total + walk.amount ≤ filled'.total + filled.amount ∧
        (0 < filled.amount →
          filled'.total + filled.amount = other.total + walk.amount)

/-- `cap` is what the bin has and `drain` what that costs.  Of the `deliver` to
deliver `left` is left, and of the `given` to swap `unused`; `bought` and `after`
count the output. -/
theorem fill_arithmetic
    {deliver cap left spent drain given used unused bought before after : Nat}
    (leftEq : left = deliver - cap) (usedEq : used = min given drain)
    (unusedEq : unused = given - used)
    (afterEq : after = before + min bought cap)
    (buys : min deliver cap ≤ bought ↔ spent ≤ given)
    (spentLe : spent ≤ drain) (drains : cap ≤ deliver → spent = drain) :
    (given < spent → unused = 0 ∧ after + left < before + deliver) ∧
      (spent ≤ given → given = spent ∨ 0 < left →
        used = spent ∧ before + deliver ≤ after + left ∧
          (0 < left → after + left = before + deliver)) := by
  omega

theorem fills_match {swapForY : Bool} {priced stored : Bin} {price : Nat}
    {walk filled : Walk} (pricePos : 0 < price) (left : 0 < walk.amount)
    (fills : FillsBin exactOutFill swapForY priced price walk filled stored) :
    ∃ spent charged, Charges spent charged walk filled ∧
      ∀ other filled' stored', other.pair = walk.pair →
        FillsBin exactInFill swapForY priced price other filled' stored' →
        FillMatches spent charged walk filled other filled' := by
  by_cases empty : isEmpty priced (!swapForY)
  · simp only [FillsBin, empty, if_true] at fills ⊢
    obtain ⟨rfl, -⟩ := fills
    refine ⟨0, 0, ⟨rfl, rfl, rfl, by omega⟩, ?_⟩
    rintro other filled' stored' samePair ⟨rfl, -⟩
    exact ⟨samePair, by omega, fun _ _ => ⟨rfl, rfl, by omega, by omega⟩⟩
  have capPos : 0 < maxAmountOut priced swapForY := by
    cases swapForY <;> simp [isEmpty, maxAmountOut] at empty ⊢ <;> omega
  simp only [FillsBin, empty, Bool.false_eq_true, if_false] at fills ⊢
  obtain ⟨rate, spent, rateEq, spentEq, samePair, amountEq, feeEq, totalEq⟩ :=
    exactOutFill_charges fills
  have rateLt := getTotalFee_lt rateEq
  have gc := @costOf_gc swapForY price rate rateLt pricePos
  refine ⟨spent, _, ⟨samePair, totalEq, feeEq, fun _ => ?_⟩, ?_⟩
  · rw [spentEq]
    exact needed_pos rateLt (rateCost_pos pricePos) (rateUnit_pos pricePos)
      (by omega)
  intro other filled' stored' samePair' fills'
  obtain ⟨rate', used, rateEq', usedEq, keptPair, amountEq', feeEq', totalEq'⟩ :=
    exactInFill_takes pricePos fills'
  rw [samePair', rateEq] at rateEq'
  cases rateEq'
  have buys : min walk.amount (maxAmountOut priced swapForY) ≤
      boughtBy swapForY rate price other.amount ↔ spent ≤ other.amount := by
    rw [spentEq]
    exact (gc _ _).symm
  have spentLe : spent ≤
      costOf swapForY rate price (maxAmountOut priced swapForY) :=
    spentEq ▸ gc.monotone_l (Nat.min_le_right _ _)
  have drains : maxAmountOut priced swapForY ≤ walk.amount →
      spent = costOf swapForY rate price (maxAmountOut priced swapForY) := by
    intro drained
    rw [spentEq, Nat.min_eq_right drained]
  obtain ⟨short, enough⟩ :=
    fill_arithmetic amountEq usedEq amountEq' totalEq' buys spentLe drains
  refine ⟨by rw [keptPair, samePair', samePair], short, fun more goesOn => ?_⟩
  obtain ⟨usedIsSpent, reaches, exactly⟩ := enough more goesOn
  rw [usedIsSpent] at feeEq' amountEq'
  exact ⟨amountEq', feeEq', reaches, exactly⟩

/-- One pass of an exact-in walk with something to swap, in a bin that an
exact-out walk has passed over. -/
theorem exactIn_pass {array array' after : BinArray} {walk other : Walk}
    {pair : LbPair} {bin priced stored : Bin} {price spent charged : Nat}
    {filled final : Walk} (done : other.amount ≠ 0)
    (samePair : walk.pair = other.pair)
    (agrees : AgreesAhead inputs.swapForY walk.pair.activeId array array')
    (within : isBinIdWithinRange array walk.pair.activeId = true)
    (pairEq : updateVolatilityAccumulator walk.pair = .ok pair)
    (binEq : getBin array pair.activeId = .ok bin)
    (priceEq : getOrStoreBinPrice bin pair.activeId pair.binStep =
      .ok (price, priced))
    (setEq : setBin array pair.activeId stored = .ok after)
    (keptPair : filled.pair = pair)
    (matching : ∀ other filled' stored', other.pair = pair →
      FillsBin exactInFill inputs.swapForY priced price other filled' stored' →
      FillMatches spent charged { walk with pair := pair } filled other filled')
    (finished : PassLoop.run (quotePass exactInFill inputs searchFuel) fuel
      (.bins array' other) = some (.ok final)) :
    ∃ filled', FillMatches spent charged { walk with pair := pair } filled
        { other with pair := pair } filled' ∧
      (filled'.amount = 0 → final = filled') ∧
      (0 < filled'.amount → ∀ advanced,
        advanceActiveBin filled.pair inputs.swapForY = .ok advanced →
        ∃ rest point, SamePlace inputs.swapForY
            (.bins after { filled with pair := advanced }) point ∧
          point.walk.amount = filled'.amount ∧
          point.walk.total = filled'.total ∧
          point.walk.totalFee = filled'.totalFee ∧
          PassLoop.run (quotePass exactInFill inputs searchFuel) rest point =
            some (.ok final)) := by
  obtain ⟨rest, point, steps, rfl, finished⟩ :=
    @run_step exactInFill _ _ _ (.bins array' other) _ (Nat.pos_of_ne_zero done)
      finished
  rcases bins_follows_iff.mp steps with ⟨outside | none, -⟩ |
    ⟨-, -, after', next', passed', rfl⟩
  · rw [← isBinIdWithinRange_congr agrees.index, ← samePair, within] at outside
    cases outside
  · exact absurd none done
  obtain ⟨filled', stored', fills', setEq', nextEq'⟩ :=
    binPass_same samePair agrees pairEq binEq priceEq passed'
  have fillMatches := matching _ filled' stored' rfl fills'
  refine ⟨filled', fillMatches, fun ended => ?_, fun more' advanced moved => ?_⟩
  · rw [if_neg (by omega)] at nextEq'
    subst nextEq'
    exact @run_done _ _ _ _ (.bins after' next') _ ended finished
  · rw [if_pos more'] at nextEq'
    obtain ⟨advanced', moved', rfl⟩ := nextEq'
    have sameId := updateVolatilityAccumulator_activeId pairEq
    subst keptPair
    exact ⟨rest, _, samePlace_advance fillMatches.samePair (sameId ▸ agrees)
      setEq setEq' moved moved', rfl, rfl, rfl, finished⟩

/-- In the last bin of an exact-out walk an exact-in walk delivers the request
exactly when it has what the bin cost. -/
theorem FillMatches.matches_last {spent charged : Nat}
    {walk filled other filled' final : Walk}
    (fillMatches : FillMatches spent charged walk filled other filled')
    (isLast : filled.amount = 0)
    (ended : filled'.amount = 0 → final = filled') :
    Matches spent charged walk.amount other final := by
  constructor
  · intro isCost
    obtain ⟨unused, totalFee, reaches, -⟩ :=
      fillMatches.enough (by omega) (.inl isCost)
    rw [ended (by omega)]
    omega
  · intro less
    obtain ⟨none, lessTotal⟩ := fillMatches.short less
    rw [ended none]
    omega

/-- The costs of a bin and of the bins after it add up. -/
theorem FillMatches.matches_more {spent charged : Nat}
    {walk filled other filled' final : Walk}
    (fillMatches : FillMatches spent charged walk filled other filled')
    (more : 0 < filled.amount) (costPos : 0 < cost)
    (ended : filled'.amount = 0 → final = filled')
    (goesOn : 0 < filled'.amount →
      Matches cost fee filled.amount filled' final) :
    Matches (spent + cost) (charged + fee) walk.amount other final := by
  constructor
  · intro isCost
    obtain ⟨unused, totalFee, reaches, exactly⟩ :=
      fillMatches.enough (by omega) (.inr more)
    obtain ⟨enough, feeEq⟩ := (goesOn (by omega)).enough (by omega)
    have exactly' := exactly more
    omega
  · intro less
    by_cases ends : other.amount < spent
    · obtain ⟨none, lessTotal⟩ := fillMatches.short ends
      rw [ended none]
      omega
    obtain ⟨unused, totalFee, reaches, exactly⟩ :=
      fillMatches.enough (by omega) (.inr more)
    have exactly' := exactly more
    by_cases none : filled'.amount = 0
    · rw [ended none]
      omega
    have lessTotal := (goesOn (by omega)).short (by omega)
    omega

/-- One pass of the exact-out walk, given what the passes after it cost. -/
theorem inverse_pass {array after : BinArray} {walk next : Walk}
    (left : 0 < walk.amount)
    (within : isBinIdWithinRange array walk.pair.activeId = true)
    (passed : binPass exactOutFill inputs.swapForY array walk =
      .ok (after, next))
    (ends : next.amount = 0 → last = next)
    (inverse : 0 < next.amount → ∃ cost fee,
      Inverse inputs searchFuel (.bins after next) last cost fee) :
    ∃ cost fee, Inverse inputs searchFuel (.bins array walk) last cost fee := by
  obtain ⟨pair, bin, price, priced, filled, stored, pairEq, binEq, priceEq,
    fills, setEq, nextEq⟩ := binPass_cases passed
  obtain ⟨spent, charged, charges, matching⟩ :=
    @fills_match inputs.swapForY priced stored price { walk with pair := pair }
      filled (getOrStoreBinPrice_pos priceEq) left fills
  have total := charges.total
  have totalFee := charges.totalFee
  simp only at total totalFee
  by_cases more : 0 < filled.amount
  · rw [if_pos more] at nextEq
    obtain ⟨advanced, moved, rfl⟩ := nextEq
    obtain ⟨cost, fee, inverse⟩ := inverse more
    have total' := inverse.charged
    have totalFee' := inverse.kept
    have costPos := inverse.costPos
    simp only [QuotePoint.walk] at total' totalFee'
    refine ⟨spent + cost, charged + fee, ?_, ?_, by omega, ?_⟩
    · simp only [QuotePoint.walk]
      omega
    · simp only [QuotePoint.walk]
      omega
    intro fuel point final same finished
    by_cases done : point.walk.amount = 0
    · exact matches_done (by omega) left done finished
    cases same with
    | @bins _ array' _ other samePair agrees =>
        obtain ⟨filled', fillMatches, ended, goesOn⟩ :=
          exactIn_pass (show other.amount ≠ 0 from done) samePair agrees within
            pairEq binEq priceEq setEq charges.samePair matching finished
        have matched := fillMatches.matches_more more costPos ended
          fun more' => by
            obtain ⟨rest, point, same', amountEq, totalEq, feeEq, finished'⟩ :=
              goesOn more' advanced moved
            have isMatched := inverse.isMatched rest point final same' finished'
            rw [Matches.congr amountEq totalEq feeEq] at isMatched
            exact isMatched
        refine (Matches.congr ?_ ?_ ?_).mp matched <;> rfl
  · rw [if_neg more] at nextEq
    subst nextEq
    have lastEq := ends (by omega)
    subst lastEq
    have spentPos := charges.spentPos (by omega)
    refine ⟨spent, charged, total, totalFee, spentPos, ?_⟩
    intro fuel point final same finished
    by_cases done : point.walk.amount = 0
    · exact matches_done spentPos left done finished
    cases same with
    | @bins _ array' _ other samePair agrees =>
        obtain ⟨filled', fillMatches, ended, -⟩ :=
          exactIn_pass (show other.amount ≠ 0 from done) samePair agrees within
            pairEq binEq priceEq setEq charges.samePair matching finished
        have matched := fillMatches.matches_last (by omega) ended
        refine (Matches.congr ?_ ?_ ?_).mp matched <;> rfl

/-- Every finished exact-out walk with an amount to deliver is matched. -/
theorem inverse_of_run (left : 0 < point.walk.amount)
    (finished : PassLoop.run (quotePass exactOutFill inputs searchFuel) fuel
      point = some (.ok last)) :
    ∃ cost fee, Inverse inputs searchFuel point last cost fee := by
  induction fuel generalizing point with
  | zero => simp [PassLoop.run] at finished
  | succ fuel ih =>
      obtain ⟨_, next, steps, fuelEq, rest⟩ := run_step left finished
      cases fuelEq
      cases point with
      | search walk =>
          obtain ⟨-, array, finds, rfl⟩ := search_follows_iff.mp steps
          obtain ⟨cost, fee, inverse⟩ := @ih (.bins array walk) left rest
          exact ⟨cost, fee, inverse_search left finds inverse⟩
      | bins array walk =>
          rcases bins_follows_iff.mp steps with ⟨exits, rfl⟩ |
            ⟨within, -, after, walk', passed, rfl⟩
          · have outside : isBinIdWithinRange array walk.pair.activeId = false :=
              exits.resolve_right (Nat.pos_iff_ne_zero.mp left)
            obtain ⟨cost, fee, inverse⟩ := @ih (.search walk) left rest
            exact ⟨cost, fee, inverse_exit left outside inverse⟩
          · exact inverse_pass left within passed
              (fun done => @run_done _ _ _ _ (.bins after walk') _ done rest)
              (fun more => @ih (.bins after walk') more rest)

end Runs

section Quotes

variable {inputs : QuoteInputs} {pair : LbPair} {amount fuel : Nat}

theorem startWalk_cases {start : Walk}
    (started : startWalk inputs pair amount = .ok start) :
    ∃ updated, start = ⟨updated, amount, 0, 0⟩ ∧
      ∀ other, startWalk inputs pair other = .ok ⟨updated, other, 0, 0⟩ := by
  simp only [startWalk, bind_eq_ok_iff] at started
  obtain ⟨_, activated, updated, updatedEq, started⟩ := started
  cases started
  refine ⟨updated, rfl, fun other => ?_⟩
  simp only [startWalk, bind_eq_ok_iff]
  exact ⟨_, activated, updated, updatedEq, rfl⟩

theorem quoteExactIn_eq_ok {quote : ExactInQuote}
    (quoted : quoteExactIn inputs pair amount fuel = some (.ok quote)) :
    ∃ last, runWalk exactInFill inputs pair amount fuel = some (.ok last) ∧
      quote = ⟨last.total, last.totalFee⟩ := by
  simp only [quoteExactIn, Option.map_eq_some_iff] at quoted
  obtain ⟨outcome, finished, quoted⟩ := quoted
  cases outcome with
  | error fault => cases quoted
  | ok last =>
      cases quoted
      exact ⟨last, finished, rfl⟩

theorem quoteExactOut_eq_ok {quote : ExactOutQuote}
    (quoted : quoteExactOut inputs pair amount fuel = some (.ok quote)) :
    ∃ last, runWalk exactOutFill inputs pair amount fuel = some (.ok last) ∧
      quote = ⟨last.total + last.totalFee, last.totalFee⟩ := by
  simp only [quoteExactOut, Option.map_eq_some_iff, bind_eq_ok_iff] at quoted
  obtain ⟨outcome, finished, last, rfl, gross, grossEq, quoted⟩ := quoted
  cases quoted
  cases added : checkedAdd 64 last.total last.totalFee with
  | none =>
      rw [added] at grossEq
      cases grossEq
  | some sum =>
      rw [added] at grossEq
      cases grossEq
      rw [checkedAdd_eq_some_iff] at added
      exact ⟨last, finished, by rw [added.2]⟩

/-- The two walks over one pool, from the start. -/
theorem runWalk_matches {last final : Walk} {given more : Nat}
    (amountPos : 0 < amount)
    (finished : runWalk exactOutFill inputs pair amount fuel = some (.ok last))
    (finished' : runWalk exactInFill inputs pair given more =
      some (.ok final)) :
    (given = last.total + last.totalFee →
        amount ≤ final.total ∧ final.totalFee = last.totalFee) ∧
      (given < last.total + last.totalFee → final.total < amount) := by
  have finished := runWalk_mono (Nat.le_max_left fuel more) finished
  have finished' := runWalk_mono (Nat.le_max_right fuel more) finished'
  cases started : startWalk inputs pair amount with
  | error message =>
      rw [runWalk, started] at finished
      cases finished
  | ok start =>
      obtain ⟨updated, rfl, others⟩ := startWalk_cases started
      rw [runWalk, others amount] at finished
      rw [runWalk, others given] at finished'
      obtain ⟨cost, fee, inverse⟩ :=
        @inverse_of_run _ _ _ (.search ⟨updated, amount, 0, 0⟩) _ amountPos
          finished
      have matching := inverse.isMatched _ (.search ⟨updated, given, 0, 0⟩) final
        (.search rfl) finished'
      have charged := inverse.charged
      have kept := inverse.kept
      have enough := matching.enough
      have short := matching.short
      simp only [QuotePoint.walk] at *
      omega

/-- The input of an exact-out quote is the least that delivers the output: it
delivers it at the quoted fee, and no smaller input does. -/
theorem quoteExactOut_isLeast {quote : ExactOutQuote} (amountPos : 0 < amount)
    (quoted : quoteExactOut inputs pair amount fuel = some (.ok quote)) :
    (∀ more swapped,
        quoteExactIn inputs pair quote.amountIn more = some (.ok swapped) →
          amount ≤ swapped.amountOut ∧ swapped.fee = quote.fee) ∧
      ∀ given, given < quote.amountIn → ∀ more swapped,
        quoteExactIn inputs pair given more = some (.ok swapped) →
          swapped.amountOut < amount := by
  obtain ⟨last, finished, rfl⟩ := quoteExactOut_eq_ok quoted
  constructor
  · intro more swapped quotedIn
    obtain ⟨final, finished', rfl⟩ := quoteExactIn_eq_ok quotedIn
    exact (runWalk_matches amountPos finished finished').1 rfl
  · intro given less more swapped quotedIn
    obtain ⟨final, finished', rfl⟩ := quoteExactIn_eq_ok quotedIn
    exact (runWalk_matches amountPos finished finished').2 less

/-- A pool with a dynamic fee whose active bin is in the middle of array `0`. -/
def levelPair : LbPair where
  parameters := ⟨10000, 30, 600, 5000, 40000, 350000, 0, 0⟩
  vParameters := ⟨0, 0, 35, 0⟩
  pairType := 0
  activeId := 35
  binStep := 100
  status := 0
  activationType := 0
  binArrayBitmap := arrayZeroFlagged
  activationPoint := 0

theorem quoteExactOut_isLeast_levelPair :
    (∀ more swapped,
        quoteExactIn gapInputs levelPair 2528 more = some (.ok swapped) →
          2500 ≤ swapped.amountOut ∧ swapped.fee = 28) ∧
      ∀ given, given < 2528 → ∀ more swapped,
        quoteExactIn gapInputs levelPair given more = some (.ok swapped) →
          swapped.amountOut < 2500 :=
  @quoteExactOut_isLeast gapInputs levelPair 2500 20 ⟨2528, 28⟩ (by decide)
    (by decide +kernel)

end Quotes

end MeteoraDlmm

end SolanaProtocols
