import SolanaProtocols.ConstantProduct
import SolanaProtocols.SwapExactOut

/-!
# Safety of the Raydium quotes

The three Raydium quotes take a share of the input as their fee and put the
rest on the constant product curve of the pool's reserves.  As long as the share
is at most the whole, nothing underflows and no cast loses bits: the quote is
the exact curve, which never pays out more than the reserve, never lowers the
product of the reserves, and pays more for a larger input and for a lower fee.
-/

namespace SolanaProtocols

open ConstantProduct Swap

namespace SwapPool

def IsRaydium : SwapPool → Prop
  | meteoraDbc _ => False
  | _ => True

/-- Numerator and denominator of the fee rate. -/
def feeRate : SwapPool → Nat × Nat
  | raydiumV4 pool =>
    (pool.pool.tradeFeeNumerator.toNat, pool.pool.tradeFeeDenominator.toNat)
  | raydiumCpmm pool => (pool.tradeFeeRate.toNat, RaydiumCpmm.feeRateDenominator)
  | raydiumLaunchpad pool =>
    (pool.tradeFeeRate.toNat, RaydiumLaunchpad.feeRateDenominator)
  | meteoraDbc pool => (pool.tradeFeeRate.toNat, MeteoraDbc.feeDenominator)

/-- The fee is at most the whole input. -/
structure FeeWithinDenominator (pool : SwapPool) : Prop where
  denominator : pool.feeRate.2 ≠ 0
  rate : pool.feeRate.1 ≤ pool.feeRate.2

/-- The two fractions compared crosswise. -/
def ChargesNoMoreThan (cheaper dearer : SwapPool) : Prop :=
  cheaper.feeRate.1 * dearer.feeRate.2 ≤ dearer.feeRate.1 * cheaper.feeRate.2

def reserveIn (pool : SwapPool) (direction : SwapDirection) : Nat :=
  (orient pool.reserves.1 pool.reserves.2 direction).1

def reserveOut (pool : SwapPool) (direction : SwapDirection) : Nat :=
  (orient pool.reserves.1 pool.reserves.2 direction).2

/-- What is left of an input after the fee. -/
def net (pool : SwapPool) (amount : Nat) : Nat :=
  amount - pool.fee amount

/-- An answer that is the exact curve, paid out of the reserves. -/
structure SafeOutput (pool : SwapPool) (params : SwapParams)
    (answer : SwapOutput) : Prop where
  feeExact : answer.fee.toNat = pool.fee params.amount.amount.toNat
  amountOutExact : answer.amountOut.toNat =
    output (pool.reserveIn params.direction) (pool.reserveOut params.direction)
      (pool.net params.amount.amount.toNat)
  feeLe : answer.fee ≤ params.amount.amount
  amountOutLe : answer.amountOut.toNat ≤ pool.reserveOut params.direction
  amountOutLt : 0 < pool.reserveIn params.direction →
    0 < pool.reserveOut params.direction →
      answer.amountOut.toNat < pool.reserveOut params.direction
  productKept :
    pool.reserveIn params.direction * pool.reserveOut params.direction ≤
      (pool.reserveIn params.direction + params.amount.amount.toNat) *
        (pool.reserveOut params.direction - answer.amountOut.toNat)

/-- No arithmetic panic, and every answer is safe. -/
structure QuotesSafely (pool : SwapPool) (params : SwapParams) : Prop where
  noPanic : pool.calculateSwap params ≠ .error .panic
  safe : ∀ answer, pool.calculateSwap params = .ok answer →
    pool.SafeOutput params answer

section Shares

variable {numerator denominator amount smaller : Nat}

/-- A share of at most the whole grows no faster than the amount. -/
theorem share_add_le (positive : denominator ≠ 0)
    (rate : numerator ≤ denominator) (more : Nat) :
    (amount + more) * numerator / denominator ≤
      amount * numerator / denominator + more := by
  calc
    (amount + more) * numerator / denominator =
        (amount * numerator + more * numerator) / denominator := by
      rw [Nat.add_mul]
    _ ≤ (amount * numerator + more * denominator) / denominator := by
      apply Nat.div_le_div_right
      exact Nat.add_le_add_left (Nat.mul_le_mul_left more rate) _
    _ = amount * numerator / denominator + more :=
      Nat.add_mul_div_right _ _ (Nat.pos_of_ne_zero positive)

/-- A larger fraction of an amount rounds down to no less. -/
theorem share_le_share {cheapNumerator cheapDenominator : Nat}
    (cheapPositive : cheapDenominator ≠ 0) (positive : denominator ≠ 0)
    (rates : cheapNumerator * denominator ≤ numerator * cheapDenominator) :
    amount * cheapNumerator / cheapDenominator ≤
      amount * numerator / denominator := by
  apply (Nat.le_div_iff_mul_le (Nat.pos_of_ne_zero positive)).mpr
  apply Nat.le_of_mul_le_mul_right _ (Nat.pos_of_ne_zero cheapPositive)
  calc
    amount * cheapNumerator / cheapDenominator * denominator *
        cheapDenominator =
        amount * cheapNumerator / cheapDenominator * cheapDenominator *
          denominator := Nat.mul_right_comm _ _ _
    _ ≤ amount * cheapNumerator * denominator :=
      Nat.mul_le_mul_right _ (Nat.div_mul_le_self _ _)
    _ = amount * (cheapNumerator * denominator) := Nat.mul_assoc _ _ _
    _ ≤ amount * (numerator * cheapDenominator) :=
      Nat.mul_le_mul_left amount rates
    _ = amount * numerator * cheapDenominator := (Nat.mul_assoc _ _ _).symm

end Shares

section Raydium

variable {pool : SwapPool} {direction : SwapDirection}

theorem pricedAlike_of_isRaydium (raydium : pool.IsRaydium) :
    pool.PricedAlike := by
  cases pool with
  | raydiumV4 pool => exact pricedAlike_raydiumV4 pool
  | raydiumCpmm pool => exact pricedAlike_raydiumCpmm pool
  | raydiumLaunchpad pool => exact pricedAlike_raydiumLaunchpad pool
  | meteoraDbc pool => exact raydium.elim

theorem fee_eq (raydium : pool.IsRaydium) (amount : Nat) :
    pool.fee amount = amount * pool.feeRate.1 / pool.feeRate.2 := by
  cases pool with
  | raydiumV4 pool => rfl
  | raydiumCpmm pool => rfl
  | raydiumLaunchpad pool => rfl
  | meteoraDbc pool => exact raydium.elim

theorem fee_le_of_within (raydium : pool.IsRaydium)
    (within : pool.FeeWithinDenominator) (amount : Nat) :
    pool.fee amount ≤ amount := by
  have grows := @share_add_le _ _ 0 within.denominator within.rate amount
  rw [fee_eq raydium]
  simpa using grows

theorem net_mono (raydium : pool.IsRaydium) (within : pool.FeeWithinDenominator)
    {smaller larger : Nat} (le : smaller ≤ larger) :
    pool.net smaller ≤ pool.net larger := by
  obtain ⟨more, rfl⟩ := Nat.exists_eq_add_of_le le
  have grows := @share_add_le _ _ smaller within.denominator within.rate more
  rw [net, net, fee_eq raydium, fee_eq raydium]
  omega

theorem net_le_of_chargesNoMoreThan {dearer : SwapPool}
    (raydium : pool.IsRaydium) (dearerRaydium : dearer.IsRaydium)
    (within : pool.FeeWithinDenominator)
    (dearerWithin : dearer.FeeWithinDenominator)
    (cheaper : pool.ChargesNoMoreThan dearer) (amount : Nat) :
    dearer.net amount ≤ pool.net amount := by
  apply Nat.sub_le_sub_left
  rw [fee_eq raydium, fee_eq dearerRaydium]
  exact share_le_share within.denominator dearerWithin.denominator cheaper

theorem reserveOut_lt (pool : SwapPool) (direction : SwapDirection) :
    pool.reserveOut direction < 2 ^ 64 :=
  (orient_lt pool.reserves_lt.1 pool.reserves_lt.2 direction).2

/-- A Raydium quote is refused for want of anything to divide by, or it is the
exact curve. -/
theorem calculateSwap_eq (raydium : pool.IsRaydium)
    (within : pool.FeeWithinDenominator) (params : SwapParams) :
    pool.calculateSwap params =
      if pool.reserveIn params.direction +
          pool.net params.amount.amount.toNat = 0 then
        .error (.insufficientReserves params.amount.amount 0)
      else .ok {
        amountIn := params.amount.amount
        amountOut := UInt64.ofNat (output (pool.reserveIn params.direction)
          (pool.reserveOut params.direction)
            (pool.net params.amount.amount.toNat))
        fee := UInt64.ofNat (pool.fee params.amount.amount.toNat)
        protocolFee := UInt64.ofNat (pool.fee params.amount.amount.toNat)
        lpFee := 0 } := by
  obtain ⟨baseBound, quoteBound⟩ := pool.reserves_lt
  obtain ⟨inBound, outBound⟩ :=
    orient_lt baseBound quoteBound params.direction
  rw [pricedAlike_of_isRaydium raydium params]
  exact constantProductSwap_eq (fee_le_of_within raydium within _) inBound
    outBound

theorem amountOut_of_answer (raydium : pool.IsRaydium)
    (within : pool.FeeWithinDenominator) {params : SwapParams}
    {answer : SwapOutput} (answered : pool.calculateSwap params = .ok answer) :
    answer.amountOut.toNat =
      output (pool.reserveIn params.direction)
        (pool.reserveOut params.direction)
          (pool.net params.amount.amount.toNat) := by
  rw [calculateSwap_eq raydium within] at answered
  split at answered
  · cases answered
  · cases answered
    exact UInt64.toNat_ofNat_of_lt'
      (output_le.trans_lt (pool.reserveOut_lt params.direction))

theorem fee_of_answer (raydium : pool.IsRaydium)
    (within : pool.FeeWithinDenominator) {params : SwapParams}
    {answer : SwapOutput} (answered : pool.calculateSwap params = .ok answer) :
    answer.fee.toNat = pool.fee params.amount.amount.toNat := by
  rw [calculateSwap_eq raydium within] at answered
  split at answered
  · cases answered
  · cases answered
    exact UInt64.toNat_ofNat_of_lt' ((fee_le_of_within raydium within _).trans_lt
      params.amount.amount.toNat_lt)

theorem safeOutput_of_answer (raydium : pool.IsRaydium)
    (within : pool.FeeWithinDenominator) {params : SwapParams}
    {answer : SwapOutput} (answered : pool.calculateSwap params = .ok answer) :
    pool.SafeOutput params answer := by
  have paid := amountOut_of_answer raydium within answered
  have charged := fee_of_answer raydium within answered
  refine ⟨charged, paid, ?_, ?_, ?_, ?_⟩
  · rw [UInt64.le_iff_toNat_le, charged]
    exact fee_le_of_within raydium within _
  · rw [paid]
    exact output_le
  · intro inPos outPos
    rw [paid]
    exact output_lt inPos outPos
  · have kept := product_le paid.le
    refine kept.trans (Nat.mul_le_mul_right _ ?_)
    exact Nat.add_le_add_left (Nat.sub_le _ _) _

theorem quotesSafely_of_isRaydium (raydium : pool.IsRaydium)
    (within : pool.FeeWithinDenominator) (params : SwapParams) :
    pool.QuotesSafely params := by
  refine ⟨?_, fun answer answered => safeOutput_of_answer raydium within answered⟩
  rw [calculateSwap_eq raydium within]
  split
  · simp
  · simp

/-- A Raydium pool quotes safely, pays no less for a larger input, and pays no
less than a pool of the same reserves with a higher fee rate. -/
theorem raydium_safe (pool : SwapPool) (direction : SwapDirection)
    (raydium : pool.IsRaydium) (within : pool.FeeWithinDenominator) :
    (∀ amount, pool.QuotesSafely ⟨amount, direction⟩) ∧
      (∀ smaller larger : SwapAmount, smaller.amount ≤ larger.amount →
        ∀ less more, pool.calculateSwap ⟨smaller, direction⟩ = .ok less →
          pool.calculateSwap ⟨larger, direction⟩ = .ok more →
            less.amountOut ≤ more.amountOut) ∧
      ∀ dearer : SwapPool, dearer.IsRaydium → dearer.FeeWithinDenominator →
        dearer.reserves = pool.reserves → pool.ChargesNoMoreThan dearer →
          ∀ amount less more,
            dearer.calculateSwap ⟨amount, direction⟩ = .ok less →
              pool.calculateSwap ⟨amount, direction⟩ = .ok more →
                less.amountOut ≤ more.amountOut := by
  refine ⟨fun amount => quotesSafely_of_isRaydium raydium within _, ?_, ?_⟩
  · intro smaller larger le less more fromSmaller fromLarger
    rw [UInt64.le_iff_toNat_le, amountOut_of_answer raydium within fromSmaller,
      amountOut_of_answer raydium within fromLarger]
    apply output_mono
    exact net_mono raydium within (UInt64.le_iff_toNat_le.mp le)
  · intro dearer dearerRaydium dearerWithin same cheaper amount less more
      fromDearer fromPool
    rw [UInt64.le_iff_toNat_le,
      amountOut_of_answer dearerRaydium dearerWithin fromDearer,
      amountOut_of_answer raydium within fromPool]
    simp only [reserveIn, reserveOut, same]
    apply output_mono
    exact net_le_of_chargesNoMoreThan raydium dearerRaydium within dearerWithin
      cheaper _

theorem raydium_safe_balanced :
    (∀ amount, balancedPool.QuotesSafely ⟨amount, .buy⟩) ∧
      (∀ smaller larger : SwapAmount, smaller.amount ≤ larger.amount →
        ∀ less more,
          balancedPool.calculateSwap ⟨smaller, .buy⟩ = .ok less →
            balancedPool.calculateSwap ⟨larger, .buy⟩ = .ok more →
              less.amountOut ≤ more.amountOut) ∧
      ∀ dearer : SwapPool, dearer.IsRaydium → dearer.FeeWithinDenominator →
        dearer.reserves = balancedPool.reserves →
          balancedPool.ChargesNoMoreThan dearer →
            ∀ amount less more,
              dearer.calculateSwap ⟨amount, .buy⟩ = .ok less →
                balancedPool.calculateSwap ⟨amount, .buy⟩ = .ok more →
                  less.amountOut ≤ more.amountOut :=
  raydium_safe balancedPool .buy trivial ⟨by decide, by decide⟩

end Raydium

end SwapPool

end SolanaProtocols
