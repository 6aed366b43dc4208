import SolanaProtocols.SwapMath

/-!
# Exact-out quotes of the constant product pools

A quote for an exact output should pay at least that output, and swapping the
input it asks for should pay it too.  The four pools read the amount without
looking at its mode, so the request is priced as an input: the quote is right
only where an amount buys at least itself.
-/

namespace SolanaProtocols

namespace Swap

/-- A successful exact-out quote pays what was asked for, and the input that it
reports buys it; a quote that fails does so with an error value. -/
def ExactOutContract (quote : Quote) (direction : SwapDirection)
    (amount : UInt64) : Prop :=
  match quote ⟨.exactOut amount, direction⟩ with
  | .ok output =>
    amount ≤ output.amountOut ∧
      ∃ delivered,
        quote ⟨.exactIn output.amountIn, direction⟩ = .ok delivered ∧
          amount ≤ delivered.amountOut
  | .error failure => failure ≠ .panic

section Modes

variable {quote : Quote} {direction : SwapDirection} {amount : UInt64}

theorem exactOutContract_of_refused {failure : Failure}
    (noPanic : failure ≠ .panic)
    (refused : quote ⟨.exactOut amount, direction⟩ = .error failure) :
    ExactOutContract quote direction amount := by
  unfold ExactOutContract
  rw [refused]
  exact noPanic

theorem exactOutContract_iff_of_answered {paid : UInt64}
    (answered : ∀ mode : SwapAmount, mode.amount = amount →
      ∃ output, quote ⟨mode, direction⟩ = .ok output ∧
        output.amountIn = amount ∧ output.amountOut = paid) :
    ExactOutContract quote direction amount ↔ amount ≤ paid := by
  obtain ⟨output, asOut, reported, paidOut⟩ :=
    answered (.exactOut amount) rfl
  obtain ⟨delivered, asIn, -, paidIn⟩ := answered (.exactIn amount) rfl
  unfold ExactOutContract
  rw [asOut]
  simp only [reported, paidOut]
  constructor
  · rintro ⟨enough, -⟩
    exact enough
  · intro enough
    exact ⟨enough, delivered, asIn, by rwa [paidIn]⟩

end Modes

section Arithmetic

variable {fee reserveIn reserveOut netIn divisor numerator denominator : Nat}

theorem div_le_reserve (netLe : netIn ≤ divisor) :
    reserveOut * netIn / divisor ≤ reserveOut := by
  apply Nat.div_le_of_le_mul
  calc
    reserveOut * netIn ≤ reserveOut * divisor :=
      Nat.mul_le_mul_left reserveOut netLe
    _ = divisor * reserveOut := Nat.mul_comm _ _

theorem mul_lt_two_pow_128 {first second : Nat} (firstBound : first < 2 ^ 64)
    (secondBound : second < 2 ^ 64) : first * second < 2 ^ 128 := by
  calc
    first * second ≤ (2 ^ 64 - 1) * (2 ^ 64 - 1) :=
      Nat.mul_le_mul (by omega) (by omega)
    _ < 2 ^ 128 := by norm_num

theorem fee_lt {amount : Nat} (positive : 0 < amount)
    (rate : numerator < denominator) :
    amount * numerator / denominator < amount := by
  apply Nat.div_lt_of_lt_mul
  calc
    amount * numerator < amount * denominator :=
      Nat.mul_lt_mul_of_pos_left rate positive
    _ = denominator * amount := Nat.mul_comm _ _

theorem fee_le {amount : Nat} (rate : numerator < denominator) :
    amount * numerator / denominator ≤ amount := by
  cases amount with
  | zero => simp
  | succ amount => exact (fee_lt (Nat.succ_pos amount) rate).le

theorem ofNat_div_toNat (outBound : reserveOut < 2 ^ 64)
    (netLe : netIn ≤ divisor) :
    (UInt64.ofNat (reserveOut * netIn / divisor)).toNat =
      reserveOut * netIn / divisor := by
  apply UInt64.toNat_ofNat_of_lt'
  exact (div_le_reserve netLe).trans_lt outBound

theorem le_ofNat_div_iff {amount : UInt64} (positive : 0 < divisor)
    (outBound : reserveOut < 2 ^ 64) (netLe : netIn ≤ divisor) :
    amount ≤ UInt64.ofNat (reserveOut * netIn / divisor) ↔
      amount.toNat * divisor ≤ reserveOut * netIn := by
  rw [UInt64.le_iff_toNat_le, ofNat_div_toNat outBound netLe]
  exact Nat.le_div_iff_mul_le positive

/-- The shared arithmetic never overflows on 64-bit reserves, once the fee is
at most the amount. -/
theorem constantProductSwap_eq {rawAmount : UInt64}
    (feeLe : fee ≤ rawAmount.toNat) (inBound : reserveIn < 2 ^ 64)
    (outBound : reserveOut < 2 ^ 64) :
    constantProductSwap fee reserveIn reserveOut rawAmount =
      if reserveIn + (rawAmount.toNat - fee) = 0 then
        .error (.insufficientReserves rawAmount 0)
      else .ok {
        amountIn := rawAmount
        amountOut := UInt64.ofNat (reserveOut * (rawAmount.toNat - fee) /
          (reserveIn + (rawAmount.toNat - fee)))
        fee := UInt64.ofNat fee
        protocolFee := UInt64.ofNat fee
        lpFee := 0 } := by
  have rawBound := rawAmount.toNat_lt
  have product : reserveOut * (rawAmount.toNat - fee) < 2 ^ 128 :=
    mul_lt_two_pow_128 outBound (by omega)
  have paid : reserveOut * (rawAmount.toNat - fee) /
      (reserveIn + (rawAmount.toNat - fee)) ≤ reserveOut :=
    div_le_reserve (Nat.le_add_left _ _)
  have sum : reserveIn + (rawAmount.toNat - fee) < 2 ^ 128 := by omega
  have grown : reserveIn + rawAmount.toNat < 2 ^ 128 := by omega
  unfold constantProductSwap
  simp only [checkedSub, checkedMul, checkedAdd, feeLe, product, sum, grown, paid,
    if_true, orPanic_some, ok_bind]
  split
  · rfl
  · rfl

/-- A quote by the shared arithmetic meets the contract exactly when the amount
buys at least itself. -/
theorem exactOutContract_constantProduct_iff {quote : Quote}
    {direction : SwapDirection} {amount : UInt64} (feeLe : fee ≤ amount.toNat)
    (inBound : reserveIn < 2 ^ 64) (outBound : reserveOut < 2 ^ 64)
    (priced : ∀ mode : SwapAmount, mode.amount = amount →
      quote ⟨mode, direction⟩ =
        constantProductSwap fee reserveIn reserveOut amount) :
    ExactOutContract quote direction amount ↔
      amount.toNat * (reserveIn + (amount.toNat - fee)) ≤
        reserveOut * (amount.toNat - fee) := by
  rw [constantProductSwap_eq feeLe inBound outBound] at priced
  by_cases empty : reserveIn + (amount.toNat - fee) = 0
  · simp only [empty, if_true] at priced
    have refused : ExactOutContract quote direction amount :=
      exactOutContract_of_refused (by simp) (priced (.exactOut amount) rfl)
    simp [refused, empty]
  · simp only [empty, if_false] at priced
    rw [exactOutContract_iff_of_answered
      fun mode same => ⟨_, priced mode same, rfl, rfl⟩]
    exact le_ofNat_div_iff (Nat.pos_of_ne_zero empty) outBound
      (Nat.le_add_left _ _)

end Arithmetic

end Swap

open Swap

namespace MeteoraDbc

theorem dbcFee_le {rawAmount tradeFeeRate : Nat}
    (rate : tradeFeeRate < feeDenominator) :
    dbcFee rawAmount tradeFeeRate ≤ rawAmount := by
  unfold dbcFee checkedMul
  split
  · simpa [checkedDiv, feeDenominator] using fee_le rate
  · exact Nat.zero_le _

theorem dbcFee_lt {rawAmount tradeFeeRate : Nat} (positive : 0 < rawAmount)
    (rate : tradeFeeRate < feeDenominator) :
    dbcFee rawAmount tradeFeeRate < rawAmount := by
  unfold dbcFee checkedMul
  split
  · simpa [checkedDiv, feeDenominator] using fee_lt positive rate
  · exact positive

/-- The DBC quote of an active pool: the reserve check never fires, and without
anything to divide by the quotient is zero, as the early return has it. -/
theorem calculateDbcSwap_eq {pool : VirtualPool} {tradeFeeRate : UInt64}
    {params : SwapParams} {reserveIn reserveOut netIn : Nat}
    (active : pool.isMigrated = 0)
    (reserves : orient pool.baseReserve.toNat pool.quoteReserve.toNat
      params.direction = (reserveIn, reserveOut))
    (outBound : reserveOut < 2 ^ 64)
    (net : params.amount.amount.toNat -
      dbcFee params.amount.amount.toNat tradeFeeRate.toNat = netIn) :
    calculateDbcSwap pool tradeFeeRate params = .ok {
      amountIn := params.amount.amount
      amountOut := UInt64.ofNat
        (reserveOut * netIn / min (reserveIn + netIn) (2 ^ 64 - 1))
      fee := UInt64.ofNat
        (dbcFee params.amount.amount.toNat tradeFeeRate.toNat)
      protocolFee := UInt64.ofNat
        (dbcFee params.amount.amount.toNat tradeFeeRate.toNat / 2)
      lpFee := UInt64.ofNat
        (dbcFee params.amount.amount.toNat tradeFeeRate.toNat / 2) } := by
  have rawBound := params.amount.amount.toNat_lt
  have netLe : netIn ≤ min (reserveIn + netIn) (2 ^ 64 - 1) := by omega
  have product : reserveOut * netIn < 2 ^ 128 :=
    mul_lt_two_pow_128 outBound (by omega)
  have enough : ¬reserveOut < (UInt64.ofNat (reserveOut * netIn /
      min (reserveIn + netIn) (2 ^ 64 - 1))).toNat := by
    rw [ofNat_div_toNat outBound netLe]
    exact Nat.not_lt.mpr (div_le_reserve netLe)
  unfold calculateDbcSwap
  simp only [VirtualPool.isActive, active, reserves, net]
  by_cases empty : min (reserveIn + netIn) (2 ^ 64 - 1) = 0
  · simp only [empty, if_true, Nat.div_zero]
    rfl
  · simp only [checkedMul, checkedDiv, product, empty, if_true, if_false,
      Option.bind_some, Option.getD_some, enough]
    rfl

/-- A DBC quote that is made meets the contract exactly when the amount buys at
least itself. -/
theorem exactOutContract_dbc_iff {pool : VirtualPool} {tradeFeeRate : UInt64}
    {direction : SwapDirection} {amount : UInt64}
    {reserveIn reserveOut netIn : Nat}
    (rate : tradeFeeRate.toNat < feeDenominator) (active : pool.isMigrated = 0)
    (reserves : orient pool.baseReserve.toNat pool.quoteReserve.toNat
      direction = (reserveIn, reserveOut))
    (outBound : reserveOut < 2 ^ 64)
    (net : amount.toNat - dbcFee amount.toNat tradeFeeRate.toNat = netIn) :
    ExactOutContract (calculateDbcSwap pool tradeFeeRate) direction amount ↔
      amount.toNat * min (reserveIn + netIn) (2 ^ 64 - 1) ≤
        reserveOut * netIn := by
  have amountBound := amount.toNat_lt
  have netLe : netIn ≤ min (reserveIn + netIn) (2 ^ 64 - 1) := by omega
  have answered : ExactOutContract (calculateDbcSwap pool tradeFeeRate)
      direction amount ↔ amount ≤ UInt64.ofNat
        (reserveOut * netIn / min (reserveIn + netIn) (2 ^ 64 - 1)) := by
    apply exactOutContract_iff_of_answered
    rintro mode rfl
    exact ⟨_, calculateDbcSwap_eq active reserves outBound net, rfl, rfl⟩
  rw [answered]
  by_cases zero : amount.toNat = 0
  · have isZero : amount = 0 := UInt64.toNat_inj.mp zero
    simp [isZero]
  · have netPositive : 0 < netIn := by
      have := dbcFee_lt (Nat.pos_of_ne_zero zero) rate
      omega
    exact le_ofNat_div_iff (by omega) outBound netLe

end MeteoraDbc

inductive SwapPool
  | raydiumV4 (pool : RaydiumV4.PoolWithReserves)
  | raydiumCpmm (pool : RaydiumCpmm.CpmmPoolWithReserves)
  | raydiumLaunchpad (pool : RaydiumLaunchpad.LaunchpadSwapPool)
  | meteoraDbc (pool : MeteoraDbc.DbcSwapPool)
deriving DecidableEq, Repr

namespace SwapPool

def calculateSwap : SwapPool → Quote
  | raydiumV4 pool => pool.calculateSwap
  | raydiumCpmm pool => pool.calculateSwap
  | raydiumLaunchpad pool => pool.calculateSwap
  | meteoraDbc pool => pool.calculateSwap

def FeeBelowDenominator : SwapPool → Prop
  | raydiumV4 pool =>
    pool.pool.tradeFeeNumerator.toNat < pool.pool.tradeFeeDenominator.toNat
  | raydiumCpmm pool => pool.tradeFeeRate.toNat < RaydiumCpmm.feeRateDenominator
  | raydiumLaunchpad pool =>
    pool.tradeFeeRate.toNat < RaydiumLaunchpad.feeRateDenominator
  | meteoraDbc pool => pool.tradeFeeRate.toNat < MeteoraDbc.feeDenominator

instance : DecidablePred FeeBelowDenominator
  | raydiumV4 _ => inferInstanceAs (Decidable (_ < _))
  | raydiumCpmm _ => inferInstanceAs (Decidable (_ < _))
  | raydiumLaunchpad _ => inferInstanceAs (Decidable (_ < _))
  | meteoraDbc _ => inferInstanceAs (Decidable (_ < _))

def fee (amount : Nat) : SwapPool → Nat
  | raydiumV4 pool => amount * pool.pool.tradeFeeNumerator.toNat /
      pool.pool.tradeFeeDenominator.toNat
  | raydiumCpmm pool =>
    amount * pool.tradeFeeRate.toNat / RaydiumCpmm.feeRateDenominator
  | raydiumLaunchpad pool =>
    amount * pool.tradeFeeRate.toNat / RaydiumLaunchpad.feeRateDenominator
  | meteoraDbc pool => MeteoraDbc.dbcFee amount pool.tradeFeeRate.toNat

/-- The base and the quote reserve. -/
def reserves : SwapPool → Nat × Nat
  | raydiumV4 pool => (pool.baseReserve.toNat, pool.quoteReserve.toNat)
  | raydiumCpmm pool => (pool.reserve0.toNat, pool.reserve1.toNat)
  | raydiumLaunchpad pool => (pool.pool.baseReserve, pool.pool.quoteReserve)
  | meteoraDbc pool => (pool.pool.baseReserve.toNat, pool.pool.quoteReserve.toNat)

/-- The largest sum a pool adds its reserve and the input up to. -/
def ceiling : SwapPool → Nat
  | meteoraDbc _ => 2 ^ 64 - 1
  | _ => 2 ^ 128 - 1

/-- Only the DBC quote looks at the status of its pool. -/
def Refuses : SwapPool → Prop
  | meteoraDbc pool => pool.pool.isMigrated ≠ 0
  | _ => False

/-- After its fee the amount buys at least as many output tokens as it has
input tokens: the output reserve outweighs the input reserve by that much. -/
def BuysItself (pool : SwapPool) (direction : SwapDirection) (amount : Nat) :
    Prop :=
  let (reserveIn, reserveOut) :=
    orient pool.reserves.1 pool.reserves.2 direction
  let netIn := amount - pool.fee amount
  amount * min (reserveIn + netIn) pool.ceiling ≤ reserveOut * netIn

section Pools

variable {direction : SwapDirection} {amount : UInt64}

/-- The quote of a pool is the shared arithmetic on its own fee and reserves. -/
def PricedAlike (pool : SwapPool) : Prop :=
  ∀ params : SwapParams, pool.calculateSwap params =
    constantProductSwap (pool.fee params.amount.amount.toNat)
      (orient pool.reserves.1 pool.reserves.2 params.direction).1
      (orient pool.reserves.1 pool.reserves.2 params.direction).2
      params.amount.amount

theorem pricedAlike_raydiumV4 (pool : RaydiumV4.PoolWithReserves) :
    (raydiumV4 pool).PricedAlike := by
  intro params
  have product : params.amount.amount.toNat *
      pool.pool.tradeFeeNumerator.toNat < 2 ^ 128 :=
    mul_lt_two_pow_128 (UInt64.toNat_lt _) (UInt64.toNat_lt _)
  unfold SwapPool.calculateSwap RaydiumV4.PoolWithReserves.calculateSwap
    RaydiumV4.calculateSwapOutput
  simp only [checkedMul, checkedDiv, product, if_true, orPanic_some, ok_bind]
  by_cases noDenominator : pool.pool.tradeFeeDenominator.toNat = 0
  · simp [noDenominator, fee, reserves]
  · simp [noDenominator, fee, reserves]

theorem pricedAlike_raydiumCpmm (pool : RaydiumCpmm.CpmmPoolWithReserves) :
    (raydiumCpmm pool).PricedAlike := by
  intro params
  have product : params.amount.amount.toNat * pool.tradeFeeRate.toNat <
      2 ^ 128 :=
    mul_lt_two_pow_128 (UInt64.toNat_lt _) (UInt64.toNat_lt _)
  unfold SwapPool.calculateSwap RaydiumCpmm.CpmmPoolWithReserves.calculateSwap
    RaydiumCpmm.calculateCpmmSwap
  simp only [checkedMul, product, if_true, orPanic_some, ok_bind, fee, reserves]

theorem pricedAlike_raydiumLaunchpad
    (pool : RaydiumLaunchpad.LaunchpadSwapPool) :
    (raydiumLaunchpad pool).PricedAlike := by
  intro params
  have product : params.amount.amount.toNat * pool.tradeFeeRate.toNat <
      2 ^ 128 :=
    mul_lt_two_pow_128 (UInt64.toNat_lt _) (UInt64.toNat_lt _)
  unfold SwapPool.calculateSwap
    RaydiumLaunchpad.LaunchpadSwapPool.calculateSwap
    RaydiumLaunchpad.calculateLaunchpadSwap
  simp only [checkedMul, product, if_true, orPanic_some, ok_bind, fee, reserves]

theorem fee_le_amount {pool : SwapPool} (feeBelow : pool.FeeBelowDenominator)
    (amount : Nat) : pool.fee amount ≤ amount := by
  cases pool with
  | raydiumV4 pool => exact fee_le feeBelow
  | raydiumCpmm pool => exact fee_le feeBelow
  | raydiumLaunchpad pool => exact fee_le feeBelow
  | meteoraDbc pool => exact MeteoraDbc.dbcFee_le feeBelow

theorem reserves_lt (pool : SwapPool) :
    pool.reserves.1 < 2 ^ 64 ∧ pool.reserves.2 < 2 ^ 64 := by
  cases pool with
  | raydiumV4 pool =>
    exact ⟨pool.baseReserve.toNat_lt, pool.quoteReserve.toNat_lt⟩
  | raydiumCpmm pool => exact ⟨pool.reserve0.toNat_lt, pool.reserve1.toNat_lt⟩
  | raydiumLaunchpad pool =>
    constructor
    · exact (Nat.sub_le _ _).trans_lt pool.pool.virtualBase.toNat_lt
    · exact (Nat.min_le_right _ _).trans_lt (by norm_num)
  | meteoraDbc pool =>
    exact ⟨pool.pool.baseReserve.toNat_lt, pool.pool.quoteReserve.toNat_lt⟩

theorem orient_lt {base quote : Nat} (baseBound : base < 2 ^ 64)
    (quoteBound : quote < 2 ^ 64) (direction : SwapDirection) :
    (orient base quote direction).1 < 2 ^ 64 ∧
      (orient base quote direction).2 < 2 ^ 64 := by
  cases direction with
  | buy => exact ⟨quoteBound, baseBound⟩
  | sell => exact ⟨baseBound, quoteBound⟩

/-- A pool that prices by the shared arithmetic never refuses, and its sums
stay far below the ceiling of 128-bit integers. -/
theorem exactOutContract_iff_of_pricedAlike {pool : SwapPool}
    (priced : pool.PricedAlike) (wide : pool.ceiling = 2 ^ 128 - 1)
    (feeBelow : pool.FeeBelowDenominator) :
    ExactOutContract pool.calculateSwap direction amount ↔
      pool.BuysItself direction amount.toNat := by
  have feeLe := fee_le_amount feeBelow amount.toNat
  obtain ⟨baseBound, quoteBound⟩ := pool.reserves_lt
  obtain ⟨inBound, outBound⟩ := orient_lt baseBound quoteBound direction
  have sum : min ((orient pool.reserves.1 pool.reserves.2 direction).1 +
      (amount.toNat - pool.fee amount.toNat)) pool.ceiling =
      (orient pool.reserves.1 pool.reserves.2 direction).1 +
        (amount.toNat - pool.fee amount.toNat) := by
    have := amount.toNat_lt
    omega
  unfold BuysItself
  simp only [sum]
  apply exactOutContract_constantProduct_iff feeLe inBound outBound
  rintro mode rfl
  exact priced ⟨mode, direction⟩

theorem exactOutContract_meteoraDbc_iff {pool : MeteoraDbc.DbcSwapPool}
    (feeBelow : (meteoraDbc pool).FeeBelowDenominator) :
    ExactOutContract pool.calculateSwap direction amount ↔
      (meteoraDbc pool).Refuses ∨
        (meteoraDbc pool).BuysItself direction amount.toNat := by
  obtain ⟨baseBound, quoteBound⟩ := (meteoraDbc pool).reserves_lt
  by_cases active : pool.pool.isMigrated = 0
  · simp only [Refuses, active, ne_eq, not_true_eq_false, false_or]
    exact MeteoraDbc.exactOutContract_dbc_iff feeBelow active rfl
      (orient_lt baseBound quoteBound direction).2 rfl
  · simp only [Refuses, ne_eq, active, not_false_eq_true, true_or, iff_true]
    have refused (mode : SwapAmount) : pool.calculateSwap ⟨mode, direction⟩ =
        .error (.protocolError "MeteoraDbC" "pool is migrated/inactive") := by
      unfold MeteoraDbc.DbcSwapPool.calculateSwap MeteoraDbc.calculateDbcSwap
      simp only [MeteoraDbc.VirtualPool.isActive, beq_eq_false_iff_ne.mpr active]
      rfl
    exact exactOutContract_of_refused (by simp) (refused (.exactOut amount))

end Pools

/-- An exact-out quote is right exactly when the pool refuses to quote or the
request buys at least itself. -/
theorem exactOutContract_iff (pool : SwapPool) (direction : SwapDirection)
    (amount : UInt64) (feeBelow : pool.FeeBelowDenominator) :
    ExactOutContract pool.calculateSwap direction amount ↔
      pool.Refuses ∨ pool.BuysItself direction amount.toNat := by
  cases pool with
  | raydiumV4 pool =>
    simpa [Refuses] using
      exactOutContract_iff_of_pricedAlike (pricedAlike_raydiumV4 pool) rfl feeBelow
  | raydiumCpmm pool =>
    simpa [Refuses] using
      exactOutContract_iff_of_pricedAlike (pricedAlike_raydiumCpmm pool) rfl feeBelow
  | raydiumLaunchpad pool =>
    simpa [Refuses] using exactOutContract_iff_of_pricedAlike
      (pricedAlike_raydiumLaunchpad pool) rfl feeBelow
  | meteoraDbc pool => exact exactOutContract_meteoraDbc_iff feeBelow

/-- A balanced pool of a million tokens a side, with a fee of 0.25%. -/
def balancedPool : SwapPool :=
  raydiumV4 ⟨⟨25, 10000⟩, 1000000, 1000000⟩

theorem exactOutContract_iff_balanced :
    ExactOutContract balancedPool.calculateSwap .buy 1000 ↔
      balancedPool.Refuses ∨ balancedPool.BuysItself .buy 1000 :=
  exactOutContract_iff balancedPool .buy 1000 (by decide)

/-- Asked for a thousand tokens, the balanced pool answers with an input of a
thousand and an output of 997. -/
theorem balancedPool_underpays :
    balancedPool.FeeBelowDenominator ∧
      balancedPool.calculateSwap ⟨.exactOut 1000, .buy⟩ = .ok {
        amountIn := 1000
        amountOut := 997
        fee := 2
        protocolFee := 2
        lpFee := 0 } ∧
      ¬ExactOutContract balancedPool.calculateSwap .buy 1000 := by
  have answer : balancedPool.calculateSwap ⟨.exactOut 1000, .buy⟩ = .ok {
      amountIn := 1000
      amountOut := 997
      fee := 2
      protocolFee := 2
      lpFee := 0 } := by rfl
  refine ⟨by decide, answer, ?_⟩
  unfold ExactOutContract
  rw [answer]
  rintro ⟨enough, -⟩
  exact absurd enough (by decide)

end SwapPool

end SolanaProtocols
