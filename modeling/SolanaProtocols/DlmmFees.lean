import SolanaProtocols.DlmmQuoteInverse

/-!
# The fee formulas of a DLMM pool

One formula charges a fee on top of an amount and one takes it out of an amount
that includes it.  They are inverse to each other: the sum of an amount and its
fee is the least one that leaves the amount.  The pool's convenience methods
compute the same fee rate with saturating arithmetic, but they charge a swap
input on top, where the swap takes the fee out of it.
-/

namespace SolanaProtocols

namespace MeteoraDlmm

open ProportionalCharge

section Saturating

def saturatingAdd (width x y : Nat) : Nat :=
  min (x + y) (2 ^ width - 1)

def saturatingMul (width x y : Nat) : Nat :=
  min (x * y) (2 ^ width - 1)

def saturatingPow (width x exponent : Nat) : Nat :=
  min (x ^ exponent) (2 ^ width - 1)

variable {width x y exponent : Nat}

theorem saturatingAdd_eq (fits : x + y < 2 ^ width) :
    saturatingAdd width x y = x + y :=
  Nat.min_eq_left (by omega)

theorem saturatingMul_eq (fits : x * y < 2 ^ width) :
    saturatingMul width x y = x * y :=
  Nat.min_eq_left (by omega)

theorem saturatingPow_eq (fits : x ^ exponent < 2 ^ width) :
    saturatingPow width x exponent = x ^ exponent :=
  Nat.min_eq_left (by omega)

end Saturating

namespace LbPair

/-- The base fee of the convenience methods, without the power factor. -/
def baseFee (pair : LbPair) : Nat :=
  saturatingMul 128
    (saturatingMul 128 pair.parameters.baseFactor pair.binStep) 10

def variableFee (pair : LbPair) : Nat :=
  if pair.parameters.variableFeeControl = 0 then 0
  else
    let square := saturatingPow 128
      (saturatingMul 128 pair.vParameters.volatilityAccumulator pair.binStep) 2
    let raw := saturatingMul 128 pair.parameters.variableFeeControl square
    saturatingAdd 128 raw 99999999999 / 100000000000

/-- Total fee rate, capped at `maxFeeRate`. -/
def totalFeeRate (pair : LbPair) : Nat :=
  min (saturatingAdd 128 pair.baseFee pair.variableFee) maxFeeRate

/-- Convenience: pre-computed fee on a swap input amount. -/
def computeFeeOnInput (pair : LbPair) (amountIn : Nat) : Nat :=
  let rate := pair.totalFeeRate
  let denominator := feePrecision - rate
  if denominator = 0 then amountIn
  else
    let numerator := saturatingMul 128 amountIn rate
    min (saturatingAdd 128 numerator (denominator - 1) / denominator) (2 ^ 64 - 1)

end LbPair

section Rates

variable {pair : LbPair} {rate amount fee : Nat}

theorem getTotalFee_le (ok : getTotalFee pair = .ok rate) : rate ≤ maxFeeRate := by
  simp only [getTotalFee, bind_eq_ok_iff] at ok
  obtain ⟨_, -, _, -, total, -, ok⟩ := ok
  cases ok
  exact Nat.min_le_right _ _

theorem baseFee_eq {base : Nat} (noPower : pair.parameters.baseFeePowerFactor = 0)
    (ok : getBaseFee pair = .ok base) : pair.baseFee = base := by
  simp only [getBaseFee, safeMul, bind_eq_ok_iff, okOr_eq_ok_iff,
    checkedMul_eq_some_iff, noPower, if_true] at ok
  obtain ⟨_, ⟨first, rfl⟩, _, ⟨second, rfl⟩, ok⟩ := ok
  cases ok
  rw [LbPair.baseFee, saturatingMul_eq first, saturatingMul_eq second]

theorem variableFee_eq {volatile : Nat} (ok : getVariableFee pair = .ok volatile) :
    pair.variableFee = volatile := by
  rw [getVariableFee, computeVariableFee] at ok
  rw [LbPair.variableFee]
  split
  next off =>
    rw [if_pos off] at ok
    exact Except.ok.inj ok
  next on =>
    rw [if_neg on] at ok
    simp only [safeMul, safeAdd, safeDiv, bind_eq_ok_iff, okOr_eq_ok_iff,
      checkedMul_eq_some_iff, checkedAdd_eq_some_iff, checkedDiv_eq_some_iff,
      checkedPow, Option.ite_none_right_eq_some, Option.some.injEq] at ok
    obtain ⟨_, ⟨moved, rfl⟩, _, ⟨squared, rfl⟩, _, ⟨scaled, rfl⟩, _,
      ⟨rounded, rfl⟩, -, rfl⟩ := ok
    simp only [saturatingMul_eq moved, saturatingPow_eq squared,
      saturatingMul_eq scaled, saturatingAdd_eq rounded]

theorem totalFeeRate_eq (noPower : pair.parameters.baseFeePowerFactor = 0)
    (ok : getTotalFee pair = .ok rate) : pair.totalFeeRate = rate := by
  simp only [getTotalFee, safeAdd, bind_eq_ok_iff, okOr_eq_ok_iff,
    checkedAdd_eq_some_iff] at ok
  obtain ⟨base, baseOk, volatile, volatileOk, _, ⟨fits, rfl⟩, ok⟩ := ok
  cases ok
  rw [LbPair.totalFeeRate, baseFee_eq noPower baseOk, variableFee_eq volatileOk,
    saturatingAdd_eq fits]

end Rates

section Formulas

variable {pair : LbPair} {rate amount fee gross : Nat}

theorem computeFeeFromAmount_of_rate (rateEq : getTotalFee pair = .ok rate)
    (bound : gross < 2 ^ 64) :
    computeFeeFromAmount pair gross =
      .ok (feeIncluded feePrecision rate gross) := by
  have rateLe : rate ≤ 100000000 := getTotalFee_le rateEq
  have product : gross * rate ≤ gross * 100000000 :=
    Nat.mul_le_mul_left gross rateLe
  have rounded : feeIncluded feePrecision rate gross =
      (gross * rate + (feePrecision - 1)) / feePrecision := by
    rw [feeIncluded, Nat.ceilDiv_eq_add_pred_div, Nat.add_sub_assoc (by decide)]
  have included : feeIncluded feePrecision rate gross ≤ gross :=
    feeIncluded_le (getTotalFee_lt rateEq) gross
  rw [rounded] at included ⊢
  simp only [computeFeeFromAmount, rateEq, safeMul, safeAdd, safeDiv, safeCast,
    bind_eq_ok_iff, okOr_eq_ok_iff, checkedMul_eq_some_iff,
    checkedAdd_eq_some_iff, checkedDiv_eq_some_iff, tryFrom_eq_some_iff]
  refine ⟨rate, rfl, _, ⟨?_, rfl⟩, _, ⟨?_, rfl⟩, _, ⟨by decide, rfl⟩, ?_, rfl⟩
  · omega
  · unfold feePrecision
    omega
  · omega

/-- What a sum leaves after its fee. -/
def Leaves (pair : LbPair) (gross net : Nat) : Prop :=
  ∃ fee, computeFeeFromAmount pair gross = .ok fee ∧ gross = net + fee

theorem leaves_iff_withoutFee (rateEq : getTotalFee pair = .ok rate)
    (bound : gross < 2 ^ 64) {net : Nat} :
    Leaves pair gross net ↔ net = withoutFee feePrecision rate gross := by
  have included : feeIncluded feePrecision rate gross ≤ gross :=
    feeIncluded_le (getTotalFee_lt rateEq) gross
  rw [Leaves, computeFeeFromAmount_of_rate rateEq bound, withoutFee]
  constructor
  · rintro ⟨fee, same, sum⟩
    rw [Except.ok.injEq] at same
    omega
  · intro left
    exact ⟨_, rfl, by omega⟩

/-- Taking the fee out of a sum gives back the fee that was put on top; the sum
is the least one that leaves the amount, and a larger sum leaves no less. -/
theorem computeFee_inverse (pair : LbPair) (amount fee : Nat)
    (charged : computeFee pair amount = .ok fee)
    (fits : amount + fee < 2 ^ 64) :
    computeFeeFromAmount pair (amount + fee) = .ok fee ∧
      IsLeast {gross | gross < 2 ^ 64 ∧
        ∃ net, Leaves pair gross net ∧ amount ≤ net} (amount + fee) ∧
      ∀ smaller larger, smaller ≤ larger → larger < 2 ^ 64 →
        ∃ less more, Leaves pair smaller less ∧ Leaves pair larger more ∧
          less ≤ more := by
  obtain ⟨rate, rateEq, rfl⟩ := computeFee_cases charged
  have rateLt := getTotalFee_lt rateEq
  have galois := withFee_gc rateLt
  have bounded : withFee feePrecision rate amount < 2 ^ 64 := fits
  have back : computeFeeFromAmount pair (withFee feePrecision rate amount) =
      .ok (feeOnTop feePrecision rate amount) := by
    rw [computeFeeFromAmount_of_rate rateEq bounded, feeIncluded_withFee rateLt]
  refine ⟨back, ⟨⟨fits, amount, ⟨_, back, rfl⟩, le_rfl⟩, ?_⟩, ?_⟩
  · rintro gross ⟨bound, net, leaves, enough⟩
    rw [leaves_iff_withoutFee rateEq bound] at leaves
    exact galois.l_le (leaves ▸ enough)
  · intro smaller larger le bound
    have smallerBound : smaller < 2 ^ 64 := by omega
    exact ⟨_, _, (leaves_iff_withoutFee rateEq smallerBound).mpr rfl,
      (leaves_iff_withoutFee rateEq bound).mpr rfl, galois.monotone_u le⟩

/-- A pool of one percent. -/
def onePercentPair : LbPair where
  parameters := {
    baseFactor := 10000
    filterPeriod := 30
    decayPeriod := 600
    reductionFactor := 5000
    variableFeeControl := 0
    maxVolatilityAccumulator := 0
    protocolShare := 0
    baseFeePowerFactor := 0 }
  vParameters := {
    volatilityAccumulator := 0
    volatilityReference := 0
    indexReference := 0
    lastUpdateTimestamp := 0 }
  pairType := 0
  activeId := 0
  binStep := 100
  status := 0
  activationType := 0
  binArrayBitmap := arrayZeroFlagged
  activationPoint := 0

theorem computeFee_inverse_onePercent :
    computeFeeFromAmount onePercentPair (1000000 + 10102) = .ok 10102 ∧
      IsLeast {gross | gross < 2 ^ 64 ∧
        ∃ net, Leaves onePercentPair gross net ∧ 1000000 ≤ net}
          (1000000 + 10102) ∧
      ∀ smaller larger, smaller ≤ larger → larger < 2 ^ 64 →
        ∃ less more, Leaves onePercentPair smaller less ∧
          Leaves onePercentPair larger more ∧ less ≤ more :=
  computeFee_inverse onePercentPair 1000000 10102 (by decide) (by decide)

end Formulas

section Convenience

variable {pair : LbPair} {rate amount : Nat}

/-- The convenience method charges a swap input on top. -/
theorem computeFeeOnInput_eq (noPower : pair.parameters.baseFeePowerFactor = 0)
    (rateEq : getTotalFee pair = .ok rate) (bound : amount < 2 ^ 64) :
    pair.computeFeeOnInput amount = feeOnTop feePrecision rate amount := by
  have rateLe : rate ≤ 100000000 := getTotalFee_le rateEq
  have product : amount * rate ≤ amount * 100000000 :=
    Nat.mul_le_mul_left amount rateLe
  have rest : 900000000 ≤ feePrecision - rate ∧
      feePrecision - rate ≤ 1000000000 := by
    unfold feePrecision
    omega
  have rounded : feeOnTop feePrecision rate amount =
      (amount * rate + (feePrecision - rate - 1)) / (feePrecision - rate) := by
    rw [feeOnTop, Nat.ceilDiv_eq_add_pred_div, Nat.add_sub_assoc (by omega)]
  have small : feeOnTop feePrecision rate amount ≤ 2 ^ 64 - 1 := by
    have restPos : 0 < feePrecision - rate := by omega
    have amountLe : amount ≤ 2 ^ 64 - 1 := Nat.le_sub_one_of_lt bound
    refine (ceilDiv_le_iff_le_mul restPos).mpr ?_
    calc
      amount * rate ≤ amount * (feePrecision - rate) :=
        Nat.mul_le_mul_left amount (by omega)
      _ ≤ (2 ^ 64 - 1) * (feePrecision - rate) :=
        Nat.mul_le_mul_right _ amountLe
      _ = (feePrecision - rate) * (2 ^ 64 - 1) := Nat.mul_comm _ _
  have scaled : saturatingMul 128 amount rate = amount * rate :=
    saturatingMul_eq (by omega)
  have sum : saturatingAdd 128 (amount * rate) (feePrecision - rate - 1) =
      amount * rate + (feePrecision - rate - 1) := saturatingAdd_eq (by omega)
  unfold LbPair.computeFeeOnInput
  simp only [totalFeeRate_eq noPower rateEq, scaled, sum]
  rw [if_neg (by omega), ← rounded]
  exact Nat.min_eq_left small

theorem fee_of_binSwap {bin stored : Bin} {price : Nat} {swapForY : Bool}
    {hostFeeBps : Option Nat} {result : BinSwapResult}
    (ok : binSwap bin amount price swapForY pair hostFeeBps =
      .ok (result, stored)) (used : result.amountInWithFees = amount) :
    computeFeeFromAmount pair amount = .ok result.fee := by
  obtain ⟨amountIntoBin, ok⟩ := exists_amounts_of_binSwap ok
  simp only [binSwapAmounts, bind_eq_ok_iff] at ok
  obtain ⟨maxIn, -, maxFee, -, drainIn, -, ⟨paidIn, out, fee, protocolFee⟩,
    amountsEq, hostFee, -, afterHost, -, into, -, ok⟩ := ok
  cases ok
  split at amountsEq
  next drains =>
    obtain ⟨_, -, amountsEq⟩ := bind_eq_ok_iff.mp amountsEq
    cases amountsEq
    exact absurd used drains.ne
  next =>
    simp only [bind_eq_ok_iff] at amountsEq
    obtain ⟨included, includedEq, _, -, _, -, _, -, amountsEq⟩ := amountsEq
    cases amountsEq
    exact includedEq

/-- The convenience method gives the fee contained in a swap input, which is
what the swap of a bin charges that uses up that input. -/
structure AgreesOnInput (pair : LbPair) (amount : Nat) : Prop where
  formula : computeFeeFromAmount pair amount = .ok (pair.computeFeeOnInput amount)
  swap : ∀ bin price swapForY hostFeeBps result stored,
    binSwap bin amount price swapForY pair hostFeeBps = .ok (result, stored) →
      result.amountInWithFees = amount →
        result.fee = pair.computeFeeOnInput amount

/-- Both ports compute the same rate, and the same fee exactly where a number of
whole units covers the fee on top and lies less than one unit above the share of
the input. -/
theorem agreesOnInput_iff (pair : LbPair) (rate amount : Nat)
    (noPower : pair.parameters.baseFeePowerFactor = 0)
    (rateEq : getTotalFee pair = .ok rate) (bound : amount < 2 ^ 64) :
    pair.totalFeeRate = rate ∧
      (AgreesOnInput pair amount ↔
        ∃ units, amount * rate ≤ (feePrecision - rate) * units ∧
          feePrecision * units < amount * rate + feePrecision) := by
  refine ⟨totalFeeRate_eq noPower rateEq, ?_⟩
  have included := computeFeeFromAmount_of_rate rateEq bound
  have onTop := computeFeeOnInput_eq noPower rateEq bound
  rw [← feeOnTop_eq_feeIncluded_iff (getTotalFee_lt rateEq)]
  constructor
  · intro agrees
    have same := included.symm.trans agrees.formula
    rw [Except.ok.injEq, onTop] at same
    exact same.symm
  · intro same
    rw [← same, ← onTop] at included
    refine ⟨included, ?_⟩
    intro bin price swapForY hostFeeBps result stored ok used
    have charged := included.symm.trans (fee_of_binSwap ok used)
    exact (Except.ok.inj charged).symm

theorem agreesOnInput_iff_onePercent :
    onePercentPair.totalFeeRate = 10000000 ∧
      (AgreesOnInput onePercentPair 1000000 ↔
        ∃ units, 1000000 * 10000000 ≤ (feePrecision - 10000000) * units ∧
          feePrecision * units < 1000000 * 10000000 + feePrecision) :=
  agreesOnInput_iff onePercentPair 10000000 1000000 rfl (by decide) (by decide)

/-- Of a million tokens a swap takes ten thousand; the convenience method says
10102. -/
theorem onePercentPair_overcharges :
    getTotalFee onePercentPair = .ok 10000000 ∧
      computeFeeFromAmount onePercentPair 1000000 = .ok 10000 ∧
      onePercentPair.computeFeeOnInput 1000000 = 10102 ∧
      ¬AgreesOnInput onePercentPair 1000000 := by
  have included : computeFeeFromAmount onePercentPair 1000000 = .ok 10000 := by
    decide
  have onTop : onePercentPair.computeFeeOnInput 1000000 = 10102 := by decide
  refine ⟨by decide, included, onTop, fun agrees => ?_⟩
  have same := included.symm.trans agrees.formula
  rw [onTop, Except.ok.injEq] at same
  exact absurd same (by decide)

end Convenience

end MeteoraDlmm

end SolanaProtocols
