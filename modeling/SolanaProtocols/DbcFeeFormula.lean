import SolanaProtocols.SwapExactOut

/-!
# The DBC quote against its formula

A DBC quote takes a share of the input as its fee and puts the rest on the
constant product curve.  The share is computed in 64 bits, and a product that
does not fit counts as no fee: the quote follows its formula exactly as long as
the amount times the rate fits.
-/

namespace SolanaProtocols

open Swap

namespace MeteoraDbc

/-- The fee over exact integers. -/
def exactFee (tradeFeeRate amount : Nat) : Nat :=
  amount * tradeFeeRate / feeDenominator

/-- The quote of an input charges the exact fee and pays what the curve gives
for the rest. -/
def FollowsFormula (pool : VirtualPool) (tradeFeeRate : UInt64)
    (direction : SwapDirection) (amount : UInt64) : Prop :=
  let (reserveIn, reserveOut) :=
    orient pool.baseReserve.toNat pool.quoteReserve.toNat direction
  ∃ output,
    calculateDbcSwap pool tradeFeeRate ⟨.exactIn amount, direction⟩ =
        .ok output ∧
      output.fee.toNat = exactFee tradeFeeRate.toNat amount.toNat ∧
      (reserveIn + amount.toNat - output.fee.toNat ≠ 0 →
        output.amountOut.toNat =
          reserveOut * (amount.toNat - output.fee.toNat) /
            (reserveIn + amount.toNat - output.fee.toNat))

/-- No smaller input is charged a larger fee. -/
def FeeGrowsUpTo (pool : VirtualPool) (tradeFeeRate : UInt64)
    (direction : SwapDirection) (amount : UInt64) : Prop :=
  ∀ smaller, smaller ≤ amount → ∀ less more,
    calculateDbcSwap pool tradeFeeRate ⟨.exactIn smaller, direction⟩ =
        .ok less →
      calculateDbcSwap pool tradeFeeRate ⟨.exactIn amount, direction⟩ =
          .ok more →
        less.fee ≤ more.fee

section Fee

variable {amount smaller tradeFeeRate : Nat}

theorem exactFee_le (rate : tradeFeeRate ≤ feeDenominator) :
    exactFee tradeFeeRate amount ≤ amount := by
  apply Nat.div_le_of_le_mul
  calc
    amount * tradeFeeRate ≤ amount * feeDenominator :=
      Nat.mul_le_mul_left amount rate
    _ = feeDenominator * amount := Nat.mul_comm _ _

theorem exactFee_mono (le : smaller ≤ amount) :
    exactFee tradeFeeRate smaller ≤ exactFee tradeFeeRate amount :=
  Nat.div_le_div_right (Nat.mul_le_mul_right tradeFeeRate le)

theorem dbcFee_eq_exactFee (fits : amount * tradeFeeRate < 2 ^ 64) :
    dbcFee amount tradeFeeRate = exactFee tradeFeeRate amount := by
  rw [dbcFee, checkedMul, if_pos fits]
  rfl

theorem dbcFee_eq_zero (overflows : 2 ^ 64 ≤ amount * tradeFeeRate) :
    dbcFee amount tradeFeeRate = 0 := by
  rw [dbcFee, checkedMul, if_neg (Nat.not_lt.mpr overflows)]
  rfl

theorem exactFee_pos (overflows : 2 ^ 64 ≤ amount * tradeFeeRate) :
    0 < exactFee tradeFeeRate amount := by
  apply Nat.div_pos _ (by decide)
  calc
    feeDenominator ≤ 2 ^ 64 := by decide
    _ ≤ amount * tradeFeeRate := overflows

end Fee

section Quote

variable {pool : VirtualPool} {tradeFeeRate : UInt64}
  {direction : SwapDirection} {amount : UInt64}

/-- What an active pool charges. -/
theorem fee_of_ok {output : SwapOutput} (active : pool.isMigrated = 0)
    (quoted : calculateDbcSwap pool tradeFeeRate ⟨.exactIn amount, direction⟩ =
      .ok output) :
    output.fee = UInt64.ofNat (dbcFee amount.toNat tradeFeeRate.toNat) := by
  cases reserves : orient pool.baseReserve.toNat pool.quoteReserve.toNat
    direction with
  | mk reserveIn reserveOut =>
    have outBound := (SwapPool.orient_lt pool.baseReserve.toNat_lt
      pool.quoteReserve.toNat_lt direction).2
    rw [reserves] at outBound
    rw [calculateDbcSwap_eq active reserves outBound rfl] at quoted
    cases quoted
    rfl

theorem followsFormula_of_fits (active : pool.isMigrated = 0)
    (rate : tradeFeeRate.toNat ≤ feeDenominator)
    (room : (orient pool.baseReserve.toNat pool.quoteReserve.toNat
      direction).1 + amount.toNat < 2 ^ 64)
    (fits : amount.toNat * tradeFeeRate.toNat < 2 ^ 64) :
    FollowsFormula pool tradeFeeRate direction amount := by
  have feeLe : exactFee tradeFeeRate.toNat amount.toNat ≤ amount.toNat :=
    exactFee_le rate
  have feeFits : (UInt64.ofNat
      (exactFee tradeFeeRate.toNat amount.toNat)).toNat =
        exactFee tradeFeeRate.toNat amount.toNat :=
    UInt64.toNat_ofNat_of_lt' (feeLe.trans_lt amount.toNat_lt)
  have outBound := (SwapPool.orient_lt pool.baseReserve.toNat_lt
    pool.quoteReserve.toNat_lt direction).2
  unfold FollowsFormula
  cases reserves : orient pool.baseReserve.toNat pool.quoteReserve.toNat
    direction with
  | mk reserveIn reserveOut =>
    rw [reserves] at outBound room
    have net : (SwapAmount.exactIn amount).amount.toNat -
        dbcFee (SwapAmount.exactIn amount).amount.toNat tradeFeeRate.toNat =
          amount.toNat - exactFee tradeFeeRate.toNat amount.toNat := by
      rw [SwapAmount.amount, dbcFee_eq_exactFee fits]
    refine ⟨_, calculateDbcSwap_eq active reserves outBound net, ?_, ?_⟩
    · simp only [SwapAmount.amount, dbcFee_eq_exactFee fits, feeFits]
    · intro _
      simp only [SwapAmount.amount, dbcFee_eq_exactFee fits, feeFits]
      have sum : min (reserveIn +
          (amount.toNat - exactFee tradeFeeRate.toNat amount.toNat))
            (2 ^ 64 - 1) =
          reserveIn +
            (amount.toNat - exactFee tradeFeeRate.toNat amount.toNat) := by
        simp only at room
        omega
      rw [sum, ofNat_div_toNat outBound (Nat.le_add_left _ _),
        Nat.add_sub_assoc feeLe]

theorem feeGrowsUpTo_of_fits (active : pool.isMigrated = 0)
    (fits : amount.toNat * tradeFeeRate.toNat < 2 ^ 64) :
    FeeGrowsUpTo pool tradeFeeRate direction amount := by
  intro smaller le less more quotedLess quotedMore
  have natLe : smaller.toNat ≤ amount.toNat := UInt64.le_iff_toNat_le.mp le
  have grows : exactFee tradeFeeRate.toNat smaller.toNat ≤
      exactFee tradeFeeRate.toNat amount.toNat := exactFee_mono natLe
  have smallerFits : smaller.toNat * tradeFeeRate.toNat < 2 ^ 64 :=
    (Nat.mul_le_mul_right _ natLe).trans_lt fits
  have bounded : exactFee tradeFeeRate.toNat amount.toNat < 2 ^ 64 :=
    (Nat.div_le_self _ _).trans_lt fits
  rw [fee_of_ok active quotedLess, fee_of_ok active quotedMore,
    dbcFee_eq_exactFee fits, dbcFee_eq_exactFee smallerFits,
    UInt64.le_iff_toNat_le, UInt64.toNat_ofNat_of_lt' (grows.trans_lt bounded),
    UInt64.toNat_ofNat_of_lt' bounded]
  exact grows

theorem not_followsFormula_of_overflows (active : pool.isMigrated = 0)
    (overflows : 2 ^ 64 ≤ amount.toNat * tradeFeeRate.toNat) :
    ¬FollowsFormula pool tradeFeeRate direction amount := by
  rintro ⟨output, quoted, charged, -⟩
  have positive := exactFee_pos overflows
  rw [fee_of_ok active quoted, dbcFee_eq_zero overflows] at charged
  simp at charged
  omega

/-- The quote of an active pool follows its formula, with a fee that grows with
the amount, exactly when the amount times the rate fits in 64 bits. -/
theorem calculateDbcSwap_followsFormula_iff (active : pool.isMigrated = 0)
    (rate : tradeFeeRate.toNat ≤ feeDenominator)
    (room : (orient pool.baseReserve.toNat pool.quoteReserve.toNat
      direction).1 + amount.toNat < 2 ^ 64) :
    (FollowsFormula pool tradeFeeRate direction amount ∧
        FeeGrowsUpTo pool tradeFeeRate direction amount) ↔
      amount.toNat * tradeFeeRate.toNat < 2 ^ 64 := by
  constructor
  · rintro ⟨follows, -⟩
    by_contra overflows
    exact not_followsFormula_of_overflows active (Nat.not_lt.mp overflows)
      follows
  · intro fits
    exact ⟨followsFormula_of_fits active rate room fits,
      feeGrowsUpTo_of_fits active fits⟩

theorem calculateDbcSwap_followsFormula_iff_one_sol :
    (FollowsFormula ⟨1000000000000000, 85000000000, 0⟩ 10000000 .buy
          1000000000 ∧
        FeeGrowsUpTo ⟨1000000000000000, 85000000000, 0⟩ 10000000 .buy
          1000000000) ↔
      (1000000000 : UInt64).toNat * (10000000 : UInt64).toNat < 2 ^ 64 :=
  calculateDbcSwap_followsFormula_iff (by decide) (by decide) (by decide)

/-- The same pool takes no fee from an input of two thousand SOL, where the
formula takes twenty. -/
theorem calculateDbcSwap_drops_fee :
    (2000000000000 : UInt64).toNat + (85000000000 : UInt64).toNat < 2 ^ 64 ∧
      exactFee 10000000 2000000000000 = 20000000000 ∧
      (calculateDbcSwap ⟨1000000000000000, 85000000000, 0⟩ 10000000
        ⟨.exactIn 2000000000000, .buy⟩).map (·.fee) = .ok 0 ∧
      ¬FollowsFormula ⟨1000000000000000, 85000000000, 0⟩ 10000000 .buy
        2000000000000 :=
  ⟨by decide, by decide, by decide,
    not_followsFormula_of_overflows (by decide) (by decide)⟩

end Quote

end MeteoraDbc

end SolanaProtocols
