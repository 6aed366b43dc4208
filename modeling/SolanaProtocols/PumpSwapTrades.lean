import SolanaProtocols.PumpSwapQuotes

/-!
# Sequences of PumpSwap swaps

The reserves of a pool are its two vault balances, and every quoted swap moves
them: the input is added to one side, the payment leaves the other.  Whatever
the fees are, a swap is a trade of the constant product curve, so no sequence of
swaps takes value out of the pool.
-/

namespace SolanaProtocols

open ConstantProduct MachineArithmetic Pumpfun Swap

namespace PumpSwap

/-- The two vault balances of a pool. -/
structure VaultBalances where
  base : U64
  quote : U64
deriving DecidableEq, Repr

namespace VaultBalances

def reserveIn (balances : VaultBalances) : SwapDirection → U64
  | .buy => balances.quote
  | .sell => balances.base

def reserveOut (balances : VaultBalances) : SwapDirection → U64
  | .buy => balances.base
  | .sell => balances.quote

def reserves (balances : VaultBalances) : Reserves :=
  ⟨balances.base.toNat, balances.quote.toNat⟩

/-- A quoted swap moves the balances: the input side grows by what goes in, the
output side shrinks by what comes out. -/
structure Settles (build : Build) (direction : SwapDirection)
    (fees : FeeStructure) (amount paid : UInt64)
    (before after : VaultBalances) : Prop where
  answered : ∃ quote,
    calculateSwapExactIn build amount (before.reserveIn direction)
      (before.reserveOut direction) fees = .ok (paid, quote)
  filled : (after.reserveIn direction).toNat =
    (before.reserveIn direction).toNat + amount.toNat
  drawn : (after.reserveOut direction).toNat + paid.toNat =
    (before.reserveOut direction).toNat

/-- Some swap is quoted and moves the balances. -/
def Swapped (build : Build) (before after : VaultBalances) : Prop :=
  ∃ direction fees amount paid,
    Settles build direction fees amount paid before after

section Swaps

variable {build : Build} {direction : SwapDirection} {fees : FeeStructure}
  {amount paid : UInt64} {before after first last : VaultBalances}

theorem Settles.paid_le (settles : Settles build direction fees amount paid
      before after) (funded : 0 < (before.reserveIn direction).toNat) :
    paid.toNat ≤ output (before.reserveIn direction).toNat
      (before.reserveOut direction).toNat amount.toNat := by
  obtain ⟨quote, answered⟩ := settles.answered
  exact (bounds_of_calculateSwapExactIn funded answered).2.2

/-- A swap of a funded pool is a trade of its reserves. -/
theorem Swapped.trade (swapped : Swapped build before after)
    (funded : before.reserves.Funded) :
    Reserves.Trade before.reserves after.reserves := by
  obtain ⟨direction, fees, amount, paid, settles⟩ := swapped
  have filled := settles.filled
  have drawn := settles.drawn
  cases direction with
  | buy =>
    have covered := settles.paid_le funded.quote
    have moved : after.reserves = ⟨before.base.toNat - paid.toNat,
        before.quote.toNat + amount.toNat⟩ := by
      simp only [reserves, Reserves.mk.injEq]
      exact ⟨Nat.eq_sub_of_add_eq drawn, filled⟩
    rw [moved]
    exact .buy amount.toNat paid.toNat covered
  | sell =>
    have covered := settles.paid_le funded.base
    have moved : after.reserves = ⟨before.base.toNat + amount.toNat,
        before.quote.toNat - paid.toNat⟩ := by
      simp only [reserves, Reserves.mk.injEq]
      exact ⟨filled, Nat.eq_sub_of_add_eq drawn⟩
    rw [moved]
    exact .sell amount.toNat paid.toNat covered

theorem trades_of_swaps
    (swaps : Relation.ReflTransGen (Swapped build) first last)
    (funded : first.reserves.Funded) :
    Relation.ReflTransGen Reserves.Trade first.reserves last.reserves := by
  induction swaps with
  | refl => exact .refl
  | tail _ swapped ih =>
    exact ih.tail (swapped.trade (Reserves.keeps_of_trades ih funded).1)

theorem funded_of_ne_zero (base : first.base ≠ 0) (quote : first.quote ≠ 0) :
    first.reserves.Funded :=
  ⟨toNat_pos base, toNat_pos quote⟩

theorem ne_zero_of_funded (funded : first.reserves.Funded) :
    first.base ≠ 0 ∧ first.quote ≠ 0 :=
  ⟨ne_zero_of_toNat_pos funded.base, ne_zero_of_toNat_pos funded.quote⟩

/-- The output of a swap, swapped back under any fees, returns at most the
input. -/
theorem back_le_amount {middle : VaultBalances} {backFees : FeeStructure}
    {back : UInt64} {quote : SwapOutput} (funded : first.reserves.Funded)
    (settles : Settles build direction fees amount paid first middle)
    (answered : calculateSwapExactIn build paid (middle.reserveOut direction)
      (middle.reserveIn direction) backFees = .ok (back, quote)) :
    back ≤ amount := by
  have middleFunded : middle.reserves.Funded :=
    ((Swapped.trade ⟨direction, fees, amount, paid, settles⟩ funded).keeps
      funded).1
  have filled := settles.filled
  have drawn : (middle.reserveOut direction).toNat =
      (first.reserveOut direction).toNat - paid.toNat :=
    Nat.eq_sub_of_add_eq settles.drawn
  obtain ⟨inPos, outPos, middlePos⟩ :
      0 < (first.reserveIn direction).toNat ∧
        0 < (first.reserveOut direction).toNat ∧
        0 < (middle.reserveOut direction).toNat := by
    cases direction with
    | buy => exact ⟨funded.quote, funded.base, middleFunded.base⟩
    | sell => exact ⟨funded.base, funded.quote, middleFunded.quote⟩
  have sold := (bounds_of_calculateSwapExactIn middlePos answered).2.2
  rw [drawn, filled] at sold
  exact UInt64.le_iff_toNat_le.mpr
    (round_trip_le outPos (settles.paid_le inPos) sold)

/-- No swap and no sequence of swaps takes value out of a funded pool: a round
trip returns at most its input, the product of the reserves never falls, and no
reserve reaches zero. -/
theorem swaps_take_nothing (build : Build) (base : first.base ≠ 0)
    (quote : first.quote ≠ 0) :
    (∀ direction fees amount paid middle,
      Settles build direction fees amount paid first middle →
        ∀ backFees back answer,
          calculateSwapExactIn build paid (middle.reserveOut direction)
              (middle.reserveIn direction) backFees = .ok (back, answer) →
            back ≤ amount) ∧
    ∀ last, Relation.ReflTransGen (Swapped build) first last →
      first.base.toNat * first.quote.toNat ≤
          last.base.toNat * last.quote.toNat ∧
        last.base ≠ 0 ∧ last.quote ≠ 0 := by
  have funded := funded_of_ne_zero base quote
  constructor
  · intro direction fees amount paid middle settles backFees back answer answered
    exact back_le_amount funded settles answered
  · intro last swaps
    obtain ⟨lastFunded, grown⟩ :=
      Reserves.keeps_of_trades (trades_of_swaps swaps funded) funded
    exact ⟨grown, ne_zero_of_funded lastFunded⟩

/-- A thousand units on each side. -/
def even : VaultBalances := ⟨1000, 1000⟩

/-- The balances once a hundred units of quote have been swapped. -/
def afterHundred : VaultBalances := ⟨912, 1100⟩

theorem settles_hundred :
    Settles .debug .buy ⟨0, 5, 25⟩ 100 88 even afterHundred where
  answered := ⟨_, calculateSwapExactIn_eq (by decide) (by decide) rfl
    (by decide)⟩
  filled := by decide
  drawn := by decide

theorem swaps_take_nothing_hundred :
    (∀ backFees back answer,
      calculateSwapExactIn .debug 88 (afterHundred.reserveOut .buy)
          (afterHundred.reserveIn .buy) backFees = .ok (back, answer) →
        back ≤ 100) ∧
      even.base.toNat * even.quote.toNat ≤
        afterHundred.base.toNat * afterHundred.quote.toNat :=
  have nothing := @swaps_take_nothing even .debug (by decide) (by decide)
  ⟨nothing.1 .buy _ _ _ _ settles_hundred,
    (nothing.2 _ (.single ⟨_, _, _, _, settles_hundred⟩)).1⟩

end Swaps

end VaultBalances

end PumpSwap

end SolanaProtocols
