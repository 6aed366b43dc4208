import Mathlib.Algebra.Order.Floor.Div
import Mathlib.Order.GaloisConnection.Basic

/-!
# Proportional charges with integer rounding

An exchange converts at a rate and takes a fee that is a share of the input.
Going from an output to the input it costs, both steps round up; going from an
input to the output it buys, both round down.  Each pair of roundings is a
Galois connection, so the input computed for an output is the least one that
buys it.
-/

namespace SolanaProtocols

namespace ProportionalCharge

section Rate

variable {cost unit : Nat}

/-- Input that `amount` outputs cost when `unit` outputs cost `cost`. -/
def scaleUp (cost unit amount : Nat) : Nat :=
  (amount * cost) ⌈/⌉ unit

/-- Outputs that `amount` inputs buy when `unit` outputs cost `cost`. -/
def scaleDown (cost unit amount : Nat) : Nat :=
  amount * unit / cost

theorem scale_gc (costPos : 0 < cost) (unitPos : 0 < unit) :
    GaloisConnection (scaleUp cost unit) (scaleDown cost unit) := by
  intro output input
  rw [scaleUp, scaleDown, ceilDiv_le_iff_le_mul unitPos,
    Nat.le_div_iff_mul_le costPos, Nat.mul_comm unit input]

end Rate

section Fee

variable {precision rate : Nat}

/-- Fee charged on top of an amount so that it is the given share of the sum. -/
def feeOnTop (precision rate amount : Nat) : Nat :=
  (amount * rate) ⌈/⌉ (precision - rate)

/-- The share of a sum that is fee. -/
def feeIncluded (precision rate sum : Nat) : Nat :=
  (sum * rate) ⌈/⌉ precision

def withFee (precision rate amount : Nat) : Nat :=
  amount + feeOnTop precision rate amount

def withoutFee (precision rate sum : Nat) : Nat :=
  sum - feeIncluded precision rate sum

theorem feeIncluded_le (rateLt : rate < precision) (sum : Nat) :
    feeIncluded precision rate sum ≤ sum := by
  rw [feeIncluded, ceilDiv_le_iff_le_mul (by omega), Nat.mul_comm precision]
  exact Nat.mul_le_mul_left _ rateLt.le

theorem feeIncluded_mono (precisionPos : 0 < precision) :
    Monotone (feeIncluded precision rate) := by
  intro sum other le
  rw [feeIncluded, ceilDiv_le_iff_le_mul precisionPos]
  calc
    sum * rate ≤ other * rate := Nat.mul_le_mul_right _ le
    _ ≤ precision * feeIncluded precision rate other :=
      (ceilDiv_le_iff_le_mul precisionPos).mp le_rfl

theorem withFee_gc (rateLt : rate < precision) :
    GaloisConnection (withFee precision rate) (withoutFee precision rate) := by
  obtain ⟨rest, rfl⟩ : ∃ rest, precision = rest + rate :=
    ⟨precision - rate, by omega⟩
  have restPos : 0 < rest := by omega
  intro amount sum
  have included := feeIncluded_le rateLt sum
  have onTop : withFee (rest + rate) rate amount ≤ sum ↔
      amount ≤ sum ∧ amount * rate ≤ rest * (sum - amount) := by
    rw [withFee, feeOnTop, Nat.add_sub_cancel, ← ceilDiv_le_iff_le_mul restPos]
    omega
  have taken : amount ≤ withoutFee (rest + rate) rate sum ↔
      amount ≤ sum ∧ sum * rate ≤ (rest + rate) * (sum - amount) := by
    have share : feeIncluded (rest + rate) rate sum ≤ sum - amount ↔
        sum * rate ≤ (rest + rate) * (sum - amount) :=
      ceilDiv_le_iff_le_mul (by omega)
    rw [withoutFee, ← share]
    omega
  rw [onTop, taken]
  refine and_congr_right fun le => ?_
  obtain ⟨fee, rfl⟩ : ∃ fee, sum = amount + fee := ⟨sum - amount, by omega⟩
  rw [Nat.add_sub_cancel_left, Nat.add_mul, Nat.add_mul, Nat.mul_comm rate fee]
  omega

/-- Taking the fee out of a sum it was put on top of gives the amount back. -/
theorem withoutFee_withFee (rateLt : rate < precision) (amount : Nat) :
    withoutFee precision rate (withFee precision rate amount) = amount := by
  refine le_antisymm ?_ ((withFee_gc rateLt).le_u_l amount)
  by_contra more
  have smaller : withFee precision rate (amount + 1) ≤
      withFee precision rate amount :=
    (withFee_gc rateLt).l_le (by omega)
  have fees : feeOnTop precision rate amount ≤
      feeOnTop precision rate (amount + 1) := by
    rw [feeOnTop, ceilDiv_le_iff_le_mul (by omega)]
    calc amount * rate ≤ (amount + 1) * rate :=
          Nat.mul_le_mul_right _ (Nat.le_succ _)
      _ ≤ (precision - rate) * feeOnTop precision rate (amount + 1) :=
          (ceilDiv_le_iff_le_mul (by omega)).mp le_rfl
  rw [withFee, withFee] at smaller
  omega

/-- The fee contained in a sum is the fee that was put on top. -/
theorem feeIncluded_withFee (rateLt : rate < precision) (amount : Nat) :
    feeIncluded precision rate (withFee precision rate amount) =
      feeOnTop precision rate amount := by
  have back := withoutFee_withFee rateLt amount
  have le := feeIncluded_le rateLt (withFee precision rate amount)
  rw [withoutFee] at back
  rw [withFee] at *
  omega

theorem feeIncluded_le_feeOnTop (rateLt : rate < precision) (amount : Nat) :
    feeIncluded precision rate amount ≤ feeOnTop precision rate amount := by
  rw [feeIncluded, ceilDiv_le_iff_le_mul (by omega)]
  calc
    amount * rate ≤ (precision - rate) * feeOnTop precision rate amount :=
      (ceilDiv_le_iff_le_mul (by omega)).mp le_rfl
    _ ≤ precision * feeOnTop precision rate amount :=
      Nat.mul_le_mul_right _ (Nat.sub_le _ _)

/-- The two fees of one amount are equal where a number of whole units covers
the fee on top and lies less than one unit above the share. -/
theorem feeOnTop_eq_feeIncluded_iff (rateLt : rate < precision) (amount : Nat) :
    feeOnTop precision rate amount = feeIncluded precision rate amount ↔
      ∃ units, amount * rate ≤ (precision - rate) * units ∧
        precision * units < amount * rate + precision := by
  have restPos : 0 < precision - rate := by omega
  have precisionPos : 0 < precision := by omega
  constructor
  · intro same
    refine ⟨feeOnTop precision rate amount,
      (ceilDiv_le_iff_le_mul restPos).mp le_rfl, ?_⟩
    rw [same, feeIncluded, Nat.ceilDiv_eq_add_pred_div]
    have rounded := Nat.mul_div_le (amount * rate + precision - 1) precision
    omega
  · rintro ⟨units, covers, close⟩
    apply le_antisymm _ (feeIncluded_le_feeOnTop rateLt amount)
    have onTop : feeOnTop precision rate amount ≤ units :=
      (ceilDiv_le_iff_le_mul restPos).mpr covers
    have share : amount * rate ≤ precision * feeIncluded precision rate amount :=
      (ceilDiv_le_iff_le_mul precisionPos).mp le_rfl
    have atMost : units < feeIncluded precision rate amount + 1 := by
      refine @Nat.lt_of_mul_lt_mul_left precision _ _ ?_
      rw [Nat.mul_add, Nat.mul_one]
      omega
    omega

end Fee

section Exchange

variable {precision rate cost unit : Nat}

/-- Input, fee included, that an output costs. -/
def needed (precision rate cost unit output : Nat) : Nat :=
  withFee precision rate (scaleUp cost unit output)

/-- Output that an input, fee included, buys. -/
def delivered (precision rate cost unit input : Nat) : Nat :=
  scaleDown cost unit (withoutFee precision rate input)

theorem needed_gc (rateLt : rate < precision) (costPos : 0 < cost)
    (unitPos : 0 < unit) :
    GaloisConnection (needed precision rate cost unit)
      (delivered precision rate cost unit) :=
  (scale_gc costPos unitPos).compose (withFee_gc rateLt)

theorem delivered_zero : delivered precision rate cost unit 0 = 0 := by
  simp [delivered, withoutFee, scaleDown]

theorem needed_pos (rateLt : rate < precision) (costPos : 0 < cost)
    (unitPos : 0 < unit) {output : Nat} (outputPos : 0 < output) :
    0 < needed precision rate cost unit output := by
  by_contra free
  have buys := (needed_gc rateLt costPos unitPos).le_u (not_lt.mp free)
  rw [delivered_zero] at buys
  omega

end Exchange

end ProportionalCharge

end SolanaProtocols
