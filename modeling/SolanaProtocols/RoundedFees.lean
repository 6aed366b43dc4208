import Mathlib.Algebra.Order.Floor.Div
import Mathlib.Algebra.Order.BigOperators.Group.List
import Mathlib.Data.List.Forall2
import Mathlib.Tactic.Ring

/-!
# Fees of several rates, each rounded up

An amount is charged at several rates, and every fee is rounded up on its own.
Grossing an amount up by the sum of the rates can leave the fees short by less
than one unit each, so whether a gross amount affords its fees and what is to be
left of it is a question about whole units.
-/

namespace SolanaProtocols

namespace RoundedFees

/-- The fee of one rate. -/
def share (precision rate amount : Nat) : Nat :=
  (amount * rate) ⌈/⌉ precision

/-- The fees of all rates. -/
def total (precision : Nat) (rates : List Nat) (amount : Nat) : Nat :=
  (rates.map (share precision · amount)).sum

/-- The least amount that its combined rate leaves `net` of. -/
def grossUp (precision rate net : Nat) : Nat :=
  (net * precision) ⌈/⌉ (precision - rate)

/-- The gross amount can be split into `net` and a whole number of units for
each rate that covers its share. -/
def Affords (precision : Nat) (rates : List Nat) (gross net : Nat) : Prop :=
  ∃ units : List Nat,
    List.Forall₂ (fun rate unit => gross * rate ≤ precision * unit) rates units ∧
      units.sum + net ≤ gross

section Totals

variable {precision amount smaller : Nat} {rates : List Nat}

@[simp]
theorem total_nil : total precision [] amount = 0 :=
  rfl

@[simp]
theorem total_cons (rate : Nat) :
    total precision (rate :: rates) amount =
      share precision rate amount + total precision rates amount :=
  rfl

theorem share_le_iff (precisionPos : 0 < precision) {rate unit : Nat} :
    share precision rate amount ≤ unit ↔ amount * rate ≤ precision * unit :=
  ceilDiv_le_iff_le_mul precisionPos

@[simp]
theorem share_zero_rate : share precision 0 amount = 0 := by
  simp [share]

/-- Rounding up charges less than one unit too much for each rate. -/
theorem mul_total_le (precisionPos : 0 < precision) :
    precision * total precision rates amount ≤
      amount * rates.sum + rates.length * (precision - 1) := by
  induction rates with
  | nil => simp
  | cons rate rates ih =>
    have least : precision * share precision rate amount ≤
        amount * rate + (precision - 1) := by
      rw [share, Nat.ceilDiv_eq_add_pred_div]
      refine (Nat.mul_div_le _ _).trans ?_
      omega
    rw [List.sum_cons, total_cons, List.length_cons, Nat.mul_add, Nat.mul_add,
      Nat.add_mul, Nat.one_mul]
    omega

theorem affords_iff (precisionPos : 0 < precision) {gross net : Nat} :
    Affords precision rates gross net ↔
      total precision rates gross + net ≤ gross := by
  constructor
  · rintro ⟨units, covers, fits⟩
    have atMost : total precision rates gross ≤ units.sum := by
      clear fits
      induction covers with
      | nil => simp
      | cons covered _ ih =>
        rw [total_cons, List.sum_cons]
        exact Nat.add_le_add ((share_le_iff precisionPos).mpr covered) ih
    omega
  · intro fits
    refine ⟨rates.map (share precision · gross), ?_, fits⟩
    rw [List.forall₂_map_right_iff, List.forall₂_same]
    intro rate _
    exact (share_le_iff precisionPos).mp le_rfl

theorem affords_zero_iff (precisionPos : 0 < precision) {gross : Nat} :
    Affords precision rates gross 0 ↔ total precision rates gross ≤ gross := by
  rw [affords_iff precisionPos, Nat.add_zero]

/-- Fees of rates that add up to less than the whole stay below the amount and
one unit for each rate, by that much in the precision. -/
theorem mul_total_add_le (below : rates.sum < precision) :
    precision * total precision rates amount + (amount + rates.length) ≤
      precision * (amount + rates.length) := by
  obtain ⟨rest, rfl⟩ : ∃ rest, precision = rest + 1 := ⟨precision - 1, by omega⟩
  have charged : (rest + 1) * total (rest + 1) rates amount ≤
      amount * rates.sum + rates.length * rest := mul_total_le (Nat.succ_pos rest)
  have shares : amount * rates.sum ≤ amount * rest :=
    Nat.mul_le_mul_left amount (by omega)
  calc
    (rest + 1) * total (rest + 1) rates amount + (amount + rates.length) ≤
        amount * rest + rates.length * rest + (amount + rates.length) := by
      omega
    _ = (rest + 1) * (amount + rates.length) := by ring

end Totals

section GrossUp

variable {precision rate net gross : Nat} {rates : List Nat}

theorem isLeast_grossUp (below : rate < precision) :
    IsLeast {gross | net * precision ≤ (precision - rate) * gross}
      (grossUp precision rate net) := by
  have restPos : 0 < precision - rate := by omega
  constructor
  · exact (ceilDiv_le_iff_le_mul restPos).mp le_rfl
  · intro gross enough
    exact (ceilDiv_le_iff_le_mul restPos).mpr enough

theorem le_grossUp (below : rate < precision) :
    net ≤ grossUp precision rate net := by
  have least : net * precision ≤
      (precision - rate) * grossUp precision rate net := (isLeast_grossUp below).1
  have most : (precision - rate) * grossUp precision rate net ≤
      precision * grossUp precision rate net :=
    Nat.mul_le_mul_right _ (Nat.sub_le _ _)
  apply Nat.le_of_mul_le_mul_left _ (Nat.zero_lt_of_lt below)
  calc
    precision * net = net * precision := Nat.mul_comm _ _
    _ ≤ (precision - rate) * grossUp precision rate net := least
    _ ≤ precision * grossUp precision rate net := most

/-- What grosses up a net amount with a unit for all but one of the rates
covers the fees. -/
theorem total_le_of_grossed (below : rates.sum < precision)
    (grossed : net * precision ≤ (precision - rates.sum) * gross)
    (units : rates.length ≤ net + 1) :
    total precision rates gross ≤ gross := by
  obtain ⟨rest, rfl⟩ : ∃ rest, precision = rest + rates.sum :=
    ⟨precision - rates.sum, by omega⟩
  obtain ⟨less, lessEq⟩ : ∃ less, rest + rates.sum = less + 1 :=
    ⟨rest + rates.sum - 1, by omega⟩
  rw [Nat.add_sub_cancel] at grossed
  have charged : (rest + rates.sum) * total (rest + rates.sum) rates gross ≤
      gross * rates.sum + rates.length * less := by
    have least := @mul_total_le (rest + rates.sum) gross rates (by omega)
    rwa [lessEq, Nat.add_sub_cancel, ← lessEq] at least
  have rounding : rates.length * less ≤ (net + 1) * less :=
    Nat.mul_le_mul_right _ units
  by_contra more
  have charges : (rest + rates.sum) * (gross + 1) ≤
      (rest + rates.sum) * total (rest + rates.sum) rates gross :=
    Nat.mul_le_mul_left _ (by omega)
  have tooMuch : rest * gross + (less + 1) ≤ net * less + less := by
    have expanded : (rest + rates.sum) * (gross + 1) =
        rest * gross + gross * rates.sum + (less + 1) := by
      rw [← lessEq]
      ring
    rw [Nat.add_mul, Nat.one_mul] at rounding
    omega
  rw [lessEq, Nat.mul_add, Nat.mul_one] at grossed
  omega

end GrossUp

end RoundedFees

end SolanaProtocols
