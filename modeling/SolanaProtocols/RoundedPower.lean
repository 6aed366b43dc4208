import Mathlib.Data.Nat.Bitwise
import Mathlib.Order.Monotone.Defs

/-!
# Rounded powers

Powers by repeated squaring with a multiplication that rounds.  The squares at
the bits of the exponent are multiplied into the result, from the lowest bit up,
so powers of adjacent exponents can be products of different squares.

Below one, a greater exponent still has no greater power.  Where the bits of two
exponents carry, the new square is no greater than any power from the bits before
it, since it was rounded from a product of two squares that were not.
-/

namespace RoundedPower

variable {Value : Type}

/-- A multiplication that is monotone and at which a factor of at most one takes
away. -/
structure RoundsDown [Preorder Value] (mul : Value → Value → Value)
    (one : Value) : Prop where
  mono : ∀ {x x' y y'}, x ≤ x' → y ≤ y' → mul x y ≤ mul x' y'
  mul_le_left : ∀ {x y}, y ≤ one → mul x y ≤ x
  mul_le_right : ∀ {x y}, x ≤ one → mul x y ≤ y

variable (mul : Value → Value → Value) (one base : Value)

/-- The base squared again and again. -/
def square : Nat → Value
  | 0 => base
  | bit + 1 => mul (square bit) (square bit)

/-- The product of the squares at the lowest bits of an exponent. -/
def power (exponent : Nat) : Nat → Value
  | 0 => one
  | bits + 1 =>
      if exponent.testBit bits then mul (power exponent bits) (square mul base bits)
      else power exponent bits

variable {mul : Value → Value → Value} {one base : Value} {bits exponent : Nat}

theorem power_succ_of_set (set : exponent.testBit bits = true) :
    power mul one base exponent (bits + 1) =
      mul (power mul one base exponent bits) (square mul base bits) :=
  if_pos set

theorem power_succ_of_unset (unset : exponent.testBit bits = false) :
    power mul one base exponent (bits + 1) = power mul one base exponent bits :=
  if_neg (Bool.eq_false_iff.mp unset)

theorem mod_succ_of_set (set : exponent.testBit bits = true) :
    exponent % 2 ^ (bits + 1) = exponent % 2 ^ bits + 2 ^ bits := by
  rw [Nat.testBit_eq_decide_div_mod_eq, decide_eq_true_iff] at set
  rw [Nat.mod_pow_succ, set, Nat.mul_one]

theorem mod_succ_of_unset (unset : exponent.testBit bits = false) :
    exponent % 2 ^ (bits + 1) = exponent % 2 ^ bits := by
  rw [Nat.testBit_eq_decide_div_mod_eq, decide_eq_false_iff_not,
    Nat.mod_two_not_eq_one] at unset
  rw [Nat.mod_pow_succ, unset, Nat.mul_zero, Nat.add_zero]

theorem power_zero : power mul one base 0 bits = one := by
  induction bits with
  | zero => rfl
  | succ bits ih => rw [power_succ_of_unset (Nat.zero_testBit bits), ih]

namespace RoundsDown

variable [Preorder Value] (rounds : RoundsDown mul one) (below : base ≤ one)

include rounds below

theorem square_le_one : square mul base bits ≤ one := by
  induction bits with
  | zero => exact below
  | succ bits ih => exact (rounds.mul_le_left ih).trans ih

theorem square_succ_le : square mul base (bits + 1) ≤ square mul base bits :=
  rounds.mul_le_left (rounds.square_le_one below)

theorem square_le_base : square mul base bits ≤ base := by
  induction bits with
  | zero => exact le_refl base
  | succ bits ih => exact (rounds.square_succ_le below).trans ih

theorem power_le_one : power mul one base exponent bits ≤ one := by
  induction bits with
  | zero => exact le_refl one
  | succ bits ih =>
      cases bit : exponent.testBit bits with
      | true =>
          rw [power_succ_of_set bit]
          exact (rounds.mul_le_left (rounds.square_le_one below)).trans ih
      | false =>
          rw [power_succ_of_unset bit]
          exact ih

/-- A positive exponent multiplies in a square. -/
theorem power_le_base (positive : exponent % 2 ^ bits ≠ 0) :
    power mul one base exponent bits ≤ base := by
  induction bits with
  | zero => exact absurd (Nat.mod_one exponent) positive
  | succ bits ih =>
      cases bit : exponent.testBit bits with
      | true =>
          rw [power_succ_of_set bit]
          exact (rounds.mul_le_right (rounds.power_le_one below)).trans
            (rounds.square_le_base below)
      | false =>
          rw [mod_succ_of_unset bit] at positive
          rw [power_succ_of_unset bit]
          exact ih positive

/-- A square is no greater than any power from the bits before it. -/
theorem square_le_power :
    square mul base bits ≤ power mul one base exponent bits := by
  induction bits with
  | zero => exact below
  | succ bits ih =>
      cases bit : exponent.testBit bits with
      | true =>
          rw [power_succ_of_set bit]
          exact rounds.mono ih (le_refl _)
      | false =>
          rw [power_succ_of_unset bit]
          exact (rounds.square_succ_le below).trans ih

/-- An exponent with a greater value in its lowest bits has no greater power. -/
theorem power_antitone {small large : Nat}
    (le : small % 2 ^ bits ≤ large % 2 ^ bits) :
    power mul one base large bits ≤ power mul one base small bits := by
  induction bits with
  | zero => exact le_refl one
  | succ bits ih =>
      have smallLt : small % 2 ^ bits < 2 ^ bits := Nat.mod_lt _ (Nat.two_pow_pos bits)
      have largeLt : large % 2 ^ bits < 2 ^ bits := Nat.mod_lt _ (Nat.two_pow_pos bits)
      cases smallBit : small.testBit bits with
      | true =>
          cases largeBit : large.testBit bits with
          | true =>
              rw [mod_succ_of_set smallBit, mod_succ_of_set largeBit] at le
              rw [power_succ_of_set smallBit, power_succ_of_set largeBit]
              exact rounds.mono (ih (by omega)) (le_refl _)
          | false =>
              rw [mod_succ_of_set smallBit, mod_succ_of_unset largeBit] at le
              omega
      | false =>
          rw [mod_succ_of_unset smallBit] at le
          rw [power_succ_of_unset smallBit]
          cases largeBit : large.testBit bits with
          | true =>
              -- The carry: the power of the large exponent is below its new square.
              rw [power_succ_of_set largeBit]
              exact (rounds.mul_le_right (rounds.power_le_one below)).trans
                (rounds.square_le_power below)
          | false =>
              rw [mod_succ_of_unset largeBit] at le
              rw [power_succ_of_unset largeBit]
              exact ih le

end RoundsDown

end RoundedPower
