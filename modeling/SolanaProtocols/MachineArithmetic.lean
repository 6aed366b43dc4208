import SolanaProtocols.CheckedArithmetic
import Mathlib.Algebra.Order.Floor.Div

/-!
# Plain machine arithmetic

Plain operators and casts do not say what becomes of a result that does not fit
in its type: a debug build stops at an overflowing operator, a release build
wraps it around, and a cast keeps the low bits in both.  A computation over
machine integers takes the build as an argument.  The exact build, which also
stops at a cast that loses bits, computes what the formulas say or nothing.
-/

namespace SolanaProtocols

namespace MachineArithmetic

/-- What becomes of a result that does not fit in its type. -/
inductive Overflow
  | panics
  | wraps
deriving DecidableEq, Repr

/-- What a build does with operators and with casts that overflow. -/
structure Build where
  operators : Overflow
  casts : Overflow
deriving DecidableEq, Repr

def Build.debug : Build := ⟨.panics, .wraps⟩

def Build.release : Build := ⟨.wraps, .wraps⟩

def Build.exact : Build := ⟨.panics, .panics⟩

/-- A result in an unsigned type of the given width, or none on a panic. -/
def Overflow.settle (overflow : Overflow) (width : Nat) (result : Int) :
    Option Nat :=
  if 0 ≤ result ∧ result < 2 ^ width then some result.toNat
  else match overflow with
    | .panics => none
    | .wraps => some (result % 2 ^ width).toNat

namespace Build

def add (build : Build) (width x y : Nat) : Option Nat :=
  build.operators.settle width (x + y)

def sub (build : Build) (width x y : Nat) : Option Nat :=
  build.operators.settle width (x - y)

def mul (build : Build) (width x y : Nat) : Option Nat :=
  build.operators.settle width (x * y)

/-- `as` to a narrower type. -/
def cast (build : Build) (width x : Nat) : Option Nat :=
  build.casts.settle width x

end Build

/-- Rounded up; dividing by zero panics in every build. -/
def divCeil (x y : Nat) : Option Nat :=
  if y = 0 then none else some (x ⌈/⌉ y)

section Operations

variable {build : Build} {width x y : Nat}

theorem settle_of_fits {overflow : Overflow} (fits : x < 2 ^ width) :
    overflow.settle width x = some x := by
  have inRange : 0 ≤ (x : Int) ∧ (x : Int) < 2 ^ width :=
    ⟨Int.natCast_nonneg x, by exact_mod_cast fits⟩
  unfold Overflow.settle
  rw [if_pos inRange, Int.toNat_natCast]

theorem settle_wraps_isSome (result : Int) :
    (Overflow.wraps.settle width result).isSome := by
  unfold Overflow.settle
  split
  · rfl
  · rfl

theorem add_eq (fits : x + y < 2 ^ width) :
    build.add width x y = some (x + y) := by
  rw [Build.add, ← Nat.cast_add]
  exact settle_of_fits fits

theorem sub_eq (le : y ≤ x) (fits : x < 2 ^ width) :
    build.sub width x y = some (x - y) := by
  rw [Build.sub, ← Nat.cast_sub le]
  exact settle_of_fits ((Nat.sub_le x y).trans_lt fits)

theorem mul_eq (fits : x * y < 2 ^ width) :
    build.mul width x y = some (x * y) := by
  rw [Build.mul, ← Nat.cast_mul]
  exact settle_of_fits fits

theorem cast_eq (fits : x < 2 ^ width) : build.cast width x = some x :=
  settle_of_fits fits

/-- A result that wraps around is the remainder. -/
theorem settle_wraps (x : Nat) :
    Overflow.wraps.settle width x = some (x % 2 ^ width) := by
  unfold Overflow.settle
  split
  next inRange =>
    have fits : x < 2 ^ width := by exact_mod_cast inRange.2
    rw [Int.toNat_natCast, Nat.mod_eq_of_lt fits]
  next => rfl

theorem cast_wraps (casts : build.casts = .wraps) :
    build.cast width x = some (x % 2 ^ width) := by
  rw [Build.cast, casts, settle_wraps]

theorem mul_wraps (operators : build.operators = .wraps) :
    build.mul width x y = some (x * y % 2 ^ width) := by
  rw [Build.mul, operators, ← Nat.cast_mul, settle_wraps]

theorem add_wraps (operators : build.operators = .wraps) :
    build.add width x y = some ((x + y) % 2 ^ width) := by
  rw [Build.add, operators, ← Nat.cast_add, settle_wraps]

theorem add_lt_of_panics (stops : build.operators = .panics) {sum : Nat}
    (added : build.add width x y = some sum) : x + y < 2 ^ width := by
  rw [Build.add, stops, Overflow.settle] at added
  split at added
  next inRange => exact_mod_cast inRange.2
  next => cases added

/-- In every build a sum is the remainder of the sum of the integers. -/
theorem add_mod {sum : Nat} (added : build.add width x y = some sum) :
    sum = (x + y) % 2 ^ width := by
  cases operators : build.operators with
  | wraps =>
      rw [add_wraps operators] at added
      exact (Option.some.inj added).symm
  | panics =>
      have fits := add_lt_of_panics operators added
      rw [add_eq fits] at added
      rw [← Option.some.inj added, Nat.mod_eq_of_lt fits]

/-- A sum that does not fit is where a build stops that stops at overflows. -/
theorem add_eq_none_iff :
    build.add width x y = none ↔ build.operators = .panics ∧ 2 ^ width ≤ x + y := by
  by_cases fits : x + y < 2 ^ width
  · rw [add_eq fits]
    exact iff_of_false (Option.some_ne_none _) fun stops => absurd stops.2 (not_le.mpr fits)
  · cases operators : build.operators with
    | wraps =>
        rw [add_wraps operators]
        exact iff_of_false (Option.some_ne_none _) fun stops => by cases stops.1
    | panics =>
        refine iff_of_true ?_ ⟨rfl, not_lt.mp fits⟩
        cases added : build.add width x y with
        | none => rfl
        | some sum => exact absurd (add_lt_of_panics operators added) fits

/-- An operator that stops at overflows stops at a negative difference. -/
theorem sub_eq_none (stops : build.operators = .panics) (lt : x < y) :
    build.sub width x y = none := by
  have outside : ¬(0 ≤ (x : Int) - y ∧ (x : Int) - y < 2 ^ width) := by
    rintro ⟨nonneg, -⟩
    omega
  unfold Build.sub Overflow.settle
  rw [if_neg outside, stops]

theorem divCeil_eq (positive : 0 < y) : divCeil x y = some (x ⌈/⌉ y) :=
  if_neg positive.ne'

theorem bind_of_eq_some {Value Result : Type} {first : Option Value}
    {value : Value} {rest : Value → Option Result} (known : first = some value) :
    (first >>= rest) = rest value := by
  rw [known]
  rfl

end Operations

end MachineArithmetic

end SolanaProtocols
