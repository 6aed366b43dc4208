import Mathlib.Algebra.Order.Ring.Int

/-!
# Checked machine arithmetic

Machine integers are natural numbers and integers, and an operation that can
overflow says at which width it is checked.  The operations return options, as
the `checked_` operations of the standard library do, and `okOr` turns a
missing value into an error.
-/

namespace SolanaProtocols

/-- The value of an option, or an error when there is none. -/
def okOr {Value : Type*} (option : Option Value) (message : String) :
    Except String Value :=
  match option with
  | some value => .ok value
  | none => .error message

@[simp]
theorem okOr_eq_ok_iff {Value : Type*} {option : Option Value}
    {message : String} {value : Value} :
    okOr option message = .ok value ↔ option = some value := by
  cases option <;> simp [okOr]

/-- A computation that may fail succeeds exactly when its first part does and
the rest succeeds on the value. -/
theorem bind_eq_ok_iff {Error Value Result : Type}
    {first : Except Error Value} {rest : Value → Except Error Result}
    {result : Result} :
    (first >>= rest) = .ok result ↔
      ∃ value, first = .ok value ∧ rest value = .ok result := by
  cases first with
  | error error => simp [bind, Except.bind]
  | ok value => simp [bind, Except.bind]

section Unsigned

variable {width x y z : Nat}

def checkedAdd (width x y : Nat) : Option Nat :=
  if x + y < 2 ^ width then some (x + y) else none

def checkedSub (x y : Nat) : Option Nat :=
  if y ≤ x then some (x - y) else none

def checkedMul (width x y : Nat) : Option Nat :=
  if x * y < 2 ^ width then some (x * y) else none

def checkedDiv (x y : Nat) : Option Nat :=
  if y = 0 then none else some (x / y)

def checkedPow (width x exponent : Nat) : Option Nat :=
  if x ^ exponent < 2 ^ width then some (x ^ exponent) else none

/-- Only the shift amount is checked: bits pushed past the top are lost. -/
def checkedShl (width x shift : Nat) : Option Nat :=
  if shift < width then some ((x <<< shift) % 2 ^ width) else none

/-- The value in a narrower type, if it fits. -/
def tryFrom (width x : Nat) : Option Nat :=
  if x < 2 ^ width then some x else none

@[simp]
theorem checkedAdd_eq_some_iff :
    checkedAdd width x y = some z ↔ x + y < 2 ^ width ∧ x + y = z := by
  simp [checkedAdd]

@[simp]
theorem checkedSub_eq_some_iff :
    checkedSub x y = some z ↔ y ≤ x ∧ x - y = z := by
  simp [checkedSub]

@[simp]
theorem checkedMul_eq_some_iff :
    checkedMul width x y = some z ↔ x * y < 2 ^ width ∧ x * y = z := by
  simp [checkedMul]

@[simp]
theorem checkedDiv_eq_some_iff :
    checkedDiv x y = some z ↔ y ≠ 0 ∧ x / y = z := by
  simp [checkedDiv]

@[simp]
theorem tryFrom_eq_some_iff :
    tryFrom width x = some z ↔ x < 2 ^ width ∧ x = z := by
  simp [tryFrom]

end Unsigned

section Signed

/-- The value in a signed type of the given width, if it fits. -/
def checkedSigned (width : Nat) (x : Int) : Option Int :=
  if -2 ^ (width - 1) ≤ x ∧ x < 2 ^ (width - 1) then some x else none

@[simp]
theorem checkedSigned_eq_some_iff {width : Nat} {x z : Int} :
    checkedSigned width x = some z ↔
      (-2 ^ (width - 1) ≤ x ∧ x < 2 ^ (width - 1)) ∧ x = z := by
  simp [checkedSigned]

/-- `as usize` on a signed integer: negative values wrap around. -/
def asUsize (x : Int) : Nat :=
  (x % 2 ^ 64).toNat

/-- `as i64` on an unsigned integer: values from `2 ^ 63` wrap around. -/
def asI64 (x : Nat) : Int :=
  (x : Int).bmod (2 ^ 64)

theorem asUsize_of_nonneg {x : Int} (nonneg : 0 ≤ x) (bounded : x < 2 ^ 64) :
    asUsize x = x.toNat := by
  rw [asUsize, Int.emod_eq_of_lt nonneg bounded]

end Signed

end SolanaProtocols
