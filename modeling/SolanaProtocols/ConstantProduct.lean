import Mathlib.Algebra.Order.Floor.Div
import Mathlib.Logic.Relation
import Mathlib.Tactic.Linarith

/-!
# Constant product curves with integer rounding

Two reserves are traded against each other so that their product is kept.  What
an input buys is rounded down and what an output costs is rounded up, so every
trade leaves the product at least as large as it was; over any sequence of
trades the reserves stay positive, and no reserve can be lowered without the
other one having grown.
-/

namespace SolanaProtocols

namespace ConstantProduct

/-- What an input buys. -/
def output (reserveIn reserveOut amount : Nat) : Nat :=
  reserveOut * amount / (reserveIn + amount)

/-- What an output costs. -/
def input (reserveIn reserveOut amount : Nat) : Nat :=
  (reserveIn * amount) ⌈/⌉ (reserveOut - amount)

section Prices

variable {reserveIn reserveOut amount paid : Nat}

@[simp]
theorem output_zero : output reserveIn reserveOut 0 = 0 := by
  simp [output]

theorem output_mul_le :
    output reserveIn reserveOut amount * (reserveIn + amount) ≤
      reserveOut * amount :=
  Nat.div_mul_le_self _ _

theorem output_le : output reserveIn reserveOut amount ≤ reserveOut := by
  apply Nat.div_le_of_le_mul
  calc
    reserveOut * amount ≤ reserveOut * (reserveIn + amount) :=
      Nat.mul_le_mul_left reserveOut (Nat.le_add_left _ _)
    _ = (reserveIn + amount) * reserveOut := Nat.mul_comm _ _

theorem output_lt (inPos : 0 < reserveIn) (outPos : 0 < reserveOut) :
    output reserveIn reserveOut amount < reserveOut := by
  apply Nat.div_lt_of_lt_mul
  calc
    reserveOut * amount < reserveOut * (reserveIn + amount) :=
      Nat.mul_lt_mul_of_pos_left (by omega) outPos
    _ = (reserveIn + amount) * reserveOut := Nat.mul_comm _ _

/-- A larger input buys no less. -/
theorem output_mono {smaller : Nat} (le : smaller ≤ amount) :
    output reserveIn reserveOut smaller ≤ output reserveIn reserveOut amount := by
  obtain ⟨more, rfl⟩ := Nat.exists_eq_add_of_le le
  rcases Nat.eq_zero_or_pos (reserveIn + (smaller + more)) with empty | positive
  · have unfunded : reserveIn + smaller = 0 := by omega
    simp [output, unfunded]
  · apply (Nat.le_div_iff_mul_le positive).mpr
    have bought : output reserveIn reserveOut smaller * (reserveIn + smaller) ≤
        reserveOut * smaller := output_mul_le
    have bounded : output reserveIn reserveOut smaller ≤ reserveOut := output_le
    calc
      output reserveIn reserveOut smaller * (reserveIn + (smaller + more)) =
          output reserveIn reserveOut smaller * (reserveIn + smaller) +
            output reserveIn reserveOut smaller * more := by
        rw [← Nat.add_assoc, Nat.mul_add]
      _ ≤ reserveOut * smaller + reserveOut * more :=
        Nat.add_le_add bought (Nat.mul_le_mul_right more bounded)
      _ = reserveOut * (smaller + more) := (Nat.mul_add _ _ _).symm

theorem le_output_iff (inPos : 0 < reserveIn) (lt : paid < reserveOut) :
    paid ≤ output reserveIn reserveOut amount ↔
      input reserveIn reserveOut paid ≤ amount := by
  obtain ⟨rest, rfl⟩ : ∃ rest, reserveOut = paid + rest :=
    ⟨reserveOut - paid, by omega⟩
  have restPos : 0 < rest := by omega
  rw [output, input, Nat.le_div_iff_mul_le (by omega), Nat.add_sub_cancel_left,
    ceilDiv_le_iff_le_mul restPos, Nat.mul_add, Nat.add_mul, Nat.mul_comm paid
    reserveIn]
  omega

theorem isLeast_input (lt : paid < reserveOut) :
    IsLeast {amount | reserveIn * paid ≤ (reserveOut - paid) * amount}
      (input reserveIn reserveOut paid) := by
  have restPos : 0 < reserveOut - paid := by omega
  constructor
  · exact (ceilDiv_le_iff_le_mul restPos).mp le_rfl
  · intro amount enough
    exact (ceilDiv_le_iff_le_mul restPos).mpr enough

theorem isGreatest_output (pos : 0 < reserveIn + amount) :
    IsGreatest {paid | paid * (reserveIn + amount) ≤ reserveOut * amount}
      (output reserveIn reserveOut amount) := by
  constructor
  · exact Nat.div_mul_le_self _ _
  · intro paid enough
    exact (Nat.le_div_iff_mul_le pos).mpr enough

theorem input_pos (inPos : 0 < reserveIn) (paidPos : 0 < paid)
    (lt : paid < reserveOut) : 0 < input reserveIn reserveOut paid := by
  by_contra free
  have bought : paid ≤ output reserveIn reserveOut 0 :=
    (le_output_iff inPos lt).mpr (Nat.not_lt.mp free)
  rw [output_zero] at bought
  omega

theorem product_le (le : paid ≤ output reserveIn reserveOut amount) :
    reserveIn * reserveOut ≤ (reserveIn + amount) * (reserveOut - paid) := by
  obtain ⟨rest, rfl⟩ : ∃ rest, reserveOut = paid + rest :=
    ⟨reserveOut - paid, by have := le.trans output_le; omega⟩
  have bounded : paid * (reserveIn + amount) ≤ (paid + rest) * amount :=
    (Nat.mul_le_mul_right _ le).trans output_mul_le
  rw [Nat.add_sub_cancel_left]
  nlinarith

/-- Selling back what an input bought returns at most the input. -/
theorem round_trip_le {back : Nat} (outPos : 0 < reserveOut)
    (bought : paid ≤ output reserveIn reserveOut amount)
    (sold : back ≤ output (reserveOut - paid) (reserveIn + amount) paid) :
    back ≤ amount := by
  have paidLe : paid ≤ reserveOut := bought.trans output_le
  have backLe : back ≤ reserveIn + amount := sold.trans output_le
  have kept : reserveOut * reserveIn ≤
      reserveOut * (reserveIn + amount - back) := by
    calc
      reserveOut * reserveIn = reserveIn * reserveOut := Nat.mul_comm _ _
      _ ≤ (reserveIn + amount) * (reserveOut - paid) := product_le bought
      _ = (reserveOut - paid) * (reserveIn + amount) := Nat.mul_comm _ _
      _ ≤ (reserveOut - paid + paid) * (reserveIn + amount - back) :=
        product_le sold
      _ = reserveOut * (reserveIn + amount - back) := by
        rw [Nat.sub_add_cancel paidLe]
  have grown := Nat.le_of_mul_le_mul_left kept outPos
  omega

end Prices

/-- The two reserves of a pool. -/
structure Reserves where
  base : Nat
  quote : Nat
deriving DecidableEq, Repr

namespace Reserves

def product (reserves : Reserves) : Nat :=
  reserves.base * reserves.quote

/-- Both reserves are funded. -/
structure Funded (reserves : Reserves) : Prop where
  base : 0 < reserves.base
  quote : 0 < reserves.quote

/-- One side is filled and the other one pays at most what that buys. -/
inductive Trade : Reserves → Reserves → Prop
  | buy {base quote : Nat} (amount paid : Nat)
      (covered : paid ≤ output quote base amount) :
      Trade ⟨base, quote⟩ ⟨base - paid, quote + amount⟩
  | sell {base quote : Nat} (amount paid : Nat)
      (covered : paid ≤ output base quote amount) :
      Trade ⟨base, quote⟩ ⟨base + amount, quote - paid⟩

section Runs

variable {first last : Reserves}

/-- A funded pool stays funded over a trade, at no smaller product. -/
theorem Trade.keeps (trade : Trade first last) (funded : first.Funded) :
    last.Funded ∧ first.product ≤ last.product := by
  cases trade with
  | @buy base quote amount paid covered =>
    have lt : paid < base :=
      covered.trans_lt (output_lt funded.quote funded.base)
    refine ⟨⟨?_, ?_⟩, ?_⟩
    · exact Nat.sub_pos_of_lt lt
    · exact Nat.add_pos_left funded.quote amount
    · have kept := product_le covered
      rw [product, product, Nat.mul_comm base, Nat.mul_comm (base - paid)]
      exact kept
  | @sell base quote amount paid covered =>
    have lt : paid < quote :=
      covered.trans_lt (output_lt funded.base funded.quote)
    refine ⟨⟨?_, ?_⟩, ?_⟩
    · exact Nat.add_pos_left funded.base amount
    · exact Nat.sub_pos_of_lt lt
    · exact product_le covered

theorem keeps_of_trades (trades : Relation.ReflTransGen Trade first last)
    (funded : first.Funded) :
    last.Funded ∧ first.product ≤ last.product := by
  induction trades with
  | refl => exact ⟨funded, le_rfl⟩
  | tail _ trade ih =>
    obtain ⟨stillFunded, grown⟩ := ih
    obtain ⟨lastFunded, more⟩ := trade.keeps stillFunded
    exact ⟨lastFunded, grown.trans more⟩

/-- A pool that ends up with no more base has no less quote than before. -/
theorem quote_le_of_base_le (trades : Relation.ReflTransGen Trade first last)
    (funded : first.Funded) (base : last.base ≤ first.base) :
    first.quote ≤ last.quote := by
  obtain ⟨-, grown⟩ := keeps_of_trades trades funded
  by_contra less
  have shrunk : last.product < first.product := by
    calc
      last.base * last.quote ≤ first.base * last.quote :=
        Nat.mul_le_mul_right _ base
      _ < first.base * first.quote :=
        Nat.mul_lt_mul_of_pos_left (Nat.not_le.mp less) funded.base
  omega

end Runs

end Reserves

end ConstantProduct

end SolanaProtocols
