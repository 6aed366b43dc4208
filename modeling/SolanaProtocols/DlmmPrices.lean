import Mathlib.Data.Int.ConditionallyCompleteOrder
import Mathlib.Order.Interval.Set.OrdConnected
import SolanaProtocols.DlmmQuoteInverse
import SolanaProtocols.RoundedPower

/-!
# The order of bin prices

`pow` inverts a base above one, so that all squares stay below one and no product
overflows.  The power that it forms falls as the distance of a bin from bin zero
grows, and it is inverted again for the bins above zero.  So prices ascend with
the bin, and the bins without a price are those furthest out.
-/

namespace SolanaProtocols

namespace MeteoraDlmm

open RoundedPower

section Products

variable {squaredBase result exponent steps : Nat}

/-- Multiplication in Q64.64 of values whose product fits. -/
def scaled (x y : Nat) : Nat :=
  (x * y) >>> scaleOffset

theorem scaled_eq (x y : Nat) : scaled x y = x * y / one :=
  Nat.shiftRight_eq_div_pow ..

theorem roundsDown_scaled : RoundsDown scaled one where
  mono lower upper := by
    rw [scaled_eq, scaled_eq]
    exact Nat.div_le_div_right (Nat.mul_le_mul lower upper)
  mul_le_left {x y} below := by
    have product : x * y ≤ one * x := by
      rw [Nat.mul_comm x]
      exact Nat.mul_le_mul_right x below
    rw [scaled_eq]
    exact Nat.div_le_of_le_mul product
  mul_le_right {x y} below := by
    rw [scaled_eq]
    exact Nat.div_le_of_le_mul (Nat.mul_le_mul_right y below)

theorem mulScaled_eq_some {x y : Nat} (first : x ≤ one) (second : y < one) :
    mulScaled x y = some (scaled x y) := by
  have fits : x * y < 2 ^ 128 :=
    (Nat.mul_lt_mul_of_le_of_lt first second (by decide)).trans_le (by decide)
  rw [mulScaled, checkedMul, if_pos fits]
  rfl

/-- What `pow` multiplies up before it looks at the result.  `none` is a product
that overflows. -/
def powProducts (squaredBase exponent : Nat) : Option Nat := do
  let result ← (if exponent.testBit 0 then mulScaled one squaredBase else some one)
  let (_, result) ← (List.range' 1 18).foldlM (powStep exponent) (squaredBase, result)
  return result

theorem square_lt_one (below : squaredBase < one) :
    square scaled squaredBase steps < one :=
  (roundsDown_scaled.square_le_base below.le).trans_lt below

theorem powStep_eq_some {bit : Nat} (first : squaredBase < one)
    (second : result ≤ one) :
    powStep exponent (squaredBase, result) bit =
      some (scaled squaredBase squaredBase,
        if exponent.testBit bit then scaled result (scaled squaredBase squaredBase)
        else result) := by
  have squared : scaled squaredBase squaredBase < one :=
    (roundsDown_scaled.mul_le_left first.le).trans_lt first
  rw [powStep, mulScaled_eq_some first.le first]
  simp only [Option.bind_eq_bind, Option.bind_some]
  rw [mulScaled_eq_some second squared]
  cases exponent.testBit bit <;> rfl

/-- The unrolled iterations form the squares and the power. -/
theorem foldlM_powStep_eq_some (below : squaredBase < one) :
    (List.range' 1 steps).foldlM (powStep exponent)
        (squaredBase, power scaled one squaredBase exponent 1) =
      some (square scaled squaredBase steps,
        power scaled one squaredBase exponent (steps + 1)) := by
  induction steps with
  | zero => rfl
  | succ steps ih =>
      rw [List.range'_1_concat, List.foldlM_append, ih]
      simp only [Option.bind_eq_bind, Option.bind_some, List.foldlM_cons,
        List.foldlM_nil]
      rw [powStep_eq_some (square_lt_one below)
        (roundsDown_scaled.power_le_one below.le), Nat.add_comm 1 steps]
      rfl

/-- Below one no product overflows. -/
theorem powProducts_eq_some (below : squaredBase < one) :
    powProducts squaredBase exponent =
      some (power scaled one squaredBase exponent 19) := by
  have first : (if exponent.testBit 0 then mulScaled one squaredBase else some one) =
      some (power scaled one squaredBase exponent 1) := by
    rw [mulScaled_eq_some le_rfl below]
    cases bit : exponent.testBit 0 <;> simp [power, square, bit]
  rw [powProducts, first]
  simp only [Option.bind_eq_bind, Option.bind_some]
  rw [foldlM_powStep_eq_some below]
  rfl

/-- `pow` of a base above one, by its products. -/
theorem pow_eq_of_one_le {base : Nat} {exp : Int} (above : one ≤ base)
    (nonzero : exp ≠ 0) (small : exp.natAbs < maxExponential) :
    pow base exp =
      (powProducts ((2 ^ 128 - 1) / base) exp.natAbs).bind fun result =>
        if result = 0 then none
        else if exp < 0 then some result
        else checkedDiv (2 ^ 128 - 1) result := by
  have inverts : checkedDiv (2 ^ 128 - 1) base = some ((2 ^ 128 - 1) / base) :=
    checkedDiv_eq_some_iff.mpr
      ⟨(Nat.lt_of_lt_of_le (show 0 < one by decide) above).ne', rfl⟩
  rw [pow, if_neg nonzero, if_neg (not_le.mpr small), powProducts]
  simp only [if_pos above, inverts, Option.map_some, Option.bind_eq_bind,
    Option.bind_some, Option.bind_assoc, Option.pure_def]
  congr 1
  funext result
  congr 1
  funext products
  by_cases negative : exp < 0 <;> simp [negative]

end Products

section Prices

variable {binStep : UInt16} {id lower upper : Int}

/-- `1 + binStep / 10000` in Q64.64. -/
def stepBase (binStep : UInt16) : Nat :=
  one + binStep.toNat * one / basisPointMax

/-- The base that `pow` squares. -/
def inverted (binStep : UInt16) : Nat :=
  (2 ^ 128 - 1) / stepBase binStep

/-- The power for a distance from bin zero. -/
def powered (binStep : UInt16) (distance : Nat) : Nat :=
  power scaled one (inverted binStep) distance 19

theorem one_le_stepBase : one ≤ stepBase binStep :=
  Nat.le_add_right ..

theorem inverted_lt_one : inverted binStep < one :=
  (Nat.div_le_div_left one_le_stepBase (by decide)).trans_lt (by decide)

/-- The price is the power of the multiplier. -/
theorem getPriceFromId_eq_ok_iff_pow {price : Nat} :
    getPriceFromId id binStep.toNat = .ok price ↔
      pow (stepBase binStep) id = some price := by
  have step := binStep.toNat_lt
  have shifted : safeShl 128 binStep.toNat scaleOffset = .ok (binStep.toNat * one) := by
    have fits : binStep.toNat * one < 2 ^ 128 :=
      (Nat.mul_lt_mul_of_pos_right step (by decide)).trans (by decide)
    rw [safeShl, okOr_eq_ok_iff, checkedShl, if_pos (by decide),
      Nat.shiftLeft_eq, ← one, Nat.mod_eq_of_lt fits]
  have divided : safeDiv (binStep.toNat * one) basisPointMax =
      .ok (binStep.toNat * one / basisPointMax) := by
    rw [safeDiv, okOr_eq_ok_iff, checkedDiv_eq_some_iff]
    exact ⟨by decide, rfl⟩
  have added : safeAdd 128 one (binStep.toNat * one / basisPointMax) =
      .ok (stepBase binStep) := by
    refine safeAdd_eq_ok_iff.mpr ⟨?_, rfl⟩
    have less : binStep.toNat * one / basisPointMax ≤ 2 ^ 16 * one :=
      (Nat.div_le_self ..).trans (Nat.mul_le_mul_right one step.le)
    exact (Nat.add_le_add_left less one).trans_lt (by decide)
  simp only [getPriceFromId, bind_eq_ok_iff]
  constructor
  · rintro ⟨shift, shiftEq, bps, bpsEq, base, baseEq, powEq⟩
    rw [shifted, Except.ok.injEq] at shiftEq
    subst shiftEq
    rw [divided, Except.ok.injEq] at bpsEq
    subst bpsEq
    rw [added, Except.ok.injEq] at baseEq
    subst baseEq
    exact okOr_eq_ok_iff.mp powEq
  · intro powEq
    exact ⟨_, shifted, _, divided, _, added, okOr_eq_ok_iff.mpr powEq⟩

/-- The ids that a bin may have. -/
def binIds : Set Int := Set.Icc minBinId maxBinId

theorem natAbs_lt (inside : id ∈ binIds) : id.natAbs < 2 ^ 19 := by
  obtain ⟨low, high⟩ := inside
  rw [minBinId] at low
  rw [maxBinId] at high
  omega

theorem powered_antitone {near far : Nat} (le : near ≤ far) (small : far < 2 ^ 19) :
    powered binStep far ≤ powered binStep near := by
  refine roundsDown_scaled.power_antitone inverted_lt_one.le ?_
  rwa [Nat.mod_eq_of_lt small, Nat.mod_eq_of_lt (le.trans_lt small)]

theorem powered_zero : powered binStep 0 = one :=
  power_zero

theorem powered_lt_one {distance : Nat} (positive : 0 < distance)
    (small : distance < 2 ^ 19) : powered binStep distance < one := by
  refine (roundsDown_scaled.power_le_base inverted_lt_one.le ?_).trans_lt
    inverted_lt_one
  rw [Nat.mod_eq_of_lt small]
  exact positive.ne'

theorem powered_le_one {distance : Nat} : powered binStep distance ≤ one :=
  roundsDown_scaled.power_le_one inverted_lt_one.le

/-- The price of a bin that has one. -/
def priceAt (binStep : UInt16) (id : Int) : Nat :=
  if 0 < id then (2 ^ 128 - 1) / powered binStep id.natAbs
  else powered binStep id.natAbs

/-- A bin has its price unless its power vanishes. -/
theorem getPriceFromId_eq_ok_iff {price : Nat} (inside : id ∈ binIds) :
    getPriceFromId id binStep.toNat = .ok price ↔
      powered binStep id.natAbs ≠ 0 ∧ price = priceAt binStep id := by
  rw [getPriceFromId_eq_ok_iff_pow]
  by_cases zero : id = 0
  · subst zero
    rw [pow, if_pos rfl, priceAt, if_neg (lt_irrefl 0), Int.natAbs_zero, powered_zero,
      Option.some.injEq]
    exact ⟨fun same => ⟨by decide, same.symm⟩, fun priced => priced.2.symm⟩
  rw [pow_eq_of_one_le one_le_stepBase zero (natAbs_lt inside), ← inverted,
    powProducts_eq_some inverted_lt_one, Option.bind_some, ← powered]
  by_cases vanishes : powered binStep id.natAbs = 0
  · rw [if_pos vanishes]
    exact iff_of_false (Option.some_ne_none price).symm fun priced =>
      priced.1 vanishes
  rw [if_neg vanishes, and_iff_right vanishes, priceAt]
  by_cases negative : id < 0
  · rw [if_pos negative, if_neg negative.le.not_gt, Option.some.injEq]
    exact eq_comm
  · rw [if_neg negative, if_pos (by omega), checkedDiv_eq_some_iff]
    exact ⟨fun divided => divided.2.symm, fun same => ⟨vanishes, same.symm⟩⟩

/-- The bins that have a price. -/
def pricedIds (binStep : UInt16) : Set Int :=
  {id ∈ binIds | ∃ price, getPriceFromId id binStep.toNat = .ok price}

theorem mem_pricedIds :
    id ∈ pricedIds binStep ↔ id ∈ binIds ∧ powered binStep id.natAbs ≠ 0 := by
  refine and_congr_right fun inside => ?_
  simp only [getPriceFromId_eq_ok_iff inside, exists_and_left, exists_eq, and_true]

theorem ordConnected_pricedIds : (pricedIds binStep).OrdConnected := by
  refine ⟨fun first firstPriced last lastPriced id between => ?_⟩
  obtain ⟨firstIn, firstNe⟩ := mem_pricedIds.mp firstPriced
  obtain ⟨lastIn, lastNe⟩ := mem_pricedIds.mp lastPriced
  refine mem_pricedIds.mpr
    ⟨⟨firstIn.1.trans between.1, between.2.trans lastIn.2⟩, fun vanishes => ?_⟩
  have further {end' : Int} (endIn : end' ∈ binIds)
      (le : id.natAbs ≤ end'.natAbs) : powered binStep end'.natAbs = 0 :=
    Nat.le_zero.mp (vanishes ▸ powered_antitone le (natAbs_lt endIn))
  obtain ⟨above, below⟩ := between
  rcases le_total 0 id with nonneg | nonpos
  · exact lastNe (further lastIn (by omega))
  · exact firstNe (further firstIn (by omega))

/-- Prices ascend with the bin. -/
theorem priceAt_mono (le : lower ≤ upper) (lowerIn : lower ∈ pricedIds binStep)
    (upperIn : upper ∈ pricedIds binStep) :
    priceAt binStep lower ≤ priceAt binStep upper := by
  obtain ⟨lowerBin, lowerNe⟩ := mem_pricedIds.mp lowerIn
  obtain ⟨upperBin, upperNe⟩ := mem_pricedIds.mp upperIn
  have lowerSmall := natAbs_lt lowerBin
  have upperSmall := natAbs_lt upperBin
  rw [priceAt, priceAt]
  by_cases lowerPos : 0 < lower
  · rw [if_pos lowerPos, if_pos (lowerPos.trans_le le)]
    exact Nat.div_le_div_left (powered_antitone (by omega) upperSmall)
      (Nat.pos_of_ne_zero upperNe)
  rw [if_neg lowerPos]
  by_cases upperPos : 0 < upper
  · rw [if_pos upperPos]
    have small : powered binStep upper.natAbs < one :=
      powered_lt_one (by omega) upperSmall
    calc powered binStep lower.natAbs ≤ one := powered_le_one
      _ = (2 ^ 128 - 1) / (one - 1) - 1 := by decide
      _ ≤ (2 ^ 128 - 1) / (one - 1) := Nat.sub_le ..
      _ ≤ (2 ^ 128 - 1) / powered binStep upper.natAbs :=
        Nat.div_le_div_left (Nat.le_pred_of_lt small) (Nat.pos_of_ne_zero upperNe)
  · rw [if_neg upperPos]
    exact powered_antitone (by omega) lowerSmall

/-- The bins with a price lie in a row around bin zero and their prices are
positive and ascend.  `pow` forms its products without an overflow, so it has no
result only where the power vanishes. -/
structure PricesOrdered (binStep : UInt16) : Prop where
  interval : (pricedIds binStep).OrdConnected
  zero_mem : 0 ∈ pricedIds binStep
  positive : ∀ id ∈ pricedIds binStep, ∀ price,
    getPriceFromId id binStep.toNat = .ok price → 0 < price
  ascends : ∀ lower ∈ pricedIds binStep, ∀ upper ∈ pricedIds binStep, lower ≤ upper →
    ∀ price price', getPriceFromId lower binStep.toNat = .ok price →
      getPriceFromId upper binStep.toNat = .ok price' → price ≤ price'
  products : ∀ id ∈ binIds, id ≠ 0 → ∃ result,
    powProducts ((2 ^ 128 - 1) / stepBase binStep) id.natAbs = some result ∧
      pow (stepBase binStep) id =
        if result = 0 then none
        else if id < 0 then some result
        else checkedDiv (2 ^ 128 - 1) result

theorem getPriceFromId_ordered (binStep : UInt16) : PricesOrdered binStep where
  interval := ordConnected_pricedIds
  zero_mem := by
    refine mem_pricedIds.mpr ⟨⟨by decide, by decide⟩, ?_⟩
    rw [Int.natAbs_zero, powered_zero]
    decide
  positive id _ price priced := pow_pos (getPriceFromId_eq_ok_iff_pow.mp priced)
  ascends lower lowerIn upper upperIn le price price' lowerEq upperEq := by
    obtain ⟨-, rfl⟩ := (getPriceFromId_eq_ok_iff lowerIn.1).mp lowerEq
    obtain ⟨-, rfl⟩ := (getPriceFromId_eq_ok_iff upperIn.1).mp upperEq
    exact priceAt_mono le lowerIn upperIn
  products id inside nonzero := by
    refine ⟨_, powProducts_eq_some inverted_lt_one, ?_⟩
    rw [pow_eq_of_one_le one_le_stepBase nonzero (natAbs_lt inside), ← inverted,
      powProducts_eq_some inverted_lt_one, Option.bind_some]

end Prices

end MeteoraDlmm

end SolanaProtocols
