import Mathlib.Data.Nat.Bitwise

/-!
# Scanning fixed-width bit sets

A fixed-width unsigned integer, given by its 64-bit limbs, is used as a set of
bit positions.  Searching the set downwards from a position shifts the
position to the top bit and counts leading zeros; searching upwards shifts the
position to bit zero and counts trailing zeros.  This file proves that the two
idioms find the nearest set bit and that a zero result means there is none.
-/

namespace SolanaProtocols

namespace BitScan

/-- The number stored in 64-bit limbs, least significant limb first. -/
def fromLimbs : List UInt64 → Nat
  | [] => 0
  | limb :: limbs => limb.toNat + 2 ^ 64 * fromLimbs limbs

/-- Left shift in an integer of `width` bits: bits pushed past the top are
lost. -/
def shiftLeft (width bits shift : Nat) : Nat :=
  (bits <<< shift) % 2 ^ width

/-- Zero bits above the highest set bit; `width` for zero. -/
def leadingZeros (width bits : Nat) : Nat :=
  ((List.range width).find? fun zeros =>
    bits.testBit (width - 1 - zeros)).getD width

/-- Zero bits below the lowest set bit; `width` for zero. -/
def trailingZeros (width bits : Nat) : Nat :=
  ((List.range width).find? fun zeros => bits.testBit zeros).getD width

theorem fromLimbs_lt (limbs : List UInt64) :
    fromLimbs limbs < 2 ^ (64 * limbs.length) := by
  induction limbs with
  | nil => simp [fromLimbs]
  | cons limb limbs ih =>
      have limbBound := limb.toNat_lt
      have split : 2 ^ (64 * (limb :: limbs).length) =
          2 ^ 64 * 2 ^ (64 * limbs.length) := by
        rw [List.length_cons, Nat.mul_succ, Nat.add_comm, Nat.pow_add]
      simp only [fromLimbs]
      rw [split]
      omega

private theorem find?_range_eq_some_iff {test : Nat → Bool}
    {width found : Nat} :
    (List.range width).find? test = some found ↔
      found < width ∧ test found = true ∧
        ∀ earlier < found, test earlier = false := by
  rw [List.find?_range_eq_some]
  simp [and_left_comm]

section Window

variable {width bits offset position : Nat}

theorem testBit_shiftLeft :
    (shiftLeft width bits offset).testBit position =
      (decide (position < width) &&
        (decide (offset ≤ position) && bits.testBit (position - offset))) := by
  simp [shiftLeft, Nat.testBit_mod_two_pow, Nat.testBit_shiftLeft]

/-- Shifting a position to the top bit leaves zero exactly when no bit at or
below the position is set. -/
theorem shiftLeft_window_eq_zero_iff (inside : offset < width) :
    shiftLeft width bits (width - 1 - offset) = 0 ↔
      ∀ lower ≤ offset, bits.testBit lower = false := by
  constructor
  · intro zero lower lowerLe
    have topBit : (shiftLeft width bits (width - 1 - offset)).testBit
        (lower + (width - 1 - offset)) = false := by
      simp [zero]
    rw [testBit_shiftLeft] at topBit
    simpa [show lower + (width - 1 - offset) < width by omega] using topBit
  · intro noneSet
    apply Nat.eq_of_testBit_eq
    intro position
    rw [testBit_shiftLeft, Nat.zero_testBit]
    by_cases inRange : position < width ∧ width - 1 - offset ≤ position
    · rw [noneSet (position - (width - 1 - offset)) (by omega)]
      simp
    · rcases not_and_or.mp inRange with outside | below
      · simp [outside]
      · simp [below]

/-- Counting leading zeros after the shift finds the highest set bit at or
below the position. -/
theorem leadingZeros_window (inside : offset < width)
    (nonzero : shiftLeft width bits (width - 1 - offset) ≠ 0) :
    let zeros := leadingZeros width
      (shiftLeft width bits (width - 1 - offset))
    zeros ≤ offset ∧ bits.testBit (offset - zeros) = true ∧
      ∀ between, offset - zeros < between → between ≤ offset →
        bits.testBit between = false := by
  have bitAt : ∀ zeros, zeros < width →
      (shiftLeft width bits (width - 1 - offset)).testBit
          (width - 1 - zeros) =
        (decide (zeros ≤ offset) && bits.testBit (offset - zeros)) := by
    intro zeros zerosLt
    rw [testBit_shiftLeft]
    by_cases zerosLe : zeros ≤ offset
    · rw [show width - 1 - zeros - (width - 1 - offset) = offset - zeros by
        omega]
      simp [zerosLe, show width - 1 - zeros < width by omega,
        show width - 1 - offset ≤ width - 1 - zeros by omega]
    · simp [zerosLe, show ¬ width - 1 - offset ≤ width - 1 - zeros by omega]
  cases found : (List.range width).find? fun zeros =>
      (shiftLeft width bits (width - 1 - offset)).testBit
        (width - 1 - zeros) with
  | none =>
      exfalso
      apply nonzero
      rw [shiftLeft_window_eq_zero_iff inside]
      intro lower lowerLe
      have unset := List.find?_eq_none.mp found (offset - lower)
        (List.mem_range.mpr (by omega))
      rw [bitAt _ (by omega)] at unset
      simpa [show offset - (offset - lower) = lower by omega] using unset
  | some zeros =>
      obtain ⟨zerosLt, bitSet, earlier⟩ := find?_range_eq_some_iff.mp found
      rw [bitAt _ zerosLt] at bitSet
      simp only [Bool.and_eq_true, decide_eq_true_eq] at bitSet
      simp only [leadingZeros, found, Option.getD_some]
      refine ⟨bitSet.1, bitSet.2, fun between above below => ?_⟩
      have unset := earlier (offset - between) (by omega)
      rw [bitAt _ (by omega)] at unset
      simpa [show offset - (offset - between) = between by omega] using unset

/-- Shifting a position to bit zero leaves zero exactly when no bit at or
above the position is set. -/
theorem shiftRight_eq_zero_iff :
    bits >>> offset = 0 ↔ ∀ higher, offset ≤ higher →
      bits.testBit higher = false := by
  constructor
  · intro zero higher higherLe
    have lowBit : (bits >>> offset).testBit (higher - offset) = false := by
      simp [zero]
    rw [Nat.testBit_shiftRight] at lowBit
    simpa [show offset + (higher - offset) = higher by omega] using lowBit
  · intro noneSet
    apply Nat.eq_of_testBit_eq
    intro position
    rw [Nat.testBit_shiftRight, Nat.zero_testBit]
    exact noneSet _ (by omega)

/-- Counting trailing zeros after the shift finds the lowest set bit at or
above the position. -/
theorem trailingZeros_window (bounded : bits < 2 ^ width)
    (nonzero : bits >>> offset ≠ 0) :
    let zeros := trailingZeros width (bits >>> offset)
    bits.testBit (offset + zeros) = true ∧ offset + zeros < width ∧
      ∀ between, offset ≤ between → between < offset + zeros →
        bits.testBit between = false := by
  have outside : ∀ position, width ≤ position →
      bits.testBit position = false := by
    intro position widthLe
    exact Nat.testBit_lt_two_pow
      (lt_of_lt_of_le bounded (Nat.pow_le_pow_right (by omega) widthLe))
  cases found : (List.range width).find? fun zeros =>
      (bits >>> offset).testBit zeros with
  | none =>
      exfalso
      apply nonzero
      rw [shiftRight_eq_zero_iff]
      intro higher higherLe
      by_cases inside : higher < width
      · have unset := List.find?_eq_none.mp found (higher - offset)
          (List.mem_range.mpr (by omega))
        rw [Nat.testBit_shiftRight] at unset
        simpa [show offset + (higher - offset) = higher by omega] using unset
      · exact outside higher (by omega)
  | some zeros =>
      obtain ⟨-, bitSet, earlier⟩ := find?_range_eq_some_iff.mp found
      rw [Nat.testBit_shiftRight] at bitSet
      simp only [trailingZeros, found, Option.getD_some]
      refine ⟨bitSet, ?_, fun between above below => ?_⟩
      · by_contra beyond
        simp [outside _ (by omega : width ≤ offset + zeros)] at bitSet
      · have unset := earlier (between - offset) (by omega)
        rw [Nat.testBit_shiftRight] at unset
        simpa [show offset + (between - offset) = between by omega] using unset

end Window

section Nearest

variable {bit : Nat → Bool} {low middle high : Nat} {found : Option Nat}

/-- The highest set position of an interval, or that there is none. -/
def HighestIn (bit : Nat → Bool) (low high : Nat) : Option Nat → Prop
  | none => ∀ position, low ≤ position → position < high →
      bit position = false
  | some found => (low ≤ found ∧ found < high) ∧ bit found = true ∧
      ∀ position, found < position → position < high → bit position = false

/-- The lowest set position of an interval, or that there is none. -/
def LowestIn (bit : Nat → Bool) (low high : Nat) : Option Nat → Prop
  | none => ∀ position, low ≤ position → position < high →
      bit position = false
  | some found => (low ≤ found ∧ found < high) ∧ bit found = true ∧
      ∀ position, low ≤ position → position < found → bit position = false

theorem HighestIn.extend (upper : HighestIn bit middle high none)
    (lower : HighestIn bit low middle found) (ordered : middle ≤ high) :
    HighestIn bit low high found := by
  cases found with
  | none =>
      intro position lowLe below
      by_cases inLower : position < middle
      · exact lower position lowLe inLower
      · exact upper position (by omega) below
  | some found =>
      obtain ⟨⟨lowLe, below⟩, isSet, unset⟩ := lower
      refine ⟨⟨lowLe, by omega⟩, isSet, fun position above below' => ?_⟩
      by_cases inLower : position < middle
      · exact unset position above inLower
      · exact upper position (by omega) below'

theorem HighestIn.widen {position : Nat}
    (upper : HighestIn bit middle high (some position))
    (ordered : low ≤ middle) : HighestIn bit low high (some position) :=
  ⟨⟨by have := upper.1; omega, upper.1.2⟩, upper.2⟩

theorem LowestIn.extend (lower : LowestIn bit low middle none)
    (upper : LowestIn bit middle high found) (ordered : low ≤ middle) :
    LowestIn bit low high found := by
  cases found with
  | none =>
      intro position lowLe below
      by_cases inLower : position < middle
      · exact lower position lowLe inLower
      · exact upper position (by omega) below
  | some found =>
      obtain ⟨⟨middleLe, below⟩, isSet, unset⟩ := upper
      refine ⟨⟨by omega, below⟩, isSet, fun position lowLe below' => ?_⟩
      by_cases inLower : position < middle
      · exact lower position lowLe inLower
      · exact unset position (by omega) below'

theorem LowestIn.widen {position : Nat}
    (lower : LowestIn bit low middle (some position))
    (ordered : middle ≤ high) : LowestIn bit low high (some position) :=
  ⟨⟨lower.1.1, by have := lower.1; omega⟩, lower.2⟩

/-- A search in a translated bit set. -/
theorem HighestIn.shift (highest : HighestIn bit low high found)
    (other : Nat → Bool) (base : Nat)
    (same : ∀ position, low ≤ position → position < high →
      other (base + position) = bit position) :
    HighestIn other (base + low) (base + high) (found.map (base + ·)) := by
  have shifted : ∀ position, base + low ≤ position → position < base + high →
      other position = bit (position - base) := by
    intro position lowLe below
    rw [← same _ (by omega) (by omega), Nat.add_sub_cancel' (by omega)]
  cases found with
  | none =>
      intro position lowLe below
      rw [shifted position lowLe below]
      exact highest _ (by omega) (by omega)
  | some found =>
      obtain ⟨⟨lowLe, below⟩, isSet, unset⟩ := highest
      refine ⟨⟨Nat.add_le_add_left lowLe _, Nat.add_lt_add_left below _⟩,
        (same found lowLe below).trans isSet, fun position above below' => ?_⟩
      have above' : base + found < position := above
      rw [shifted position (by omega) below']
      exact unset _ (by omega) (by omega)

theorem LowestIn.shift (lowest : LowestIn bit low high found)
    (other : Nat → Bool) (base : Nat)
    (same : ∀ position, low ≤ position → position < high →
      other (base + position) = bit position) :
    LowestIn other (base + low) (base + high) (found.map (base + ·)) := by
  have shifted : ∀ position, base + low ≤ position → position < base + high →
      other position = bit (position - base) := by
    intro position lowLe below
    rw [← same _ (by omega) (by omega), Nat.add_sub_cancel' (by omega)]
  cases found with
  | none =>
      intro position lowLe below
      rw [shifted position lowLe below]
      exact lowest _ (by omega) (by omega)
  | some found =>
      obtain ⟨⟨lowLe, below⟩, isSet, unset⟩ := lowest
      refine ⟨⟨Nat.add_le_add_left lowLe _, Nat.add_lt_add_left below _⟩,
        (same found lowLe below).trans isSet, fun position above below' => ?_⟩
      have below'' : position < base + found := below'
      rw [shifted position above (by omega)]
      exact unset _ (by omega) (by omega)

theorem highestIn_window {width offset : Nat} (bits : Nat)
    (inside : offset < width) :
    HighestIn bits.testBit 0 (offset + 1)
      (if shiftLeft width bits (width - 1 - offset) = 0 then none
        else some (offset - leadingZeros width
          (shiftLeft width bits (width - 1 - offset)))) := by
  split_ifs with zero
  · intro position _ below
    exact (shiftLeft_window_eq_zero_iff inside).mp zero position (by omega)
  · obtain ⟨zerosLe, isSet, unset⟩ := leadingZeros_window inside zero
    exact ⟨⟨by omega, by omega⟩, isSet,
      fun position above below => unset position above (by omega)⟩

theorem lowestIn_window {width bits : Nat} (bounded : bits < 2 ^ width)
    (offset : Nat) :
    LowestIn bits.testBit offset width
      (if bits >>> offset = 0 then none
        else some (offset + trailingZeros width (bits >>> offset))) := by
  split_ifs with zero
  · intro position offsetLe _
    exact shiftRight_eq_zero_iff.mp zero position offsetLe
  · obtain ⟨isSet, below, unset⟩ := trailingZeros_window bounded zero
    exact ⟨⟨by omega, below⟩, isSet, unset⟩

end Nearest

section Directed

variable {bit : Nat → Bool} {flagged : Int → Bool} {isPositive downwards : Bool}
variable {base start last : Int} {low high : Nat} {found : Option Nat}

/-- The second index lies at the first or beyond it in the direction. -/
def Ahead (downwards : Bool) (start next : Int) : Prop :=
  if downwards then next ≤ start else start ≤ next

@[simp]
theorem ahead_down {next : Int} : Ahead true start next ↔ next ≤ start := by
  simp [Ahead]

@[simp]
theorem ahead_up {next : Int} : Ahead false start next ↔ start ≤ next := by
  simp [Ahead]

@[refl]
theorem Ahead.refl (downwards : Bool) (start : Int) :
    Ahead downwards start start := by
  cases downwards <;> simp

@[trans]
theorem Ahead.trans {next last : Int} (first : Ahead downwards start next)
    (second : Ahead downwards next last) : Ahead downwards start last := by
  cases downwards <;> simp only [ahead_down, ahead_up] at * <;> omega

/-- The first flagged index on the way from one index to another, or that there
is none. -/
def FirstFlagged (flagged : Int → Bool) (downwards : Bool)
    (start last : Int) : Option Int → Prop
  | none => ∀ index, Ahead downwards start index →
      Ahead downwards index last → flagged index = false
  | some found =>
      (Ahead downwards start found ∧ Ahead downwards found last) ∧
        flagged found = true ∧
        ∀ index, Ahead downwards start index → Ahead downwards index found →
          index ≠ found → flagged index = false

/-- The index a bit stands for: upwards from `base`, or downwards from the
index below `-base`. -/
def bitIndex (isPositive : Bool) (base : Int) (position : Nat) : Int :=
  if isPositive then position + base else -position - base - 1

@[simp]
theorem bitIndex_positive {position : Nat} :
    bitIndex true base position = position + base := rfl

@[simp]
theorem bitIndex_negative {position : Nat} :
    bitIndex false base position = -position - base - 1 := rfl

theorem bitIndex_inj {position other : Nat} :
    bitIndex isPositive base position = bitIndex isPositive base other ↔
      position = other := by
  cases isPositive
  · simp only [bitIndex_negative]
    omega
  · simp only [bitIndex_positive]
    omega

theorem ahead_bitIndex {position other : Nat} :
    Ahead isPositive (bitIndex isPositive base position)
      (bitIndex isPositive base other) ↔ other ≤ position := by
  cases isPositive
  · simp only [ahead_up, bitIndex_negative]
    omega
  · simp only [ahead_down, bitIndex_positive]
    omega

theorem ahead_not_bitIndex {position other : Nat} :
    Ahead (!isPositive) (bitIndex isPositive base position)
      (bitIndex isPositive base other) ↔ position ≤ other := by
  cases isPositive
  · simp only [Bool.not_false, ahead_down, bitIndex_negative]
    omega
  · simp only [Bool.not_true, ahead_up, bitIndex_positive]
    omega

theorem exists_bitIndex {position other : Nat} {index : Int}
    (after : Ahead downwards (bitIndex isPositive base position) index)
    (before : Ahead downwards index (bitIndex isPositive base other)) :
    ∃ between, bitIndex isPositive base between = index := by
  cases isPositive
  · refine ⟨(-index - base - 1).toNat, ?_⟩
    cases downwards <;>
      simp only [ahead_up, ahead_down, bitIndex_negative] at * <;> omega
  · refine ⟨(index - base).toNat, ?_⟩
    cases downwards <;>
      simp only [ahead_up, ahead_down, bitIndex_positive] at * <;> omega

/-- A search downwards in the bits moves towards `base`. -/
theorem HighestIn.firstFlagged (highest : HighestIn bit low (high + 1) found)
    (same : ∀ position, low ≤ position → position ≤ high →
      flagged (bitIndex isPositive base position) = bit position) :
    FirstFlagged flagged isPositive (bitIndex isPositive base high)
      (bitIndex isPositive base low)
      (found.map (bitIndex isPositive base)) := by
  cases found with
  | none =>
      intro index fromHigh toLow
      obtain ⟨position, rfl⟩ := exists_bitIndex fromHigh toLow
      rw [ahead_bitIndex] at fromHigh toLow
      rw [same position toLow fromHigh]
      exact highest position toLow (by omega)
  | some found =>
      obtain ⟨⟨lowLe, below⟩, isSet, unset⟩ := highest
      refine ⟨⟨ahead_bitIndex.mpr (by omega), ahead_bitIndex.mpr lowLe⟩,
        (same found lowLe (by omega)).trans isSet, ?_⟩
      intro index fromHigh toFound different
      obtain ⟨position, rfl⟩ := exists_bitIndex fromHigh toFound
      rw [ahead_bitIndex] at fromHigh toFound
      rw [Ne, bitIndex_inj] at different
      rw [same position (by omega) fromHigh]
      exact unset position (by omega) (by omega)

/-- A search upwards in the bits moves away from `base`. -/
theorem LowestIn.firstFlagged (lowest : LowestIn bit low (high + 1) found)
    (same : ∀ position, low ≤ position → position ≤ high →
      flagged (bitIndex isPositive base position) = bit position) :
    FirstFlagged flagged (!isPositive) (bitIndex isPositive base low)
      (bitIndex isPositive base high)
      (found.map (bitIndex isPositive base)) := by
  cases found with
  | none =>
      intro index fromLow toHigh
      obtain ⟨position, rfl⟩ := exists_bitIndex fromLow toHigh
      rw [ahead_not_bitIndex] at fromLow toHigh
      rw [same position fromLow toHigh]
      exact lowest position fromLow (by omega)
  | some found =>
      obtain ⟨⟨lowLe, below⟩, isSet, unset⟩ := lowest
      refine ⟨⟨ahead_not_bitIndex.mpr lowLe,
        ahead_not_bitIndex.mpr (by omega)⟩,
        (same found lowLe (by omega)).trans isSet, ?_⟩
      intro index fromLow toFound different
      obtain ⟨position, rfl⟩ := exists_bitIndex fromLow toFound
      rw [ahead_not_bitIndex] at fromLow toFound
      rw [Ne, bitIndex_inj] at different
      rw [same position fromLow (by omega)]
      exact unset position fromLow (by omega)

end Directed

end BitScan

end SolanaProtocols
