import Mathlib.Data.List.Chain
import Mathlib.Data.List.Range
import Mathlib.Tactic.Ring
import SolanaProtocols.MachineArithmetic
import SolanaProtocols.PoolAccounts
import SolanaProtocols.SwapBuilders

/-!
# Tick arrays of a swap

A concentrated pool keeps its ticks in arrays of sixty spacings.  A swap names the
array of the current tick and those after it in the direction of the price.
`i32` arithmetic finds where they start.
-/

namespace SolanaProtocols

open Parsing Chain

namespace MachineArithmetic

/-- A result in `i32`, or none on a panic. -/
def Overflow.settleI32 (overflow : Overflow) (result : Int) : Option Int :=
  if -2 ^ 31 ≤ result ∧ result < 2 ^ 31 then some result
  else match overflow with
    | .panics => none
    | .wraps => some (result.bmod (2 ^ 32))

theorem settleI32_of_fits {overflow : Overflow} {result : Int}
    (fits : -2 ^ 31 ≤ result ∧ result < 2 ^ 31) :
    overflow.settleI32 result = some result :=
  if_pos fits

end MachineArithmetic

theorem mapM_eq_some_map {α β : Type} {f : α → Option β} {g : α → β} {elements : List α}
    (found : ∀ element ∈ elements, f element = some (g element)) :
    elements.mapM f = some (elements.map g) := by
  induction elements with
  | nil => rfl
  | cons element elements ih =>
      rw [List.mapM_cons, found element List.mem_cons_self,
        ih fun other member => found other (.tail _ member)]
      rfl

namespace RaydiumClmm

open MachineArithmetic

/-- How many spacings an array holds. -/
def tickArraySize : Int := 60

/-- How many ticks an array spans. -/
def ticksInArray (tickSpacing : UInt16) : Int :=
  tickSpacing.toNat * tickArraySize

/-- The start of the array of a tick.  A spacing of zero panics. -/
def tickArrayStartIndex (overflow : Overflow) (tick : Int) (tickSpacing : UInt16) :
    Option Int :=
  let span := ticksInArray tickSpacing
  if span = 0 then none
  else
    let start := tick.tdiv span * span
    -- Division rounds towards zero, which is up for a negative tick.
    if tick < 0 ∧ tick.tmod span ≠ 0 then overflow.settleI32 (start - span)
    else some start

/-- The keys needed to build swaps of a pool. -/
structure RaydiumClmmKeys where
  poolId : Pubkey
  ammConfig : Pubkey
  tokenMint0 : Pubkey
  tokenMint1 : Pubkey
  tokenVault0 : Pubkey
  tokenVault1 : Pubkey
  observationKey : Pubkey
  tickSpacing : UInt16

/-- The four bytes of an `i32`, in little endian. -/
def i32Bytes (value : Int) : Bytes :=
  PrefixCodec.leBytes 4 (value % 2 ^ 32).toNat

section Deriving

variable (overflow : Overflow) (addresses : BuilderAddresses)

def deriveTickArrayAddress (poolId : Pubkey) (startTickIndex : Int) : Pubkey :=
  addresses.findProgramAddress
    [seed "tick_array", Pumpfun.pubkey.encode poolId, i32Bytes startTickIndex]
    Protocol.raydiumClmm.programId

/-- The start of the array some arrays away. -/
def tickArrayStart (start step : Int) (isBuy : Bool) (index : Nat) : Option Int := do
  let offset ← overflow.settleI32 (step * (index : Int).bmod (2 ^ 32))
  overflow.settleI32 (if isBuy then start + offset else start - offset)

/-- The arrays from the current tick on, upwards for a buy. -/
def RaydiumClmmKeys.tickArraysForSwap (keys : RaydiumClmmKeys) (currentTick : Int)
    (isBuy : Bool) (count : Nat) : Option (List Pubkey) := do
  let step := ticksInArray keys.tickSpacing
  let start ← tickArrayStartIndex overflow currentTick keys.tickSpacing
  (List.range count).mapM fun index =>
    (tickArrayStart overflow start step isBuy index).map
      (deriveTickArrayAddress addresses keys.poolId)

end Deriving

theorem floor_eq {span : Int} (positive : 0 < span) (tick : Int) :
    (if tick < 0 ∧ tick.tmod span ≠ 0 then tick.tdiv span * span - span
      else tick.tdiv span * span) = tick / span * span := by
  have divides : tick.tmod span = 0 ↔ span ∣ tick :=
    Int.dvd_iff_tmod_eq_zero.symm
  have sign : Int.sign span = 1 := Int.sign_eq_one_of_pos positive
  rw [Int.tdiv_eq_ediv, sign]
  by_cases down : tick < 0 ∧ tick.tmod span ≠ 0
  · have indivisible : ¬ (0 ≤ tick ∨ span ∣ tick) := by
      rintro (nonnegative | divided)
      · exact absurd down.1 (Int.not_lt.mpr nonnegative)
      · exact down.2 (divides.mpr divided)
    rw [if_pos down, if_neg indivisible]
    ring
  · have settled : 0 ≤ tick ∨ span ∣ tick := by
      rw [← divides]
      omega
    rw [if_neg down, if_pos settled, add_zero]

/-- The array that holds a tick, counted from the one that starts at zero. -/
def arrayIndex (tickSpacing : UInt16) (tick : Int) : Int :=
  tick / ticksInArray tickSpacing

/-- The array some arrays away in the direction of a swap. -/
def arrayAfter (tickSpacing : UInt16) (currentTick : Int) (isBuy : Bool) (index : Nat) :
    Int :=
  if isBuy then arrayIndex tickSpacing currentTick + index
  else arrayIndex tickSpacing currentTick - index

section Arrays

variable {overflow : Overflow} {tickSpacing : UInt16} {currentTick tick : Int}
  {isBuy : Bool} {count index : Nat}

theorem ticksInArray_pos (spaced : 0 < tickSpacing) : 0 < ticksInArray tickSpacing := by
  have positive : 0 < tickSpacing.toNat := by
    simpa [UInt16.lt_iff_toNat_lt] using spaced
  rw [ticksInArray, tickArraySize]
  omega

theorem ticksInArray_le : ticksInArray tickSpacing ≤ 3932100 := by
  have bound := tickSpacing.toNat_lt
  rw [ticksInArray, tickArraySize]
  omega

/-- A tick lies in an array from its start on, before the start of the next. -/
theorem arrayIndex_eq_iff (spaced : 0 < tickSpacing) {array : Int} :
    arrayIndex tickSpacing tick = array ↔
      array * ticksInArray tickSpacing ≤ tick ∧
        tick < array * ticksInArray tickSpacing + ticksInArray tickSpacing := by
  have positive := ticksInArray_pos spaced
  rw [arrayIndex]
  constructor
  · rintro rfl
    have split := Int.emod_add_mul_ediv tick (ticksInArray tickSpacing)
    have low := Int.emod_nonneg tick positive.ne'
    have high := Int.emod_lt_of_pos tick positive
    rw [mul_comm] at split
    omega
  · rintro ⟨low, high⟩
    have above := (Int.le_ediv_iff_mul_le positive).mpr low
    have below := (Int.ediv_lt_iff_lt_mul positive).mpr
      (by rwa [add_mul, one_mul] : tick < (array + 1) * ticksInArray tickSpacing)
    omega

/-- The ticks that a pool can have. -/
def PoolTick (tick : Int) : Prop :=
  -443636 ≤ tick ∧ tick ≤ 443636

theorem tickArrayStartIndex_eq (spaced : 0 < tickSpacing) (poolTick : PoolTick currentTick) :
    tickArrayStartIndex overflow currentTick tickSpacing =
      some (arrayIndex tickSpacing currentTick * ticksInArray tickSpacing) := by
  have positive := ticksInArray_pos spaced
  have floor := floor_eq positive currentTick
  have inside := (@arrayIndex_eq_iff tickSpacing currentTick spaced _).mp rfl
  have small := @ticksInArray_le tickSpacing
  obtain ⟨low, high⟩ := poolTick
  rw [tickArrayStartIndex, arrayIndex, ← floor]
  simp only [if_neg positive.ne']
  rw [arrayIndex, ← floor] at inside
  by_cases down : currentTick < 0 ∧ currentTick.tmod (ticksInArray tickSpacing) ≠ 0
  · simp only [if_pos down] at inside ⊢
    exact settleI32_of_fits (by omega)
  · simp only [if_neg down]

theorem tickArrayStart_eq (fits : index ≤ 500) {start : Int}
    (near : -4375736 ≤ start ∧ start ≤ 443636) :
    tickArrayStart overflow start (ticksInArray tickSpacing) isBuy index =
      some (if isBuy then start + ticksInArray tickSpacing * index
        else start - ticksInArray tickSpacing * index) := by
  have small := @ticksInArray_le tickSpacing
  have positive : 0 ≤ ticksInArray tickSpacing := by
    rw [ticksInArray, tickArraySize]
    omega
  have reach : ticksInArray tickSpacing * index ≤ 3932100 * 500 :=
    mul_le_mul small (by exact_mod_cast fits) (Int.natCast_nonneg _) (by decide)
  have forward : 0 ≤ ticksInArray tickSpacing * index :=
    mul_nonneg positive (Int.natCast_nonneg _)
  have exact : (index : Int).bmod (2 ^ 32) = index :=
    Int.bmod_eq_of_le (by omega) (by omega)
  rw [tickArrayStart, exact, settleI32_of_fits (by omega)]
  cases isBuy with
  | true => exact settleI32_of_fits (by simp only [if_true]; omega)
  | false => exact settleI32_of_fits (by simp only [Bool.false_eq_true, if_false]; omega)

/-- The arrays of a swap of a pool are derived, from the array of the current tick on. -/
theorem tickArraysForSwap_eq {addresses : BuilderAddresses} {keys : RaydiumClmmKeys}
    (spaced : 0 < keys.tickSpacing) (poolTick : PoolTick currentTick)
    (few : count ≤ 501) :
    keys.tickArraysForSwap overflow addresses currentTick isBuy count =
      some ((List.range count).map fun index =>
        deriveTickArrayAddress addresses keys.poolId
          (arrayAfter keys.tickSpacing currentTick isBuy index *
            ticksInArray keys.tickSpacing)) := by
  have inside := (@arrayIndex_eq_iff keys.tickSpacing currentTick spaced _).mp rfl
  have small := @ticksInArray_le keys.tickSpacing
  have ⟨low, high⟩ := poolTick
  rw [RaydiumClmmKeys.tickArraysForSwap, tickArrayStartIndex_eq spaced poolTick]
  refine mapM_eq_some_map fun index member => ?_
  have inRange := List.mem_range.mp member
  rw [tickArrayStart_eq (by omega) (by omega), Option.map_some]
  refine congrArg (fun start => some (deriveTickArrayAddress addresses keys.poolId start)) ?_
  rw [arrayAfter]
  cases isBuy with
  | true => simp only [if_true]; ring
  | false => simp only [Bool.false_eq_true, if_false]; ring

/-- A tick is held by one of the arrays if its own is not before the current one and
fewer than the count away from it. -/
theorem exists_arrayAfter_iff {array : Int} :
    (∃ index < count, arrayAfter tickSpacing currentTick isBuy index = array) ↔
      if isBuy then arrayIndex tickSpacing currentTick ≤ array ∧
        array < arrayIndex tickSpacing currentTick + count
      else array ≤ arrayIndex tickSpacing currentTick ∧
        arrayIndex tickSpacing currentTick - count < array := by
  simp only [arrayAfter]
  cases isBuy with
  | true =>
      simp only [if_true]
      constructor
      · rintro ⟨index, inRange, rfl⟩
        omega
      · rintro ⟨low, high⟩
        exact ⟨(array - arrayIndex tickSpacing currentTick).toNat, by omega, by omega⟩
  | false =>
      simp only [Bool.false_eq_true, if_false]
      constructor
      · rintro ⟨index, inRange, rfl⟩
        omega
      · rintro ⟨low, high⟩
        exact ⟨(arrayIndex tickSpacing currentTick - array).toNat, by omega, by omega⟩

theorem arrayAfter_succ :
    arrayAfter tickSpacing currentTick isBuy (index + 1) * ticksInArray tickSpacing =
      if isBuy then
        arrayAfter tickSpacing currentTick isBuy index * ticksInArray tickSpacing +
          ticksInArray tickSpacing
      else arrayAfter tickSpacing currentTick isBuy index * ticksInArray tickSpacing -
        ticksInArray tickSpacing := by
  simp only [arrayAfter]
  cases isBuy with
  | true =>
      simp only [if_true]
      push_cast
      ring
  | false =>
      simp only [Bool.false_eq_true, if_false]
      push_cast
      ring

/-- A swap names the array of the current tick first and then, one after the other,
those behind it in the direction of the price: of the ticks of a pool its arrays hold
those whose array is fewer than the count away, and no two of its arrays are the
same. -/
theorem tick_arrays_cover (overflow : Overflow) (addresses : BuilderAddresses)
    (keys : RaydiumClmmKeys) (isBuy : Bool) (spaced : 0 < keys.tickSpacing)
    (poolTick : PoolTick currentTick) (few : count ≤ 501) :
    ∃ starts : List Int, starts.length = count ∧ starts.Nodup ∧
      (∀ start ∈ starts, ticksInArray keys.tickSpacing ∣ start) ∧
      keys.tickArraysForSwap overflow addresses currentTick isBuy count =
        some (starts.map (deriveTickArrayAddress addresses keys.poolId)) ∧
      (∀ start ∈ starts.head?, start ≤ currentTick ∧
        currentTick < start + ticksInArray keys.tickSpacing) ∧
      starts.IsChain (fun start next => next =
        if isBuy then start + ticksInArray keys.tickSpacing
        else start - ticksInArray keys.tickSpacing) ∧
      ∀ tick, (∃ start ∈ starts, start ≤ tick ∧
          tick < start + ticksInArray keys.tickSpacing) ↔
        if isBuy then
          arrayIndex keys.tickSpacing currentTick ≤ arrayIndex keys.tickSpacing tick ∧
            arrayIndex keys.tickSpacing tick <
              arrayIndex keys.tickSpacing currentTick + count
        else
          arrayIndex keys.tickSpacing tick ≤ arrayIndex keys.tickSpacing currentTick ∧
            arrayIndex keys.tickSpacing currentTick - count <
              arrayIndex keys.tickSpacing tick := by
  have positive := ticksInArray_pos spaced
  refine ⟨(List.range count).map fun index =>
    arrayAfter keys.tickSpacing currentTick isBuy index * ticksInArray keys.tickSpacing,
    by rw [List.length_map, List.length_range], ?_,
    List.forall_mem_map.mpr fun index _ => Int.dvd_mul_left _ _, ?_, ?_, ?_,
    fun tick => ?_⟩
  · refine List.Nodup.map (fun first second same => ?_) List.nodup_range
    have sameArray := Int.eq_of_mul_eq_mul_right positive.ne' same
    simp only [arrayAfter] at sameArray
    split at sameArray <;> omega
  · rw [tickArraysForSwap_eq spaced poolTick few, List.map_map]
    rfl
  · cases count with
    | zero => exact fun _ absent => by cases absent
    | succ count =>
        intro start isFirst
        rw [List.range_succ_eq_map, List.map_cons, List.head?_cons,
          Option.mem_some_iff] at isFirst
        subst isFirst
        have first : arrayAfter keys.tickSpacing currentTick isBuy 0 =
            arrayIndex keys.tickSpacing currentTick := by
          simp [arrayAfter]
        rw [first]
        exact (arrayIndex_eq_iff spaced).mp rfl
  · exact (List.isChain_map _).mpr
      ((List.isChain_range _ count).mpr fun index _ => arrayAfter_succ)
  · rw [← exists_arrayAfter_iff]
    simp only [List.mem_map, List.mem_range, exists_exists_and_eq_and]
    refine exists_congr fun index => and_congr_right fun _ => ?_
    rw [← arrayIndex_eq_iff spaced, eq_comm]

/-- Keys of a pool with ticks ten apart. -/
def plainKeys : RaydiumClmmKeys where
  poolId := 1
  ammConfig := 2
  tokenMint0 := 3
  tokenMint1 := 4
  tokenVault0 := 5
  tokenVault1 := 6
  observationKey := 7
  tickSpacing := 10

theorem tick_arrays_cover_sell :
    plainKeys.tickArraysForSwap .panics Protocols.SwapBuilder.capturedAddresses (-601)
        false 3 =
      some ([-1200, -1800, -2400].map
        (deriveTickArrayAddress Protocols.SwapBuilder.capturedAddresses 1)) := by
  obtain ⟨starts, length, -, aligned, derived, first, chain, -⟩ :=
    @tick_arrays_cover (-601) 3 .panics Protocols.SwapBuilder.capturedAddresses plainKeys
      false (by decide) ⟨by decide, by decide⟩ (by decide)
  obtain ⟨start, second, third, rfl⟩ := List.length_eq_three.mp length
  have span : ticksInArray plainKeys.tickSpacing = 600 := by decide
  have isFirst := first start rfl
  have alignedFirst := aligned start List.mem_cons_self
  simp only [List.isChain_cons_cons, span, Bool.false_eq_true, if_false] at chain
  rw [span] at isFirst alignedFirst
  obtain ⟨rfl, rfl, -⟩ := chain
  obtain rfl : start = -1200 := by omega
  exact derived

end Arrays

end RaydiumClmm

end SolanaProtocols
