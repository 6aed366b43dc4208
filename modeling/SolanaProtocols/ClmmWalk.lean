import Mathlib.Data.Int.ConditionallyCompleteOrder
import Mathlib.Order.ConditionallyCompleteLattice.Basic
import SolanaProtocols.ClmmSwap
import SolanaProtocols.StepProfile

/-!
# The road of a swap

The ticks ahead of a price divide what is ahead into segments.  A swap pays its
way from one to the next.  It does not get past a segment without liquidity, and
not past an empty one either, which the first is when the price is on the tick
that it is to cross.
-/

namespace SolanaProtocols

open PoolLayouts (U128)
open Pumpfun (U64)

namespace Clmm

section Direction

variable (math : PriceMath) (isBaseInput : Bool)

/-- The second price is further in the direction of the swap. -/
def Beyond (price further : Nat) : Prop :=
  if isBaseInput then further < price else price < further

/-- Some of the prices between a tick and the next one are ahead of a price. -/
def Ahead (price : Nat) (interval : Int) : Prop :=
  if isBaseInput then math.tickToSqrtPriceX64 interval < price
  else price < math.tickToSqrtPriceX64 (interval + 1)

/-- The prices between a tick and the next one lie behind a boundary. -/
def Behind (boundary : TickState) (interval : Int) : Prop :=
  if isBaseInput then interval < boundary.tick.toInt
  else boundary.tick.toInt ≤ interval

instance (boundary : TickState) (interval : Int) :
    Decidable (Behind isBaseInput boundary interval) :=
  inferInstanceAs <| Decidable <|
    if isBaseInput then interval < boundary.tick.toInt
    else boundary.tick.toInt ≤ interval

/-- What crossing a tick adds to the liquidity. -/
def crossingChange (boundary : TickState) : U128 :=
  if isBaseInput then -boundary.liquidityNet else boundary.liquidityNet

/-- The tick indices between which there are prices. -/
def InBounds (interval : Int) : Prop :=
  minTick ≤ interval ∧ interval < maxTick

/-- The last price of a direction. -/
def limitPrice : Nat :=
  math.tickToSqrtPriceX64 (if isBaseInput then minTick else maxTick)

end Direction

/-- Prices with the same active liquidity. -/
structure Segment where
  start : Nat
  target : Nat
  liquidity : U128

namespace Segment

variable (math : PriceMath) (isBaseInput : Bool) (feeRate : Nat)
  (segment : Segment)

/-- A swap can move through the segment. -/
def Open : Prop :=
  segment.liquidity ≠ 0 ∧ Beyond isBaseInput segment.start segment.target

/-- The input that moves the price through the segment. -/
def maxIn : Nat :=
  if isBaseInput then
    math.getDeltaAmount0 segment.target segment.start segment.liquidity
  else math.getDeltaAmount1 segment.start segment.target segment.liquidity

def fee : Nat :=
  segment.maxIn math isBaseInput * feeRate / (feeRateDenominator - feeRate)

/-- The input and its fee. -/
def charge : Nat :=
  segment.maxIn math isBaseInput + segment.fee math isBaseInput feeRate

/-- The segment has liquidity at prices that are in bounds. -/
def Offers : Prop :=
  segment.liquidity ≠ 0 ∧ ∃ interval, InBounds interval ∧
    Ahead math isBaseInput segment.start interval ∧
      ¬ Ahead math isBaseInput segment.target interval

end Segment

section Road

variable (math : PriceMath) (isBaseInput : Bool) (feeRate : Nat)

/-- The segments from a price through the ticks to the last price. -/
def road (start : Nat) (liquidity : U128) : List TickState → List Segment
  | [] => [⟨start, limitPrice math isBaseInput, liquidity⟩]
  | boundary :: rest =>
      ⟨start, math.tickToSqrtPriceX64 boundary.tick.toInt, liquidity⟩ ::
        road (math.tickToSqrtPriceX64 boundary.tick.toInt)
          (liquidity + crossingChange isBaseInput boundary) rest

/-- An input gets to a segment: it can move through the segments before, pays
for them with something left, and crosses at most a hundred ticks. -/
structure GetsTo (segments : List Segment) (crossings input : Nat)
    (before : List Segment) (here : Segment) (after : List Segment) : Prop where
  split : segments = before ++ here :: after
  passable : ∀ segment ∈ before, segment.Open isBaseInput
  crossings_le : crossings + before.length ≤ 100
  paid : (before.map (·.charge math isBaseInput feeRate)).sum < input

/-- The net liquidity of the ticks after one index up to another. -/
def PoolWithTickArrays.netBetween (pool : PoolWithTickArrays) (low high : Int) :
    U128 :=
  ((pool.initializedTicks.filter fun other =>
    low < other.tick.toInt ∧ other.tick.toInt ≤ high).map (·.liquidityNet)).sum

/-- The liquidity between a tick and the next one. -/
def PoolWithTickArrays.activeLiquidity (pool : PoolWithTickArrays)
    (interval : Int) : U128 :=
  let tick := pool.pool.tickCurrent.toInt
  if tick ≤ interval then pool.pool.liquidity + pool.netBetween tick interval
  else pool.pool.liquidity - pool.netBetween interval tick

/-- Prices with active liquidity are ahead of a price. -/
def LiquidityAhead (pool : PoolWithTickArrays) (price : Nat) : Prop :=
  ∃ interval, InBounds interval ∧ Ahead math isBaseInput price interval ∧
    pool.activeLiquidity interval ≠ 0

/-- The road of a swap. -/
def PoolWithTickArrays.road (pool : PoolWithTickArrays) : List Segment :=
  Clmm.road math isBaseInput pool.pool.sqrtPriceX64.toNat pool.pool.liquidity
    (pool.sortedTicks isBaseInput)

/-- An input gets to a segment that it cannot move through, and a later segment
has liquidity. -/
def Stalls (pool : PoolWithTickArrays) (amountIn : U64) : Prop :=
  ∃ before here after,
    GetsTo math isBaseInput feeRate (pool.road math isBaseInput) 0 amountIn.toNat
        before here after ∧
      ¬ here.Open isBaseInput ∧
        ∃ segment ∈ after, segment.Offers math isBaseInput

/-- A swap ends, what it takes and what it leaves are the input, its fee is part
of what it takes, and it leaves some of the input only after more than a hundred
crossings or when no liquidity is ahead. -/
def StopsForAReason (pool : PoolWithTickArrays) (amountIn : U64) : Prop :=
  ∃ fuel result unconsumed,
    computeSwap math isBaseInput feeRate fuel pool amountIn = some result ∧
      result.amountIn.toNat + unconsumed = amountIn.toNat ∧
        result.feeAmount.toNat ≤ result.amountIn.toNat ∧
          (0 < unconsumed → 100 < result.tickCrossings ∨
            ¬ LiquidityAhead math isBaseInput pool result.sqrtPriceAfter)

end Road

/-- The indices of ticks. -/
def tickRange : Set Int :=
  Set.Ico (-2 ^ 31) (2 ^ 31)

theorem toInt_mem_tickRange (tick : BitVec 32) : tick.toInt ∈ tickRange :=
  ⟨BitVec.le_toInt tick, BitVec.toInt_lt⟩

theorem InBounds.mem_tickRange {interval : Int} (inBounds : InBounds interval) :
    interval ∈ tickRange ∧ interval + 1 ∈ tickRange := by
  obtain ⟨low, high⟩ := inBounds
  rw [minTick] at low
  rw [maxTick] at high
  exact ⟨⟨by omega, by omega⟩, ⟨by omega, by omega⟩⟩

section Directions

variable {math : PriceMath} {isBaseInput : Bool}
  (increasing : StrictMonoOn math.tickToSqrtPriceX64 tickRange)

include increasing

theorem ahead_tick_iff {boundary : TickState} {interval : Int}
    (inBounds : InBounds interval) :
    Ahead math isBaseInput (math.tickToSqrtPriceX64 boundary.tick.toInt)
        interval ↔ Behind isBaseInput boundary interval := by
  have boundaryMem := toInt_mem_tickRange boundary.tick
  obtain ⟨lowMem, highMem⟩ := inBounds.mem_tickRange
  cases isBaseInput with
  | true => exact increasing.lt_iff_lt lowMem boundaryMem
  | false =>
      refine (increasing.lt_iff_lt boundaryMem highMem).trans ?_
      exact Int.lt_add_one_iff

theorem not_ahead_limitPrice {interval : Int} (inBounds : InBounds interval) :
    ¬ Ahead math isBaseInput (limitPrice math isBaseInput) interval := by
  obtain ⟨lowMem, highMem⟩ := inBounds.mem_tickRange
  obtain ⟨low, high⟩ := inBounds
  cases isBaseInput with
  | true =>
      have minMem : minTick ∈ tickRange := ⟨by decide, by decide⟩
      exact not_lt.mpr (increasing.le_iff_le minMem lowMem |>.mpr low)
  | false =>
      have maxMem : maxTick ∈ tickRange := ⟨by decide, by decide⟩
      exact not_lt.mpr (increasing.le_iff_le highMem maxMem |>.mpr high)

omit increasing

theorem Ahead.of_not_beyond {price further : Nat} {interval : Int}
    (notBehind : ¬ Beyond isBaseInput further price)
    (ahead : Ahead math isBaseInput further interval) :
    Ahead math isBaseInput price interval := by
  cases isBaseInput with
  | true => exact lt_of_lt_of_le ahead (not_lt.mp notBehind)
  | false => exact lt_of_le_of_lt (not_lt.mp notBehind) ahead

theorem beyond_of_ahead {price further : Nat} {interval : Int}
    (ahead : Ahead math isBaseInput price interval)
    (behind : ¬ Ahead math isBaseInput further interval) :
    Beyond isBaseInput price further := by
  cases isBaseInput with
  | true => exact lt_of_le_of_lt (not_lt.mp behind) ahead
  | false => exact lt_of_lt_of_le ahead (not_lt.mp behind)

end Directions

theorem Segment.Offers.isOpen {math : PriceMath} {isBaseInput : Bool}
    {segment : Segment} (offers : segment.Offers math isBaseInput) :
    segment.Open isBaseInput := by
  obtain ⟨liquid, interval, -, ahead, behind⟩ := offers
  exact ⟨liquid, beyond_of_ahead ahead behind⟩

/-- The ticks ahead of a price, in the order of the walk. -/
structure InOrder (math : PriceMath) (isBaseInput : Bool) (price : Nat)
    (boundaries : List TickState) : Prop where
  ordered : StepProfile.Ordered (Behind isBaseInput) boundaries
  notBehind : ∀ boundary ∈ boundaries,
    ¬ Beyond isBaseInput (math.tickToSqrtPriceX64 boundary.tick.toInt) price

/-- The liquidity at an interval ahead, from the liquidity at a price. -/
def liquidityAt (isBaseInput : Bool) :
    U128 → List TickState → Int → U128 :=
  StepProfile.valueAt (Behind isBaseInput) (crossingChange isBaseInput)

section Roads

variable {math : PriceMath} {isBaseInput : Bool} {price : Nat} {liquidity : U128}
  {boundary : TickState} {boundaries : List TickState}

theorem InOrder.tail
    (increasing : StrictMonoOn math.tickToSqrtPriceX64 tickRange)
    (inOrder : InOrder math isBaseInput price (boundary :: boundaries)) :
    InOrder math isBaseInput (math.tickToSqrtPriceX64 boundary.tick.toInt)
      boundaries where
  ordered := (List.pairwise_cons.mp inOrder.ordered).2
  notBehind other member beyond := by
    have later := (List.pairwise_cons.mp inOrder.ordered).1 other member
    have boundaryMem := toInt_mem_tickRange boundary.tick
    have otherMem := toInt_mem_tickRange other.tick
    cases isBaseInput with
    | true =>
        have less := (increasing.lt_iff_lt boundaryMem otherMem).mp beyond
        exact absurd (later boundary.tick.toInt less) (lt_irrefl _)
    | false =>
        have less := (increasing.lt_iff_lt otherMem boundaryMem).mp beyond
        exact absurd (later other.tick.toInt le_rfl) (not_le.mpr less)

/-- Liquidity is ahead exactly when a segment of the road has some. -/
theorem exists_ahead_iff
    (increasing : StrictMonoOn math.tickToSqrtPriceX64 tickRange)
    (inOrder : InOrder math isBaseInput price boundaries) :
    (∃ interval, InBounds interval ∧ Ahead math isBaseInput price interval ∧
        liquidityAt isBaseInput liquidity boundaries interval ≠ 0) ↔
      ∃ segment ∈ road math isBaseInput price liquidity boundaries,
        segment.Offers math isBaseInput := by
  induction boundaries generalizing price liquidity with
  | nil =>
      simp only [road, liquidityAt, StepProfile.valueAt_nil,
        List.mem_singleton, exists_eq_left, Segment.Offers]
      constructor
      · rintro ⟨interval, inBounds, ahead, liquid⟩
        exact ⟨liquid, interval, inBounds, ahead,
          not_ahead_limitPrice increasing inBounds⟩
      · rintro ⟨liquid, interval, inBounds, ahead, -⟩
        exact ⟨interval, inBounds, ahead, liquid⟩
  | cons boundary boundaries ih =>
      rw [road, List.exists_mem_cons_iff, ← ih (inOrder.tail increasing)]
      constructor
      · rintro ⟨interval, inBounds, ahead, liquid⟩
        have further := @ahead_tick_iff _ isBaseInput increasing boundary _ inBounds
        by_cases behind : Behind isBaseInput boundary interval
        · rw [liquidityAt, StepProfile.valueAt_cons_of_before behind] at liquid
          exact .inr ⟨interval, inBounds, further.mpr behind, liquid⟩
        · rw [liquidityAt,
            StepProfile.valueAt_cons_of_not_before inOrder.ordered behind] at liquid
          exact .inl ⟨liquid, interval, inBounds, ahead, further.not.mpr behind⟩
      · rintro (⟨liquid, interval, inBounds, ahead, behind⟩ |
          ⟨interval, inBounds, ahead, liquid⟩)
        · refine ⟨interval, inBounds, ahead, ?_⟩
          rw [ahead_tick_iff increasing inBounds] at behind
          rwa [liquidityAt,
            StepProfile.valueAt_cons_of_not_before inOrder.ordered behind]
        · refine ⟨interval, inBounds, ahead.of_not_beyond
            (inOrder.notBehind boundary List.mem_cons_self), ?_⟩
          rw [ahead_tick_iff increasing inBounds] at ahead
          rwa [liquidityAt, StepProfile.valueAt_cons_of_before ahead]

/-- The rest of a road is a road, and the liquidity ahead on it is that of the
whole road. -/
theorem exists_road_of_split {before after : List Segment} {here : Segment}
    (increasing : StrictMonoOn math.tickToSqrtPriceX64 tickRange)
    (inOrder : InOrder math isBaseInput price boundaries)
    (split : road math isBaseInput price liquidity boundaries =
      before ++ here :: after) :
    ∃ rest, road math isBaseInput here.start here.liquidity rest = here :: after ∧
      InOrder math isBaseInput here.start rest ∧
        ∀ interval, InBounds interval →
          Ahead math isBaseInput here.start interval →
            Ahead math isBaseInput price interval ∧
              liquidityAt isBaseInput here.liquidity rest interval =
                liquidityAt isBaseInput liquidity boundaries interval := by
  induction before generalizing price liquidity boundaries with
  | nil =>
      have hereEq : here.start = price ∧ here.liquidity = liquidity := by
        cases boundaries <;> cases split <;> exact ⟨rfl, rfl⟩
      obtain ⟨rfl, rfl⟩ := hereEq
      exact ⟨boundaries, split, inOrder, fun _ _ ahead => ⟨ahead, rfl⟩⟩
  | cons segment before ih =>
      cases boundaries with
      | nil => simp [road] at split
      | cons boundary boundaries =>
          obtain ⟨rest, roadEq, restInOrder, same⟩ :=
            ih (inOrder.tail increasing) (List.cons.inj split).2
          refine ⟨rest, roadEq, restInOrder, fun interval inBounds ahead => ?_⟩
          obtain ⟨further, liquidityEq⟩ := same interval inBounds ahead
          refine ⟨further.of_not_beyond
            (inOrder.notBehind boundary List.mem_cons_self), ?_⟩
          rw [ahead_tick_iff increasing inBounds] at further
          rw [liquidityEq]
          exact (StepProfile.valueAt_cons_of_before further).symm

end Roads

namespace PoolWithTickArrays

/-- The price is between the prices of the current tick and the next one. -/
structure Placed (math : PriceMath) (pool : PoolWithTickArrays) : Prop where
  next_mem : pool.pool.tickCurrent.toInt + 1 ∈ tickRange
  current_le : math.tickToSqrtPriceX64 pool.pool.tickCurrent.toInt ≤
    pool.pool.sqrtPriceX64.toNat
  lt_next : pool.pool.sqrtPriceX64.toNat <
    math.tickToSqrtPriceX64 (pool.pool.tickCurrent.toInt + 1)

variable {math : PriceMath} {pool : PoolWithTickArrays} {isBaseInput : Bool}
  {interval : Int}

/-- An interval is on the side of the current tick that a swap walks to. -/
def OnSide (pool : PoolWithTickArrays) (isBaseInput : Bool) (interval : Int) :
    Prop :=
  if isBaseInput then interval ≤ pool.pool.tickCurrent.toInt
  else pool.pool.tickCurrent.toInt ≤ interval

theorem Placed.onSide (placed : pool.Placed math)
    (increasing : StrictMonoOn math.tickToSqrtPriceX64 tickRange)
    (inBounds : InBounds interval)
    (ahead : Ahead math isBaseInput pool.pool.sqrtPriceX64.toNat interval) :
    pool.OnSide isBaseInput interval := by
  have currentMem := toInt_mem_tickRange pool.pool.tickCurrent
  obtain ⟨lowMem, highMem⟩ := inBounds.mem_tickRange
  cases isBaseInput with
  | true =>
      have less := (increasing.lt_iff_lt lowMem placed.next_mem).mp
        (lt_trans ahead placed.lt_next)
      exact Int.lt_add_one_iff.mp less
  | false =>
      have less := (increasing.lt_iff_lt currentMem highMem).mp
        (lt_of_le_of_lt placed.current_le ahead)
      exact Int.lt_add_one_iff.mp less

theorem mem_sortedTicks {boundary : TickState}
    (member : boundary ∈ pool.sortedTicks isBaseInput) :
    if isBaseInput then boundary.tick.toInt ≤ pool.pool.tickCurrent.toInt
    else pool.pool.tickCurrent.toInt < boundary.tick.toInt := by
  cases isBaseInput <;> simpa using (List.mem_filter.mp member).2

theorem Placed.inOrder_sortedTicks (placed : pool.Placed math)
    (increasing : StrictMonoOn math.tickToSqrtPriceX64 tickRange) :
    InOrder math isBaseInput pool.pool.sqrtPriceX64.toNat
      (pool.sortedTicks isBaseInput) where
  ordered := by
    cases isBaseInput with
    | true =>
        refine (List.Pairwise.imp ?_ (List.pairwise_mergeSort ?_ ?_ _)).filter _
        · intro first second le position behind
          exact lt_of_lt_of_le behind (of_decide_eq_true le)
        · intro first second third below further
          exact decide_eq_true
            ((of_decide_eq_true further).trans (of_decide_eq_true below))
        · intro first second
          simpa using le_total second.tick.toInt first.tick.toInt
    | false =>
        refine (List.Pairwise.imp ?_ (List.pairwise_mergeSort ?_ ?_ _)).filter _
        · intro first second le position behind
          exact le_trans (of_decide_eq_true le) behind
        · intro first second third below further
          exact decide_eq_true
            ((of_decide_eq_true below).trans (of_decide_eq_true further))
        · intro first second
          simpa using le_total first.tick.toInt second.tick.toInt
  notBehind boundary member := by
    have currentMem := toInt_mem_tickRange pool.pool.tickCurrent
    have boundaryMem := toInt_mem_tickRange boundary.tick
    have side := mem_sortedTicks member
    cases isBaseInput with
    | true =>
        exact not_lt.mpr <|
          (increasing.le_iff_le boundaryMem currentMem |>.mpr side).trans
            placed.current_le
    | false =>
        exact not_lt.mpr <| placed.lt_next.le.trans <|
          increasing.le_iff_le placed.next_mem boundaryMem |>.mpr
            (Int.add_one_le_iff.mpr side)

@[simp] theorem netBetween_self {tick : Int} : pool.netBetween tick tick = 0 := by
  have empty : (pool.initializedTicks.filter fun other =>
      tick < other.tick.toInt ∧ other.tick.toInt ≤ tick) = [] := by
    rw [List.filter_eq_nil_iff]
    intro other _ between
    have both := of_decide_eq_true between
    omega
  rw [netBetween, empty, List.map_nil, List.sum_nil]

/-- Going down, the ticks left behind lie between the interval and the current
tick. -/
theorem behind_sortedTicks_true :
    (pool.sortedTicks true).Perm (pool.initializedTicks.filter
      (·.tick.toInt ≤ pool.pool.tickCurrent.toInt)) ∧
    ((pool.initializedTicks.filter
        (·.tick.toInt ≤ pool.pool.tickCurrent.toInt)).filter
          (Behind true · interval)) =
      pool.initializedTicks.filter fun other =>
        interval < other.tick.toInt ∧
          other.tick.toInt ≤ pool.pool.tickCurrent.toInt := by
  refine ⟨(List.mergeSort_perm _ _).filter _, ?_⟩
  rw [List.filter_filter]
  exact List.filter_congr fun _ _ => (Bool.decide_and _ _).symm

theorem behind_sortedTicks_false :
    (pool.sortedTicks false).Perm (pool.initializedTicks.filter
      (pool.pool.tickCurrent.toInt < ·.tick.toInt)) ∧
    ((pool.initializedTicks.filter
        (pool.pool.tickCurrent.toInt < ·.tick.toInt)).filter
          (Behind false · interval)) =
      pool.initializedTicks.filter fun other =>
        pool.pool.tickCurrent.toInt < other.tick.toInt ∧
          other.tick.toInt ≤ interval := by
  refine ⟨(List.mergeSort_perm _ _).filter _, ?_⟩
  rw [List.filter_filter]
  exact List.filter_congr fun _ _ =>
    (Bool.and_comm _ _).trans (Bool.decide_and _ _).symm

theorem sum_crossingChange_true (ticks : List TickState) :
    (ticks.map (crossingChange true)).sum = -(ticks.map (·.liquidityNet)).sum := by
  have sums := map_list_sum (negAddMonoidHom : U128 →+ U128)
    (ticks.map (·.liquidityNet))
  rw [List.map_map] at sums
  exact sums.symm

/-- The liquidity at an interval on the way is the active liquidity there. -/
theorem liquidityAt_sortedTicks (onSide : pool.OnSide isBaseInput interval) :
    liquidityAt isBaseInput pool.pool.liquidity (pool.sortedTicks isBaseInput)
      interval = pool.activeLiquidity interval := by
  cases isBaseInput with
  | true =>
      obtain ⟨unsorted, behind⟩ := @behind_sortedTicks_true pool interval
      have below : liquidityAt true pool.pool.liquidity (pool.sortedTicks true)
          interval = pool.pool.liquidity -
            pool.netBetween interval pool.pool.tickCurrent.toInt := by
        rw [liquidityAt, StepProfile.valueAt_perm unsorted, StepProfile.valueAt,
          behind, sum_crossingChange_true, netBetween, sub_eq_add_neg]
      rw [below, activeLiquidity]
      split
      next above =>
        rw [le_antisymm above onSide, netBetween_self, sub_zero, add_zero]
      next => rfl
  | false =>
      obtain ⟨unsorted, behind⟩ := @behind_sortedTicks_false pool interval
      have current : pool.pool.tickCurrent.toInt ≤ interval := onSide
      rw [liquidityAt, StepProfile.valueAt_perm unsorted, StepProfile.valueAt,
        behind, activeLiquidity, if_pos current, netBetween]
      rfl

/-- Liquidity is ahead of a segment's start exactly when the segment or a later
one has some. -/
theorem Placed.liquidityAhead_iff {before after : List Segment} {here : Segment}
    (placed : pool.Placed math)
    (increasing : StrictMonoOn math.tickToSqrtPriceX64 tickRange)
    (split : pool.road math isBaseInput = before ++ here :: after) :
    LiquidityAhead math isBaseInput pool here.start ↔
      ∃ segment ∈ here :: after, segment.Offers math isBaseInput := by
  obtain ⟨rest, roadEq, inOrder, same⟩ := exists_road_of_split increasing
    (placed.inOrder_sortedTicks increasing) split
  rw [← roadEq, ← exists_ahead_iff increasing inOrder]
  have active (interval : Int) (inBounds : InBounds interval)
      (ahead : Ahead math isBaseInput here.start interval) :
      liquidityAt isBaseInput here.liquidity rest interval =
        pool.activeLiquidity interval := by
    obtain ⟨further, liquidityEq⟩ := same interval inBounds ahead
    rw [liquidityEq]
    exact liquidityAt_sortedTicks (placed.onSide increasing inBounds further)
  constructor
  · rintro ⟨interval, inBounds, ahead, liquid⟩
    exact ⟨interval, inBounds, ahead, active interval inBounds ahead ▸ liquid⟩
  · rintro ⟨interval, inBounds, ahead, liquid⟩
    exact ⟨interval, inBounds, ahead, active interval inBounds ahead ▸ liquid⟩

theorem not_liquidityAhead_limitPrice
    (increasing : StrictMonoOn math.tickToSqrtPriceX64 tickRange) :
    ¬ LiquidityAhead math isBaseInput pool (limitPrice math isBaseInput) := by
  rintro ⟨interval, inBounds, ahead, -⟩
  exact not_ahead_limitPrice increasing inBounds ahead

end PoolWithTickArrays

end Clmm

end SolanaProtocols
