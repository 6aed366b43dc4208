import Mathlib.Tactic.Ring
import SolanaProtocols.ClmmWalk

/-!
# Why swaps stop

A pass of the walk either cannot move through its segment, or uses the input up
in it, or pays for it and crosses the tick at its end.  So a walk ends, and what
it leaves of the input it leaves for one of three reasons: a hundred crossings,
the last price, or a segment that is closed.
-/

namespace SolanaProtocols

open PoolLayouts (U128)
open Pumpfun (U64)

namespace Clmm

section Charges

variable {maxIn feeRate input : Nat}

/-- An input that is enough after the fee is enough for the charge. -/
theorem charge_le_of_covers (below : feeRate < feeRateDenominator)
    (covers : maxIn ≤
      input * (feeRateDenominator - feeRate) / feeRateDenominator) :
    maxIn + maxIn * feeRate / (feeRateDenominator - feeRate) ≤ input := by
  obtain ⟨share, shareEq⟩ : ∃ share, feeRateDenominator - feeRate = share :=
    ⟨_, rfl⟩
  have total : feeRateDenominator = share + feeRate := by omega
  have positive : 0 < share := by omega
  rw [shareEq, Nat.le_div_iff_mul_le (by rw [feeRateDenominator]; norm_num)] at covers
  rw [shareEq]
  have feeLe := Nat.div_mul_le_self (maxIn * feeRate) share
  apply Nat.le_of_mul_le_mul_right _ positive
  calc
    (maxIn + maxIn * feeRate / share) * share =
        maxIn * share + maxIn * feeRate / share * share := Nat.add_mul _ _ _
    _ ≤ maxIn * share + maxIn * feeRate := Nat.add_le_add_left feeLe _
    _ = maxIn * feeRateDenominator := by rw [total, Nat.mul_add]
    _ ≤ input * share := covers

theorem covers_of_charge_lt (below : feeRate < feeRateDenominator)
    (more : maxIn + maxIn * feeRate / (feeRateDenominator - feeRate) < input) :
    maxIn ≤ input * (feeRateDenominator - feeRate) / feeRateDenominator := by
  obtain ⟨share, shareEq⟩ : ∃ share, feeRateDenominator - feeRate = share :=
    ⟨_, rfl⟩
  have total : feeRateDenominator = share + feeRate := by omega
  have positive : 0 < share := by omega
  rw [shareEq] at more
  rw [shareEq, Nat.le_div_iff_mul_le (by rw [feeRateDenominator]; norm_num)]
  have feeLt := Nat.lt_div_mul_add positive (a := maxIn * feeRate)
  calc
    maxIn * feeRateDenominator = maxIn * share + maxIn * feeRate := by
      rw [total, Nat.mul_add]
    _ ≤ maxIn * share + (maxIn * feeRate / share * share + share) :=
      Nat.add_le_add_left feeLt.le _
    _ = (maxIn + maxIn * feeRate / share + 1) * share := by ring
    _ ≤ input * share := Nat.mul_le_mul_right _ more

theorem amountAfterFee_le :
    input * (feeRateDenominator - feeRate) / feeRateDenominator ≤ input := by
  apply Nat.div_le_of_le_mul
  rw [Nat.mul_comm input]
  exact Nat.mul_le_mul_right _ (Nat.sub_le _ _)

end Charges

section Range

variable {math : PriceMath} {isBaseInput : Bool} {feeRate input : Nat}
  {segment : Segment}

theorem maxAmounts_of_not_beyond
    (notBeyond : ¬ Beyond isBaseInput segment.start segment.target) :
    maxAmounts math segment.start segment.target segment.liquidity isBaseInput =
      none := by
  cases isBaseInput with
  | true => exact if_pos (not_lt.mp notBeyond)
  | false => exact if_pos (not_lt.mp notBeyond)

theorem maxAmounts_of_beyond
    (beyond : Beyond isBaseInput segment.start segment.target) :
    ∃ maxOut, maxAmounts math segment.start segment.target segment.liquidity
      isBaseInput = some (segment.maxIn math isBaseInput, maxOut) := by
  cases isBaseInput with
  | true => exact ⟨_, if_neg (not_le.mpr beyond)⟩
  | false => exact ⟨_, if_neg (not_le.mpr beyond)⟩

theorem Segment.swap_of_closed (closed : ¬ segment.Open isBaseInput) :
    swapWithinTickRange math segment.start segment.target segment.liquidity input
      isBaseInput feeRate = ⟨0, 0, 0, segment.start, false⟩ := by
  rw [swapWithinTickRange]
  by_cases dry : segment.liquidity = 0
  · rw [if_pos dry]
  · rw [if_neg dry, maxAmounts_of_not_beyond fun beyond => closed ⟨dry, beyond⟩]

theorem Segment.swap_of_covers (isOpen : segment.Open isBaseInput)
    (covers : segment.maxIn math isBaseInput ≤
      input * (feeRateDenominator - feeRate) / feeRateDenominator) :
    ∃ produced, swapWithinTickRange math segment.start segment.target
      segment.liquidity input isBaseInput feeRate =
        ⟨segment.maxIn math isBaseInput, produced,
          segment.fee math isBaseInput feeRate, segment.target, true⟩ := by
  obtain ⟨maxOut, amounts⟩ := @maxAmounts_of_beyond math _ _ isOpen.2
  refine ⟨maxOut, ?_⟩
  rw [swapWithinTickRange, if_neg isOpen.1, amounts]
  exact if_pos covers

/-- A smaller input is used up in the segment. -/
theorem Segment.swap_of_short (isOpen : segment.Open isBaseInput)
    (short : input * (feeRateDenominator - feeRate) / feeRateDenominator <
      segment.maxIn math isBaseInput) :
    ∃ produced newSqrtPrice, swapWithinTickRange math segment.start segment.target
      segment.liquidity input isBaseInput feeRate =
        ⟨input * (feeRateDenominator - feeRate) / feeRateDenominator, produced,
          input - input * (feeRateDenominator - feeRate) / feeRateDenominator,
          newSqrtPrice, false⟩ := by
  obtain ⟨maxOut, amounts⟩ := @maxAmounts_of_beyond math _ _ isOpen.2
  rw [swapWithinTickRange, if_neg isOpen.1, amounts]
  simp only [if_neg (not_le.mpr short)]
  cases isBaseInput with
  | true =>
      have positive : segment.start ≠ 0 := (Nat.zero_lt_of_lt isOpen.2).ne'
      rw [if_pos rfl, computePartialSwapBaseInput,
        if_neg (not_or.mpr ⟨isOpen.1, positive⟩)]
      exact ⟨_, _, rfl⟩
  | false =>
      rw [if_neg Bool.false_ne_true, computePartialSwapQuoteInput, if_neg isOpen.1]
      exact ⟨_, _, rfl⟩

end Range

namespace SwapState

variable {math : PriceMath} {isBaseInput : Bool} {feeRate : Nat}
  {state : SwapState}

/-- The segment that a pass is in. -/
def segment (math : PriceMath) (isBaseInput : Bool) (state : SwapState) :
    Segment where
  start := state.sqrtPrice
  target := math.tickToSqrtPriceX64 (state.nextTick isBaseInput)
  liquidity := state.liquidity

/-- The road ahead. -/
def road (math : PriceMath) (isBaseInput : Bool) (state : SwapState) :
    List Segment :=
  Clmm.road math isBaseInput state.sqrtPrice state.liquidity state.tickIter

/-- The segment paid for and moved through. -/
def paid (math : PriceMath) (isBaseInput : Bool) (feeRate produced : Nat)
    (state : SwapState) : SwapState :=
  let segment := state.segment math isBaseInput
  { state with
    remainingIn := state.remainingIn - segment.charge math isBaseInput feeRate
    totalOut := state.totalOut + produced
    totalFee := state.totalFee + segment.fee math isBaseInput feeRate
    sqrtPrice := segment.target }

theorem road_of_nil (last : state.tickIter = []) :
    state.road math isBaseInput = [state.segment math isBaseInput] := by
  rw [road, segment, nextTick, last]
  rfl

theorem road_of_cons {next : TickState} {rest : List TickState} {produced : Nat}
    (upcoming : state.tickIter = next :: rest) :
    state.road math isBaseInput = state.segment math isBaseInput ::
      ((state.paid math isBaseInput feeRate produced).cross isBaseInput).road math
        isBaseInput := by
  have change : state.liquidity + crossingChange isBaseInput next =
      if isBaseInput then state.liquidity - next.liquidityNet
      else state.liquidity + next.liquidityNet := by
    cases isBaseInput with
    | true => exact (sub_eq_add_neg _ _).symm
    | false => rfl
  simp only [road, segment, nextTick, cross, paid, upcoming, Clmm.road, change]

theorem exists_road_eq_cons :
    ∃ rest, state.road math isBaseInput =
      state.segment math isBaseInput :: rest := by
  cases upcoming : state.tickIter with
  | nil => exact ⟨[], road_of_nil upcoming⟩
  | cons next rest => exact ⟨_, @road_of_cons _ _ 0 _ _ _ 0 upcoming⟩

theorem pass_of_done (done : state.remainingIn = 0) :
    swapPass math isBaseInput feeRate state = .leave state := by
  rw [swapPass, if_neg (by omega)]

theorem pass_of_closed (left : 0 < state.remainingIn)
    (closed : ¬ (state.segment math isBaseInput).Open isBaseInput) :
    ∃ tick, swapPass math isBaseInput feeRate state =
      .leave { state with tick := tick } := by
  refine ⟨math.tickFromSqrtPriceX64 state.sqrtPrice, ?_⟩
  have range := @Segment.swap_of_closed math _ feeRate state.remainingIn _ closed
  rw [swapPass, if_pos left]
  simp only [segment] at range
  simp only [range, Bool.false_eq_true, if_false, Nat.add_zero, Nat.sub_zero]

theorem pass_of_short (left : 0 < state.remainingIn)
    (isOpen : (state.segment math isBaseInput).Open isBaseInput)
    (short : state.remainingIn * (feeRateDenominator - feeRate) /
      feeRateDenominator < (state.segment math isBaseInput).maxIn math isBaseInput) :
    ∃ stop, swapPass math isBaseInput feeRate state = .leave stop ∧
      stop.remainingIn = 0 ∧
        stop.totalFee ≤ state.totalFee + state.remainingIn := by
  obtain ⟨produced, price, range⟩ := Segment.swap_of_short isOpen short
  have share := @amountAfterFee_le feeRate state.remainingIn
  rw [swapPass, if_pos left]
  simp only [segment] at range
  simp only [range, Bool.false_eq_true, if_false]
  generalize state.remainingIn * (feeRateDenominator - feeRate) /
    feeRateDenominator = amountAfterFee at share
  refine ⟨_, rfl, ?_, ?_⟩
  · exact Nat.sub_eq_zero_of_le (by omega)
  · exact Nat.add_le_add_left (Nat.sub_le _ _) _

/-- The input that is left is enough for the segment, which is open. -/
structure Covers (math : PriceMath) (isBaseInput : Bool) (feeRate : Nat)
    (state : SwapState) : Prop where
  left : 0 < state.remainingIn
  isOpen : (state.segment math isBaseInput).Open isBaseInput
  enough : (state.segment math isBaseInput).maxIn math isBaseInput ≤
    state.remainingIn * (feeRateDenominator - feeRate) / feeRateDenominator

theorem pass_of_covers (covers : state.Covers math isBaseInput feeRate) :
    ∃ produced, swapPass math isBaseInput feeRate state =
      let crossed := (state.paid math isBaseInput feeRate produced).cross isBaseInput
      if 100 < crossed.tickCrossings then .leave crossed else .next crossed := by
  obtain ⟨produced, range⟩ := Segment.swap_of_covers covers.isOpen covers.enough
  refine ⟨produced, ?_⟩
  rw [swapPass, if_pos covers.left]
  simp only [segment] at range
  simp only [range, if_true]
  rfl

@[simp] theorem cross_remainingIn :
    (state.cross isBaseInput).remainingIn = state.remainingIn := by
  unfold cross
  split <;> rfl

@[simp] theorem cross_totalFee :
    (state.cross isBaseInput).totalFee = state.totalFee := by
  unfold cross
  split <;> rfl

theorem cross_of_nil (last : state.tickIter = []) :
    state.cross isBaseInput = state := by
  rw [cross, last]

theorem cross_of_cons {next : TickState} {rest : List TickState}
    (upcoming : state.tickIter = next :: rest) :
    (state.cross isBaseInput).tickCrossings = state.tickCrossings + 1 ∧
      (state.cross isBaseInput).tickIter = rest := by
  rw [cross, upcoming]
  exact ⟨rfl, rfl⟩

end SwapState

/-- An input gets past a segment when it can move through it and pay for it. -/
theorem getsTo_cons_iff {math : PriceMath} {isBaseInput : Bool}
    {feeRate crossings input : Nat} {segment here : Segment}
    {segments before after : List Segment} :
    GetsTo math isBaseInput feeRate (segment :: segments) crossings input
        (segment :: before) here after ↔
      segment.Open isBaseInput ∧
        GetsTo math isBaseInput feeRate segments (crossings + 1)
          (input - segment.charge math isBaseInput feeRate) before here after := by
  constructor
  · rintro ⟨split, passable, few, paid⟩
    rw [List.map_cons, List.sum_cons] at paid
    rw [List.length_cons] at few
    exact ⟨passable segment List.mem_cons_self, (List.cons.inj split).2,
      fun other member => passable other (List.mem_cons_of_mem _ member),
      by omega, by omega⟩
  · rintro ⟨isOpen, split, passable, few, paid⟩
    refine ⟨congrArg (segment :: ·) split, ?_, ?_, ?_⟩
    · exact List.forall_mem_cons.mpr ⟨isOpen, passable⟩
    · rw [List.length_cons]
      omega
    · rw [List.map_cons, List.sum_cons]
      omega

namespace SwapState

variable {math : PriceMath} {isBaseInput : Bool} {feeRate : Nat}
  {state stop : SwapState}

/-- Walk on from a state. -/
def run (math : PriceMath) (isBaseInput : Bool) (feeRate fuel : Nat) :
    SwapState → Option SwapState :=
  PassLoop.run (fun state => some (swapPass math isBaseInput feeRate state)) fuel

theorem getsTo_iff_crossed {next : TickState} {rest : List TickState}
    {produced : Nat} {before after : List Segment} {here : Segment}
    (upcoming : state.tickIter = next :: rest) :
    GetsTo math isBaseInput feeRate (state.road math isBaseInput)
        state.tickCrossings state.remainingIn
        (state.segment math isBaseInput :: before) here after ↔
      (state.segment math isBaseInput).Open isBaseInput ∧
        let crossed :=
          (state.paid math isBaseInput feeRate produced).cross isBaseInput
        GetsTo math isBaseInput feeRate (crossed.road math isBaseInput)
          crossed.tickCrossings crossed.remainingIn before here after := by
  obtain ⟨crossings, -⟩ := @cross_of_cons isBaseInput
    (state.paid math isBaseInput feeRate produced) next rest upcoming
  rw [@road_of_cons _ _ feeRate _ _ _ produced upcoming, getsTo_cons_iff]
  simp only [crossings, cross_remainingIn]
  rfl

/-- A segment that an input gets to and that is closed is where the walk
stops. -/
theorem exists_stop_of_getsTo {before after : List Segment} {here : Segment}
    (below : feeRate < feeRateDenominator)
    (gets : GetsTo math isBaseInput feeRate (state.road math isBaseInput)
      state.tickCrossings state.remainingIn before here after)
    (closed : ¬ here.Open isBaseInput) :
    ∃ fuel stop, state.run math isBaseInput feeRate fuel = some stop ∧
      0 < stop.remainingIn ∧ stop.tickCrossings ≤ 100 ∧
        stop.sqrtPrice = here.start := by
  induction before generalizing state with
  | nil =>
      obtain ⟨split, -, few, paid⟩ := gets
      obtain ⟨rest, roadEq⟩ := @exists_road_eq_cons math isBaseInput state
      obtain ⟨rfl, -⟩ := List.cons.inj (roadEq.symm.trans split)
      obtain ⟨tick, pass⟩ := @pass_of_closed _ _ feeRate _ paid closed
      exact ⟨1, _, PassLoop.run_leave (congrArg some pass), paid, few, rfl⟩
  | cons segment before ih =>
      cases upcoming : state.tickIter with
      | nil =>
          have single := (road_of_nil upcoming).symm.trans gets.split
          simp at single
      | cons next rest =>
          have head : state.segment math isBaseInput = segment :=
            (List.cons.inj ((@road_of_cons _ _ 0 _ _ _ 0 upcoming).symm.trans
              gets.split)).1
          subst head
          have left := gets.paid
          rw [List.map_cons, List.sum_cons] at left
          have covers : state.Covers math isBaseInput feeRate :=
            ⟨by omega, gets.passable _ List.mem_cons_self,
              covers_of_charge_lt below (lt_of_le_of_lt (Nat.le_add_right _ _) left)⟩
          obtain ⟨produced, pass⟩ := pass_of_covers covers
          obtain ⟨-, further⟩ := (@getsTo_iff_crossed _ _ _ _ _ _ produced _ _ _
            upcoming).mp gets
          have few := further.crossings_le
          rw [if_neg (by omega)] at pass
          obtain ⟨fuel, stop, stops, rest⟩ := ih further
          exact ⟨fuel + 1, stop,
            (PassLoop.run_next (congrArg some pass)).trans stops, rest⟩

/-- How a walk from a state ends. -/
structure Settled (math : PriceMath) (isBaseInput : Bool) (feeRate : Nat)
    (state stop : SwapState) : Prop where
  conserved : stop.totalFee + stop.remainingIn ≤ state.totalFee + state.remainingIn
  reason : 0 < stop.remainingIn →
    100 < stop.tickCrossings ∨ stop.sqrtPrice = limitPrice math isBaseInput ∨
      ∃ before here after,
        GetsTo math isBaseInput feeRate (state.road math isBaseInput)
            state.tickCrossings state.remainingIn before here after ∧
          ¬ here.Open isBaseInput ∧ stop.sqrtPrice = here.start

theorem exists_leave_of_not_covers (few : state.tickCrossings ≤ 100)
    (uncovered : ¬ state.Covers math isBaseInput feeRate) :
    ∃ stop, swapPass math isBaseInput feeRate state = .leave stop ∧
      Settled math isBaseInput feeRate state stop ∧
        (0 < stop.remainingIn → stop.sqrtPrice = state.sqrtPrice) := by
  rcases Nat.eq_zero_or_pos state.remainingIn with done | left
  · exact ⟨state, pass_of_done done, ⟨le_rfl, by omega⟩, fun _ => rfl⟩
  by_cases isOpen : (state.segment math isBaseInput).Open isBaseInput
  · have short := not_le.mp fun enough => uncovered ⟨left, isOpen, enough⟩
    obtain ⟨stop, pass, none, feeLe⟩ := pass_of_short left isOpen short
    exact ⟨stop, pass, ⟨by omega, by omega⟩, by omega⟩
  · obtain ⟨tick, pass⟩ := @pass_of_closed _ _ feeRate _ left isOpen
    obtain ⟨rest, roadEq⟩ := @exists_road_eq_cons math isBaseInput state
    exact ⟨_, pass, ⟨le_rfl, fun _ => .inr (.inr ⟨[], _, rest,
      ⟨roadEq, by simp, few, left⟩, isOpen, rfl⟩)⟩, fun _ => rfl⟩

theorem conserved_of_covers {produced : Nat} (below : feeRate < feeRateDenominator)
    (covers : state.Covers math isBaseInput feeRate) :
    (state.paid math isBaseInput feeRate produced).totalFee +
        (state.paid math isBaseInput feeRate produced).remainingIn ≤
      state.totalFee + state.remainingIn := by
  have chargeLe : (state.segment math isBaseInput).charge math isBaseInput feeRate ≤
      state.remainingIn := charge_le_of_covers below covers.enough
  simp only [paid, Segment.charge] at chargeLe ⊢
  omega

theorem not_covers_of_last {produced : Nat} (last : state.tickIter = []) :
    ¬ (state.paid math isBaseInput feeRate produced).Covers math isBaseInput
      feeRate := by
  rintro ⟨-, ⟨-, beyond⟩, -⟩
  simp only [segment, paid, nextTick, last] at beyond
  cases isBaseInput with
  | true => exact lt_irrefl _ beyond
  | false => exact lt_irrefl _ beyond

theorem sqrtPrice_of_last {produced : Nat} (last : state.tickIter = []) :
    (state.paid math isBaseInput feeRate produced).sqrtPrice =
      limitPrice math isBaseInput := by
  simp only [paid, segment, nextTick, last]
  rfl

/-- A walk that goes on from where it crossed ends for the same reason. -/
theorem Settled.of_crossed {next : TickState} {rest : List TickState}
    {produced : Nat} (below : feeRate < feeRateDenominator)
    (covers : state.Covers math isBaseInput feeRate)
    (upcoming : state.tickIter = next :: rest)
    (settled : Settled math isBaseInput feeRate
      ((state.paid math isBaseInput feeRate produced).cross isBaseInput) stop) :
    Settled math isBaseInput feeRate state stop where
  conserved := by
    have before := settled.conserved
    rw [cross_totalFee, cross_remainingIn] at before
    exact before.trans (conserved_of_covers below covers)
  reason left := by
    rcases settled.reason left with many | last |
      ⟨before, here, after, gets, closed, stops⟩
    · exact .inl many
    · exact .inr (.inl last)
    · exact .inr (.inr ⟨_ :: before, here, after,
        (getsTo_iff_crossed upcoming).mpr ⟨covers.isOpen, gets⟩, closed, stops⟩)

/-- Every walk ends, with a reason for what it leaves. -/
theorem exists_settled (below : feeRate < feeRateDenominator)
    (few : state.tickCrossings ≤ 100) :
    ∃ fuel stop, state.run math isBaseInput feeRate fuel = some stop ∧
      Settled math isBaseInput feeRate state stop := by
  generalize upcoming : state.tickIter = ticks
  induction ticks generalizing state with
  | nil =>
      by_cases covers : state.Covers math isBaseInput feeRate
      · obtain ⟨produced, pass⟩ := pass_of_covers covers
        rw [@cross_of_nil isBaseInput (state.paid math isBaseInput feeRate produced)
          upcoming] at pass
        have few' : (state.paid math isBaseInput feeRate produced).tickCrossings ≤
          100 := few
        simp only [if_neg (not_lt.mpr few')] at pass
        obtain ⟨stop, leaves, settled, stays⟩ := exists_leave_of_not_covers few'
          (@not_covers_of_last _ _ feeRate _ produced upcoming)
        refine ⟨2, stop, (PassLoop.run_next (congrArg some pass)).trans
          (PassLoop.run_leave (congrArg some leaves)), ?_, fun left => ?_⟩
        · exact settled.conserved.trans (conserved_of_covers below covers)
        · exact .inr (.inl ((stays left).trans (sqrtPrice_of_last upcoming)))
      · obtain ⟨stop, pass, settled, -⟩ := exists_leave_of_not_covers few covers
        exact ⟨1, stop, PassLoop.run_leave (congrArg some pass), settled⟩
  | cons next rest ih =>
      by_cases covers : state.Covers math isBaseInput feeRate
      · obtain ⟨produced, pass⟩ := pass_of_covers covers
        obtain ⟨-, upcoming'⟩ := @cross_of_cons isBaseInput
          (state.paid math isBaseInput feeRate produced) next rest upcoming
        by_cases many : 100 < ((state.paid math isBaseInput feeRate produced).cross
            isBaseInput).tickCrossings
        · rw [if_pos many] at pass
          exact ⟨1, _, PassLoop.run_leave (congrArg some pass),
            .of_crossed below covers upcoming ⟨le_rfl, fun _ => .inl many⟩⟩
        · rw [if_neg many] at pass
          obtain ⟨fuel, stop, stops, settled⟩ := ih (not_lt.mp many) upcoming'
          exact ⟨fuel + 1, stop,
            (PassLoop.run_next (congrArg some pass)).trans stops,
              settled.of_crossed below covers upcoming⟩
      · obtain ⟨stop, pass, settled, -⟩ := exists_leave_of_not_covers few covers
        exact ⟨1, stop, PassLoop.run_leave (congrArg some pass), settled⟩

theorem result_of_conserved {amountIn : U64}
    (conserved : stop.totalFee + stop.remainingIn ≤ amountIn.toNat) :
    (stop.result amountIn).amountIn.toNat + stop.remainingIn = amountIn.toNat ∧
      (stop.result amountIn).feeAmount.toNat = stop.totalFee := by
  have small := amountIn.isLt
  simp only [result, BitVec.toNat_ofNat]
  rw [Nat.mod_eq_of_lt (by omega), Nat.mod_eq_of_lt (by omega)]
  omega

theorem conserved_of_run {fuel : Nat} {pool : PoolWithTickArrays} {amountIn : U64}
    (below : feeRate < feeRateDenominator)
    (stops : (SwapState.start pool amountIn isBaseInput).run math isBaseInput
      feeRate fuel = some stop) :
    stop.totalFee + stop.remainingIn ≤ amountIn.toNat := by
  obtain ⟨fuel', stop', stops', settled⟩ :=
    @exists_settled math isBaseInput feeRate (.start pool amountIn isBaseInput) below
      (Nat.zero_le _)
  cases PassLoop.run_unique stops stops'
  exact settled.conserved.trans (Nat.zero_add _).le

end SwapState

section Reasons

variable {math : PriceMath} {isBaseInput : Bool} {feeRate : Nat}
  {pool : PoolWithTickArrays} {amountIn : U64}

/-- A swap that gets to a closed segment stops with liquidity ahead. -/
theorem not_stopsForAReason_of_stalls
    (increasing : StrictMonoOn math.tickToSqrtPriceX64 tickRange)
    (placed : pool.Placed math) (below : feeRate < feeRateDenominator)
    (stalls : Stalls math isBaseInput feeRate pool amountIn) :
    ¬ StopsForAReason math isBaseInput feeRate pool amountIn := by
  obtain ⟨before, here, after, gets, closed, segment, member, offers⟩ := stalls
  rintro ⟨fuel, result, unconsumed, computed, taken, -, reason⟩
  obtain ⟨stop, stops, rfl⟩ := Option.map_eq_some_iff.mp computed
  obtain ⟨fuel', stop', stops', left, few, price⟩ :=
    @SwapState.exists_stop_of_getsTo math isBaseInput feeRate
      (.start pool amountIn isBaseInput) _ _ _ below gets closed
  cases PassLoop.run_unique stops stops'
  have unconsumedEq : unconsumed = stop.remainingIn := by
    obtain ⟨takenEq, -⟩ := SwapState.result_of_conserved
      (SwapState.conserved_of_run below stops)
    omega
  subst unconsumedEq
  have ahead : LiquidityAhead math isBaseInput pool here.start :=
    (placed.liquidityAhead_iff increasing gets.split).mpr
      ⟨segment, List.mem_cons_of_mem _ member, offers⟩
  rw [← price] at ahead
  rcases reason left with many | nothing
  · exact not_le.mpr many few
  · exact nothing ahead

/-- A swap that leaves some of its input otherwise has no liquidity ahead. -/
theorem stopsForAReason_of_not_stalls
    (increasing : StrictMonoOn math.tickToSqrtPriceX64 tickRange)
    (placed : pool.Placed math) (below : feeRate < feeRateDenominator)
    (free : ¬ Stalls math isBaseInput feeRate pool amountIn) :
    StopsForAReason math isBaseInput feeRate pool amountIn := by
  obtain ⟨fuel, stop, stops, settled⟩ :=
    @SwapState.exists_settled math isBaseInput feeRate
      (.start pool amountIn isBaseInput) below (Nat.zero_le _)
  have conserved := SwapState.conserved_of_run below stops
  obtain ⟨taken, fee⟩ := SwapState.result_of_conserved conserved
  refine ⟨fuel, stop.result amountIn, stop.remainingIn,
    Option.map_eq_some_iff.mpr ⟨stop, stops, rfl⟩, taken, by omega, fun left => ?_⟩
  rcases settled.reason left with many | last |
    ⟨before, here, after, gets, closed, price⟩
  · exact .inl many
  · refine .inr ?_
    rw [show (stop.result amountIn).sqrtPriceAfter = _ from last]
    exact PoolWithTickArrays.not_liquidityAhead_limitPrice increasing
  · refine .inr ?_
    rw [show (stop.result amountIn).sqrtPriceAfter = _ from price,
      placed.liquidityAhead_iff increasing gets.split]
    rintro ⟨segment, member, offers⟩
    rcases List.mem_cons.mp member with rfl | later
    · exact closed offers.isOpen
    · exact free ⟨before, here, after, gets, closed, segment, later, offers⟩

/-- A swap stops for a reason unless it gets to a segment that it cannot move
through, without liquidity or with the price on the tick to cross, before one
that has liquidity. -/
theorem stopsForAReason_iff
    (increasing : StrictMonoOn math.tickToSqrtPriceX64 tickRange)
    (placed : pool.Placed math) (below : feeRate < feeRateDenominator) :
    StopsForAReason math isBaseInput feeRate pool amountIn ↔
      ¬ Stalls math isBaseInput feeRate pool amountIn :=
  ⟨fun stops stalls =>
      not_stopsForAReason_of_stalls increasing placed below stalls stops,
    stopsForAReason_of_not_stalls increasing placed below⟩

end Reasons

/-- Prices on a straight line through the price of tick `0`. -/
def straightMath : PriceMath where
  tickToSqrtPriceX64 tick := (2 ^ 64 + tick * 2 ^ 32).toNat
  tickFromSqrtPriceX64 sqrtPrice := (sqrtPrice - 2 ^ 64) / 2 ^ 32
  getDeltaAmount0 lower upper liquidity := (upper - lower) * liquidity.toNat
  getDeltaAmount1 lower upper liquidity := (upper - lower) * liquidity.toNat
  baseInputPrice sqrtPrice liquidity amountIn :=
    sqrtPrice - amountIn / liquidity.toNat
  quoteInputDelta liquidity amountIn := amountIn / liquidity.toNat

theorem strictMonoOn_straightMath :
    StrictMonoOn straightMath.tickToSqrtPriceX64 tickRange := by
  rintro first ⟨low, -⟩ second ⟨-, -⟩ less
  simp only [straightMath]
  omega

/-- A pool at the price of tick `0`, which is the current tick. -/
def poolAtZero (tickArrays : List TickArrayState) : PoolWithTickArrays where
  pool := { (default : PoolLayouts.ClmmPoolState) with
    sqrtPriceX64 := 0x10000000000000000
    liquidity := 1000
    tickCurrent := 0 }
  tickArrays := tickArrays

theorem placed_poolAtZero (tickArrays : List TickArrayState) :
    (poolAtZero tickArrays).Placed straightMath where
  next_mem := show (0 : BitVec 32).toInt + 1 ∈ tickRange from
    ⟨by decide, by decide⟩
  current_le := show straightMath.tickToSqrtPriceX64 (0 : BitVec 32).toInt ≤
    (0x10000000000000000 : U128).toNat by decide
  lt_next := show (0x10000000000000000 : U128).toNat <
    straightMath.tickToSqrtPriceX64 ((0 : BitVec 32).toInt + 1) by decide

/-- Ticks of which the first is initialized. -/
def tickArrayFrom (start : Int) : TickArrayState where
  ticks := Vector.ofFn fun index =>
    { tick := BitVec.ofInt 32 (start + index)
      liquidityNet := if index = 0 then 500 else 0
      liquidityGross := if index = 0 then 500 else 0 }

/-- The prices down to tick `-60`. -/
def upperSegment : Segment :=
  ⟨2 ^ 64, straightMath.tickToSqrtPriceX64 (-60), 1000⟩

/-- The prices below tick `-60`. -/
def lowerSegment : Segment :=
  ⟨straightMath.tickToSqrtPriceX64 (-60), limitPrice straightMath true, 500⟩

theorem road_lowerTicks :
    (poolAtZero [tickArrayFrom (-60)]).road straightMath true =
      [upperSegment, lowerSegment] := by
  have single : (poolAtZero [tickArrayFrom (-60)]).initializedTicks =
      [⟨-60, 500, 500⟩] := by
    decide
  rw [PoolWithTickArrays.road, PoolWithTickArrays.sortedTicks, single, if_pos rfl,
    List.mergeSort_singleton]
  rfl

theorem open_upperSegment : upperSegment.Open true :=
  ⟨by decide, show straightMath.tickToSqrtPriceX64 (-60) < 2 ^ 64 by decide⟩

/-- The swap crosses tick `-60` and goes on in the segment below it. -/
theorem stopsForAReason_poolAtZero :
    GetsTo straightMath true 2500
        ((poolAtZero [tickArrayFrom (-60)]).road straightMath true) 0 1000000000000000
        [upperSegment] lowerSegment [] ∧
      StopsForAReason straightMath true 2500 (poolAtZero [tickArrayFrom (-60)])
        1000000000000000 := by
  refine ⟨⟨road_lowerTicks, List.forall_mem_singleton.mpr open_upperSegment,
    by decide, by decide⟩, ?_⟩
  rw [stopsForAReason_iff strictMonoOn_straightMath
    (placed_poolAtZero [tickArrayFrom (-60)]) (by decide)]
  rintro ⟨before, here, after, gets, closed, segment, member, -⟩
  have split := road_lowerTicks.symm.trans gets.split
  cases before with
  | nil =>
      cases split
      exact closed open_upperSegment
  | cons first before =>
      obtain ⟨-, rest⟩ := List.cons_eq_cons.mp split
      cases before with
      | nil =>
          cases rest
          cases member
      | cons second before =>
          obtain ⟨-, nothing⟩ := List.cons_eq_cons.mp rest
          exact List.append_ne_nil_of_right_ne_nil _ (List.cons_ne_nil _ _) nothing.symm

/-- Ticks `0` to `59`, of which the first is initialized. -/
def firstTickArray : TickArrayState :=
  tickArrayFrom 0

theorem nodup_firstTickArray :
    (([firstTickArray].flatMap (·.ticks.toList)).map (·.tick)).Nodup := by
  decide

theorem initializedTicks_firstTickArray :
    (poolAtZero [firstTickArray]).initializedTicks = [⟨0, 500, 500⟩] := by
  decide

theorem stalls_firstTickArray :
    Stalls straightMath true 2500 (poolAtZero [firstTickArray]) 1000000 := by
  have walked : (poolAtZero [firstTickArray]).sortedTicks true =
      [⟨0, 500, 500⟩] := by
    rw [PoolWithTickArrays.sortedTicks, initializedTicks_firstTickArray, if_pos rfl,
      List.mergeSort_singleton]
    decide
  refine ⟨[], ⟨2 ^ 64, 2 ^ 64, 1000⟩, [⟨2 ^ 64, limitPrice straightMath true, 500⟩],
    ⟨?_, by simp, by decide, by decide⟩, fun isOpen => lt_irrefl _ isOpen.2, ?_⟩
  · rw [PoolWithTickArrays.road, walked]
    rfl
  · have ahead : Ahead straightMath true (2 ^ 64) (-1) :=
      show straightMath.tickToSqrtPriceX64 (-1) < 2 ^ 64 by decide
    exact ⟨_, List.mem_singleton_self _, by decide, -1, ⟨by decide, by decide⟩,
      ahead, not_ahead_limitPrice strictMonoOn_straightMath ⟨by decide, by decide⟩⟩

/-- Half of the liquidity goes on below the current tick, and a swap down does
not get there. -/
theorem not_stopsForAReason_firstTickArray :
    ¬ ∀ (math : PriceMath) (pool : PoolWithTickArrays) (isBaseInput : Bool)
      (feeRate : Nat) (amountIn : U64),
      StrictMonoOn math.tickToSqrtPriceX64 tickRange →
        (∀ lower upper liquidity, lower < upper → liquidity ≠ 0 →
          0 < math.getDeltaAmount0 lower upper liquidity ∧
            0 < math.getDeltaAmount1 lower upper liquidity) →
          ((pool.tickArrays.flatMap (·.ticks.toList)).map (·.tick)).Nodup →
            pool.Placed math → feeRate < feeRateDenominator →
              StopsForAReason math isBaseInput feeRate pool amountIn := by
  intro claimed
  refine not_stopsForAReason_of_stalls strictMonoOn_straightMath
    (placed_poolAtZero [firstTickArray]) (by decide) stalls_firstTickArray
    (claimed straightMath _ true 2500 1000000 strictMonoOn_straightMath ?_
      nodup_firstTickArray (placed_poolAtZero _) (by decide))
  intro lower upper liquidity less liquid
  have positive : 0 < liquidity.toNat :=
    Nat.pos_of_ne_zero fun zero => liquid (BitVec.eq_of_toNat_eq zero)
  have amount : 0 < (upper - lower) * liquidity.toNat :=
    Nat.mul_pos (Nat.sub_pos_of_lt less) positive
  exact ⟨amount, amount⟩

end Clmm

end SolanaProtocols
