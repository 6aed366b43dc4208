import SolanaProtocols.DlmmQuoteInverse

/-!
# Exact-in quotes are monotone

Two exact-in walks over one pool visit the same bins until the smaller amount is
used up.  In every bin they share, the larger amount uses at least as much, buys
at least as much and pays at least as much in fees; after that only the larger
walk goes on, and its totals only grow.  The swaps of one walk use up its amount
exactly.
-/

namespace SolanaProtocols

namespace MeteoraDlmm

open ProportionalCharge

section Swaps

variable {swapForY : Bool} {array after : BinArray} {walk next : Walk}

/-- The swap a pass makes in the active bin, unless the bin is empty. -/
def swapInBin (swapForY : Bool) (activeArray : BinArray) (walk : Walk) :
    Except String (Option BinSwapResult) := do
  let (pair, price, activeBin) ← openActiveBin activeArray walk.pair
  if !isEmpty activeBin (!swapForY) then
    let (result, _) ←
      binSwap activeBin walk.amount price swapForY pair none
    return some result
  else
    return none

/-- The swap made from a loop head. -/
def swapAt (swapForY : Bool) : QuotePoint → Option BinSwapResult
  | .search _ => none
  | .bins activeArray walk =>
      if !isBinIdWithinRange activeArray walk.pair.activeId ∨
          walk.amount = 0 then
        none
      else
        ((swapInBin swapForY activeArray walk).toOption).join

/-- Input, fees included, that swaps used. -/
def amountUsed (swaps : List BinSwapResult) : Nat :=
  (swaps.map (·.amountInWithFees)).sum

def amountBought (swaps : List BinSwapResult) : Nat :=
  (swaps.map (·.amountOut)).sum

def feePaid (swaps : List BinSwapResult) : Nat :=
  (swaps.map (·.fee)).sum

section Sums

variable (swap : BinSwapResult)

theorem amountUsed_singleton : amountUsed [swap] = swap.amountInWithFees := by
  simp [amountUsed]

theorem amountBought_singleton : amountBought [swap] = swap.amountOut := by
  simp [amountBought]

theorem feePaid_singleton : feePaid [swap] = swap.fee := by
  simp [feePaid]

end Sums

/-- The swaps account for the change of the loop variables. -/
structure AccountsFor (swaps : List BinSwapResult) (walk last : Walk) : Prop where
  used : last.amount + amountUsed swaps = walk.amount
  bought : last.total = walk.total + amountBought swaps
  paid : last.totalFee = walk.totalFee + feePaid swaps
  feeLe : feePaid swaps ≤ amountUsed swaps

theorem AccountsFor.congr {swaps : List BinSwapResult} {filled last : Walk}
    (accounts : AccountsFor swaps walk filled) (amountEq : last.amount = filled.amount)
    (totalEq : last.total = filled.total)
    (feeEq : last.totalFee = filled.totalFee) : AccountsFor swaps walk last where
  used := by rw [amountEq, accounts.used]
  bought := by rw [totalEq, accounts.bought]
  paid := by rw [feeEq, accounts.paid]
  feeLe := accounts.feeLe

theorem AccountsFor.refl (walk : Walk) : AccountsFor [] walk walk where
  used := by rw [amountUsed, List.map_nil, List.sum_nil, Nat.add_zero]
  bought := by rw [amountBought, List.map_nil, List.sum_nil, Nat.add_zero]
  paid := by rw [feePaid, List.map_nil, List.sum_nil, Nat.add_zero]
  feeLe := by rw [amountUsed, feePaid, List.map_nil, List.map_nil]

theorem AccountsFor.cons {swap : Option BinSwapResult}
    {swaps : List BinSwapResult} {last : Walk}
    (first : AccountsFor swap.toList walk next) (rest : AccountsFor swaps next last) :
    AccountsFor (swap.toList ++ swaps) walk last := by
  obtain ⟨used, bought, paid, feeLe⟩ := first
  obtain ⟨used', bought', paid', feeLe'⟩ := rest
  have split : amountUsed (swap.toList ++ swaps) =
        amountUsed swap.toList + amountUsed swaps ∧
      amountBought (swap.toList ++ swaps) =
        amountBought swap.toList + amountBought swaps ∧
      feePaid (swap.toList ++ swaps) = feePaid swap.toList + feePaid swaps := by
    simp [amountUsed, amountBought, feePaid]
  obtain ⟨usedEq, boughtEq, paidEq⟩ := split
  constructor <;> omega

theorem AccountsFor.grows {swaps : List BinSwapResult} {last : Walk}
    (accounts : AccountsFor swaps walk last) :
    walk.total ≤ last.total ∧ walk.totalFee ≤ last.totalFee := by
  rw [accounts.bought, accounts.paid]
  exact ⟨Nat.le_add_right _ _, Nat.le_add_right _ _⟩

theorem exactInFill_accounts {bin stored : Bin} {price : Nat} {filled : Walk}
    (pricePos : 0 < price)
    (ok : exactInFill swapForY bin price walk = .ok (filled, stored)) :
    ∃ result, binSwap bin walk.amount price swapForY walk.pair none =
        .ok (result, stored) ∧ AccountsFor [result] walk filled := by
  obtain ⟨result, swapped, enough, rfl⟩ := exactInFill_cases ok
  obtain ⟨rate, rateEq, -, -, feeEq⟩ := binSwap_cases pricePos swapped
  have feeLe := feeIncluded_le (getTotalFee_lt rateEq) result.amountInWithFees
  rw [← feeEq] at feeLe
  refine ⟨result, swapped, ?_, ?_, ?_, ?_⟩
  · rw [amountUsed_singleton]
    exact Nat.sub_add_cancel enough
  · rw [amountBought_singleton]
  · rw [feePaid_singleton]
  · rwa [amountUsed_singleton, feePaid_singleton]

/-- A pass changes the loop variables by the swap it makes. -/
theorem binPass_accounts
    (passed : binPass exactInFill swapForY array walk = .ok (after, next)) :
    ∃ swap, swapInBin swapForY array walk = .ok swap ∧
      AccountsFor swap.toList walk next := by
  obtain ⟨pair, bin, price, priced, filled, stored, pairEq, binEq, priceEq,
    fills, -, nextEq⟩ := binPass_cases passed
  have sameAmounts : next.amount = filled.amount ∧ next.total = filled.total ∧
      next.totalFee = filled.totalFee := by
    split_ifs at nextEq
    · obtain ⟨_, -, rfl⟩ := nextEq
      exact ⟨rfl, rfl, rfl⟩
    · subst nextEq
      exact ⟨rfl, rfl, rfl⟩
  obtain ⟨amountEq, totalEq, feeEq⟩ := sameAmounts
  have opened : openActiveBin array walk.pair = .ok (pair, price, priced) := by
    simp only [openActiveBin, bind_eq_ok_iff]
    exact ⟨pair, pairEq, bin, binEq, (price, priced), priceEq, rfl⟩
  simp only [swapInBin, bind_eq_ok_iff]
  by_cases empty : isEmpty priced (!swapForY)
  · rw [if_pos empty] at fills
    obtain ⟨rfl, -⟩ := fills
    refine ⟨none, ⟨_, opened, ?_⟩, ?_⟩
    · simp [empty, pure, Except.pure]
    · exact (AccountsFor.refl walk).congr amountEq totalEq feeEq
  · rw [if_neg empty] at fills
    obtain ⟨result, swapped, accounts⟩ :=
      exactInFill_accounts (getOrStoreBinPrice_pos priceEq) fills
    refine ⟨some result, ⟨_, opened, ?_⟩, ?_⟩
    · simp only [Bool.not_eq_true] at empty
      simp only at swapped
      simp [empty, swapped, bind, Except.bind, pure, Except.pure]
    · exact AccountsFor.congr ⟨accounts.used, accounts.bought, accounts.paid,
        accounts.feeLe⟩ amountEq totalEq feeEq

end Swaps

section Runs

variable {inputs : QuoteInputs} {searchFuel fuel more : Nat}
variable {point next other : QuotePoint} {last last' : Walk}

/-- The swaps a run makes, in order. -/
def runSwaps (inputs : QuoteInputs) (searchFuel fuel : Nat)
    (point : QuotePoint) : List BinSwapResult :=
  (PassLoop.visited (quotePass exactInFill inputs searchFuel) fuel
    point).filterMap (swapAt inputs.swapForY)

theorem accounts_of_follows
    (steps : PassLoop.Follows (quotePass exactInFill inputs searchFuel)
      point next) :
    AccountsFor (swapAt inputs.swapForY point).toList point.walk next.walk := by
  cases point with
  | search walk =>
      obtain ⟨-, array, -, rfl⟩ := search_follows_iff.mp steps
      exact .refl walk
  | bins array walk =>
      rcases bins_follows_iff.mp steps with ⟨exits, rfl⟩ |
        ⟨within, left, after, next, passed, rfl⟩
      · have notSwapped : swapAt inputs.swapForY (.bins array walk) = none := by
          simp only [swapAt, Bool.not_eq_true', exits, if_true]
        rw [notSwapped]
        exact .refl walk
      · obtain ⟨swap, swapEq, accounts⟩ := binPass_accounts passed
        have swapped : swapAt inputs.swapForY (.bins array walk) = swap := by
          simp [swapAt, within, left.ne', swapEq, Except.toOption]
        rw [swapped]
        exact accounts

theorem accounts_of_run
    (finished : PassLoop.run (quotePass exactInFill inputs searchFuel) fuel
      point = some (.ok last)) :
    last.amount = 0 ∧
      AccountsFor (runSwaps inputs searchFuel fuel point) point.walk last := by
  induction fuel generalizing point with
  | zero => simp [PassLoop.run] at finished
  | succ fuel ih =>
      rcases PassLoop.run_succ_eq_some_iff.mp finished with
        leaves | ⟨next, steps, rest⟩
      · obtain ⟨rfl, done⟩ := leaves_iff.mp leaves
        rw [runSwaps, PassLoop.visited_leave leaves]
        exact ⟨done, .refl last⟩
      · obtain ⟨done, accounts⟩ := ih rest
        refine ⟨done, ?_⟩
        have swapsEq : runSwaps inputs searchFuel (fuel + 1) point =
            (swapAt inputs.swapForY point).toList ++
              runSwaps inputs searchFuel fuel next := by
          rw [runSwaps, PassLoop.visited_next steps, List.filterMap_cons]
          cases swapAt inputs.swapForY point <;> rfl
        rw [swapsEq]
        exact (accounts_of_follows steps).cons accounts

/-- A walk has at most what another has, swapped and to swap. -/
structure AtMost (walk other : Walk) : Prop where
  amount : walk.amount ≤ other.amount
  total : walk.total ≤ other.total
  totalFee : walk.totalFee ≤ other.totalFee

theorem sub_min_le_sub_min {amount amount' : Nat} (le : amount ≤ amount')
    (drain : Nat) : amount - min amount drain ≤ amount' - min amount' drain := by
  omega

/-- In one bin more input leaves more, buys more and pays more fees. -/
theorem fills_atMost {swapForY : Bool} {priced stored stored' : Bin}
    {price : Nat} {walk other filled filled' : Walk} (pricePos : 0 < price)
    (samePair : walk.pair = other.pair) (atMost : AtMost walk other)
    (fills : FillsBin exactInFill swapForY priced price walk filled stored)
    (fills' : FillsBin exactInFill swapForY priced price other filled'
      stored') :
    AtMost filled filled' ∧ filled'.pair = filled.pair ∧
      filled.pair = walk.pair := by
  by_cases empty : isEmpty priced (!swapForY)
  · simp only [FillsBin, empty, if_true] at fills fills'
    obtain ⟨rfl, -⟩ := fills
    obtain ⟨rfl, -⟩ := fills'
    exact ⟨atMost, samePair.symm, rfl⟩
  simp only [FillsBin, empty, Bool.false_eq_true, if_false] at fills fills'
  obtain ⟨rate, used, rateEq, usedEq, pairEq, amountEq, feeEq, totalEq⟩ :=
    exactInFill_takes pricePos fills
  obtain ⟨rate', used', rateEq', usedEq', pairEq', amountEq', feeEq',
    totalEq'⟩ := exactInFill_takes pricePos fills'
  rw [← samePair, rateEq] at rateEq'
  cases rateEq'
  have rateLt := getTotalFee_lt rateEq
  have precisionPos : 0 < feePrecision := (Nat.zero_le rate).trans_lt rateLt
  have usedLe : used ≤ used' := by
    rw [usedEq, usedEq']
    exact min_le_min_right _ atMost.amount
  refine ⟨⟨?_, ?_, ?_⟩, ?_, pairEq⟩
  · rw [amountEq, amountEq', usedEq, usedEq']
    exact sub_min_le_sub_min atMost.amount _
  · rw [totalEq, totalEq']
    have bought := (@costOf_gc swapForY _ _ rateLt pricePos).monotone_u
      atMost.amount
    exact Nat.add_le_add atMost.total (min_le_min_right _ bought)
  · rw [feeEq, feeEq']
    exact Nat.add_le_add atMost.totalFee (feeIncluded_mono precisionPos usedLe)
  · rw [pairEq, pairEq', samePair]

/-- Passes of two walks at the same bin keep the order, and if the smaller walk
goes on the walks are at the same place again. -/
theorem binPass_atMost {swapForY : Bool} {array array' after after' : BinArray}
    {walk other next next' : Walk} (samePair : walk.pair = other.pair)
    (agrees : AgreesAhead swapForY walk.pair.activeId array array')
    (atMost : AtMost walk other)
    (passed : binPass exactInFill swapForY array walk = .ok (after, next))
    (passed' : binPass exactInFill swapForY array' other =
      .ok (after', next')) :
    AtMost next next' ∧
      (0 < next.amount →
        SamePlace swapForY (.bins after next) (.bins after' next')) := by
  obtain ⟨pair, bin, price, priced, filled, stored, pairEq, binEq, priceEq,
    fills, setEq, nextEq⟩ := binPass_cases passed
  obtain ⟨filled', stored', fills', setEq', nextEq'⟩ :=
    binPass_same samePair agrees pairEq binEq priceEq passed'
  obtain ⟨filledAtMost, sameFilled, keptPair⟩ :=
    @fills_atMost swapForY priced stored stored' price
      { walk with pair := pair } { other with pair := pair } filled filled'
      (getOrStoreBinPrice_pos priceEq) rfl
      ⟨atMost.amount, atMost.total, atMost.totalFee⟩ fills fills'
  simp only at keptPair
  subst keptPair
  by_cases more : 0 < filled.amount
  · have more' : 0 < filled'.amount := more.trans_le filledAtMost.amount
    rw [if_pos more] at nextEq
    rw [if_pos more'] at nextEq'
    obtain ⟨advanced, moved, rfl⟩ := nextEq
    obtain ⟨advanced', moved', rfl⟩ := nextEq'
    have sameId := updateVolatilityAccumulator_activeId pairEq
    exact ⟨⟨filledAtMost.amount, filledAtMost.total, filledAtMost.totalFee⟩,
      fun _ => samePlace_advance sameFilled (sameId ▸ agrees) setEq setEq' moved
        moved'⟩
  · rw [if_neg more] at nextEq
    subst nextEq
    refine ⟨?_, fun more' => absurd more' more⟩
    split_ifs at nextEq' with more'
    · obtain ⟨advanced', -, rfl⟩ := nextEq'
      exact ⟨filledAtMost.amount, filledAtMost.total, filledAtMost.totalFee⟩
    · subst nextEq'
      exact filledAtMost

/-- Of two finished walks from the same place the one with less ends with
less. -/
theorem totals_le_of_runs (same : SamePlace inputs.swapForY point other)
    (atMost : AtMost point.walk other.walk)
    (finished : PassLoop.run (quotePass exactInFill inputs searchFuel) fuel
      point = some (.ok last))
    (finished' : PassLoop.run (quotePass exactInFill inputs searchFuel) more
      other = some (.ok last')) :
    last.total ≤ last'.total ∧ last.totalFee ≤ last'.totalFee := by
  induction fuel generalizing point other more with
  | zero => simp [PassLoop.run] at finished
  | succ fuel ih =>
      by_cases done : point.walk.amount = 0
      · obtain ⟨-, accounts⟩ := accounts_of_run finished'
        obtain ⟨total, totalFee⟩ := accounts.grows
        rw [run_done done finished]
        exact ⟨atMost.total.trans total, atMost.totalFee.trans totalFee⟩
      have left : 0 < point.walk.amount := Nat.pos_of_ne_zero done
      obtain ⟨_, next, steps, fuelEq, rest⟩ := run_step left finished
      cases fuelEq
      obtain ⟨more, next', steps', rfl, rest'⟩ :=
        run_step (left.trans_le atMost.amount) finished'
      cases same with
      | @search walk other samePair =>
          obtain ⟨-, array, finds, rfl⟩ := search_follows_iff.mp steps
          obtain ⟨-, array', finds', rfl⟩ := search_follows_iff.mp steps'
          cases finds.unique samePair finds'
          exact ih (.bins samePair ⟨rfl, fun _ _ => rfl⟩) atMost rest rest'
      | @bins array array' walk other samePair agrees =>
          rw [QuotePoint.walk] at left
          have left' : 0 < other.amount := left.trans_le atMost.amount
          have sameRange : isBinIdWithinRange array walk.pair.activeId =
              isBinIdWithinRange array' walk.pair.activeId :=
            isBinIdWithinRange_congr agrees.index _
          rcases bins_follows_iff.mp steps with ⟨exits, rfl⟩ |
            ⟨within, -, after, walk', passed, rfl⟩
          · have outside := exits.resolve_right left.ne'
            rcases bins_follows_iff.mp steps' with ⟨-, rfl⟩ | ⟨within', -, -⟩
            · exact ih (.search samePair) atMost rest rest'
            · rw [← samePair, ← sameRange, outside] at within'
              cases within'
          · rcases bins_follows_iff.mp steps' with ⟨outside | none, -⟩ |
              ⟨-, -, after', other', passed', rfl⟩
            · rw [← samePair, ← sameRange, within] at outside
              cases outside
            · omega
            obtain ⟨atMost', goesOn⟩ :=
              binPass_atMost samePair agrees atMost passed passed'
            by_cases more' : 0 < walk'.amount
            · exact ih (goesOn more') atMost' rest rest'
            · obtain ⟨-, accounts⟩ := accounts_of_run rest'
              obtain ⟨total, totalFee⟩ := accounts.grows
              rw [@run_done _ _ _ _ (.bins after walk') _ (by
                rw [QuotePoint.walk]; omega) rest]
              exact ⟨atMost'.total.trans total, atMost'.totalFee.trans totalFee⟩

end Runs

section Quotes

/-- The swaps of an exact-in quote, in order. -/
def quoteSwaps (inputs : QuoteInputs) (pair : LbPair) (amountIn fuel : Nat) :
    List BinSwapResult :=
  match startWalk inputs pair amountIn with
  | .error _ => []
  | .ok walk => runSwaps inputs fuel fuel (.search walk)

variable {inputs : QuoteInputs} {pair : LbPair} {given more fuel fuel' : Nat}
variable {last last' : Walk}

theorem runWalk_accounts
    (finished : runWalk exactInFill inputs pair given fuel = some (.ok last)) :
    amountUsed (quoteSwaps inputs pair given fuel) = given ∧
      amountBought (quoteSwaps inputs pair given fuel) = last.total ∧
      feePaid (quoteSwaps inputs pair given fuel) = last.totalFee ∧
      last.totalFee ≤ given := by
  rw [quoteSwaps]
  cases started : startWalk inputs pair given with
  | error message =>
      rw [runWalk, started] at finished
      cases finished
  | ok start =>
      obtain ⟨updated, rfl, -⟩ := startWalk_cases started
      rw [runWalk, started] at finished
      obtain ⟨done, used, bought, paid, feeLe⟩ := accounts_of_run finished
      simp only [QuotePoint.walk] at used bought paid
      simp only
      omega

theorem runWalk_le (le : given ≤ more)
    (finished : runWalk exactInFill inputs pair given fuel = some (.ok last))
    (finished' : runWalk exactInFill inputs pair more fuel' =
      some (.ok last')) :
    last.total ≤ last'.total ∧ last.totalFee ≤ last'.totalFee := by
  have finished := runWalk_mono (Nat.le_max_left fuel fuel') finished
  have finished' := runWalk_mono (Nat.le_max_right fuel fuel') finished'
  cases started : startWalk inputs pair given with
  | error message =>
      rw [runWalk, started] at finished
      cases finished
  | ok start =>
      obtain ⟨updated, rfl, others⟩ := startWalk_cases started
      rw [runWalk, others given] at finished
      rw [runWalk, others more] at finished'
      have same : SamePlace inputs.swapForY (.search ⟨updated, given, 0, 0⟩)
          (.search ⟨updated, more, 0, 0⟩) := .search rfl
      exact totals_le_of_runs same ⟨le, le_rfl, le_rfl⟩ finished finished'

/-- More input buys at least as much at no smaller fee, and a quote uses up its
input, of which its fee is a part. -/
theorem quoteExactIn_monotone (inputs : QuoteInputs) (pair : LbPair) :
    (∀ given more fuel fuel' quote other, given ≤ more →
        quoteExactIn inputs pair given fuel = some (.ok quote) →
        quoteExactIn inputs pair more fuel' = some (.ok other) →
        quote.amountOut ≤ other.amountOut ∧ quote.fee ≤ other.fee) ∧
      ∀ given fuel quote,
        quoteExactIn inputs pair given fuel = some (.ok quote) →
        quote.fee ≤ given ∧
          amountUsed (quoteSwaps inputs pair given fuel) = given ∧
          amountBought (quoteSwaps inputs pair given fuel) = quote.amountOut ∧
          feePaid (quoteSwaps inputs pair given fuel) = quote.fee := by
  constructor
  · intro given more fuel fuel' quote other le quoted quoted'
    obtain ⟨last, finished, rfl⟩ := quoteExactIn_eq_ok quoted
    obtain ⟨last', finished', rfl⟩ := quoteExactIn_eq_ok quoted'
    exact runWalk_le le finished finished'
  · intro given fuel quote quoted
    obtain ⟨last, finished, rfl⟩ := quoteExactIn_eq_ok quoted
    obtain ⟨used, bought, paid, feeLe⟩ := runWalk_accounts finished
    exact ⟨feeLe, used, bought, paid⟩

theorem quoteExactIn_monotone_levelPair :
    (1483 ≤ 2500 ∧ 17 ≤ 28) ∧
      28 ≤ 2528 ∧
      amountUsed (quoteSwaps gapInputs levelPair 2528 20) = 2528 ∧
      amountBought (quoteSwaps gapInputs levelPair 2528 20) = 2500 ∧
      feePaid (quoteSwaps gapInputs levelPair 2528 20) = 28 :=
  ⟨(quoteExactIn_monotone gapInputs levelPair).1 1500 2528 20 20 ⟨1483, 17⟩
      ⟨2500, 28⟩ (by decide) (by decide +kernel) (by decide +kernel),
    (quoteExactIn_monotone gapInputs levelPair).2 2528 20 ⟨2500, 28⟩
      (by decide +kernel)⟩

end Quotes

end MeteoraDlmm

end SolanaProtocols
