import SolanaProtocols.DlmmArraySearch
import SolanaProtocols.DlmmQuote

/-!
# Termination of the quoter

The outer loop of a quote looks up the bin array to walk next, and the inner
loop walks the bins of that array as long as it contains the active bin.  The
lookup goes by the bitmap alone, so it may return an array that does not
contain the active bin; the inner loop then ends at once and the outer loop
looks up the same array again.  This file proves that such a gap is the only
way a quote fails to end.
-/

namespace SolanaProtocols

namespace MeteoraDlmm

open BitScan

section Search

variable {pair : LbPair} {bitmapExtension : Option BinArrayBitmapExtension}
variable {swapForY : Bool} {start : Int} {fuel more : Nat}

variable (pair bitmapExtension swapForY) in
/-- Inside the bitmap a lookup does not panic, and a skip gets closer to its
edge. -/
theorem lookup_inside (inside : -6656 ≤ start ∧ start ≤ 6655) :
    ∃ outcome,
      nextBinArrayIndexWithLiquidity pair bitmapExtension swapForY start =
        .ok outcome ∧
      ∀ next, outcome = some (next, false) →
        layersLeft swapForY next < layersLeft swapForY start ∧
          -6656 ≤ next ∧ next ≤ 6655 := by
  by_cases inline : -512 ≤ start ∧ start ≤ 511
  · obtain ⟨found, lookupEq, -⟩ := @lookup_inline pair
      ⟨Vector.replicate _ (Vector.replicate _ 0),
        Vector.replicate _ (Vector.replicate _ 0)⟩ start swapForY inline
    have notOverflow : ¬ isOverflowDefaultBinArrayBitmap start = true := by
      rw [isOverflow_eq_true_iff]
      omega
    have sameLayer : ∀ ext,
        nextBinArrayIndexWithLiquidity pair ext swapForY start =
          endOnError ((nextBinArrayIndexWithLiquidityInternal pair swapForY
            start).mapError .err) := fun ext => if_neg notOverflow
    rw [sameLayer] at lookupEq
    refine ⟨_, (sameLayer _).trans lookupEq, fun next nextEq => ?_⟩
    cases found with
    | some found => simp at nextEq
    | none => cases swapForY <;> grind [layersLeft]
  · cases bitmapExtension with
    | none =>
        have overflow : isOverflowDefaultBinArrayBitmap start = true := by
          rw [isOverflow_eq_true_iff]
          omega
        exact ⟨none, if_pos overflow, by simp⟩
    | some ext =>
        by_cases positive : 512 ≤ start
        · obtain ⟨found, lookupEq, -⟩ := @lookup_positive pair ext start swapForY
            ⟨positive, inside.2⟩
          refine ⟨_, lookupEq, fun next nextEq => ?_⟩
          cases found with
          | some found => simp at nextEq
          | none => cases swapForY <;> grind [layersLeft]
        · obtain ⟨found, lookupEq, -⟩ := @lookup_negative pair ext start swapForY
            ⟨inside.1, by omega⟩
          refine ⟨_, lookupEq, fun next nextEq => ?_⟩
          cases found with
          | some found => simp at nextEq
          | none => cases swapForY <;> grind [layersLeft]

variable (pair bitmapExtension) in
theorem run_search_one (inside : -6656 ≤ start ∧ start ≤ 6655)
    (enough : layersLeft swapForY start + 1 < fuel) :
    ∃ result, PassLoop.run (searchPass pair bitmapExtension swapForY 1) fuel
      ⟨start, []⟩ = some (.ok result) := by
  induction fuel generalizing start with
  | zero => omega
  | succ fuel ih =>
      obtain ⟨outcome, lookupEq, skips⟩ := lookup_inside pair bitmapExtension
        swapForY inside
      have pass : searchPass pair bitmapExtension swapForY 1 ⟨start, []⟩ =
          some (useLookup swapForY ⟨start, []⟩ (.ok outcome)) := by
        rw [searchPass, if_neg (by simp), lookupEq]
      match outcome, pass with
      | none, pass => exact ⟨[], PassLoop.run_leave pass⟩
      | some (next, true), pass =>
          obtain ⟨fuel, rfl⟩ : ∃ rest, fuel = rest + 1 := ⟨fuel - 1, by omega⟩
          exact ⟨[next], by
            rw [PassLoop.run_next pass]
            exact PassLoop.run_leave (if_pos rfl)⟩
      | some (next, false), pass =>
          obtain ⟨closer, nextInside⟩ := skips next rfl
          obtain ⟨result, runEq⟩ := ih nextInside (by omega)
          exact ⟨result, (PassLoop.run_next pass).trans runEq⟩

theorem activeBinArrayIndex_inside
    (activeInside : minBinId ≤ pair.activeId ∧ pair.activeId ≤ maxBinId) :
    -6656 ≤ pair.activeBinArrayIndex ∧ pair.activeBinArrayIndex ≤ 6655 := by
  simp only [minBinId, maxBinId] at activeInside
  simp only [LbPair.activeBinArrayIndex, maxBinPerArray]
  omega

/-- Bound on the passes of a search for one array. -/
def searchFuel : Nat := 4

variable {deriveBinArrayAddress : Pubkey → Int → Pubkey}
variable {lbPairPubkey : Pubkey}

variable (bitmapExtension swapForY deriveBinArrayAddress lbPairPubkey) in
theorem getBinArrayPubkeysForSwap_finishes
    (activeInside : minBinId ≤ pair.activeId ∧ pair.activeId ≤ maxBinId)
    (enough : searchFuel ≤ fuel) :
    ∃ pubkeys, getBinArrayPubkeysForSwap pair bitmapExtension swapForY 1
        deriveBinArrayAddress lbPairPubkey fuel = some (.ok pubkeys) := by
  have layers : layersLeft swapForY pair.activeBinArrayIndex ≤ 2 := by
    cases swapForY <;> grind [layersLeft]
  obtain ⟨result, runEq⟩ := run_search_one pair bitmapExtension
    (activeBinArrayIndex_inside activeInside)
    (show layersLeft swapForY pair.activeBinArrayIndex + 1 < fuel by
      rw [searchFuel] at enough
      omega)
  refine ⟨result.map (deriveBinArrayAddress lbPairPubkey), ?_⟩
  rw [getBinArrayPubkeysForSwap, getBinArrayIndicesForSwap,
    binIdToBinArrayIndex_eq activeInside]
  exact congrArg (Option.map _) runEq

theorem getBinArrayPubkeysForSwap_mono {takeCount : Nat}
    {result : Except Fault (List Pubkey)} (fuelLe : fuel ≤ more)
    (finished : getBinArrayPubkeysForSwap pair bitmapExtension swapForY
      takeCount deriveBinArrayAddress lbPairPubkey fuel = some result) :
    getBinArrayPubkeysForSwap pair bitmapExtension swapForY takeCount
      deriveBinArrayAddress lbPairPubkey more = some result := by
  rw [getBinArrayPubkeysForSwap, getBinArrayIndicesForSwap] at finished ⊢
  cases start : binIdToBinArrayIndex pair.activeId with
  | error message => simpa [start] using finished
  | ok startBinArrayIdx =>
      simp only [start, Option.map_eq_some_iff] at finished ⊢
      obtain ⟨indices, runEq, resultEq⟩ := finished
      exact ⟨indices, PassLoop.run_mono (fun _ _ pass => pass) fuelLe runEq,
        resultEq⟩

end Search

section Pass

variable {fill : Fill} {inputs : QuoteInputs} {fuel more : Nat}
variable {point after : QuotePoint} {walk next : Walk}
variable {activeArray : BinArray}

theorem quotePass_mono (fuelLe : fuel ≤ more)
    {pass : Pass QuotePoint (Except Fault Walk)}
    (finished : quotePass fill inputs fuel point = some pass) :
    quotePass fill inputs more point = some pass := by
  cases point with
  | bins activeArray walk => exact finished
  | search walk =>
      by_cases done : walk.amount = 0
      · simpa [quotePass, done] using finished
      · cases searched : getBinArrayPubkeysForSwap walk.pair
          inputs.bitmapExtension inputs.swapForY 1
          inputs.deriveBinArrayAddress inputs.lbPairPubkey fuel with
        | none => simp [quotePass, done, searched] at finished
        | some result =>
            have searched' := getBinArrayPubkeysForSwap_mono fuelLe searched
            simpa only [quotePass, done, searched, searched', if_false]
              using finished

theorem reaches_mono (fuelLe : fuel ≤ more)
    (reaches : PassLoop.Reaches (quotePass fill inputs fuel) point after) :
    PassLoop.Reaches (quotePass fill inputs more) point after :=
  Relation.ReflTransGen.mono (fun _ _ => quotePass_mono fuelLe) _ _ reaches

theorem runWalk_mono {pair : LbPair} {amount : Nat}
    {result : Except Fault Walk} (fuelLe : fuel ≤ more)
    (finished : runWalk fill inputs pair amount fuel = some result) :
    runWalk fill inputs pair amount more = some result := by
  rw [runWalk] at finished ⊢
  cases started : startWalk inputs pair amount with
  | error message => simpa [started] using finished
  | ok walk =>
      simp only [started] at finished ⊢
      exact PassLoop.run_mono (fun _ _ => quotePass_mono fuelLe) fuelLe finished

/-- Filling a bin leaves the pool alone and does not add to the amount. -/
def Shrinks (fill : Fill) : Prop :=
  ∀ swapForY bin price walk filled stored,
    fill swapForY bin price walk = .ok (filled, stored) →
      filled.pair = walk.pair ∧ filled.amount ≤ walk.amount

theorem exactInFill_shrinks : Shrinks exactInFill := by
  intro swapForY bin price walk filled stored ok
  obtain ⟨result, -, -, rfl⟩ := exactInFill_cases ok
  exact ⟨rfl, Nat.sub_le _ _⟩

theorem exactOutFill_shrinks : Shrinks exactOutFill := by
  intro swapForY bin price walk filled stored ok
  obtain ⟨amountIn, fee, -, -, rfl⟩ := exactOutFill_cases ok
  exact ⟨rfl, Nat.sub_le _ _⟩

theorem updateReferences_activeId {pair updated : LbPair} {timestamp : Int}
    (ok : updateReferences pair timestamp = .ok updated) :
    updated.activeId = pair.activeId := by
  simp only [updateReferences, bind_eq_ok_iff] at ok
  obtain ⟨elapsed, -, ok⟩ := ok
  by_cases recent : elapsed < pair.parameters.filterPeriod
  · rw [if_pos recent] at ok
    cases ok
    rfl
  · rw [if_neg recent, bind_eq_ok_iff] at ok
    obtain ⟨volatilityReference, -, ok⟩ := ok
    cases ok
    rfl

theorem updateVolatilityAccumulator_activeId {pair updated : LbPair}
    (ok : updateVolatilityAccumulator pair = .ok updated) :
    updated.activeId = pair.activeId := by
  simp only [updateVolatilityAccumulator, bind_eq_ok_iff] at ok
  obtain ⟨_, -, _, -, _, -, _, -, ok⟩ := ok
  cases ok
  rfl

theorem advanceActiveBin_activeId {pair advanced : LbPair} {swapForY : Bool}
    (ok : advanceActiveBin pair swapForY = .ok advanced) :
    advanced.activeId = pair.activeId + increment swapForY ∧
      minBinId ≤ advanced.activeId ∧ advanced.activeId ≤ maxBinId := by
  simp only [advanceActiveBin, bind_eq_ok_iff] at ok
  obtain ⟨next, nextEq, ok⟩ := ok
  split_ifs at ok with inside
  · cases ok
    rw [safeSigned_eq_ok_iff] at nextEq
    refine ⟨?_, inside⟩
    rw [← nextEq.2]
    cases swapForY <;> rfl

theorem setBin_index {array stored : BinArray} {binId : Int} {bin : Bin}
    (ok : setBin array binId bin = .ok stored) : stored.index = array.index := by
  simp only [setBin, bind_eq_ok_iff] at ok
  obtain ⟨idx, -, ok⟩ := ok
  cases ok
  rfl

theorem isBinIdWithinRange_congr {array other : BinArray}
    (same : array.index = other.index) (binId : Int) :
    isBinIdWithinRange array binId = isBinIdWithinRange other binId := by
  rw [isBinIdWithinRange, isBinIdWithinRange, same]

/-- A pass over a bin uses up the amount or moves the active bin one step. -/
theorem binPass_moves (shrinks : Shrinks fill) {swapForY : Bool}
    {stored : BinArray}
    (passed : binPass fill swapForY activeArray walk = .ok (stored, next)) :
    stored.index = activeArray.index ∧ next.amount ≤ walk.amount ∧
      (next.amount = 0 ∧ next.pair.activeId = walk.pair.activeId ∨
        0 < next.amount ∧
          next.pair.activeId = walk.pair.activeId + increment swapForY ∧
          minBinId ≤ next.pair.activeId ∧ next.pair.activeId ≤ maxBinId) := by
  obtain ⟨pair, activeBin, price, priced, filled, bin, pairEq, -, -, filledEq,
    setEq, moved⟩ := binPass_cases passed
  have pairId := updateVolatilityAccumulator_activeId pairEq
  have filledFrame : filled.pair = pair ∧ filled.amount ≤ walk.amount := by
    split_ifs at filledEq
    · rw [filledEq.1]
      exact ⟨rfl, le_rfl⟩
    · exact shrinks _ _ _ _ _ _ filledEq
  refine ⟨setBin_index setEq, ?_⟩
  split_ifs at moved with left
  · obtain ⟨advanced, advancedEq, rfl⟩ := moved
    obtain ⟨advancedId, inside⟩ := advanceActiveBin_activeId advancedEq
    rw [filledFrame.1, pairId] at advancedId
    exact ⟨filledFrame.2, .inr ⟨left, advancedId, inside⟩⟩
  · subst moved
    refine ⟨filledFrame.2, .inl ⟨by omega, ?_⟩⟩
    rw [filledFrame.1, pairId]

/-- The array the lookup returns for a walk. -/
def FindsArray (inputs : QuoteInputs) (fuel : Nat) (walk : Walk)
    (activeArray : BinArray) : Prop :=
  ∃ pubkeys activePda,
    getBinArrayPubkeysForSwap walk.pair inputs.bitmapExtension inputs.swapForY 1
        inputs.deriveBinArrayAddress inputs.lbPairPubkey fuel =
      some (.ok pubkeys) ∧
    pubkeys.getLast? = some activePda ∧
    inputs.binArrays activePda = some activeArray

theorem search_follows_iff :
    PassLoop.Follows (quotePass fill inputs fuel) (.search walk) after ↔
      0 < walk.amount ∧ ∃ activeArray, FindsArray inputs fuel walk activeArray ∧
        after = .bins activeArray walk := by
  by_cases done : walk.amount = 0
  · simp [PassLoop.Follows, quotePass, done]
  · have left : 0 < walk.amount := by omega
    simp only [PassLoop.Follows, quotePass, done, if_false, left, true_and,
      FindsArray]
    cases getBinArrayPubkeysForSwap walk.pair inputs.bitmapExtension
        inputs.swapForY 1 inputs.deriveBinArrayAddress inputs.lbPairPubkey
        fuel with
    | none => simp
    | some result =>
        cases result with
        | error fault => simp
        | ok pubkeys =>
            cases last : pubkeys.getLast? with
            | none => simp [last]
            | some activePda =>
                cases cached : inputs.binArrays activePda <;>
                  simp [last, cached, eq_comm]

theorem bins_follows_iff :
    PassLoop.Follows (quotePass fill inputs fuel) (.bins activeArray walk)
        after ↔
      (isBinIdWithinRange activeArray walk.pair.activeId = false ∨
          walk.amount = 0) ∧ after = .search walk ∨
        isBinIdWithinRange activeArray walk.pair.activeId = true ∧
          0 < walk.amount ∧
          ∃ stored next,
            binPass fill inputs.swapForY activeArray walk =
              .ok (stored, next) ∧
            after = .bins stored next := by
  by_cases exits : isBinIdWithinRange activeArray walk.pair.activeId = false ∨
      walk.amount = 0
  · have stays : ¬ (isBinIdWithinRange activeArray walk.pair.activeId = true ∧
        0 < walk.amount) := by
      rintro ⟨within, left⟩
      rcases exits with outside | done
      · rw [within] at outside
        cases outside
      · omega
    simp only [PassLoop.Follows, quotePass, Bool.not_eq_true', exits, if_true,
      true_and]
    constructor
    · intro next
      cases next
      exact .inl rfl
    · rintro (rfl | ⟨within, left, -⟩)
      · rfl
      · exact absurd ⟨within, left⟩ stays
  · obtain ⟨within, left⟩ := not_or.mp exits
    have within' : isBinIdWithinRange activeArray walk.pair.activeId = true := by
      simpa using within
    simp only [PassLoop.Follows, quotePass, within', left, Bool.not_true,
      Bool.false_eq_true, Bool.true_eq_false, or_self, if_false, false_and,
      false_or, true_and, Nat.pos_of_ne_zero left]
    cases binPass fill inputs.swapForY activeArray walk with
    | error message => simp
    | ok passed => simp [eq_comm, Prod.ext_iff]

/-- The active bin moves in the swap direction, inside the bin space, and the
amount does not grow. -/
theorem moves_of_follows (shrinks : Shrinks fill)
    (follows : PassLoop.Follows (quotePass fill inputs fuel) point after) :
    Ahead inputs.swapForY point.walk.pair.activeId after.walk.pair.activeId ∧
      after.walk.amount ≤ point.walk.amount ∧
      (minBinId ≤ point.walk.pair.activeId ∧
          point.walk.pair.activeId ≤ maxBinId →
        minBinId ≤ after.walk.pair.activeId ∧
          after.walk.pair.activeId ≤ maxBinId) := by
  cases point with
  | search walk =>
      obtain ⟨-, activeArray, -, rfl⟩ := search_follows_iff.mp follows
      exact ⟨.refl _ _, le_rfl, id⟩
  | bins activeArray walk =>
      rcases bins_follows_iff.mp follows with
        ⟨-, rfl⟩ | ⟨-, -, stored, next, passed, rfl⟩
      · exact ⟨.refl _ _, le_rfl, id⟩
      · obtain ⟨-, amountLe, ⟨-, sameId⟩ | ⟨-, nextId, inside⟩⟩ :=
          binPass_moves shrinks passed
        · simp only [QuotePoint.walk, sameId]
          exact ⟨.refl _ _, amountLe, id⟩
        · refine ⟨?_, amountLe, fun _ => inside⟩
          simp only [QuotePoint.walk, nextId]
          exact ahead_increment

end Pass

section Ending

variable {fill : Fill} {inputs : QuoteInputs} {pair : LbPair} {amount : Nat}
variable {start walk next : Walk} {point : QuotePoint} {fuel : Nat}

/-- A head of the outer loop, with amount left, at which the lookup returns an
array that does not contain the active bin. -/
def Gap (inputs : QuoteInputs) (walk : Walk) : Prop :=
  0 < walk.amount ∧ ∃ fuel activeArray,
    FindsArray inputs fuel walk activeArray ∧
      isBinIdWithinRange activeArray walk.pair.activeId = false

/-- The quote comes to the head of the outer loop with these loop variables. -/
def Visits (fill : Fill) (inputs : QuoteInputs) (pair : LbPair) (amount : Nat)
    (walk : Walk) : Prop :=
  ∃ start fuel, startWalk inputs pair amount = .ok start ∧
    PassLoop.Reaches (quotePass fill inputs fuel) (.search start)
      (.search walk)

/-- The quote ends with `Ok` or `Err`. -/
def Ends {Quote : Type} (quote : Nat → Option (Except Fault Quote)) : Prop :=
  ∃ fuel outcome, quote fuel = some outcome ∧ outcome ≠ .error .panic

/-- From each head of the outer loop to any later one the amount left shrinks or
the active bin moves in the swap direction. -/
def EveryPassProgresses (fill : Fill) (inputs : QuoteInputs) (pair : LbPair)
    (amount : Nat) : Prop :=
  ∀ walk, Visits fill inputs pair amount walk → ∀ fuel next,
    Relation.TransGen (PassLoop.Follows (quotePass fill inputs fuel))
        (.search walk) (.search next) →
      next.amount < walk.amount ∨
        (Ahead inputs.swapForY walk.pair.activeId next.pair.activeId ∧
          next.pair.activeId ≠ walk.pair.activeId)

/-- Bins between the active bin and the end of the bin space. -/
def binsLeft (swapForY : Bool) (activeId : Int) : Nat :=
  if swapForY then (activeId - minBinId).toNat else (maxBinId - activeId).toNat

/-- A bound on the transitions still to come. -/
def passesLeft (swapForY : Bool) : QuotePoint → Nat
  | .search walk =>
      if walk.amount = 0 then 0 else 3 * binsLeft swapForY walk.pair.activeId + 3
  | .bins activeArray walk =>
      if walk.amount = 0 then 1
      else if isBinIdWithinRange activeArray walk.pair.activeId then
        3 * binsLeft swapForY walk.pair.activeId + 2
      else 3 * binsLeft swapForY walk.pair.activeId + 4

theorem binsLeft_increment {swapForY : Bool} {activeId : Int}
    (inside : minBinId ≤ activeId + increment swapForY ∧
      activeId + increment swapForY ≤ maxBinId) :
    binsLeft swapForY (activeId + increment swapForY) + 1 =
      binsLeft swapForY activeId := by
  cases swapForY <;> simp only [binsLeft, minBinId, maxBinId] at * <;> simp at * <;>
    omega

/-- Outside gaps every transition uses up one of the passes left. -/
theorem passesLeft_lt (shrinks : Shrinks fill) {after : QuotePoint}
    (noGap : ∀ walk, point = .search walk → ¬ Gap inputs walk)
    (follows : PassLoop.Follows (quotePass fill inputs fuel) point after) :
    passesLeft inputs.swapForY after < passesLeft inputs.swapForY point := by
  cases point with
  | search walk =>
      obtain ⟨left, activeArray, finds, rfl⟩ := search_follows_iff.mp follows
      have within : isBinIdWithinRange activeArray walk.pair.activeId = true := by
        by_contra outside
        exact noGap walk rfl
          ⟨left, fuel, activeArray, finds, by simpa using outside⟩
      have notDone : walk.amount ≠ 0 := by omega
      simp [passesLeft, within, notDone]
  | bins activeArray walk =>
      rcases bins_follows_iff.mp follows with
        ⟨exits, rfl⟩ | ⟨within, left, stored, next, passed, rfl⟩
      · by_cases done : walk.amount = 0
        · simp [passesLeft, done]
        · have outside := exits.resolve_right done
          simp [passesLeft, done, outside]
      · have notDone : walk.amount ≠ 0 := by omega
        obtain ⟨-, -, ⟨used, -⟩ | ⟨more, nextId, inside⟩⟩ :=
          binPass_moves shrinks passed
        · simp [passesLeft, within, notDone, used]
        · have closer := binsLeft_increment (nextId ▸ inside)
          rw [← nextId] at closer
          have notUsed : next.amount ≠ 0 := by omega
          simp only [passesLeft, within, notDone, notUsed, if_false, if_true]
          split_ifs <;> omega

variable (fill inputs) in
theorem quotePass_finishes
    (inside : minBinId ≤ point.walk.pair.activeId ∧
      point.walk.pair.activeId ≤ maxBinId) :
    ∃ pass, quotePass fill inputs searchFuel point = some pass ∧
      pass ≠ .leave (.error .panic) := by
  cases point with
  | search walk =>
      obtain ⟨pubkeys, searched⟩ := getBinArrayPubkeysForSwap_finishes
        inputs.bitmapExtension inputs.swapForY inputs.deriveBinArrayAddress
        inputs.lbPairPubkey inside le_rfl
      rw [QuotePoint.walk] at searched
      simp only [quotePass, searched]
      split_ifs
      · simp
      · cases pubkeys.getLast? with
        | none => simp
        | some activePda =>
            cases cached : inputs.binArrays activePda <;> simp [cached]
  | bins activeArray walk =>
      simp only [quotePass]
      split_ifs
      · simp
      · cases binPass fill inputs.swapForY activeArray walk <;> simp

theorem startWalk_eq_ok (started : startWalk inputs pair amount = .ok start) :
    start.amount = amount ∧ start.pair.activeId = pair.activeId := by
  simp only [startWalk, bind_eq_ok_iff] at started
  obtain ⟨-, -, updated, updatedEq, started⟩ := started
  cases started
  exact ⟨rfl, updateReferences_activeId updatedEq⟩

/-- Without gaps the walk ends. -/
theorem runWalk_ends (shrinks : Shrinks fill)
    (activeInside : minBinId ≤ pair.activeId ∧ pair.activeId ≤ maxBinId)
    (noGap : ∀ walk, Visits fill inputs pair amount walk → ¬ Gap inputs walk) :
    Ends (runWalk fill inputs pair amount) := by
  cases started : startWalk inputs pair amount with
  | error message =>
      exact ⟨0, .error (.err message), by rw [runWalk, started], by simp⟩
  | ok start =>
      let visited : QuotePoint → Prop := fun point =>
        PassLoop.Reaches (quotePass fill inputs searchFuel) (.search start) point ∧
          minBinId ≤ point.walk.pair.activeId ∧
          point.walk.pair.activeId ≤ maxBinId
      have startVisited : visited (.search start) := by
        refine ⟨.refl, ?_⟩
        rw [QuotePoint.walk, (startWalk_eq_ok started).2]
        exact activeInside
      have decreases : ∀ point after, visited point →
          PassLoop.Follows (quotePass fill inputs searchFuel) point after →
          visited after ∧ passesLeft inputs.swapForY after <
            passesLeft inputs.swapForY point := by
        rintro point after ⟨reaches, inside⟩ follows
        refine ⟨⟨reaches.tail follows, (moves_of_follows shrinks follows).2.2 inside⟩,
          passesLeft_lt shrinks ?_ follows⟩
        rintro walk rfl
        exact noGap walk ⟨start, searchFuel, started, reaches⟩
      obtain ⟨outcome, runEq⟩ := PassLoop.exists_run_of_measure visited
        (passesLeft inputs.swapForY)
        (fun point pointVisited =>
          (quotePass_finishes fill inputs pointVisited.2).imp
            fun _ finishes => finishes.1)
        decreases startVisited (Nat.lt_succ_self _)
      refine ⟨max searchFuel (passesLeft inputs.swapForY (.search start) + 1),
        outcome, ?_, ?_⟩
      · rw [runWalk, started]
        exact PassLoop.run_mono
          (fun _ _ => quotePass_mono (Nat.le_max_left _ _))
          (Nat.le_max_right _ _) runEq
      · rintro rfl
        obtain ⟨last, reaches, leaves⟩ := PassLoop.exists_leave_of_run runEq
        have lastVisited : visited last :=
          PassLoop.invariant_of_reaches
            (fun point after follows pointVisited =>
              (decreases point after pointVisited follows).1)
            reaches startVisited
        obtain ⟨pass, passEq, notPanic⟩ := quotePass_finishes fill inputs
          lastVisited.2
        rw [passEq] at leaves
        exact notPanic (Option.some.inj leaves)

/-- A walk that comes to a gap never ends. -/
theorem not_ends_of_gap (visits : Visits fill inputs pair amount walk)
    (gap : Gap inputs walk) (fuel : Nat) :
    runWalk fill inputs pair amount fuel = none := by
  obtain ⟨start, reachFuel, started, reaches⟩ := visits
  obtain ⟨left, findFuel, activeArray,
    ⟨pubkeys, activePda, searched, last, cached⟩, outside⟩ := gap
  by_contra finished
  obtain ⟨outcome, finished⟩ := Option.ne_none_iff_exists'.mp finished
  let more := max fuel (max reachFuel findFuel)
  have runEq := runWalk_mono (show fuel ≤ more by omega) finished
  rw [runWalk, started] at runEq
  obtain ⟨passes, sameRun⟩ := PassLoop.exists_run_eq_of_reaches
    (reaches_mono (show reachFuel ≤ more by omega) reaches)
  have finds : FindsArray inputs more walk activeArray :=
    ⟨pubkeys, activePda,
      getBinArrayPubkeysForSwap_mono (by omega) searched, last, cached⟩
  have trapped : PassLoop.run (quotePass fill inputs more) more (.search walk) =
      none := by
    refine PassLoop.run_eq_none_of_trap
      (fun point => point = .search walk ∨ point = .bins activeArray walk)
      ?_ (.inl rfl) more
    rintro point (rfl | rfl)
    · exact ⟨_, search_follows_iff.mpr ⟨left, activeArray, finds, rfl⟩, .inr rfl⟩
    · exact ⟨_, bins_follows_iff.mpr (.inl ⟨.inl outside, rfl⟩), .inl rfl⟩
  rw [← sameRun] at trapped
  have longer := PassLoop.run_mono (fun _ _ pass => pass)
    (Nat.le_add_right more passes) runEq
  rw [trapped] at longer
  cases longer

/-- Without gaps every pass makes progress. -/
theorem progresses_of_noGap (shrinks : Shrinks fill)
    (noGap : ∀ walk, Visits fill inputs pair amount walk → ¬ Gap inputs walk) :
    EveryPassProgresses fill inputs pair amount := by
  intro walk visits fuel next path
  have later : ∀ {point after : QuotePoint},
      PassLoop.Reaches (quotePass fill inputs fuel) point after →
      Ahead inputs.swapForY point.walk.pair.activeId after.walk.pair.activeId ∧
        after.walk.amount ≤ point.walk.amount := by
    intro point after reaches
    induction reaches with
    | refl => exact ⟨.refl _ _, le_rfl⟩
    | tail _ follows ih =>
        obtain ⟨moves, amountLe, -⟩ := moves_of_follows shrinks follows
        exact ⟨ih.1.trans moves, amountLe.trans ih.2⟩
  obtain ⟨first, searches, rest⟩ := Relation.TransGen.head'_iff.mp path
  obtain ⟨left, activeArray, finds, rfl⟩ := search_follows_iff.mp searches
  have within : isBinIdWithinRange activeArray walk.pair.activeId = true := by
    by_contra outside
    exact noGap walk visits
      ⟨left, fuel, activeArray, finds, by simpa using outside⟩
  rcases Relation.ReflTransGen.cases_head rest with impossible |
    ⟨second, fills, rest⟩
  · cases impossible
  · rcases bins_follows_iff.mp fills with
      ⟨exits, -⟩ | ⟨-, -, stored, filled, passed, rfl⟩
    · rcases exits with outside | done
      · rw [within] at outside
        cases outside
      · omega
    · obtain ⟨moves, amountLe⟩ := later rest
      obtain ⟨-, -, ⟨used, -⟩ | ⟨-, filledId, -⟩⟩ := binPass_moves shrinks passed
      · rw [QuotePoint.walk, QuotePoint.walk, used] at amountLe
        left
        omega
      · right
        rw [QuotePoint.walk, QuotePoint.walk, filledId] at moves
        exact ⟨ahead_increment.trans moves, ne_of_ahead_increment moves⟩

theorem runWalk_ends_iff (shrinks : Shrinks fill)
    (activeInside : minBinId ≤ pair.activeId ∧ pair.activeId ≤ maxBinId) :
    Ends (runWalk fill inputs pair amount) ∧
        EveryPassProgresses fill inputs pair amount ↔
      ∀ walk, Visits fill inputs pair amount walk → ¬ Gap inputs walk := by
  constructor
  · rintro ⟨⟨fuel, outcome, finished, -⟩, -⟩ walk visits gap
    rw [not_ends_of_gap visits gap fuel] at finished
    cases finished
  · intro noGap
    exact ⟨runWalk_ends shrinks activeInside noGap,
      progresses_of_noGap shrinks noGap⟩

theorem quoteExactIn_ends_iff :
    Ends (quoteExactIn inputs pair amount) ↔
      Ends (runWalk exactInFill inputs pair amount) := by
  simp only [Ends, quoteExactIn, Option.map_eq_some_iff]
  constructor
  · rintro ⟨fuel, outcome, ⟨walked, finished, rfl⟩, notPanic⟩
    exact ⟨fuel, walked, finished, by rintro rfl; exact notPanic rfl⟩
  · rintro ⟨fuel, walked, finished, notPanic⟩
    refine ⟨fuel, _, ⟨walked, finished, rfl⟩, ?_⟩
    cases walked with
    | error fault => simpa [Except.map] using notPanic
    | ok walk => simp [Except.map]

theorem quoteExactOut_ends_iff :
    Ends (quoteExactOut inputs pair amount) ↔
      Ends (runWalk exactOutFill inputs pair amount) := by
  simp only [Ends, quoteExactOut, Option.map_eq_some_iff]
  constructor
  · rintro ⟨fuel, outcome, ⟨walked, finished, rfl⟩, notPanic⟩
    exact ⟨fuel, walked, finished, by rintro rfl; exact notPanic rfl⟩
  · rintro ⟨fuel, walked, finished, notPanic⟩
    refine ⟨fuel, _, ⟨walked, finished, rfl⟩, ?_⟩
    cases walked with
    | error fault => simpa [bind, Except.bind] using notPanic
    | ok walk =>
        cases gross : checkedAdd 64 walk.total walk.totalFee <;>
          simp [gross, bind, Except.bind, okOr, Except.mapError, pure,
            Except.pure]

/-- Both quotes end, and make progress with every pass, exactly when no head of
the outer loop they come to is a gap. -/
theorem quotes_end_iff
    (activeInside : minBinId ≤ pair.activeId ∧ pair.activeId ≤ maxBinId) :
    (Ends (quoteExactIn inputs pair amount) ∧
          EveryPassProgresses exactInFill inputs pair amount ↔
        ∀ walk, Visits exactInFill inputs pair amount walk →
          ¬ Gap inputs walk) ∧
      (Ends (quoteExactOut inputs pair amount) ∧
          EveryPassProgresses exactOutFill inputs pair amount ↔
        ∀ walk, Visits exactOutFill inputs pair amount walk →
          ¬ Gap inputs walk) := by
  rw [quoteExactIn_ends_iff, quoteExactOut_ends_iff]
  exact ⟨runWalk_ends_iff exactInFill_shrinks activeInside,
    runWalk_ends_iff exactOutFill_shrinks activeInside⟩

/-- A pool with its active bin in array `1` and liquidity flagged in array `0`
only. -/
def gapPair : LbPair where
  parameters := ⟨0, 0, 0, 0, 0, 0, 0, 0⟩
  vParameters := ⟨0, 0, 70, 0⟩
  pairType := 0
  activeId := 70
  binStep := 1
  status := 0
  activationType := 0
  binArrayBitmap := arrayZeroFlagged
  activationPoint := 0

/-- A swap towards token Y with array `0` cached under its own address. -/
def gapInputs : QuoteInputs where
  lbPairPubkey := 0
  swapForY := true
  binArrays pubkey :=
    if pubkey = indexedAddress 0 0 then
      some { index := 0, bins := Vector.replicate 70 ⟨1000, 1000, 2 ^ 64⟩ }
    else none
  bitmapExtension := none
  currentTimestamp := 0
  currentSlot := 0
  deriveBinArrayAddress := indexedAddress

theorem quotes_end_iff_gapPair :
    (Ends (quoteExactIn gapInputs gapPair 1) ∧
          EveryPassProgresses exactInFill gapInputs gapPair 1 ↔
        ∀ walk, Visits exactInFill gapInputs gapPair 1 walk →
          ¬ Gap gapInputs walk) ∧
      (Ends (quoteExactOut gapInputs gapPair 1) ∧
          EveryPassProgresses exactOutFill gapInputs gapPair 1 ↔
        ∀ walk, Visits exactOutFill gapInputs gapPair 1 walk →
          ¬ Gap gapInputs walk) :=
  quotes_end_iff (by decide)

theorem gapPair_gap : Gap gapInputs ⟨gapPair, 1, 0, 0⟩ :=
  ⟨by decide, searchFuel, _, ⟨[indexedAddress 0 0], indexedAddress 0 0,
    by decide +kernel, rfl, rfl⟩, by decide +kernel⟩

/-- Walking down from bin `70` both quotes look up array `0` for ever, although
every cached array is stored under the address of its own index. -/
theorem gapPair_never_ends :
    (minBinId ≤ gapPair.activeId ∧ gapPair.activeId ≤ maxBinId) ∧
      (∀ pubkey array, gapInputs.binArrays pubkey = some array →
        pubkey = indexedAddress 0 array.index) ∧
      ∀ fuel, quoteExactIn gapInputs gapPair 1 fuel = none ∧
        quoteExactOut gapInputs gapPair 1 fuel = none := by
  have visits : ∀ fill, Visits fill gapInputs gapPair 1 ⟨gapPair, 1, 0, 0⟩ :=
    fun fill => ⟨_, 0, by decide +kernel, .refl⟩
  refine ⟨by decide, fun pubkey array cached => ?_, fun fuel => ⟨?_, ?_⟩⟩
  · simp only [gapInputs] at cached
    split_ifs at cached with same
    · cases cached
      exact same
  · rw [quoteExactIn, not_ends_of_gap (visits _) gapPair_gap]
    rfl
  · rw [quoteExactOut, not_ends_of_gap (visits _) gapPair_gap]
    rfl

end Ending

end MeteoraDlmm

end SolanaProtocols
