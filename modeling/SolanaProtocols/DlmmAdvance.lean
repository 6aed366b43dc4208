import SolanaProtocols.DlmmQuoteTermination
import SolanaProtocols.InPlaceUpdate

/-!
# Advancing to the next array with liquidity

`advanceToNextLiquidBinArray` moves the active bin of a pool to the array that
the quoter would look up first.  Its nested fallbacks make the same lookups as
the loop of the quoter, so both find the same array or none.  The bin it moves
to is the nearest of that array unless the lookup at index `512` turned round.
-/

namespace SolanaProtocols

namespace MeteoraDlmm

open BitScan
open InPlaceUpdate (ofResult outcome_get_bind outcome_ofResult_ok_bind
  outcome_ofResult_error_bind outcome_pure)

/-- Work on a pool in place. -/
abbrev PairUpdate := InPlaceUpdate Fault LbPair

/-- Move the active bin to the end of an array that the swap reaches first. -/
def shiftActiveBin (swapForY : Bool) (binArrayIndex : Int) : PairUpdate Unit := do
  let (lower, upper) ←
    ofResult ((binArrayLowerUpperBinId binArrayIndex).mapError .err)
  modify fun pair => { pair with activeId := if swapForY then upper else lower }

/-- Move to an array unless it is the current one. -/
def shiftUnlessCurrent (swapForY : Bool) (currentArrayIndex idx : Int) :
    PairUpdate Unit :=
  if currentArrayIndex ≠ idx then shiftActiveBin swapForY idx else pure ()

def bitmapExtensionOrErr (bitmapExtension : Option BinArrayBitmapExtension) :
    PairUpdate BinArrayBitmapExtension :=
  ofResult ((okOr bitmapExtension
    "LBError::BitmapExtensionAccountIsNotProvided").mapError .err)

def advanceInternalToExtension (swapForY : Bool)
    (currentArrayIndex startArrayIndex : Int)
    (bitmapExtension : Option BinArrayBitmapExtension) : PairUpdate Unit := do
  let pair ← get
  let (idx, found) ←
    ofResult ((nextBinArrayIndexWithLiquidityInternal pair swapForY
      startArrayIndex).mapError .err)
  if found then
    shiftUnlessCurrent swapForY currentArrayIndex idx
  else
    let ext ← bitmapExtensionOrErr bitmapExtension
    let (idx, _) ←
      ofResult (nextBinArrayIndexWithLiquidityExtension ext swapForY idx)
    shiftUnlessCurrent swapForY currentArrayIndex idx

/-- Advance the active bin to the next array with liquidity. -/
def advanceToNextLiquidBinArray (swapForY : Bool)
    (bitmapExtension : Option BinArrayBitmapExtension) : PairUpdate Unit := do
  let pair ← get
  let startArrayIndex ←
    ofResult ((binIdToBinArrayIndex pair.activeId).mapError .err)
  if isOverflowDefaultBinArrayBitmap startArrayIndex then
    let ext ← bitmapExtensionOrErr bitmapExtension
    let (idx, found) ←
      ofResult (nextBinArrayIndexWithLiquidityExtension ext swapForY
        startArrayIndex)
    if found then
      shiftUnlessCurrent swapForY startArrayIndex idx
    else
      advanceInternalToExtension swapForY startArrayIndex idx bitmapExtension
  else
    advanceInternalToExtension swapForY startArrayIndex startArrayIndex
      bitmapExtension

section Lookups

variable {pair : LbPair} {ext : BinArrayBitmapExtension} {swapForY : Bool}
variable {start next : Int} {found : Option Int}

/-- The array that the lookups from an index lead to, or that there is none. -/
inductive LeadsTo (pair : LbPair) (ext : BinArrayBitmapExtension)
    (swapForY : Bool) : Int → Option Int → Prop
  | found {start next : Int}
      (lookupEq : nextBinArrayIndexWithLiquidity pair (some ext) swapForY start =
        .ok (some (next, true))) :
      LeadsTo pair ext swapForY start (some next)
  | skipped {start next : Int} {found : Option Int}
      (lookupEq : nextBinArrayIndexWithLiquidity pair (some ext) swapForY start =
        .ok (some (next, false)))
      (rest : LeadsTo pair ext swapForY next found) :
      LeadsTo pair ext swapForY start found
  | exhausted {start : Int}
      (lookupEq : nextBinArrayIndexWithLiquidity pair (some ext) swapForY start =
        .ok none) :
      LeadsTo pair ext swapForY start none

theorem exists_leadsTo (inside : -6656 ≤ start ∧ start ≤ 6655) :
    ∃ found, LeadsTo pair ext swapForY start found := by
  induction layersEq : layersLeft swapForY start using Nat.strong_induction_on
    generalizing start with
  | _ layers ih =>
      obtain ⟨outcome, lookupEq, skips⟩ :=
        lookup_inside pair (some ext) swapForY inside
      match outcome, lookupEq, skips with
      | none, lookupEq, _ => exact ⟨none, .exhausted lookupEq⟩
      | some (next, true), lookupEq, _ => exact ⟨some next, .found lookupEq⟩
      | some (next, false), lookupEq, skips =>
          obtain ⟨closer, nextInside⟩ := skips next rfl
          obtain ⟨found, rest⟩ := ih _ (layersEq ▸ closer) nextInside rfl
          exact ⟨found, .skipped lookupEq rest⟩

/-- The lookup that starts at the first index above the inline bitmap walks up
when it should walk down. -/
def TurnsBack (pair : LbPair) (ext : BinArrayBitmapExtension) (swapForY : Bool)
    (start : Int) : Prop :=
  swapForY = true ∧ start = 512 ∧ isFlagged pair ext 512 = false ∧
    ∃ higher, 512 < higher ∧ higher ≤ 6655 ∧ isFlagged pair ext higher = true

theorem turnsBack_of_upwards
    (first : FirstFlagged (isFlagged pair ext) false 512 6655 (some next))
    (different : next ≠ 512) : TurnsBack pair ext true 512 ∧ 512 < next := by
  obtain ⟨⟨fromStart, inside⟩, isSet, unset⟩ := first
  rw [ahead_up] at fromStart inside
  have above : 512 < next := by omega
  refine ⟨⟨rfl, rfl, unset 512 ?_ ?_ different.symm, next, above, inside, isSet⟩,
    above⟩
  · rw [ahead_up]
  · rw [ahead_up]
    exact fromStart

theorem inside_of_first {flagged : Int → Bool} {last : Int}
    (first : FirstFlagged flagged swapForY start last (some next))
    (startInside : -6656 ≤ start ∧ start ≤ 6655)
    (lastInside : -6656 ≤ last ∧ last ≤ 6655) :
    (-6656 ≤ next ∧ next ≤ 6655) ∧ Ahead swapForY start next := by
  obtain ⟨⟨fromStart, toEnd⟩, -⟩ := first
  refine ⟨?_, fromStart⟩
  cases swapForY with
  | false =>
      rw [ahead_up] at fromStart toEnd
      omega
  | true =>
      rw [ahead_down] at fromStart toEnd
      omega

theorem found_ahead_inline (inside : -512 ≤ start ∧ start ≤ 511)
    (lookupEq : nextBinArrayIndexWithLiquidity pair (some ext) swapForY start =
      .ok (some (next, true))) :
    (-6656 ≤ next ∧ next ≤ 6655) ∧ Ahead swapForY start next := by
  obtain ⟨found, lookupEq', first⟩ := @lookup_inline pair ext start swapForY inside
  rw [lookupEq] at lookupEq'
  cases found with
  | none => cases lookupEq'
  | some found =>
      cases lookupEq'
      exact inside_of_first first (by omega) (by cases swapForY <;> decide)

/-- Above the inline bitmap only the lookup at its edge may turn back. -/
theorem found_ahead_positive (inside : 512 ≤ start ∧ start ≤ 6655)
    (lookupEq : nextBinArrayIndexWithLiquidity pair (some ext) swapForY start =
      .ok (some (next, true))) :
    (-6656 ≤ next ∧ next ≤ 6655) ∧
      (Ahead swapForY start next ∨
        (TurnsBack pair ext swapForY start ∧ start < next)) := by
  obtain ⟨found, lookupEq', upwards, downwards⟩ :=
    @lookup_positive pair ext start swapForY inside
  rw [lookupEq] at lookupEq'
  cases found with
  | none => cases swapForY <;> cases lookupEq'
  | some found =>
      cases lookupEq'
      cases swapForY with
      | false =>
          obtain ⟨nextInside, isAhead⟩ :=
            inside_of_first (upwards (.inl rfl)) (by omega) (by omega)
          exact ⟨nextInside, .inl isAhead⟩
      | true =>
          by_cases atEdge : start = 512
          · have first := upwards (.inr atEdge)
            obtain ⟨nextInside, -⟩ := inside_of_first first (by omega) (by omega)
            subst atEdge
            refine ⟨nextInside, ?_⟩
            by_cases same : next = 512
            · exact .inl (ahead_down.mpr same.le)
            · exact .inr (turnsBack_of_upwards first same)
          · obtain ⟨nextInside, isAhead⟩ :=
              inside_of_first (downwards rfl atEdge) (by omega) (by omega)
            exact ⟨nextInside, .inl isAhead⟩

theorem found_ahead_negative (inside : -6655 ≤ start ∧ start ≤ -513)
    (lookupEq : nextBinArrayIndexWithLiquidity pair (some ext) swapForY start =
      .ok (some (next, true))) :
    (-6656 ≤ next ∧ next ≤ 6655) ∧ Ahead swapForY start next := by
  obtain ⟨found, lookupEq', upwards, downwards⟩ :=
    @lookup_negative pair ext start swapForY ⟨by omega, inside.2⟩
  rw [lookupEq] at lookupEq'
  cases found with
  | none => cases swapForY <;> cases lookupEq'
  | some found =>
      cases lookupEq'
      cases swapForY with
      | false => exact inside_of_first (upwards (.inl rfl)) (by omega) (by omega)
      | true => exact inside_of_first (downwards rfl (by omega)) (by omega) (by omega)

theorem found_ahead (inside : -6655 ≤ start ∧ start ≤ 6655)
    (lookupEq : nextBinArrayIndexWithLiquidity pair (some ext) swapForY start =
      .ok (some (next, true))) :
    (-6656 ≤ next ∧ next ≤ 6655) ∧
      (Ahead swapForY start next ∨
        (TurnsBack pair ext swapForY start ∧ start < next)) := by
  by_cases positive : 512 ≤ start
  · exact found_ahead_positive ⟨positive, inside.2⟩ lookupEq
  by_cases inline : -512 ≤ start
  · obtain ⟨nextInside, isAhead⟩ :=
      found_ahead_inline ⟨inline, by omega⟩ lookupEq
    exact ⟨nextInside, .inl isAhead⟩
  · obtain ⟨nextInside, isAhead⟩ :=
      found_ahead_negative ⟨inside.1, by omega⟩ lookupEq
    exact ⟨nextInside, .inl isAhead⟩

/-- A skip goes to the first index of the next layer. -/
theorem skipped_to (inside : -6655 ≤ start ∧ start ≤ 6655)
    (lookupEq : nextBinArrayIndexWithLiquidity pair (some ext) swapForY start =
      .ok (some (next, false))) :
    if swapForY then
      (512 ≤ start ∧ next = 511) ∨
        (-512 ≤ start ∧ start ≤ 511 ∧ next = -513)
    else
      (start ≤ -513 ∧ next = -512) ∨
        (-512 ≤ start ∧ start ≤ 511 ∧ next = 512) := by
  by_cases inline : -512 ≤ start ∧ start ≤ 511
  · obtain ⟨found, lookupEq', -⟩ := @lookup_inline pair ext start swapForY inline
    rw [lookupEq] at lookupEq'
    cases found with
    | some found => cases lookupEq'
    | none =>
        cases lookupEq'
        cases swapForY
        · exact .inr ⟨inline.1, inline.2, rfl⟩
        · exact .inr ⟨inline.1, inline.2, rfl⟩
  by_cases positive : 512 ≤ start
  · obtain ⟨found, lookupEq', -⟩ :=
      @lookup_positive pair ext start swapForY ⟨positive, inside.2⟩
    rw [lookupEq] at lookupEq'
    cases found with
    | some found => cases lookupEq'
    | none =>
        cases swapForY
        · cases lookupEq'
        · cases lookupEq'
          exact .inl ⟨positive, rfl⟩
  · obtain ⟨found, lookupEq', -⟩ :=
      @lookup_negative pair ext start swapForY ⟨by omega, by omega⟩
    rw [lookupEq] at lookupEq'
    cases found with
    | some found => cases lookupEq'
    | none =>
        cases swapForY
        · cases lookupEq'
          exact .inl ⟨by omega, rfl⟩
        · cases lookupEq'

theorem LeadsTo.ahead (leads : LeadsTo pair ext swapForY start (some next))
    (inside : -6655 ≤ start ∧ start ≤ 6655) :
    (-6656 ≤ next ∧ next ≤ 6655) ∧
      (Ahead swapForY start next ∨
        (TurnsBack pair ext swapForY start ∧ start < next)) := by
  generalize wanted : some next = found at leads
  induction leads with
  | found lookupEq =>
      cases wanted
      exact found_ahead inside lookupEq
  | exhausted lookupEq => cases wanted
  | @skipped start middle found lookupEq rest ih =>
      have skip := skipped_to inside lookupEq
      have middleInside : -6655 ≤ middle ∧ middle ≤ 6655 := by
        split_ifs at skip <;> omega
      obtain ⟨nextInside, isAhead | ⟨⟨down, atEdge, -⟩, -⟩⟩ :=
        ih middleInside wanted
      · refine ⟨nextInside, .inl (Ahead.trans ?_ isAhead)⟩
        cases swapForY <;> simp at skip ⊢ <;> omega
      · rw [if_pos down] at skip
        omega

end Lookups

section Walkers

variable {pair : LbPair} {ext : BinArrayBitmapExtension} {swapForY : Bool}
variable {start next : Int} {found : Option Int}

/-- The quoter's search returns the array that the lookups lead to. -/
theorem LeadsTo.search (leads : LeadsTo pair ext swapForY start found) :
    ∃ enough, ∀ fuel ≥ enough,
      PassLoop.run (searchPass pair (some ext) swapForY 1) fuel ⟨start, []⟩ =
        some (.ok found.toList) := by
  have first := fun start => searchPass_more pair ext swapForY start
    (show ([] : List Int).length ≠ 1 by decide)
  induction leads with
  | @found start next lookupEq =>
      refine ⟨2, fun fuel atLeast => ?_⟩
      obtain ⟨fuel, rfl⟩ : ∃ rest, fuel = rest + 2 := ⟨fuel - 2, by omega⟩
      have pass := first start
      rw [lookupEq] at pass
      rw [PassLoop.run_next pass]
      exact PassLoop.run_leave (searchPass_done rfl)
  | @skipped start next found lookupEq rest ih =>
      obtain ⟨enough, finished⟩ := ih
      refine ⟨enough + 1, fun fuel atLeast => ?_⟩
      obtain ⟨fuel, rfl⟩ : ∃ rest, fuel = rest + 1 := ⟨fuel - 1, by omega⟩
      have pass := first start
      rw [lookupEq] at pass
      rw [PassLoop.run_next pass]
      exact finished fuel (by omega)
  | @exhausted start lookupEq =>
      refine ⟨1, fun fuel atLeast => ?_⟩
      obtain ⟨fuel, rfl⟩ : ∃ rest, fuel = rest + 1 := ⟨fuel - 1, by omega⟩
      have pass := first start
      rw [lookupEq] at pass
      exact PassLoop.run_leave pass

/-- The bin of an array that the swap reaches first. -/
def nearEnd (swapForY : Bool) (index : Int) : Int :=
  if swapForY then index * 70 + 69 else index * 70

/-- The pool after advancing from one array to another. -/
def LbPair.movedTo (pair : LbPair) (swapForY : Bool) (current next : Int) :
    LbPair :=
  if current = next then pair
  else { pair with activeId := nearEnd swapForY next }

theorem shift_outcome (current : Int) (inside : -6656 ≤ next ∧ next ≤ 6655) :
    (shiftUnlessCurrent swapForY current next).outcome pair =
      (.ok (), pair.movedTo swapForY current next) := by
  have bounds : binArrayLowerUpperBinId next = .ok (next * 70, next * 70 + 69) := by
    have sizeEq : ((maxBinPerArray : Nat) : Int) = 70 := rfl
    rw [binArrayLowerUpperBinId_eq_ok_iff, BoundsFit, sizeEq]
    omega
  rw [LbPair.movedTo, shiftUnlessCurrent]
  by_cases same : current = next
  · rw [if_neg (not_not_intro same), if_pos same]
    rfl
  · rw [if_pos same, if_neg same, shiftActiveBin, bounds]
    rfl

theorem extension_of_lookup {outcome : Option (Int × Bool)}
    (overflows : isOverflowDefaultBinArrayBitmap start = true)
    (lookupEq : nextBinArrayIndexWithLiquidity pair (some ext) swapForY start =
      .ok outcome) :
    match outcome with
    | some found => nextBinArrayIndexWithLiquidityExtension ext swapForY start =
        .ok found
    | none => ∃ message, nextBinArrayIndexWithLiquidityExtension ext swapForY
        start = .error (.err message) := by
  rw [nextBinArrayIndexWithLiquidity, if_pos overflows] at lookupEq
  cases looked : nextBinArrayIndexWithLiquidityExtension ext swapForY start with
  | ok found =>
      rw [looked] at lookupEq
      cases lookupEq
      exact rfl
  | error fault =>
      rw [looked] at lookupEq
      cases fault with
      | err message =>
          cases lookupEq
          exact ⟨message, rfl⟩
      | panic => cases lookupEq

theorem internal_of_lookup {found : Int × Bool}
    (inline : isOverflowDefaultBinArrayBitmap start = false)
    (lookupEq : nextBinArrayIndexWithLiquidity pair (some ext) swapForY start =
      .ok (some found)) :
    nextBinArrayIndexWithLiquidityInternal pair swapForY start = .ok found := by
  rw [nextBinArrayIndexWithLiquidity, inline] at lookupEq
  simp only [Bool.false_eq_true, if_false] at lookupEq
  cases looked : nextBinArrayIndexWithLiquidityInternal pair swapForY start with
  | ok found' =>
      rw [looked] at lookupEq
      cases lookupEq
      rfl
  | error message =>
      rw [looked] at lookupEq
      cases lookupEq

/-- The outcome of advancing from an array, given the array that the lookups
lead to. -/
def Lands (pair : LbPair) (swapForY : Bool) (current : Int)
    (outcome : Except Fault Unit × LbPair) : Option Int → Prop
  | some next => outcome = (.ok (), pair.movedTo swapForY current next)
  | none => ∃ message, outcome = (.error (.err message), pair)

theorem advanceInternal_lands (current : Int)
    (inside : -512 ≤ start ∧ start ≤ 511)
    (leads : LeadsTo pair ext swapForY start found) :
    Lands pair swapForY current
      ((advanceInternalToExtension swapForY current start (some ext)).outcome
        pair) found := by
  have inline : isOverflowDefaultBinArrayBitmap start = false := by
    rw [← Bool.not_eq_true, isOverflow_eq_true_iff]
    omega
  rw [advanceInternalToExtension, outcome_get_bind]
  cases leads with
  | @found _ next lookupEq =>
      rw [internal_of_lookup inline lookupEq]
      exact shift_outcome current (found_ahead (by omega) lookupEq).1
  | exhausted lookupEq =>
      obtain ⟨found, lookupEq', -⟩ := @lookup_inline pair ext start swapForY inside
      rw [lookupEq] at lookupEq'
      cases found <;> cases lookupEq'
  | @skipped _ middle found lookupEq rest =>
      rw [internal_of_lookup inline lookupEq]
      have skip := skipped_to (by omega) lookupEq
      have overflows : isOverflowDefaultBinArrayBitmap middle = true := by
        rw [isOverflow_eq_true_iff]
        split_ifs at skip <;> omega
      have middleInside : -6655 ≤ middle ∧ middle ≤ 6655 := by
        split_ifs at skip <;> omega
      cases rest with
      | @found _ next lookupEq =>
          have looked := extension_of_lookup overflows lookupEq
          simp only at looked
          have moved := @shift_outcome pair swapForY next current
            (found_ahead middleInside lookupEq).1
          rw [Lands, ← moved]
          change InPlaceUpdate.outcome
            (ofResult (nextBinArrayIndexWithLiquidityExtension ext swapForY
              middle) >>= fun looked =>
                shiftUnlessCurrent swapForY current looked.1) pair = _
          rw [looked]
          rfl
      | exhausted lookupEq =>
          obtain ⟨message, looked⟩ := extension_of_lookup overflows lookupEq
          refine ⟨message, ?_⟩
          change InPlaceUpdate.outcome
            (ofResult (nextBinArrayIndexWithLiquidityExtension ext swapForY
              middle) >>= fun looked =>
                shiftUnlessCurrent swapForY current looked.1) pair = _
          rw [looked]
          rfl
      | @skipped _ further _ lookupEq' rest' =>
          have skip' := skipped_to middleInside lookupEq'
          split_ifs at skip skip' <;> omega

theorem activeBinArrayIndex_range
    (activeInside : minBinId ≤ pair.activeId ∧ pair.activeId ≤ maxBinId) :
    -6655 ≤ pair.activeBinArrayIndex ∧ pair.activeBinArrayIndex ≤ 6655 := by
  simp only [minBinId, maxBinId] at activeInside
  simp only [LbPair.activeBinArrayIndex, maxBinPerArray]
  omega

/-- Advancing lands in the array that the lookups lead to. -/
theorem advance_lands
    (activeInside : minBinId ≤ pair.activeId ∧ pair.activeId ≤ maxBinId)
    (leads : LeadsTo pair ext swapForY pair.activeBinArrayIndex found) :
    Lands pair swapForY pair.activeBinArrayIndex
      ((advanceToNextLiquidBinArray swapForY (some ext)).outcome pair) found := by
  have inside := activeBinArrayIndex_range activeInside
  rw [advanceToNextLiquidBinArray, outcome_get_bind,
    binIdToBinArrayIndex_eq activeInside, ← LbPair.activeBinArrayIndex]
  generalize pair.activeBinArrayIndex = start at *
  change Lands pair swapForY start (InPlaceUpdate.outcome
    (if isOverflowDefaultBinArrayBitmap start = true then
      ofResult (nextBinArrayIndexWithLiquidityExtension ext swapForY start) >>=
        fun looked =>
          if looked.2 = true then shiftUnlessCurrent swapForY start looked.1
          else advanceInternalToExtension swapForY start looked.1 (some ext)
    else advanceInternalToExtension swapForY start start (some ext)) pair) found
  by_cases overflows : isOverflowDefaultBinArrayBitmap start = true
  · rw [if_pos overflows]
    cases leads with
    | @found _ next lookupEq =>
        have looked := extension_of_lookup overflows lookupEq
        simp only at looked
        rw [looked, outcome_ofResult_ok_bind, if_pos rfl]
        exact shift_outcome start (found_ahead inside lookupEq).1
    | exhausted lookupEq =>
        obtain ⟨message, looked⟩ := extension_of_lookup overflows lookupEq
        rw [looked, outcome_ofResult_error_bind]
        exact ⟨message, rfl⟩
    | @skipped _ middle found lookupEq rest =>
        have looked := extension_of_lookup overflows lookupEq
        simp only at looked
        rw [looked, outcome_ofResult_ok_bind, if_neg Bool.false_ne_true]
        have skip := skipped_to inside lookupEq
        rw [isOverflow_eq_true_iff] at overflows
        exact advanceInternal_lands start
          (by split_ifs at skip <;> omega) rest
  · rw [if_neg overflows]
    rw [isOverflow_eq_true_iff] at overflows
    exact advanceInternal_lands start (by omega) leads

/-- A lookup that turns back finds an array behind the walk. -/
theorem TurnsBack.leadsBehind (turns : TurnsBack pair ext swapForY start)
    (leads : LeadsTo pair ext swapForY start found) :
    ∃ next, found = some next ∧ start < next := by
  obtain ⟨rfl, rfl, unset, higher, above, inside, isSet⟩ := turns
  obtain ⟨found', lookupEq', upwards, -⟩ :=
    @lookup_positive pair ext 512 true ⟨le_rfl, by decide⟩
  have first := upwards (.inr rfl)
  cases found' with
  | none =>
      have unset' := first higher (ahead_up.mpr above.le) (ahead_up.mpr inside)
      rw [isSet] at unset'
      cases unset'
  | some next =>
      have different : next ≠ 512 := by
        rintro rfl
        rw [first.2.1] at unset
        cases unset
      have behind := (turnsBack_of_upwards first different).2
      cases leads with
      | found lookupEq =>
          rw [lookupEq] at lookupEq'
          cases lookupEq'
          exact ⟨next, rfl, behind⟩
      | skipped lookupEq =>
          rw [lookupEq] at lookupEq'
          cases lookupEq'
      | exhausted lookupEq =>
          rw [lookupEq] at lookupEq'
          cases lookupEq'

end Walkers

section Agreement

variable {pair : LbPair} {ext : BinArrayBitmapExtension} {swapForY : Bool}
variable {next : Int} {found : Option Int}

/-- The pool keeps its active bin if that is in the array found, and otherwise
only the active bin changes, to the nearest bin of that array. -/
def MovesToNearest (pair after : LbPair) : Prop :=
  if after.activeBinArrayIndex = pair.activeBinArrayIndex then after = pair
  else
    after = { pair with activeId := after.activeId } ∧
      ∀ binId : Int, binId / maxBinPerArray = after.activeBinArrayIndex →
        (after.activeId - pair.activeId).natAbs ≤ (binId - pair.activeId).natAbs

/-- Advancing moves to the array whose address the search returned, or fails
and leaves the pool as it was if the search returned none. -/
def AgreesWith (pair : LbPair) (address : Int → Pubkey) (pubkeys : List Pubkey) :
    Except Fault Unit × LbPair → Prop
  | (.ok (), after) =>
      pubkeys = [address after.activeBinArrayIndex] ∧ MovesToNearest pair after
  | (.error (.err _), after) => pubkeys = [] ∧ after = pair
  | (.error .panic, _) => False

/-- The search for one array ends, and advancing agrees with it. -/
def WalkersAgree (pair : LbPair) (ext : BinArrayBitmapExtension)
    (swapForY : Bool) (deriveBinArrayAddress : Pubkey → Int → Pubkey)
    (lbPairPubkey : Pubkey) : Prop :=
  ∃ pubkeys,
    (∃ enough, ∀ fuel ≥ enough,
      getBinArrayPubkeysForSwap pair (some ext) swapForY 1 deriveBinArrayAddress
        lbPairPubkey fuel = some (.ok pubkeys)) ∧
    AgreesWith pair (deriveBinArrayAddress lbPairPubkey) pubkeys
      ((advanceToNextLiquidBinArray swapForY (some ext)).outcome pair)

theorem nearEnd_div (swapForY : Bool) (index : Int) :
    nearEnd swapForY index / maxBinPerArray = index := by
  rw [nearEnd, maxBinPerArray]
  split_ifs <;> omega

theorem activeBinArrayIndex_movedTo (swapForY : Bool) (next : Int) :
    (pair.movedTo swapForY pair.activeBinArrayIndex next).activeBinArrayIndex =
      next := by
  rw [LbPair.movedTo]
  split_ifs with same
  · exact same
  · exact nearEnd_div swapForY next

theorem movesToNearest_iff :
    MovesToNearest pair
        (pair.movedTo swapForY pair.activeBinArrayIndex next) ↔
      Ahead swapForY pair.activeBinArrayIndex next := by
  rw [MovesToNearest, activeBinArrayIndex_movedTo]
  by_cases same : next = pair.activeBinArrayIndex
  · rw [if_pos same, LbPair.movedTo, if_pos same.symm, same]
    exact iff_of_true rfl (Ahead.refl ..)
  · rw [if_neg same, LbPair.movedTo, if_neg (Ne.symm same)]
    have activeIn : pair.activeId / 70 = pair.activeBinArrayIndex := rfl
    generalize pair.activeBinArrayIndex = start at *
    constructor
    · rintro ⟨-, nearest⟩
      have atLower := nearest (next * 70) (by rw [maxBinPerArray]; omega)
      have atUpper := nearest (next * 70 + 69) (by rw [maxBinPerArray]; omega)
      cases swapForY <;> simp only [nearEnd, ahead_up, ahead_down,
        Bool.false_eq_true, if_false, if_true] at * <;> omega
    · intro isAhead
      refine ⟨rfl, fun binId inArray => ?_⟩
      rw [maxBinPerArray] at inArray
      cases swapForY <;> simp only [nearEnd, ahead_up, ahead_down,
        Bool.false_eq_true, if_false, if_true] at * <;> omega

theorem agreesWith_iff {address : Int → Pubkey}
    {outcome : Except Fault Unit × LbPair}
    (lands : Lands pair swapForY pair.activeBinArrayIndex outcome found) :
    AgreesWith pair address (found.toList.map address) outcome ↔
      ∀ next, found = some next → Ahead swapForY pair.activeBinArrayIndex next := by
  cases found with
  | none =>
      obtain ⟨message, rfl⟩ := lands
      exact iff_of_true ⟨rfl, rfl⟩ (fun _ isSome => by cases isSome)
  | some next =>
      rw [Lands] at lands
      rw [lands, AgreesWith, activeBinArrayIndex_movedTo, movesToNearest_iff]
      simp

theorem walkersAgree_iff_ahead {deriveBinArrayAddress : Pubkey → Int → Pubkey}
    {lbPairPubkey : Pubkey}
    (activeInside : minBinId ≤ pair.activeId ∧ pair.activeId ≤ maxBinId)
    (leads : LeadsTo pair ext swapForY pair.activeBinArrayIndex found) :
    WalkersAgree pair ext swapForY deriveBinArrayAddress lbPairPubkey ↔
      ∀ next, found = some next → Ahead swapForY pair.activeBinArrayIndex next := by
  have searched : ∃ enough, ∀ fuel ≥ enough,
      getBinArrayPubkeysForSwap pair (some ext) swapForY 1 deriveBinArrayAddress
        lbPairPubkey fuel =
      some (.ok (found.toList.map (deriveBinArrayAddress lbPairPubkey))) := by
    obtain ⟨enough, finished⟩ := leads.search
    refine ⟨enough, fun fuel atLeast => ?_⟩
    rw [getBinArrayPubkeysForSwap_eq activeInside, finished fuel atLeast]
    rfl
  rw [← agreesWith_iff (advance_lands activeInside leads)]
  constructor
  · rintro ⟨pubkeys, ⟨enough, finished⟩, agrees⟩
    obtain ⟨enough', finished'⟩ := searched
    have same := finished (max enough enough') (le_max_left _ _)
    rw [finished' _ (le_max_right _ _)] at same
    cases same
    exact agrees
  · intro agrees
    exact ⟨_, searched, agrees⟩

theorem not_walkersAgree_of_turnsBack
    {deriveBinArrayAddress : Pubkey → Int → Pubkey} {lbPairPubkey : Pubkey}
    (activeInside : minBinId ≤ pair.activeId ∧ pair.activeId ≤ maxBinId)
    (turns : TurnsBack pair ext swapForY pair.activeBinArrayIndex) :
    ¬ WalkersAgree pair ext swapForY deriveBinArrayAddress lbPairPubkey := by
  obtain ⟨found, leads⟩ := @exists_leadsTo pair ext swapForY
    pair.activeBinArrayIndex (activeBinArrayIndex_inside activeInside)
  rw [walkersAgree_iff_ahead activeInside leads]
  intro isAhead
  obtain ⟨next, foundEq, behind⟩ := turns.leadsBehind leads
  have reached := isAhead next foundEq
  rw [turns.1, ahead_down] at reached
  omega

/-- The two walkers agree exactly when the search does not turn back at the
first index above the inline bitmap. -/
theorem walkersAgree_iff (pair : LbPair) (ext : BinArrayBitmapExtension)
    (swapForY : Bool) (deriveBinArrayAddress : Pubkey → Int → Pubkey)
    (lbPairPubkey : Pubkey)
    (activeInside : minBinId ≤ pair.activeId ∧ pair.activeId ≤ maxBinId) :
    WalkersAgree pair ext swapForY deriveBinArrayAddress lbPairPubkey ↔
      ¬ TurnsBack pair ext swapForY pair.activeBinArrayIndex := by
  constructor
  · intro agree turns
    exact not_walkersAgree_of_turnsBack activeInside turns agree
  · intro straight
    obtain ⟨found, leads⟩ := @exists_leadsTo pair ext swapForY
      pair.activeBinArrayIndex (activeBinArrayIndex_inside activeInside)
    rw [walkersAgree_iff_ahead activeInside leads]
    rintro next rfl
    rcases (leads.ahead (activeBinArrayIndex_range activeInside)).2 with
      isAhead | ⟨turns, -⟩
    · exact isAhead
    · exact absurd turns straight

theorem walkersAgree_inline :
    WalkersAgree { edgePair with activeId := 0 } edgeExtension true
        indexedAddress 0 ↔
      ¬ TurnsBack { edgePair with activeId := 0 } edgeExtension true
        (LbPair.activeBinArrayIndex { edgePair with activeId := 0 }) :=
  walkersAgree_iff _ _ _ _ _ (by decide)

/-- Swapping down from array `512`, both walkers find array `513`, and the
active bin moves to the last bin of it, 69 bins past the first. -/
theorem edgePair_advances_behind :
    (minBinId ≤ edgePair.activeId ∧ edgePair.activeId ≤ maxBinId) ∧
      ¬ WalkersAgree edgePair edgeExtension true indexedAddress 0 := by
  have activeInside :
      minBinId ≤ edgePair.activeId ∧ edgePair.activeId ≤ maxBinId := by decide
  refine ⟨activeInside, not_walkersAgree_of_turnsBack activeInside
    ⟨rfl, rfl, by decide +kernel, 513, by decide, by decide, by decide +kernel⟩⟩

end Agreement

end MeteoraDlmm

end SolanaProtocols
