import Mathlib.Data.Int.ConditionallyCompleteOrder
import Mathlib.Order.Interval.Set.Basic
import Mathlib.Tactic.NormNum
import SolanaProtocols.DlmmBitmapSearch

/-!
# The bin arrays a swap traverses

A search for `takeCount` arrays should return the first `takeCount` of the
flagged indices ahead of the active bin.  Each lookup of the loop removes the
head of that list or skips a stretch without flags, except where the extension
walk turns round or runs off the last page.  `SearchGoesWrong` says which start
indices lead there.
-/

namespace SolanaProtocols

namespace MeteoraDlmm

open BitScan

variable {pair : LbPair} {ext : BinArrayBitmapExtension} {swapForY : Bool}
variable {start next : Int} {takeCount : Nat}

/-- A walk downwards comes to `512` with arrays still to take, finds no flag
there and turns round, since some higher index is flagged.  It comes to `512`
when it starts there or when `513` is flagged. -/
def TurnsRound (pair : LbPair) (ext : BinArrayBitmapExtension) (start : Int)
    (takeCount : Nat) : Prop :=
  512 ≤ start ∧ isFlagged pair ext 512 = false ∧
    (if start = 512 then
        ∃ higher, 512 < higher ∧ higher ≤ 6655 ∧
          isFlagged pair ext higher = true
      else isFlagged pair ext 513 = true) ∧
    (flaggedAhead pair ext true start).countP (513 ≤ ·) < takeCount

/-- A walk uses up all flags and goes on past the last ones of the bitmap. -/
def RunsOff (pair : LbPair) (ext : BinArrayBitmapExtension) (swapForY : Bool)
    (start : Int) (takeCount : Nat) : Prop :=
  (if swapForY then
      isFlagged pair ext (-6655) = true ∨ isFlagged pair ext (-6656) = true
    else isFlagged pair ext 6655 = true) ∧
    (flaggedAhead pair ext swapForY start).length < takeCount

/-- The pools and start indices for which the search does not return what it
should. -/
def SearchGoesWrong (pair : LbPair) (ext : BinArrayBitmapExtension)
    (swapForY : Bool) (start : Int) (takeCount : Nat) : Prop :=
  (swapForY = true ∧ TurnsRound pair ext start takeCount) ∨
    RunsOff pair ext swapForY start takeCount

/-- Start indices the loop can come to: past the bitmap only after its last
index, and to `-6656` only after `-6655`. -/
def Visitable (pair : LbPair) (ext : BinArrayBitmapExtension)
    (swapForY : Bool) (start : Int) : Prop :=
  if swapForY then
    start ≤ 6655 ∧
      (-6655 ≤ start ∨
        (start = -6656 ∧ isFlagged pair ext (-6655) = true) ∨
        (start = -6657 ∧ isFlagged pair ext (-6656) = true))
  else
    -6656 ≤ start ∧
      (start ≤ 6655 ∨ (start = 6656 ∧ isFlagged pair ext 6655 = true))

/-- Start indices at which the lookup is not the one the walk needs. -/
def Misdirected (pair : LbPair) (ext : BinArrayBitmapExtension)
    (swapForY : Bool) (start : Int) : Prop :=
  if swapForY then
    (start = 512 ∧ isFlagged pair ext 512 = false ∧
        ∃ higher, 512 < higher ∧ higher ≤ 6655 ∧
          isFlagged pair ext higher = true) ∨
      (start = -6656 ∧ isFlagged pair ext (-6656) = false) ∨
      start = -6657
  else start = 6656

/-- A lookup that removes the head of the flagged indices ahead, or skips to
the next layer, or finds that there are none. -/
inductive Exact (pair : LbPair) (ext : BinArrayBitmapExtension)
    (swapForY : Bool) (start : Int) :
    Except Fault (Option (Int × Bool)) → Prop
  | found (next : Int)
      (aheadEq : flaggedAhead pair ext swapForY start =
        next :: flaggedAhead pair ext swapForY (next + increment swapForY)) :
      Exact pair ext swapForY start (.ok (some (next, true)))
  | skipped (next : Int)
      (boundary : if swapForY then
          (512 ≤ start ∧ next = 511) ∨
            (-512 ≤ start ∧ start ≤ 511 ∧ next = -513)
        else
          (start ≤ -513 ∧ next = -512) ∨
            (-512 ≤ start ∧ start ≤ 511 ∧ next = 512))
      (aheadEq : flaggedAhead pair ext swapForY start =
        flaggedAhead pair ext swapForY next) :
      Exact pair ext swapForY start (.ok (some (next, false)))
  | exhausted (aheadEq : flaggedAhead pair ext swapForY start = []) :
      Exact pair ext swapForY start (.ok none)

theorem flaggedAhead_pastEnd :
    flaggedAhead pair ext swapForY (walkEnd swapForY + increment swapForY) =
      [] := by
  rw [List.eq_nil_iff_forall_not_mem]
  intro index isAhead
  obtain ⟨inside, -⟩ := mem_flaggedAhead.mp isAhead
  cases swapForY <;> simp at inside <;> omega

theorem exact_inline (inside : -512 ≤ start ∧ start ≤ 511) :
    Exact pair ext swapForY start
      (nextBinArrayIndexWithLiquidity pair (some ext) swapForY start) := by
  obtain ⟨found, lookupEq, first⟩ := lookup_inline inside
  rw [lookupEq]
  cases found with
  | some next =>
      refine .found next (flaggedAhead_of_first ?_ first)
      cases swapForY <;> simp
  | none =>
      refine .skipped _ ?_ ?_
      · cases swapForY <;> simp [inside]
      · rw [flaggedAhead_of_none _ _ first]
        · cases swapForY <;> rfl
        · cases swapForY <;> simp [inside]
        · cases swapForY <;> simp

theorem exact_positive (inside : 512 ≤ start ∧ start ≤ 6655)
    (straight : ¬ Misdirected pair ext swapForY start) :
    Exact pair ext swapForY start
      (nextBinArrayIndexWithLiquidity pair (some ext) swapForY start) := by
  obtain ⟨found, lookupEq, upwards, downwards⟩ := lookup_positive inside
  rw [lookupEq]
  cases swapForY with
  | false =>
      have first := upwards (.inl rfl)
      cases found with
      | some next => exact .found next (flaggedAhead_of_first (by simp) first)
      | none =>
          refine .exhausted ?_
          rw [flaggedAhead_of_none (by simpa using inside.2) (by simp) first]
          exact flaggedAhead_pastEnd
  | true =>
      by_cases edge : start = 512
      · have first := upwards (.inr edge)
        subst edge
        cases found with
        | some next =>
            obtain ⟨⟨above, below⟩, isSet, unset⟩ := first
            rw [ahead_up] at above below
            have nextEq : next = 512 := by
              by_contra away
              refine straight (.inl ⟨rfl, ?_, next, by omega, below, isSet⟩)
              exact unset 512 (by simp) (by simpa using above) (by omega)
            subst nextEq
            refine .found 512 ?_
            rw [flaggedAhead_eq (by simp), isSet, if_pos rfl]
        | none =>
            refine .skipped 511 (by simp) ?_
            have unset := first 512 (by simp) (by simp)
            rw [flaggedAhead_eq (by simp), unset, if_neg Bool.false_ne_true]
            rfl
      · have first := downwards rfl edge
        cases found with
        | some next => exact .found next (flaggedAhead_of_first (by simp) first)
        | none =>
            refine .skipped 511 (by simp [inside]) ?_
            exact flaggedAhead_of_none (by simpa using inside.1) (by simp) first

theorem exact_negative (inside : -6656 ≤ start ∧ start ≤ -513)
    (straight : ¬ Misdirected pair ext swapForY start) :
    Exact pair ext swapForY start
      (nextBinArrayIndexWithLiquidity pair (some ext) swapForY start) := by
  obtain ⟨found, lookupEq, upwards, downwards⟩ := lookup_negative inside
  rw [lookupEq]
  cases swapForY with
  | false =>
      have first := upwards (.inl rfl)
      cases found with
      | some next => exact .found next (flaggedAhead_of_first (by simp) first)
      | none =>
          refine .skipped (-512) (by simp [inside]) ?_
          exact flaggedAhead_of_none (by simpa using inside.2) (by simp) first
  | true =>
      by_cases edge : start = -6656
      · have first := upwards (.inr edge)
        subst edge
        have isSet : isFlagged pair ext (-6656) = true := by
          by_contra unset
          exact straight (.inr (.inl ⟨rfl, by simpa using unset⟩))
        have nextEq : found = some (-6656) := by
          cases found with
          | none => simpa [isSet] using first (-6656) (by simp) (by simp)
          | some next =>
              obtain ⟨⟨above, -⟩, -, unset⟩ := first
              by_contra away
              have := unset (-6656) (by simp) above (by simpa [eq_comm] using away)
              simp [isSet] at this
        subst nextEq
        refine .found (-6656) ?_
        rw [flaggedAhead_eq (by simp), isSet, if_pos rfl]
      · have first := downwards rfl edge
        cases found with
        | some next => exact .found next (flaggedAhead_of_first (by simp) first)
        | none =>
            refine .exhausted ?_
            rw [flaggedAhead_of_none (by simpa using inside.1) (by simp) first]
            exact flaggedAhead_pastEnd

theorem exact_of_visitable (visitable : Visitable pair ext swapForY start)
    (straight : ¬ Misdirected pair ext swapForY start) :
    Exact pair ext swapForY start
      (nextBinArrayIndexWithLiquidity pair (some ext) swapForY start) := by
  have range : -6656 ≤ start ∧ start ≤ 6655 := by
    cases swapForY <;> simp [Visitable, Misdirected] at visitable straight <;>
      omega
  by_cases inline : -512 ≤ start ∧ start ≤ 511
  · exact exact_inline inline
  · by_cases positive : 512 ≤ start
    · exact exact_positive ⟨positive, range.2⟩ straight
    · exact exact_negative ⟨range.1, by omega⟩ straight

theorem not_ahead_of_upwards {last wrong : Int}
    (first : FirstFlagged (isFlagged pair ext) false start last (some wrong))
    (unset : isFlagged pair ext start = false) :
    wrong ∉ flaggedAhead pair ext true start := by
  intro isAhead
  obtain ⟨⟨atLeast, -⟩, wrongSet, -⟩ := first
  obtain ⟨⟨atMost, -⟩, -⟩ := mem_flaggedAhead.mp isAhead
  rw [ahead_up] at atLeast
  rw [ahead_down] at atMost
  rw [le_antisymm atMost atLeast, unset] at wrongSet
  exact Bool.false_ne_true wrongSet

/-- The lookup at a misdirected start panics or returns an index that does not
lie ahead. -/
theorem misdirected_lookup (misdirected : Misdirected pair ext swapForY start)
    (visitable : Visitable pair ext swapForY start) :
    nextBinArrayIndexWithLiquidity pair (some ext) swapForY start =
        .error .panic ∨
      ∃ wrong, nextBinArrayIndexWithLiquidity pair (some ext) swapForY start =
          .ok (some (wrong, true)) ∧
        (-6656 ≤ wrong ∧ wrong ≤ 6655) ∧
        wrong ∉ flaggedAhead pair ext swapForY start := by
  cases swapForY with
  | false =>
      left
      have startEq : start = 6656 := by simpa [Misdirected] using misdirected
      rw [startEq]
      exact lookup_pastEnd
  | true =>
      rw [Misdirected, if_pos rfl] at misdirected
      rcases misdirected with ⟨rfl, unset, higher, above, below, isSet⟩ |
        ⟨rfl, unset⟩ | rfl
      · right
        obtain ⟨found, lookupEq, upwards, -⟩ :=
          @lookup_positive pair ext 512 true (by decide)
        have first := upwards (.inr rfl)
        cases found with
        | none =>
            have := first higher (by simpa using above.le) (by simpa using below)
            simp [isSet] at this
        | some wrong =>
            have notAhead := not_ahead_of_upwards first unset
            obtain ⟨⟨atLeast, inside⟩, -⟩ := first
            rw [ahead_up] at atLeast inside
            exact ⟨wrong, lookupEq, by omega, notAhead⟩
      · right
        have isSet : isFlagged pair ext (-6655) = true := by
          simpa [Visitable] using visitable
        obtain ⟨found, lookupEq, upwards, -⟩ :=
          @lookup_negative pair ext (-6656) true (by decide)
        have first := upwards (.inr rfl)
        cases found with
        | none =>
            have := first (-6655) (by simp) (by simp)
            simp [isSet] at this
        | some wrong =>
            have notAhead := not_ahead_of_upwards first unset
            obtain ⟨⟨atLeast, inside⟩, -⟩ := first
            rw [ahead_up] at atLeast inside
            exact ⟨wrong, lookupEq, by omega, notAhead⟩
      · left
        exact lookup_pastEnd

section Steps

theorem found_inside
    (aheadEq : flaggedAhead pair ext swapForY start =
      next :: flaggedAhead pair ext swapForY (next + increment swapForY)) :
    (Ahead swapForY start next ∧ Ahead swapForY next (walkEnd swapForY)) ∧
      isFlagged pair ext next = true :=
  mem_flaggedAhead.mp (by rw [aheadEq]; exact List.mem_cons_self)

theorem visitable_found (visitable : Visitable pair ext swapForY start)
    (aheadEq : flaggedAhead pair ext swapForY start =
      next :: flaggedAhead pair ext swapForY (next + increment swapForY)) :
    Visitable pair ext swapForY (next + increment swapForY) := by
  obtain ⟨⟨fromStart, inside⟩, isSet⟩ := found_inside aheadEq
  cases swapForY
  · simp only [Visitable, Bool.false_eq_true, if_false, increment_up, ahead_up,
      walkEnd_up] at *
    refine ⟨by omega, ?_⟩
    rcases eq_or_lt_of_le inside with rfl | below
    · exact .inr ⟨rfl, isSet⟩
    · exact .inl (by omega)
  · simp only [Visitable, if_true, increment_down, ahead_down,
      walkEnd_down] at *
    refine ⟨by omega, ?_⟩
    by_cases last : next = -6656
    · exact .inr (.inr ⟨by omega, last ▸ isSet⟩)
    · by_cases lastButOne : next = -6655
      · exact .inr (.inl ⟨by omega, lastButOne ▸ isSet⟩)
      · exact .inl (by omega)

/-- Finding an index uses up one of the arrays to take, and leaves the outcome
open. -/
theorem searchGoesWrong_found
    (straight : ¬ Misdirected pair ext swapForY start)
    (aheadEq : flaggedAhead pair ext swapForY start =
      next :: flaggedAhead pair ext swapForY (next + increment swapForY)) :
    SearchGoesWrong pair ext swapForY start (takeCount + 1) ↔
      SearchGoesWrong pair ext swapForY (next + increment swapForY)
        takeCount := by
  have runsOff : RunsOff pair ext swapForY start (takeCount + 1) ↔
      RunsOff pair ext swapForY (next + increment swapForY) takeCount := by
    rw [RunsOff, RunsOff, aheadEq, List.length_cons, Nat.add_lt_add_iff_right]
  refine or_congr (and_congr_right fun down => ?_) runsOff
  subst down
  obtain ⟨⟨fromStart, -⟩, nextSet⟩ := found_inside aheadEq
  rw [ahead_down] at fromStart
  rw [increment_down] at aheadEq ⊢
  have below : ∀ index ∈ flaggedAhead pair ext true (next + -1),
      index < next := by
    intro index isAhead
    obtain ⟨⟨fromNext, -⟩, -⟩ := mem_flaggedAhead.mp isAhead
    rw [ahead_down] at fromNext
    omega
  by_cases enough : 513 ≤ next
  · have startNe : start ≠ 512 := by omega
    have condition : (if next + -1 = 512 then
        ∃ higher, 512 < higher ∧ higher ≤ 6655 ∧
          isFlagged pair ext higher = true
        else isFlagged pair ext 513 = true) ↔
        isFlagged pair ext 513 = true := by
      split_ifs with reached
      · have nextEq : next = 513 := by omega
        subst nextEq
        exact ⟨fun _ => nextSet, fun isSet => ⟨513, by omega, by omega, isSet⟩⟩
      · rfl
    rw [TurnsRound, TurnsRound, if_neg startNe, condition, aheadEq,
      List.countP_cons_of_pos (by simpa using enough), Nat.add_lt_add_iff_right]
    refine and_congr_left fun _ => ?_
    omega
  · constructor
    · rintro ⟨startGe, unset, condition, -⟩
      exfalso
      split_ifs at condition with startEq
      · exact straight (.inl ⟨startEq, unset, condition⟩)
      · have isAhead : (513 : Int) ∈ flaggedAhead pair ext true start :=
          mem_flaggedAhead.mpr ⟨by simp; omega, condition⟩
        rw [aheadEq, List.mem_cons] at isAhead
        rcases isAhead with nextEq | isAhead
        · omega
        · exact enough (below _ isAhead).le
    · rintro ⟨reached, -⟩
      omega

theorem searchGoesWrong_skipped
    (straight : ¬ Misdirected pair ext swapForY start)
    (boundary : if swapForY then
        (512 ≤ start ∧ next = 511) ∨
          (-512 ≤ start ∧ start ≤ 511 ∧ next = -513)
      else
        (start ≤ -513 ∧ next = -512) ∨
          (-512 ≤ start ∧ start ≤ 511 ∧ next = 512))
    (aheadEq : flaggedAhead pair ext swapForY start =
      flaggedAhead pair ext swapForY next) :
    SearchGoesWrong pair ext swapForY start takeCount ↔
      SearchGoesWrong pair ext swapForY next takeCount := by
  have runsOff : RunsOff pair ext swapForY start takeCount ↔
      RunsOff pair ext swapForY next takeCount := by
    rw [RunsOff, RunsOff, aheadEq]
  refine or_congr (and_congr_right fun down => ?_) runsOff
  subst down
  rw [if_pos rfl] at boundary
  have nextLt : next < 512 := by omega
  constructor
  · rintro ⟨startGe, unset, condition, -⟩
    exfalso
    split_ifs at condition with startEq
    · exact straight (.inl ⟨startEq, unset, condition⟩)
    · have isAhead : (513 : Int) ∈ flaggedAhead pair ext true start :=
        mem_flaggedAhead.mpr ⟨by simp; omega, condition⟩
      rw [aheadEq] at isAhead
      obtain ⟨⟨fromNext, -⟩, -⟩ := mem_flaggedAhead.mp isAhead
      rw [ahead_down] at fromNext
      omega
  · rintro ⟨reached, -⟩
    omega

/-- A misdirected start is where the search goes wrong, if it still has arrays
to take. -/
theorem searchGoesWrong_of_misdirected
    (misdirected : Misdirected pair ext swapForY start)
    (visitable : Visitable pair ext swapForY start) (more : 0 < takeCount) :
    SearchGoesWrong pair ext swapForY start takeCount := by
  cases swapForY with
  | false =>
      have startEq : start = walkEnd false + increment false := by
        simpa [Misdirected] using misdirected
      have lastSet : isFlagged pair ext 6655 = true := by
        simpa [Visitable, startEq] using visitable
      refine .inr ⟨lastSet, ?_⟩
      rw [startEq, flaggedAhead_pastEnd]
      exact more
  | true =>
      rw [Misdirected, if_pos rfl] at misdirected
      rcases misdirected with ⟨rfl, unset, higher⟩ | ⟨rfl, unset⟩ | rfl
      · refine .inl ⟨rfl, le_rfl, unset, by rwa [if_pos rfl], ?_⟩
        rw [List.countP_eq_zero.mpr]
        · exact more
        · intro index isAhead
          obtain ⟨⟨fromStart, -⟩, -⟩ := mem_flaggedAhead.mp isAhead
          rw [ahead_down] at fromStart
          simp only [decide_eq_true_eq]
          omega
      · have lastSet : isFlagged pair ext (-6655) = true := by
          simpa [Visitable] using visitable
        refine .inr ⟨.inl lastSet, ?_⟩
        rw [flaggedAhead_eq (by simp), unset, if_neg Bool.false_ne_true]
        exact (congrArg List.length flaggedAhead_pastEnd).trans_lt more
      · have lastSet : isFlagged pair ext (-6656) = true := by
          simpa [Visitable] using visitable
        refine .inr ⟨.inr lastSet, ?_⟩
        exact (congrArg List.length flaggedAhead_pastEnd).trans_lt more

/-- When no flags are left and nothing misdirects the lookup, the search ends as
it should. -/
theorem not_searchGoesWrong_exhausted
    (straight : ¬ Misdirected pair ext swapForY start)
    (visitable : Visitable pair ext swapForY start)
    (aheadEq : flaggedAhead pair ext swapForY start = []) :
    ¬ SearchGoesWrong pair ext swapForY start takeCount := by
  have noneAhead : ∀ index, Ahead swapForY start index →
      Ahead swapForY index (walkEnd swapForY) →
      isFlagged pair ext index ≠ true := by
    intro index fromStart inside isSet
    have isAhead := mem_flaggedAhead.mpr ⟨⟨fromStart, inside⟩, isSet⟩
    rw [aheadEq] at isAhead
    exact List.not_mem_nil isAhead
  rintro (⟨rfl, startGe, unset, condition, -⟩ | ⟨lastSet, -⟩)
  · split_ifs at condition with startEq
    · exact straight (.inl ⟨startEq, unset, condition⟩)
    · exact noneAhead 513 (by simp; omega) (by simp) condition
  · cases swapForY with
    | false =>
        have startLe : start ≤ 6655 := by
          simp [Visitable, Misdirected] at visitable straight
          omega
        exact noneAhead 6655 (by simpa using startLe) (by simp) lastSet
    | true =>
        rw [Visitable, if_pos rfl] at visitable
        rw [Misdirected, if_pos rfl, not_or, not_or] at straight
        have startGe : -6656 ≤ start := by omega
        have lastUnset := noneAhead (-6656) (by simpa using startGe) (by simp)
        have startNe : start ≠ -6656 := fun startEq =>
          straight.2.1 ⟨startEq, by simpa using lastUnset⟩
        rcases lastSet with lastButOne | last
        · exact noneAhead (-6655) (by simp; omega) (by simp) lastButOne
        · exact lastUnset last

theorem inside_of_ahead (visitable : Visitable pair ext swapForY start)
    (isAhead : next ∈ flaggedAhead pair ext swapForY start) :
    -6656 ≤ next ∧ next ≤ 6655 := by
  have inside := (mem_flaggedAhead.mp isAhead).1
  cases swapForY <;> simp [Visitable] at visitable inside <;> omega

theorem not_searchGoesWrong_zero :
    ¬ SearchGoesWrong pair ext swapForY start 0 := by
  rintro (⟨-, -, -, -, less⟩ | ⟨-, less⟩) <;> omega

end Steps

section Run

variable {indices result : List Int} {fuel : Nat}

theorem searchPass_done (taken : indices.length = takeCount) :
    searchPass pair (some ext) swapForY takeCount ⟨start, indices⟩ =
      some (.leave (.ok indices)) :=
  if_pos taken

variable (pair ext swapForY start) in
theorem searchPass_more (more : indices.length ≠ takeCount) :
    searchPass pair (some ext) swapForY takeCount ⟨start, indices⟩ =
      some (useLookup swapForY ⟨start, indices⟩
        (nextBinArrayIndexWithLiquidity pair (some ext) swapForY start)) :=
  if_neg more

/-- The loop only appends to the indices it has found. -/
theorem prefix_of_run
    (finished : PassLoop.run (searchPass pair (some ext) swapForY takeCount)
      fuel ⟨start, indices⟩ = some (.ok result)) :
    indices <+: result := by
  induction fuel generalizing start indices with
  | zero => simp [PassLoop.run] at finished
  | succ fuel ih =>
      by_cases taken : indices.length = takeCount
      · rw [PassLoop.run_leave (searchPass_done taken)] at finished
        cases finished
        exact List.prefix_rfl
      · have pass := searchPass_more pair ext swapForY start taken
        generalize nextBinArrayIndexWithLiquidity pair (some ext) swapForY start
          = outcome at pass
        rcases outcome with fault | _ | ⟨next, flagged⟩
        · rw [PassLoop.run_leave pass] at finished
          cases finished
        · rw [PassLoop.run_leave pass] at finished
          cases finished
          exact List.prefix_rfl
        · cases flagged with
          | true =>
              rw [PassLoop.run_next pass] at finished
              exact (List.prefix_append _ _).trans (ih finished)
          | false =>
              rw [PassLoop.run_next pass] at finished
              exact ih finished

/-- Bitmap layers between a start index and the edge of the bitmap. -/
def layersLeft (swapForY : Bool) (start : Int) : Nat :=
  if swapForY then
    if 511 < start then 2 else if -512 ≤ start then 1 else 0
  else
    if start < -512 then 2 else if start ≤ 511 then 1 else 0

theorem layersLeft_found (fromStart : Ahead swapForY start next) :
    layersLeft swapForY (next + increment swapForY) ≤
      layersLeft swapForY start := by
  cases swapForY
  · rw [ahead_up] at fromStart
    rw [increment_up]
    grind [layersLeft]
  · rw [ahead_down] at fromStart
    rw [increment_down]
    grind [layersLeft]

theorem layersLeft_skipped
    (boundary : if swapForY then
        (512 ≤ start ∧ next = 511) ∨
          (-512 ≤ start ∧ start ≤ 511 ∧ next = -513)
      else
        (start ≤ -513 ∧ next = -512) ∨
          (-512 ≤ start ∧ start ≤ 511 ∧ next = 512)) :
    layersLeft swapForY next < layersLeft swapForY start ∧
      Visitable pair ext swapForY next := by
  cases swapForY <;> grind [layersLeft, Visitable]

/-- Where nothing goes wrong the loop returns the first flagged indices ahead.
-/
theorem run_of_right (visitable : Visitable pair ext swapForY start)
    (takenLe : indices.length ≤ takeCount)
    (right : ¬ SearchGoesWrong pair ext swapForY start
      (takeCount - indices.length))
    (enough : takeCount - indices.length + layersLeft swapForY start < fuel) :
    PassLoop.run (searchPass pair (some ext) swapForY takeCount) fuel
        ⟨start, indices⟩ =
      some (.ok (indices ++ (flaggedAhead pair ext swapForY start).take
        (takeCount - indices.length))) := by
  induction fuel generalizing start indices with
  | zero => omega
  | succ fuel ih =>
      by_cases taken : indices.length = takeCount
      · rw [PassLoop.run_leave (searchPass_done taken), taken, Nat.sub_self,
          List.take_zero, List.append_nil]
      · obtain ⟨more, moreEq⟩ :
            ∃ more, takeCount - indices.length = more + 1 :=
          ⟨takeCount - indices.length - 1, by omega⟩
        rw [moreEq] at right enough ⊢
        have straight : ¬ Misdirected pair ext swapForY start :=
          fun misdirected => right
            (searchGoesWrong_of_misdirected misdirected visitable (by omega))
        have pass := searchPass_more pair ext swapForY start taken
        have lookup := exact_of_visitable visitable straight
        generalize nextBinArrayIndexWithLiquidity pair (some ext) swapForY start
          = outcome at pass lookup
        cases lookup with
        | found next aheadEq =>
            dsimp only [useLookup] at pass
            rw [searchGoesWrong_found straight aheadEq] at right
            have moreEq' : takeCount - (indices ++ [next]).length = more := by
              rw [List.length_append, List.length_singleton]
              omega
            have layers := layersLeft_found (found_inside aheadEq).1.1
            rw [PassLoop.run_next pass, ih (visitable_found visitable aheadEq),
              moreEq', aheadEq, List.take_succ_cons, List.append_assoc,
              List.singleton_append]
            · rw [List.length_append, List.length_singleton]
              omega
            · rwa [moreEq']
            · rw [moreEq']
              omega
        | skipped next boundary aheadEq =>
            dsimp only [useLookup] at pass
            rw [searchGoesWrong_skipped straight boundary aheadEq] at right
            obtain ⟨layers, visitable'⟩ := layersLeft_skipped boundary
            rw [PassLoop.run_next pass, ih visitable' takenLe, moreEq, aheadEq]
            · rwa [moreEq]
            · omega
        | exhausted aheadEq =>
            rw [PassLoop.run_leave pass, aheadEq, List.take_nil,
              List.append_nil]

theorem differs_of_stray {address : Int → Pubkey} {later count : Nat}
    {resume : Int} (injective : Set.InjOn address (Set.Icc (-6656) 6655))
    (visitable : Visitable pair ext swapForY start)
    (nextRange : -6656 ≤ next ∧ next ≤ 6655)
    (notAhead : next ∉ flaggedAhead pair ext swapForY start)
    (finished : PassLoop.run (searchPass pair (some ext) swapForY takeCount)
      later ⟨resume, indices ++ [next]⟩ = some (.ok result)) :
    result.map address ≠
      (indices ++ (flaggedAhead pair ext swapForY start).take count).map
        address := by
  intro same
  have begins := (prefix_of_run finished).map address
  rw [same, List.map_append, List.map_append,
    List.prefix_append_right_inj] at begins
  have member : address next ∈
      ((flaggedAhead pair ext swapForY start).take count).map address :=
    begins.subset (by simp)
  obtain ⟨index, isTaken, addressEq⟩ := List.mem_map.mp member
  have isAhead := List.mem_of_mem_take isTaken
  have indexRange : -6656 ≤ index ∧ index ≤ 6655 :=
    inside_of_ahead visitable isAhead
  rw [injective indexRange nextRange addressEq] at isAhead
  exact notAhead isAhead

/-- Where the search goes wrong the loop does not return the addresses of the
first flagged indices ahead. -/
theorem run_of_wrong {address : Int → Pubkey}
    (injective : Set.InjOn address (Set.Icc (-6656) 6655))
    (visitable : Visitable pair ext swapForY start)
    (takenLe : indices.length ≤ takeCount)
    (wrong : SearchGoesWrong pair ext swapForY start
      (takeCount - indices.length))
    (finished : PassLoop.run (searchPass pair (some ext) swapForY takeCount)
      fuel ⟨start, indices⟩ = some (.ok result)) :
    result.map address ≠
      (indices ++ (flaggedAhead pair ext swapForY start).take
        (takeCount - indices.length)).map address := by
  induction fuel generalizing start indices with
  | zero => simp [PassLoop.run] at finished
  | succ fuel ih =>
      have taken : indices.length ≠ takeCount := by
        rintro taken
        rw [taken, Nat.sub_self] at wrong
        exact not_searchGoesWrong_zero wrong
      obtain ⟨more, moreEq⟩ :
          ∃ more, takeCount - indices.length = more + 1 :=
        ⟨takeCount - indices.length - 1, by omega⟩
      rw [moreEq] at wrong ⊢
      have pass := searchPass_more pair ext swapForY start taken
      by_cases misdirected : Misdirected pair ext swapForY start
      · rcases misdirected_lookup misdirected visitable with
          lookupEq | ⟨next, lookupEq, nextRange, notAhead⟩
        · rw [lookupEq] at pass
          rw [PassLoop.run_leave pass] at finished
          cases finished
        · rw [lookupEq] at pass
          rw [PassLoop.run_next pass] at finished
          exact differs_of_stray injective visitable nextRange notAhead finished
      · have lookup := exact_of_visitable visitable misdirected
        generalize nextBinArrayIndexWithLiquidity pair (some ext) swapForY start
          = outcome at pass lookup
        cases lookup with
        | found next aheadEq =>
            dsimp only [useLookup] at pass
            rw [searchGoesWrong_found misdirected aheadEq] at wrong
            have moreEq' : takeCount - (indices ++ [next]).length = more := by
              rw [List.length_append, List.length_singleton]
              omega
            rw [PassLoop.run_next pass] at finished
            have different := ih (visitable_found visitable aheadEq)
              (by rw [List.length_append, List.length_singleton]; omega)
              (by rwa [moreEq']) finished
            rwa [moreEq', List.append_assoc, List.singleton_append,
              ← List.take_succ_cons, ← aheadEq] at different
        | skipped next boundary aheadEq =>
            dsimp only [useLookup] at pass
            rw [searchGoesWrong_skipped misdirected boundary aheadEq] at wrong
            rw [PassLoop.run_next pass] at finished
            have different := ih (layersLeft_skipped boundary).2 takenLe
              (by rwa [moreEq]) finished
            rwa [moreEq, ← aheadEq] at different
        | exhausted aheadEq =>
            exact absurd wrong
              (not_searchGoesWrong_exhausted misdirected visitable aheadEq)

end Run

section Search

variable {deriveBinArrayAddress : Pubkey → Int → Pubkey}
variable {lbPairPubkey : Pubkey} {fuel : Nat}

/-- Index of the array containing the active bin. -/
def LbPair.activeBinArrayIndex (pair : LbPair) : Int :=
  pair.activeId / maxBinPerArray

/-- The search ends and returns the addresses of the first `takeCount` flagged
arrays from the one containing the active bin, or of all when there are fewer.
-/
def ReturnsFlagged (pair : LbPair) (ext : BinArrayBitmapExtension)
    (swapForY : Bool) (takeCount : Nat)
    (deriveBinArrayAddress : Pubkey → Int → Pubkey) (lbPairPubkey : Pubkey) :
    Prop :=
  ∃ enough, ∀ fuel ≥ enough,
    getBinArrayPubkeysForSwap pair (some ext) swapForY takeCount
        deriveBinArrayAddress lbPairPubkey fuel =
      some (.ok (((flaggedAhead pair ext swapForY
        pair.activeBinArrayIndex).take takeCount).map
          (deriveBinArrayAddress lbPairPubkey)))

theorem visitable_active
    (activeInside : minBinId ≤ pair.activeId ∧ pair.activeId ≤ maxBinId) :
    Visitable pair ext swapForY pair.activeBinArrayIndex := by
  simp only [minBinId, maxBinId] at activeInside
  have inside : -6655 ≤ pair.activeBinArrayIndex ∧
      pair.activeBinArrayIndex ≤ 6655 := by
    simp only [LbPair.activeBinArrayIndex, maxBinPerArray]
    omega
  cases swapForY
  · exact ⟨by omega, .inl inside.2⟩
  · exact ⟨inside.2, .inl inside.1⟩

theorem getBinArrayPubkeysForSwap_eq
    (activeInside : minBinId ≤ pair.activeId ∧ pair.activeId ≤ maxBinId) :
    getBinArrayPubkeysForSwap pair (some ext) swapForY takeCount
        deriveBinArrayAddress lbPairPubkey fuel =
      (PassLoop.run (searchPass pair (some ext) swapForY takeCount) fuel
        ⟨pair.activeBinArrayIndex, []⟩).map
          (Except.map (List.map (deriveBinArrayAddress lbPairPubkey))) := by
  rw [getBinArrayPubkeysForSwap, getBinArrayIndicesForSwap,
    binIdToBinArrayIndex_eq activeInside]
  rfl

theorem returnsFlagged_of_right
    (activeInside : minBinId ≤ pair.activeId ∧ pair.activeId ≤ maxBinId)
    (right : ¬ SearchGoesWrong pair ext swapForY pair.activeBinArrayIndex
      takeCount) :
    ReturnsFlagged pair ext swapForY takeCount deriveBinArrayAddress
      lbPairPubkey := by
  refine ⟨takeCount + layersLeft swapForY pair.activeBinArrayIndex + 1,
    fun fuel enough => ?_⟩
  rw [getBinArrayPubkeysForSwap_eq activeInside,
    run_of_right (visitable_active activeInside) (Nat.zero_le _) right
      (by rw [List.length_nil]; omega)]
  rfl

theorem not_returnsFlagged_of_wrong
    (activeInside : minBinId ≤ pair.activeId ∧ pair.activeId ≤ maxBinId)
    (injective : Set.InjOn (deriveBinArrayAddress lbPairPubkey)
      (Set.Icc (-6656) 6655))
    (wrong : SearchGoesWrong pair ext swapForY pair.activeBinArrayIndex
      takeCount) :
    ¬ ReturnsFlagged pair ext swapForY takeCount deriveBinArrayAddress
      lbPairPubkey := by
  rintro ⟨enough, returned⟩
  have finished := returned enough le_rfl
  rw [getBinArrayPubkeysForSwap_eq activeInside, Option.map_eq_some_iff]
    at finished
  obtain ⟨outcome, finished, outcomeEq⟩ := finished
  cases outcome with
  | error fault => cases outcomeEq
  | ok result =>
      exact run_of_wrong injective (visitable_active activeInside)
        (Nat.zero_le _) wrong finished (Except.ok.inj outcomeEq)

/-- The search returns the first flagged arrays exactly when it does not turn
round at `512` and does not run off the last page. -/
theorem returnsFlagged_iff
    (activeInside : minBinId ≤ pair.activeId ∧ pair.activeId ≤ maxBinId)
    (injective : Set.InjOn (deriveBinArrayAddress lbPairPubkey)
      (Set.Icc (-6656) 6655)) :
    ReturnsFlagged pair ext swapForY takeCount deriveBinArrayAddress
        lbPairPubkey ↔
      ¬ SearchGoesWrong pair ext swapForY pair.activeBinArrayIndex takeCount :=
  ⟨fun returned wrong =>
      not_returnsFlagged_of_wrong activeInside injective wrong returned,
    returnsFlagged_of_right activeInside⟩

/-- Addresses that keep the index in the low bits. -/
def indexedAddress (lbPairPubkey : Pubkey) (index : Int) : Pubkey :=
  lbPairPubkey + BitVec.ofInt 256 index

theorem indexedAddress_injOn_i64 (lbPairPubkey : Pubkey) :
    Set.InjOn (indexedAddress lbPairPubkey) (Set.Ico (-2 ^ 63) (2 ^ 63)) := by
  intro index inside other inside' same
  rw [Set.mem_Ico] at inside inside'
  have bits : BitVec.ofInt 256 index = BitVec.ofInt 256 other := by
    simpa [indexedAddress] using same
  have integers := congrArg BitVec.toInt bits
  rw [BitVec.toInt_ofInt, BitVec.toInt_ofInt,
    Int.bmod_eq_of_le (by norm_num; omega) (by norm_num; omega),
    Int.bmod_eq_of_le (by norm_num; omega) (by norm_num; omega)] at integers
  exact integers

theorem indexedAddress_injOn (lbPairPubkey : Pubkey) :
    Set.InjOn (indexedAddress lbPairPubkey) (Set.Icc (-6656) 6655) :=
  (indexedAddress_injOn_i64 lbPairPubkey).mono
    (Set.Icc_subset_Ico (by norm_num) (by norm_num))

/-- A pool with its active bin in array `512` and liquidity in array `0`. -/
def edgePair : LbPair where
  parameters := ⟨0, 0, 0, 0, 0, 0, 0, 0⟩
  vParameters := ⟨0, 0, 0, 0⟩
  pairType := 0
  activeId := 35840
  binStep := 1
  status := 0
  activationType := 0
  binArrayBitmap := arrayZeroFlagged
  activationPoint := 0

/-- A bitmap extension with liquidity in array `513`. -/
def edgeExtension : BinArrayBitmapExtension where
  positiveBinArrayBitmap :=
    (Vector.replicate 12 (Vector.replicate 8 0)).set 0
      ((Vector.replicate 8 0).set 0 2)
  negativeBinArrayBitmap := Vector.replicate 12 (Vector.replicate 8 0)

theorem returnsFlagged_inline :
    ReturnsFlagged { edgePair with activeId := 0 } edgeExtension true 1
        indexedAddress 0 ↔
      ¬ SearchGoesWrong { edgePair with activeId := 0 } edgeExtension true
        (LbPair.activeBinArrayIndex { edgePair with activeId := 0 }) 1 :=
  returnsFlagged_iff (by decide) (indexedAddress_injOn 0)

theorem edgePair_misdirected : Misdirected edgePair edgeExtension true 512 :=
  .inl ⟨rfl, by decide +kernel, 513, by decide, by decide, by decide +kernel⟩

/-- Walking down from array `512` the search returns array `513`, which lies
behind the start. -/
theorem edgePair_returns_behind :
    (minBinId ≤ edgePair.activeId ∧ edgePair.activeId ≤ maxBinId) ∧
      Set.InjOn (indexedAddress 0) (Set.Icc (-6656) 6655) ∧
      edgePair.activeBinArrayIndex = 512 ∧
      getBinArrayPubkeysForSwap edgePair (some edgeExtension) true 1
          indexedAddress 0 2 =
        some (.ok [indexedAddress 0 513]) ∧
      ¬ ReturnsFlagged edgePair edgeExtension true 1 indexedAddress 0 := by
  have activeInside :
      minBinId ≤ edgePair.activeId ∧ edgePair.activeId ≤ maxBinId := by decide
  refine ⟨activeInside, indexedAddress_injOn 0, rfl, by decide +kernel, ?_⟩
  exact not_returnsFlagged_of_wrong activeInside (indexedAddress_injOn 0)
    (searchGoesWrong_of_misdirected edgePair_misdirected
      (visitable_active activeInside) Nat.one_pos)

end Search

end MeteoraDlmm

end SolanaProtocols
