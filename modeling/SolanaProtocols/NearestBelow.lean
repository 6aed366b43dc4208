import Mathlib.Order.Bounds.Basic

/-!
# The nearest entry below

For a sequence of heights, the last earlier entry that is lower than a limit is
found on a stack: each entry is pushed after everything not below it is popped.
What was popped is never the answer, since the entry that is pushed over it is
both nearer and no higher.
-/

namespace NearestBelow

variable {Height : Type} [LinearOrder Height] {height : Nat → Height}
  {count index : Nat} {limit : Height}

/-- The last of the first entries that is below a limit. -/
def nearest (height : Nat → Height) (limit : Height) : Nat → Option Nat
  | 0 => none
  | count + 1 =>
      if height count < limit then some count else nearest height limit count

theorem nearest_eq_some_iff :
    nearest height limit count = some index ↔
      IsGreatest {earlier | earlier < count ∧ height earlier < limit} index := by
  induction count with
  | zero => exact iff_of_false nofun fun greatest => absurd greatest.1.1 (Nat.not_lt_zero _)
  | succ count ih =>
      rw [nearest]
      by_cases below : height count < limit
      · rw [if_pos below, Option.some.injEq]
        have greatest : IsGreatest
            {earlier | earlier < count + 1 ∧ height earlier < limit} count :=
          ⟨⟨Nat.lt_succ_self count, below⟩, fun earlier inside => Nat.le_of_lt_succ inside.1⟩
        constructor
        · rintro rfl
          exact greatest
        · exact fun other => greatest.unique other
      · have same : {earlier | earlier < count + 1 ∧ height earlier < limit} =
            {earlier | earlier < count ∧ height earlier < limit} := by
          ext earlier
          constructor
          · rintro ⟨inside, lower⟩
            rcases Nat.lt_succ_iff_lt_or_eq.mp inside with before | rfl
            · exact ⟨before, lower⟩
            · exact absurd lower below
          · rintro ⟨inside, lower⟩
            exact ⟨Nat.lt_succ_of_lt inside, lower⟩
        rw [if_neg below, ih, same]

theorem nearest_eq_none_iff :
    nearest height limit count = none ↔ ∀ earlier < count, limit ≤ height earlier := by
  induction count with
  | zero => exact iff_of_true rfl nofun
  | succ count ih =>
      rw [nearest]
      by_cases below : height count < limit
      · rw [if_pos below]
        refine iff_of_false nofun fun above => ?_
        exact absurd (above count (Nat.lt_succ_self count)) (not_le.mpr below)
      · rw [if_neg below, ih]
        constructor
        · intro above earlier inside
          rcases Nat.lt_succ_iff_lt_or_eq.mp inside with before | rfl
          · exact above earlier before
          · exact not_lt.mp below
        · exact fun above earlier inside => above earlier (Nat.lt_succ_of_lt inside)

/-- Entries with their heights, innermost first. -/
abbrev Stack (Height : Type) := List (Nat × Height)

/-- The first entry of a stack below a limit. -/
def firstBelow (stack : Stack Height) (limit : Height) : Option Nat :=
  (stack.find? fun entry => entry.2 < limit).map Prod.fst

/-- Leave out what is not below a limit. -/
def popTo (stack : Stack Height) (limit : Height) : Stack Height :=
  stack.dropWhile fun entry => limit ≤ entry.2

variable {stack : Stack Height}

/-- After popping to a limit, the top is the first entry below it. -/
theorem head?_popTo :
    (popTo stack limit).head?.map Prod.fst = firstBelow stack limit := by
  induction stack with
  | nil => rfl
  | cons entry stack ih =>
      rw [popTo, firstBelow, List.dropWhile_cons, List.find?_cons]
      by_cases above : limit ≤ entry.2
      · simp only [decide_eq_true above, if_true, decide_eq_false (not_lt.mpr above)]
        exact ih
      · simp only [decide_eq_false above, decide_eq_true (not_le.mp above),
          Bool.false_eq_true, if_false, List.head?_cons]

/-- What is popped to a limit is not below a lower one. -/
theorem firstBelow_popTo {lower : Height} (le : lower ≤ limit) :
    firstBelow (popTo stack limit) lower = firstBelow stack lower := by
  induction stack with
  | nil => rfl
  | cons entry stack ih =>
      rw [popTo, List.dropWhile_cons]
      by_cases above : limit ≤ entry.2
      · have kept : ¬ entry.2 < lower := not_lt.mpr (le.trans above)
        simp only [decide_eq_true above, if_true]
        rw [firstBelow, firstBelow, List.find?_cons, decide_eq_false kept]
        exact ih
      · simp only [decide_eq_false above, Bool.false_eq_true, if_false]

/-- The stack answers for every limit what the sequence answers. -/
def Mirrors (height : Nat → Height) (count : Nat) (stack : Stack Height) : Prop :=
  ∀ limit, firstBelow stack limit = nearest height limit count

namespace Mirrors

theorem empty : Mirrors height 0 [] :=
  fun _ => rfl

theorem top (mirrors : Mirrors height count stack) :
    (popTo stack limit).head?.map Prod.fst = nearest height limit count :=
  head?_popTo.trans (mirrors limit)

theorem push (mirrors : Mirrors height count stack) :
    Mirrors height (count + 1)
      ((count, height count) :: popTo stack (height count)) := by
  intro limit
  rw [nearest, firstBelow, List.find?_cons]
  by_cases below : height count < limit
  · simp only [decide_eq_true below, if_pos below, Option.map_some]
  · simp only [decide_eq_false below, if_neg below]
    rw [← firstBelow, firstBelow_popTo (not_lt.mp below), mirrors limit]

end Mirrors

end NearestBelow
