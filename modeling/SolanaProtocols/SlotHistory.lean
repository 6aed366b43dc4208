import Mathlib.Data.Finset.Sort
import Mathlib.Order.Bounds.Basic

/-!
# Bounded histories of timestamped observations

A source delivers observations in order of time, several of them possibly at
one time.  Keeping the last observation of each time, newest first and a bounded
number of them, is enough to answer what the state was as of any time that is
recent enough.  The file relates the bounded list to all observations.
-/

namespace SolanaProtocols

namespace SlotHistory

variable {α Slot : Type*} [LinearOrder Slot] (slot : α → Slot)

/-- Newest first, where observations at one slot may follow each other. -/
def Ordered (observations : List α) : Prop :=
  observations.Pairwise fun newer older => slot older ≤ slot newer

/-- Newest first, with one observation at each slot. -/
def Decreasing (observations : List α) : Prop :=
  observations.Pairwise fun newer older => slot older < slot newer

/-- The last observation at each slot. -/
def latest : List α → List α
  | [] => []
  | newest :: older =>
      newest :: (latest older).filter (slot · ≠ slot newest)

/-- The slots of observations. -/
def slots (observations : List α) : Finset Slot :=
  (observations.map slot).toFinset

/-- The given number of greatest elements of a set. -/
def mostRecent (count : Nat) (times : Finset Slot) : Finset Slot :=
  times.filter fun time => (times.filter (time < ·)).card < count

/-- The newest observation that is not newer than the reference. -/
def asOf (observations : List α) (reference : Slot) : Option α :=
  observations.find? (slot · ≤ reference)

variable {slot} {observations : List α} {newest obs : α} {time reference : Slot}

@[simp] theorem mem_slots :
    time ∈ slots slot observations ↔ ∃ obs ∈ observations, slot obs = time := by
  simp [slots]

section Decreasing

theorem Decreasing.take (decreasing : Decreasing slot observations)
    (count : Nat) : Decreasing slot (observations.take count) :=
  List.Pairwise.sublist (List.take_sublist count observations) decreasing

/-- Searching newest first finds the newest observation up to the reference. -/
theorem asOf_eq_some_iff (decreasing : Decreasing slot observations) :
    asOf slot observations reference = some obs ↔
      obs ∈ observations ∧ IsGreatest
        {time | time ∈ slots slot observations ∧ time ≤ reference} (slot obs) := by
  rw [asOf, List.find?_eq_some_iff_append]
  constructor
  · rintro ⟨inTime, newer, older, rfl, tooNew⟩
    rw [decide_eq_true_eq] at inTime
    have isObs : obs ∈ newer ++ obs :: older := by simp
    refine ⟨isObs, ⟨mem_slots.mpr ⟨obs, isObs, rfl⟩, inTime⟩, ?_⟩
    rintro time ⟨isSlot, upTo⟩
    obtain ⟨other, isOther, rfl⟩ := mem_slots.mp isSlot
    rcases List.mem_append.mp isOther with isNewer | isOther
    · exact absurd upTo (by simpa using tooNew other isNewer)
    · rcases List.mem_cons.mp isOther with rfl | isOlder
      · exact le_rfl
      · exact ((List.pairwise_cons.mp
          (List.pairwise_append.mp decreasing).2.1).1 other isOlder).le
  · rintro ⟨isObs, ⟨-, inTime⟩, greatest⟩
    obtain ⟨newer, older, rfl⟩ := List.append_of_mem isObs
    refine ⟨by simpa using inTime, newer, older, rfl, fun other isNewer => ?_⟩
    have later : slot obs < slot other :=
      (List.pairwise_append.mp decreasing).2.2 other isNewer obs
        List.mem_cons_self
    by_contra upTo
    have upTo : slot other ≤ reference := by simpa using upTo
    have isSlot : slot other ∈ slots slot (newer ++ obs :: older) :=
      mem_slots.mpr ⟨other, List.mem_append_left _ isNewer, rfl⟩
    exact absurd (greatest ⟨isSlot, upTo⟩) (not_le.mpr later)

theorem asOf_eq_none_iff :
    asOf slot observations reference = none ↔
      ∀ time ∈ slots slot observations, ¬ time ≤ reference := by
  simp [asOf]

/-- The first observations are those at the most recent slots. -/
theorem slots_take (decreasing : Decreasing slot observations) (count : Nat) :
    slots slot (observations.take count) =
      mostRecent count (slots slot observations) := by
  induction observations generalizing count with
  | nil => simp [slots, mostRecent]
  | cons newest older ih =>
      obtain ⟨newer, decreasing⟩ := List.pairwise_cons.mp decreasing
      cases count with
      | zero => simp [slots, mostRecent]
      | succ count =>
          have split : slots slot (newest :: older) =
              insert (slot newest) (slots slot older) := by
            simp [slots]
          have below : ∀ time ∈ slots slot older, time < slot newest := by
            intro time isSlot
            obtain ⟨other, isOlder, rfl⟩ := mem_slots.mp isSlot
            exact newer other isOlder
          have nothingAbove :
              (slots slot older).filter (slot newest < ·) = ∅ :=
            Finset.filter_eq_empty_iff.mpr fun time isSlot =>
              (below time isSlot).asymm
          have unmade : slot newest ∉ slots slot older := fun isSlot =>
            (below _ isSlot).false
          rw [List.take_succ_cons, split, mostRecent, Finset.filter_insert,
            Finset.filter_insert, if_neg (lt_irrefl _), nothingAbove,
            if_pos (Finset.card_empty ▸ Nat.succ_pos count), slots, List.map_cons,
            List.toFinset_cons]
          congr 1
          rw [← slots, ih decreasing, mostRecent]
          refine Finset.filter_congr fun time isSlot => ?_
          rw [Finset.filter_insert, if_pos (below time isSlot),
            Finset.card_insert_of_notMem
              (fun isAbove => unmade (Finset.mem_filter.mp isAbove).1),
            Nat.succ_lt_succ_iff]

end Decreasing

section Latest

theorem mem_of_mem_latest (isLatest : obs ∈ latest slot observations) :
    obs ∈ observations := by
  induction observations with
  | nil => cases isLatest
  | cons newest older ih =>
      rcases List.mem_cons.mp isLatest with rfl | isLatest
      · exact List.mem_cons_self
      · exact List.mem_cons_of_mem _ (ih (List.mem_filter.mp isLatest).1)

theorem slots_latest :
    slots slot (latest slot observations) = slots slot observations := by
  induction observations with
  | nil => rfl
  | cons newest older ih =>
      ext time
      have older' := Finset.ext_iff.mp ih time
      rw [mem_slots, mem_slots] at older'
      simp only [mem_slots, latest, List.mem_cons, exists_eq_or_imp]
      rw [← older']
      by_cases same : slot newest = time
      · simp [same]
      · simp only [same, false_or, List.mem_filter, decide_eq_true_eq]
        constructor
        · rintro ⟨other, ⟨isLatest, -⟩, isTime⟩
          exact ⟨other, isLatest, isTime⟩
        · rintro ⟨other, isLatest, rfl⟩
          exact ⟨other, ⟨isLatest, fun same' => same same'.symm⟩, rfl⟩

theorem mem_latest_iff :
    obs ∈ latest slot observations ↔
      observations.find? (slot · = slot obs) = some obs := by
  induction observations with
  | nil => simp [latest]
  | cons newest older ih =>
      rw [latest, List.mem_cons, List.mem_filter, ih]
      by_cases same : slot newest = slot obs
      · simp [same, eq_comm]
      · have different : obs ≠ newest := fun isNewest =>
          same (congrArg slot isNewest.symm)
        simp [same, different, Ne.symm same]

theorem Ordered.latest (ordered : Ordered slot observations) :
    Decreasing slot (latest slot observations) := by
  induction observations with
  | nil => exact List.Pairwise.nil
  | cons newest older ih =>
      obtain ⟨newer, ordered⟩ := List.pairwise_cons.mp ordered
      refine List.pairwise_cons.mpr ⟨fun other isLatest => ?_,
        (ih ordered).sublist List.filter_sublist⟩
      obtain ⟨isLatest, different⟩ := List.mem_filter.mp isLatest
      exact lt_of_le_of_ne (newer other (mem_of_mem_latest isLatest))
        (by simpa using different)

theorem latest_cons_of_newer
    (newer : ∀ other ∈ observations, slot other < slot newest) :
    latest slot (newest :: observations) =
      newest :: latest slot observations := by
  rw [latest, List.filter_eq_self.mpr]
  intro other isLatest
  simpa using (newer other (mem_of_mem_latest isLatest)).ne

theorem latest_cons_of_same {last : α} (ordered : Ordered slot (last :: observations))
    (same : slot newest = slot last) :
    latest slot (newest :: last :: observations) =
      newest :: (latest slot (last :: observations)).tail := by
  obtain ⟨newer, -⟩ := List.pairwise_cons.mp ordered.latest
  rw [latest, latest, List.filter_cons_of_neg (by simp [same]), List.tail_cons,
    List.filter_filter]
  simp [same]

end Latest

/-- What a bounded history answers: the last observation at the newest of the
retained slots that are not newer than the reference. -/
theorem asOf_take_latest_eq_some_iff (ordered : Ordered slot observations)
    (count : Nat) :
    asOf slot ((latest slot observations).take count) reference = some obs ↔
      IsGreatest {time | time ∈ mostRecent count (slots slot observations) ∧
        time ≤ reference} (slot obs) ∧
      observations.find? (slot · = slot obs) = some obs := by
  rw [asOf_eq_some_iff (ordered.latest.take count), slots_take ordered.latest,
    slots_latest, and_comm]
  refine and_congr_right fun greatest => ?_
  constructor
  · intro isRetained
    exact mem_latest_iff.mp (List.mem_of_mem_take isRetained)
  · intro isLast
    have isSlot := greatest.1.1
    rw [← slots_latest, ← slots_take ordered.latest] at isSlot
    obtain ⟨other, isRetained, same⟩ := mem_slots.mp isSlot
    have isLatest := mem_latest_iff.mp (List.mem_of_mem_take isRetained)
    rw [same, isLast] at isLatest
    cases isLatest
    exact isRetained

theorem asOf_take_latest_eq_none_iff (ordered : Ordered slot observations)
    (count : Nat) :
    asOf slot ((latest slot observations).take count) reference = none ↔
      ∀ time ∈ mostRecent count (slots slot observations), ¬ time ≤ reference := by
  rw [asOf_eq_none_iff, slots_take ordered.latest, slots_latest]

section UpTo

variable {kept : List α}

/-- The observations that are not newer than the reference. -/
def upTo (slot : α → Slot) (observations : List α) (reference : Slot) :
    List α :=
  observations.filter (slot · ≤ reference)

end UpTo

end SlotHistory

end SolanaProtocols
