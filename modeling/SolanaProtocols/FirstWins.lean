import Mathlib.Data.Multiset.Basic
import Mathlib.Logic.Function.Basic

/-!
# Records in which the first item wins

Items arrive one after the other, each under a key.  The first item of a key is
kept; a later one is compared with it and counted when they do not agree.
-/

namespace SolanaProtocols

/-- The items kept, and how many others did not agree with them. -/
structure FirstWins (Key Item : Type*) where
  held : Key → Option Item
  conflicts : Nat

namespace FirstWins

variable {Key Item : Type*} [DecidableEq Key]

def empty : FirstWins Key Item where
  held _ := none
  conflicts := 0

variable (keyOf : Item → Key) (agrees : Item → Item → Bool)

/-- Keep the first item of a key, and compare any other with it. -/
def observe (record : FirstWins Key Item) (item : Item) : FirstWins Key Item :=
  match record.held (keyOf item) with
  | none =>
      { record with
        held := Function.update record.held (keyOf item) (some item) }
  | some known =>
      if agrees known item then record
      else { record with conflicts := record.conflicts + 1 }

/-- Observe items in order. -/
def observeAll (record : FirstWins Key Item) (items : List Item) :
    FirstWins Key Item :=
  items.foldl (observe keyOf agrees) record

variable {keyOf agrees} {record : FirstWins Key Item} {items : List Item}

theorem held_observe (item : Item) (key : Key) :
    (record.observe keyOf agrees item).held key =
      (record.held key).or (if keyOf item = key then some item else none) := by
  unfold observe
  cases kept : record.held (keyOf item) with
  | none =>
      by_cases same : keyOf item = key
      · subst same
        simp [kept]
      · simp [same, Function.update_of_ne (Ne.symm same)]
  | some known =>
      have unchanged : record.held key = (record.held key).or
          (if keyOf item = key then some item else none) := by
        by_cases same : keyOf item = key
        · subst same
          simp [kept]
        · simp [same]
      simp only
      split
      · exact unchanged
      · exact unchanged

theorem held_observeAll (key : Key) :
    (record.observeAll keyOf agrees items).held key =
      (record.held key).or (items.find? (keyOf · = key)) := by
  induction items generalizing record with
  | nil => simp [observeAll]
  | cons item items ih =>
      have step : (record.observeAll keyOf agrees (item :: items)) =
          (record.observe keyOf agrees item).observeAll keyOf agrees items :=
        rfl
      rw [step, ih, held_observe, Option.or_assoc]
      by_cases same : keyOf item = key
      · simp [same]
      · simp [same]

/-- The conflicts are the items that do not agree with the one held. -/
theorem conflicts_observeAll (refl : ∀ item, agrees item item = true) :
    (record.observeAll keyOf agrees items).conflicts =
      record.conflicts + items.countP fun item =>
        ((record.observeAll keyOf agrees items).held (keyOf item)).any
          (!agrees · item) := by
  induction items generalizing record with
  | nil => rfl
  | cons item items ih =>
      have step : (record.observeAll keyOf agrees (item :: items)) =
          (record.observe keyOf agrees item).observeAll keyOf agrees items :=
        rfl
      have heldItem : ((record.observe keyOf agrees item).observeAll keyOf agrees
          items).held (keyOf item) =
            (record.held (keyOf item)).or (some item) := by
        rw [held_observeAll, held_observe]
        cases record.held (keyOf item) <;> simp
      rw [step, List.countP_cons, ih, heldItem]
      cases kept : record.held (keyOf item) with
      | none => simp [observe, kept, refl]
      | some known =>
          by_cases agreed : agrees known item = true
          · simp [observe, kept, agreed]
          · simp [observe, kept, agreed]
            omega

section Agreement

/-- Items that share a key agree. -/
def AllAgree (keyOf : Item → Key) (agrees : Item → Item → Bool)
    (items : Multiset Item) : Prop :=
  ∀ first ∈ items, ∀ second ∈ items,
    keyOf first = keyOf second → agrees first second = true

variable (keyOf) in
theorem find?_of_mem {item : Item} (member : item ∈ items) :
    ∃ first ∈ items, keyOf first = keyOf item ∧
      items.find? (keyOf · = keyOf item) = some first := by
  cases search : items.find? (keyOf · = keyOf item) with
  | none =>
      rw [List.find?_eq_none] at search
      exact absurd (by simp) (search item member)
  | some first =>
      exact ⟨first, List.mem_of_find?_eq_some search,
        by simpa using List.find?_some search, rfl⟩

/-- There is no conflict exactly when all items of a key agree, when agreement
is an equivalence. -/
theorem conflicts_eq_zero_iff (refl : ∀ item, agrees item item = true)
    (symm : ∀ first second, agrees first second = true →
      agrees second first = true)
    (trans : ∀ first second third, agrees first second = true →
      agrees second third = true → agrees first third = true) :
    (empty.observeAll keyOf agrees items).conflicts = 0 ↔
      AllAgree keyOf agrees items := by
  rw [conflicts_observeAll refl, empty, Nat.zero_add, List.countP_eq_zero]
  simp only [held_observeAll, Option.none_or, Bool.not_eq_true]
  constructor
  · intro noConflict
    have withHeld : ∀ item ∈ items, ∀ first,
        items.find? (keyOf · = keyOf item) = some first →
          agrees first item = true := by
      intro item member first search
      simpa [search] using noConflict item member
    intro first firstMem second secondMem sameKey
    obtain ⟨held, -, -, search⟩ := find?_of_mem keyOf firstMem
    have toFirst := withHeld first firstMem held search
    have toSecond := withHeld second secondMem held (sameKey ▸ search)
    exact trans _ _ _ (symm _ _ toFirst) toSecond
  · intro allAgree item member
    obtain ⟨first, firstMem, sameKey, search⟩ :=
      find?_of_mem keyOf member
    simp [search, allAgree first firstMem item member sameKey]

theorem held_eq_of_perm {second : List Item} (perm : items.Perm second)
    (single : ∀ one ∈ items, ∀ other ∈ items, keyOf one = keyOf other →
      one = other) (key : Key) :
    (empty.observeAll keyOf agrees second).held key =
      (empty.observeAll keyOf agrees items).held key := by
  simp only [held_observeAll, empty, Option.none_or]
  cases search : items.find? (keyOf · = key) with
  | none =>
      rw [List.find?_eq_none] at search ⊢
      exact fun item member => search item (perm.mem_iff.mpr member)
  | some first =>
      have firstMem := List.mem_of_find?_eq_some search
      have firstKey : keyOf first = key := by simpa using List.find?_some search
      obtain ⟨other, otherMem, sameKey, otherSearch⟩ :=
        find?_of_mem keyOf (perm.mem_iff.mp firstMem)
      rw [← firstKey, otherSearch,
        single other (perm.mem_iff.mpr otherMem) first firstMem sameKey]

end Agreement

end FirstWins

end SolanaProtocols
