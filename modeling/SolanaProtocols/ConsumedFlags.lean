import Mathlib.Data.List.Nodup

/-!
# Consuming the items of a list by position

A scan marks positions of a list in a list of flags.  The marked and the
unmarked items together are all items, and marking a free position moves its
item from the one to the other.
-/

namespace SolanaProtocols

namespace ConsumedFlags

variable {α : Type*} {items : List α} {flags : List Bool} {item : α}
  {position : Nat}

/-- The items whose flag is set. -/
def consumed (flags : List Bool) (items : List α) : List α :=
  (items.zipIdx.filter fun entry => flags.getD entry.2 false).map Prod.fst

/-- The items whose flag is not set. -/
def remaining (flags : List Bool) (items : List α) : List α :=
  (items.zipIdx.filter fun entry => !flags.getD entry.2 false).map Prod.fst

theorem consumed_append_remaining_perm (flags : List Bool) (items : List α) :
    (consumed flags items ++ remaining flags items).Perm items := by
  rw [consumed, remaining, ← List.map_append]
  calc ((items.zipIdx.filter fun entry => flags.getD entry.2 false) ++
          items.zipIdx.filter fun entry => !flags.getD entry.2 false).map Prod.fst
    _ |>.Perm (items.zipIdx.map Prod.fst) :=
        (List.filter_append_perm _ _).map Prod.fst
    _ = items := List.zipIdx_map_fst 0 items

theorem mem_consumed :
    item ∈ consumed flags items ↔
      ∃ position, items[position]? = some item ∧
        flags.getD position false = true := by
  simp [consumed, List.mk_mem_zipIdx_iff_getElem?]

theorem consumed_replicate (count : Nat) (items : List α) :
    consumed (List.replicate count false) items = [] := by
  rw [consumed, List.filter_eq_nil_iff.mpr, List.map_nil]
  intro entry isItem
  by_cases inside : entry.2 < count <;> simp [List.getD, inside]

theorem getD_set_true (inside : position < flags.length) (index : Nat) :
    (flags.set position true).getD index false =
      (decide (index = position) || flags.getD index false) := by
  rw [List.getD_eq_getElem?_getD, List.getD_eq_getElem?_getD, List.getElem?_set]
  by_cases same : position = index
  · subst same
    simp [inside]
  · simp [same, Ne.symm same]

theorem nodup_zipIdx (items : List α) : items.zipIdx.Nodup :=
  List.Nodup.of_map Prod.snd (by
    rw [List.zipIdx_map_snd]
    exact List.nodup_range' )

/-- Marking a free position consumes its item. -/
theorem consumed_set_perm (isItem : items[position]? = some item)
    (free : flags.getD position false = false)
    (inside : position < flags.length) :
    (consumed (flags.set position true) items).Perm
      (item :: consumed flags items) := by
  have nodup := nodup_zipIdx items
  have isFree : (item, position) ∉
      items.zipIdx.filter fun entry => flags.getD entry.2 false := by
    rw [List.mem_filter, free]
    simp
  have entries : (items.zipIdx.filter fun entry =>
      (flags.set position true).getD entry.2 false).Perm
        ((item, position) ::
          items.zipIdx.filter fun entry => flags.getD entry.2 false) := by
    rw [List.perm_ext_iff_of_nodup (nodup.filter _)
      (List.nodup_cons.mpr ⟨isFree, nodup.filter _⟩)]
    rintro ⟨other, index⟩
    rw [List.mem_filter, List.mem_cons, List.mem_filter,
      List.mk_mem_zipIdx_iff_getElem?, getD_set_true inside]
    by_cases same : index = position
    · subst same
      rw [isItem, free]
      simp only [decide_true, Bool.true_or, and_true, Option.some.injEq,
        Prod.mk.injEq, Bool.false_eq_true, and_false, or_false]
      exact eq_comm
    · simp [same]
  exact entries.map Prod.fst

end ConsumedFlags

end SolanaProtocols
