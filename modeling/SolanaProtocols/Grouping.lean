import Mathlib.Data.List.AList
import Mathlib.Data.List.Induction

/-!
# Grouping values

Values are put into groups one after the other, each at the end of the group of
its key.  Nothing is lost or doubled, and a group holds the values of its key in
the order in which they came.
-/

namespace Grouping

variable {Key Value : Type} [DecidableEq Key]

/-- Groups of values by key. -/
abbrev Groups (Key Value : Type) := AList fun _ : Key => List Value

/-- The values under a key, none for a key without a group. -/
def under (groups : Groups Key Value) (key : Key) : List Value :=
  (groups.lookup key).getD []

def push (groups : Groups Key Value) (key : Key) (value : Value) :
    Groups Key Value :=
  groups.insert key (under groups key ++ [value])

/-- The values of all groups. -/
def values (groups : Groups Key Value) : List Value :=
  groups.entries.flatMap Sigma.snd

variable {groups : Groups Key Value} {key other : Key} {value : Value}

@[simp] theorem under_push_self : under (push groups key value) key =
    under groups key ++ [value] := by
  rw [push, under, AList.lookup_insert, Option.getD_some]

theorem under_push_ne (different : other ≠ key) :
    under (push groups key value) other = under groups other := by
  rw [push, under, AList.lookup_insert_ne different, under]

/-- A value that is put into a group is one more value. -/
theorem values_push_perm :
    (values (push groups key value)).Perm (value :: values groups) := by
  rw [values, push, AList.entries_insert, List.flatMap_cons]
  by_cases grouped : key ∈ groups.entries.keys
  · obtain ⟨old, before, after, -, entriesEq, eraseEq⟩ := List.exists_of_kerase grouped
    have found : groups.lookup key = some old :=
      AList.mem_lookup_iff.mpr (by simp [entriesEq])
    have whole : values groups =
        before.flatMap Sigma.snd ++ (old ++ after.flatMap Sigma.snd) := by
      rw [values, entriesEq, List.flatMap_append, List.flatMap_cons]
    rw [eraseEq, under, found, Option.getD_some, whole, List.flatMap_append,
      List.append_assoc, List.singleton_append]
    exact (List.perm_middle.trans
      ((List.perm_append_comm_assoc old _ _).cons value))
  · have missing : groups.lookup key = none := AList.lookup_eq_none.mpr grouped
    rw [List.kerase_of_notMem_keys grouped, under, missing, Option.getD_none,
      List.nil_append, List.singleton_append, values]

/-- Put values into the groups of their keys. -/
def group (keyOf : Value → Key) (items : List Value) : Groups Key Value :=
  items.foldl (fun groups item => push groups (keyOf item) item) ∅

variable {keyOf : Value → Key} {items : List Value}

theorem values_group_perm : (values (group keyOf items)).Perm items := by
  induction items using List.reverseRecOn with
  | nil => exact List.Perm.refl _
  | append_singleton items item ih =>
      rw [group, List.foldl_append]
      exact (values_push_perm.trans (ih.cons item)).trans
        (List.perm_append_singleton item items).symm

/-- A group holds the values of its key in order. -/
theorem under_group : under (group keyOf items) key =
    items.filter fun item => keyOf item = key := by
  induction items using List.reverseRecOn with
  | nil => rfl
  | append_singleton items item ih =>
      have last : group keyOf (items ++ [item]) =
          push (group keyOf items) (keyOf item) item := by
        rw [group, List.foldl_append]
        rfl
      rw [last, List.filter_append, ← ih]
      by_cases same : keyOf item = key
      · rw [same, under_push_self, List.filter_cons_of_pos (by simpa using same)]
        rfl
      · rw [under_push_ne (Ne.symm same),
          List.filter_cons_of_neg (by simpa using same), List.filter_nil,
          List.append_nil]

end Grouping
