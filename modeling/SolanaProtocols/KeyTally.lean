import Mathlib.Algebra.BigOperators.Group.List.Lemmas
import Mathlib.Algebra.Ring.Nat
import Mathlib.Data.List.AList

/-!
# Counting keys

There is a counter for each key that was seen.  Together the counters say how many
were seen.
-/

namespace KeyTally

variable {Key : Type} [DecidableEq Key]

/-- Counters by key. -/
abbrev Counters (Key : Type) := AList fun _ : Key => Nat

/-- Just the keys that were seen have a counter, each of its own occurrences. -/
def Tallies (seen : List Key) (counters : Counters Key) : Prop :=
  ∀ key, counters.lookup key = if key ∈ seen then some (seen.count key) else none

variable {seen : List Key} {counters : Counters Key} {key : Key} {count : Nat}

theorem tallies_nil : Tallies [] (∅ : Counters Key) :=
  fun _ => rfl

theorem Tallies.getD_eq (tallies : Tallies seen counters) (key : Key) :
    (counters.lookup key).getD 0 = seen.count key := by
  rw [tallies]
  by_cases member : key ∈ seen
  · rw [if_pos member, Option.getD_some]
  · rw [if_neg member, Option.getD_none, List.count_eq_zero_of_not_mem member]

theorem Tallies.getD_le (tallies : Tallies seen counters) (key : Key) :
    (counters.lookup key).getD 0 ≤ seen.length :=
  (tallies.getD_eq key).trans_le List.count_le_length

/-- One more of a key is counted. -/
theorem Tallies.increment (tallies : Tallies seen counters) (key : Key) :
    Tallies (seen ++ [key])
      (counters.insert key ((counters.lookup key).getD 0 + 1)) := by
  intro other
  rw [tallies.getD_eq]
  by_cases same : other = key
  · rw [same, AList.lookup_insert, if_pos (by simp), List.count_append,
      List.count_singleton_self]
  · have notLast : other ∉ [key] := by simpa using same
    rw [AList.lookup_insert_ne same, tallies, List.count_append,
      List.count_eq_zero_of_not_mem notLast, Nat.add_zero]
    simp only [List.mem_append, notLast, or_false]

theorem Tallies.mem_entries_iff (tallies : Tallies seen counters) :
    (⟨key, count⟩ : (_ : Key) × Nat) ∈ counters.entries ↔
      key ∈ seen ∧ seen.count key = count := by
  rw [← AList.mem_lookup_iff, Option.mem_def, tallies]
  by_cases member : key ∈ seen <;> simp [member]

theorem Tallies.keys_perm (tallies : Tallies seen counters) :
    counters.keys.Perm seen.dedup := by
  refine (List.perm_ext_iff_of_nodup counters.nodupKeys seen.nodup_dedup).mpr fun key => ?_
  change key ∈ counters.keys ↔ _
  rw [List.mem_dedup, ← AList.mem_keys, ← AList.lookup_isSome, tallies]
  by_cases member : key ∈ seen <;> simp [member]

/-- The counters add up to how many keys were seen. -/
theorem Tallies.sum_eq (tallies : Tallies seen counters) :
    (counters.entries.map Sigma.snd).sum = seen.length := by
  have counted : counters.entries.map Sigma.snd =
      counters.keys.map fun key => seen.count key := by
    rw [AList.keys, List.keys, List.map_map]
    refine List.map_congr_left fun entry member => ?_
    exact (tallies.mem_entries_iff.mp member).2.symm
  rw [counted, (tallies.keys_perm.map _).sum_eq, List.sum_map_count_dedup_eq_length]

end KeyTally
