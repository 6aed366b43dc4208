import Mathlib.Data.List.Perm.Basic

/-!
# Claims on a list of keys

Every position of a list belongs to at most one owner.  An owner that wants a
key claims the first position with that key that nobody has claimed yet.
-/

namespace SolanaProtocols

namespace KeyClaims

variable {Key Owner : Type}

/-- The keys at the positions that nobody has claimed. -/
def unclaimed (entries : List (Key × Option Owner)) : List Key :=
  (entries.filter (·.2.isNone)).map Prod.fst

/-- The keys at the positions of an owner. -/
def claimedBy [DecidableEq Owner] (owner : Owner)
    (entries : List (Key × Option Owner)) : List Key :=
  (entries.filter (·.2 = some owner)).map Prod.fst

/-- Claim the first unclaimed position with the wanted key. -/
def claim [DecidableEq Key] (want : Key) (owner : Owner) :
    List (Key × Option Owner) → List (Key × Option Owner)
  | [] => []
  | (key, none) :: entries =>
      if key = want then (key, some owner) :: entries
      else (key, none) :: claim want owner entries
  | (key, some other) :: entries => (key, some other) :: claim want owner entries

/-- Give every position that is left to one owner. -/
def claimRest (owner : Owner) (entries : List (Key × Option Owner)) :
    List (Key × Option Owner) :=
  entries.map fun entry => (entry.1, some (entry.2.getD owner))

@[simp]
theorem unclaimed_nil : unclaimed ([] : List (Key × Option Owner)) = [] :=
  rfl

@[simp]
theorem unclaimed_cons_none (key : Key) (entries : List (Key × Option Owner)) :
    unclaimed ((key, none) :: entries) = key :: unclaimed entries := by
  simp [unclaimed]

@[simp]
theorem unclaimed_cons_some (key : Key) (owner : Owner)
    (entries : List (Key × Option Owner)) :
    unclaimed ((key, some owner) :: entries) = unclaimed entries := by
  simp [unclaimed]

/-- What is left of positions that nobody claims is all of them. -/
theorem unclaimed_map_none (keys : List Key) :
    unclaimed (keys.map fun key => (key, (none : Option Owner))) = keys := by
  induction keys with
  | nil => rfl
  | cons key keys ih => simp [ih]

theorem unclaimed_eq_nil_iff {entries : List (Key × Option Owner)} :
    unclaimed entries = [] ↔ ∀ entry ∈ entries, entry.2 ≠ none := by
  simp [unclaimed, List.filter_eq_nil_iff]

theorem map_fst_claimRest (owner : Owner) (entries : List (Key × Option Owner)) :
    (claimRest owner entries).map Prod.fst = entries.map Prod.fst := by
  simp [claimRest, Function.comp_def]

theorem unclaimed_claimRest (owner : Owner) (entries : List (Key × Option Owner)) :
    unclaimed (claimRest owner entries) = [] := by
  rw [unclaimed_eq_nil_iff]
  intro entry member
  obtain ⟨old, -, rfl⟩ := List.mem_map.mp member
  exact Option.some_ne_none _

section Claimed

variable [DecidableEq Owner]

@[simp]
theorem claimedBy_nil (owner : Owner) :
    claimedBy owner ([] : List (Key × Option Owner)) = [] :=
  rfl

@[simp]
theorem claimedBy_cons (owner : Owner) (key : Key) (claimed : Option Owner)
    (entries : List (Key × Option Owner)) :
    claimedBy owner ((key, claimed) :: entries) =
      if claimed = some owner then key :: claimedBy owner entries
      else claimedBy owner entries := by
  by_cases same : claimed = some owner <;> simp [claimedBy, same]

theorem claimedBy_append (owner : Owner) (front back : List (Key × Option Owner)) :
    claimedBy owner (front ++ back) =
      claimedBy owner front ++ claimedBy owner back := by
  simp [claimedBy]

theorem claimedBy_map_none (owner : Owner) (keys : List Key) :
    claimedBy owner (keys.map fun key => (key, (none : Option Owner))) = [] := by
  simp [claimedBy]

/-- The rest goes to its owner and to nobody else. -/
theorem claimedBy_claimRest_self {owner : Owner}
    {entries : List (Key × Option Owner)}
    (new : ∀ entry ∈ entries, entry.2 ≠ some owner) :
    claimedBy owner (claimRest owner entries) = unclaimed entries := by
  induction entries with
  | nil => rfl
  | cons entry entries ih =>
      obtain ⟨key, claimed⟩ := entry
      have rest := ih fun entry member => new entry (List.mem_cons_of_mem _ member)
      rw [claimRest] at rest
      cases claimed with
      | none => simp [claimRest, rest]
      | some other =>
          have different : other ≠ owner := fun same =>
            new (key, some other) List.mem_cons_self (congrArg some same)
          simp [claimRest, rest, different]

theorem claimedBy_claimRest_other {owner other : Owner} (different : other ≠ owner)
    (entries : List (Key × Option Owner)) :
    claimedBy other (claimRest owner entries) = claimedBy other entries := by
  induction entries with
  | nil => rfl
  | cons entry entries ih =>
      obtain ⟨key, claimed⟩ := entry
      rw [claimRest] at ih
      cases claimed with
      | none => simp [claimRest, ih, different.symm]
      | some claimed => simp [claimRest, ih]

end Claimed

variable [DecidableEq Key]

theorem map_fst_claim (want : Key) (owner : Owner)
    (entries : List (Key × Option Owner)) :
    (claim want owner entries).map Prod.fst = entries.map Prod.fst := by
  induction entries with
  | nil => rfl
  | cons entry entries ih =>
      obtain ⟨key, claimed⟩ := entry
      cases claimed with
      | none =>
          rw [claim]
          split
          · rfl
          · simp [ih]
      | some other => simp [claim, ih]

/-- A claim takes the first copy of the key from what is left. -/
theorem unclaimed_claim (want : Key) (owner : Owner)
    (entries : List (Key × Option Owner)) :
    unclaimed (claim want owner entries) = (unclaimed entries).erase want := by
  induction entries with
  | nil => rfl
  | cons entry entries ih =>
      obtain ⟨key, claimed⟩ := entry
      cases claimed with
      | none =>
          rw [claim, unclaimed_cons_none]
          split
          next same => rw [same, unclaimed_cons_some, List.erase_cons_head]
          next different =>
            rw [unclaimed_cons_none, ih,
              List.erase_cons_tail (by simpa using different)]
      | some other => rw [claim, unclaimed_cons_some, unclaimed_cons_some, ih]

/-- The positions of the others stay as they are. -/
theorem claimedBy_claim_other [DecidableEq Owner] {owner other : Owner}
    (different : other ≠ owner) (want : Key)
    (entries : List (Key × Option Owner)) :
    claimedBy other (claim want owner entries) = claimedBy other entries := by
  induction entries with
  | nil => rfl
  | cons entry entries ih =>
      obtain ⟨key, claimed⟩ := entry
      cases claimed with
      | none =>
          rw [claim]
          split
          · simp [different.symm]
          · simp [ih]
      | some claimed => simp [claim, ih]

/-- An owner that claims a key that is left gets that key. -/
theorem claimedBy_claim_self [DecidableEq Owner] {owner : Owner} {want : Key}
    {entries : List (Key × Option Owner)} (left : want ∈ unclaimed entries)
    (new : claimedBy owner entries = []) :
    claimedBy owner (claim want owner entries) = [want] := by
  induction entries with
  | nil => cases left
  | cons entry entries ih =>
      obtain ⟨key, claimed⟩ := entry
      cases claimed with
      | none =>
          rw [unclaimed_cons_none] at left
          simp only [claimedBy_cons, reduceCtorEq, if_false] at new
          rw [claim]
          split
          next same => simp [same, new]
          next different =>
            have later := (List.mem_cons.mp left).resolve_left
              fun same => different same.symm
            simpa using ih later new
      | some claimed =>
          rw [unclaimed_cons_some] at left
          rw [claimedBy_cons] at new
          split at new
          next => cases new
          next different =>
            simp only [claim, claimedBy_cons, different, if_false]
            exact ih left new

end KeyClaims

end SolanaProtocols
