import Mathlib.Data.List.Basic
import Mathlib.Order.Lattice

/-!
# Registers that keep the newest observation

A register takes an observation unless it is older than the one it holds.  In
the end it holds the last one offered of those that no other is newer than.  So
the order of the offers matters only among the newest ones, and how often one is
offered does not matter where these agree.
-/

namespace SolanaProtocols

namespace NewestWins

variable {α Slot : Type*} [LinearOrder Slot] (slot : α → Slot)

/-- An observation that no other one is newer than. -/
def Newest (observations : List α) (obs : α) : Prop :=
  obs ∈ observations ∧ ∀ other ∈ observations, slot other ≤ slot obs

instance [DecidableEq α] (observations : List α) :
    DecidablePred (Newest slot observations) :=
  fun _ => inferInstanceAs (Decidable (_ ∧ _))

/-- The last of the newest observations. -/
def LastNewest (observations : List α) (obs : α) : Prop :=
  ∃ before after, observations = before ++ obs :: after ∧
    (∀ other ∈ before, slot other ≤ slot obs) ∧
    ∀ other ∈ after, slot other < slot obs

variable {slot} {held : Option α} {observations offered : List α} {obs last : α}

theorem LastNewest.newest (lastNewest : LastNewest slot observations obs) :
    Newest slot observations obs := by
  obtain ⟨before, after, rfl, older, older'⟩ := lastNewest
  refine ⟨by simp, fun other member => ?_⟩
  rcases List.mem_append.mp member with isBefore | member
  · exact older other isBefore
  · rcases List.mem_cons.mp member with rfl | isAfter
    · exact le_rfl
    · exact (older' other isAfter).le

theorem LastNewest.unique (lastNewest : LastNewest slot observations obs)
    (lastNewest' : LastNewest slot observations last) : obs = last := by
  have notNewer := lastNewest.newest.2 last lastNewest'.newest.1
  have notNewer' := lastNewest'.newest.2 obs lastNewest.newest.1
  obtain ⟨before, after, rfl, -, older⟩ := lastNewest
  obtain ⟨before', after', split, -, older'⟩ := lastNewest'
  rcases List.append_eq_append_iff.mp split with
    ⟨between, -, afterEq⟩ | ⟨between, -, afterEq⟩
  · cases between with
    | nil => exact (List.cons.inj afterEq).1
    | cons first between =>
        rw [List.cons_append, List.cons.injEq] at afterEq
        exact absurd (older last (afterEq.2 ▸ by simp)) notNewer'.not_gt
  · cases between with
    | nil => exact (List.cons.inj afterEq).1.symm
    | cons first between =>
        rw [List.cons_append, List.cons.injEq] at afterEq
        exact absurd (older' obs (afterEq.2 ▸ by simp)) notNewer.not_gt

end NewestWins

end SolanaProtocols
