import Mathlib.Algebra.BigOperators.Group.List.Basic

/-!
# Step profiles

A quantity that is constant between boundaries is given by the value it starts
from and the changes at the boundaries.  Some boundaries lie before a position,
and the value there is the start with the changes at these.

A sweep meets the boundaries one after the other and carries the value along.
When later boundaries are before fewer positions, the value that it carries is
the value of the profile at every position that it has not passed.
-/

namespace SolanaProtocols

namespace StepProfile

variable {Boundary Position Value : Type*} [AddCommMonoid Value]
variable (before : Boundary → Position → Prop)
  [∀ boundary position, Decidable (before boundary position)]
variable (change : Boundary → Value)

/-- The value at a position. -/
def valueAt (start : Value) (boundaries : List Boundary) (position : Position) :
    Value :=
  start + ((boundaries.filter (before · position)).map change).sum

/-- Whatever a later boundary is before, an earlier one is. -/
def Ordered (boundaries : List Boundary) : Prop :=
  boundaries.Pairwise fun first second =>
    ∀ position, before second position → before first position

variable {before change} {start : Value} {boundary : Boundary}
  {boundaries others : List Boundary} {position : Position}

@[simp] theorem valueAt_nil : valueAt before change start [] position = start := by
  simp [valueAt]

theorem valueAt_cons_of_before (crossed : before boundary position) :
    valueAt before change start (boundary :: boundaries) position =
      valueAt before change (start + change boundary) boundaries position := by
  rw [valueAt, valueAt, List.filter_cons_of_pos (by simpa using crossed),
    List.map_cons, List.sum_cons, add_assoc]

/-- The value is the start where no boundary lies before. -/
theorem valueAt_of_forall_not
    (none : ∀ boundary ∈ boundaries, ¬ before boundary position) :
    valueAt before change start boundaries position = start := by
  have empty : boundaries.filter (before · position) = [] := by
    simpa [List.filter_eq_nil_iff] using none
  rw [valueAt, empty, List.map_nil, List.sum_nil, add_zero]

/-- Ahead of the first boundary of a sweep the value is the start. -/
theorem valueAt_cons_of_not_before
    (ordered : Ordered before (boundary :: boundaries))
    (ahead : ¬ before boundary position) :
    valueAt before change start (boundary :: boundaries) position = start := by
  apply valueAt_of_forall_not
  intro other member
  rcases List.mem_cons.mp member with rfl | later
  · exact ahead
  · exact fun crossed =>
      ahead ((List.pairwise_cons.mp ordered).1 other later position crossed)

theorem valueAt_perm (same : boundaries.Perm others) :
    valueAt before change start boundaries position =
      valueAt before change start others position := by
  rw [valueAt, valueAt, ((same.filter _).map change).sum_eq]

end StepProfile

end SolanaProtocols
