import Mathlib.Data.List.Basic
import Mathlib.Order.Lattice

/-!
# Rate ladders

A ladder gives a rate for every depth: that of the first rung the depth does not
exceed, or the last rate beyond all rungs.  Where the rates descend along the
ladder, a greater depth has no greater rate.
-/

namespace RateLadder

variable {Depth Rate : Type} [LinearOrder Depth]

/-- The rate at a depth.  A rung is the depth it reaches and its rate. -/
def rate (ladder : List (Depth × Rate)) (last : Rate) (depth : Depth) : Rate :=
  match ladder with
  | [] => last
  | (reach, here) :: rungs => if depth ≤ reach then here else rate rungs last depth

/-- No rung has a lower rate than one after it. -/
def Descending [LE Rate] (ladder : List (Depth × Rate)) (last : Rate) : Prop :=
  (ladder.map Prod.snd ++ [last]).Pairwise (· ≥ ·)

variable {ladder : List (Depth × Rate)} {last : Rate} {depth : Depth}

theorem rate_mem : rate ladder last depth ∈ ladder.map Prod.snd ++ [last] := by
  induction ladder with
  | nil => exact List.mem_singleton.mpr rfl
  | cons rung rungs ih =>
      rw [rate]
      split
      · exact List.mem_cons_self ..
      · exact List.mem_cons_of_mem _ ih

theorem rate_cons_of_lt {rung : Depth × Rate} (beyond : rung.1 < depth) :
    rate (rung :: ladder) last depth = rate ladder last depth := by
  rw [rate, if_neg (not_le.mpr beyond)]

theorem rate_eq_find? :
    rate ladder last depth =
      ((ladder.find? fun rung => depth ≤ rung.1).map Prod.snd).getD last := by
  induction ladder with
  | nil => rfl
  | cons rung rungs ih =>
      rw [rate, List.find?_cons]
      by_cases within : depth ≤ rung.1
      · rw [if_pos within, decide_eq_true within]
        rfl
      · rw [if_neg within, decide_eq_false within]
        exact ih

/-- Greater depths have no greater rates. -/
theorem rate_antitone [Preorder Rate] (descending : Descending ladder last) :
    Antitone (rate ladder last) := by
  intro shallow deep le
  induction ladder with
  | nil => exact le_refl last
  | cons rung rungs ih =>
      obtain ⟨below, rest⟩ := List.pairwise_cons.mp descending
      by_cases within : shallow ≤ rung.1
      · have shallowRate : rate (rung :: rungs) last shallow = rung.2 := by
          rw [rate, if_pos within]
        rw [shallowRate, rate]
        split
        · exact le_refl rung.2
        · exact below _ rate_mem
      · have beyond := not_le.mp within
        rw [rate_cons_of_lt beyond, rate_cons_of_lt (beyond.trans_le le)]
        exact ih rest

end RateLadder
