import Mathlib.Logic.Relation

/-!
# Loops as sequences of passes

An imperative loop is given by its body: one pass either carries on in a new
state or leaves the loop with a result.  A body may itself contain loops, so a
pass that does not finish is `none`.  `run` executes a loop with a bound on the
number of passes; a loop terminates when some bound suffices.

The rules below are the ones a verification needs: a bound may be enlarged, an
invariant survives every pass, a measure that every pass decreases gives
termination, and a set of states that no pass leaves gives divergence.
-/

namespace SolanaProtocols

/-- What one pass of a loop does. -/
inductive Pass (State Result : Type*)
  | next (state : State)
  | leave (result : Result)

namespace PassLoop

variable {State Result : Type*}

/-- Run a loop for at most `fuel` passes. -/
def run (body : State → Option (Pass State Result)) :
    Nat → State → Option Result
  | 0, _ => none
  | fuel + 1, state =>
      match body state with
      | none => none
      | some (.leave result) => some result
      | some (.next next) => run body fuel next

/-- The states in which a run begins a pass, in order. -/
def visited (body : State → Option (Pass State Result)) :
    Nat → State → List State
  | 0, _ => []
  | fuel + 1, state =>
      state :: match body state with
        | some (.next next) => visited body fuel next
        | _ => []

variable {body bigger : State → Option (Pass State Result)}
variable {state next : State} {result : Result} {fuel : Nat}

theorem run_leave (leaves : body state = some (.leave result)) :
    run body (fuel + 1) state = some result := by
  simp [run, leaves]

theorem run_next (steps : body state = some (.next next)) :
    run body (fuel + 1) state = run body fuel next := by
  simp [run, steps]

theorem visited_leave (leaves : body state = some (.leave result)) :
    visited body (fuel + 1) state = [state] := by
  simp [visited, leaves]

theorem visited_next (steps : body state = some (.next next)) :
    visited body (fuel + 1) state = state :: visited body fuel next := by
  simp [visited, steps]

theorem run_succ_eq_some_iff :
    run body (fuel + 1) state = some result ↔
      body state = some (.leave result) ∨
        ∃ next, body state = some (.next next) ∧
          run body fuel next = some result := by
  cases pass : body state with
  | none => simp [run, pass]
  | some pass' => cases pass' <;> simp [run, pass]

/-- More fuel, and a body that finishes more passes, keep a result. -/
theorem run_mono (finishesMore : ∀ state pass, body state = some pass →
      bigger state = some pass)
    {more : Nat} (enough : fuel ≤ more)
    (finished : run body fuel state = some result) :
    run bigger more state = some result := by
  induction fuel generalizing state more with
  | zero => simp [run] at finished
  | succ fuel ih =>
      obtain ⟨more, rfl⟩ : ∃ rest, more = rest + 1 :=
        ⟨more - 1, by omega⟩
      rcases run_succ_eq_some_iff.mp finished with leaves | ⟨next, steps, rest⟩
      · exact run_leave (finishesMore _ _ leaves)
      · rw [run_next (finishesMore _ _ steps)]
        exact ih (by omega) rest

theorem run_unique {bound : Nat} {other : Result}
    (finished : run body fuel state = some result)
    (finished' : run body bound state = some other) : result = other := by
  have longer := run_mono (fun _ _ pass => pass) (Nat.le_max_left fuel bound) finished
  have longer' := run_mono (fun _ _ pass => pass) (Nat.le_max_right fuel bound) finished'
  exact Option.some.inj (longer.symm.trans longer')

/-- One state follows another when a pass carries on from the first in the
second. -/
def Follows (body : State → Option (Pass State Result))
    (state next : State) : Prop :=
  body state = some (.next next)

/-- The states a loop passes through. -/
def Reaches (body : State → Option (Pass State Result)) :
    State → State → Prop :=
  Relation.ReflTransGen (Follows body)

theorem exists_run_eq_of_reaches (reaches : Reaches body state next) :
    ∃ passes, ∀ fuel, run body (fuel + passes) state = run body fuel next := by
  induction reaches with
  | refl => exact ⟨0, fun _ => rfl⟩
  | tail _ follows ih =>
      obtain ⟨passes, sameRun⟩ := ih
      refine ⟨passes + 1, fun fuel => ?_⟩
      rw [show fuel + (passes + 1) = fuel + 1 + passes by omega, sameRun]
      exact run_next follows

theorem invariant_of_reaches {invariant : State → Prop}
    (preserved : ∀ state next, Follows body state next →
      invariant state → invariant next)
    (reaches : Reaches body state next) (initially : invariant state) :
    invariant next := by
  induction reaches with
  | refl => exact initially
  | tail _ follows ih => exact preserved _ _ follows ih

theorem exists_leave_of_run (finished : run body fuel state = some result) :
    ∃ last, Reaches body state last ∧ body last = some (.leave result) := by
  induction fuel generalizing state with
  | zero => simp [run] at finished
  | succ fuel ih =>
      rcases run_succ_eq_some_iff.mp finished with leaves | ⟨next, steps, rest⟩
      · exact ⟨state, .refl, leaves⟩
      · obtain ⟨last, reaches, leaves⟩ := ih rest
        exact ⟨last, .head steps reaches, leaves⟩

/-- A loop whose passes all finish and decrease a measure terminates. -/
theorem exists_run_of_measure (invariant : State → Prop)
    (measure : State → Nat)
    (finishes : ∀ state, invariant state → ∃ pass, body state = some pass)
    (decreases : ∀ state next, invariant state → Follows body state next →
      invariant next ∧ measure next < measure state)
    (initially : invariant state) (enough : measure state < fuel) :
    ∃ result, run body fuel state = some result := by
  induction fuel generalizing state with
  | zero => omega
  | succ fuel ih =>
      obtain ⟨pass, passEq⟩ := finishes state initially
      cases pass with
      | leave result => exact ⟨result, run_leave passEq⟩
      | next next =>
          obtain ⟨preserved, smaller⟩ := decreases state next initially passEq
          rw [run_next passEq]
          exact ih preserved (by omega)

/-- A loop inside a set of states whose passes all stay in the set never
ends. -/
theorem run_eq_none_of_trap (trap : State → Prop)
    (trapped : ∀ state, trap state →
      ∃ next, Follows body state next ∧ trap next)
    (initially : trap state) (fuel : Nat) :
    run body fuel state = none := by
  induction fuel generalizing state with
  | zero => rfl
  | succ fuel ih =>
      obtain ⟨next, follows, stays⟩ := trapped state initially
      rw [run_next follows]
      exact ih stays

end PassLoop

end SolanaProtocols
