import Mathlib.Control.Monad.Basic

/-!
# Updates in place

A function that takes a mutable reference changes a state and ends in a value
or an error, and an error keeps the changes made before it.  `outcome` gives
both the result and the state that is left; the rules below compute it step by
step.
-/

namespace SolanaProtocols

/-- Work on a state in place. -/
abbrev InPlaceUpdate (Error State : Type) : Type → Type :=
  ExceptT Error (StateM State)

namespace InPlaceUpdate

variable {Error State Value Result : Type}

/-- A result that changes nothing. -/
def ofResult (result : Except Error Value) : InPlaceUpdate Error State Value :=
  ExceptT.mk (pure result)

/-- The outcome of an update, and the state that it leaves. -/
def outcome (update : InPlaceUpdate Error State Value) (state : State) :
    Except Error Value × State :=
  update.run.run state

variable {state after : State}

@[simp]
theorem outcome_pure (value : Value) :
    outcome (pure value : InPlaceUpdate Error State Value) state =
      (.ok value, state) :=
  rfl

@[simp]
theorem outcome_modify (change : State → State) :
    outcome (modify change : InPlaceUpdate Error State Unit) state =
      (.ok (), change state) :=
  rfl

@[simp]
theorem outcome_get_bind (rest : State → InPlaceUpdate Error State Result) :
    outcome (get >>= rest) state = outcome (rest state) state :=
  rfl

/-- An update after another one runs on the state that the first one leaves. -/
theorem outcome_bind_of_ok {first : InPlaceUpdate Error State Value}
    {value : Value} (ran : first.outcome state = (.ok value, after))
    (rest : Value → InPlaceUpdate Error State Result) :
    outcome (first >>= rest) state = outcome (rest value) after := by
  simp only [outcome, ExceptT.run, StateT.run] at ran ⊢
  simp only [bind, ExceptT.bind, ExceptT.mk, StateT.bind, ran]
  rfl

/-- After an error nothing more is done. -/
theorem outcome_bind_of_error {first : InPlaceUpdate Error State Value}
    {error : Error} (ran : first.outcome state = (.error error, after))
    (rest : Value → InPlaceUpdate Error State Result) :
    outcome (first >>= rest) state = (.error error, after) := by
  simp only [outcome, ExceptT.run, StateT.run] at ran ⊢
  simp only [bind, ExceptT.bind, ExceptT.mk, StateT.bind, ran]
  rfl

@[simp]
theorem outcome_ofResult_ok_bind (value : Value)
    (rest : Value → InPlaceUpdate Error State Result) :
    outcome (ofResult (.ok value) >>= rest) state = outcome (rest value) state :=
  rfl

@[simp]
theorem outcome_ofResult_error_bind (error : Error)
    (rest : Value → InPlaceUpdate Error State Result) :
    outcome (ofResult (.error error) >>= rest) state = (.error error, state) :=
  rfl

@[simp]
theorem outcome_modify_bind (change : State → State)
    (rest : Unit → InPlaceUpdate Error State Result) :
    outcome (modify change >>= rest) state = outcome (rest ()) (change state) :=
  rfl

end InPlaceUpdate

end SolanaProtocols
