import SolanaProtocols.ExtractLocality
import SolanaProtocols.ExtractReports

/-!
# Extraction of call trees

What a transaction records is what its calls record one by one, each taken on its own
with the calls above it and the calls that it makes.  A program that only forwards a
call to another one changes nothing in what is recorded of it.
-/

namespace SolanaProtocols

open Parsing Chain Protocols MachineArithmetic

namespace Parsing

/-- The index of the innermost of some calls. -/
def innermost : List Call → Option Nat
  | [] => none
  | _ :: above => some above.length

/-- The calls above a call, innermost first, as instructions. -/
def spine : List Call → List ParsedInstruction
  | [] => []
  | call :: above => spine above ++
      [call.instruction [] (above.length + 1) (innermost above) above.length]

/-- A call below some others. -/
def single (above : List Call) (call : Call) (body : Execution)
    (failure : Option Text) : ParsedInstruction :=
  Execution.invoked call body failure (above.length + 1) (innermost above) above.length

/-- A transaction of a call, the calls above it and those that it makes. -/
def alone (above : List Call) (call : Call) (body : Execution)
    (failure : Option Text) : List ParsedInstruction :=
  spine above ++ single above call body failure ::
    body.calls.mapIdx fun offset child =>
      child.instruction [] (above.length + 2) (some above.length)
        (above.length + 1 + offset)

/-- What becomes of the calls of an execution, each taken on its own. -/
def Execution.outcomes (registry : EventRegistry) (fuel : Nat) (above : List Call) :
    Execution → Option (List ExtractOutcome)
  | done => some []
  | log _ rest => rest.outcomes registry fuel above
  | invoke call body failure rest => do
      let own ← registry.outcome fuel (single above call body failure)
        (alone above call body failure)
      let inner ← body.outcomes registry fuel (call :: above)
      let later ← rest.outcomes registry fuel above
      return own :: (inner ++ later)

section Children

variable {all : List ParsedInstruction} {ix : ParsedInstruction} {next depth p : Nat}
  {parent : Option Nat}

/-- The instructions that one at an index calls. -/
def calledBy (all : List ParsedInstruction) (index : Nat) : List ParsedInstruction :=
  all.filter fun child => child.parentIndex == some index

theorem calledBy_append (front back : List ParsedInstruction) :
    calledBy (front ++ back) p = calledBy front p ++ calledBy back p :=
  List.filter_append ..

theorem calledBy_eq_nil (others : ∀ ix ∈ all, ix.parentIndex ≠ some p) :
    calledBy all p = [] := by
  rw [calledBy, List.filter_eq_nil_iff]
  intro ix member
  simpa using others ix member

theorem map_data_childrenOn (program : Pubkey) :
    (childrenOn ix all program).map ParsedInstruction.data =
      (((calledBy all ix.instructionIndex).map ParsedInstruction.call).filter
        fun call => call.program == program).map Call.data := by
  rw [List.filter_map, List.map_map, calledBy, List.filter_filter, childrenOn]
  refine congrArg (List.map ParsedInstruction.data) (List.filter_congr fun child _ => ?_)
  exact Bool.and_comm _ _

/-- An instruction is called by the one that calls all, or by one of them. -/
theorem Execution.parent_of_mem {execution : Execution}
    (member : ix ∈ execution.instructions next depth parent) :
    ix.parentIndex = parent ∨
      ∃ p, ix.parentIndex = some p ∧ next ≤ p ∧ p < next + execution.size := by
  induction execution generalizing next depth parent with
  | done => cases member
  | log entry rest ih => exact ih member
  | invoke call body failure rest bodyIH restIH =>
      rw [instructions, List.mem_cons, List.mem_append] at member
      rw [size_invoke]
      rcases member with rfl | inBody | inRest
      · exact .inl rfl
      · rcases bodyIH inBody with own | ⟨p, parentEq, bounds⟩
        · exact .inr ⟨next, own, by omega⟩
        · exact .inr ⟨p, parentEq, by omega⟩
      · rcases restIH inRest with own | ⟨p, parentEq, bounds⟩
        · exact .inl own
        · exact .inr ⟨p, parentEq, by omega⟩

/-- The instructions of an execution that are called from outside are the calls that
it makes itself. -/
theorem Execution.map_call_calledBy (execution : Execution) (outside : p < next) :
    (calledBy (execution.instructions next depth (some p)) p).map
      ParsedInstruction.call = execution.calls := by
  induction execution generalizing next depth with
  | done => rfl
  | log entry rest ih => exact ih outside
  | invoke call body failure rest bodyIH restIH =>
      have inBody : calledBy (body.instructions (next + 1) (depth + 1) (some next)) p =
          [] := by
        refine calledBy_eq_nil fun ix member same => ?_
        rcases parent_of_mem member with own | ⟨q, parentEq, bounds⟩
        · cases own.symm.trans same
          exact Nat.lt_irrefl _ outside
        · cases parentEq.symm.trans same
          omega
      have inRest : (calledBy (rest.instructions (next + 1 + body.size) depth (some p))
          p).map ParsedInstruction.call = rest.calls :=
        restIH (by omega)
      rw [instructions, calledBy, List.filter_cons, if_pos (by simp), ← calledBy,
        calledBy_append, inBody, List.nil_append, List.map_cons, inRest]
      rfl

end Children

section Alone

variable {above : List Call} {call : Call} {body : Execution} {failure : Option Text}

theorem innermost_lt {p : Nat} (isInnermost : innermost above = some p) :
    p < above.length := by
  cases above with
  | nil => cases isInnermost
  | cons call above =>
      cases isInnermost
      exact Nat.lt_succ_self _

theorem length_spine (above : List Call) : (spine above).length = above.length := by
  induction above with
  | nil => rfl
  | cons call above ih => rw [spine, List.length_append, ih, List.length_cons]; rfl

theorem parent_of_mem_spine {ix : ParsedInstruction} (member : ix ∈ spine above) {p : Nat}
    (parentEq : ix.parentIndex = some p) : p < above.length := by
  induction above with
  | nil => cases member
  | cons call above ih =>
      rcases List.mem_append.mp member with inside | last
      · exact (ih inside).trans (Nat.lt_succ_self _)
      · cases List.mem_singleton.mp last
        exact (innermost_lt parentEq).trans (Nat.lt_succ_self _)

/-- Only the calls that a call makes are called by it when it is alone. -/
theorem map_call_calledBy_alone :
    (calledBy (alone above call body failure) above.length).map ParsedInstruction.call =
      body.calls := by
  have inSpine : calledBy (spine above) above.length = [] :=
    calledBy_eq_nil fun ix member same =>
      absurd (parent_of_mem_spine member same) (Nat.lt_irrefl _)
  have notItself : ((single above call body failure).parentIndex ==
      some above.length) = false :=
    beq_eq_false_iff_ne.mpr fun same => absurd (innermost_lt same) (Nat.lt_irrefl _)
  rw [alone, calledBy_append, inSpine, List.nil_append, calledBy, List.filter_cons,
    if_neg (Bool.not_eq_true _ ▸ notItself), List.filter_eq_self.mpr]
  · refine List.ext_getElem? fun offset => ?_
    rw [List.getElem?_map, List.getElem?_mapIdx]
    cases body.calls[offset]? <;> rfl
  · intro child member
    obtain ⟨offset, inside, rfl⟩ := List.mem_mapIdx.mp member
    exact beq_self_eq_true _

end Alone

section Compose

variable {registry : EventRegistry} {fuel : Nat} {all : List ParsedInstruction}

theorem outcomes_append (front back : List ParsedInstruction) :
    registry.outcomes fuel all (front ++ back) =
      (registry.outcomes fuel all front).bind fun first =>
        (registry.outcomes fuel all back).map (first ++ ·) := by
  induction front with
  | nil => simp [EventRegistry.outcomes]
  | cons ix front ih =>
      rw [List.cons_append, EventRegistry.outcomes, EventRegistry.outcomes, ih]
      cases registry.outcome fuel ix all with
      | none => rfl
      | some outcome =>
          cases registry.outcomes fuel all front with
          | none => rfl
          | some first => cases registry.outcomes fuel all back <;> rfl

/-- A call that stands in a transaction calls what it calls when it is alone. -/
theorem sameInside_single {ix : ParsedInstruction} {above : List Call} {call : Call}
    {body : Execution} {failure : Option Text} {before tail : List ParsedInstruction}
    {depth : Nat} (callEq : ix.call = call)
    (logsEq : ix.logs = Execution.emitted call (above.length + 1) body failure)
    (allEq : all = before ++ ix ::
      (body.instructions (ix.instructionIndex + 1) depth (some ix.instructionIndex) ++
        tail))
    (outside : ∀ other ∈ before ++ ix :: tail,
      other.parentIndex ≠ some ix.instructionIndex) :
    SameInside all (alone above call body failure) ix
      (single above call body failure) where
  call := callEq
  logs expected := by
    rw [ParsedInstruction.findDataLogWithDiscriminator, logsEq]
    rfl
  children program := by
    have inFront : calledBy before ix.instructionIndex = [] :=
      calledBy_eq_nil fun other member => outside other (List.mem_append_left _ member)
    have inBack : calledBy tail ix.instructionIndex = [] :=
      calledBy_eq_nil fun other member =>
        outside other (List.mem_append_right _ (List.mem_cons_of_mem _ member))
    have notItself : (ix.parentIndex == some ix.instructionIndex) = false :=
      beq_eq_false_iff_ne.mpr
        (outside ix (List.mem_append_right _ List.mem_cons_self))
    have called : (calledBy all ix.instructionIndex).map ParsedInstruction.call =
        body.calls := by
      rw [allEq, calledBy_append, inFront, List.nil_append, calledBy,
        List.filter_cons, if_neg (Bool.not_eq_true _ ▸ notItself), ← calledBy,
        calledBy_append, inBack, List.append_nil]
      exact Execution.map_call_calledBy body (Nat.lt_succ_self _)
    rw [map_data_childrenOn, map_data_childrenOn, called]
    exact congrArg (fun calls => List.map Call.data
      (List.filter (fun call => call.program == program) calls))
      map_call_calledBy_alone.symm

end Compose

/-- The instructions of an execution stand in a transaction, below some calls. -/
structure Stands (all : List ParsedInstruction) (execution : Execution)
    (before after : List ParsedInstruction) (above : List Call) (parent : Option Nat) :
    Prop where
  allEq : all = before ++
    (execution.instructions before.length (above.length + 1) parent ++ after)
  apart : ∀ ix ∈ before ++ after, ∀ p, ix.parentIndex = some p →
    p < before.length ∨ before.length + execution.size ≤ p
  parentBefore : ∀ p, parent = some p → p < before.length
  sameAbove : SameAbove all (spine above) parent (innermost above)

section Stands

variable {all before after : List ParsedInstruction} {above : List Call}
  {parent : Option Nat} {call : Call} {body rest : Execution} {failure : Option Text}

theorem Stands.invoke
    (stands : Stands all (.invoke call body failure rest) before after above parent) :
    all = before ++ Execution.invoked call body failure (above.length + 1) parent
      before.length :: (body.instructions (before.length + 1) (above.length + 1 + 1)
        (some before.length) ++ (rest.instructions (before.length + 1 + body.size)
          (above.length + 1) parent ++ after)) := by
  rw [stands.allEq, Execution.instructions, List.cons_append, List.append_assoc]

theorem body_parents {ix : ParsedInstruction} {p : Nat}
    (member : ix ∈ body.instructions (before.length + 1) (above.length + 1 + 1)
      (some before.length)) (parentEq : ix.parentIndex = some p) :
    before.length ≤ p ∧ p < before.length + 1 + body.size := by
  rcases Execution.parent_of_mem member with own | ⟨q, other, bounds⟩
  · cases own.symm.trans parentEq
    omega
  · cases other.symm.trans parentEq
    omega

theorem Stands.rest_parents
    (stands : Stands all (.invoke call body failure rest) before after above parent)
    {ix : ParsedInstruction} {p : Nat}
    (member : ix ∈ rest.instructions (before.length + 1 + body.size) (above.length + 1)
      parent ++ after) (parentEq : ix.parentIndex = some p) :
    p < before.length ∨ before.length + 1 + body.size ≤ p := by
  rcases List.mem_append.mp member with inRest | inBack
  · rcases Execution.parent_of_mem inRest with own | ⟨q, other, bounds⟩
    · exact .inl (stands.parentBefore p (own.symm.trans parentEq))
    · cases other.symm.trans parentEq
      exact .inr bounds.1
  · have bounds := stands.apart ix (List.mem_append_right _ inBack) p parentEq
    rw [Execution.size_invoke] at bounds
    omega

/-- A call is at the same place as it is alone. -/
theorem Stands.samePlace
    (stands : Stands all (.invoke call body failure rest) before after above parent) :
    SamePlace all (alone above call body failure)
      (Execution.invoked call body failure (above.length + 1) parent before.length)
      (single above call body failure) := by
  refine ⟨sameInside_single rfl rfl stands.invoke fun other member same => ?_,
    stands.sameAbove.mono ⟨_, rfl⟩⟩
  rcases List.mem_append.mp member with inFront | inBack
  · have bounds := stands.apart other (List.mem_append_left _ inFront) _ same
    rw [Execution.size_invoke] at bounds
    change before.length < before.length ∨ _ ≤ before.length at bounds
    omega
  · rcases List.mem_cons.mp inBack with rfl | inBack
    · exact Nat.lt_irrefl _ (stands.parentBefore _ same)
    · have bounds := stands.rest_parents inBack same
      change before.length < before.length ∨ _ ≤ before.length at bounds
      omega

/-- What a call does stands below it. -/
theorem Stands.inside
    (stands : Stands all (.invoke call body failure rest) before after above parent) :
    Stands all body
      (before ++ [Execution.invoked call body failure (above.length + 1) parent before.length])
      (rest.instructions (before.length + 1 + body.size) (above.length + 1) parent ++
        after) (call :: above) (some before.length) where
  allEq := by
    rw [List.length_append, List.length_singleton, List.append_assoc]
    exact stands.invoke
  apart := by
    intro ix member p parentEq
    rw [List.length_append, List.length_singleton]
    rw [List.append_assoc, List.mem_append] at member
    rcases member with inFront | inBack
    · have bounds := stands.apart ix (List.mem_append_left _ inFront) p parentEq
      rw [Execution.size_invoke] at bounds
      omega
    · rcases List.mem_cons.mp inBack with rfl | inBack
      · have bound := stands.parentBefore p parentEq
        omega
      · have bounds := stands.rest_parents inBack parentEq
        omega
  parentBefore := by
    rintro p ⟨⟩
    rw [List.length_append, List.length_singleton]
    exact Nat.lt_succ_self _
  sameAbove := by
    have here : all[before.length]? =
        some (Execution.invoked call body failure (above.length + 1) parent before.length) := by
      rw [stands.invoke, List.getElem?_append_right le_rfl, Nat.sub_self]
      rfl
    have there : (spine (call :: above))[above.length]? = some
        (call.instruction [] (above.length + 1) (innermost above) above.length) := by
      rw [spine, List.getElem?_append_right (length_spine above).le, length_spine,
        Nat.sub_self]
      rfl
    exact .some here there rfl (stands.sameAbove.mono ⟨_, rfl⟩)

/-- What comes behind a call stands below the same calls. -/
theorem Stands.behind
    (stands : Stands all (.invoke call body failure rest) before after above parent) :
    Stands all rest
      (before ++ Execution.invoked call body failure (above.length + 1) parent before.length ::
        body.instructions (before.length + 1) (above.length + 1 + 1)
          (some before.length)) after above parent where
  allEq := by
    have counted : (before ++ Execution.invoked call body failure
        (above.length + 1) parent before.length :: body.instructions (before.length + 1)
          (above.length + 1 + 1) (some before.length)).length =
            before.length + 1 + body.size := by
      rw [List.length_append, List.length_cons, Execution.length_instructions]
      omega
    rw [counted, List.append_assoc]
    exact stands.invoke
  apart := by
    intro ix member p parentEq
    rw [List.length_append, List.length_cons, Execution.length_instructions]
    rw [List.append_assoc, List.mem_append] at member
    rcases member with inFront | inBack
    · have bounds := stands.apart ix (List.mem_append_left _ inFront) p parentEq
      rw [Execution.size_invoke] at bounds
      omega
    · rcases List.mem_cons.mp inBack with rfl | inBack
      · have bound := stands.parentBefore p parentEq
        omega
      · rcases List.mem_append.mp inBack with inBody | inBack
        · have bounds := body_parents inBody parentEq
          omega
        · have bounds := stands.apart ix (List.mem_append_right _ inBack) p parentEq
          rw [Execution.size_invoke] at bounds
          omega
  parentBefore p parentEq := by
    rw [List.length_append]
    exact (stands.parentBefore p parentEq).trans_le (Nat.le_add_right _ _)
  sameAbove := stands.sameAbove

end Stands

section Compose

variable {build : Build} {externals : Externals} {readsOther : List Pubkey → Bytes → Bool}
  {registry : EventRegistry} {all : List ParsedInstruction}

/-- What becomes of the instructions of an execution, wherever they stand in a
transaction, is what becomes of its calls on their own. -/
theorem outcomes_instructions
    (registered : EventRegistry.withAllProtocols build externals readsOther = some registry)
    (fuel : Nat) (execution : Execution) {before after : List ParsedInstruction}
    {above : List Call} {parent : Option Nat}
    (stands : Stands all execution before after above parent) :
    registry.outcomes fuel all
        (execution.instructions before.length (above.length + 1) parent) =
      execution.outcomes registry fuel above := by
  induction execution generalizing before after above parent with
  | done => rfl
  | log entry rest ih => exact ih ⟨stands.allEq, stands.apart, stands.parentBefore,
      stands.sameAbove⟩
  | invoke call body failure rest bodyIH restIH =>
      have own := EventRegistry.outcome_congr registered stands.samePlace fuel
      have inner := bodyIH stands.inside
      have later := restIH stands.behind
      rw [List.length_append, List.length_singleton, List.length_cons] at inner
      rw [List.length_append, List.length_cons, Execution.length_instructions,
        ← Nat.add_assoc, Nat.add_right_comm] at later
      rw [Execution.instructions, EventRegistry.outcomes, outcomes_append]
      rw [own, inner, later, Execution.outcomes]
      cases registry.outcome fuel (single above call body failure)
        (alone above call body failure) with
      | none => rfl
      | some outcome =>
          cases body.outcomes registry fuel (call :: above) with
          | none => rfl
          | some first => cases rest.outcomes registry fuel above <;> rfl

theorem outcomes_shown {accountKeys : List Pubkey} {raws : List RawInstruction}
    {transaction : List Executed}
    (registered : EventRegistry.withAllProtocols build externals readsOther = some registry)
    (resolved : Shows accountKeys raws transaction) (fuel : Nat) :
    registry.outcomes fuel
        (parseInstructions accountKeys raws (logStream transaction))
        (parseInstructions accountKeys raws (logStream transaction)) =
      (execution transaction).outcomes registry fuel [] := by
  rw [parseInstructions_shown resolved]
  have stands : Stands ((execution transaction).instructions 0 1 none)
      (execution transaction) [] [] [] none :=
    { allEq := (List.append_nil _).symm
      apart := fun _ member => absurd member List.not_mem_nil
      parentBefore := fun _ absent => absurd absent (Option.not_mem_none _)
      sameAbove := .none }
  exact outcomes_instructions registered fuel (execution transaction) stands

end Compose

section Walk

variable {above : List Call} {call : Call} {body : Execution} {failure : Option Text}
  {all : List ParsedInstruction} {place : Option Nat} {fuel : Nat}

/-- Whether a call is one that events of DAMM v2 belong to. -/
def isOuterCall (call : Call) : Bool :=
  MeteoraDammV2.isOuterSwap (call.instruction [] 0 none 0)

/-- The walk up along a spine ends at the innermost call that is one. -/
theorem walk_spine (above : List Call) (enough : above.length ≤ fuel) {last : Nat}
    (isLast : innermost above = some last) {back : List ParsedInstruction} :
    (PassLoop.run (fun idx => some (MeteoraDammV2.resolveStep (spine above ++ back) idx))
        fuel last).map (Option.map ParsedInstruction.call) =
      some (above.find? isOuterCall) := by
  induction above generalizing fuel last back with
  | nil => cases isLast
  | cons call above ih =>
      cases isLast
      obtain ⟨fuel, rfl⟩ : ∃ less, fuel = less + 1 :=
        Nat.exists_eq_add_one.mpr ((Nat.succ_pos _).trans_le enough)
      rw [List.length_cons, Nat.add_le_add_iff_right] at enough
      have here : (spine (call :: above) ++ back)[above.length]? = some
          (call.instruction [] (above.length + 1) (innermost above) above.length) := by
        rw [spine, List.append_assoc,
          List.getElem?_append_right (length_spine above).le, length_spine, Nat.sub_self]
        rfl
      have step : MeteoraDammV2.resolveStep (spine (call :: above) ++ back) above.length =
          if isOuterCall call then .leave (some
            (call.instruction [] (above.length + 1) (innermost above) above.length))
          else (innermost above).elim (.leave none) .next :=
        MeteoraDammV2.resolveStep_eq here
      cases outer : isOuterCall call with
      | true =>
          rw [if_pos outer] at step
          rw [PassLoop.run_leave (congrArg some step), List.find?_cons_of_pos outer]
          rfl
      | false =>
          rw [if_neg (Bool.not_eq_true _ ▸ outer)] at step
          rw [List.find?_cons_of_neg (Bool.not_eq_true _ ▸ outer)]
          cases isUp : innermost above with
          | none =>
              rw [isUp] at step
              rw [PassLoop.run_leave (congrArg some step)]
              cases above with
              | nil => rfl
              | cons => cases isUp
          | some up =>
              rw [isUp] at step
              rw [PassLoop.run_next (congrArg some step), spine, List.append_assoc]
              exact ih enough isUp

theorem resolveOuterSwap_single (enough : above.length ≤ fuel) :
    (MeteoraDammV2.resolveOuterSwap fuel (single above call body failure)
        (alone above call body failure)).map (Option.map ParsedInstruction.call) =
      some (above.find? isOuterCall) := by
  have place : (single above call body failure).parentIndex = innermost above := rfl
  rw [MeteoraDammV2.resolveOuterSwap, place]
  cases isLast : innermost above with
  | none =>
      cases above with
      | nil => rfl
      | cons => cases isLast
  | some last => exact walk_spine above enough isLast

end Walk

section Forward

variable {build : Build} {externals : Externals} {readsOther : List Pubkey → Bytes → Bool}
  {registry : EventRegistry} {above : List Call} {router call : Call}
  {body : Execution} {failure : Option Text} {fuel : Nat}

theorem sameInside_alone (above others : List Call) :
    SameInside (alone above call body failure) (alone others call body failure)
      (single above call body failure) (single others call body failure) where
  call := rfl
  logs _ := rfl
  children program := by
    rw [map_data_childrenOn, map_data_childrenOn]
    exact congrArg (fun calls => List.map Call.data
      (List.filter (fun call => call.program == program) calls))
      (map_call_calledBy_alone.trans map_call_calledBy_alone.symm)

/-- A call on top of all that no event belongs to changes nothing. -/
theorem outcome_below
    (registered : EventRegistry.withAllProtocols build externals readsOther = some registry)
    (notOuter : isOuterCall router = false) (enough : above.length < fuel) :
    registry.outcome fuel (single (above ++ [router]) call body failure)
        (alone (above ++ [router]) call body failure) =
      registry.outcome fuel (single above call body failure)
        (alone above call body failure) := by
  by_cases onDamm : call.program = MeteoraDammV2.programId
  · have runs (above : List Call) : registry.outcome fuel
        (single above call body failure) (alone above call body failure) =
          MeteoraDammV2.outcome fuel (single above call body failure)
            (alone above call body failure) := by
      have program : (single above call body failure).programId =
        MeteoraDammV2.programId := onDamm
      cases (EventRegistry.withAllProtocols_eq build externals readsOther).symm.trans registered
      rw [EventRegistry.outcome, program]
      rfl
    rw [runs, runs]
    refine MeteoraDammV2.outcome_congr_of_walks rfl ?_
    rw [resolveOuterSwap_single, resolveOuterSwap_single enough.le, List.find?_append,
      List.find?_singleton, notOuter, if_neg Bool.false_ne_true, Option.or_none]
    rw [List.length_append, List.length_singleton]
    exact enough
  · exact EventRegistry.outcome_congr_of_ne registered
      (sameInside_alone (above ++ [router]) above) onDamm fuel fuel

theorem Execution.outcomes_below
    (registered : EventRegistry.withAllProtocols build externals readsOther = some registry)
    (notOuter : isOuterCall router = false) (execution : Execution)
    (enough : above.length + execution.size ≤ fuel) :
    execution.outcomes registry fuel (above ++ [router]) =
      execution.outcomes registry fuel above := by
  induction execution generalizing above with
  | done => rfl
  | log entry rest ih => exact ih enough
  | invoke call body failure rest bodyIH restIH =>
      rw [size_invoke] at enough
      have inner := @bodyIH (call :: above) (by rw [List.length_cons]; omega)
      rw [List.cons_append] at inner
      rw [outcomes, outcomes, outcome_below registered notOuter (by omega), inner,
        restIH (by omega)]

/-- An execution without the entries that it logs itself. -/
def Execution.silent : Execution → Execution
  | done => .done
  | log _ rest => rest.silent
  | invoke call body failure rest => .invoke call body failure rest.silent

theorem Execution.outcomes_silent (execution : Execution) :
    execution.silent.outcomes registry fuel above =
      execution.outcomes registry fuel above := by
  induction execution with
  | done => rfl
  | log entry rest ih => exact ih
  | invoke call body failure rest _ ih => rw [silent, outcomes, outcomes, ih]

theorem outcomes_execution_append (front back : List Executed) :
    (execution (front ++ back)).outcomes registry fuel above =
      ((execution front).outcomes registry fuel above).bind fun first =>
        ((execution back).outcomes registry fuel above).map (first ++ ·) := by
  induction front with
  | nil =>
      change _ = (some []).bind _
      simp
  | cons executed front ih =>
      change (Execution.invoke executed.call executed.body executed.failure
        (execution (front ++ back))).outcomes registry fuel above =
          ((Execution.invoke executed.call executed.body executed.failure
            (execution front)).outcomes registry fuel above).bind _
      rw [Execution.outcomes, Execution.outcomes, ih]
      cases registry.outcome fuel (single above executed.call executed.body
        executed.failure) (alone above executed.call executed.body executed.failure) with
      | none => rfl
      | some own =>
          cases executed.body.outcomes registry fuel (executed.call :: above) with
          | none => rfl
          | some inner =>
              cases (execution front).outcomes registry fuel above with
              | none => rfl
              | some later =>
                  cases (execution back).outcomes registry fuel above <;> simp

theorem outcomes_execution_append_iff {front back : List Executed}
    {outcomes : List ExtractOutcome} :
    (execution (front ++ back)).outcomes registry fuel above = some outcomes ↔
      ∃ first later, (execution front).outcomes registry fuel above = some first ∧
        (execution back).outcomes registry fuel above = some later ∧
          first ++ later = outcomes := by
  rw [outcomes_execution_append]
  simp only [Option.bind_eq_some_iff, Option.map_eq_some_iff, exists_and_left]

theorem isOuterCall_eq_false (notDamm : call.program ≠ MeteoraDammV2.programId) :
    isOuterCall call = false := by
  have program : (call.instruction [] 0 none 0).programId ≠ MeteoraDammV2.programId :=
    notDamm
  rw [isOuterCall, MeteoraDammV2.isOuterSwap, beq_eq_false_iff_ne.mpr program]
  rfl

/-- A call that only makes other calls adds an instruction that records nothing. -/
theorem outcomes_router {router : Executed} {direct : List Executed}
    (registered : EventRegistry.withAllProtocols build externals readsOther = some registry)
    (forwards : router.body.silent = execution direct)
    (foreign : ∀ fuel ix all, ix.programId = router.call.program →
      registry.outcome fuel ix all = some .nothing)
    (notOuter : isOuterCall router.call = false)
    (enough : (execution direct).size ≤ fuel) :
    (execution [router]).outcomes registry fuel [] =
      ((execution direct).outcomes registry fuel []).map (.nothing :: ·) := by
  have inner : router.body.outcomes registry fuel [router.call] =
      (execution direct).outcomes registry fuel [] := by
    rw [← Execution.outcomes_silent, forwards]
    exact @Execution.outcomes_below build externals readsOther registry [] router.call fuel
      registered notOuter (execution direct) ((Nat.zero_add _).trans_le enough)
  change (Execution.invoke router.call router.body router.failure .done).outcomes
    registry fuel [] = _
  rw [Execution.outcomes, foreign fuel _ _ rfl, inner]
  cases (execution direct).outcomes registry fuel [] with
  | none => rfl
  | some outcomes => simp [Execution.outcomes]

theorem Execution.map_call_instructions (execution : Execution) {next depth : Nat}
    {parent : Option Nat} :
    (execution.instructions next depth parent).map ParsedInstruction.call =
      (execution.shown depth).map Prod.fst := by
  induction execution generalizing next depth parent with
  | done => rfl
  | log entry rest ih => exact ih
  | invoke call body failure rest bodyIH restIH =>
      rw [instructions, shown, List.map_cons, List.map_append, bodyIH, restIH,
        List.map_cons, List.map_append]
      rfl

theorem Execution.size_silent (execution : Execution) :
    execution.silent.size = execution.size := by
  induction execution with
  | done => rfl
  | log entry rest ih => exact ih
  | invoke call body failure rest _ ih => rw [silent, size_invoke, size_invoke, ih]

theorem size_execution_append (front back : List Executed) :
    (execution (front ++ back)).size = (execution front).size + (execution back).size := by
  induction front with
  | nil => exact (Nat.zero_add _).symm
  | cons executed front ih =>
      change executed.body.size + (execution (front ++ back)).size + 1 =
        executed.body.size + (execution front).size + 1 + (execution back).size
      rw [ih]
      omega

end Forward

end Parsing

namespace Chain

section Transactions

variable {externals : Externals} {readsOther : List Pubkey → Bytes → Bool}
  {registry : EventRegistry} {build : Build} {capture : Bool} {fuel : Nat}
  {tx plain routed : RawTransaction} {transaction direct front back : List Executed}
  {router : Executed} {state : ReportState} {parsed : ExtractedTransaction}

/-- A source shows the calls of a transaction and their logs. -/
structure RawTransaction.OfCalls (tx : RawTransaction) (transaction : List Executed) :
    Prop where
  resolved : Shows tx.accountKeys tx.raws transaction
  entries : tx.entries = logStream transaction

theorem RawTransaction.OfCalls.outcomes_eq
    (registered : EventRegistry.withAllProtocols build externals readsOther = some registry)
    (ofCalls : tx.OfCalls transaction) :
    registry.outcomes fuel tx.instructions tx.instructions =
      (execution transaction).outcomes registry fuel [] := by
  rw [RawTransaction.instructions, ofCalls.entries]
  exact outcomes_shown registered ofCalls.resolved fuel

theorem RawTransaction.OfCalls.length_raws (ofCalls : tx.OfCalls transaction) :
    tx.raws.length = (execution transaction).size := by
  rw [← (execution transaction).length_shown, ← ofCalls.resolved, List.length_map]

theorem RawTransaction.OfCalls.length_noted {noted : List Noted}
    (ofCalls : tx.OfCalls transaction)
    (calls : noted.map (fun one => one.ix.call) =
      ((execution transaction).shown 1).map Prod.fst) :
    noted.length = tx.raws.length := by
  have lengths := congrArg List.length calls
  rwa [List.length_map, List.length_map, Execution.length_shown, ← ofCalls.length_raws]
    at lengths

theorem Ran.outcomes_eq {all rest : List ParsedInstruction} {noted : List Noted}
    (ran : Ran registry fuel (rest.map fun ix => (ix, all)) noted) :
    registry.outcomes fuel all rest = some (noted.map Noted.outcome) := by
  induction rest generalizing noted with
  | nil =>
      cases List.map_eq_nil_iff.mp ran.calls
      rfl
  | cons ix rest ih =>
      obtain ⟨one, others, rfl, oneEq, othersEq⟩ := List.map_eq_cons_iff.mp ran.calls
      obtain ⟨rfl, rfl⟩ := Prod.ext_iff.mp oneEq
      have ended := ran.outcomes one List.mem_cons_self
      have later := ih ⟨othersEq, fun other member =>
        ran.outcomes other (List.mem_cons_of_mem _ member)⟩
      simp [EventRegistry.outcomes, ended, later]

theorem exists_outcomes_iff {all rest : List ParsedInstruction} :
    (∃ outcomes, registry.outcomes fuel all rest = some outcomes) ↔
      ∀ ix ∈ rest, ∃ outcome, registry.outcome fuel ix all = some outcome := by
  induction rest with
  | nil => exact ⟨fun _ _ member => absurd member List.not_mem_nil, fun _ => ⟨[], rfl⟩⟩
  | cons ix rest ih =>
      rw [List.forall_mem_cons, ← ih]
      constructor
      · rintro ⟨outcomes, ended⟩
        obtain ⟨outcome, endedHere, ended⟩ := Option.bind_eq_some_iff.mp ended
        obtain ⟨later, endedRest, -⟩ := Option.bind_eq_some_iff.mp ended
        exact ⟨⟨outcome, endedHere⟩, later, endedRest⟩
      · rintro ⟨⟨outcome, endedHere⟩, later, endedRest⟩
        exact ⟨outcome :: later, by simp [EventRegistry.outcomes, endedHere, endedRest]⟩

theorem RawTransaction.OfCalls.ends_iff
    (registered : EventRegistry.withAllProtocols build externals readsOther = some registry)
    (ofCalls : tx.OfCalls transaction) (success : tx.header.success = true) :
    Ends registry fuel (executed [tx]) ↔
      ∃ outcomes, (execution transaction).outcomes registry fuel [] = some outcomes := by
  rw [← ofCalls.outcomes_eq registered, exists_outcomes_iff, executed_of_success success,
    Ends, List.forall_mem_map]

theorem few_executed (success : tx.header.success = true)
    (few : tx.raws.length < 2 ^ 64) : (executed [tx]).length < 2 ^ 64 := by
  rwa [executed_of_success success, List.length_map, RawTransaction.instructions,
    length_parseInstructions]

/-- What was noted of a transaction are its calls in preorder, and what became of each
one taken on its own. -/
structure NotesCalls (registry : EventRegistry) (build : Build) (capture : Bool)
    (fuel : Nat) (transaction : List Executed) (state : ReportState)
    (parsed : ExtractedTransaction) (noted : List Noted) : Prop where
  accounts : Accounts build capture noted state parsed.events
  calls : noted.map (fun one => one.ix.call) =
    ((execution transaction).shown 1).map Prod.fst
  outcomes : (execution transaction).outcomes registry fuel [] =
    some (noted.map Noted.outcome)

theorem RawTransaction.OfCalls.exists_notesCalls
    (registered : EventRegistry.withAllProtocols build externals readsOther = some registry)
    (ofCalls : tx.OfCalls transaction) (success : tx.header.success = true)
    (few : tx.raws.length < 2 ^ 64)
    (ran : extractAndReport registry build fuel (.initial capture) tx =
      some (state, parsed)) :
    ∃ noted, NotesCalls registry build capture fuel transaction state parsed noted := by
  have start : Accounts build capture [] (.initial capture) [] := .initial
  have fewCalls : ([] : List Noted).length + (executed [tx]).length < 2 ^ 64 :=
    (Nat.zero_add _).trans_lt (few_executed success few)
  obtain ⟨state', parsed', noted, ran', called, accounts⟩ :=
    start.transaction fewCalls (ends_of_extractAndReport ran)
  cases ran.symm.trans ran'
  rw [executed_of_success success] at called
  refine ⟨noted, accounts, ?_,
    (ofCalls.outcomes_eq registered).symm.trans called.outcomes_eq⟩
  have ixs : noted.map Noted.ix = tx.instructions := by
    have firsts := congrArg (List.map Prod.fst) called.calls
    rw [List.map_map, List.map_map] at firsts
    exact firsts.trans (List.map_id _)
  rw [← Execution.map_call_instructions, ← parseInstructions_shown ofCalls.resolved,
    ← ofCalls.entries]
  change _ = tx.instructions.map ParsedInstruction.call
  rw [← ixs, List.map_map]
  rfl

/-- A successful transaction is extracted unless the build stops over fees: what was
noted are its calls in preorder, and what became of each one taken on its own. -/
theorem extraction_of_calls
    (registered : EventRegistry.withAllProtocols build externals readsOther = some registry)
    (capture : Bool) (ofCalls : tx.OfCalls transaction)
    (success : tx.header.success = true) (few : tx.raws.length < 2 ^ 64)
    (enough : tx.raws.length ≤ fuel) :
    (FeesAddUp build externals (executed [tx]) ↔ ∃ state parsed,
        extractAndReport registry build fuel (.initial capture) tx =
          some (state, parsed)) ∧
      ∀ state parsed,
        extractAndReport registry build fuel (.initial capture) tx =
            some (state, parsed) →
          ∃ noted,
            NotesCalls registry build capture fuel transaction state parsed noted := by
  refine ⟨?_, fun state parsed ran =>
    ofCalls.exists_notesCalls registered success few ran⟩
  rw [← ends_iff_feesAddUp registered (List.forall_mem_singleton.mpr enough)]
  exact ends_iff_exists_extractAndReport capture (few_executed success few)

/-- The creator fees of the key `5` are collected, and the event says how much. -/
def feeCall : Executed where
  call := ⟨Pumpfun.programId, [],
    (Pumpfun.instructionDiscriminator .collectCreatorFee).toList⟩
  body := .invoke ⟨Pumpfun.programId, [],
    eventData Pumpfun.CollectCreatorFeeEvent.protocolEvent.discriminator
      (Pumpfun.CollectCreatorFeeEvent.fields.encode ⟨0, 5, 10, wsol⟩)⟩ .done none .done
  failure := none

/-- The program `7` has the fees collected. -/
def feeRouter : Executed where
  call := ⟨7, [], []⟩
  body := execution [feeCall]
  failure := none

def feeCollected : RawTransaction where
  header := { success := true, tokenBalances := [] }
  accountKeys := [Pumpfun.programId]
  raws := [⟨0, [], feeCall.call.data, some 1⟩,
    ⟨0, [], eventData Pumpfun.CollectCreatorFeeEvent.protocolEvent.discriminator
      (Pumpfun.CollectCreatorFeeEvent.fields.encode ⟨0, 5, 10, wsol⟩), some 2⟩]
  entries := logStream [feeCall]

def feeForwarded : RawTransaction where
  header := { success := true, tokenBalances := [] }
  accountKeys := [Pumpfun.programId, 7]
  raws := [⟨1, [], [], some 1⟩, ⟨0, [], feeCall.call.data, some 2⟩,
    ⟨0, [], eventData Pumpfun.CollectCreatorFeeEvent.protocolEvent.discriminator
      (Pumpfun.CollectCreatorFeeEvent.fields.encode ⟨0, 5, 10, wsol⟩), some 3⟩]
  entries := logStream [feeRouter]

theorem ofCalls_feeCollected : feeCollected.OfCalls ([] ++ [feeCall] ++ []) :=
  ⟨rfl, rfl⟩

theorem ofCalls_feeForwarded : feeForwarded.OfCalls ([] ++ feeRouter :: []) :=
  ⟨rfl, rfl⟩

theorem extraction_of_feeForwarded : ∃ registry,
    EventRegistry.withAllProtocols .release Pumpfun.plainExternals (fun _ _ => false) =
        some registry ∧
      ∃ state parsed noted,
        extractAndReport registry .release 3 (.initial false) feeForwarded =
            some (state, parsed) ∧
          NotesCalls registry .release false 3 [feeRouter] state parsed noted := by
  have registered :=
    EventRegistry.withAllProtocols_eq .release Pumpfun.plainExternals fun _ _ => false
  obtain ⟨ends, notes⟩ := @extraction_of_calls _ _ _ _ 3 _ _ registered false
    ofCalls_feeForwarded rfl (by decide) (by decide)
  obtain ⟨state, parsed, ran⟩ := ends.mp (.inl rfl)
  obtain ⟨noted, isNoted⟩ := notes state parsed ran
  exact ⟨_, registered, state, parsed, noted, ran, isNoted⟩

/-- The same was recorded and counted. -/
structure SameRecords (one two : ReportState × ExtractedTransaction) : Prop where
  events : one.2.events = two.2.events
  failures : one.1.failures = two.1.failures
  tally : ∀ key, one.1.tally.lookup key = two.1.tally.lookup key
  undecoded : one.1.undecoded.total = two.1.undecoded.total

/-- The outcomes that leave something behind. -/
def traces (outcomes : List ExtractOutcome) : List ExtractOutcome :=
  outcomes.filter fun outcome => !outcome.isNothing

theorem filterMap_traces {Value : Type} {read : ExtractOutcome → Option Value}
    (quiet : read .nothing = none) (outcomes : List ExtractOutcome) :
    (traces outcomes).filterMap read = outcomes.filterMap read := by
  rw [traces, List.filterMap_filter]
  refine List.filterMap_congr fun outcome _ => ?_
  cases outcome with
  | nothing => exact quiet.symm
  | recorded | failed | undecoded => rfl

theorem filterMap_eq_of_traces {Value : Type} {read : ExtractOutcome → Option Value}
    {noted others : List Noted} (quiet : read .nothing = none)
    (same : traces (noted.map Noted.outcome) = traces (others.map Noted.outcome)) :
    noted.filterMap (fun one => read one.outcome) =
      others.filterMap fun one => read one.outcome := by
  have through (noted : List Noted) : noted.filterMap (fun one => read one.outcome) =
      (traces (noted.map Noted.outcome)).filterMap read := by
    rw [filterMap_traces quiet, List.filterMap_map]
    rfl
  rw [through, through, same]

theorem countP_traces (noted : List Noted) :
    (noted.filterMap Noted.report).length =
      (traces (noted.map Noted.outcome)).countP ExtractOutcome.isUndecoded := by
  rw [List.length_filterMap_eq_countP, traces, List.countP_filter, List.countP_map]
  refine List.countP_congr fun one _ => ?_
  rw [Noted.report, Function.comp]
  cases one.outcome <;> simp [ExtractOutcome.isUndecoded, ExtractOutcome.isNothing]

theorem Accounts.undecoded_total {noted : List Noted} {state : ReportState}
    {events : List ChainEvent} (accounts : Accounts build capture noted state events)
    (few : noted.length < 2 ^ 64) :
    state.undecoded.total =
      (traces (noted.map Noted.outcome)).countP ExtractOutcome.isUndecoded := by
  have fewReports : (ReportState.initial capture).undecoded.total +
      (noted.filterMap Noted.report).length < 2 ^ 64 :=
    (Nat.zero_add _).trans_lt ((List.length_filterMap_le _ noted).trans_lt few)
  rw [(reportEach_fields fewReports accounts.undecoded).1, ← countP_traces]
  exact Nat.zero_add _

/-- Outcomes that only differ in instructions that record nothing count the same. -/
theorem Accounts.sameRecords {noted others : List Noted}
    {state after : ReportState} {parsed extracted : ExtractedTransaction}
    (accounts : Accounts build capture noted state parsed.events)
    (accounts' : Accounts build capture others after extracted.events)
    (few : noted.length < 2 ^ 64) (few' : others.length < 2 ^ 64)
    (same : traces (noted.map Noted.outcome) = traces (others.map Noted.outcome)) :
    SameRecords (state, parsed) (after, extracted) := by
  have events := @filterMap_eq_of_traces _ ExtractOutcome.event _ _ rfl same
  have sameLabels : noted.filterMap Noted.label = others.filterMap Noted.label :=
    @filterMap_eq_of_traces _ ExtractOutcome.label _ _ rfl same
  refine ⟨?_, ?_, fun key => ?_, ?_⟩
  · exact accounts.events.trans (events.trans accounts'.events.symm)
  · exact accounts.failures.trans
      ((congrArg List.length sameLabels).trans accounts'.failures.symm)
  · rw [accounts.tally key, accounts'.tally key, sameLabels]
  · exact (accounts.undecoded_total few).trans
      ((congrArg _ same).trans (accounts'.undecoded_total few').symm)

theorem outcome_of_foreign
    (registered : EventRegistry.withAllProtocols build externals readsOther = some registry)
    {ix : ParsedInstruction}
    (foreign : ix.programId ∉ [Pumpfun.programId, PumpSwap.programId,
      MeteoraDlmm.programId, MeteoraDammV2.programId]) (fuel : Nat)
    (all : List ParsedInstruction) : registry.outcome fuel ix all = some .nothing := by
  simp only [List.mem_cons, List.not_mem_nil, or_false, not_or] at foreign
  obtain ⟨notPumpfun, notPumpSwap, notDlmm, notDamm⟩ := foreign
  rcases EventRegistry.outcome_cases registered ix with ⟨onPumpfun, -⟩ |
    ⟨onPumpSwap, -⟩ | ⟨onDlmm, -⟩ | ⟨onDamm, -⟩ | ⟨-, runs⟩
  · exact absurd onPumpfun notPumpfun
  · exact absurd onPumpSwap notPumpSwap
  · exact absurd onDlmm notDlmm
  · exact absurd onDamm notDamm
  · exact runs fuel all

/-- A transaction in which a router makes some of the calls of another one. -/
structure Routes (router : Executed) (direct front back : List Executed)
    (plain routed : RawTransaction) : Prop where
  forwards : router.body.silent = execution direct
  foreign : router.call.program ∉ [Pumpfun.programId, PumpSwap.programId,
    MeteoraDlmm.programId, MeteoraDammV2.programId]
  ofPlain : plain.OfCalls (front ++ direct ++ back)
  ofRouted : routed.OfCalls (front ++ router :: back)

section Routes

variable (routes : Routes router direct front back plain routed)

include routes

theorem Routes.size_router :
    (execution [router]).size = (execution direct).size + 1 := by
  change router.body.size + 0 + 1 = _
  rw [← Execution.size_silent router.body, routes.forwards, Nat.add_zero]

theorem Routes.length_plain : plain.raws.length =
    (execution front).size + (execution direct).size + (execution back).size := by
  rw [routes.ofPlain.length_raws, size_execution_append, size_execution_append]

theorem Routes.length_routed : routed.raws.length = plain.raws.length + 1 := by
  rw [routes.length_plain, routes.ofRouted.length_raws, size_execution_append,
    ← List.singleton_append, size_execution_append, routes.size_router]
  omega

theorem Routes.outcomes_router
    (registered : EventRegistry.withAllProtocols build externals readsOther = some registry)
    (enough : routed.raws.length ≤ fuel) :
    (execution [router]).outcomes registry fuel [] =
      ((execution direct).outcomes registry fuel []).map (.nothing :: ·) := by
  have notOuter : isOuterCall router.call = false :=
    isOuterCall_eq_false fun onDamm => routes.foreign (by simp [onDamm])
  have directEnough : (execution direct).size ≤ fuel := by
    have plainSize := routes.length_plain
    have routedSize := routes.length_routed
    omega
  exact Parsing.outcomes_router registered routes.forwards
    (fun fuel ix all program => outcome_of_foreign registered
      (program ▸ routes.foreign) fuel all) notOuter directEnough

theorem Routes.outcomes_iff
    (registered : EventRegistry.withAllProtocols build externals readsOther = some registry)
    (enough : routed.raws.length ≤ fuel) :
    (∃ outcomes,
        (execution (front ++ router :: back)).outcomes registry fuel [] = some outcomes) ↔
      ∃ outcomes,
        (execution (front ++ direct ++ back)).outcomes registry fuel [] =
          some outcomes := by
  rw [← List.singleton_append]
  simp only [outcomes_execution_append_iff, routes.outcomes_router registered enough,
    Option.map_eq_some_iff]
  constructor
  · rintro ⟨-, first, -, ranFront, ⟨-, last, ⟨inner, ranInner, -⟩, ranBack, -⟩, -⟩
    exact ⟨_, _, last, ⟨first, inner, ranFront, ranInner, rfl⟩, ranBack, rfl⟩
  · rintro ⟨-, -, last, ⟨first, inner, ranFront, ranInner, -⟩, ranBack, -⟩
    exact ⟨_, first, _, ranFront, ⟨_, last, ⟨inner, ranInner, rfl⟩, ranBack, rfl⟩, rfl⟩

/-- The outcomes of both transactions leave the same behind. -/
theorem Routes.traces_eq
    (registered : EventRegistry.withAllProtocols build externals readsOther = some registry)
    (enough : routed.raws.length ≤ fuel) {outcomes others : List ExtractOutcome}
    (ended : (execution (front ++ direct ++ back)).outcomes registry fuel [] =
      some outcomes)
    (ended' : (execution (front ++ router :: back)).outcomes registry fuel [] =
      some others) :
    traces outcomes = traces others := by
  obtain ⟨first, last, firstEq, lastEq, rfl⟩ := outcomes_execution_append_iff.mp ended
  obtain ⟨before, within, beforeEq, withinEq, rfl⟩ :=
    outcomes_execution_append_iff.mp firstEq
  rw [← List.singleton_append] at ended'
  obtain ⟨before', later, beforeEq', laterEq, rfl⟩ :=
    outcomes_execution_append_iff.mp ended'
  obtain ⟨within', last', withinEq', lastEq', rfl⟩ :=
    outcomes_execution_append_iff.mp laterEq
  rw [routes.outcomes_router registered enough, withinEq, Option.map_some,
    Option.some_inj] at withinEq'
  cases beforeEq.symm.trans beforeEq'
  cases lastEq.symm.trans lastEq'
  rw [← withinEq']
  simp [traces, ExtractOutcome.isNothing]

end Routes

/-- Calls that a router makes for them are recorded as if they had been made directly:
both extractions stop over the same fees, or both end with the same records. -/
theorem forwarding_changes_nothing
    (registered : EventRegistry.withAllProtocols build externals readsOther = some registry)
    (capture : Bool) (routes : Routes router direct front back plain routed)
    (plainSuccess : plain.header.success = true)
    (routedSuccess : routed.header.success = true)
    (few : routed.raws.length < 2 ^ 64) (enough : routed.raws.length ≤ fuel) :
    (FeesAddUp build externals (executed [plain]) ↔ ∃ state parsed,
        extractAndReport registry build fuel (.initial capture) plain =
          some (state, parsed)) ∧
      Option.Rel SameRecords
        (extractAndReport registry build fuel (.initial capture) plain)
        (extractAndReport registry build fuel (.initial capture) routed) := by
  have routedSize := routes.length_routed
  have fewPlain : plain.raws.length < 2 ^ 64 := by omega
  have plainEnough : plain.raws.length ≤ fuel := by omega
  have plainEnds := @ends_iff_exists_extractAndReport registry build fuel plain capture
    (few_executed plainSuccess fewPlain)
  have routedEnds := @ends_iff_exists_extractAndReport registry build fuel routed capture
    (few_executed routedSuccess few)
  refine ⟨(ends_iff_feesAddUp registered
    (List.forall_mem_singleton.mpr plainEnough)).symm.trans plainEnds, ?_⟩
  rw [routes.ofPlain.ends_iff registered plainSuccess] at plainEnds
  rw [routes.ofRouted.ends_iff registered routedSuccess,
    routes.outcomes_iff registered enough, plainEnds] at routedEnds
  cases ran : extractAndReport registry build fuel (.initial capture) plain with
  | none =>
      cases ran' : extractAndReport registry build fuel (.initial capture) routed with
      | none => exact .none
      | some two =>
          obtain ⟨state, parsed, ended⟩ := routedEnds.mpr ⟨two.1, two.2, ran'⟩
          cases ran.symm.trans ended
  | some one =>
      obtain ⟨after, extracted, ran'⟩ := routedEnds.mp ⟨one.1, one.2, ran⟩
      obtain ⟨noted, notes⟩ :=
        routes.ofPlain.exists_notesCalls registered plainSuccess fewPlain ran
      obtain ⟨others, notes'⟩ :=
        routes.ofRouted.exists_notesCalls registered routedSuccess few ran'
      rw [ran']
      refine .some (notes.accounts.sameRecords notes'.accounts ?_ ?_
        (routes.traces_eq registered enough notes.outcomes notes'.outcomes))
      · rwa [routes.ofPlain.length_noted notes.calls]
      · rwa [routes.ofRouted.length_noted notes'.calls]

theorem forwarded_fee_unchanged : ∃ registry,
    EventRegistry.withAllProtocols .debug Pumpfun.plainExternals (fun _ _ => false) =
        some registry ∧
      ∃ one two,
        extractAndReport registry .debug 3 (.initial true) feeCollected = some one ∧
          extractAndReport registry .debug 3 (.initial true) feeForwarded = some two ∧
            SameRecords one two := by
  have registered :=
    EventRegistry.withAllProtocols_eq .debug Pumpfun.plainExternals fun _ _ => false
  have routes : Routes feeRouter [feeCall] [] [] feeCollected feeForwarded :=
    ⟨rfl, by decide, ofCalls_feeCollected, ofCalls_feeForwarded⟩
  obtain ⟨ends, same⟩ := @forwarding_changes_nothing _ _ _ _ 3 _ _ _ _ _ _ registered
    true routes rfl rfl (by decide) (by decide)
  have onPumpfun : ∀ call ∈ executed [feeCollected],
      call.1.programId = Pumpfun.programId := by decide
  obtain ⟨state, parsed, ran⟩ := ends.mp
    (.of_others fun call member => onPumpfun call member ▸ by decide)
  rw [ran] at same
  generalize ran' : extractAndReport _ .debug 3 (.initial true) feeForwarded = two at same
  cases same with
  | some same => exact ⟨_, registered, _, _, ran, ran', same⟩

end Transactions

end Chain

end SolanaProtocols
