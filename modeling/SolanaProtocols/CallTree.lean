import Mathlib.Data.List.DropRight
import SolanaProtocols.InstructionFlatten
import SolanaProtocols.LogForest

/-!
# Call trees

The runtime executes a tree of calls.  What the source of a transaction shows of it
are the calls in preorder with their stack heights, and the log stream.  Parsing
these gives the tree back: every instruction has the index of the one that called
it, and its own part of the log.
-/

namespace SolanaProtocols

namespace Parsing

/-- A call of a program. -/
structure Call where
  program : Pubkey
  accounts : List Pubkey
  data : Bytes
deriving DecidableEq

/-- A call as an instruction. -/
def Call.instruction (call : Call) (logs : List LogEntry) (height : Nat)
    (parent : Option Nat) (index : Nat) : ParsedInstruction where
  programId := call.program
  accounts := call.accounts
  data := call.data
  logs := logs
  stackHeight := height
  parentIndex := parent
  instructionIndex := index

/-- What a program does when it is called: log entries and calls in order. -/
inductive Execution
  | done
  | log (entry : BodyEntry) (rest : Execution)
  | invoke (call : Call) (body : Execution) (failure : Option Text) (rest : Execution)

namespace Execution

/-- What the log stream shows of an execution. -/
def erase : Execution → Body
  | done => .done
  | log entry rest => .log entry rest.erase
  | invoke call body failure rest => .call call.program body.erase failure rest.erase

/-- Number of calls. -/
def size (execution : Execution) : Nat :=
  execution.erase.size

/-- What a call leaves in the log itself. -/
def emitted (call : Call) (depth : Nat) (body : Execution) (failure : Option Text) :
    List LogEntry :=
  LogEntry.invoke call.program depth ::
    (body.erase.ownLogs ++ [terminator call.program failure])

/-- The instruction that a call is. -/
def invoked (call : Call) (body : Execution) (failure : Option Text) (depth : Nat)
    (parent : Option Nat) (next : Nat) : ParsedInstruction :=
  call.instruction (emitted call depth body failure) depth parent next

@[simp] theorem parentIndex_invoked (call : Call) (body : Execution)
    (failure : Option Text) (depth : Nat) (parent : Option Nat) (next : Nat) :
    (invoked call body failure depth parent next).parentIndex = parent :=
  rfl

/-- The calls in preorder with their stack heights. -/
def shown (depth : Nat) : Execution → List (Call × Nat)
  | done => []
  | log _ rest => rest.shown depth
  | invoke call body _ rest =>
      (call, depth) :: (body.shown (depth + 1) ++ rest.shown depth)

/-- The calls in preorder as instructions, from an index on. -/
def instructions (next depth : Nat) (parent : Option Nat) :
    Execution → List ParsedInstruction
  | done => []
  | log _ rest => rest.instructions next depth parent
  | invoke call body failure rest =>
      invoked call body failure depth parent next ::
        (body.instructions (next + 1) (depth + 1) (some next) ++
          rest.instructions (next + 1 + body.size) depth parent)

/-- The calls that an execution makes itself. -/
def calls : Execution → List Call
  | done => []
  | log _ rest => rest.calls
  | invoke call _ _ rest => call :: rest.calls

end Execution

/-- A top-level call with what it does. -/
structure Executed where
  call : Call
  body : Execution
  failure : Option Text

def Executed.invocation (executed : Executed) : Invocation where
  program := executed.call.program
  body := executed.body.erase
  failure := executed.failure

/-- The top-level calls of a transaction as one execution. -/
def execution (transaction : List Executed) : Execution :=
  transaction.foldr (fun executed rest =>
    .invoke executed.call executed.body executed.failure rest) .done

/-- The log stream of a transaction. -/
def logStream (transaction : List Executed) : List LogEntry :=
  (stream (transaction.map Executed.invocation)).map Prod.snd

section Resolve

variable (accountKeys : List Pubkey)

/-- The call that a raw instruction is, and its stack height. -/
def RawInstruction.resolve (raw : RawInstruction) : Call × Nat where
  fst :=
    { program := accountKeys[raw.programIdIdx.toNat]?.getD 0
      accounts := raw.accountIndices.filterMap fun i => accountKeys[i.toNat]?
      data := raw.data }
  snd := raw.height

/-- The source of a transaction shows its calls. -/
def Shows (raws : List RawInstruction) (transaction : List Executed) : Prop :=
  raws.map (RawInstruction.resolve accountKeys) = (execution transaction).shown 1

end Resolve

/-- An instruction before the log is handed out. -/
def ParsedInstruction.withoutLogs (ix : ParsedInstruction) : ParsedInstruction :=
  { ix with logs := [] }

section Stack

variable {stack : HeightStack} {depth idx : Nat}

/-- Leaving out what is not below a height leaves out what is not below a larger
one. -/
theorem popTo_popTo_succ : (stack.popTo (depth + 1)).popTo depth = stack.popTo depth := by
  induction stack with
  | nil => rfl
  | cons entry stack ih =>
      simp only [HeightStack.popTo, List.dropWhile_cons] at ih ⊢
      by_cases deeper : depth + 1 ≤ entry.2
      · rw [if_pos (decide_eq_true deeper),
          if_pos (decide_eq_true (Nat.le_of_succ_le deeper))]
        exact ih
      · rw [if_neg (by simpa using deeper), List.dropWhile_cons]

theorem popTo_popTo : (stack.popTo depth).popTo depth = stack.popTo depth := by
  exact List.dropWhile_idempotent _ _

theorem popTo_cons_self :
    HeightStack.popTo ((idx, depth) :: stack) depth = stack.popTo depth := by
  rw [HeightStack.popTo, List.dropWhile_cons, if_pos (decide_eq_true le_rfl)]
  rfl

theorem popTo_cons_succ :
    HeightStack.popTo ((idx, depth) :: stack) (depth + 1) = (idx, depth) :: stack := by
  rw [HeightStack.popTo, List.dropWhile_cons,
    if_neg (by simp)]

end Stack

section Parse

variable {accountKeys : List Pubkey} {raws later : List RawInstruction}
  {transaction : List Executed} {next depth idx : Nat} {parent : Option Nat}

@[simp] theorem Execution.size_invoke (call : Call) (body : Execution)
    (failure : Option Text) (rest : Execution) :
    (Execution.invoke call body failure rest).size = body.size + rest.size + 1 :=
  rfl

theorem Execution.length_instructions (execution : Execution) :
    (execution.instructions next depth parent).length = execution.size := by
  induction execution generalizing next depth parent with
  | done => rfl
  | log entry rest ih => exact ih
  | invoke call body failure rest bodyIH restIH =>
      rw [instructions, List.length_cons, List.length_append, bodyIH, restIH, size_invoke]

theorem Execution.length_shown (execution : Execution) :
    (execution.shown depth).length = execution.size := by
  induction execution generalizing depth with
  | done => rfl
  | log entry rest ih => exact ih
  | invoke call body failure rest bodyIH restIH =>
      rw [shown, List.length_cons, List.length_append, bodyIH, restIH, size_invoke]

theorem Execution.map_key_instructions (execution : Execution) :
    (execution.instructions next depth parent).map ParsedInstruction.key =
      execution.erase.keys depth := by
  induction execution generalizing next depth parent with
  | done => rfl
  | log entry rest ih => exact ih
  | invoke call body failure rest bodyIH restIH =>
      rw [instructions, List.map_cons, List.map_append, bodyIH, restIH]
      rfl

theorem Execution.map_logs_instructions (execution : Execution) :
    (execution.instructions next depth parent).map ParsedInstruction.logs =
      execution.erase.slices depth := by
  induction execution generalizing next depth parent with
  | done => rfl
  | log entry rest ih => exact ih
  | invoke call body failure rest bodyIH restIH =>
      rw [instructions, List.map_cons, List.map_append, bodyIH, restIH]
      rfl

/-- Resolving what shows an execution gives its instructions, and leaves below its
depth the stack that was there. -/
theorem resolveFrom_shown (execution : Execution) {stack : HeightStack}
    (resolved : raws.map (RawInstruction.resolve accountKeys) = execution.shown depth) :
    ∃ after, resolveFrom accountKeys idx stack (raws ++ later) =
        (execution.instructions idx depth ((stack.popTo depth).head?.map Prod.fst)).map
            ParsedInstruction.withoutLogs ++
          resolveFrom accountKeys (idx + execution.size) after later ∧
      after.popTo depth = stack.popTo depth := by
  induction execution generalizing raws later stack idx depth with
  | done =>
      cases List.map_eq_nil_iff.mp resolved
      exact ⟨stack, rfl, rfl⟩
  | log entry rest ih => exact ih resolved
  | invoke call body failure rest bodyIH restIH =>
      obtain ⟨raw, others, rfl, rawEq, othersEq⟩ := List.map_eq_cons_iff.mp resolved
      obtain ⟨inside, outside, rfl, insideEq, outsideEq⟩ :=
        List.map_eq_append_iff.mp othersEq
      obtain ⟨rfl, rfl⟩ := Prod.ext_iff.mp rawEq
      have bodyRuns := @bodyIH inside (outside ++ later) (raw.height + 1) (idx + 1)
        ((idx, raw.height) :: stack.popTo raw.height) insideEq
      rw [popTo_cons_succ] at bodyRuns
      obtain ⟨between, bodyRuns, bodyStack⟩ := bodyRuns
      obtain ⟨after, restRuns, restStack⟩ := @restIH outside later raw.height
        (idx + 1 + body.size) between outsideEq
      have below : between.popTo raw.height = stack.popTo raw.height := by
        rw [← popTo_popTo_succ, bodyStack, popTo_cons_self, popTo_popTo]
      refine ⟨after, ?_, restStack.trans below⟩
      rw [below] at restRuns
      have sizes : idx + 1 + body.size + rest.size =
          idx + (body.size + rest.size + 1) := by
        omega
      rw [List.cons_append, resolveFrom, List.append_assoc, bodyRuns, restRuns, sizes,
        Execution.size_invoke, Execution.instructions, List.map_cons, List.map_append,
        List.cons_append, List.append_assoc]
      rfl

theorem erase_execution (transaction : List Executed) :
    (execution transaction).erase = topLevel (transaction.map Executed.invocation) := by
  induction transaction with
  | nil => rfl
  | cons executed transaction ih =>
      change Body.call _ _ _ (execution transaction).erase = _
      rw [ih]
      rfl

theorem resolveAll_shown (resolved : Shows accountKeys raws transaction) :
    resolveAll accountKeys raws =
      ((execution transaction).instructions 0 1 none).map
        ParsedInstruction.withoutLogs := by
  obtain ⟨after, runs, -⟩ := @resolveFrom_shown accountKeys raws [] 1 0
    (execution transaction) [] resolved
  rw [List.append_nil] at runs
  rw [resolveAll, runs, resolveFrom, List.append_nil]
  rfl

/-- Handing an instruction its own log back. -/
theorem mapIdx_withoutLogs (items : List ParsedInstruction) :
    (items.map ParsedInstruction.withoutLogs).mapIdx (fun index ix =>
      { ix with logs := ((items.map ParsedInstruction.logs)[index]?).getD [] }) = items := by
  refine List.ext_getElem? fun index => ?_
  rw [List.getElem?_mapIdx, List.getElem?_map, List.getElem?_map]
  cases items[index]? with
  | none => rfl
  | some ix => rfl

/-- Parsing what shows a transaction gives its call tree back. -/
theorem parseInstructions_shown (resolved : Shows accountKeys raws transaction) :
    parseInstructions accountKeys raws (logStream transaction) =
      (execution transaction).instructions 0 1 none := by
  have flattened : (resolveAll accountKeys raws).map ParsedInstruction.key =
      flatten (transaction.map Executed.invocation) := by
    rw [resolveAll_shown resolved, List.map_map, flatten, ← erase_execution,
      ← Execution.map_key_instructions]
    rfl
  have fresh : ∀ ix ∈ resolveAll accountKeys raws, ix.logs = [] := by
    rw [resolveAll_shown resolved]
    intro ix member
    obtain ⟨logged, -, rfl⟩ := List.mem_map.mp member
    rfl
  have logs : slices (transaction.map Executed.invocation) =
      ((execution transaction).instructions 0 1 none).map ParsedInstruction.logs := by
    rw [Execution.map_logs_instructions, erase_execution, slices]
  rw [parseInstructions, logStream, attachLogs_whole flattened fresh, logs,
    resolveAll_shown resolved]
  exact mapIdx_withoutLogs _

end Parse

end Parsing

end SolanaProtocols
