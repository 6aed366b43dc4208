import SolanaProtocols.LogAttribution

/-!
# Flattening instructions

`parseInstructions` resolves the account indices of a transaction's raw
instructions, finds each one's parent by its stack height, and hands out the log
slices.  In the resulting list an instruction's index is its position, its
parent comes before it, and its log consists of the entries it receives.
-/

namespace SolanaProtocols

namespace Parsing

/-- One instruction as the wire hands it over. -/
structure RawInstruction where
  programIdIdx : UInt8
  accountIndices : Bytes
  data : Bytes
  stackHeight : Option Nat
deriving DecidableEq, Repr

/-- Without a height the instruction is read as top level. -/
def RawInstruction.height (raw : RawInstruction) : Nat :=
  raw.stackHeight.getD 1

/-- The instructions that may become parents with their stack heights, innermost
first. -/
abbrev HeightStack := List (Nat × Nat)

/-- Leave out what is not below a height. -/
def HeightStack.popTo (stack : HeightStack) (height : Nat) : HeightStack :=
  stack.dropWhile fun entry => height ≤ entry.2

section Flatten

variable (accountKeys : List Pubkey)

/-- Resolve one instruction under the stack that is left for it. -/
def RawInstruction.parse (raw : RawInstruction) (idx : Nat)
    (stack : HeightStack) : ParsedInstruction where
  programId := accountKeys[raw.programIdIdx.toNat]?.getD 0
  accounts := raw.accountIndices.filterMap fun i => accountKeys[i.toNat]?
  data := raw.data
  logs := []
  stackHeight := raw.height
  parentIndex := stack.head?.map Prod.fst
  instructionIndex := idx

/-- Resolve the rest of the instructions. -/
def resolveFrom (idx : Nat) (stack : HeightStack) :
    List RawInstruction → List ParsedInstruction
  | [] => []
  | raw :: raws =>
      let stack := stack.popTo raw.height
      raw.parse accountKeys idx stack ::
        resolveFrom (idx + 1) ((idx, raw.height) :: stack) raws

/-- Resolve the instructions of a transaction. -/
def resolveAll (raws : List RawInstruction) : List ParsedInstruction :=
  resolveFrom accountKeys 0 [] raws

/-- Resolve the instructions and attach the entries of the log. -/
def parseInstructions (raws : List RawInstruction) (entries : List LogEntry) :
    List ParsedInstruction :=
  (attachLogs (resolveAll accountKeys raws) entries).1.result

end Flatten

section WellParsed

/-- The positions of a log stream whose entries go to an instruction. -/
def logPositions (all : List ParsedInstruction) (entries : List LogEntry)
    (index : Nat) : List Nat :=
  positionsOf (receivers (all.map ParsedInstruction.key) (some .start)
    (entries.map frameEffect)) index

/-- What can be relied on in a parsed list. -/
structure WellParsed (all : List ParsedInstruction) (entries : List LogEntry) :
    Prop where
  index : ∀ {index : Nat} {ix : ParsedInstruction}, all[index]? = some ix →
    ix.instructionIndex = index
  parent : ∀ {index parent : Nat} {ix : ParsedInstruction},
    all[index]? = some ix → ix.parentIndex = some parent → parent < index
  logs : ∀ {index : Nat} {ix : ParsedInstruction}, all[index]? = some ix →
    ix.logs = (logPositions all entries index).filterMap (entries[·]?)

variable {accountKeys : List Pubkey} {raws : List RawInstruction}
  {entries : List LogEntry}

theorem length_resolveFrom (idx : Nat) (stack : HeightStack) :
    (resolveFrom accountKeys idx stack raws).length = raws.length := by
  induction raws generalizing idx stack with
  | nil => rfl
  | cons raw raws ih => simp [resolveFrom, ih]

/-- Every instruction has its position as index, an empty log and a parent
before it. -/
theorem resolveFrom_getElem? {idx index : Nat} {stack : HeightStack}
    {ix : ParsedInstruction} (earlier : ∀ entry ∈ stack, entry.1 < idx)
    (here : (resolveFrom accountKeys idx stack raws)[index]? = some ix) :
    ix.instructionIndex = idx + index ∧ ix.logs = [] ∧
      ∀ parent, ix.parentIndex = some parent → parent < idx + index := by
  induction raws generalizing idx index stack with
  | nil => cases here
  | cons raw raws ih =>
      have popped : ∀ entry ∈ stack.popTo raw.height, entry.1 < idx :=
        fun entry kept => earlier entry ((List.dropWhile_sublist _).mem kept)
      cases index with
      | zero =>
          cases here
          refine ⟨rfl, rfl, fun parent parentEq => ?_⟩
          obtain ⟨entry, isTop, rfl⟩ := Option.map_eq_some_iff.mp parentEq
          exact popped entry (List.mem_of_head? isTop)
      | succ index =>
          have pushed : ∀ entry ∈ (idx, raw.height) :: stack.popTo raw.height,
              entry.1 < idx + 1 := by
            intro entry kept
            rcases List.mem_cons.mp kept with rfl | kept
            · exact Nat.lt_succ_self _
            · exact (popped entry kept).trans (Nat.lt_succ_self _)
          obtain ⟨indexEq, logsEq, parentLt⟩ := ih pushed here
          refine ⟨?_, logsEq, fun parent parentEq => ?_⟩
          · omega
          · have := parentLt parent parentEq
            omega

theorem parseInstructions_eq :
    parseInstructions accountKeys raws entries =
      (resolveAll accountKeys raws).mapIdx fun idx ix => ix.pushLogs
        (entriesOf entries (receivers
          ((resolveAll accountKeys raws).map ParsedInstruction.key) (some .start)
          (entries.map frameEffect)) idx) :=
  attachLogs_result _ _

theorem map_key_parseInstructions :
    (parseInstructions accountKeys raws entries).map ParsedInstruction.key =
      (resolveAll accountKeys raws).map ParsedInstruction.key := by
  rw [parseInstructions_eq]
  refine List.ext_getElem? fun index => ?_
  simp only [List.getElem?_map, List.getElem?_mapIdx, Option.map_map]
  rfl

theorem length_parseInstructions :
    (parseInstructions accountKeys raws entries).length = raws.length := by
  rw [parseInstructions_eq, List.length_mapIdx, resolveAll, length_resolveFrom]

theorem wellParsed_parseInstructions (accountKeys : List Pubkey)
    (raws : List RawInstruction) (entries : List LogEntry) :
    WellParsed (parseInstructions accountKeys raws entries) entries := by
  have origin {index : Nat} {ix : ParsedInstruction}
      (here : (parseInstructions accountKeys raws entries)[index]? = some ix) :
      ∃ bare, (resolveAll accountKeys raws)[index]? = some bare ∧
        ix = bare.pushLogs (entriesOf entries (receivers
          ((resolveAll accountKeys raws).map ParsedInstruction.key) (some .start)
          (entries.map frameEffect)) index) := by
    rw [parseInstructions_eq, List.getElem?_mapIdx] at here
    obtain ⟨bare, bareEq, rfl⟩ := Option.map_eq_some_iff.mp here
    exact ⟨bare, bareEq, rfl⟩
  have placed {index : Nat} {bare : ParsedInstruction}
      (here : (resolveAll accountKeys raws)[index]? = some bare) :=
    resolveFrom_getElem? (fun _ member => absurd member List.not_mem_nil) here
  refine ⟨fun here => ?_, fun here parentEq => ?_, fun here => ?_⟩
  · obtain ⟨bare, bareEq, rfl⟩ := origin here
    exact (placed bareEq).1.trans (Nat.zero_add _)
  · obtain ⟨bare, bareEq, rfl⟩ := origin here
    exact ((placed bareEq).2.2 _ parentEq).trans_eq (Nat.zero_add _)
  · obtain ⟨bare, bareEq, rfl⟩ := origin here
    have counted : entries.length = (receivers
        ((resolveAll accountKeys raws).map ParsedInstruction.key) (some .start)
          (entries.map frameEffect)).length := by
      rw [length_receivers, List.length_map]
    rw [logPositions, map_key_parseInstructions,
      ← entriesOf_eq_positionsOf counted]
    simp [ParsedInstruction.pushLogs, (placed bareEq).2.1]

theorem receivers_body {keys : List InvokeKey} {walk : Option FrameWalk}
    {effects : List FrameEffect} {position : Nat} {given : List Nat}
    (isBody : effects[position]? = some .body)
    (here : (receivers keys walk effects)[position]? = some given) :
    ∃ receiver : Option Nat, given = receiver.toList := by
  induction effects generalizing walk position with
  | nil => cases isBody
  | cons effect effects ih =>
      cases position with
      | zero =>
          cases isBody
          cases here
          cases walk with
          | none => exact ⟨none, rfl⟩
          | some walk => exact ⟨walk.frames.head?, rfl⟩
      | succ position => exact ih isBody here

/-- A data entry is in the log of one instruction at most. -/
theorem logPositions_unique {all : List ParsedInstruction}
    {position first second : Nat} {disc : Discriminator} {payload : Bytes}
    (isData : entries[position]? = some (.data disc payload))
    (inFirst : position ∈ logPositions all entries first)
    (inSecond : position ∈ logPositions all entries second) :
    first = second := by
  obtain ⟨inside, isFirst⟩ := List.mem_filter.mp inFirst
  have isSecond := (List.mem_filter.mp inSecond).2
  rw [List.elem_eq_mem, decide_eq_true_iff, List.getD_eq_getElem?_getD,
    List.getElem?_eq_getElem (List.mem_range.mp inside), Option.getD_some]
    at isFirst isSecond
  have isBody : (entries.map frameEffect)[position]? = some .body := by
    rw [List.getElem?_map, isData]
    rfl
  obtain ⟨receiver, givenEq⟩ := receivers_body isBody
    (List.getElem?_eq_getElem (List.mem_range.mp inside))
  rw [givenEq, Option.mem_toList] at isFirst isSecond
  exact Option.mem_unique isFirst isSecond

end WellParsed

end Parsing

end SolanaProtocols
