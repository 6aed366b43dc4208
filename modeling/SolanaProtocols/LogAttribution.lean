import SolanaProtocols.LogEntry
import SolanaProtocols.PassLoop

/-!
# Log attribution

`attachLogs` gives each instruction the log slice the runtime emitted for it.
Which instructions an entry goes to depends on the stack of open frames and on
the next instruction awaiting its invoke, never on slices already attached, so
the walk is also given on its own (`receivers`), and attaching is shown to
distribute the entries among the receivers.
-/

namespace SolanaProtocols

namespace Parsing

/-- A parsed instruction with resolved accounts and associated logs. -/
structure ParsedInstruction where
  programId : Pubkey
  accounts : List Pubkey
  data : Bytes
  logs : List LogEntry
  stackHeight : Nat
  parentIndex : Option Nat
  instructionIndex : Nat
deriving DecidableEq, Repr

/-- What an invoke is checked against. -/
abbrev InvokeKey := Pubkey × Nat

def ParsedInstruction.key (instruction : ParsedInstruction) : InvokeKey :=
  (instruction.programId, instruction.stackHeight)

def ParsedInstruction.pushLogs (instruction : ParsedInstruction)
    (entries : List LogEntry) : ParsedInstruction :=
  { instruction with logs := instruction.logs ++ entries }

/-- What a log entry does to the invocation stack. -/
inductive FrameEffect
  | opens (program : Pubkey) (depth : Nat)
  | close
  | cut
  | body
deriving DecidableEq, Repr

def frameEffect : LogEntry → FrameEffect
  | .invoke program depth => .opens program depth
  | .success _ => .close
  | .failed _ _ => .close
  | .truncated => .cut
  | .data _ _ => .body
  | .returned _ _ => .body
  | .message _ => .body
  | .consumed _ _ _ => .body
  | .unknown _ => .body

/-- How the walk over a transaction's logs ended. -/
inductive AttributionOutcome
  | complete
  | truncated
  | desynced
  | overrun
deriving DecidableEq, Repr

/-- The variables of the walk: the instructions, the indices whose frame is
open, innermost first, and the next instruction awaiting its invoke. -/
structure AttachState where
  result : List ParsedInstruction
  frames : List Nat
  cursor : Nat
deriving DecidableEq, Repr

/-- Push an entry to the log of one instruction. -/
def pushLog (entry : LogEntry) (result : List ParsedInstruction)
    (index : Nat) : List ParsedInstruction :=
  result.modify index (·.pushLogs [entry])

/-- One entry of the stream. -/
def attachEntry (state : AttachState) (entry : LogEntry) :
    Pass AttachState (AttachState × AttributionOutcome) :=
  match frameEffect entry with
  | .cut =>
      let result := state.frames.foldl (pushLog .truncated) state.result
      let result := result.mapIdx fun idx ix =>
        if state.cursor ≤ idx then ix.pushLogs [.truncated] else ix
      .leave ({ state with result := result }, .truncated)
  | .opens program depth =>
      match state.result[state.cursor]? with
      | none => .leave (state, .overrun)
      | some expected =>
          if expected.programId ≠ program ∨ expected.stackHeight ≠ depth then
            .leave (state, .desynced)
          else
            .next {
              result := pushLog entry state.result state.cursor
              frames := state.cursor :: state.frames
              cursor := state.cursor + 1 }
  | .close =>
      match state.frames with
      | [] => .next state
      | top :: frames =>
          .next { state with
            result := pushLog entry state.result top, frames := frames }
  | .body =>
      match state.frames with
      | [] => .next state
      | top :: _ =>
          .next { state with result := pushLog entry state.result top }

/-- Attach the rest of the stream. -/
def attachFrom (state : AttachState) :
    List LogEntry → AttachState × AttributionOutcome
  | [] => (state, .complete)
  | entry :: entries =>
      match attachEntry state entry with
      | .next state => attachFrom state entries
      | .leave result => result

/-- Give every instruction the log slice the runtime emitted for it. -/
def attachLogs (instructions : List ParsedInstruction)
    (entries : List LogEntry) : AttachState × AttributionOutcome :=
  attachFrom { result := instructions, frames := [], cursor := 0 } entries

section Walk

/-- The part of the walk that decides who gets an entry.  Open frames are nested
and have all been opened. -/
@[ext] structure FrameWalk where
  frames : List Nat
  cursor : Nat
  nested : (cursor :: frames).Pairwise (· > ·)

/-- The walk before the first entry. -/
def FrameWalk.start : FrameWalk where
  frames := []
  cursor := 0
  nested := List.pairwise_singleton _ _

/-- Open the next instruction's frame. -/
def FrameWalk.openNext (walk : FrameWalk) : FrameWalk where
  frames := walk.cursor :: walk.frames
  cursor := walk.cursor + 1
  nested := List.pairwise_cons.mpr ⟨fun frame member => by
    rcases List.mem_cons.mp member with rfl | member
    · exact Nat.lt_succ_self _
    · exact ((List.pairwise_cons.mp walk.nested).1 _ member).trans
        (Nat.lt_succ_self _), walk.nested⟩

/-- Open and close the frames of the next instructions. -/
def FrameWalk.advance (walk : FrameWalk) (count : Nat) : FrameWalk where
  frames := walk.frames
  cursor := walk.cursor + count
  nested := by
    obtain ⟨opened, nested⟩ := List.pairwise_cons.mp walk.nested
    exact List.pairwise_cons.mpr ⟨fun frame isOpen =>
      (opened frame isOpen).trans_le (Nat.le_add_right _ _), nested⟩

/-- Close the innermost frame. -/
def FrameWalk.closeTop (walk : FrameWalk) : FrameWalk where
  frames := walk.frames.tail
  cursor := walk.cursor
  nested := walk.nested.sublist ((List.tail_sublist _).cons_cons _)

variable (keys : List InvokeKey)

/-- The instructions an entry goes to, and the walk after it unless it stops
there. -/
def FrameWalk.step (walk : FrameWalk) : FrameEffect → List Nat × Option FrameWalk
  | .cut =>
      (walk.frames ++
        (List.range keys.length).filter (walk.cursor ≤ ·), none)
  | .opens program depth =>
      if keys[walk.cursor]? = some (program, depth) then
        ([walk.cursor], some walk.openNext)
      else ([], none)
  | .close => (walk.frames.head?.toList, some walk.closeTop)
  | .body => (walk.frames.head?.toList, some walk)

/-- A step of a walk that may have stopped. -/
def stepFrom : Option FrameWalk → FrameEffect → List Nat × Option FrameWalk
  | none, _ => ([], none)
  | some walk, effect => walk.step keys effect

/-- For each entry of a stream, the instructions it goes to. -/
def receivers (walk : Option FrameWalk) : List FrameEffect → List (List Nat)
  | [] => []
  | effect :: effects =>
      (stepFrom keys walk effect).1 ::
        receivers (stepFrom keys walk effect).2 effects

/-- The walk after a stream. -/
def walkAfter (walk : Option FrameWalk) (effects : List FrameEffect) :
    Option FrameWalk :=
  effects.foldl (fun walk effect => (stepFrom keys walk effect).2) walk

variable {keys} {walk : Option FrameWalk}

theorem length_receivers (effects : List FrameEffect) :
    (receivers keys walk effects).length = effects.length := by
  induction effects generalizing walk with
  | nil => rfl
  | cons effect effects ih => simp [receivers, ih]

theorem receivers_append (first second : List FrameEffect) :
    receivers keys walk (first ++ second) =
      receivers keys walk first ++
        receivers keys (walkAfter keys walk first) second := by
  induction first generalizing walk with
  | nil => rfl
  | cons effect first ih =>
      simp only [List.cons_append, receivers, walkAfter, List.foldl_cons, ih]

theorem receivers_take (effects : List FrameEffect) (count : Nat) :
    receivers keys walk (effects.take count) =
      (receivers keys walk effects).take count := by
  induction effects generalizing walk count with
  | nil => simp [receivers]
  | cons effect effects ih =>
      cases count with
      | zero => rfl
      | succ count => simp only [List.take_succ_cons, receivers, ih]

theorem walkAfter_append (first second : List FrameEffect) :
    walkAfter keys walk (first ++ second) =
      walkAfter keys (walkAfter keys walk first) second :=
  List.foldl_append

theorem receivers_stopped (effects : List FrameEffect) :
    receivers keys none effects = List.replicate effects.length [] := by
  induction effects with
  | nil => rfl
  | cons effect effects ih => simp [receivers, stepFrom, ih, List.replicate_succ]

theorem walkAfter_stopped (effects : List FrameEffect) :
    walkAfter keys none effects = none := by
  induction effects with
  | nil => rfl
  | cons effect effects ih => exact ih

theorem FrameWalk.frame_lt_cursor (walk : FrameWalk) {frame : Nat}
    (isOpen : frame ∈ walk.frames) : frame < walk.cursor :=
  (List.pairwise_cons.mp walk.nested).1 frame isOpen

theorem FrameWalk.nodup (walk : FrameWalk) : walk.frames.Nodup :=
  (List.pairwise_cons.mp walk.nested).2.imp fun greater => Nat.ne_of_gt greater

/-- An instruction that has not been closed: its frame is open, or it still
awaits its invoke. -/
def FrameWalk.Waiting (walk : FrameWalk) (index : Nat) : Prop :=
  index ∈ walk.frames ∨ walk.cursor ≤ index

theorem walkAfter_take {effects : List FrameEffect} {after : FrameWalk}
    (goesOn : walkAfter keys walk effects = some after) (count : Nat) :
    ∃ before, walkAfter keys walk (effects.take count) = some before := by
  rw [← List.take_append_drop count effects, walkAfter_append] at goesOn
  cases before : walkAfter keys walk (effects.take count) with
  | none =>
      rw [before, walkAfter_stopped] at goesOn
      cases goesOn
  | some walk => exact ⟨walk, rfl⟩

/-- Only a terminator the instruction receives closes it. -/
theorem waiting_step {walk after : FrameWalk} {effect : FrameEffect} {index : Nat}
    (stepEq : (walk.step keys effect).2 = some after) :
    after.Waiting index ↔ walk.Waiting index ∧
      ¬ (effect = .close ∧ index ∈ (walk.step keys effect).1) := by
  cases effect with
  | cut => simp [FrameWalk.step] at stepEq
  | opens program depth =>
      simp only [FrameWalk.step] at stepEq
      split_ifs at stepEq
      cases stepEq
      simp only [FrameWalk.Waiting, FrameWalk.openNext, List.mem_cons,
        reduceCtorEq, false_and, not_false_eq_true, and_true]
      by_cases isOpen : index ∈ walk.frames
      · simp [isOpen]
      · simp only [isOpen, or_false, false_or]
        omega
  | close =>
      cases stepEq
      cases framesEq : walk.frames with
      | nil => simp [FrameWalk.Waiting, FrameWalk.closeTop, FrameWalk.step,
          framesEq]
      | cons top frames =>
          have opened : top < walk.cursor :=
            walk.frame_lt_cursor (by simp [framesEq])
          have notTop : top ∉ frames :=
            (List.nodup_cons.mp (framesEq ▸ walk.nodup)).1
          simp only [FrameWalk.Waiting, FrameWalk.closeTop, FrameWalk.step,
            framesEq, List.tail_cons, List.head?_cons, Option.toList_some,
            List.mem_cons, List.not_mem_nil, or_false, true_and]
          by_cases isTop : index = top
          · subst isTop
            simp [notTop, opened]
          · simp [isTop]
  | body =>
      cases stepEq
      simp

/-- A stream that leaves the walk going leaves those instructions waiting that
received no terminator in it. -/
theorem waiting_walkAfter {walk after : FrameWalk} {effects : List FrameEffect}
    {index : Nat} (afterEq : walkAfter keys (some walk) effects = some after) :
    after.Waiting index ↔ walk.Waiting index ∧
      ¬ ∃ given ∈ effects.zip (receivers keys (some walk) effects),
        given.1 = .close ∧ index ∈ given.2 := by
  induction effects generalizing walk with
  | nil =>
      cases afterEq
      simp
  | cons effect effects ih =>
      cases stepEq : (walk.step keys effect).2 with
      | none =>
          have stopped : walkAfter keys none effects = some after := by
            rw [← afterEq, walkAfter, walkAfter, List.foldl_cons, stepFrom, stepEq]
          rw [walkAfter_stopped] at stopped
          cases stopped
      | some next =>
          rw [walkAfter, List.foldl_cons, stepFrom, stepEq] at afterEq
          rw [ih afterEq, waiting_step stepEq, receivers, stepFrom, stepEq,
            List.zip_cons_cons]
          simp only [List.mem_cons, exists_eq_or_imp, not_or, and_assoc]

end Walk

section Distribute

/-- The entries of a stream that go to one instruction. -/
def entriesOf (entries : List LogEntry) (receivers : List (List Nat))
    (index : Nat) : List LogEntry :=
  ((entries.zip receivers).filter fun given => given.2.elem index).map Prod.fst

/-- The positions of a stream that go to one instruction. -/
def positionsOf (receivers : List (List Nat)) (index : Nat) : List Nat :=
  (List.range receivers.length).filter fun position =>
    (receivers.getD position []).elem index

/-- Push an entry to the logs of all its receivers. -/
def distribute (entry : LogEntry) (receivers : List Nat)
    (result : List ParsedInstruction) : List ParsedInstruction :=
  result.mapIdx fun idx ix =>
    if receivers.elem idx then ix.pushLogs [entry] else ix

variable {entry : LogEntry} {result : List ParsedInstruction}

@[simp] theorem ParsedInstruction.key_pushLogs (ix : ParsedInstruction)
    (entries : List LogEntry) : (ix.pushLogs entries).key = ix.key :=
  rfl

@[simp] theorem ParsedInstruction.pushLogs_nil (ix : ParsedInstruction) :
    ix.pushLogs [] = ix := by
  simp [ParsedInstruction.pushLogs]

@[simp] theorem ParsedInstruction.pushLogs_pushLogs (ix : ParsedInstruction)
    (first second : List LogEntry) :
    (ix.pushLogs first).pushLogs second = ix.pushLogs (first ++ second) := by
  simp [ParsedInstruction.pushLogs]

theorem distribute_nil : distribute entry [] result = result := by
  refine List.ext_getElem? fun idx => ?_
  simp [distribute]

theorem map_key_distribute (receivers : List Nat) :
    (distribute entry receivers result).map ParsedInstruction.key =
      result.map ParsedInstruction.key := by
  refine List.ext_getElem? fun idx => ?_
  cases result[idx]? <;> simp [distribute, *] <;> split_ifs <;> rfl

theorem pushLog_eq (index : Nat) :
    pushLog entry result index = distribute entry [index] result := by
  refine List.ext_getElem? fun idx => ?_
  simp only [pushLog, distribute, List.getElem?_modify, List.getElem?_mapIdx]
  by_cases same : index = idx
  · simp [same]
  · simp [same, Ne.symm same]

theorem distribute_distribute {first second : List Nat}
    (disjoint : ∀ idx ∈ first, idx ∉ second) :
    distribute entry second (distribute entry first result) =
      distribute entry (first ++ second) result := by
  refine List.ext_getElem? fun idx => ?_
  simp only [distribute, List.getElem?_mapIdx, Option.map_map]
  congr 1
  funext ix
  by_cases inFirst : idx ∈ first
  · simp [inFirst, disjoint idx inFirst]
  · simp [inFirst]

theorem foldl_pushLog_eq {frames : List Nat} (nodup : frames.Nodup) :
    frames.foldl (pushLog entry) result = distribute entry frames result := by
  induction frames generalizing result with
  | nil => exact distribute_nil.symm
  | cons frame frames ih =>
      rw [List.nodup_cons] at nodup
      rw [List.foldl_cons, ih nodup.2, pushLog_eq, distribute_distribute]
      · rfl
      · intro idx member
        rw [List.mem_singleton.mp member]
        exact nodup.1

end Distribute

section Attach

variable {state : AttachState} {walk : FrameWalk} {keys : List InvokeKey}

/-- The variables of the loop, as far as the walk uses them. -/
structure Tracks (keys : List InvokeKey) (state : AttachState)
    (walk : FrameWalk) : Prop where
  keys : state.result.map ParsedInstruction.key = keys
  frames : state.frames = walk.frames
  cursor : state.cursor = walk.cursor

/-- The pass of the loop over an entry distributes it and follows the walk. -/
def FollowsWalk (keys : List InvokeKey) (state : AttachState)
    (walk : FrameWalk) (entry : LogEntry) : Prop :=
  ∃ state', state'.result = distribute entry
      (walk.step keys (frameEffect entry)).1 state.result ∧
    ((∃ outcome, attachEntry state entry = .leave (state', outcome) ∧
        (walk.step keys (frameEffect entry)).2 = none) ∨
      ∃ walk', attachEntry state entry = .next state' ∧
        (walk.step keys (frameEffect entry)).2 = some walk' ∧
        Tracks keys state' walk')

variable {result : List ParsedInstruction} {entry : LogEntry}

/-- A cut goes to the open frames and to all instructions still waiting. -/
theorem followsWalk_cut :
    FollowsWalk (result.map ParsedInstruction.key)
      ⟨result, walk.frames, walk.cursor⟩ walk .truncated := by
  have disjoint : ∀ idx ∈ walk.frames, idx ∉
      (List.range (result.map ParsedInstruction.key).length).filter
        (walk.cursor ≤ ·) := by
    intro idx isOpen waits
    have waiting := of_decide_eq_true (List.mem_filter.mp waits).2
    have opened := walk.frame_lt_cursor isOpen
    omega
  refine ⟨_, ?_, .inl ⟨.truncated, rfl, rfl⟩⟩
  simp only [frameEffect, FrameWalk.step, foldl_pushLog_eq walk.nodup,
    ← distribute_distribute disjoint]
  refine List.ext_getElem? fun idx => ?_
  simp only [distribute, List.getElem?_mapIdx]
  cases lookup : result[idx]? with
  | none => rfl
  | some ix =>
      have inside := (List.getElem?_eq_some_iff.mp lookup).1
      simp [inside]

/-- An invoke opens the next instruction, or ends the loop. -/
theorem followsWalk_opens {program : Pubkey} {depth : Nat}
    (effectEq : frameEffect entry = .opens program depth) :
    FollowsWalk (result.map ParsedInstruction.key)
      ⟨result, walk.frames, walk.cursor⟩ walk entry := by
  rw [FollowsWalk, effectEq]
  cases lookup : result[walk.cursor]? with
  | none =>
      refine ⟨⟨result, walk.frames, walk.cursor⟩, ?_, .inl ⟨.overrun, ?_, ?_⟩⟩
      · simp [FrameWalk.step, lookup, distribute_nil]
      · simp [attachEntry, effectEq, lookup]
      · simp [FrameWalk.step, lookup]
  | some expected =>
      by_cases same : expected.key = (program, depth)
      · have matchesInvoke : ¬ (expected.programId ≠ program ∨
            expected.stackHeight ≠ depth) := by
          cases same
          simp
        refine ⟨⟨pushLog entry result walk.cursor,
          walk.cursor :: walk.frames, walk.cursor + 1⟩, ?_,
          .inr ⟨walk.openNext, ?_, ?_, ?_, rfl, rfl⟩⟩
        · simp [FrameWalk.step, lookup, same, pushLog_eq]
        · simp only [attachEntry, effectEq, lookup, if_neg matchesInvoke]
        · simp [FrameWalk.step, lookup, same]
        · simp [pushLog_eq, map_key_distribute]
      · have mismatch : expected.programId ≠ program ∨
            expected.stackHeight ≠ depth := by
          by_contra agrees
          rw [not_or, not_not, not_not] at agrees
          exact same (Prod.ext agrees.1 agrees.2)
        refine ⟨⟨result, walk.frames, walk.cursor⟩, ?_,
          .inl ⟨.desynced, ?_, ?_⟩⟩
        · simp [FrameWalk.step, lookup, same, distribute_nil]
        · simp only [attachEntry, effectEq, lookup, if_pos mismatch]
        · simp [FrameWalk.step, lookup, same]

/-- A terminator goes to the innermost frame and closes it. -/
theorem followsWalk_close (effectEq : frameEffect entry = .close) :
    FollowsWalk (result.map ParsedInstruction.key)
      ⟨result, walk.frames, walk.cursor⟩ walk entry := by
  rw [FollowsWalk, effectEq]
  cases framesEq : walk.frames with
  | nil =>
      refine ⟨⟨result, [], walk.cursor⟩, ?_,
        .inr ⟨walk.closeTop, ?_, ?_, rfl, ?_, rfl⟩⟩
      · simp [FrameWalk.step, framesEq, distribute_nil]
      · simp only [attachEntry, effectEq]
      · simp [FrameWalk.step]
      · simp [FrameWalk.closeTop, framesEq]
  | cons top frames =>
      refine ⟨⟨pushLog entry result top, frames, walk.cursor⟩, ?_,
        .inr ⟨walk.closeTop, ?_, ?_, ?_, ?_, rfl⟩⟩
      · simp [FrameWalk.step, framesEq, pushLog_eq]
      · simp only [attachEntry, effectEq]
      · simp [FrameWalk.step]
      · simp [pushLog_eq, map_key_distribute]
      · simp [FrameWalk.closeTop, framesEq]

/-- Any other entry goes to the innermost frame, which stays open. -/
theorem followsWalk_body (effectEq : frameEffect entry = .body) :
    FollowsWalk (result.map ParsedInstruction.key)
      ⟨result, walk.frames, walk.cursor⟩ walk entry := by
  rw [FollowsWalk, effectEq]
  cases framesEq : walk.frames with
  | nil =>
      refine ⟨⟨result, [], walk.cursor⟩, ?_,
        .inr ⟨walk, ?_, ?_, rfl, framesEq.symm, rfl⟩⟩
      · simp [FrameWalk.step, framesEq, distribute_nil]
      · simp only [attachEntry, effectEq]
      · simp [FrameWalk.step]
  | cons top frames =>
      refine ⟨⟨pushLog entry result top, top :: frames, walk.cursor⟩, ?_,
        .inr ⟨walk, ?_, ?_, ?_, framesEq.symm, rfl⟩⟩
      · simp [FrameWalk.step, framesEq, pushLog_eq]
      · simp only [attachEntry, effectEq]
      · simp [FrameWalk.step]
      · simp [pushLog_eq, map_key_distribute]

theorem followsWalk (tracks : Tracks keys state walk) (entry : LogEntry) :
    FollowsWalk keys state walk entry := by
  obtain ⟨result, frames, cursor⟩ := state
  obtain ⟨rfl, framesEq, cursorEq⟩ := tracks
  simp only at framesEq cursorEq
  subst framesEq cursorEq
  cases effectEq : frameEffect entry with
  | cut =>
      have isCut : entry = .truncated := by
        cases entry <;> simp [frameEffect] at effectEq
        rfl
      subst isCut
      exact followsWalk_cut
  | opens program depth => exact followsWalk_opens effectEq
  | close => exact followsWalk_close effectEq
  | body => exact followsWalk_body effectEq

theorem entriesOf_cons (entry : LogEntry) (entries : List LogEntry)
    (given : List Nat) (rest : List (List Nat)) (index : Nat) :
    entriesOf (entry :: entries) (given :: rest) index =
      (if given.elem index then [entry] else []) ++
        entriesOf entries rest index := by
  by_cases receives : given.elem index = true
  · simp [entriesOf, List.zip_cons_cons] at *
    simp [receives]
  · simp [entriesOf, List.zip_cons_cons] at *
    simp [receives]

theorem entriesOf_append {first second : List LogEntry}
    {given rest : List (List Nat)} (sameLength : first.length = given.length)
    (index : Nat) :
    entriesOf (first ++ second) (given ++ rest) index =
      entriesOf first given index ++ entriesOf second rest index := by
  simp [entriesOf, List.zip_append sameLength]

/-- The entries an instruction gets are those at its positions. -/
theorem entriesOf_eq_positionsOf {entries : List LogEntry}
    {given : List (List Nat)} (sameLength : entries.length = given.length)
    (index : Nat) :
    entriesOf entries given index =
      (positionsOf given index).filterMap (entries[·]?) := by
  induction entries generalizing given with
  | nil =>
      cases given with
      | nil => rfl
      | cons first given => cases sameLength
  | cons entry entries ih =>
      cases given with
      | nil => cases sameLength
      | cons first given =>
          rw [entriesOf_cons, ih (Nat.succ.inj sameLength)]
          simp only [positionsOf, List.length_cons, List.range_succ_eq_map,
            List.filter_cons, List.filter_map]
          by_cases receives : index ∈ first <;>
            simp [receives, List.filterMap_map, Function.comp_def]

theorem entriesOf_stopped (entries : List LogEntry) (count index : Nat) :
    entriesOf entries (List.replicate count []) index = [] := by
  rw [entriesOf, List.map_eq_nil_iff, List.filter_eq_nil_iff]
  intro given member
  rw [List.eq_of_mem_replicate (List.of_mem_zip member).2]
  simp

theorem pushLogs_distribute {entry : LogEntry} {result : List ParsedInstruction}
    (given : List Nat) (rest : Nat → List LogEntry) :
    (distribute entry given result).mapIdx (fun idx ix => ix.pushLogs (rest idx)) =
      result.mapIdx fun idx ix => ix.pushLogs
        ((if given.elem idx then [entry] else []) ++ rest idx) := by
  refine List.ext_getElem? fun idx => ?_
  simp only [distribute, List.getElem?_mapIdx, Option.map_map]
  congr 1
  funext ix
  by_cases receives : given.elem idx = true <;> simp at receives <;>
    simp [receives]

/-- Attaching a stream distributes its entries among their receivers. -/
theorem attachFrom_result (tracks : Tracks keys state walk)
    (entries : List LogEntry) :
    (attachFrom state entries).1.result =
      state.result.mapIdx fun idx ix => ix.pushLogs
        (entriesOf entries
          (receivers keys (some walk) (entries.map frameEffect)) idx) := by
  induction entries generalizing state walk with
  | nil =>
      refine List.ext_getElem? fun idx => ?_
      simp [attachFrom, entriesOf]
  | cons entry entries ih =>
      simp only [List.map_cons, receivers, stepFrom, entriesOf_cons]
      rw [← pushLogs_distribute]
      obtain ⟨state', resultEq, ⟨outcome, leaves, stopped⟩ |
        ⟨walk', goesOn, stepEq, tracks'⟩⟩ := followsWalk tracks entry
      · rw [attachFrom, leaves, ← resultEq, stopped, receivers_stopped]
        refine List.ext_getElem? fun idx => ?_
        simp [entriesOf_stopped]
      · rw [attachFrom, goesOn, ← resultEq, stepEq]
        exact ih tracks'

theorem attachLogs_result (instructions : List ParsedInstruction)
    (entries : List LogEntry) :
    (attachLogs instructions entries).1.result =
      instructions.mapIdx fun idx ix => ix.pushLogs
        (entriesOf entries (receivers (instructions.map ParsedInstruction.key)
          (some .start) (entries.map frameEffect)) idx) :=
  attachFrom_result ⟨rfl, rfl, rfl⟩ entries

end Attach

end Parsing

end SolanaProtocols
