import SolanaProtocols.LogAttribution

/-!
# Logs of well-formed transactions

The runtime executes a forest of invocations.  It emits an invoke when an
invocation starts, the body's entries as they come, and a terminator when it
ends.  The instruction list is the preorder flattening of the same forest, and
attribution gives each instruction what its own invocation emitted.
-/

namespace SolanaProtocols

namespace Parsing

/-- A log entry in the body of an invocation. -/
abbrev BodyEntry := { entry : LogEntry // frameEffect entry = .body }

/-- What an invocation does: log entries and child invocations in order.  A
child carries its error when it fails. -/
inductive Body
  | done
  | log (entry : BodyEntry) (rest : Body)
  | call (program : Pubkey) (body : Body) (failure : Option Text) (rest : Body)

/-- A top-level invocation. -/
structure Invocation where
  program : Pubkey
  body : Body
  failure : Option Text

def terminator (program : Pubkey) : Option Text → LogEntry
  | none => .success program
  | some error => .failed program error

theorem frameEffect_terminator (program : Pubkey) (failure : Option Text) :
    frameEffect (terminator program failure) = .close := by
  cases failure <;> rfl

namespace Body

/-- Number of invocations. -/
def size : Body → Nat
  | done => 0
  | log _ rest => rest.size
  | call _ body _ rest => body.size + rest.size + 1

/-- Programs and stack heights in preorder. -/
def keys (depth : Nat) : Body → List InvokeKey
  | done => []
  | log _ rest => rest.keys depth
  | call program body _ rest =>
      (program, depth) :: (body.keys (depth + 1) ++ rest.keys depth)

/-- The log stream in order.  Each entry comes with the preorder index of the
invocation that emits it: `owner` for the entries of this body, and from `next`
on for the invocations in it. -/
def emit (owner : Option Nat) (next depth : Nat) :
    Body → List (Option Nat × LogEntry)
  | done => []
  | log entry rest => (owner, entry.val) :: rest.emit owner next depth
  | call program body failure rest =>
      (some next, .invoke program depth) ::
        (body.emit (some next) (next + 1) (depth + 1) ++
          (some next, terminator program failure) ::
            rest.emit owner (next + 1 + body.size) depth)

/-- The entries of a body that are not a child's. -/
def ownLogs : Body → List LogEntry
  | done => []
  | log entry rest => entry.val :: rest.ownLogs
  | call _ _ _ rest => rest.ownLogs

/-- What each invocation emits itself, in preorder. -/
def slices (depth : Nat) : Body → List (List LogEntry)
  | done => []
  | log _ rest => rest.slices depth
  | call program body failure rest =>
      (.invoke program depth ::
          (body.ownLogs ++ [terminator program failure])) ::
        (body.slices (depth + 1) ++ rest.slices depth)

theorem length_keys (body : Body) (depth : Nat) :
    (body.keys depth).length = body.size := by
  induction body generalizing depth with
  | done => rfl
  | log entry rest ih => exact ih depth
  | call program body failure rest bodyIH restIH =>
      simp only [keys, size, List.length_cons, List.length_append, bodyIH, restIH]

theorem length_slices (body : Body) (depth : Nat) :
    (body.slices depth).length = body.size := by
  induction body generalizing depth with
  | done => rfl
  | log entry rest ih => exact ih depth
  | call program body failure rest bodyIH restIH =>
      simp only [slices, size, List.length_cons, List.length_append, bodyIH,
        restIH]

end Body

/-- The entries of a tagged stream that one invocation emits. -/
def ownEntries (stream : List (Option Nat × LogEntry)) (index : Nat) :
    List LogEntry :=
  (stream.filter fun tagged => tagged.1 == some index).map Prod.snd

section Own

variable {owner : Option Nat} {next depth index : Nat}

theorem ownEntries_cons (tag : Option Nat) (entry : LogEntry)
    (stream : List (Option Nat × LogEntry)) (index : Nat) :
    ownEntries ((tag, entry) :: stream) index =
      (if tag = some index then [entry] else []) ++ ownEntries stream index := by
  by_cases same : tag = some index <;> simp [ownEntries, same]

theorem ownEntries_append (first second : List (Option Nat × LogEntry))
    (index : Nat) :
    ownEntries (first ++ second) index =
      ownEntries first index ++ ownEntries second index := by
  simp [ownEntries]

/-- A body emits nothing for invocations outside it. -/
theorem ownEntries_emit_outside (body : Body) (before : index < next)
    (notOwner : owner ≠ some index) :
    ownEntries (body.emit owner next depth) index = [] := by
  induction body generalizing owner next depth with
  | done => rfl
  | log entry rest ih =>
      rw [Body.emit, ownEntries_cons, if_neg notOwner, ih before notOwner,
        List.nil_append]
  | call program body failure rest bodyIH restIH =>
      have notNext : some next ≠ some index := by
        intro same
        cases same
        omega
      rw [Body.emit, ownEntries_cons, ownEntries_append, ownEntries_cons,
        if_neg notNext, if_neg notNext, bodyIH (by omega) notNext,
        restIH (by omega) notOwner]
      rfl

theorem ownEntries_emit_owner (body : Body) (before : index < next) :
    ownEntries (body.emit (some index) next depth) index = body.ownLogs := by
  induction body generalizing next depth with
  | done => rfl
  | log entry rest ih =>
      rw [Body.emit, ownEntries_cons, if_pos rfl, ih before]
      rfl
  | call program body failure rest bodyIH restIH =>
      have notNext : some next ≠ some index := by
        intro same
        cases same
        omega
      rw [Body.emit, ownEntries_cons, ownEntries_append, ownEntries_cons,
        if_neg notNext, if_neg notNext,
        ownEntries_emit_outside body (by omega) notNext, restIH (by omega)]
      rfl

/-- A body emits for each invocation in it that invocation's slice. -/
theorem ownEntries_emit (body : Body) (before : ∀ tag ∈ owner, tag < next) :
    ownEntries (body.emit owner next depth) (next + index) =
      ((body.slices depth)[index]?).getD [] := by
  induction body generalizing owner next depth index with
  | done => rfl
  | log entry rest ih =>
      have notOwner : owner ≠ some (next + index) := by
        intro same
        have := before _ same
        omega
      rw [Body.emit, ownEntries_cons, if_neg notOwner, List.nil_append, ih before]
      rfl
  | call program body failure rest bodyIH restIH =>
      have notOwner : ∀ index, owner ≠ some (next + index) := by
        intro index same
        have := before _ same
        omega
      rw [Body.emit, ownEntries_cons, ownEntries_append, ownEntries_cons,
        Body.slices]
      cases index with
      | zero =>
          have notOwner' : owner ≠ some next := notOwner 0
          rw [Nat.add_zero, if_pos rfl, if_pos rfl,
            ownEntries_emit_owner body (Nat.lt_succ_self next),
            ownEntries_emit_outside rest (by omega) notOwner']
          simp
      | succ index =>
          have notNext : some next ≠ some (next + (index + 1)) := by
            intro same
            have := Option.some.inj same
            omega
          rw [if_neg notNext, if_neg notNext,
            show next + (index + 1) = next + 1 + index by omega,
            bodyIH (by simp), List.nil_append, List.nil_append,
            List.getElem?_cons_succ, List.getElem?_append, Body.length_slices]
          by_cases inBody : index < body.size
          · rw [if_pos inBody, ownEntries_emit_outside rest (by omega)
              (by rw [show next + 1 + index = next + (index + 1) by omega]
                  exact notOwner _), List.append_nil]
          · obtain ⟨offset, rfl⟩ : ∃ offset, index = body.size + offset :=
              ⟨index - body.size, by omega⟩
            rw [if_neg inBody, List.getElem?_eq_none
              (by rw [Body.length_slices]; omega), Option.getD_none,
              List.nil_append, ← Nat.add_assoc, restIH, Nat.add_sub_cancel_left]
            intro tag isOwner
            have := before tag isOwner
            omega

end Own

section Run

section Frame

variable {keys : List InvokeKey} {walk : FrameWalk} {program : Pubkey}
  {depth count : Nat} {inside rest : List FrameEffect}

theorem closeTop_advance (walk : FrameWalk) (count : Nat) :
    (walk.openNext.advance count).closeTop = walk.advance (count + 1) := by
  ext1
  · rfl
  · simp only [FrameWalk.closeTop, FrameWalk.advance, FrameWalk.openNext]
    omega

theorem frames_advance (walk : FrameWalk) (count : Nat) :
    (walk.advance count).frames = walk.frames :=
  rfl

theorem step_closeTop :
    (walk.openNext.advance count).step keys .close =
      ([walk.cursor], some (walk.advance (count + 1))) := by
  rw [FrameWalk.step, closeTop_advance]
  rfl

/-- A frame's opening and closing entries go to its instruction, and those in
between where they go inside the open frame. -/
theorem receivers_frame
    (opensNext : keys[walk.cursor]? = some (program, depth))
    (insideAfter : walkAfter keys (some walk.openNext) inside =
      some (walk.openNext.advance count)) :
    receivers keys (some walk)
        (.opens program depth :: (inside ++ .close :: rest)) =
      [walk.cursor] :: (receivers keys (some walk.openNext) inside ++
        [walk.cursor] ::
          receivers keys (some (walk.advance (count + 1))) rest) := by
  rw [receivers, stepFrom, FrameWalk.step, if_pos opensNext, receivers_append,
    insideAfter, receivers, stepFrom, step_closeTop]

theorem walkAfter_frame
    (opensNext : keys[walk.cursor]? = some (program, depth))
    (insideAfter : walkAfter keys (some walk.openNext) inside =
      some (walk.openNext.advance count)) :
    walkAfter keys (some walk)
        (.opens program depth :: (inside ++ .close :: rest)) =
      walkAfter keys (some (walk.advance (count + 1))) rest := by
  calc
    walkAfter keys (some walk)
          (.opens program depth :: (inside ++ .close :: rest)) =
        walkAfter keys (some walk.openNext) (inside ++ .close :: rest) := by
      rw [walkAfter, List.foldl_cons, stepFrom, FrameWalk.step, if_pos opensNext]
      rfl
    _ = walkAfter keys (some (walk.openNext.advance count)) (.close :: rest) := by
      rw [walkAfter_append, insideAfter]
    _ = walkAfter keys (some (walk.advance (count + 1))) rest := by
      rw [walkAfter, List.foldl_cons, stepFrom, step_closeTop]
      rfl

end Frame

/-- Emitting a body takes the walk past the invocations in it, and every entry
goes to the invocation that emits it. -/
theorem receivers_emit (body : Body) {keys : List InvokeKey}
    {walk : FrameWalk} {depth : Nat}
    (flattened : body.keys depth <+: keys.drop walk.cursor) :
    let effects := (body.emit walk.frames.head? walk.cursor depth).map
      fun tagged => frameEffect tagged.2
    receivers keys (some walk) effects =
        (body.emit walk.frames.head? walk.cursor depth).map
          (fun tagged => tagged.1.toList) ∧
      walkAfter keys (some walk) effects = some (walk.advance body.size) := by
  induction body generalizing walk depth with
  | done => exact ⟨rfl, rfl⟩
  | log entry rest ih =>
      obtain ⟨given, after⟩ := ih flattened
      have isBody := entry.property
      simp only [Body.emit, List.map_cons, receivers, stepFrom, walkAfter,
        List.foldl_cons, isBody, FrameWalk.step] at given after ⊢
      exact ⟨by rw [given], after⟩
  | call program body failure rest bodyIH restIH =>
      obtain ⟨tail, keysEq⟩ := flattened
      simp only [Body.keys, List.cons_append, List.append_assoc] at keysEq
      have opensNext : keys[walk.cursor]? = some (program, depth) := by
        rw [← List.head?_drop, ← keysEq]
        rfl
      have bodyKeys : body.keys (depth + 1) <+:
          keys.drop walk.openNext.cursor := by
        refine ⟨rest.keys depth ++ tail, ?_⟩
        rw [FrameWalk.openNext, ← List.tail_drop, ← keysEq]
        rfl
      have restKeys : rest.keys depth <+:
          keys.drop (walk.advance (body.size + 1)).cursor := by
        refine ⟨tail, ?_⟩
        have split : keys.drop walk.cursor =
            ((program, depth) :: body.keys (depth + 1)) ++
              (rest.keys depth ++ tail) := by
          rw [← keysEq]
          rfl
        rw [FrameWalk.advance, ← List.drop_drop, split, List.drop_left']
        rw [List.length_cons, Body.length_keys]
      obtain ⟨bodyGiven, bodyAfter⟩ := bodyIH bodyKeys
      obtain ⟨restGiven, restAfter⟩ := restIH restKeys
      rw [frames_advance] at restGiven restAfter
      have past : (walk.advance (body.size + 1)).advance rest.size =
          walk.advance (Body.call program body failure rest).size := by
        ext1
        · rfl
        · simp only [FrameWalk.advance, Body.size]
          omega
      have nextEq : walk.cursor + 1 + body.size =
          (walk.advance (body.size + 1)).cursor := by
        simp only [FrameWalk.advance]
        omega
      have opening : frameEffect (.invoke program depth) =
          .opens program depth := rfl
      simp only [Body.emit, List.map_cons, List.map_append, nextEq, opening,
        frameEffect_terminator]
      constructor
      · refine (receivers_frame opensNext bodyAfter).trans ?_
        rw [bodyGiven, restGiven]
        rfl
      · refine (walkAfter_frame opensNext bodyAfter).trans ?_
        exact restAfter.trans (congrArg some past)

end Run

section Forest

/-- The top-level invocations of a transaction as one body. -/
def topLevel (forest : List Invocation) : Body :=
  forest.foldr (fun invocation rest =>
    .call invocation.program invocation.body invocation.failure rest) .done

/-- What the instruction list of a transaction shows of it. -/
def flatten (forest : List Invocation) : List InvokeKey :=
  (topLevel forest).keys 1

/-- The log stream of a transaction, each entry with the instruction that emits
it. -/
def stream (forest : List Invocation) : List (Option Nat × LogEntry) :=
  (topLevel forest).emit none 0 1

/-- What each instruction of a transaction emits itself. -/
def slices (forest : List Invocation) : List (List LogEntry) :=
  (topLevel forest).slices 1

/-- Whether a piece of a stream has the terminator of an instruction. -/
def isClosed (stream : List (Option Nat × LogEntry)) (index : Nat) : Bool :=
  stream.any fun tagged =>
    tagged.1 == some index && frameEffect tagged.2 == .close

theorem emit_tag (body : Body) {owner : Option Nat} {next depth : Nat}
    {tagged : Option Nat × LogEntry}
    (emitted : tagged ∈ body.emit owner next depth) :
    tagged.1 = owner ∨
      ∃ index, tagged.1 = some index ∧ next ≤ index ∧ index < next + body.size := by
  induction body generalizing owner next depth with
  | done => cases emitted
  | log entry rest ih =>
      rcases List.mem_cons.mp emitted with rfl | emitted
      · exact .inl rfl
      · exact ih emitted
  | call program body failure rest bodyIH restIH =>
      simp only [Body.emit, List.mem_cons, List.mem_append, Body.size] at emitted ⊢
      rcases emitted with rfl | emitted | rfl | emitted
      · exact .inr ⟨next, rfl, by omega⟩
      · rcases bodyIH emitted with isNext | ⟨index, isIndex, bounds⟩
        · exact .inr ⟨next, isNext, by omega⟩
        · exact .inr ⟨index, isIndex, by omega⟩
      · exact .inr ⟨next, rfl, by omega⟩
      · rcases restIH emitted with isOwner | ⟨index, isIndex, bounds⟩
        · exact .inl isOwner
        · exact .inr ⟨index, isIndex, by omega⟩

/-- Every entry of the stream of a forest is emitted by an instruction. -/
theorem topLevel_tag (forest : List Invocation) {next : Nat}
    {tagged : Option Nat × LogEntry}
    (emitted : tagged ∈ (topLevel forest).emit none next 1) :
    ∃ index, tagged.1 = some index ∧ index < next + (topLevel forest).size := by
  induction forest generalizing next with
  | nil => cases emitted
  | cons invocation forest ih =>
      simp only [topLevel, List.foldr_cons, Body.emit, List.mem_cons,
        List.mem_append, Body.size] at emitted ih ⊢
      rcases emitted with rfl | emitted | rfl | emitted
      · exact ⟨next, rfl, by omega⟩
      · rcases emit_tag _ emitted with isNext | ⟨index, isIndex, bounds⟩
        · exact ⟨next, isNext, by omega⟩
        · exact ⟨index, isIndex, by omega⟩
      · exact ⟨next, rfl, by omega⟩
      · obtain ⟨index, isIndex, bound⟩ := ih emitted
        exact ⟨index, isIndex, by omega⟩

theorem entriesOf_tagged (stream : List (Option Nat × LogEntry)) (index : Nat) :
    entriesOf (stream.map Prod.snd) (stream.map fun tagged => tagged.1.toList)
      index = ownEntries stream index := by
  induction stream with
  | nil => rfl
  | cons tagged stream ih =>
      obtain ⟨tag, entry⟩ := tagged
      rw [List.map_cons, List.map_cons, entriesOf_cons, ownEntries_cons, ih]
      cases tag <;> simp [eq_comm]

variable {forest : List Invocation} {instructions : List ParsedInstruction}

theorem receivers_cut (forest : List Invocation) (count : Nat) :
    let cut := (stream forest).take count
    let effects := cut.map fun tagged => frameEffect tagged.2
    receivers (flatten forest) (some .start) effects =
        cut.map (fun tagged => tagged.1.toList) ∧
      ∃ walk, walkAfter (flatten forest) (some .start) effects = some walk := by
  obtain ⟨given, after⟩ := @receivers_emit (topLevel forest) (flatten forest)
    .start 1 List.prefix_rfl
  simp only [List.map_take, receivers_take]
  exact ⟨congrArg _ given, walkAfter_take after count⟩

theorem mapIdx_pushLogs {logs logs' : Nat → List LogEntry}
    (fresh : ∀ ix ∈ instructions, ix.logs = [])
    (same : ∀ index < instructions.length, logs index = logs' index) :
    instructions.mapIdx (fun index ix => ix.pushLogs (logs index)) =
      instructions.mapIdx fun index ix => { ix with logs := logs' index } := by
  refine List.ext_getElem? fun index => ?_
  rw [List.getElem?_mapIdx, List.getElem?_mapIdx]
  cases lookup : instructions[index]? with
  | none => rfl
  | some ix =>
      obtain ⟨inside, isIx⟩ := List.getElem?_eq_some_iff.mp lookup
      have noLogs : ix.logs = [] := fresh ix (isIx ▸ List.getElem_mem inside)
      simp [ParsedInstruction.pushLogs, noLogs, same index inside]

theorem ownEntries_stream (forest : List Invocation) (index : Nat) :
    ownEntries (stream forest) index = ((slices forest)[index]?).getD [] := by
  have own := @ownEntries_emit none 0 1 index (topLevel forest) (by simp)
  rwa [Nat.zero_add] at own

theorem attachLogs_whole
    (flattened : instructions.map ParsedInstruction.key = flatten forest)
    (fresh : ∀ ix ∈ instructions, ix.logs = []) :
    (attachLogs instructions ((stream forest).map Prod.snd)).1.result =
      instructions.mapIdx fun index ix =>
        { ix with logs := ((slices forest)[index]?).getD [] } := by
  obtain ⟨given, -⟩ := receivers_cut forest (stream forest).length
  rw [List.take_length] at given
  rw [attachLogs_result, flattened, List.map_map]
  refine mapIdx_pushLogs fresh fun index _ => ?_
  rw [← ownEntries_stream, ← entriesOf_tagged]
  exact congrArg (entriesOf _ · index) given

/-- An instruction waits at the cut exactly when its terminator is not before
the cut. -/
theorem waiting_cut {count : Nat} {walk : FrameWalk} (index : Nat)
    (after : walkAfter (flatten forest) (some .start)
      (((stream forest).take count).map fun tagged => frameEffect tagged.2) =
        some walk) :
    walk.Waiting index ↔ isClosed ((stream forest).take count) index = false := by
  have initially : FrameWalk.start.Waiting index := .inr (Nat.zero_le _)
  rw [waiting_walkAfter after, (receivers_cut forest count).1, List.zip_map',
    isClosed, List.any_eq_false]
  simp only [initially, true_and, List.mem_map, not_exists, not_and,
    Bool.and_eq_true, beq_iff_eq]
  constructor
  · intro isOpen tagged emitted isIndex closes
    exact isOpen _ ⟨tagged, emitted, rfl⟩ closes (by simp [isIndex])
  · rintro isOpen _ ⟨tagged, emitted, rfl⟩ closes receives
    exact isOpen tagged emitted (Option.mem_toList.mp receives) closes

theorem attachLogs_cut
    (flattened : instructions.map ParsedInstruction.key = flatten forest)
    (fresh : ∀ ix ∈ instructions, ix.logs = []) (count : Nat) :
    (attachLogs instructions
        (((stream forest).take count).map Prod.snd ++ [.truncated])).1.result =
      instructions.mapIdx fun index ix =>
        { ix with logs := ownEntries ((stream forest).take count) index ++
            if isClosed ((stream forest).take count) index then []
            else [.truncated] } := by
  obtain ⟨given, walk, after⟩ := receivers_cut forest count
  have lengthEq : instructions.length = (flatten forest).length := by
    rw [← flattened, List.length_map]
  rw [attachLogs_result, flattened, List.map_append, List.map_map,
    receivers_append]
  refine mapIdx_pushLogs fresh fun index inside => ?_
  rw [entriesOf_append]
  · congr 1
    · rw [← entriesOf_tagged]
      exact congrArg (entriesOf _ · index) given
    · change entriesOf _ (receivers _ (walkAfter _ _
        (((stream forest).take count).map fun tagged => frameEffect tagged.2)) _)
        _ = _
      have awaits := waiting_cut index after
      have markers : (walk.frames ++ (List.range (flatten forest).length).filter
          (walk.cursor ≤ ·)).elem index =
            !isClosed ((stream forest).take count) index := by
        rw [Bool.eq_iff_iff, Bool.not_eq_true', ← awaits]
        simp [FrameWalk.Waiting, ← lengthEq, inside]
      rw [after]
      simp only [List.map_cons, List.map_nil, frameEffect, receivers, stepFrom,
        FrameWalk.step, entriesOf_cons, markers]
      cases isClosed ((stream forest).take count) index <;> rfl
  · simp [length_receivers]

/-- On the log stream of a forest each instruction gets what its invocation
emits itself, and every entry is some instruction's.  When the runtime cuts the
stream, each gets its own entries up to the cut, and those not yet closed get
the marker. -/
structure AttributesExactly (forest : List Invocation)
    (instructions : List ParsedInstruction) : Prop where
  whole : (attachLogs instructions ((stream forest).map Prod.snd)).1.result =
    instructions.mapIdx fun index ix =>
      { ix with logs := ((slices forest)[index]?).getD [] }
  owned : ∀ tagged ∈ stream forest,
    ∃ index, tagged.1 = some index ∧ index < instructions.length
  cut : ∀ count,
    (attachLogs instructions
        (((stream forest).take count).map Prod.snd ++ [.truncated])).1.result =
      instructions.mapIdx fun index ix =>
        { ix with logs := ownEntries ((stream forest).take count) index ++
            if isClosed ((stream forest).take count) index then []
            else [.truncated] }

/-- Attribution is exact on the logs of every forest of invocations. -/
theorem attachLogs_forest
    (flattened : instructions.map ParsedInstruction.key = flatten forest)
    (fresh : ∀ ix ∈ instructions, ix.logs = []) :
    AttributesExactly forest instructions where
  whole := attachLogs_whole flattened fresh
  owned := by
    have sizeEq : instructions.length = (topLevel forest).size := by
      rw [← List.length_map ParsedInstruction.key, flattened, flatten,
        Body.length_keys]
    intro tagged emitted
    obtain ⟨index, isIndex, bound⟩ := topLevel_tag forest emitted
    exact ⟨index, isIndex, by omega⟩
  cut := attachLogs_cut flattened fresh

/-- A program that logs around a call, and a second one that fails. -/
def nestedForest : List Invocation :=
  [⟨1, .log ⟨.message ['a'], rfl⟩ (.call 2 (.log ⟨.message ['b'], rfl⟩ .done) none
      (.log ⟨.message ['c'], rfl⟩ .done)), none⟩,
    ⟨3, .done, some ['d']⟩]

def nestedInstructions : List ParsedInstruction :=
  [⟨1, [], [], [], 1, none, 0⟩, ⟨2, [], [], [], 2, some 0, 1⟩,
    ⟨3, [], [], [], 1, none, 2⟩]

theorem attachLogs_nestedForest :
    AttributesExactly nestedForest nestedInstructions :=
  attachLogs_forest (by decide) (by decide)

end Forest

end Parsing

end SolanaProtocols
