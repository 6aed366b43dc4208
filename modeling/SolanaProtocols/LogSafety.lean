import SolanaProtocols.LogForest

/-!
# Attribution on arbitrary streams

A stream need not come from a well-formed transaction: terminators may be
missing, doubled or foreign, and the stream may be cut or run past the
instruction list.  Whatever it is, an entry goes to one instruction at most, a
slice starts with the instruction's own invoke and has no other, and nothing
follows its terminator.  Whether the terminator is the instruction's own is up
to the stream, as no terminator is checked against the frame it closes.
-/

namespace SolanaProtocols

namespace Parsing

/-- The program that a terminator names. -/
def terminatedProgram : LogEntry → Option Pubkey
  | .success program => some program
  | .failed program _ => some program
  | _ => none

/-- The entries that attribution adds to the logs of an instruction. -/
def attachedSlice (instructions : List ParsedInstruction)
    (entries : List LogEntry) (index : Nat) : List LogEntry :=
  match instructions[index]?,
      (attachLogs instructions entries).1.result[index]? with
  | some before, some after => after.logs.drop before.logs.length
  | _, _ => []

/-- Nothing, a truncation marker, or the instruction's own invoke and after it
no other invoke. -/
def OwnShape (instruction : ParsedInstruction) (slice : List LogEntry) : Prop :=
  slice = [] ∨ slice = [.truncated] ∨
    ∃ rest, slice =
        .invoke instruction.programId instruction.stackHeight :: rest ∧
      ∀ program depth, .invoke program depth ∉ rest

/-- Terminators name the instruction's program and end its slice. -/
def OwnTerminators (instruction : ParsedInstruction)
    (slice : List LogEntry) : Prop :=
  ∀ before entry after program, slice = before ++ entry :: after →
    terminatedProgram entry = some program →
      program = instruction.programId ∧ after = []

/-- A stream with the owner of each entry stands behind the slices: an entry
is moved to its owner or dropped, and a truncation leaves a marker of its own
with every instruction that was waiting. -/
def MovesEntries (instructions : List ParsedInstruction)
    (entries : List LogEntry) : Prop :=
  ∃ stream : List (Option Nat × LogEntry),
    stream.map Prod.snd = entries ∧
      ∀ index < instructions.length,
        attachedSlice instructions entries index = ownEntries stream index ∨
          attachedSlice instructions entries index =
            ownEntries stream index ++ [.truncated]

/-- What attribution promises of any stream. -/
structure AttributionSafe (instructions : List ParsedInstruction)
    (entries : List LogEntry) : Prop where
  moves : MovesEntries instructions entries
  inOrder : ∀ index, (attachedSlice instructions entries index).Sublist entries
  shape : ∀ index instruction, instructions[index]? = some instruction →
    OwnShape instruction (attachedSlice instructions entries index)
  terminators : ∀ index instruction, instructions[index]? = some instruction →
    OwnTerminators instruction (attachedSlice instructions entries index)

/-- Until the stream is cut or leaves the instruction list, a terminator names
the program of the innermost invoke that is still open; without an open invoke
it may name any.  The list holds the open programs, innermost first. -/
def TerminatorsMatch :
    List LogEntry → List InvokeKey → List Pubkey → Prop
  | [], _, _ => True
  | entry :: entries, keys, opened =>
      match frameEffect entry with
      | .opens program depth =>
          keys.head? = some (program, depth) →
            TerminatorsMatch entries keys.tail (program :: opened)
      | .close =>
          (∀ innermost ∈ opened.head?,
            terminatedProgram entry = some innermost) ∧
              TerminatorsMatch entries keys opened.tail
      | .cut => True
      | .body => TerminatorsMatch entries keys opened

/-- The state of one instruction's log slice. -/
inductive LogSliceVerdict
  | ok
  | truncated
  | empty
  | foreignOpen (found : Pubkey)
  | notOpened
  | depthMismatch (found : Nat)
  | interiorInvoke
  | unterminated
deriving DecidableEq, Repr

def isInvoke : LogEntry → Bool
  | .invoke _ _ => true
  | _ => false

/-- Check one instruction's log slice against the bracket invariant. -/
def auditLogSlice (ix : ParsedInstruction) : LogSliceVerdict :=
  if ix.logs.contains .truncated then .truncated
  else
    match ix.logs with
    | [] => .empty
    | .invoke program depth :: rest =>
        if program ≠ ix.programId then .foreignOpen program
        else if depth ≠ ix.stackHeight then .depthMismatch depth
        else if rest.any isInvoke then .interiorInvoke
        else if ix.logs.getLast?.bind terminatedProgram = some ix.programId then
          .ok
        else .unterminated
    | _ :: _ => .notOpened

/-- A slice of the promised shape is complete, cut or silent: the audit finds no
other instruction's logs in it. -/
theorem auditLogSlice_of_ownShape {ix : ParsedInstruction}
    (shape : OwnShape ix ix.logs) :
    auditLogSlice ix ∈
      [.ok, .truncated, .empty, LogSliceVerdict.unterminated] := by
  rcases shape with empty | marker | ⟨rest, opens, noInvoke⟩
  · simp [auditLogSlice, empty]
  · simp [auditLogSlice, marker]
  · have interior : rest.any isInvoke = false := by
      rw [List.any_eq_false]
      intro entry member
      cases entry with
      | invoke program depth => exact absurd member (noInvoke program depth)
      | _ => simp [isInvoke]
    unfold auditLogSlice
    rw [opens]
    simp only [interior, ne_eq, not_true_eq_false, if_false, Bool.false_eq_true]
    split
    · simp
    · split
      · simp
      · simp

section Slices

variable {keys : List InvokeKey} {walk : FrameWalk} {index : Nat}

theorem attachedSlice_eq {instructions : List ParsedInstruction}
    {entries : List LogEntry} (inside : index < instructions.length) :
    attachedSlice instructions entries index =
      entriesOf entries (receivers (instructions.map ParsedInstruction.key)
        (some .start) (entries.map frameEffect)) index := by
  have lookup : instructions[index]? = some instructions[index] :=
    List.getElem?_eq_getElem inside
  unfold attachedSlice
  rw [attachLogs_result, List.getElem?_mapIdx, lookup]
  simp [ParsedInstruction.pushLogs]

theorem attachedSlice_outside {instructions : List ParsedInstruction}
    {entries : List LogEntry} (outside : instructions.length ≤ index) :
    attachedSlice instructions entries index = [] := by
  have lookup : instructions[index]? = none :=
    List.getElem?_eq_none outside
  unfold attachedSlice
  rw [lookup]

theorem entriesOf_sublist (entries : List LogEntry)
    (given : List (List Nat)) (index : Nat) :
    (entriesOf entries given index).Sublist entries := by
  induction entries generalizing given with
  | nil => exact List.Sublist.refl _
  | cons entry entries ih =>
      cases given with
      | nil => exact List.nil_sublist _
      | cons first given =>
          rw [entriesOf_cons]
          by_cases receives : first.elem index
          · rw [if_pos receives]
            exact (ih given).cons_cons entry
          · rw [if_neg receives]
            exact (ih given).cons entry

theorem step_receives {effect : FrameEffect} (notCut : effect ≠ .cut) :
    (walk.step keys effect).1 = (walk.step keys effect).1.head?.toList := by
  cases effect with
  | cut => exact absurd rfl notCut
  | opens program depth =>
      simp only [FrameWalk.step]
      split
      · rfl
      · rfl
  | close => simp only [FrameWalk.step]; cases walk.frames <;> rfl
  | body => simp only [FrameWalk.step]; cases walk.frames <;> rfl

theorem eq_truncated_of_cut {entry : LogEntry}
    (cut : frameEffect entry = .cut) : entry = .truncated := by
  cases entry <;> simp [frameEffect] at cut ⊢

theorem ownEntries_dropped (entries : List LogEntry) (index : Nat) :
    ownEntries (entries.map fun entry => (none, entry)) index = [] := by
  induction entries with
  | nil => rfl
  | cons entry entries ih =>
      rw [List.map_cons, ownEntries_cons, ih]
      rfl

theorem map_snd_dropped (entries : List LogEntry) :
    (entries.map fun entry => ((none : Option Nat), entry)).map Prod.snd =
      entries := by
  rw [List.map_map]
  exact List.map_id entries

/-- Every stream can be read as one in which each entry has one owner. -/
theorem entriesOf_owned (walk : Option FrameWalk) (entries : List LogEntry) :
    ∃ stream : List (Option Nat × LogEntry),
      stream.map Prod.snd = entries ∧
        ∀ index,
          entriesOf entries (receivers keys walk (entries.map frameEffect))
              index = ownEntries stream index ∨
            entriesOf entries (receivers keys walk (entries.map frameEffect))
              index = ownEntries stream index ++ [.truncated] := by
  induction entries generalizing walk with
  | nil => exact ⟨[], rfl, fun index => .inl rfl⟩
  | cons entry entries ih =>
      cases walk with
      | none =>
          refine ⟨(entry :: entries).map fun entry => (none, entry),
            map_snd_dropped _, fun index => .inl ?_⟩
          rw [ownEntries_dropped, receivers_stopped, entriesOf_stopped]
      | some walk =>
          by_cases cut : frameEffect entry = .cut
          · refine ⟨(entry :: entries).map fun entry => (none, entry),
              map_snd_dropped _, fun index => ?_⟩
            rw [ownEntries_dropped, List.map_cons, receivers, entriesOf_cons,
              stepFrom, cut, eq_truncated_of_cut cut]
            simp only [FrameWalk.step, receivers_stopped, entriesOf_stopped,
              List.append_nil, List.nil_append]
            by_cases waits : (walk.frames ++ (List.range keys.length).filter
                (walk.cursor ≤ ·)).elem index = true
            · exact .inr (if_pos waits)
            · exact .inl (if_neg waits)
          · obtain ⟨stream, streamEq, owned⟩ :=
              ih (walk.step keys (frameEffect entry)).2
            refine ⟨((walk.step keys (frameEffect entry)).1.head?, entry) :: stream,
              by rw [List.map_cons, streamEq], fun index => ?_⟩
            have sameOwner : (walk.step keys (frameEffect entry)).1.elem index =
                true ↔
                  (walk.step keys (frameEffect entry)).1.head? = some index := by
              rw [step_receives cut]
              cases (walk.step keys (frameEffect entry)).1.head? with
              | none => simp
              | some owner => simp [eq_comm]
            rw [List.map_cons, receivers, entriesOf_cons, ownEntries_cons, stepFrom]
            simp only [sameOwner, List.append_assoc, List.append_cancel_left_eq]
            exact owned index

/-- What follows the invoke in a slice: body entries, and at the end perhaps a
terminator or a truncation marker. -/
def SliceTail (slice : List LogEntry) : Prop :=
  ∃ (body : List LogEntry) (last : Option LogEntry),
    slice = body ++ last.toList ∧
      (∀ entry ∈ body, frameEffect entry = .body) ∧
        ∀ entry ∈ last, frameEffect entry = .close ∨ frameEffect entry = .cut

theorem SliceTail.nil : SliceTail [] :=
  ⟨[], none, rfl, by simp, by simp⟩

theorem SliceTail.last {entry : LogEntry}
    (ends : frameEffect entry = .close ∨ frameEffect entry = .cut) :
    SliceTail [entry] :=
  ⟨[], some entry, rfl, by simp, by simpa using ends⟩

theorem SliceTail.cons {entry : LogEntry} {slice : List LogEntry}
    (inBody : frameEffect entry = .body) (tail : SliceTail slice) :
    SliceTail (entry :: slice) := by
  obtain ⟨body, last, rfl, bodies, ends⟩ := tail
  refine ⟨entry :: body, last, rfl, ?_, ends⟩
  intro other member
  rcases List.mem_cons.mp member with rfl | member
  · exact inBody
  · exact bodies other member

theorem entriesOf_cons_step {given : List Nat} {after : Option FrameWalk}
    {entry : LogEntry} (entries : List LogEntry)
    (stepEq : walk.step keys (frameEffect entry) = (given, after)) :
    entriesOf (entry :: entries)
        (receivers keys (some walk) ((entry :: entries).map frameEffect)) index =
      (if index ∈ given then [entry] else []) ++
        entriesOf entries (receivers keys after (entries.map frameEffect))
          index := by
  rw [List.map_cons, receivers, entriesOf_cons, stepFrom, stepEq]
  simp only [List.elem_eq_mem, decide_eq_true_eq]

theorem entriesOf_none (entries : List LogEntry) (index : Nat) :
    entriesOf entries (receivers keys none (entries.map frameEffect)) index =
      [] := by
  rw [receivers_stopped, entriesOf_stopped]

theorem mem_of_mem_head {frames : List Nat}
    (isTop : index ∈ frames.head?.toList) : index ∈ frames := by
  cases frames with
  | nil => simp at isTop
  | cons top frames =>
      have same : index = top := by simpa using isTop
      exact List.mem_cons.mpr (.inl same)

section Steps

variable {entry : LogEntry} {program : Pubkey} {depth : Nat}

theorem step_cut (effectEq : frameEffect entry = .cut) :
    walk.step keys (frameEffect entry) = (walk.frames ++
      (List.range keys.length).filter (walk.cursor ≤ ·), none) := by
  rw [effectEq, FrameWalk.step]

theorem step_expected (effectEq : frameEffect entry = .opens program depth)
    (expected : keys[walk.cursor]? = some (program, depth)) :
    walk.step keys (frameEffect entry) =
      ([walk.cursor], some walk.openNext) := by
  rw [effectEq, FrameWalk.step, if_pos expected]

theorem step_unexpected (effectEq : frameEffect entry = .opens program depth)
    (unexpected : keys[walk.cursor]? ≠ some (program, depth)) :
    walk.step keys (frameEffect entry) = ([], none) := by
  rw [effectEq, FrameWalk.step, if_neg unexpected]

theorem step_close (effectEq : frameEffect entry = .close) :
    walk.step keys (frameEffect entry) =
      (walk.frames.head?.toList, some walk.closeTop) := by
  rw [effectEq, FrameWalk.step]

theorem step_body (effectEq : frameEffect entry = .body) :
    walk.step keys (frameEffect entry) =
      (walk.frames.head?.toList, some walk) := by
  rw [effectEq, FrameWalk.step]

end Steps

theorem invoke_of_opens {entry : LogEntry} {program : Pubkey} {depth : Nat}
    (effectEq : frameEffect entry = .opens program depth) :
    entry = .invoke program depth := by
  cases entry <;> simp [frameEffect] at effectEq
  rw [effectEq.1, effectEq.2]

/-- Nobody reopens a frame that has been closed. -/
theorem entriesOf_closed (entries : List LogEntry) (opened : index < walk.cursor)
    (closed : index ∉ walk.frames) :
    entriesOf entries (receivers keys (some walk) (entries.map frameEffect))
      index = [] := by
  induction entries generalizing walk with
  | nil => rfl
  | cons entry entries ih =>
      have notTop : index ∉ walk.frames.head?.toList :=
        fun isTop => closed (mem_of_mem_head isTop)
      cases effectEq : frameEffect entry with
      | cut =>
          rw [entriesOf_cons_step entries (step_cut effectEq), entriesOf_none]
          simp [closed, opened]
      | opens program depth =>
          by_cases expected : keys[walk.cursor]? = some (program, depth)
          · rw [entriesOf_cons_step entries (step_expected effectEq expected), ih]
            · simp [opened.ne]
            · exact opened.trans (Nat.lt_succ_self _)
            · simp [FrameWalk.openNext, closed, opened.ne]
          · rw [entriesOf_cons_step entries (step_unexpected effectEq expected),
              entriesOf_none]
            simp
      | close =>
          rw [entriesOf_cons_step entries (step_close effectEq), if_neg notTop, ih]
          · rfl
          · exact opened
          · exact fun member => closed (List.mem_of_mem_tail member)
      | body =>
          rw [entriesOf_cons_step entries (step_body effectEq), if_neg notTop,
            ih opened closed]
          rfl

theorem FrameWalk.not_mem_closeTop (isTop : index ∈ walk.frames.head?.toList) :
    index ∉ walk.closeTop.frames := by
  have nodup := walk.nodup
  cases framesEq : walk.frames with
  | nil => simp [framesEq] at isTop
  | cons top frames =>
      rw [framesEq] at isTop nodup
      simp only [FrameWalk.closeTop, framesEq]
      have same : index = top := by simpa using isTop
      exact same ▸ (List.nodup_cons.mp nodup).1

theorem FrameWalk.mem_closeTop (isOpen : index ∈ walk.frames)
    (notTop : index ∉ walk.frames.head?.toList) : index ∈ walk.closeTop.frames := by
  cases framesEq : walk.frames with
  | nil => simp [framesEq] at isOpen
  | cons top frames =>
      rw [framesEq] at notTop isOpen
      simp only [FrameWalk.closeTop, framesEq]
      apply (List.mem_cons.mp isOpen).resolve_left
      simpa using notTop

/-- An open frame receives body entries until its terminator or the cut. -/
theorem entriesOf_open (entries : List LogEntry) (isOpen : index ∈ walk.frames) :
    SliceTail (entriesOf entries
      (receivers keys (some walk) (entries.map frameEffect)) index) := by
  have opened := walk.frame_lt_cursor isOpen
  induction entries generalizing walk with
  | nil => exact SliceTail.nil
  | cons entry entries ih =>
      cases effectEq : frameEffect entry with
      | cut =>
          rw [entriesOf_cons_step entries (step_cut effectEq), entriesOf_none]
          simpa [isOpen] using SliceTail.last (.inr effectEq)
      | opens program depth =>
          by_cases expected : keys[walk.cursor]? = some (program, depth)
          · rw [entriesOf_cons_step entries (step_expected effectEq expected)]
            have notNext : index ∉ [walk.cursor] := by simp [opened.ne]
            rw [if_neg notNext]
            apply ih
            · exact List.mem_cons_of_mem walk.cursor isOpen
            · exact opened.trans (Nat.lt_succ_self _)
          · rw [entriesOf_cons_step entries (step_unexpected effectEq expected),
              entriesOf_none]
            exact SliceTail.nil
      | close =>
          rw [entriesOf_cons_step entries (step_close effectEq)]
          by_cases isTop : index ∈ walk.frames.head?.toList
          · rw [if_pos isTop,
              entriesOf_closed entries _ (FrameWalk.not_mem_closeTop isTop)]
            · exact SliceTail.last (.inl effectEq)
            · exact opened
          · rw [if_neg isTop]
            exact ih (FrameWalk.mem_closeTop isOpen isTop) opened
      | body =>
          rw [entriesOf_cons_step entries (step_body effectEq)]
          by_cases isTop : index ∈ walk.frames.head?.toList
          · rw [if_pos isTop]
            exact (ih isOpen opened).cons effectEq
          · rw [if_neg isTop]
            exact ih isOpen opened

/-- An instruction that awaits its invoke gets nothing, a marker, or first of
all its invoke. -/
theorem entriesOf_pending (entries : List LogEntry) {program : Pubkey}
    {depth : Nat} (keyAt : keys[index]? = some (program, depth))
    (waits : walk.cursor ≤ index) :
    entriesOf entries (receivers keys (some walk) (entries.map frameEffect))
        index = [] ∨
      entriesOf entries (receivers keys (some walk) (entries.map frameEffect))
        index = [.truncated] ∨
      ∃ rest, SliceTail rest ∧
        entriesOf entries (receivers keys (some walk) (entries.map frameEffect))
          index = .invoke program depth :: rest := by
  induction entries generalizing walk with
  | nil => exact .inl rfl
  | cons entry entries ih =>
      have notOpen : index ∉ walk.frames := fun isOpen =>
        absurd (walk.frame_lt_cursor isOpen) (Nat.not_lt.mpr waits)
      have notTop : index ∉ walk.frames.head?.toList :=
        fun isTop => notOpen (mem_of_mem_head isTop)
      cases effectEq : frameEffect entry with
      | cut =>
          have inside := (List.getElem?_eq_some_iff.mp keyAt).1
          rw [entriesOf_cons_step entries (step_cut effectEq), entriesOf_none,
            eq_truncated_of_cut effectEq]
          simp [waits, inside]
      | opens found foundDepth =>
          by_cases expected : keys[walk.cursor]? = some (found, foundDepth)
          · rw [entriesOf_cons_step entries (step_expected effectEq expected)]
            by_cases isNext : index = walk.cursor
            · subst isNext
              have same : (program, depth) = (found, foundDepth) :=
                Option.some.inj (keyAt.symm.trans expected)
              cases same
              have tail := @entriesOf_open keys walk.openNext walk.cursor entries
                List.mem_cons_self
              refine .inr (.inr ⟨_, tail, ?_⟩)
              rw [if_pos (List.mem_singleton_self _), invoke_of_opens effectEq]
              rfl
            · rw [if_neg (by simpa using isNext)]
              apply ih
              exact Nat.succ_le_of_lt (Nat.lt_of_le_of_ne waits (Ne.symm isNext))
          · rw [entriesOf_cons_step entries (step_unexpected effectEq expected),
              entriesOf_none]
            exact .inl rfl
      | close =>
          rw [entriesOf_cons_step entries (step_close effectEq), if_neg notTop]
          exact @ih walk.closeTop waits
      | body =>
          rw [entriesOf_cons_step entries (step_body effectEq), if_neg notTop]
          exact ih waits

/-- Every terminator that goes to an instruction names its program. -/
def TerminatorsOwn (keys : List InvokeKey) (walk : Option FrameWalk)
    (entries : List LogEntry) : Prop :=
  ∀ index key, keys[index]? = some key → ∀ entry,
    entry ∈ entriesOf entries
      (receivers keys walk (entries.map frameEffect)) index →
    ∀ program, terminatedProgram entry = some program → key.1 = program

theorem terminatorsOwn_none (entries : List LogEntry) :
    TerminatorsOwn keys none entries := by
  intro index key keyAt entry member
  rw [entriesOf_none] at member
  cases member

theorem terminatorsOwn_cons {given : List Nat} {after : Option FrameWalk}
    {entry : LogEntry} (entries : List LogEntry)
    (stepEq : walk.step keys (frameEffect entry) = (given, after)) :
    TerminatorsOwn keys (some walk) (entry :: entries) ↔
      (∀ index ∈ given, ∀ key, keys[index]? = some key → ∀ program,
        terminatedProgram entry = some program → key.1 = program) ∧
      TerminatorsOwn keys after entries := by
  unfold TerminatorsOwn
  simp only [entriesOf_cons_step entries stepEq, List.mem_append]
  constructor
  · intro own
    constructor
    · intro index receives key keyAt
      exact own index key keyAt entry (.inl (by simp [receives]))
    · intro index key keyAt other member
      exact own index key keyAt other (.inr member)
  · rintro ⟨first, rest⟩ index key keyAt other (member | member)
    · by_cases receives : index ∈ given
      · simp only [receives, if_true, List.mem_singleton] at member
        exact member ▸ first index receives key keyAt
      · simp [receives] at member
    · exact rest index key keyAt other member

theorem terminatorsOwn_cons_of_silent {given : List Nat}
    {after : Option FrameWalk} {entry : LogEntry} (entries : List LogEntry)
    (stepEq : walk.step keys (frameEffect entry) = (given, after))
    (silent : terminatedProgram entry = none) :
    TerminatorsOwn keys (some walk) (entry :: entries) ↔
      TerminatorsOwn keys after entries := by
  rw [terminatorsOwn_cons entries stepEq]
  apply and_iff_right
  intro index receives key keyAt program names
  rw [silent] at names
  cases names

/-- A terminator closes the innermost frame, whose program is the innermost
open one. -/
theorem terminatorsOwn_close {entry : LogEntry} {opened : List Pubkey}
    (entries : List LogEntry) (closes : frameEffect entry = .close)
    (programs : walk.frames.map (fun frame => keys[frame]?.map Prod.fst) =
      opened.map some) :
    TerminatorsOwn keys (some walk) (entry :: entries) ↔
      (∀ innermost ∈ opened.head?, terminatedProgram entry = some innermost) ∧
        TerminatorsOwn keys (some walk.closeTop) entries := by
  obtain ⟨program, names⟩ : ∃ program, terminatedProgram entry = some program := by
    cases entry <;> simp [frameEffect] at closes <;> exact ⟨_, rfl⟩
  rw [terminatorsOwn_cons entries (step_close closes)]
  apply and_congr_left
  intro rest
  cases framesEq : walk.frames with
  | nil =>
      rw [framesEq, List.map_nil, eq_comm, List.map_eq_nil_iff] at programs
      simp [programs]
  | cons top frames =>
      cases opened with
      | nil => simp [framesEq] at programs
      | cons innermost opened =>
          rw [framesEq, List.map_cons, List.map_cons, List.cons.injEq] at programs
          obtain ⟨key, keyAt, rfl⟩ := Option.map_eq_some_iff.mp programs.1
          simp only [List.head?_cons, Option.toList_some, List.mem_singleton,
            forall_eq, keyAt, Option.mem_def, names, Option.some.injEq,
            forall_eq']
          exact eq_comm

theorem silent_of_not_close {entry : LogEntry}
    (notClose : frameEffect entry ≠ .close) : terminatedProgram entry = none := by
  cases entry <;> simp [frameEffect] at notClose <;> rfl

/-- The terminators of the stream match the open programs exactly when they go
to instructions of the program they name. -/
theorem terminatorsMatch_iff (entries : List LogEntry) {opened : List Pubkey}
    (programs : walk.frames.map (fun frame => keys[frame]?.map Prod.fst) =
      opened.map some) :
    TerminatorsMatch entries (keys.drop walk.cursor) opened ↔
      TerminatorsOwn keys (some walk) entries := by
  induction entries generalizing walk opened with
  | nil =>
      have own : TerminatorsOwn keys (some walk) [] := by
        intro index key keyAt entry member
        cases member
      exact iff_of_true trivial own
  | cons entry entries ih =>
      rw [TerminatorsMatch]
      cases effectEq : frameEffect entry with
      | opens program depth =>
          have silent : terminatedProgram entry = none :=
            silent_of_not_close (by simp [effectEq])
          simp only [List.head?_drop]
          by_cases expected : keys[walk.cursor]? = some (program, depth)
          · have openedNext : walk.openNext.frames.map
                (fun frame => keys[frame]?.map Prod.fst) =
                  (program :: opened).map some := by
              rw [FrameWalk.openNext, List.map_cons, expected, programs]
              rfl
            rw [terminatorsOwn_cons_of_silent entries
              (step_expected effectEq expected) silent, ← ih openedNext,
              List.tail_drop]
            exact forall_prop_of_true expected
          · rw [terminatorsOwn_cons_of_silent entries
              (step_unexpected effectEq expected) silent]
            exact iff_of_true (fun same => absurd same expected)
              (terminatorsOwn_none entries)
      | close =>
          have closed : walk.closeTop.frames.map
              (fun frame => keys[frame]?.map Prod.fst) =
                opened.tail.map some := by
            simp only [FrameWalk.closeTop, List.map_tail, programs]
          rw [terminatorsOwn_close entries effectEq programs, ← ih closed]
          rfl
      | cut =>
          rw [terminatorsOwn_cons_of_silent entries (step_cut effectEq)
            (silent_of_not_close (by simp [effectEq]))]
          exact iff_of_true trivial (terminatorsOwn_none entries)
      | body =>
          rw [terminatorsOwn_cons_of_silent entries (step_body effectEq)
            (silent_of_not_close (by simp [effectEq])), ← ih programs]

theorem SliceTail.last_of_terminated {before after : List LogEntry}
    {entry : LogEntry} (closes : frameEffect entry = .close)
    (tail : SliceTail (before ++ entry :: after)) : after = [] := by
  obtain ⟨body, last, split, bodies, -⟩ := tail
  cases after using List.reverseRecOn with
  | nil => rfl
  | append_singleton after final =>
      have inBody : entry ∈ body := by
        cases last with
        | none => simpa using congrArg (entry ∈ ·) split
        | some last =>
            have leading := congrArg List.dropLast split
            rw [← List.cons_append, ← List.append_assoc,
              List.dropLast_concat] at leading
            simp at leading
            rw [← leading]
            simp
      rw [bodies entry inBody] at closes
      cases closes

theorem SliceTail.no_invoke {slice : List LogEntry} (tail : SliceTail slice)
    (program : Pubkey) (depth : Nat) : .invoke program depth ∉ slice := by
  obtain ⟨body, last, rfl, bodies, ends⟩ := tail
  intro member
  rcases List.mem_append.mp member with member | member
  · cases bodies _ member
  · rcases ends _ (Option.mem_toList.mp member) with closes | cuts
    · cases closes
    · cases cuts

end Slices

section Safety

variable {instructions : List ParsedInstruction} {entries : List LogEntry}
  {index : Nat} {instruction : ParsedInstruction}

theorem attachedSlice_cases
    (lookup : instructions[index]? = some instruction) :
    attachedSlice instructions entries index = [] ∨
      attachedSlice instructions entries index = [.truncated] ∨
      ∃ rest, SliceTail rest ∧ attachedSlice instructions entries index =
        .invoke instruction.programId instruction.stackHeight :: rest := by
  have inside := (List.getElem?_eq_some_iff.mp lookup).1
  have keyAt : (instructions.map ParsedInstruction.key)[index]? =
      some (instruction.programId, instruction.stackHeight) := by
    rw [List.getElem?_map, lookup]
    rfl
  rw [attachedSlice_eq inside]
  exact entriesOf_pending entries keyAt (Nat.zero_le index)

theorem attachedSlice_moves : MovesEntries instructions entries := by
  obtain ⟨stream, streamEq, owned⟩ :=
    @entriesOf_owned (instructions.map ParsedInstruction.key) (some .start) entries
  refine ⟨stream, streamEq, fun index inside => ?_⟩
  rw [attachedSlice_eq inside]
  exact owned index

theorem attachedSlice_sublist (index : Nat) :
    (attachedSlice instructions entries index).Sublist entries := by
  rcases Nat.lt_or_ge index instructions.length with inside | outside
  · rw [attachedSlice_eq inside]
    exact entriesOf_sublist _ _ _
  · rw [attachedSlice_outside outside]
    exact List.nil_sublist _

theorem attachedSlice_shape (lookup : instructions[index]? = some instruction) :
    OwnShape instruction (attachedSlice instructions entries index) := by
  rcases attachedSlice_cases lookup with empty | marker | ⟨rest, tail, sliceEq⟩
  · exact .inl empty
  · exact .inr (.inl marker)
  · exact .inr (.inr ⟨rest, sliceEq, tail.no_invoke⟩)

/-- Whatever the stream, a terminator is the last entry of its slice. -/
theorem attachedSlice_terminator_last
    (lookup : instructions[index]? = some instruction)
    {before after : List LogEntry} {entry : LogEntry} {program : Pubkey}
    (sliceEq : attachedSlice instructions entries index =
      before ++ entry :: after)
    (names : terminatedProgram entry = some program) : after = [] := by
  have closes : frameEffect entry = .close := by
    by_contra notClose
    rw [silent_of_not_close notClose] at names
    cases names
  rcases attachedSlice_cases lookup with empty | marker | ⟨rest, tail, opens⟩
  · rw [empty] at sliceEq
    simp at sliceEq
  · rw [marker] at sliceEq
    cases before with
    | nil => exact (List.cons.inj sliceEq).2.symm
    | cons first before => simp at sliceEq
  · rw [opens] at sliceEq
    cases before with
    | nil =>
        rw [← (List.cons.inj sliceEq).1] at closes
        cases closes
    | cons first before =>
        rw [(List.cons.inj sliceEq).2] at tail
        exact tail.last_of_terminated closes

/-- Audited after attribution, an instruction that had no logs is never found to
hold another's: whatever the stream, the open and the interior are its own. -/
theorem auditLogSlice_attachLogs
    (lookup : (attachLogs instructions entries).1.result[index]? =
      some instruction)
    (fresh : ∀ ix ∈ instructions, ix.logs = []) :
    auditLogSlice instruction ∈
      [.ok, .truncated, .empty, LogSliceVerdict.unterminated] := by
  have attached := lookup
  rw [attachLogs_result, List.getElem?_mapIdx, Option.map_eq_some_iff] at attached
  obtain ⟨before, beforeAt, rfl⟩ := attached
  have logsEq := fresh before (List.mem_of_getElem? beforeAt)
  have shape := @attachedSlice_shape _ entries _ _ beforeAt
  unfold attachedSlice at shape
  rw [beforeAt, lookup] at shape
  simp only [logsEq, List.length_nil, List.drop_zero] at shape
  exact auditLogSlice_of_ownShape shape

theorem terminatorsOwn_iff_slices :
    TerminatorsOwn (instructions.map ParsedInstruction.key) (some .start)
        entries ↔
      ∀ index instruction, instructions[index]? = some instruction →
        OwnTerminators instruction
          (attachedSlice instructions entries index) := by
  constructor
  · intro own index instruction lookup before entry after program sliceEq names
    have inside := (List.getElem?_eq_some_iff.mp lookup).1
    have keyAt : (instructions.map ParsedInstruction.key)[index]? =
        some instruction.key := by
      rw [List.getElem?_map, lookup]
      rfl
    have member : entry ∈ attachedSlice instructions entries index := by
      rw [sliceEq]
      simp
    rw [attachedSlice_eq inside] at member
    exact ⟨(own index _ keyAt entry member program names).symm,
      attachedSlice_terminator_last lookup sliceEq names⟩
  · intro own index key keyAt entry member program names
    rw [List.getElem?_map] at keyAt
    obtain ⟨instruction, lookup, rfl⟩ := Option.map_eq_some_iff.mp keyAt
    have inside := (List.getElem?_eq_some_iff.mp lookup).1
    rw [← attachedSlice_eq inside] at member
    obtain ⟨before, after, sliceEq⟩ := List.append_of_mem member
    exact (own index instruction lookup before entry after program sliceEq
      names).1.symm

/-- Attribution is safe on a stream exactly when the terminators of the stream
match the open programs: all the rest holds of every stream. -/
theorem attributionSafe_iff (instructions : List ParsedInstruction)
    (entries : List LogEntry) :
    AttributionSafe instructions entries ↔
      TerminatorsMatch entries (instructions.map ParsedInstruction.key) [] := by
  have start := @terminatorsMatch_iff (instructions.map ParsedInstruction.key)
    .start entries [] rfl
  rw [show FrameWalk.start.cursor = 0 from rfl, List.drop_zero] at start
  rw [start, terminatorsOwn_iff_slices]
  constructor
  · intro safe
    exact safe.terminators
  · intro own
    exact ⟨attachedSlice_moves, attachedSlice_sublist,
      fun index instruction lookup => attachedSlice_shape lookup, own⟩

/-- One top-level instruction of program 1. -/
def loneInstruction : List ParsedInstruction :=
  [{ programId := 1, accounts := [], data := [], logs := [], stackHeight := 1,
     parentIndex := none, instructionIndex := 0 }]

/-- Its frame is closed by another program's terminator, and its own terminator
is dropped. -/
theorem foreignTerminator_attached :
    attachedSlice loneInstruction
        [.invoke 1 1, .success 2, .success 1] 0 =
      [.invoke 1 1, .success 2] ∧
    ¬AttributionSafe loneInstruction
      [.invoke 1 1, .success 2, .success 1] := by
  have attached : attachedSlice loneInstruction
      [.invoke 1 1, .success 2, .success 1] 0 =
        [.invoke 1 1, .success 2] := by
    decide
  refine ⟨attached, fun safe => ?_⟩
  have own := (safe.terminators 0 _ rfl [.invoke 1 1] (.success 2) [] 2
    attached rfl).1
  exact absurd own (by decide)

end Safety

end Parsing

end SolanaProtocols
