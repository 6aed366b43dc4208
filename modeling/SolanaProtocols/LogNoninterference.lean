import SolanaProtocols.LogAttribution

/-!
# What log text can do to attribution

The text of a `Program log:` line is chosen by the program.  The parser looks
for the truncation notice anywhere in a line before it looks at prefixes, so
text that contains the notice ends attribution for the rest of the transaction.
Text that does not contain it has no influence.
-/

namespace SolanaProtocols

namespace Parsing

section Message

variable {decoders : LogDecoders} {debugEnabled : Bool}

/-- The line that logs a text. -/
def messageLine (text : Text) : Text :=
  "Program log: ".toList ++ text

/-- The notice of the runtime that the log was cut. -/
def truncationNotice : Text :=
  "Log truncated".toList

theorem infix_append_iff {α : Type*} {first : α} {pattern before text : List α}
    (begins : pattern.head? = some first) (absent : first ∉ before) :
    pattern <:+: before ++ text ↔ pattern <:+: text := by
  obtain ⟨rest, rfl⟩ := List.head?_eq_some_iff.mp begins
  induction before with
  | nil => rfl
  | cons char before ih =>
      rw [List.mem_cons, not_or] at absent
      rw [List.cons_append, List.infix_cons_iff, ih absent.2,
        List.cons_prefix_cons]
      simp [absent.1]

theorem messageLine_contains (text : Text) :
    (messageLine text).contains truncationNotice =
      text.contains truncationNotice := by
  have begins : truncationNotice.head? = some 'L' := by decide
  have absent : 'L' ∉ "Program log: ".toList := by decide
  unfold Text.contains messageLine
  rw [decide_eq_decide]
  exact infix_append_iff begins absent

theorem parse_messageLine (text : Text) :
    parse decoders debugEnabled (messageLine text) =
      if text.contains truncationNotice then some .truncated
      else some (.message text) := by
  have notData :
      (messageLine text).dropPrefix? "Program data: ".toList = none := by
    unfold messageLine
    simp [List.dropPrefix?]
  have isLog :
      (messageLine text).dropPrefix? "Program log: ".toList = some text := by
    exact List.dropPrefix?_append_of_beq _ (by simp)
  rw [parse, notData, isLog]
  exact congrArg (fun contains => if contains = true then _ else _)
    (messageLine_contains text)

end Message

section Positions

variable (decoders : LogDecoders) (debugEnabled : Bool)

/-- The effects of a log stream on the invocation stack.  `none` is a panic. -/
def streamEffects (lines : List Text) : Option (List FrameEffect) :=
  (parseLogs decoders debugEnabled lines).map (·.map frameEffect)

/-- The stream positions attached to each instruction.  `none` is a panic. -/
def assignedPositions (instructions : List ParsedInstruction)
    (lines : List Text) : Option (List (List Nat)) :=
  (streamEffects decoders debugEnabled lines).map fun effects =>
    instructions.mapIdx fun index _ =>
      positionsOf (receivers (instructions.map ParsedInstruction.key)
        (some .start) effects) index

variable {decoders debugEnabled} {lines : List Text}

theorem attachLogs_assignedPositions {entries : List LogEntry}
    {instructions : List ParsedInstruction} {positions : List (List Nat)}
    (parsed : parseLogs decoders debugEnabled lines = some entries)
    (assigned : assignedPositions decoders debugEnabled instructions lines =
      some positions) :
    (attachLogs instructions entries).1.result =
      instructions.mapIdx fun index ix =>
        ix.pushLogs ((positions.getD index []).filterMap (entries[·]?)) := by
  simp only [assignedPositions, streamEffects, parsed, Option.map_some,
    Option.some.injEq] at assigned
  subst assigned
  rw [attachLogs_result]
  refine List.ext_getElem? fun index => ?_
  rw [List.getElem?_mapIdx, List.getElem?_mapIdx]
  cases lookup : instructions[index]? with
  | none => rfl
  | some ix =>
      rw [Option.map_some, Option.map_some,
        entriesOf_eq_positionsOf (by simp [length_receivers])]
      simp [lookup]

theorem streamEffects_append (before after : List Text) :
    streamEffects decoders debugEnabled (before ++ after) = do
      let first ← streamEffects decoders debugEnabled before
      let second ← streamEffects decoders debugEnabled after
      return first ++ second := by
  simp only [streamEffects, parseLogs, List.mapM_append]
  cases before.mapM (parse decoders debugEnabled) <;>
    cases after.mapM (parse decoders debugEnabled) <;> simp

theorem streamEffects_cons (line : Text) (after : List Text) :
    streamEffects decoders debugEnabled (line :: after) = do
      let effect ← (parse decoders debugEnabled line).map frameEffect
      let effects ← streamEffects decoders debugEnabled after
      return effect :: effects := by
  simp only [streamEffects, parseLogs, List.mapM_cons]
  cases parse decoders debugEnabled line <;>
    cases after.mapM (parse decoders debugEnabled) <;> simp

/-- The texts of two log lines are nothing but texts to the parser, and it
makes no difference to attribution which of them is logged. -/
structure Interchangeable (decoders : LogDecoders) (debugEnabled : Bool)
    (text other : Text) : Prop where
  isMessage : parse decoders debugEnabled (messageLine text) =
    some (.message text)
  isMessage' : parse decoders debugEnabled (messageLine other) =
    some (.message other)
  samePositions : ∀ instructions before after,
    assignedPositions decoders debugEnabled instructions
        (before ++ messageLine text :: after) =
      assignedPositions decoders debugEnabled instructions
        (before ++ messageLine other :: after)

/-- Log texts are interchangeable exactly when neither contains the truncation
notice. -/
theorem interchangeable_iff (text other : Text) :
    Interchangeable decoders debugEnabled text other ↔
      text.contains truncationNotice = false ∧
        other.contains truncationNotice = false := by
  constructor
  · rintro ⟨isMessage, isMessage', -⟩
    rw [parse_messageLine] at isMessage isMessage'
    constructor
    · by_contra contains
      simp [contains] at isMessage
    · by_contra contains
      simp [contains] at isMessage'
  · rintro ⟨plain, plain'⟩
    have isMessage : parse decoders debugEnabled (messageLine text) =
        some (.message text) := by
      simp [parse_messageLine, plain]
    have isMessage' : parse decoders debugEnabled (messageLine other) =
        some (.message other) := by
      simp [parse_messageLine, plain']
    refine ⟨isMessage, isMessage', fun instructions before after => ?_⟩
    rw [assignedPositions, assignedPositions, streamEffects_append,
      streamEffects_append, streamEffects_cons, streamEffects_cons, isMessage,
      isMessage']
    rfl

end Positions

section Forged

/-- Decoders that know the address of one program. -/
def systemDecoders : LogDecoders where
  decodeBase64 _ := none
  pubkeyFromStr text :=
    if text = List.replicate 32 '1' then some 0 else none

def systemInstruction : ParsedInstruction :=
  ⟨0, [], [], [], 1, none, 0⟩

/-- The log of one invocation that logs a text. -/
def systemLog (text : Text) : List Text :=
  ["Program 11111111111111111111111111111111 invoke [1]".toList,
    messageLine text, "Program 11111111111111111111111111111111 success".toList]

/-- Logging the notice is read as the notice, and the instruction loses the
rest of its log. -/
theorem truncationNotice_forged :
    parse systemDecoders false (messageLine truncationNotice) =
        some .truncated ∧
      assignedPositions systemDecoders false [systemInstruction]
          (systemLog truncationNotice) = some [[0, 1]] ∧
      assignedPositions systemDecoders false [systemInstruction]
          (systemLog ['x']) = some [[0, 1, 2]] ∧
      ¬ Interchangeable systemDecoders false truncationNotice ['x'] := by
  refine ⟨by decide +kernel, by decide +kernel, by decide +kernel, ?_⟩
  rintro ⟨isMessage, -, -⟩
  exact absurd isMessage (by decide +kernel)

end Forged

end Parsing

end SolanaProtocols
