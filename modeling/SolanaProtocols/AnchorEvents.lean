import SolanaProtocols.LogAttribution
import SolanaProtocols.SwapRecord

/-!
# Anchor events

A program publishes an event by calling itself with the event tag, the event's
discriminator and the body as data; older builds write the last two to the log.
`childEvent` looks for the event that an instruction caused, among its child
instructions first and in its own log slice after that.
-/

namespace SolanaProtocols

namespace Parsing

/-- The tag that starts every `emit_cpi!` event instruction. -/
def anchorEventTag : Discriminator :=
  #v[0xe4, 0x45, 0xa5, 0x2e, 0x51, 0xcb, 0x9a, 0x1d]

/-- Whether instruction data starts with the event tag. -/
def hasEventTag (data : Bytes) : Bool :=
  8 ≤ data.length && data.take 8 == anchorEventTag.toList

/-- Split an event instruction into its event discriminator and body. -/
def splitEventIx (data : Bytes) : Option (Discriminator × Bytes) :=
  if data.length < 16 ∨ data.take 8 ≠ anchorEventTag.toList then none
  else (firstChunk (data.drop 8)).map fun disc => (disc, data.drop 16)

/-- The body of an event instruction that carries the expected event. -/
def eventBody (data : Bytes) (expected : Discriminator) : Option Bytes :=
  ((splitEventIx data).filter fun split => split.1 == expected).map Prod.snd

/-- The data of an event instruction. -/
def eventData (disc : Discriminator) (body : Bytes) : Bytes :=
  anchorEventTag.toList ++ (disc.toList ++ body)

theorem hasEventTag_iff {data : Bytes} :
    hasEventTag data = true ↔ anchorEventTag.toList <+: data := by
  rw [hasEventTag, Bool.and_eq_true, decide_eq_true_iff, beq_iff_eq,
    List.prefix_iff_eq_take, anchorEventTag.length_toList]
  constructor
  · rintro ⟨-, front⟩
    exact front.symm
  · intro front
    have length := congrArg List.length front
    rw [anchorEventTag.length_toList, List.length_take] at length
    exact ⟨by omega, front.symm⟩

theorem hasEventTag_eventData (disc : Discriminator) (body : Bytes) :
    hasEventTag (eventData disc body) = true :=
  hasEventTag_iff.mpr (List.prefix_append _ _)

/-- An event instruction is its tag, its discriminator and its body. -/
theorem splitEventIx_eq_some_iff {data body : Bytes} {disc : Discriminator} :
    splitEventIx data = some (disc, body) ↔ data = eventData disc body := by
  have tagLength := anchorEventTag.length_toList
  have discLength := disc.length_toList
  constructor
  · intro split
    rw [splitEventIx] at split
    split_ifs at split with refused
    obtain ⟨long, front⟩ := not_or.mp refused
    obtain ⟨disc', chunk, same⟩ := Option.map_eq_some_iff.mp split
    cases same
    obtain ⟨rest, restEq⟩ := firstChunk_eq_some_iff.mp chunk
    have bodyEq : rest = data.drop 16 := by
      have dropped := congrArg (List.drop 8) restEq
      rwa [List.drop_left' discLength, List.drop_drop] at dropped
    calc
      data = data.take 8 ++ data.drop 8 := (List.take_append_drop _ _).symm
      _ = _ := by rw [not_not.mp front, ← restEq, bodyEq]; rfl
  · rintro rfl
    have long : ¬ (eventData disc body).length < 16 := by
      simp only [eventData, List.length_append, tagLength, discLength]
      omega
    have front : (eventData disc body).take 8 = anchorEventTag.toList :=
      List.take_left' tagLength
    have back : (eventData disc body).drop 8 = disc.toList ++ body :=
      List.drop_left' tagLength
    have rest : (eventData disc body).drop 16 = body := by
      have twice : (eventData disc body).drop 16 =
          ((eventData disc body).drop 8).drop 8 := by rw [List.drop_drop]
      rw [twice, back, List.drop_left' discLength]
    have chunk : firstChunk (disc.toList ++ body) = some disc :=
      firstChunk_eq_some_iff.mpr (List.prefix_append _ _)
    rw [splitEventIx, if_neg (not_or.mpr ⟨long, not_not_intro front⟩), back,
      chunk, rest]
    rfl

theorem eventBody_eq_some_iff {data body : Bytes} {expected : Discriminator} :
    eventBody data expected = some body ↔ data = eventData expected body := by
  rw [eventBody, ← splitEventIx_eq_some_iff]
  cases splitEventIx data with
  | none => simp
  | some split =>
      obtain ⟨disc, rest⟩ := split
      by_cases same : disc = expected <;> simp [same]

/-- The body by comparing the parts of the data one after the other. -/
theorem eventBody_eq_ite (data : Bytes) (expected : Discriminator) :
    eventBody data expected =
      if data.length < 16 then none
      else if data.take 8 ≠ anchorEventTag.toList then none
      else if (data.drop 8).take 8 ≠ expected.toList then none
      else some (data.drop 16) := by
  rw [eventBody, splitEventIx]
  by_cases short : data.length < 16
  · simp [short]
  by_cases untagged : data.take 8 ≠ anchorEventTag.toList
  · simp [untagged]
  have enough : 8 ≤ (data.drop 8).length := by
    rw [List.length_drop]
    omega
  obtain ⟨disc, chunk⟩ : ∃ disc, firstChunk (data.drop 8) = some disc :=
    ⟨_, dif_pos enough⟩
  have front : (data.drop 8).take 8 = disc.toList := by
    have isPrefix := firstChunk_eq_some_iff.mp chunk
    rw [List.prefix_iff_eq_take, disc.length_toList] at isPrefix
    exact isPrefix.symm
  rw [if_neg (not_or.mpr ⟨short, untagged⟩), if_neg short, if_neg untagged,
    chunk, front]
  by_cases same : disc = expected
  · simp [same]
  · have different : disc.toList ≠ expected.toList :=
      fun equal => same (Vector.toList_inj.mp equal)
    simp [same, different]

theorem eventBody_of_ne {disc expected : Discriminator} {body : Bytes}
    (other : disc ≠ expected) : eventBody (eventData disc body) expected = none := by
  rw [eventBody, splitEventIx_eq_some_iff.mpr rfl]
  simp [other]

/-- An event that can be decoded from its on-chain representation. -/
structure ProtocolEvent (Event : Type) where
  discriminator : Discriminator
  name : String
  /-- Strict decoding: what is left over is refused. -/
  tryFromSlice : Bytes → Except String Event

namespace ProtocolEvent

variable {Event : Type} (event : ProtocolEvent Event)

/-- Decode a bare body. -/
def fromEventBody (body : Bytes) : Except InstructionParseError Event :=
  (event.tryFromSlice body).mapError fun reason =>
    .deserializationFailed (event.name ++ ": borsh decode failed: " ++ reason)

/-- Decode an event instruction; another event is none. -/
def fromEventInstruction (data : Bytes) :
    Except InstructionParseError (Option Event) :=
  match eventBody data event.discriminator with
  | some body => (event.fromEventBody body).map some
  | none => .ok none

@[simp] theorem fromEventBody_eq_ok_iff {body : Bytes} {value : Event} :
    event.fromEventBody body = .ok value ↔ event.tryFromSlice body = .ok value := by
  rw [fromEventBody]
  cases event.tryFromSlice body <;> simp [Except.mapError]

theorem fromEventInstruction_eq_some_iff {data : Bytes} {value : Event} :
    event.fromEventInstruction data = .ok (some value) ↔
      ∃ body, data = eventData event.discriminator body ∧
        event.fromEventBody body = .ok value := by
  simp only [← eventBody_eq_some_iff, fromEventInstruction]
  cases eventBody data event.discriminator with
  | none => simp
  | some body =>
      simp only [Option.some.injEq, exists_eq_left']
      cases event.fromEventBody body <;> simp [Except.map]

end ProtocolEvent

/-- Find a "Program data:" log with a specific discriminator. -/
def ParsedInstruction.findDataLogWithDiscriminator (ix : ParsedInstruction)
    (expected : Discriminator) : Option Bytes :=
  ix.logs.findSome? fun
    | .data disc payload => if disc = expected then some payload else none
    | _ => none

theorem ParsedInstruction.mem_logs_of_findDataLog {ix : ParsedInstruction}
    {expected : Discriminator} {payload : Bytes}
    (found : ix.findDataLogWithDiscriminator expected = some payload) :
    .data expected payload ∈ ix.logs := by
  obtain ⟨entry, member, given⟩ := List.exists_of_findSome?_eq_some found
  cases entry with
  | data disc body =>
      simp only [Option.ite_none_right_eq_some, Option.some.injEq] at given
      obtain ⟨rfl, rfl⟩ := given
      exact member
  | _ => cases given

end Parsing

namespace Chain

open Parsing

/-- Why an instruction we decoded did not become an event. -/
inductive ExtractError
  | accountLayout (expected : String) (source : InstructionParseError)
  | eventMissing (event : String)
  | eventUndecodable (event : String) (len : Nat) (source : InstructionParseError)
  | corroboration (field : String) (fromEvent fromAccounts : Pubkey)
deriving DecidableEq

section ChildEvent

variable {Event : Type} (event : ProtocolEvent Event)

/-- The event on the first child that carries it. -/
def fromChildren : List ParsedInstruction → Except ExtractError (Option Event)
  | [] => .ok none
  | child :: children =>
      match event.fromEventInstruction child.data with
      | .ok (some found) => .ok (some found)
      | .ok none => fromChildren children
      | .error source =>
          .error (.eventUndecodable event.name child.data.length source)

/-- The direct children of an instruction on a program. -/
def childrenOn (ix : ParsedInstruction) (all : List ParsedInstruction)
    (program : Pubkey) : List ParsedInstruction :=
  all.filter fun child =>
    child.parentIndex == some ix.instructionIndex && child.programId == program

/-- Find the event an instruction produced. -/
def childEvent (ix : ParsedInstruction) (all : List ParsedInstruction)
    (program : Pubkey) : Except ExtractError Event :=
  match fromChildren event (childrenOn ix all program) with
  | .error err => .error err
  | .ok (some found) => .ok found
  | .ok none =>
      match ix.findDataLogWithDiscriminator event.discriminator with
      | some payload => (event.fromEventBody payload).mapError
          (.eventUndecodable event.name payload.length)
      | none => .error (.eventMissing event.name)

/-- Find an event whose absence is routine. -/
def optionalChildEvent (ix : ParsedInstruction) (all : List ParsedInstruction)
    (program : Pubkey) : Except ExtractError (Option Event) :=
  match childEvent event ix all program with
  | .ok found => .ok (some found)
  | .error (.eventMissing _) => .ok none
  | .error other => .error other

/-- Corroborate one fact against two sources. -/
def corroborate (field : String) (fromEvent fromAccounts : Pubkey) :
    Except ExtractError Unit :=
  if fromEvent = fromAccounts then .ok ()
  else .error (.corroboration field fromEvent fromAccounts)

variable {event} {ix : ParsedInstruction} {all : List ParsedInstruction}
  {program : Pubkey} {value : Event}

@[simp] theorem corroborate_eq_ok_iff {field : String}
    {fromEvent fromAccounts : Pubkey} {done : Unit} :
    corroborate field fromEvent fromAccounts = .ok done ↔
      fromEvent = fromAccounts := by
  rw [corroborate]
  split_ifs with same <;> simp [same]

theorem mem_childrenOn {child : ParsedInstruction} :
    child ∈ childrenOn ix all program ↔
      child ∈ all ∧ child.parentIndex = some ix.instructionIndex ∧
        child.programId = program := by
  simp [childrenOn]

theorem fromChildren_eq_some {children : List ParsedInstruction}
    (found : fromChildren event children = .ok (some value)) :
    ∃ child ∈ children, ∃ body,
      child.data = eventData event.discriminator body ∧
        event.fromEventBody body = .ok value := by
  induction children with
  | nil => cases found
  | cons child children ih =>
      rw [fromChildren] at found
      split at found
      next here =>
        cases found
        exact ⟨child, List.mem_cons_self,
          (event.fromEventInstruction_eq_some_iff).mp here⟩
      next =>
        obtain ⟨later, member, body, carried⟩ := ih found
        exact ⟨later, List.mem_cons_of_mem _ member, body, carried⟩
      next => cases found

/-- An event that is found is on a direct child on the program, or in the
instruction's own log slice. -/
theorem childEvent_eq_ok (found : childEvent event ix all program = .ok value) :
    (∃ child ∈ all, child.parentIndex = some ix.instructionIndex ∧
      child.programId = program ∧ ∃ body,
        child.data = eventData event.discriminator body ∧
          event.fromEventBody body = .ok value) ∨
      ∃ payload, .data event.discriminator payload ∈ ix.logs ∧
        event.fromEventBody payload = .ok value := by
  rw [childEvent] at found
  split at found
  next => cases found
  next onChild =>
    cases found
    obtain ⟨child, member, body, carried⟩ := fromChildren_eq_some onChild
    obtain ⟨inside, ofParent, onProgram⟩ := mem_childrenOn.mp member
    exact .inl ⟨child, inside, ofParent, onProgram, body, carried⟩
  next =>
    split at found
    next payload inLog =>
      refine .inr ⟨payload, ix.mem_logs_of_findDataLog inLog, ?_⟩
      cases decoded : event.fromEventBody payload with
      | error source => simp [decoded, Except.mapError] at found
      | ok other => simpa [decoded, Except.mapError] using found
    next => cases found

/-- A child that carries the event is found when no earlier child does. -/
theorem childEvent_of_children {child : ParsedInstruction}
    {later : List ParsedInstruction} {body : Bytes}
    (first : childrenOn ix all program = child :: later)
    (carries : child.data = eventData event.discriminator body)
    (decoded : event.fromEventBody body = .ok value) :
    childEvent event ix all program = .ok value := by
  have here := (event.fromEventInstruction_eq_some_iff).mpr
    ⟨body, carries, decoded⟩
  simp only [childEvent, first, fromChildren, here]

theorem optionalChildEvent_eq_none
    (onNone : fromChildren event (childrenOn ix all program) = .ok none)
    (silent : ix.findDataLogWithDiscriminator event.discriminator = none) :
    optionalChildEvent event ix all program = .ok none := by
  rw [optionalChildEvent, childEvent, onNone]
  simp only [silent]

end ChildEvent

end Chain

end SolanaProtocols
