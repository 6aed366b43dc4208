import SolanaProtocols.FileSystem
import SolanaProtocols.SolanaTypes

/-!
# Cache snapshots on disk

A save writes its snapshot to a temporary file next to the target and renames
it.  The temporary name is the same for all saves onto one path, so saves are
steps of one system on one file system.  What a save writes reaches its file in
chunks of any size, as the buffer in front of the file decides.
-/

namespace SolanaProtocols

namespace Storage

def magic : Bytes := [0x53, 0x54, 0x43, 0x48]

/-- The schema version, in little-endian order. -/
def schemaVersion : Bytes := [1, 0, 0, 0]

inductive CacheError
  | io (path : Text)
  | serde (path : Text)
  | badMagic (path : Text) (magic : Bytes)
  | unsupportedVersion (path : Text) (expected found : Bytes)
deriving DecidableEq, Repr

/-- The serializer and the compressor, as far as snapshots rely on them. -/
structure SnapshotCodec (T : Type) where
  serialize : T → Bytes
  deserialize : Bytes → Option T
  compress : Bytes → Bytes
  decompress : Bytes → Option Bytes
  deserialize_serialize : ∀ payload, deserialize (serialize payload) = some payload
  decompress_compress : ∀ bytes, decompress (compress bytes) = some bytes

variable {T : Type}

/-- A complete snapshot: magic, version, payload. -/
def SnapshotCodec.image (codec : SnapshotCodec T) (payload : T) : Bytes :=
  magic ++ schemaVersion ++ codec.compress (codec.serialize payload)

/-- Read and deserialize a payload, validating the header first. -/
def readPayload (codec : SnapshotCodec T) (path : Text)
    (file : Option Bytes) : Except CacheError T := do
  let some bytes := file | throw (.io path)
  if bytes.length < 4 then
    throw (.io path)
  if bytes.take 4 ≠ magic then
    throw (.badMagic path (bytes.take 4))
  let bytes := bytes.drop 4
  if bytes.length < 4 then
    throw (.io path)
  if bytes.take 4 ≠ schemaVersion then
    throw (.unsupportedVersion path schemaVersion (bytes.take 4))
  match (codec.decompress (bytes.drop 4)).bind codec.deserialize with
  | some payload => pure payload
  | none => throw (.serde path)

theorem readPayload_image (codec : SnapshotCodec T) (path : Text) (payload : T) :
    readPayload codec path (some (codec.image payload)) = .ok payload := by
  have decoded : (codec.decompress (codec.compress (codec.serialize payload))).bind
      codec.deserialize = some payload := by
    rw [codec.decompress_compress, Option.bind_some,
      codec.deserialize_serialize]
  unfold readPayload SnapshotCodec.image magic schemaVersion
  simp [decoded]
  rfl

/-- The path that a save writes before it renames. -/
def tmpPath (path : Text) : Text :=
  path ++ ['.', 't', 'm', 'p']

theorem tmpPath_ne (path : Text) : tmpPath path ≠ path := by
  intro same
  have lengths := congrArg List.length same
  simp [tmpPath] at lengths

/-- How far a call of `write_payload` has come.  A call that writes knows its
file and how much of its snapshot has reached it. -/
inductive SaveStage
  | ready
  | writing (file written : Nat)
  | flushed
  | done
  | failed
deriving DecidableEq, Repr

/-- The temporary file of a call in one of these stages is not renamed yet. -/
def SaveStage.InProgress : SaveStage → Prop
  | .writing _ _ => True
  | .flushed => True
  | _ => False

/-- A failing call may still write what is left in its buffers before its file
is closed. -/
inductive SaveStep
  | create
  | write (count : Nat)
  | flush
  | rename
  | fail (leftover : Bytes)
deriving DecidableEq, Repr

structure SaveState where
  fs : FileSystem Text
  calls : Nat → SaveStage

namespace SaveState

/-- Enter the next stage of one call. -/
def enter (state : SaveState) (call : Nat) (fs : FileSystem Text)
    (stage : SaveStage) : SaveState where
  fs := fs
  calls := Function.update state.calls call stage

variable (codec : SnapshotCodec T) (path : Text) (payloads : Nat → T)

/-- One step of one call.  Every call has the payload it saves. -/
def step (state : SaveState) (call : Nat) (label : SaveStep) :
    Option SaveState :=
  match state.calls call, label with
  | .ready, .create =>
      let (fs, file) := state.fs.create (tmpPath path)
      some (state.enter call fs (.writing file 0))
  | .writing file written, .write count =>
      let image := codec.image (payloads call)
      if written + count ≤ image.length then
        some (state.enter call
          (state.fs.writeAt file written ((image.drop written).take count))
          (.writing file (written + count)))
      else none
  | .writing _ written, .flush =>
      if written = (codec.image (payloads call)).length then
        some (state.enter call state.fs .flushed)
      else none
  | .flushed, .rename =>
      match state.fs.rename (tmpPath path) path with
      | some fs => some (state.enter call fs .done)
      | none => some (state.enter call state.fs .failed)
  | .writing file written, .fail leftover =>
      some (state.enter call (state.fs.writeAt file written leftover) .failed)
  | .ready, .fail _ => some (state.enter call state.fs .failed)
  | .flushed, .fail _ => some (state.enter call state.fs .failed)
  | _, _ => none

/-- Before any call, with any files there are. -/
def start (fs : FileSystem Text) : SaveState where
  fs := fs
  calls _ := .ready

/-- The states that steps allowed where they are taken lead to.  A process that
stops takes no more steps, or is a `fail []` of its call where later saves go on. -/
inductive Run (allowed : SaveState → Nat → SaveStep → Prop)
    (before : SaveState) : SaveState → Prop
  | refl : Run allowed before before
  | step {call label middle after} (run : Run allowed before middle)
      (isAllowed : allowed middle call label)
      (stepEq : middle.step codec path payloads call label = some after) :
      Run allowed before after

/-- A call starts only when no other is between its create and its rename. -/
def TakesTurns (state : SaveState) (call : Nat) (label : SaveStep) : Prop :=
  label = .create → ∀ other, other ≠ call → ¬(state.calls other).InProgress

/-- The target is what it was, or the complete snapshot of one call. -/
def Whole (initial : FileSystem Text) (state : SaveState) : Prop :=
  state.fs.read path = initial.read path ∨
    ∃ call, state.calls call = .done ∧
      state.fs.read path = some (codec.image (payloads call)) ∧
      readPayload codec path (state.fs.read path) = .ok (payloads call)

section Steps

variable {codec path payloads} {state after : SaveState} {call : Nat}
  {label : SaveStep}

@[simp] theorem enter_fs (fs : FileSystem Text) (stage : SaveStage) :
    (state.enter call fs stage).fs = fs :=
  rfl

@[simp] theorem calls_enter (fs : FileSystem Text) (stage : SaveStage) :
    (state.enter call fs stage).calls call = stage :=
  Function.update_self _ _ _

theorem calls_enter_of_ne {fs : FileSystem Text} {stage : SaveStage}
    {other : Nat} (different : other ≠ call) :
    (state.enter call fs stage).calls other = state.calls other :=
  Function.update_of_ne different _ _

/-- All a step can do. -/
inductive StepTo (codec : SnapshotCodec T) (path : Text) (payloads : Nat → T)
    (state : SaveState) (call : Nat) : SaveStep → SaveState → Prop
  | create (isReady : state.calls call = .ready) :
      StepTo codec path payloads state call .create
        (state.enter call (state.fs.create (tmpPath path)).1
          (.writing (state.fs.create (tmpPath path)).2 0))
  | write (file written count) (isWriting : state.calls call = .writing file written)
      (enough : written + count ≤ (codec.image (payloads call)).length) :
      StepTo codec path payloads state call (.write count)
        (state.enter call (state.fs.writeAt file written
          (((codec.image (payloads call)).drop written).take count))
          (.writing file (written + count)))
  | flush (file) (isWriting : state.calls call =
        .writing file (codec.image (payloads call)).length) :
      StepTo codec path payloads state call .flush
        (state.enter call state.fs .flushed)
  | rename (fs) (isFlushed : state.calls call = .flushed)
      (renamed : state.fs.rename (tmpPath path) path = some fs) :
      StepTo codec path payloads state call .rename (state.enter call fs .done)
  | lost (isFlushed : state.calls call = .flushed)
      (gone : state.fs.rename (tmpPath path) path = none) :
      StepTo codec path payloads state call .rename
        (state.enter call state.fs .failed)
  | fail (file written leftover)
      (isWriting : state.calls call = .writing file written) :
      StepTo codec path payloads state call (.fail leftover)
        (state.enter call (state.fs.writeAt file written leftover) .failed)
  | giveUp (leftover)
      (notWriting : state.calls call = .ready ∨ state.calls call = .flushed) :
      StepTo codec path payloads state call (.fail leftover)
        (state.enter call state.fs .failed)

theorem stepTo_of_step
    (stepEq : state.step codec path payloads call label = some after) :
    StepTo codec path payloads state call label after := by
  unfold step at stepEq
  split at stepEq
  · rename_i isReady
    cases stepEq
    exact .create isReady
  · rename_i file written count isWriting
    simp only [Option.ite_none_right_eq_some, Option.some.injEq] at stepEq
    obtain ⟨enough, rfl⟩ := stepEq
    exact .write file written count isWriting enough
  · rename_i file written isWriting
    simp only [Option.ite_none_right_eq_some, Option.some.injEq] at stepEq
    obtain ⟨rfl, rfl⟩ := stepEq
    exact .flush file isWriting
  · rename_i isFlushed
    cases renamed : state.fs.rename (tmpPath path) path with
    | some fs =>
        rw [renamed] at stepEq
        cases stepEq
        exact .rename fs isFlushed renamed
    | none =>
        rw [renamed] at stepEq
        cases stepEq
        exact .lost isFlushed renamed
  · rename_i file written leftover isWriting
    cases stepEq
    exact .fail file written leftover isWriting
  · rename_i leftover isReady
    cases stepEq
    exact .giveUp leftover (.inl isReady)
  · rename_i leftover isFlushed
    cases stepEq
    exact .giveUp leftover (.inr isFlushed)
  · cases stepEq

theorem StepTo.step_eq (stepTo : StepTo codec path payloads state call label after) :
    state.step codec path payloads call label = some after := by
  cases stepTo with
  | create isReady => simp only [step, isReady]
  | write file written count isWriting enough =>
      simp only [step, isWriting, if_pos enough]
  | flush file isWriting => simp only [step, isWriting, if_true]
  | rename fs isFlushed renamed => simp only [step, isFlushed, renamed]
  | lost isFlushed gone => simp only [step, isFlushed, gone]
  | fail file written leftover isWriting => simp only [step, isWriting]
  | giveUp leftover notWriting =>
      rcases notWriting with isReady | isFlushed
      · simp only [step, isReady]
      · simp only [step, isFlushed]

end Steps

end SaveState

end Storage

end SolanaProtocols
