import Mathlib.Data.List.AList
import SolanaProtocols.LogParser
import SolanaProtocols.LogTotality
import SolanaProtocols.MachineArithmetic
import SolanaProtocols.WriteOnce

/-!
# Instructions that could not be decoded

An instruction that a parser rejects is reported: the first one of each shape is
kept and the others are counted.  A dump writes every kept sample to a file that
is named by the first characters of the program and the discriminator, so samples
of different shapes can share a name, and then only one of them is written.
-/

namespace SolanaProtocols

open MachineArithmetic

namespace Undecoded

/-- A retained example of an instruction that could not be decoded. -/
structure UndecodedSample where
  program : Pubkey
  discriminator : Bytes
  data : Bytes
  accounts : List Pubkey
  seen : Nat
deriving DecidableEq

/-- Program, discriminator, length of the data and number of accounts. -/
structure ShapeKey where
  program : Pubkey
  discriminator : Bytes
  dataLen : Nat
  accountCount : Nat
deriving DecidableEq

/-- A rejected instruction as it is reported. -/
structure Report where
  program : Pubkey
  data : Bytes
  accounts : List Pubkey
deriving DecidableEq

/-- What the process holds. -/
structure UndecodedState where
  total : Nat
  capture : Bool
  samples : AList fun _ : ShapeKey => UndecodedSample

namespace UndecodedState

def initial : UndecodedState := ⟨0, false, ∅⟩

def enableCapture (state : UndecodedState) : UndecodedState :=
  { state with capture := true }

/-- Every retained sample, in whatever order the map is walked. -/
def ReportsAll (state : UndecodedState) (samples : List UndecodedSample) : Prop :=
  samples.Perm (state.samples.entries.map Sigma.snd)

end UndecodedState

def Report.shape (call : Report) : ShapeKey where
  program := call.program
  discriminator := call.data.take 8
  dataLen := call.data.length
  accountCount := call.accounts.length

def UndecodedSample.shape (sample : UndecodedSample) : ShapeKey where
  program := sample.program
  discriminator := sample.discriminator
  dataLen := sample.data.length
  accountCount := sample.accounts.length

/-- Record an instruction that the owning program's parser rejected.  `none` is
a panic. -/
def report (build : Build) (state : UndecodedState) (call : Report) :
    Option UndecodedState :=
  let state := { state with total := (state.total + 1) % 2 ^ 64 }
  if !state.capture then some state
  else
    match state.samples.lookup call.shape with
    | some existing =>
        (build.add 64 existing.seen 1).map fun seen =>
          { state with
            samples := state.samples.insert call.shape { existing with seen := seen } }
    | none =>
        some { state with
          samples := state.samples.insert call.shape
            { program := call.program
              discriminator := call.data.take 8
              data := call.data
              accounts := call.accounts
              seen := 1 } }

/-- Reports one after another, with capture enabled. -/
def reportEach (build : Build) (state : UndecodedState) :
    List Report → Option UndecodedState
  | [] => some state
  | call :: calls => (report build state call).bind (reportEach build · calls)

section Reports

variable {build : Build} {state after : UndecodedState} {call : Report}
  {calls : List Report} {shape : ShapeKey}

/-- How many reports have a shape. -/
def reportsOf (calls : List Report) (shape : ShapeKey) : Nat :=
  calls.countP fun call => call.shape = shape

/-- The sample of a shape after some reports. -/
def sampleOf (calls : List Report) (shape : ShapeKey) : Option UndecodedSample :=
  (calls.find? fun call => call.shape = shape).map fun first =>
    { program := first.program
      discriminator := first.data.take 8
      data := first.data
      accounts := first.accounts
      seen := reportsOf calls shape % 2 ^ 64 }

/-- The map holds the sample of every shape that was reported. -/
structure Tracks (calls : List Report) (state : UndecodedState) : Prop where
  capture : state.capture = true
  samples : ∀ shape, state.samples.lookup shape = sampleOf calls shape

theorem reportsOf_concat :
    reportsOf (calls ++ [call]) shape =
      reportsOf calls shape + if call.shape = shape then 1 else 0 := by
  rw [reportsOf, List.countP_append, List.countP_singleton, ← reportsOf]
  by_cases same : call.shape = shape
  · rw [if_pos same, if_pos (decide_eq_true same)]
  · rw [if_neg same, if_neg (by simpa using same)]

theorem sampleOf_concat_of_ne (other : call.shape ≠ shape) :
    sampleOf (calls ++ [call]) shape = sampleOf calls shape := by
  have notHere : List.find? (fun call => decide (call.shape = shape)) [call] = none :=
    List.find?_eq_none.mpr (by simpa using other)
  rw [sampleOf, List.find?_append, notHere, Option.or_none, reportsOf_concat,
    if_neg other, Nat.add_zero, sampleOf]

theorem reportsOf_eq_zero_iff :
    reportsOf calls shape = 0 ↔ calls.find? (fun call => call.shape = shape) = none := by
  rw [reportsOf, List.countP_eq_zero, List.find?_eq_none]

theorem add_one_eq {seen count sum : Nat} (seenEq : seen = count % 2 ^ 64)
    (added : build.add 64 seen 1 = some sum) : sum = (count + 1) % 2 ^ 64 := by
  cases operators : build.operators with
  | wraps =>
      rw [add_wraps operators, Option.some.injEq] at added
      omega
  | panics =>
      have fits := add_lt_of_panics operators added
      rw [add_eq fits, Option.some.injEq] at added
      omega

theorem report_eq (capture : state.capture = true) :
    report build state call =
      match state.samples.lookup call.shape with
      | some existing =>
          (build.add 64 existing.seen 1).map fun seen =>
            { state with
              total := (state.total + 1) % 2 ^ 64
              samples := state.samples.insert call.shape { existing with seen := seen } }
      | none =>
          some { state with
            total := (state.total + 1) % 2 ^ 64
            samples := state.samples.insert call.shape
              { program := call.program
                discriminator := call.data.take 8
                data := call.data
                accounts := call.accounts
                seen := 1 } } := by
  rw [report]
  dsimp only
  rw [capture]
  rfl

theorem tracks_insert {total : Nat} {sample : UndecodedSample}
    (tracks : Tracks calls state)
    (here : sampleOf (calls ++ [call]) call.shape = some sample) :
    Tracks (calls ++ [call])
      { state with total := total, samples := state.samples.insert call.shape sample } where
  capture := tracks.capture
  samples shape := by
    by_cases same : shape = call.shape
    · rw [same, AList.lookup_insert, here]
    · rw [AList.lookup_insert_ne same, tracks.samples,
        sampleOf_concat_of_ne (Ne.symm same)]

/-- One report keeps track. -/
theorem Tracks.step (tracks : Tracks calls state)
    (reported : report build state call = some after) :
    Tracks (calls ++ [call]) after := by
  rw [report_eq tracks.capture, tracks.samples] at reported
  have more : reportsOf (calls ++ [call]) call.shape = reportsOf calls call.shape + 1 := by
    rw [reportsOf_concat, if_pos rfl]
  cases found : calls.find? (fun other => other.shape = call.shape) with
  | none =>
      have first : sampleOf calls call.shape = none := by
        rw [sampleOf, found, Option.map_none]
      rw [first] at reported
      cases reported
      refine tracks_insert tracks ?_
      rw [sampleOf, List.find?_append, found, more, reportsOf_eq_zero_iff.mpr found,
        Option.none_or, List.find?_singleton, if_pos (decide_eq_true rfl)]
      rfl
  | some first =>
      have kept : sampleOf calls call.shape = some
          { program := first.program
            discriminator := first.data.take 8
            data := first.data
            accounts := first.accounts
            seen := reportsOf calls call.shape % 2 ^ 64 } := by
        rw [sampleOf, found, Option.map_some]
      rw [kept] at reported
      obtain ⟨seen, added, rfl⟩ := Option.map_eq_some_iff.mp reported
      refine tracks_insert tracks ?_
      rw [sampleOf, List.find?_append, found, more, add_one_eq rfl added]
      rfl

/-- A report ends where its shape was not reported too often. -/
theorem Tracks.exists_report (tracks : Tracks calls state)
    (few : reportsOf (calls ++ [call]) call.shape < 2 ^ 64) :
    ∃ after, report build state call = some after := by
  rw [reportsOf_concat, if_pos rfl] at few
  rw [report_eq tracks.capture, tracks.samples]
  cases kept : sampleOf calls call.shape with
  | none => exact ⟨_, rfl⟩
  | some existing =>
      obtain ⟨first, -, rfl⟩ := Option.map_eq_some_iff.mp kept
      have fits : reportsOf calls call.shape % 2 ^ 64 + 1 < 2 ^ 64 := by
        omega
      dsimp only
      rw [add_eq fits]
      exact ⟨_, rfl⟩

theorem Tracks.run {more : List Report} (tracks : Tracks calls state)
    (ran : reportEach build state more = some after) : Tracks (calls ++ more) after := by
  induction more generalizing calls state with
  | nil =>
      cases ran
      rwa [List.append_nil]
  | cons call more ih =>
      obtain ⟨next, reported, ran⟩ := Option.bind_eq_some_iff.mp ran
      have stepped := ih (tracks.step reported) ran
      rwa [List.append_assoc] at stepped

theorem reportsOf_mono {more : List Report} :
    reportsOf calls shape ≤ reportsOf (calls ++ more) shape := by
  rw [reportsOf, reportsOf, List.countP_append]
  exact Nat.le_add_right _ _

theorem Tracks.exists_run {more : List Report} (tracks : Tracks calls state)
    (few : ∀ shape, reportsOf (calls ++ more) shape < 2 ^ 64) :
    ∃ after, reportEach build state more = some after := by
  induction more generalizing calls state with
  | nil => exact ⟨state, rfl⟩
  | cons call more ih =>
      have whole : calls ++ call :: more = (calls ++ [call]) ++ more := by
        rw [List.append_assoc, List.singleton_append]
      rw [whole] at few
      obtain ⟨next, reported⟩ := tracks.exists_report
        (reportsOf_mono.trans_lt (few call.shape))
      obtain ⟨after, ran⟩ := ih (tracks.step reported) few
      exact ⟨after, by rw [reportEach, reported, Option.bind_some, ran]⟩

theorem tracks_start : Tracks [] UndecodedState.initial.enableCapture :=
  ⟨rfl, fun _ => rfl⟩

end Reports

section Samples

variable {build : Build} {state : UndecodedState} {calls : List Report}
  {samples : List UndecodedSample} {sample : UndecodedSample} {shape : ShapeKey}

/-- One sample for each shape reported, with the data and accounts of the first
report of the shape and the number of its reports. -/
structure Retains (calls : List Report) (samples : List UndecodedSample) : Prop where
  distinct : (samples.map UndecodedSample.shape).Nodup
  shapes : ∀ shape, shape ∈ samples.map UndecodedSample.shape ↔
    ∃ call ∈ calls, call.shape = shape
  first : ∀ sample ∈ samples, ∃ first,
    calls.find? (fun call => call.shape = sample.shape) = some first ∧
      sample.data = first.data ∧ sample.accounts = first.accounts
  seen : ∀ sample ∈ samples, sample.seen = reportsOf calls sample.shape

theorem shape_of_sampleOf (here : sampleOf calls shape = some sample) :
    sample.shape = shape := by
  obtain ⟨first, found, rfl⟩ := Option.map_eq_some_iff.mp here
  have isFirst := List.find?_some found
  exact of_decide_eq_true isFirst

theorem Tracks.mem_entries_iff (tracks : Tracks calls state) :
    (⟨shape, sample⟩ : (_ : ShapeKey) × UndecodedSample) ∈ state.samples.entries ↔
      sampleOf calls shape = some sample := by
  rw [← tracks.samples, ← AList.mem_lookup_iff]
  rfl

theorem Tracks.map_shape (tracks : Tracks calls state)
    (all : state.ReportsAll samples) :
    (samples.map UndecodedSample.shape).Perm state.samples.keys := by
  have same : (state.samples.entries.map Sigma.snd).map UndecodedSample.shape =
      state.samples.keys := by
    rw [List.map_map]
    refine List.map_congr_left fun entry member => ?_
    exact shape_of_sampleOf (tracks.mem_entries_iff.mp member)
  rw [← same]
  exact all.map _

theorem Tracks.mem_iff (tracks : Tracks calls state) (all : state.ReportsAll samples) :
    sample ∈ samples ↔ sampleOf calls sample.shape = some sample := by
  rw [all.mem_iff, List.mem_map]
  constructor
  · rintro ⟨⟨shape, kept⟩, member, rfl⟩
    have here := tracks.mem_entries_iff.mp member
    rwa [← shape_of_sampleOf here] at here
  · exact fun here => ⟨_, tracks.mem_entries_iff.mpr here, rfl⟩

theorem Tracks.exists_sample_iff (tracks : Tracks calls state)
    (all : state.ReportsAll samples) :
    shape ∈ samples.map UndecodedSample.shape ↔ ∃ call ∈ calls, call.shape = shape := by
  rw [(tracks.map_shape all).mem_iff, ← AList.mem_keys, ← AList.lookup_isSome,
    tracks.samples, sampleOf, Option.isSome_map, List.find?_isSome]
  simp only [decide_eq_true_eq]

/-- What is tracked is retained as long as the counters have not wrapped. -/
theorem Tracks.retains_iff (tracks : Tracks calls state)
    (all : state.ReportsAll samples) :
    Retains calls samples ↔ ∀ shape, reportsOf calls shape < 2 ^ 64 := by
  have counted (sample : UndecodedSample) (member : sample ∈ samples) :
      sample.seen = reportsOf calls sample.shape % 2 ^ 64 := by
    obtain ⟨first, -, same⟩ := Option.map_eq_some_iff.mp ((tracks.mem_iff all).mp member)
    exact (congrArg UndecodedSample.seen same).symm
  constructor
  · intro retains shape
    by_cases reported : ∃ call ∈ calls, call.shape = shape
    · obtain ⟨sample, member, rfl⟩ := List.mem_map.mp ((retains.shapes shape).mpr reported)
      rw [← retains.seen sample member, counted sample member]
      exact Nat.mod_lt _ (Nat.two_pow_pos 64)
    · have never : reportsOf calls shape = 0 := by
        rw [reportsOf_eq_zero_iff, List.find?_eq_none]
        intro call member same
        exact reported ⟨call, member, of_decide_eq_true same⟩
      rw [never]
      exact Nat.two_pow_pos 64
  · intro few
    refine ⟨?_, fun shape => tracks.exists_sample_iff all, ?_, ?_⟩
    · exact (tracks.map_shape all).nodup_iff.mpr state.samples.keys_nodup
    · intro sample member
      obtain ⟨first, found, same⟩ :=
        Option.map_eq_some_iff.mp ((tracks.mem_iff all).mp member)
      exact ⟨first, found, (congrArg UndecodedSample.data same).symm,
        (congrArg UndecodedSample.accounts same).symm⟩
    · intro sample member
      rw [counted sample member, Nat.mod_eq_of_lt (few sample.shape)]

end Samples

section Fixtures

/-- How an address prints in base58.  Printing is another crate's. -/
structure PubkeyDisplay where
  toText : Pubkey → Text
  long : ∀ key, 32 ≤ (toText key).length
  ascii : ∀ key, ∀ char ∈ toText key, char.utf8Size = 1

variable (display : PubkeyDisplay)

/-- Two hexadecimal digits. -/
def hexByte (byte : UInt8) : Text :=
  [Nat.digitChar (byte.toNat / 16), Nat.digitChar (byte.toNat % 16)]

/-- The name of a sample's fixture.  `none` is a panic. -/
def fileName (sample : UndecodedSample) : Option Text := do
  let front ← (display.toText sample.program).sliceTo 8
  return front ++ "_".toList ++ sample.discriminator.flatMap hexByte ++ ".json".toList

/-- The fixture of a sample. -/
def fixture (sample : UndecodedSample) : Text :=
  "\x7b\n  \"program\": \"".toList ++ display.toText sample.program ++
    "\",\n  \"discriminator\": ".toList ++
      (toString (sample.discriminator.map UInt8.toNat)).toList ++
    ",\n  \"seen\": ".toList ++ (toString sample.seen).toList ++
    ",\n  \"captured_at\": \"firehose\",\n  \"data_len\": ".toList ++
      (toString sample.data.length).toList ++
    ",\n  \"data_b64\": \"".toList ++ LogParser.encodeText sample.data ++
    "\",\n  \"accounts\": [".toList ++
      (", ".toList).intercalate (sample.accounts.map fun account =>
        "\"".toList ++ display.toText account ++ "\"".toList) ++
    "]\n\x7d\n".toList

/-- Write one sample, unless its file exists. -/
def dumpSample (state : FileSystem Text × Nat) (sample : UndecodedSample) :
    Option (FileSystem Text × Nat) :=
  (fileName display sample).map fun path =>
    FileSystem.writeNew state path (fixture display sample).toUtf8

/-- Write the samples to a directory as fixtures.  Also how many are written. -/
def dumpFixtures (samples : List UndecodedSample) (dir : FileSystem Text) :
    Option (FileSystem Text × Nat) :=
  samples.foldlM (dumpSample display) (dir, 0)

variable {display} {samples : List UndecodedSample} {sample other : UndecodedSample}

/-- The name of a sample's fixture, which is there for every address. -/
def nameOf (display : PubkeyDisplay) (sample : UndecodedSample) : Text :=
  (display.toText sample.program).take 8 ++ "_".toList ++
    sample.discriminator.flatMap hexByte ++ ".json".toList

theorem utf8Len_of_ascii {text : Text} (ascii : ∀ char ∈ text, char.utf8Size = 1) :
    text.utf8Len = text.length := by
  induction text with
  | nil => rfl
  | cons char text ih =>
      obtain ⟨first, rest⟩ := List.forall_mem_cons.mp ascii
      rw [Text.utf8Len_cons, first, ih rest, List.length_cons, Nat.add_comm]

theorem fileName_eq : fileName display sample = some (nameOf display sample) := by
  have long := display.long sample.program
  have front : (display.toText sample.program).sliceTo 8 =
      some ((display.toText sample.program).take 8) := by
    refine Text.sliceTo_eq_some_iff.mpr ⟨_, (List.take_append_drop 8 _).symm, ?_⟩
    rw [utf8Len_of_ascii fun char member =>
      display.ascii sample.program char (List.mem_of_mem_take member), List.length_take]
    omega
  rw [fileName, front]
  rfl

/-- The fixtures of samples with their names. -/
def fixtures (display : PubkeyDisplay) (samples : List UndecodedSample) :
    List (Text × Bytes) :=
  samples.map fun sample => (nameOf display sample, (fixture display sample).toUtf8)

theorem map_fst_fixtures :
    (fixtures display samples).map Prod.fst = samples.map (nameOf display) := by
  rw [fixtures, List.map_map]
  rfl

theorem dumpFixtures_eq (dir : FileSystem Text) :
    dumpFixtures display samples dir =
      some (FileSystem.writeOnce (dir, 0) (fixtures display samples)) := by
  rw [dumpFixtures]
  generalize (dir, 0) = state
  induction samples generalizing state with
  | nil => rfl
  | cons sample samples ih =>
      rw [List.foldlM_cons, dumpSample, fileName_eq, Option.map_some, Option.bind_eq_bind,
        Option.bind_some, ih]
      rfl

theorem digitChar_injective : ∀ one < 16, ∀ other < 16,
    Nat.digitChar one = Nat.digitChar other → one = other := by
  decide

theorem hexByte_injective {one other : UInt8} (same : hexByte one = hexByte other) :
    one = other := by
  obtain ⟨high, low⟩ := List.cons.inj same
  have oneLt := one.toNat_lt
  have otherLt := other.toNat_lt
  have highs := digitChar_injective _ (by omega) _ (by omega) high
  have lows := digitChar_injective _ (by omega) _ (by omega) (List.cons.inj low).1
  exact UInt8.toNat_inj.mp (by omega)

theorem flatMap_hexByte_injective {first second : Bytes}
    (same : first.flatMap hexByte = second.flatMap hexByte) : first = second := by
  induction first generalizing second with
  | nil =>
      cases second with
      | nil => rfl
      | cons byte second => cases same
  | cons byte first ih =>
      cases second with
      | nil => cases same
      | cons byte' second =>
          rw [List.flatMap_cons, List.flatMap_cons] at same
          obtain ⟨here, rest⟩ := List.append_inj same rfl
          rw [hexByte_injective here, ih rest]

/-- Samples share a name where they share the first eight characters of the
program and the discriminator. -/
theorem nameOf_eq_iff :
    nameOf display sample = nameOf display other ↔
      (display.toText sample.program).take 8 = (display.toText other.program).take 8 ∧
        sample.discriminator = other.discriminator := by
  have fronts (sample : UndecodedSample) :
      ((display.toText sample.program).take 8).length = 8 :=
    List.length_take_of_le ((Nat.le_of_ble_eq_true rfl).trans (display.long sample.program))
  constructor
  · intro same
    have bodies := List.append_cancel_right same
    rw [List.append_assoc, List.append_assoc] at bodies
    obtain ⟨front, rest⟩ := List.append_inj bodies
      ((fronts sample).trans (fronts other).symm)
    exact ⟨front, flatMap_hexByte_injective (List.append_cancel_left rest)⟩
  · rintro ⟨front, disc⟩
    rw [nameOf, nameOf, front, disc]

/-- A dump into an empty directory writes every sample to a file of its own, and
another one writes nothing. -/
structure DumpsAll (display : PubkeyDisplay) (samples : List UndecodedSample)
    (dir after : FileSystem Text) : Prop where
  written : dumpFixtures display samples dir = some (after, samples.length)
  files : ∃ paths : List Text, paths.Nodup ∧
    List.Forall₂ (fun sample path =>
      after.read path = some (fixture display sample).toUtf8) samples paths
  again : ∀ others : List UndecodedSample, others.Perm samples →
    dumpFixtures display others after = some (after, 0)

theorem dumpsAll_iff {dir : FileSystem Text} (empty : ∀ path, ¬ dir.Exists path) :
    (∃ after, DumpsAll display samples dir after) ↔
      (samples.map (nameOf display)).Nodup := by
  constructor
  · rintro ⟨after, all⟩
    have written := all.written
    rw [dumpFixtures_eq, Option.some.injEq] at written
    have counted : (FileSystem.writeOnce (dir, 0) (fixtures display samples)).2 =
        0 + (fixtures display samples).length := by
      rw [written, fixtures, List.length_map, Nat.zero_add]
    rw [← map_fst_fixtures]
    exact (FileSystem.nodup_of_count counted).1
  · intro distinct
    rw [← map_fst_fixtures] at distinct
    obtain ⟨counted, reads⟩ := @FileSystem.writeOnce_of_fresh _ _ dir 0
      (fixtures display samples) (fun path _ => empty path) distinct
    rw [fixtures, List.length_map, Nat.zero_add, ← fixtures] at counted
    refine ⟨(FileSystem.writeOnce (dir, 0) (fixtures display samples)).1, ?_, ?_, ?_⟩
    · rw [dumpFixtures_eq, ← counted]
    · refine ⟨samples.map (nameOf display), ?_, ?_⟩
      · rwa [← map_fst_fixtures]
      · rw [List.forall₂_map_right_iff, List.forall₂_same]
        intro sample member
        exact reads _ (List.mem_map_of_mem member)
    · intro others perm
      rw [dumpFixtures_eq, FileSystem.writeOnce_of_bound]
      intro path member
      rw [map_fst_fixtures] at member
      refine FileSystem.exists_writeOnce.mpr (.inr ?_)
      rw [map_fst_fixtures]
      exact (perm.map _).mem_iff.mp member

end Fixtures

section Evidence

variable {build : Build} {display : PubkeyDisplay} {calls : List Report}

/-- After some reports there is one sample for each shape, and a dump of the
samples into an empty directory loses none. -/
def LosesNoShape (build : Build) (display : PubkeyDisplay) (calls : List Report) : Prop :=
  ∃ state, reportEach build UndecodedState.initial.enableCapture calls = some state ∧
    ∀ samples, state.ReportsAll samples → Retains calls samples ∧
      ∀ dir : FileSystem Text, (∀ path, ¬ dir.Exists path) →
        ∃ after, DumpsAll display samples dir after

/-- Reports whose programs start alike and whose data starts alike have one
shape. -/
def NamesApart (display : PubkeyDisplay) (calls : List Report) : Prop :=
  ∀ one ∈ calls, ∀ other ∈ calls,
    (display.toText one.program).take 8 = (display.toText other.program).take 8 →
      one.data.take 8 = other.data.take 8 → one.shape = other.shape

/-- A directory without files. -/
def emptyDirectory : FileSystem Text :=
  .empty

/-- Samples are written under one name exactly when the reports of their shapes
start alike. -/
theorem nameOf_eq_iff_of_shapes {one two : Report}
    (shape : sample.shape = one.shape) (otherShape : other.shape = two.shape) :
    nameOf display sample = nameOf display other ↔
      (display.toText one.program).take 8 = (display.toText two.program).take 8 ∧
        one.data.take 8 = two.data.take 8 := by
  have program : sample.program = one.program := congrArg ShapeKey.program shape
  have otherProgram : other.program = two.program :=
    congrArg ShapeKey.program otherShape
  have disc : sample.discriminator = one.data.take 8 :=
    congrArg ShapeKey.discriminator shape
  have otherDisc : other.discriminator = two.data.take 8 :=
    congrArg ShapeKey.discriminator otherShape
  rw [nameOf_eq_iff, program, otherProgram, disc, otherDisc]

/-- Different samples have different names exactly where the reports do. -/
theorem nodup_names_iff {samples : List UndecodedSample} (retains : Retains calls samples) :
    (samples.map (nameOf display)).Nodup ↔ NamesApart display calls := by
  constructor
  · intro distinct one oneHere two twoHere front disc
    obtain ⟨first, firstMember, firstShape⟩ :=
      List.mem_map.mp ((retains.shapes one.shape).mpr ⟨one, oneHere, rfl⟩)
    obtain ⟨second, secondMember, secondShape⟩ :=
      List.mem_map.mp ((retains.shapes two.shape).mpr ⟨two, twoHere, rfl⟩)
    have named : nameOf display first = nameOf display second :=
      (nameOf_eq_iff_of_shapes firstShape secondShape).mpr ⟨front, disc⟩
    have same := List.inj_on_of_nodup_map distinct firstMember secondMember named
    rw [← firstShape, ← secondShape, same]
  · intro apart
    have samplesDistinct : samples.Nodup := List.Nodup.of_map _ retains.distinct
    refine List.Nodup.map_on (fun first firstMember second secondMember named => ?_)
      samplesDistinct
    obtain ⟨one, oneHere, oneShape⟩ :=
      (retains.shapes first.shape).mp (List.mem_map_of_mem firstMember)
    obtain ⟨two, twoHere, twoShape⟩ :=
      (retains.shapes second.shape).mp (List.mem_map_of_mem secondMember)
    obtain ⟨front, disc⟩ :=
      (nameOf_eq_iff_of_shapes oneShape.symm twoShape.symm).mp named
    have shapes := apart one oneHere two twoHere front disc
    rw [oneShape, twoShape] at shapes
    exact List.inj_on_of_nodup_map retains.distinct firstMember secondMember shapes

theorem LosesNoShape.namesApart (loses : LosesNoShape build display calls) :
    (∀ shape, reportsOf calls shape < 2 ^ 64) ∧ NamesApart display calls := by
  obtain ⟨state, ran, keeps⟩ := loses
  have tracks : Tracks calls state := tracks_start.run ran
  have all : state.ReportsAll (state.samples.entries.map Sigma.snd) := List.Perm.refl _
  obtain ⟨retains, dumps⟩ := keeps _ all
  refine ⟨(tracks.retains_iff all).mp retains, (nodup_names_iff retains).mp ?_⟩
  have empty : ∀ path, ¬ emptyDirectory.Exists path := fun path bound => bound rfl
  exact (dumpsAll_iff empty).mp (dumps emptyDirectory empty)

/-- No shape is lost exactly where the counters do not wrap and no two shapes
share the name of a file. -/
theorem losesNoShape_iff (build : Build) (display : PubkeyDisplay) (calls : List Report) :
    LosesNoShape build display calls ↔
      (∀ shape, reportsOf calls shape < 2 ^ 64) ∧ NamesApart display calls := by
  constructor
  · exact LosesNoShape.namesApart
  · rintro ⟨few, apart⟩
    obtain ⟨state, ran⟩ := @Tracks.exists_run build _ [] calls tracks_start few
    have tracks : Tracks calls state := tracks_start.run ran
    refine ⟨state, ran, fun samples all => ?_⟩
    have retains := (tracks.retains_iff all).mpr few
    exact ⟨retains, fun dir empty =>
      (dumpsAll_iff empty).mpr ((nodup_names_iff retains).mpr apart)⟩

/-- The system program prints as 32 ones. -/
def onesDisplay : PubkeyDisplay where
  toText _ := List.replicate 32 '1'
  long _ := List.length_replicate.ge
  ascii _ char member := by
    rw [List.eq_of_mem_replicate member]
    rfl

/-- An instruction of eight bytes and one with a byte more, as two shapes. -/
def argumentReports : List Report :=
  [⟨0, [4, 4, 4, 4, 4, 4, 4, 4], []⟩, ⟨0, [4, 4, 4, 4, 4, 4, 4, 4, 1], []⟩]

/-- The optional argument makes a second shape, which the dump loses. -/
theorem argumentReports_lose_shape :
    ¬ LosesNoShape Build.release onesDisplay argumentReports := by
  intro loses
  have same := loses.namesApart.2 _ (List.mem_cons_self ..) _
    (List.mem_cons_of_mem _ (List.mem_singleton_self _)) rfl rfl
  have lengths := congrArg ShapeKey.dataLen same
  revert lengths
  decide

end Evidence

end Undecoded

end SolanaProtocols
