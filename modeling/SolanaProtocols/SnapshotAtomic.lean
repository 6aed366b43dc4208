import SolanaProtocols.SnapshotFile

/-!
# Snapshots are written as a whole

When saves take turns, only the save whose turn it is can write the temporary
file, and what it renames is its own complete snapshot.  When they do not, a
second save truncates the file that the first one renames.
-/

namespace SolanaProtocols

namespace Storage

namespace SaveState

variable {T : Type} {codec : SnapshotCodec T} {path : Text} {payloads : Nat → T}
variable {initial : FileSystem Text} {state after : SaveState}

/-- What holds while saves take turns. -/
structure Orderly (codec : SnapshotCodec T) (path : Text) (payloads : Nat → T)
    (initial : FileSystem Text) (state : SaveState) : Prop where
  exclusive : ∀ one other, (state.calls one).InProgress →
    (state.calls other).InProgress → one = other
  writing : ∀ call file written, state.calls call = .writing file written →
    state.fs.names (tmpPath path) = some file ∧
      state.fs.contents file = (codec.image (payloads call)).take written ∧
      written ≤ (codec.image (payloads call)).length
  flushed : ∀ call, state.calls call = .flushed →
    state.fs.read (tmpPath path) = some (codec.image (payloads call))
  target : state.fs.read path = initial.read path ∨
    ∃ call, state.calls call = .done ∧
      state.fs.read path = some (codec.image (payloads call))

theorem orderly_start (fs : FileSystem Text) :
    Orderly codec path payloads fs (start fs) where
  exclusive _ _ inProgress := inProgress.elim
  writing _ _ _ isWriting := by cases isWriting
  flushed _ isFlushed := by cases isFlushed
  target := .inl rfl

section Enter

variable {call : Nat} {fs : FileSystem Text} {stage : SaveStage}

theorem orderly_enter
    (alone : ∀ other, other ≠ call → ¬(state.calls other).InProgress)
    (writing : ∀ file written, stage = .writing file written →
      fs.names (tmpPath path) = some file ∧
        fs.contents file = (codec.image (payloads call)).take written ∧
        written ≤ (codec.image (payloads call)).length)
    (flushed : stage = .flushed →
      fs.read (tmpPath path) = some (codec.image (payloads call)))
    (target : fs.read path = initial.read path ∨
      ∃ saved, (state.enter call fs stage).calls saved = .done ∧
        fs.read path = some (codec.image (payloads saved))) :
    Orderly codec path payloads initial (state.enter call fs stage) := by
  have isCall : ∀ other,
      ((state.enter call fs stage).calls other).InProgress → other = call := by
    intro other inProgress
    by_contra different
    rw [calls_enter_of_ne different] at inProgress
    exact alone other different inProgress
  constructor
  · intro one other first second
    rw [isCall one first, isCall other second]
  · intro other file written isWriting
    have same := isCall other (by rw [isWriting]; trivial)
    subst same
    rw [calls_enter] at isWriting
    exact writing file written isWriting
  · intro other isFlushed
    have same := isCall other (by rw [isFlushed]; trivial)
    subst same
    rw [calls_enter] at isFlushed
    exact flushed isFlushed
  · exact target

end Enter

theorem Orderly.alone (orderly : Orderly codec path payloads initial state)
    {call : Nat} (inProgress : (state.calls call).InProgress) :
    ∀ other, other ≠ call → ¬(state.calls other).InProgress :=
  fun other different otherInProgress =>
    different (orderly.exclusive other call otherInProgress inProgress)

theorem StepTo.done {call other : Nat} {label : SaveStep}
    (stepTo : StepTo codec path payloads state call label after)
    (isDone : state.calls other = .done) :
    after.calls other = .done := by
  have different : other ≠ call := by
    rintro rfl
    cases stepTo <;> simp_all
  cases stepTo <;> exact (calls_enter_of_ne different).trans isDone

/-- Only a call that completes changes the target, to its own complete snapshot. -/
theorem Orderly.read_step (orderly : Orderly codec path payloads initial state)
    {call : Nat} {label : SaveStep}
    (stepTo : StepTo codec path payloads state call label after) :
    after.fs.read path =
      if after.calls call = .done then some (codec.image (payloads call))
      else state.fs.read path := by
  have notTemporary : path ≠ tmpPath path := (tmpPath_ne path).symm
  have unfinished {fs : FileSystem Text} {stage : SaveStage} (notDone : stage ≠ .done)
      (same : fs.read path = state.fs.read path) :
      (state.enter call fs stage).fs.read path =
        if (state.enter call fs stage).calls call = .done then
          some (codec.image (payloads call))
        else state.fs.read path := by
    rw [calls_enter, if_neg notDone]
    exact same
  cases stepTo with
  | create isReady =>
      exact unfinished (by simp) (FileSystem.read_create_of_ne notTemporary)
  | write file written count isWriting enough =>
      obtain ⟨bound, -, -⟩ := orderly.writing call file written isWriting
      exact unfinished (by simp) (FileSystem.read_writeAt_of_ne bound notTemporary)
  | flush file isWriting => exact unfinished (by simp) rfl
  | rename fs isFlushed renamed =>
      obtain ⟨file, bound, names, contents, -⟩ := FileSystem.rename_spec renamed
      obtain ⟨whole, wholeBound, wholeEq⟩ :=
        FileSystem.read_eq_some_iff.mp (orderly.flushed call isFlushed)
      rw [calls_enter, if_pos rfl]
      rw [bound] at wholeBound
      cases wholeBound
      exact FileSystem.read_eq_some_iff.mpr
        ⟨file, by rw [enter_fs, names, if_pos rfl], by rw [enter_fs, contents, wholeEq]⟩
  | lost isFlushed gone => exact unfinished (by simp) rfl
  | fail file written leftover isWriting =>
      obtain ⟨bound, -, -⟩ := orderly.writing call file written isWriting
      exact unfinished (by simp) (FileSystem.read_writeAt_of_ne bound notTemporary)
  | giveUp leftover notWriting => exact unfinished (by simp) rfl

theorem Orderly.target_step (orderly : Orderly codec path payloads initial state)
    {call : Nat} {label : SaveStep}
    (stepTo : StepTo codec path payloads state call label after) :
    after.fs.read path = initial.read path ∨
      ∃ saved, after.calls saved = .done ∧
        after.fs.read path = some (codec.image (payloads saved)) := by
  rw [orderly.read_step stepTo]
  split_ifs with completed
  · exact .inr ⟨call, completed, rfl⟩
  · exact orderly.target.imp_right fun ⟨saved, isDone, whole⟩ =>
      ⟨saved, stepTo.done isDone, whole⟩

theorem Orderly.giveUp (orderly : Orderly codec path payloads initial state)
    {call : Nat}
    (target : state.fs.read path = initial.read path ∨
      ∃ saved, (state.enter call state.fs .failed).calls saved = .done ∧
        state.fs.read path = some (codec.image (payloads saved))) :
    Orderly codec path payloads initial (state.enter call state.fs .failed) := by
  have others : ∀ other,
      ((state.enter call state.fs .failed).calls other).InProgress →
        (state.enter call state.fs .failed).calls other = state.calls other := by
    intro other inProgress
    apply calls_enter_of_ne
    rintro rfl
    rw [calls_enter] at inProgress
    exact inProgress
  constructor
  · intro one other first second
    rw [others one first] at first
    rw [others other second] at second
    exact orderly.exclusive one other first second
  · intro other file written isWriting
    have same := others other (by rw [isWriting]; trivial)
    exact orderly.writing other file written (same.symm.trans isWriting)
  · intro other isFlushed
    have same := others other (by rw [isFlushed]; trivial)
    exact orderly.flushed other (same.symm.trans isFlushed)
  · exact target

/-- A step taken in turn keeps order. -/
theorem Orderly.step (orderly : Orderly codec path payloads initial state)
    {call : Nat} {label : SaveStep} (turn : state.TakesTurns call label)
    (stepTo : StepTo codec path payloads state call label after) :
    Orderly codec path payloads initial after := by
  have target := orderly.target_step stepTo
  cases stepTo with
  | create isReady =>
      obtain ⟨names, contents, -, -⟩ :=
        FileSystem.create_spec state.fs (tmpPath path)
      apply orderly_enter (turn rfl)
      · intro file written isWriting
        cases isWriting
        refine ⟨?_, ?_, Nat.zero_le _⟩
        · rw [names, if_pos rfl]
        · rw [contents, Function.update_self, List.take_zero]
      · exact fun isFlushed => by cases isFlushed
      · exact target
  | write file written count isWriting enough =>
      obtain ⟨bound, soFar, inside⟩ := orderly.writing call file written isWriting
      apply orderly_enter (orderly.alone (by rw [isWriting]; trivial))
      · intro other more isWritingOn
        cases isWritingOn
        refine ⟨bound, ?_, enough⟩
        rw [FileSystem.contents_writeAt, soFar,
          FileSystem.overwrite_take _ count inside]
      · exact fun isFlushed => by cases isFlushed
      · exact target
  | flush file isWriting =>
      obtain ⟨bound, whole, -⟩ := orderly.writing call file _ isWriting
      apply orderly_enter (orderly.alone (by rw [isWriting]; trivial))
      · exact fun _ _ isWriting => by cases isWriting
      · intro _
        rw [List.take_length] at whole
        exact FileSystem.read_eq_some_iff.mpr ⟨file, bound, whole⟩
      · exact target
  | rename fs isFlushed renamed =>
      apply orderly_enter (orderly.alone (by rw [isFlushed]; trivial))
      · exact fun _ _ isWriting => by cases isWriting
      · exact fun isFlushed => by cases isFlushed
      · exact target
  | lost isFlushed gone =>
      apply orderly_enter (orderly.alone (by rw [isFlushed]; trivial))
      · exact fun _ _ isWriting => by cases isWriting
      · exact fun isFlushed => by cases isFlushed
      · exact target
  | fail file written leftover isWriting =>
      apply orderly_enter (orderly.alone (by rw [isWriting]; trivial))
      · exact fun _ _ isWriting => by cases isWriting
      · exact fun isFlushed => by cases isFlushed
      · exact target
  | giveUp leftover notWriting => exact orderly.giveUp target

theorem Orderly.run {before : SaveState}
    (orderly : Orderly codec path payloads initial before)
    (run : Run codec path payloads TakesTurns before after) :
    Orderly codec path payloads initial after := by
  induction run with
  | refl => exact orderly
  | step run turn stepEq ih => exact ih.step turn (stepTo_of_step stepEq)

/-- A file that no save writes any more: it exists, and it is not the temporary
file. -/
def Settled (path : Text) (file : Nat) (state : SaveState) : Prop :=
  file < state.fs.next ∧ state.fs.names (tmpPath path) ≠ some file

theorem settled_of_bound {file : Nat} (bound : state.fs.names path = some file) :
    Settled path file state := by
  refine ⟨state.fs.known path file bound, fun temporary => ?_⟩
  exact tmpPath_ne path (state.fs.single _ _ file temporary bound)

/-- A settled file stays as it is, also once it has been replaced. -/
theorem Settled.step {file call : Nat} {label : SaveStep}
    (settled : Settled path file state)
    (orderly : Orderly codec path payloads initial state)
    (stepTo : StepTo codec path payloads state call label after) :
    Settled path file after ∧
      after.fs.contents file = state.fs.contents file := by
  obtain ⟨exists', notTemporary⟩ := settled
  have written {other offset : Nat} {bytes : Bytes} {stage : SaveStage}
      (bound : state.fs.names (tmpPath path) = some other) :
      Settled path file (state.enter call
          (state.fs.writeAt other offset bytes) stage) ∧
        (state.fs.writeAt other offset bytes).contents file =
          state.fs.contents file := by
    have different : file ≠ other := by
      rintro rfl
      exact notTemporary bound
    exact ⟨⟨exists', notTemporary⟩, FileSystem.contents_writeAt_of_ne different⟩
  cases stepTo with
  | create isReady =>
      obtain ⟨names, contents, grown, created⟩ :=
        FileSystem.create_spec state.fs (tmpPath path)
      have different : file ≠ (state.fs.create (tmpPath path)).2 := by
        rintro rfl
        rcases created with bound | isNext
        · exact notTemporary bound
        · omega
      refine ⟨⟨exists'.trans_le grown, ?_⟩, ?_⟩
      · rw [enter_fs, names, if_pos rfl]
        exact fun same => different (Option.some.inj same).symm
      · rw [enter_fs, contents, Function.update_of_ne different]
  | write other offset count isWriting enough =>
      exact written (orderly.writing call other offset isWriting).1
  | flush other isWriting => exact ⟨⟨exists', notTemporary⟩, rfl⟩
  | rename fs isFlushed renamed =>
      obtain ⟨other, bound, names, contents, next⟩ :=
        FileSystem.rename_spec renamed
      refine ⟨⟨next ▸ exists', ?_⟩, by rw [enter_fs, contents]⟩
      rw [enter_fs, names, if_neg (tmpPath_ne path), if_pos rfl]
      exact fun same => by cases same
  | lost isFlushed gone => exact ⟨⟨exists', notTemporary⟩, rfl⟩
  | fail other offset leftover isWriting =>
      exact written (orderly.writing call other offset isWriting).1
  | giveUp leftover notWriting => exact ⟨⟨exists', notTemporary⟩, rfl⟩

theorem Settled.run {file : Nat} (settled : Settled path file state)
    (orderly : Orderly codec path payloads initial state)
    (run : Run codec path payloads TakesTurns state after) :
    Settled path file after ∧
      after.fs.contents file = state.fs.contents file := by
  induction run with
  | refl => exact ⟨settled, rfl⟩
  | step run turn stepEq ih =>
      obtain ⟨settledMiddle, sameMiddle⟩ := ih
      obtain ⟨settledAfter, sameAfter⟩ :=
        settledMiddle.step (orderly.run run) (stepTo_of_step stepEq)
      exact ⟨settledAfter, sameAfter.trans sameMiddle⟩

/-- When saves take turns, the target is at every moment what it was before or
the complete snapshot of one call, and whoever has opened it reads the same
contents whatever saves go on. -/
theorem snapshots_whole (codec : SnapshotCodec T) (path : Text)
    (payloads : Nat → T) (initial : FileSystem Text) (state : SaveState)
    (run : Run codec path payloads TakesTurns (start initial) state) :
    Whole codec path payloads initial state ∧
      ∀ file, state.fs.names path = some file → ∀ after,
        Run codec path payloads TakesTurns state after →
          after.fs.contents file = state.fs.contents file := by
  have orderly := (orderly_start initial).run run
  constructor
  · apply orderly.target.imp_right
    rintro ⟨call, isDone, whole⟩
    exact ⟨call, isDone, whole, by rw [whole, readPayload_image]⟩
  · intro file bound after onward
    exact ((settled_of_bound bound).run orderly onward).2

/-- A run in which saves take turns, and the calls that were completed, in their
order. -/
inductive Completes (codec : SnapshotCodec T) (path : Text) (payloads : Nat → T)
    (initial : FileSystem Text) : List Nat → SaveState → Prop
  | initially : Completes codec path payloads initial [] (start initial)
  | step {completed call label state after}
      (before : Completes codec path payloads initial completed state)
      (turn : state.TakesTurns call label)
      (stepEq : state.step codec path payloads call label = some after) :
      Completes codec path payloads initial
        (if after.calls call = .done then completed ++ [call] else completed) after

section Completes

variable {completed : List Nat}

theorem Completes.run (completes : Completes codec path payloads initial completed state) :
    Run codec path payloads TakesTurns (start initial) state := by
  induction completes with
  | initially => exact .refl
  | step before turn stepEq ih => exact ih.step turn stepEq

theorem Completes.read_eq
    (completes : Completes codec path payloads initial completed state) :
    state.fs.read path =
      (completed.getLast?.map fun call => codec.image (payloads call)).or
        (initial.read path) := by
  induction completes with
  | initially => rfl
  | @step completed call label state after before turn stepEq ih =>
      have orderly := (orderly_start initial).run before.run
      rw [orderly.read_step (stepTo_of_step stepEq)]
      split_ifs with isDone
      · rw [List.getLast?_concat, Option.map_some, Option.some_or]
      · exact ih

theorem Completes.onward {call : Nat} {label : SaveStep}
    (completes : Completes codec path payloads initial completed state)
    (turn : state.TakesTurns call label)
    (stepTo : StepTo codec path payloads state call label after)
    (unfinished : after.calls call ≠ .done) :
    Completes codec path payloads initial completed after := by
  have next := completes.step turn stepTo.step_eq
  rwa [if_neg unfinished] at next

theorem Completes.save {call : Nat}
    (completes : Completes codec path payloads initial completed state)
    (isReady : state.calls call = .ready)
    (alone : ∀ other, other ≠ call → ¬(state.calls other).InProgress) :
    ∃ after, Completes codec path payloads initial (completed ++ [call]) after ∧
      ∀ other, other ≠ call → after.calls other = state.calls other := by
  let size := (codec.image (payloads call)).length
  have created := completes.onward (fun _ => alone) (.create isReady) (by simp)
  have written := created.onward (fun isCreate => by cases isCreate)
    (.write _ 0 size (calls_enter _ _) (Nat.zero_add size).le) (by simp)
  rw [Nat.zero_add] at written
  have flushed := written.onward (fun isCreate => by cases isCreate)
    (.flush _ (calls_enter _ _)) (by simp)
  have orderly := (orderly_start initial).run flushed.run
  obtain ⟨file, bound, -⟩ := FileSystem.read_eq_some_iff.mp
    (orderly.flushed call (calls_enter _ _))
  obtain ⟨fs, renamed⟩ := FileSystem.exists_rename bound path
  have saved := flushed.step (fun isCreate => by cases isCreate)
    (StepTo.rename fs (calls_enter _ _) renamed).step_eq
  rw [calls_enter, if_pos rfl] at saved
  refine ⟨_, saved, fun other different => ?_⟩
  rw [calls_enter_of_ne different, calls_enter_of_ne different,
    calls_enter_of_ne different, calls_enter_of_ne different]

end Completes

section Race

/-- Payloads that are bytes already. -/
def plainCodec : SnapshotCodec Bytes where
  serialize := id
  deserialize := some
  compress := id
  decompress := some
  deserialize_serialize _ := rfl
  decompress_compress _ := rfl

def noFiles : FileSystem Text where
  names _ := none
  contents _ := []
  next := 0
  known _ _ bound := by cases bound
  single _ _ _ bound := by cases bound

def cachePath : Text := ['c', 'a', 'c', 'h', 'e']

/-- One step of a call that saves the byte 7. -/
abbrev saveSeven (state : SaveState) (label : Nat × SaveStep) :
    Option SaveState :=
  state.step plainCodec cachePath (fun _ => [7]) label.1 label.2

theorem Run.foldlM {allowed : SaveState → Nat → SaveStep → Prop}
    {before : SaveState} {labels : List (Nat × SaveStep)}
    (run : Run plainCodec cachePath (fun _ => [7]) allowed before state)
    (always : ∀ label ∈ labels, ∀ state : SaveState,
      allowed state label.1 label.2)
    (stepsEq : labels.foldlM saveSeven state = some after) :
    Run plainCodec cachePath (fun _ => [7]) allowed before after := by
  induction labels generalizing state with
  | nil =>
      cases stepsEq
      exact run
  | cons label labels ih =>
      rw [List.foldlM_cons, Option.bind_eq_bind, Option.bind_eq_some_iff]
        at stepsEq
      obtain ⟨middle, stepEq, rest⟩ := stepsEq
      exact ih (run.step (always label List.mem_cons_self state) stepEq)
        (fun other member => always other (List.mem_cons_of_mem label member)) rest

theorem snapshots_whole_single :
    ∃ state, state.fs.read cachePath = some (plainCodec.image [7]) ∧
      Whole plainCodec cachePath (fun _ => [7]) noFiles state ∧
      ∀ file, state.fs.names cachePath = some file → ∀ after,
        Run plainCodec cachePath (fun _ => [7]) TakesTurns state after →
          after.fs.contents file = state.fs.contents file := by
  obtain ⟨created, createEq⟩ : ∃ created,
      (start noFiles).step plainCodec cachePath (fun _ => [7]) 0 .create =
        some created := ⟨_, rfl⟩
  obtain ⟨state, stepsEq, saved⟩ : ∃ state,
      [(0, .write 9), (0, .flush), (0, .rename)].foldlM saveSeven created =
        some state ∧
      state.fs.read cachePath = some (plainCodec.image [7]) := by
    cases createEq
    exact ⟨_, rfl, rfl⟩
  refine ⟨state, saved, snapshots_whole plainCodec cachePath (fun _ => [7])
    noFiles state ?_⟩
  refine Run.foldlM (Run.refl.step ?_ createEq) ?_ stepsEq
  · exact fun _ _ _ inProgress => inProgress
  · intro label member state isCreate
    simp at member
    rcases member with rfl | rfl | rfl
    · cases isCreate
    · cases isCreate
    · cases isCreate

/-- The second call truncates the file that the first one then renames. -/
theorem racingSaves_tear :
    ∃ state, Run plainCodec cachePath (fun _ => [7]) (fun _ _ _ => True)
        (start noFiles) state ∧
      state.fs.read cachePath = some [] ∧
      readPayload plainCodec cachePath (state.fs.read cachePath) =
        .error (.io cachePath) ∧
      ¬Whole plainCodec cachePath (fun _ => [7]) noFiles state := by
  obtain ⟨state, stepsEq, torn⟩ : ∃ state,
      [(0, .create), (0, .write 9), (0, .flush), (1, .create),
        (0, .rename)].foldlM saveSeven (start noFiles) = some state ∧
      state.fs.read cachePath = some [] := ⟨_, rfl, rfl⟩
  refine ⟨state, Run.refl.foldlM (fun _ _ _ => trivial) stepsEq, torn, ?_, ?_⟩
  · rw [torn]
    rfl
  · rintro (before | ⟨call, -, whole, -⟩)
    · rw [torn] at before
      cases before
    · rw [torn] at whole
      cases whole

end Race

end SaveState

end Storage

end SolanaProtocols
