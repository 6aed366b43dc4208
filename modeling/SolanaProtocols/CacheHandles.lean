import Mathlib.Data.Finset.Card
import Mathlib.Logic.Function.Basic

/-!
# Handles to the cache

Handles share one cache, and the last one that is dropped persists it.  A drop
looks at the count of handles first and gives its own count back last, so drops can
overlap.  At most one of them persists, and only two that overlap at the very end
or a save that fails can leave the cache unsaved.
-/

namespace SolanaProtocols

namespace Storage

/-- How far the drop of a handle has come.  A handle that is live is borrowed by the
saves that were asked for through it. -/
inductive HandleStage
  | unmade
  | live (saves : Nat)
  | last
  | persisting
  | leaving
  | gone
deriving DecidableEq, Repr

namespace HandleStage

/-- A handle that is counted. -/
def Held : HandleStage → Prop
  | unmade => False
  | live _ => True
  | last => True
  | persisting => True
  | leaving => True
  | gone => False

/-- A handle that can still be used. -/
def IsLive : HandleStage → Prop
  | live _ => True
  | _ => False

theorem IsLive.held {stage : HandleStage} (isLive : stage.IsLive) :
    stage.Held := by
  cases stage with
  | live saves => trivial
  | unmade => exact isLive
  | last => trivial
  | persisting => trivial
  | leaving => trivial
  | gone => exact isLive

end HandleStage

/-- What is done with a handle.  A drop checks whether it is the last one, takes the
flag, persists, which can fail, and releases its count. -/
inductive HandleOp (D : Type)
  | clone (made : Nat)
  | write (data : D)
  | saveStart
  | saveEnd
  | check
  | take
  | persist (succeeds : Bool)
  | release

/-- A cache with its handles.  The list has what drops persisted. -/
structure HandleState (D : Type) where
  data : D
  stages : Nat → HandleStage
  strongCount : Nat
  persisted : Bool
  persists : List D

namespace HandleState

variable {D : Type}

/-- A new cache, with one handle. -/
def start (data : D) : HandleState D where
  data := data
  stages handle := if handle = 0 then .live 0 else .unmade
  strongCount := 1
  persisted := false
  persists := []

def enter (state : HandleState D) (handle : Nat) (stage : HandleStage) : HandleState D :=
  { state with stages := Function.update state.stages handle stage }

def isLastHandle (state : HandleState D) : Bool :=
  state.strongCount = 1

/-- One step with a handle.  What borrows a handle keeps it from being dropped. -/
def step (persistOnDrop : Bool) (state : HandleState D) (handle : Nat) :
    HandleOp D → Option (HandleState D)
  | .clone made =>
      match state.stages handle, state.stages made with
      | .live _, .unmade =>
          some { state.enter made (.live 0) with strongCount := state.strongCount + 1 }
      | _, _ => none
  | .write data =>
      match state.stages handle with
      | .live _ => some { state with data := data }
      | _ => none
  | .saveStart =>
      match state.stages handle with
      | .live saves => some (state.enter handle (.live (saves + 1)))
      | _ => none
  | .saveEnd =>
      match state.stages handle with
      | .live (saves + 1) => some (state.enter handle (.live saves))
      | _ => none
  | .check =>
      match state.stages handle with
      | .live 0 =>
          some (state.enter handle (if state.isLastHandle then .last else .leaving))
      | _ => none
  | .take =>
      match state.stages handle with
      | .last =>
          if !persistOnDrop then some (state.enter handle .leaving)
          else if state.persisted then some (state.enter handle .leaving)
          else some { state.enter handle .persisting with persisted := true }
      | _ => none
  | .persist succeeds =>
      match state.stages handle with
      | .persisting =>
          if succeeds then
            some { state.enter handle .leaving with persists := state.data :: state.persists }
          -- The error is logged, and the flag stays taken.
          else some (state.enter handle .leaving)
      | _ => none
  | .release =>
      match state.stages handle with
      | .leaving =>
          some { state.enter handle .gone with strongCount := state.strongCount - 1 }
      | _ => none

/-- Steps one after another, in any order of the handles. -/
def runAll (persistOnDrop : Bool) (state : HandleState D)
    (steps : List (Nat × HandleOp D)) : Option (HandleState D) :=
  steps.foldlM (fun state (handle, op) => state.step persistOnDrop handle op) state

/-- All that a step can do. -/
inductive StepTo (persistOnDrop : Bool) (state : HandleState D) (handle : Nat) :
    HandleOp D → HandleState D → Prop
  | clone {saves} (made) (isLive : state.stages handle = .live saves)
      (isNew : state.stages made = .unmade) :
      StepTo persistOnDrop state handle (.clone made)
        { state.enter made (.live 0) with strongCount := state.strongCount + 1 }
  | write {saves} (data) (isLive : state.stages handle = .live saves) :
      StepTo persistOnDrop state handle (.write data) { state with data := data }
  | saveStart {saves} (isLive : state.stages handle = .live saves) :
      StepTo persistOnDrop state handle .saveStart
        (state.enter handle (.live (saves + 1)))
  | saveEnd {saves} (isLive : state.stages handle = .live (saves + 1)) :
      StepTo persistOnDrop state handle .saveEnd (state.enter handle (.live saves))
  | lastOne (isLive : state.stages handle = .live 0) (alone : state.strongCount = 1) :
      StepTo persistOnDrop state handle .check (state.enter handle .last)
  | notLast (isLive : state.stages handle = .live 0) (others : state.strongCount ≠ 1) :
      StepTo persistOnDrop state handle .check (state.enter handle .leaving)
  | noPath (isLast : state.stages handle = .last) (unset : persistOnDrop = false) :
      StepTo persistOnDrop state handle .take (state.enter handle .leaving)
  | already (isLast : state.stages handle = .last) (isSet : persistOnDrop = true)
      (taken : state.persisted = true) :
      StepTo persistOnDrop state handle .take (state.enter handle .leaving)
  | take (isLast : state.stages handle = .last) (isSet : persistOnDrop = true)
      (free : state.persisted = false) :
      StepTo persistOnDrop state handle .take
        { state.enter handle .persisting with persisted := true }
  | persist (isPersisting : state.stages handle = .persisting) :
      StepTo persistOnDrop state handle (.persist true)
        { state.enter handle .leaving with persists := state.data :: state.persists }
  | saveFailed (isPersisting : state.stages handle = .persisting) :
      StepTo persistOnDrop state handle (.persist false) (state.enter handle .leaving)
  | release (isLeaving : state.stages handle = .leaving) :
      StepTo persistOnDrop state handle .release
        { state.enter handle .gone with strongCount := state.strongCount - 1 }

theorem stepTo_of_step {persistOnDrop : Bool} {state after : HandleState D}
    {handle : Nat} {op : HandleOp D}
    (stepEq : state.step persistOnDrop handle op = some after) :
    StepTo persistOnDrop state handle op after := by
  cases op with
  | clone made =>
      simp only [step] at stepEq
      split at stepEq
      next saves isLive isNew => cases stepEq; exact .clone made isLive isNew
      next => cases stepEq
  | write data =>
      simp only [step] at stepEq
      split at stepEq
      next saves isLive => cases stepEq; exact .write data isLive
      next => cases stepEq
  | saveStart =>
      simp only [step] at stepEq
      split at stepEq
      next saves isLive => cases stepEq; exact .saveStart isLive
      next => cases stepEq
  | saveEnd =>
      simp only [step] at stepEq
      split at stepEq
      next saves isLive => cases stepEq; exact .saveEnd isLive
      next => cases stepEq
  | check =>
      simp only [step] at stepEq
      split at stepEq
      next isLive =>
        cases stepEq
        by_cases alone : state.strongCount = 1
        · simpa [isLastHandle, alone] using .lastOne isLive alone
        · simpa [isLastHandle, alone] using .notLast isLive alone
      next => cases stepEq
  | take =>
      simp only [step] at stepEq
      split at stepEq
      next isLast =>
        split_ifs at stepEq with unset taken
        · cases stepEq; exact .noPath isLast (by simpa using unset)
        · cases stepEq; exact .already isLast (by simpa using unset) taken
        · cases stepEq
          exact .take isLast (by simpa using unset) (by simpa using taken)
      next => cases stepEq
  | persist succeeds =>
      simp only [step] at stepEq
      split at stepEq
      next isPersisting =>
        cases succeeds with
        | true => cases stepEq; exact .persist isPersisting
        | false => cases stepEq; exact .saveFailed isPersisting
      next => cases stepEq
  | release =>
      simp only [step] at stepEq
      split at stepEq
      next isLeaving => cases stepEq; exact .release isLeaving
      next => cases stepEq

section Invariant

variable {persistOnDrop : Bool} {state after : HandleState D} {handle : Nat}
  {op : HandleOp D}

theorem stages_enter (other : Nat) (stage : HandleStage) :
    (state.enter handle stage).stages other =
      if other = handle then stage else state.stages other :=
  Function.update_apply ..

theorem StepTo.held (stepTo : StepTo persistOnDrop state handle op after) :
    (state.stages handle).Held := by
  cases stepTo with
  | clone made isLive isNew => rw [isLive]; trivial
  | write data isLive => rw [isLive]; trivial
  | saveStart isLive => rw [isLive]; trivial
  | saveEnd isLive => rw [isLive]; trivial
  | lastOne isLive alone => rw [isLive]; trivial
  | notLast isLive others => rw [isLive]; trivial
  | noPath isLast unset => rw [isLast]; trivial
  | already isLast isSet taken => rw [isLast]; trivial
  | take isLast isSet free => rw [isLast]; trivial
  | persist isPersisting => rw [isPersisting]; trivial
  | saveFailed isPersisting => rw [isPersisting]; trivial
  | release isLeaving => rw [isLeaving]; trivial

/-- The count is the number of handles that are not gone. -/
def Counted (state : HandleState D) : Prop :=
  ∃ holders : Finset Nat, (∀ other, other ∈ holders ↔ (state.stages other).Held) ∧
    state.strongCount = holders.card

theorem counted_start (data : D) : Counted (start data) := by
  refine ⟨{0}, fun other => ?_, rfl⟩
  by_cases isFirst : other = 0
  · simp [isFirst, start, HandleStage.Held]
  · simp [isFirst, start, HandleStage.Held]

theorem Counted.enter (counted : Counted state) (held : (state.stages handle).Held)
    {stage : HandleStage} (stays : stage.Held) : Counted (state.enter handle stage) := by
  obtain ⟨holders, mem_iff, countEq⟩ := counted
  refine ⟨holders, fun other => ?_, countEq⟩
  rw [stages_enter, mem_iff]
  split_ifs with same
  · subst same
    exact iff_of_true held stays
  · rfl

theorem Counted.step (counted : Counted state)
    (stepTo : StepTo persistOnDrop state handle op after) : Counted after := by
  have held := stepTo.held
  cases stepTo with
  | clone made isLive isNew =>
      obtain ⟨holders, mem_iff, countEq⟩ := counted
      have fresh : made ∉ holders := by
        rw [mem_iff, isNew]
        exact id
      refine ⟨insert made holders, fun other => ?_, ?_⟩
      · simp only [stages_enter, Finset.mem_insert, mem_iff]
        split_ifs with same
        · exact iff_of_true (.inl same) trivial
        · simp [same]
      · rw [Finset.card_insert_of_notMem fresh, countEq]
  | write data isLive => exact counted
  | saveStart isLive => exact counted.enter held trivial
  | saveEnd isLive => exact counted.enter held trivial
  | lastOne isLive alone => exact counted.enter held trivial
  | notLast isLive others => exact counted.enter held trivial
  | noPath isLast unset => exact counted.enter held trivial
  | already isLast isSet taken => exact counted.enter held trivial
  | take isLast isSet free => exact counted.enter held trivial
  | persist isPersisting => exact counted.enter held trivial
  | saveFailed isPersisting => exact counted.enter held trivial
  | release isLeaving =>
      obtain ⟨holders, mem_iff, countEq⟩ := counted
      refine ⟨holders.erase handle, fun other => ?_, ?_⟩
      · simp only [stages_enter, Finset.mem_erase, mem_iff]
        split_ifs with same
        · exact iff_of_false (fun both => both.1 same) id
        · simp [same]
      · rw [Finset.card_erase_of_mem ((mem_iff handle).mpr held), countEq]

theorem Counted.alone (counted : Counted state) (held : (state.stages handle).Held)
    (single : state.strongCount = 1) {other : Nat} (different : other ≠ handle) :
    ¬(state.stages other).Held := by
  obtain ⟨holders, mem_iff, countEq⟩ := counted
  obtain ⟨only, rfl⟩ := Finset.card_eq_one.mp (countEq.symm.trans single)
  have isOnly := Finset.mem_singleton.mp ((mem_iff handle).mpr held)
  rw [← mem_iff, Finset.mem_singleton, ← isOnly]
  exact different

/-- A handle that saw itself as the last one, and may be persisting. -/
def IsLastOne (state : HandleState D) (handle : Nat) : Prop :=
  state.stages handle = .last ∨ state.stages handle = .persisting

/-- What every step of any handle keeps. -/
structure Coherent (state : HandleState D) : Prop where
  counted : Counted state
  alone : ∀ one, IsLastOne state one → ∀ other, other ≠ one →
    ¬(state.stages other).Held
  unpersisted : ∀ other, (state.stages other).IsLive ∨ IsLastOne state other →
    state.persists = []
  untaken : ∀ other, (state.stages other).IsLive ∨ state.stages other = .last →
    state.persisted = false
  saved : state.persists = [] ∨ state.persists = [state.data]

theorem coherent_start (data : D) : Coherent (start data) where
  counted := counted_start data
  alone one isLast := by
    simp only [IsLastOne, start] at isLast
    split_ifs at isLast
    · simp at isLast
    · simp at isLast
  unpersisted _ _ := rfl
  untaken _ _ := rfl
  saved := .inl rfl

theorem IsLastOne.held {one : Nat} (isLast : IsLastOne state one) :
    (state.stages one).Held := by
  rcases isLast with isLast | isPersisting
  · rw [isLast]; trivial
  · rw [isPersisting]; trivial

theorem Coherent.not_isLastOne (coherent : Coherent state)
    (usable : (state.stages handle).IsLive) (one : Nat) : ¬IsLastOne state one := by
  intro isLast
  have same : handle = one := by
    by_contra different
    exact coherent.alone one isLast handle different usable.held
  subst same
  rcases isLast with isLast | isPersisting
  · rw [isLast] at usable
    exact usable
  · rw [isPersisting] at usable
    exact usable

/-- One handle changes its stage, and maybe the count. -/
theorem Coherent.enter (coherent : Coherent state) (held : (state.stages handle).Held)
    {stage : HandleStage} {count : Nat}
    (counted : Counted { state.enter handle stage with strongCount := count })
    (alone : stage = .last ∨ stage = .persisting →
      ∀ other, other ≠ handle → ¬(state.stages other).Held)
    (unpersisted : stage.IsLive ∨ stage = .last ∨ stage = .persisting →
      state.persists = [])
    (untaken : stage.IsLive ∨ stage = .last → state.persisted = false) :
    Coherent { state.enter handle stage with strongCount := count } where
  counted := counted
  alone one isLast other different := by
    simp only [IsLastOne, stages_enter] at isLast
    simp only [stages_enter]
    by_cases same : one = handle
    · subst same
      rw [if_pos rfl] at isLast
      rw [if_neg different]
      exact alone isLast other different
    · rw [if_neg same] at isLast
      exact absurd held (coherent.alone one isLast handle (Ne.symm same))
  unpersisted other usable := by
    simp only [IsLastOne, stages_enter] at usable
    by_cases same : other = handle
    · rw [if_pos same] at usable
      exact unpersisted usable
    · rw [if_neg same] at usable
      exact coherent.unpersisted other usable
  untaken other usable := by
    simp only [stages_enter] at usable
    by_cases same : other = handle
    · rw [if_pos same] at usable
      exact untaken usable
    · rw [if_neg same] at usable
      exact coherent.untaken other usable
  saved := coherent.saved

/-- With one handle left, only that handle matters. -/
theorem coherent_of_alone (counted : Counted after)
    (others : ∀ other, other ≠ handle → ¬(after.stages other).Held)
    (unpersisted : (after.stages handle).IsLive ∨ IsLastOne after handle →
      after.persists = [])
    (untaken : (after.stages handle).IsLive ∨ after.stages handle = .last →
      after.persisted = false)
    (saved : after.persists = [] ∨ after.persists = [after.data]) : Coherent after where
  counted := counted
  alone one isLast other different := by
    have same : one = handle := by
      by_contra elsewhere
      exact others one elsewhere isLast.held
    subst same
    exact others other different
  unpersisted other usable := by
    have same : other = handle := by
      by_contra elsewhere
      exact others other elsewhere (usable.elim HandleStage.IsLive.held IsLastOne.held)
    subst same
    exact unpersisted usable
  untaken other usable := by
    have same : other = handle := by
      by_contra elsewhere
      exact others other elsewhere
        (usable.elim HandleStage.IsLive.held fun isLast => IsLastOne.held (.inl isLast))
    subst same
    exact untaken usable
  saved := saved

theorem Coherent.step (coherent : Coherent state)
    (stepTo : StepTo persistOnDrop state handle op after) : Coherent after := by
  have held := stepTo.held
  have counted := coherent.counted.step stepTo
  cases stepTo with
  | @clone saves made isLive isNew =>
      have usable : (state.stages handle).IsLive := by rw [isLive]; trivial
      refine ⟨counted, ?_, ?_, ?_, coherent.saved⟩
      · intro one isLast
        simp only [IsLastOne, stages_enter] at isLast
        split_ifs at isLast
        · simp at isLast
        · exact absurd isLast (coherent.not_isLastOne usable one)
      · exact fun _ _ => coherent.unpersisted handle (.inl usable)
      · exact fun _ _ => coherent.untaken handle (.inl usable)
  | @write saves data isLive =>
      have usable : (state.stages handle).IsLive := by rw [isLive]; trivial
      exact ⟨counted, coherent.alone, coherent.unpersisted, coherent.untaken,
        .inl (coherent.unpersisted handle (.inl usable))⟩
  | @saveStart saves isLive =>
      have usable : (state.stages handle).IsLive := by rw [isLive]; trivial
      exact coherent.enter held counted (by simp)
        (fun _ => coherent.unpersisted handle (.inl usable))
        (fun _ => coherent.untaken handle (.inl usable))
  | @saveEnd saves isLive =>
      have usable : (state.stages handle).IsLive := by rw [isLive]; trivial
      exact coherent.enter held counted (by simp)
        (fun _ => coherent.unpersisted handle (.inl usable))
        (fun _ => coherent.untaken handle (.inl usable))
  | lastOne isLive alone =>
      have usable : (state.stages handle).IsLive := by rw [isLive]; trivial
      exact coherent.enter held counted
        (fun _ other different => coherent.counted.alone held alone different)
        (fun _ => coherent.unpersisted handle (.inl usable))
        (fun _ => coherent.untaken handle (.inl usable))
  | notLast isLive others =>
      exact coherent.enter held counted (by simp) (by simp [HandleStage.IsLive])
        (by simp [HandleStage.IsLive])
  | noPath isLast unset =>
      exact coherent.enter held counted (by simp) (by simp [HandleStage.IsLive])
        (by simp [HandleStage.IsLive])
  | already isLast isSet taken =>
      exact coherent.enter held counted (by simp) (by simp [HandleStage.IsLive])
        (by simp [HandleStage.IsLive])
  | take isLast isSet free =>
      refine @coherent_of_alone _ _ handle counted ?_ ?_ ?_ coherent.saved
      · intro other different
        simp only [stages_enter, if_neg different]
        exact coherent.alone handle (.inl isLast) other different
      · exact fun _ => coherent.unpersisted handle (.inr (.inl isLast))
      · simp [stages_enter, HandleStage.IsLive]
  | persist isPersisting =>
      refine @coherent_of_alone _ _ handle counted ?_ ?_ ?_ (.inr ?_)
      · intro other different
        simp only [stages_enter, if_neg different]
        exact coherent.alone handle (.inr isPersisting) other different
      · simp [IsLastOne, stages_enter, HandleStage.IsLive]
      · simp [stages_enter, HandleStage.IsLive]
      · rw [coherent.unpersisted handle (.inr (.inr isPersisting))]
        rfl
  | saveFailed isPersisting =>
      exact coherent.enter held counted (by simp) (by simp [HandleStage.IsLive])
        (by simp [HandleStage.IsLive])
  | release isLeaving =>
      exact coherent.enter held counted (by simp) (by simp [HandleStage.IsLive])
        (by simp [HandleStage.IsLive])

theorem runAll_cons {first : Nat × HandleOp D} {steps : List (Nat × HandleOp D)} :
    state.runAll persistOnDrop (first :: steps) = some after ↔
      ∃ middle, state.step persistOnDrop first.1 first.2 = some middle ∧
        middle.runAll persistOnDrop steps = some after := by
  rw [runAll, List.foldlM_cons]
  exact Option.bind_eq_some_iff

theorem Coherent.runAll (coherent : Coherent state) {steps : List (Nat × HandleOp D)}
    (reached : state.runAll persistOnDrop steps = some after) : Coherent after := by
  induction steps generalizing state with
  | nil =>
      cases reached
      exact coherent
  | cons first steps ih =>
      obtain ⟨middle, stepEq, rest⟩ := runAll_cons.mp reached
      exact ih (coherent.step (stepTo_of_step stepEq)) rest

/-- Some handle can still be used, or is about to persist. -/
def Usable (state : HandleState D) : Prop :=
  ∃ one, (state.stages one).IsLive ∨ IsLastOne state one

/-- Nothing happens to the data and what was persisted when only counts are to be
given back. -/
theorem not_usable_step (unusable : ¬Usable state)
    (stepTo : StepTo persistOnDrop state handle op after) :
    ¬Usable after ∧ after.data = state.data ∧ after.persists = state.persists := by
  have notLive : ¬(state.stages handle).IsLive := fun isLive =>
    unusable ⟨handle, .inl isLive⟩
  have notLast : ¬IsLastOne state handle := fun isLast => unusable ⟨handle, .inr isLast⟩
  cases stepTo with
  | clone made isLive isNew => rw [isLive] at notLive; exact absurd trivial notLive
  | write data isLive => rw [isLive] at notLive; exact absurd trivial notLive
  | saveStart isLive => rw [isLive] at notLive; exact absurd trivial notLive
  | saveEnd isLive => rw [isLive] at notLive; exact absurd trivial notLive
  | lastOne isLive alone => rw [isLive] at notLive; exact absurd trivial notLive
  | notLast isLive others => rw [isLive] at notLive; exact absurd trivial notLive
  | noPath isLast unset => exact absurd (.inl isLast) notLast
  | already isLast isSet taken => exact absurd (.inl isLast) notLast
  | take isLast isSet free => exact absurd (.inl isLast) notLast
  | persist isPersisting => exact absurd (.inr isPersisting) notLast
  | saveFailed isPersisting => exact absurd (.inr isPersisting) notLast
  | release isLeaving =>
      refine ⟨?_, rfl, rfl⟩
      rintro ⟨one, usable⟩
      simp only [IsLastOne, stages_enter] at usable
      split_ifs at usable with same
      · simp [HandleStage.IsLive] at usable
      · exact unusable ⟨one, usable⟩

theorem not_usable_runAll (unusable : ¬Usable state)
    {steps : List (Nat × HandleOp D)}
    (reached : state.runAll persistOnDrop steps = some after) :
    ¬Usable after ∧ after.data = state.data ∧ after.persists = state.persists := by
  induction steps generalizing state with
  | nil =>
      cases reached
      exact ⟨unusable, rfl, rfl⟩
  | cons first steps ih =>
      obtain ⟨middle, stepEq, rest⟩ := runAll_cons.mp reached
      obtain ⟨stillNot, sameData, samePersists⟩ :=
        not_usable_step unusable (stepTo_of_step stepEq)
      obtain ⟨finallyNot, dataEq, persistsEq⟩ := ih stillNot rest
      exact ⟨finallyNot, dataEq.trans sameData, persistsEq.trans samePersists⟩

/-- The handle is the last one in use, and another is still giving back its count. -/
structure OverlapsAtEnd (state : HandleState D) (handle : Nat) : Prop where
  inUse : state.stages handle = .live 0
  unused : ∀ other, other ≠ handle → ¬(state.stages other).IsLive
  leaving : ∃ other, other ≠ handle ∧ state.stages other = .leaving

/-- A handle that does not see itself as the last one, though no other is in use. -/
theorem Coherent.overlapsAtEnd (coherent : Coherent state)
    (isLive : state.stages handle = .live 0) (others : state.strongCount ≠ 1)
    (unused : ∀ other, other ≠ handle → ¬(state.stages other).IsLive) :
    OverlapsAtEnd state handle := by
  have usable : (state.stages handle).IsLive := by rw [isLive]; trivial
  obtain ⟨holders, mem_iff, countEq⟩ := coherent.counted
  have member : handle ∈ holders := (mem_iff handle).mpr usable.held
  obtain ⟨other, isHolder, different⟩ : ∃ other ∈ holders, other ≠ handle := by
    by_contra none
    have single : holders = {handle} := Finset.eq_singleton_iff_unique_mem.mpr
      ⟨member, fun other isHolder => by_contra fun different =>
        none ⟨other, isHolder, different⟩⟩
    exact others (by rw [countEq, single, Finset.card_singleton])
  refine ⟨isLive, unused, other, different, ?_⟩
  have held := (mem_iff other).mp isHolder
  have notLive := unused other different
  have notLast := coherent.not_isLastOne usable other
  cases stage : state.stages other with
  | unmade => rw [stage] at held; exact held.elim
  | live saves => rw [stage] at notLive; exact absurd trivial notLive
  | last => exact absurd (.inl stage) notLast
  | persisting => exact absurd (.inr stage) notLast
  | leaving => rfl
  | gone => rw [stage] at held; exact held.elim

/-- A step that leaves a cache unsaved for good: two drops overlap at the end, or
the save of the last one fails. -/
def Loses (state : HandleState D) (handle : Nat) (op : HandleOp D) : Prop :=
  (op = .check ∧ OverlapsAtEnd state handle) ∨ op = .persist false

/-- A cache that is in use stays so until it is persisted or lost. -/
theorem usable_step (coherent : Coherent state) (usable : Usable state)
    (stepTo : StepTo true state handle op after) :
    Usable after ∨ after.persists ≠ [] ∨ Loses state handle op := by
  cases stepTo with
  | clone made isLive isNew =>
      refine .inl ⟨made, .inl ?_⟩
      simp only [stages_enter, if_true]
      trivial
  | write data isLive => exact .inl usable
  | saveStart isLive =>
      refine .inl ⟨handle, .inl ?_⟩
      rw [stages_enter, if_pos rfl]
      trivial
  | saveEnd isLive =>
      refine .inl ⟨handle, .inl ?_⟩
      rw [stages_enter, if_pos rfl]
      trivial
  | lastOne isLive alone =>
      refine .inl ⟨handle, .inr (.inl ?_)⟩
      rw [stages_enter, if_pos rfl]
  | notLast isLive others =>
      by_cases unused : ∀ other, other ≠ handle → ¬(state.stages other).IsLive
      · exact .inr (.inr (.inl ⟨rfl, coherent.overlapsAtEnd isLive others unused⟩))
      · simp only [not_forall, not_not] at unused
        obtain ⟨other, different, isLive⟩ := unused
        refine .inl ⟨other, .inl ?_⟩
        rw [stages_enter, if_neg different]
        exact isLive
  | noPath isLast unset => cases unset
  | already isLast isSet taken =>
      rw [coherent.untaken handle (.inr isLast)] at taken
      cases taken
  | take isLast isSet free =>
      refine .inl ⟨handle, .inr (.inr ?_)⟩
      simp only [stages_enter, if_true]
  | persist isPersisting => exact .inr (.inl (List.cons_ne_nil _ _))
  | saveFailed isPersisting => exact .inr (.inr (.inr rfl))
  | release isLeaving =>
      obtain ⟨one, usable⟩ := usable
      have different : one ≠ handle := by
        rintro rfl
        simp [IsLastOne, isLeaving, HandleStage.IsLive] at usable
      refine .inl ⟨one, ?_⟩
      simp only [IsLastOne, stages_enter, if_neg different]
      exact usable

theorem OverlapsAtEnd.step (overlaps : OverlapsAtEnd state handle)
    (coherent : Coherent state)
    (stepTo : StepTo persistOnDrop state handle .check after) :
    ¬Usable after ∧ after.persists = [] := by
  have usable : (state.stages handle).IsLive := by rw [overlaps.inUse]; trivial
  cases stepTo with
  | lastOne isLive alone =>
      obtain ⟨other, different, isLeaving⟩ := overlaps.leaving
      have unheld := coherent.counted.alone usable.held alone different
      rw [isLeaving] at unheld
      exact absurd trivial unheld
  | notLast isLive others =>
      refine ⟨?_, coherent.unpersisted handle (.inl usable)⟩
      rintro ⟨one, oneUsable⟩
      simp only [IsLastOne, stages_enter] at oneUsable
      split_ifs at oneUsable with same
      · simp [HandleStage.IsLive] at oneUsable
      · exact oneUsable.elim (overlaps.unused one same)
          (coherent.not_isLastOne usable one)

theorem saveFailed_step (coherent : Coherent state)
    (stepTo : StepTo persistOnDrop state handle (.persist false) after) :
    ¬Usable after ∧ after.persists = [] := by
  cases stepTo with
  | saveFailed isPersisting =>
      have isLast : IsLastOne state handle := .inr isPersisting
      refine ⟨?_, coherent.unpersisted handle (.inr isLast)⟩
      rintro ⟨one, usable⟩
      simp only [IsLastOne, stages_enter] at usable
      split_ifs at usable with same
      · simp [HandleStage.IsLive] at usable
      · exact coherent.alone handle isLast one same
          (usable.elim HandleStage.IsLive.held IsLastOne.held)

theorem Loses.step (loses : Loses state handle op) (coherent : Coherent state)
    (stepTo : StepTo persistOnDrop state handle op after) :
    ¬Usable after ∧ after.persists = [] := by
  rcases loses with ⟨rfl, overlaps⟩ | rfl
  · exact overlaps.step coherent stepTo
  · exact saveFailed_step coherent stepTo

theorem Loses.usable (loses : Loses state handle op)
    (stepTo : StepTo persistOnDrop state handle op after) : Usable state := by
  rcases loses with ⟨rfl, overlaps⟩ | rfl
  · refine ⟨handle, .inl ?_⟩
    rw [overlaps.inUse]
    trivial
  · cases stepTo with
    | saveFailed isPersisting => exact ⟨handle, .inr (.inr isPersisting)⟩

/-- At some point of a run, the last handle in use is dropped while another drop is
still giving back its count. -/
def DropsOverlap (state : HandleState D) (steps : List (Nat × HandleOp D)) : Prop :=
  ∃ before one rest middle, steps = before ++ (one, .check) :: rest ∧
    state.runAll true before = some middle ∧ OverlapsAtEnd middle one

/-- At some point of a run, the save of a drop fails. -/
def SaveFails (steps : List (Nat × HandleOp D)) : Prop :=
  ∃ one, (one, .persist false) ∈ steps

theorem dropsOverlap_cons {middle : HandleState D}
    (stepEq : state.step true handle op = some middle)
    {steps : List (Nat × HandleOp D)} :
    DropsOverlap state ((handle, op) :: steps) ↔
      (op = .check ∧ OverlapsAtEnd state handle) ∨ DropsOverlap middle steps := by
  constructor
  · rintro ⟨before, one, rest, reached, split, ran, overlaps⟩
    cases before with
    | nil =>
        cases split
        cases ran
        exact .inl ⟨rfl, overlaps⟩
    | cons first before =>
        rw [List.cons_append, List.cons.injEq] at split
        obtain ⟨rfl, rfl⟩ := split
        obtain ⟨other, otherEq, ran⟩ := runAll_cons.mp ran
        cases otherEq.symm.trans stepEq
        exact .inr ⟨before, one, rest, reached, rfl, ran, overlaps⟩
  · rintro (⟨rfl, overlaps⟩ | ⟨before, one, rest, reached, rfl, ran, overlaps⟩)
    · exact ⟨[], handle, steps, state, rfl, rfl, overlaps⟩
    · exact ⟨(handle, op) :: before, one, rest, reached, rfl,
        runAll_cons.mpr ⟨middle, stepEq, ran⟩, overlaps⟩

theorem saveFails_cons {steps : List (Nat × HandleOp D)} :
    SaveFails ((handle, op) :: steps) ↔ op = .persist false ∨ SaveFails steps := by
  simp only [SaveFails, List.mem_cons, Prod.mk.injEq, exists_or, eq_comm,
    exists_eq_left']

theorem lost_cons {middle : HandleState D}
    (stepEq : state.step true handle op = some middle)
    {steps : List (Nat × HandleOp D)} :
    DropsOverlap state ((handle, op) :: steps) ∨ SaveFails ((handle, op) :: steps) ↔
      Loses state handle op ∨ DropsOverlap middle steps ∨ SaveFails steps := by
  rw [dropsOverlap_cons stepEq, saveFails_cons, Loses]
  tauto

theorem not_lost (unusable : ¬Usable state) {steps : List (Nat × HandleOp D)}
    (reached : state.runAll true steps = some after) :
    ¬(DropsOverlap state steps ∨ SaveFails steps) := by
  induction steps generalizing state with
  | nil =>
      rintro (⟨before, one, rest, middle, split, -⟩ | ⟨one, member⟩)
      · simp at split
      · cases member
  | cons first steps ih =>
      obtain ⟨one, op⟩ := first
      obtain ⟨middle, stepEq, rest⟩ := runAll_cons.mp reached
      have stepTo := stepTo_of_step stepEq
      rw [lost_cons stepEq]
      exact not_or_intro (fun loses => unusable (loses.usable stepTo))
        (ih (not_usable_step unusable stepTo).1 rest)

/-- A cache that nobody uses any more was persisted, unless drops overlapped or the
save failed. -/
theorem Coherent.persists_eq_nil_iff (coherent : Coherent state)
    (usable : Usable state) {steps : List (Nat × HandleOp D)}
    (reached : state.runAll true steps = some after) (unusable : ¬Usable after) :
    after.persists = [] ↔ DropsOverlap state steps ∨ SaveFails steps := by
  induction steps generalizing state with
  | nil =>
      cases reached
      exact absurd usable unusable
  | cons first steps ih =>
      obtain ⟨one, op⟩ := first
      obtain ⟨middle, stepEq, rest⟩ := runAll_cons.mp reached
      have stepTo := stepTo_of_step stepEq
      have coherentMiddle := coherent.step stepTo
      rw [lost_cons stepEq]
      have notLost (kept : Usable middle ∨ middle.persists ≠ []) : ¬Loses state one op := by
        intro loses
        obtain ⟨unusableMiddle, unpersisted⟩ := loses.step coherent stepTo
        exact kept.elim unusableMiddle fun persisted => persisted unpersisted
      rcases usable_step coherent usable stepTo with stillUsable | persisted | loses
      · rw [or_iff_right (notLost (.inl stillUsable))]
        exact ih coherentMiddle stillUsable rest
      · have unusableMiddle : ¬Usable middle := fun ⟨other, otherUsable⟩ =>
          persisted (coherentMiddle.unpersisted other otherUsable)
        rw [(not_usable_runAll unusableMiddle rest).2.2]
        exact iff_of_false persisted
          (not_or_intro (notLost (.inr persisted)) (not_lost unusableMiddle rest))
      · obtain ⟨unusableMiddle, unpersisted⟩ := loses.step coherent stepTo
        rw [(not_usable_runAll unusableMiddle rest).2.2]
        exact iff_of_true unpersisted (.inl loses)

/-- What holds whenever a drop is about to persist or has persisted. -/
structure PersistsOnce (persistOnDrop : Bool) (state : HandleState D) : Prop where
  counted : Counted state
  once : state.persists = [] ∨ state.persists = [state.data]
  unguarded : ∀ one, state.stages one = .last → state.persisted = false
  alone : ∀ one, IsLastOne state one → ∀ other, other ≠ one →
    ¬(state.stages other).Held
  final : state.persists ≠ [] → ∀ steps after,
    state.runAll persistOnDrop steps = some after →
      after.data = state.data ∧ after.persists = state.persists

/-- Whatever handles do in whatever order: at most one drop persists, what it
persists is what the cache holds from then on, no other handle is counted while it
does, so nobody writes or saves, and no drop finds the flag taken. -/
theorem drops_persist_once (persistOnDrop : Bool) (data : D)
    (steps : List (Nat × HandleOp D)) (state : HandleState D)
    (reached : (start data).runAll persistOnDrop steps = some state) :
    PersistsOnce persistOnDrop state := by
  have coherent := (coherent_start data).runAll reached
  refine ⟨coherent.counted, coherent.saved, fun one isLast =>
    coherent.untaken one (.inr isLast), coherent.alone, ?_⟩
  intro persisted later after ran
  have unusable : ¬Usable state := fun ⟨other, otherUsable⟩ =>
    persisted (coherent.unpersisted other otherUsable)
  exact (not_usable_runAll unusable ran).2

/-- Once all handles are gone the cache was persisted as it is, or two drops
overlapped at the end or the save of the last one failed, and nothing was persisted. -/
theorem drops_persist_iff (data : D) (steps : List (Nat × HandleOp D))
    (state : HandleState D) (reached : (start data).runAll true steps = some state)
    (allGone : state.strongCount = 0) :
    (state.persists = [] ↔ DropsOverlap (start data) steps ∨ SaveFails steps) ∧
      (state.persists = [state.data] ↔
        ¬DropsOverlap (start data) steps ∧ ¬SaveFails steps) := by
  have coherent := (coherent_start data).runAll reached
  have startUsable : Usable (start data) := ⟨0, .inl trivial⟩
  have unusable : ¬Usable state := by
    rintro ⟨one, usable⟩
    obtain ⟨holders, mem_iff, countEq⟩ := coherent.counted
    have member := (mem_iff one).mpr
      (usable.elim HandleStage.IsLive.held IsLastOne.held)
    rw [Finset.card_eq_zero.mp (countEq.symm.trans allGone)] at member
    exact Finset.notMem_empty one member
  have iff := (coherent_start data).persists_eq_nil_iff startUsable reached unusable
  refine ⟨iff, ?_⟩
  rw [← not_or, ← iff]
  constructor
  · intro persisted none
    rw [none] at persisted
    cases persisted
  · exact coherent.saved.resolve_left

section Examples

/-- A clone is dropped, and then the first handle. -/
def oneByOne : List (Nat × HandleOp Nat) :=
  [(0, .clone 1), (1, .write 7), (1, .check), (1, .release), (0, .check), (0, .take),
    (0, .persist true), (0, .release)]

/-- Both handles are dropped before one has given back its count. -/
def bothAtOnce : List (Nat × HandleOp Nat) :=
  [(0, .clone 1), (1, .write 7), (1, .check), (0, .check), (1, .release), (0, .release)]

/-- One handle is dropped, and its save fails. -/
def failing : List (Nat × HandleOp Nat) :=
  [(0, .check), (0, .take), (0, .persist false), (0, .release)]

theorem drops_persist_once_oneByOne :
    ∃ state, (start 5).runAll true oneByOne = some state ∧ PersistsOnce true state := by
  obtain ⟨state, reached⟩ :
      ∃ state, (start 5).runAll true oneByOne = some state := ⟨_, rfl⟩
  exact ⟨state, reached, drops_persist_once true 5 oneByOne state reached⟩

/-- The drops of one order overlap at the end, those of the others do not, and the
save of the last one fails. -/
theorem drops_persist_iff_orders :
    (¬DropsOverlap (start 5) oneByOne ∧ ¬SaveFails oneByOne) ∧
      (DropsOverlap (start 5) bothAtOnce ∨ SaveFails bothAtOnce) ∧
        (DropsOverlap (start 5) failing ∨ SaveFails failing) := by
  obtain ⟨saved, reached, gone, persisted⟩ : ∃ state,
      (start 5).runAll true oneByOne = some state ∧ state.strongCount = 0 ∧
        state.persists = [state.data] := ⟨_, rfl, rfl, rfl⟩
  obtain ⟨unsaved, reached', gone', skipped⟩ : ∃ state,
      (start 5).runAll true bothAtOnce = some state ∧ state.strongCount = 0 ∧
        state.persists = [] := ⟨_, rfl, rfl, rfl⟩
  obtain ⟨failed, reached'', gone'', lost⟩ : ∃ state,
      (start 5).runAll true failing = some state ∧ state.strongCount = 0 ∧
        state.persists = [] := ⟨_, rfl, rfl, rfl⟩
  exact ⟨(drops_persist_iff 5 oneByOne saved reached gone).2.mp persisted,
    (drops_persist_iff 5 bothAtOnce unsaved reached' gone').1.mp skipped,
    (drops_persist_iff 5 failing failed reached'' gone'').1.mp lost⟩

end Examples

end Invariant

end HandleState

end Storage

end SolanaProtocols
