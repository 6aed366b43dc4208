import SolanaProtocols.FileSystem

/-!
# Files written once

A list of named contents is written to files, leaving out every name that is
bound already.  All of them are written exactly where the names are different
and none is bound before; written again, nothing changes.
-/

namespace SolanaProtocols

namespace FileSystem

variable {Path : Type*}

/-- No files. -/
def empty : FileSystem Path where
  names _ := none
  contents _ := []
  next := 0
  known _ _ bound := by cases bound
  single _ _ _ bound := by cases bound

/-- Whether a path is bound. -/
def Exists (fs : FileSystem Path) (path : Path) : Prop :=
  fs.names path ≠ none

instance (fs : FileSystem Path) (path : Path) : Decidable (fs.Exists path) :=
  inferInstanceAs (Decidable (fs.names path ≠ none))

theorem exists_iff_read {fs : FileSystem Path} {path : Path} :
    fs.Exists path ↔ fs.read path ≠ none := by
  rw [Exists, read, ne_eq, ne_eq, Option.map_eq_none_iff]

variable [DecidableEq Path]

/-- Write contents to a path. -/
def write (fs : FileSystem Path) (path : Path) (bytes : List UInt8) : FileSystem Path :=
  (fs.create path).1.writeAt (fs.create path).2 0 bytes

/-- Write to a path unless it is bound, and count what is written. -/
def writeNew (state : FileSystem Path × Nat) (path : Path) (bytes : List UInt8) :
    FileSystem Path × Nat :=
  if state.1.Exists path then state else (state.1.write path bytes, state.2 + 1)

/-- Write each of some contents once. -/
def writeOnce (state : FileSystem Path × Nat) (items : List (Path × List UInt8)) :
    FileSystem Path × Nat :=
  items.foldl (fun state item => writeNew state item.1 item.2) state

variable {fs : FileSystem Path} {path other : Path} {bytes : List UInt8}
  {count : Nat} {items : List (Path × List UInt8)}

theorem read_write : (fs.write path bytes).read path = some bytes := by
  obtain ⟨names, contents, -, -⟩ := create_spec fs path
  have bound : (fs.write path bytes).names path = some (fs.create path).2 := by
    change (fs.create path).1.names path = _
    rw [names, if_pos rfl]
  have written : (fs.write path bytes).contents (fs.create path).2 = bytes := by
    rw [write, contents_writeAt, contents, Function.update_self]
    simp [overwrite]
  exact read_eq_some_iff.mpr ⟨_, bound, written⟩

theorem read_write_of_ne (different : other ≠ path) :
    (fs.write path bytes).read other = fs.read other := by
  obtain ⟨names, -, -, -⟩ := create_spec fs path
  have bound : (fs.create path).1.names path = some (fs.create path).2 := by
    rw [names, if_pos rfl]
  rw [write, read_writeAt_of_ne bound different, read_create_of_ne different]

theorem exists_write : (fs.write path bytes).Exists other ↔ other = path ∨ fs.Exists other := by
  rw [exists_iff_read, exists_iff_read]
  by_cases same : other = path
  · rw [same, read_write]
    exact iff_of_true nofun (.inl rfl)
  · rw [read_write_of_ne same, or_iff_right same]

theorem writeOnce_cons (item : Path × List UInt8) :
    writeOnce (fs, count) (item :: items) =
      writeOnce (writeNew (fs, count) item.1 item.2) items :=
  rfl

/-- What is bound before stays as it is. -/
theorem read_writeOnce_of_exists (bound : fs.Exists path) :
    (writeOnce (fs, count) items).1.read path = fs.read path := by
  induction items generalizing fs count with
  | nil => rfl
  | cons item items ih =>
      rw [writeOnce_cons, writeNew]
      by_cases present : fs.Exists item.1
      · rw [if_pos present]
        exact ih bound
      · rw [if_neg present]
        have different : path ≠ item.1 := by
          rintro rfl
          exact present bound
        rw [ih (exists_write.mpr (.inr bound)), read_write_of_ne different]

theorem exists_writeOnce :
    (writeOnce (fs, count) items).1.Exists path ↔
      fs.Exists path ∨ path ∈ items.map Prod.fst := by
  induction items generalizing fs count with
  | nil => exact (or_iff_left List.not_mem_nil).symm
  | cons item items ih =>
      rw [writeOnce_cons, writeNew, List.map_cons, List.mem_cons]
      by_cases present : fs.Exists item.1
      · rw [if_pos present, ih]
        constructor
        · rintro (bound | later)
          · exact .inl bound
          · exact .inr (.inr later)
        · rintro (bound | rfl | later)
          · exact .inl bound
          · exact .inl present
          · exact .inr later
      · rw [if_neg present, ih, exists_write, or_assoc, or_left_comm]

theorem count_writeOnce_le :
    (writeOnce (fs, count) items).2 ≤ count + items.length := by
  induction items generalizing fs count with
  | nil => exact Nat.le_refl count
  | cons item items ih =>
      rw [writeOnce_cons, writeNew, List.length_cons]
      by_cases present : fs.Exists item.1
      · rw [if_pos present]
        exact Nat.le_trans ih (by omega)
      · rw [if_neg present]
        exact Nat.le_trans ih (by omega)

/-- All are written where the names are different and none is bound. -/
theorem writeOnce_of_fresh (fresh : ∀ path ∈ items.map Prod.fst, ¬ fs.Exists path)
    (distinct : (items.map Prod.fst).Nodup) :
    (writeOnce (fs, count) items).2 = count + items.length ∧
      ∀ item ∈ items, (writeOnce (fs, count) items).1.read item.1 = some item.2 := by
  induction items generalizing fs count with
  | nil => exact ⟨rfl, nofun⟩
  | cons item items ih =>
      rw [List.map_cons] at fresh distinct
      obtain ⟨isNew, restFresh⟩ := List.forall_mem_cons.mp fresh
      obtain ⟨notLater, restDistinct⟩ := List.nodup_cons.mp distinct
      have stillFresh : ∀ path ∈ items.map Prod.fst,
          ¬ (fs.write item.1 item.2).Exists path := by
        intro path later bound
        rcases exists_write.mp bound with rfl | before
        · exact notLater later
        · exact restFresh path later before
      obtain ⟨counted, reads⟩ := @ih _ (count + 1) stillFresh restDistinct
      rw [writeOnce_cons, writeNew, if_neg isNew]
      refine ⟨counted.trans (by rw [List.length_cons]; omega), fun written member => ?_⟩
      rcases List.mem_cons.mp member with rfl | later
      · rw [read_writeOnce_of_exists (exists_write.mpr (.inl rfl)), read_write]
      · exact reads written later

/-- Where all are counted, the names are different. -/
theorem nodup_of_count (all : (writeOnce (fs, count) items).2 = count + items.length) :
    (items.map Prod.fst).Nodup ∧ ∀ path ∈ items.map Prod.fst, ¬ fs.Exists path := by
  induction items generalizing fs count with
  | nil => exact ⟨List.nodup_nil, nofun⟩
  | cons item items ih =>
      rw [writeOnce_cons, writeNew, List.length_cons] at all
      by_cases present : fs.Exists item.1
      · rw [if_pos present] at all
        have most := @count_writeOnce_le _ _ fs count items
        omega
      · rw [if_neg present] at all
        obtain ⟨distinct, fresh⟩ := @ih _ (count + 1) (by rw [all]; omega)
        rw [List.map_cons]
        refine ⟨List.nodup_cons.mpr ⟨fun later => ?_, distinct⟩, ?_⟩
        · exact fresh item.1 later (exists_write.mpr (.inl rfl))
        · rintro path member bound
          rcases List.mem_cons.mp member with rfl | later
          · exact present bound
          · exact fresh path later (exists_write.mpr (.inr bound))

theorem writeOnce_of_bound (bound : ∀ path ∈ items.map Prod.fst, fs.Exists path) :
    writeOnce (fs, count) items = (fs, count) := by
  induction items with
  | nil => rfl
  | cons item items ih =>
      obtain ⟨present, rest⟩ := List.forall_mem_cons.mp bound
      rw [writeOnce_cons, writeNew, if_pos present]
      exact ih rest

end FileSystem

end SolanaProtocols
