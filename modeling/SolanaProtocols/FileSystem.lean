import Mathlib.Data.List.Basic
import Mathlib.Logic.Function.Basic

/-!
# Named files

Paths are bound to files and files have contents.  A file that is open can be
written whether or not a path is still bound to it.  No two paths are bound to
one file.
-/

namespace SolanaProtocols

structure FileSystem (Path : Type*) where
  names : Path → Option Nat
  contents : Nat → List UInt8
  next : Nat
  known : ∀ path file, names path = some file → file < next
  single : ∀ path path' file, names path = some file →
    names path' = some file → path = path'

namespace FileSystem

variable {Path : Type*}

/-- The contents of the file bound to a path. -/
def read (fs : FileSystem Path) (path : Path) : Option (List UInt8) :=
  (fs.names path).map fs.contents

/-- Write into contents at an offset.  A gap before it is filled with zeros. -/
def overwrite (old : List UInt8) (offset : Nat) (bytes : List UInt8) :
    List UInt8 :=
  old.take offset ++ List.replicate (offset - old.length) 0 ++ bytes ++
    old.drop (offset + bytes.length)

/-- Write to an open file. -/
def writeAt (fs : FileSystem Path) (file offset : Nat) (bytes : List UInt8) :
    FileSystem Path :=
  { fs with
    contents := Function.update fs.contents file
      (overwrite (fs.contents file) offset bytes) }

/-- Open a path for writing: truncate its file, or bind a new one. -/
def create [DecidableEq Path] (fs : FileSystem Path) (path : Path) : FileSystem Path × Nat :=
  match nameEq : fs.names path with
  | some file =>
      ({ fs with contents := Function.update fs.contents file [] }, file)
  | none =>
      ({ names := Function.update fs.names path (some fs.next)
         contents := Function.update fs.contents fs.next []
         next := fs.next + 1
         known := by
           intro other file bound
           by_cases same : other = path
           · subst same
             rw [Function.update_self] at bound
             cases bound
             exact Nat.lt_succ_self _
           · rw [Function.update_of_ne same] at bound
             exact Nat.lt_succ_of_lt (fs.known other file bound)
         single := by
           have notNext : ∀ other, fs.names other ≠ some fs.next :=
             fun other bound => absurd (fs.known other _ bound) (Nat.lt_irrefl _)
           intro one other file bound bound'
           by_cases first : one = path <;> by_cases second : other = path
           · rw [first, second]
           · subst first
             rw [Function.update_self] at bound
             rw [Function.update_of_ne second] at bound'
             cases bound
             exact absurd bound' (notNext other)
           · subst second
             rw [Function.update_self] at bound'
             rw [Function.update_of_ne first] at bound
             cases bound'
             exact absurd bound (notNext one)
           · rw [Function.update_of_ne first] at bound
             rw [Function.update_of_ne second] at bound'
             exact fs.single one other file bound bound' }, fs.next)

/-- Bind the file of one path to another.  `none` when there is no file. -/
def rename [DecidableEq Path] (fs : FileSystem Path) (source target : Path) :
    Option (FileSystem Path) :=
  match nameEq : fs.names source with
  | none => none
  | some file => some {
      fs with
      names := fun path =>
        if path = target then some file
        else if path = source then none else fs.names path
      known := by
        intro path other bound
        split_ifs at bound
        · cases bound
          exact fs.known source _ nameEq
        · exact fs.known path other bound
      single := by
        intro one two other bound bound'
        split_ifs at bound bound' with first second _ third
        · rw [first, second]
        · cases bound
          exact absurd (fs.single two source _ bound' nameEq) ‹_›
        · cases bound'
          exact absurd (fs.single one source _ bound nameEq) ‹_›
        · exact fs.single one two other bound bound' }

section Lemmas

variable {fs after : FileSystem Path} {path source target : Path} {file : Nat}

/-- What opening for writing does. -/
theorem create_spec [DecidableEq Path] (fs : FileSystem Path) (path : Path) :
    (∀ other, (fs.create path).1.names other =
      if other = path then some (fs.create path).2 else fs.names other) ∧
    (fs.create path).1.contents =
      Function.update fs.contents (fs.create path).2 [] ∧
    fs.next ≤ (fs.create path).1.next ∧
    (fs.names path = some (fs.create path).2 ∨ (fs.create path).2 = fs.next) := by
  unfold create
  split
  · rename_i file bound
    refine ⟨fun other => ?_, rfl, Nat.le_refl _, .inl bound⟩
    by_cases same : other = path
    · simp [same, bound]
    · simp [same]
  · refine ⟨fun other => ?_, rfl, Nat.le_succ _, .inr rfl⟩
    by_cases same : other = path
    · simp [same]
    · simp [same]

theorem exists_rename [DecidableEq Path] (bound : fs.names source = some file)
    (target : Path) : ∃ after, fs.rename source target = some after := by
  unfold rename
  split
  · rename_i unbound
    rw [bound] at unbound
    cases unbound
  · exact ⟨_, rfl⟩

/-- What a rename does. -/
theorem rename_spec [DecidableEq Path]
    (renamed : fs.rename source target = some after) :
    ∃ file, fs.names source = some file ∧
      (∀ path, after.names path =
        if path = target then some file
        else if path = source then none else fs.names path) ∧
      after.contents = fs.contents ∧ after.next = fs.next := by
  unfold rename at renamed
  split at renamed
  · cases renamed
  · rename_i file bound
    cases renamed
    exact ⟨file, bound, fun _ => rfl, rfl, rfl⟩

theorem contents_writeAt_of_ne {offset other : Nat} {bytes : List UInt8}
    (different : other ≠ file) :
    (fs.writeAt file offset bytes).contents other = fs.contents other :=
  Function.update_of_ne different _ _

theorem contents_writeAt (offset : Nat) (bytes : List UInt8) :
    (fs.writeAt file offset bytes).contents file =
      overwrite (fs.contents file) offset bytes :=
  Function.update_self _ _ _

theorem read_writeAt_of_ne {offset : Nat} {bytes : List UInt8}
    (bound : fs.names source = some file) (different : path ≠ source) :
    (fs.writeAt file offset bytes).read path = fs.read path := by
  unfold read
  cases lookup : fs.names path with
  | none => simp [writeAt, lookup]
  | some other =>
      have otherFile : other ≠ file := fun same =>
        different (fs.single path source file (same ▸ lookup) bound)
      simp [writeAt, lookup, Function.update_of_ne otherFile]

theorem read_create_of_ne [DecidableEq Path] (different : path ≠ source) :
    (fs.create source).1.read path = fs.read path := by
  obtain ⟨names, contents, -, file⟩ := create_spec fs source
  unfold read
  rw [names, if_neg different, contents]
  cases lookup : fs.names path with
  | none => rfl
  | some other =>
      have otherFile : other ≠ (fs.create source).2 := by
        rintro rfl
        rcases file with bound | isNext
        · exact different (fs.single path source _ lookup bound)
        · exact absurd (fs.known path _ lookup) (by omega)
      simp [Function.update_of_ne otherFile]

/-- Writing on where the writing stopped. -/
theorem overwrite_take (bytes : List UInt8) {written : Nat} (count : Nat)
    (inside : written ≤ bytes.length) :
    overwrite (bytes.take written) written ((bytes.drop written).take count) =
      bytes.take (written + count) := by
  have whole : (bytes.take written).length = written :=
    List.length_take_of_le inside
  have nothing : (bytes.take written).drop
      (written + ((bytes.drop written).take count).length) = [] := by
    apply List.drop_eq_nil_of_le
    rw [whole]
    exact Nat.le_add_right _ _
  unfold overwrite
  rw [nothing, whole, Nat.sub_self, List.take_of_length_le (Nat.le_of_eq whole),
    List.replicate_zero, List.append_nil, List.append_nil, List.take_add]

theorem read_eq_some_iff {bytes : List UInt8} :
    fs.read path = some bytes ↔
      ∃ file, fs.names path = some file ∧ fs.contents file = bytes := by
  simp [read]

end Lemmas

end FileSystem

end SolanaProtocols
