import SolanaProtocols.SolanaTypes

/-!
# Optional trailing bool

An argument of the pump programs that senders encode in several ways.  It takes
whatever is left of the instruction data; each form is one byte string, and
bytes of no known form are kept as a trailer.
-/

namespace SolanaProtocols

namespace Protocols

/-- Longest trailer retained inline. -/
def trailerMax : Nat := 16

/-- Trailing bytes retained inline. -/
structure Trailer where
  bytes : Bytes
  retained : bytes ≠ [] ∧ bytes.length ≤ trailerMax
deriving DecidableEq

/-- Keep the bytes, unless there are none or too many. -/
def Trailer.new (bytes : Bytes) : Option Trailer :=
  if retained : bytes ≠ [] ∧ bytes.length ≤ trailerMax then
    some ⟨bytes, retained⟩
  else none

/-- The bytes as they are stored: a length and a buffer. -/
structure TrailerBuffer where
  len : UInt8
  bytes : Vector UInt8 trailerMax
deriving DecidableEq

namespace TrailerBuffer

def new (bytes : Bytes) : Option TrailerBuffer :=
  if bytes = [] ∨ trailerMax < bytes.length then none
  else some {
    len := UInt8.ofNat bytes.length
    bytes := Vector.ofFn fun idx => bytes.getD idx 0 }

/-- The bytes, exactly as they arrived. -/
def asSlice (self : TrailerBuffer) : Bytes :=
  self.bytes.toList.take self.len.toNat

theorem asSlice_of_new {bytes : Bytes} {buffer : TrailerBuffer}
    (kept : new bytes = some buffer) : buffer.asSlice = bytes := by
  rw [new] at kept
  split at kept
  · cases kept
  next retained =>
    obtain ⟨-, fits⟩ := not_or.mp retained
    rw [trailerMax, not_lt] at fits
    cases kept
    have lenEq : (UInt8.ofNat bytes.length).toNat = bytes.length := by
      rw [UInt8.toNat_ofNat']
      omega
    refine List.ext_getElem ?_ fun idx inside inBytes => ?_
    · simp only [asSlice, lenEq, List.length_take, Vector.length_toList, trailerMax]
      omega
    · simp [asSlice, List.getD_eq_getElem?_getD, List.getElem?_eq_getElem inBytes]

theorem map_asSlice_new (bytes : Bytes) :
    (new bytes).map asSlice = (Trailer.new bytes).map Trailer.bytes := by
  by_cases retained : bytes ≠ [] ∧ bytes.length ≤ trailerMax
  · have kept : ∃ buffer, new bytes = some buffer := by
      rw [new, if_neg (not_or.mpr ⟨retained.1, not_lt.mpr retained.2⟩)]
      exact ⟨_, rfl⟩
    obtain ⟨buffer, kept⟩ := kept
    rw [kept, Trailer.new, dif_pos retained, Option.map_some, Option.map_some,
      asSlice_of_new kept]
  · have refused : bytes = [] ∨ trailerMax < bytes.length := by
      rwa [← not_lt, ← not_or, not_not] at retained
    rw [new, if_pos refused, Trailer.new, dif_neg retained, Option.map_none,
      Option.map_none]

end TrailerBuffer

/-- The wire forms of the argument. -/
inductive OptionBool
  | none
  | someFalse
  | someTrue
  | someTrueExtra
  | someFalseExtra
  | someFalseExtraInvalid
  | unattributed (trailer : Trailer)
deriving DecidableEq

/-- A trailer too long to retain. -/
structure UnknownOptionBool where
  bytes : Bytes
deriving DecidableEq

def UnknownOptionBool.toText (unknown : UnknownOptionBool) : String :=
  "unrecognised track_volume encoding: " ++
    toString (unknown.bytes.map UInt8.toNat)

namespace OptionBool

/-- The exact bytes a form serializes to. -/
def toBytes : OptionBool → Bytes
  | none => []
  | someFalse => [0]
  | someTrue => [1]
  | someTrueExtra => [1, 1]
  | someFalseExtra => [1, 0]
  | someFalseExtraInvalid => [0, 1]
  | unattributed trailer => trailer.bytes

/-- Read the trailing bytes of an instruction's argument data. -/
def fromBytes (bytes : Bytes) : Except UnknownOptionBool OptionBool :=
  match bytes with
  | [] => .ok none
  | [0] => .ok someFalse
  | [1] => .ok someTrue
  | [1, 1] => .ok someTrueExtra
  | [1, 0] => .ok someFalseExtra
  | [0, 1] => .ok someFalseExtraInvalid
  | other =>
      match Trailer.new other with
      | some trailer => .ok (unattributed trailer)
      | .none => .error ⟨other⟩

/-- The encodings that have a form of their own. -/
def attributedEncodings : List Bytes := [[], [0], [1], [1, 1], [1, 0], [0, 1]]

/-- Not a trailer whose bytes have a form of their own. -/
def Canonical : OptionBool → Prop
  | unattributed trailer => trailer.bytes ∉ attributedEncodings
  | _ => True

instance : DecidablePred Canonical
  | unattributed trailer =>
      inferInstanceAs (Decidable (trailer.bytes ∉ attributedEncodings))
  | none | someFalse | someTrue | someTrueExtra | someFalseExtra
  | someFalseExtraInvalid => isTrue trivial

theorem fromBytes_of_not_attributed {bytes : Bytes}
    (other : bytes ∉ attributedEncodings) :
    fromBytes bytes =
      match Trailer.new bytes with
      | some trailer => .ok (unattributed trailer)
      | .none => .error ⟨bytes⟩ := by
  unfold fromBytes
  split
  iterate 6 exact absurd (by decide) other
  rfl

theorem canonical_of_fromBytes {bytes : Bytes} {value : OptionBool}
    (read : fromBytes bytes = .ok value) :
    bytes = value.toBytes ∧ value.Canonical := by
  by_cases attributed : bytes ∈ attributedEncodings
  · simp only [attributedEncodings, List.mem_cons, List.not_mem_nil,
      or_false] at attributed
    rcases attributed with rfl | rfl | rfl | rfl | rfl | rfl
    iterate 6 cases read; exact ⟨rfl, trivial⟩
  · rw [fromBytes_of_not_attributed attributed, Trailer.new] at read
    split at read
    next trailer kept =>
      split at kept
      · cases kept
        cases read
        exact ⟨rfl, attributed⟩
      · cases kept
    next => cases read

theorem fromBytes_eq_ok_iff {bytes : Bytes} {value : OptionBool} :
    fromBytes bytes = .ok value ↔ bytes = value.toBytes ∧ value.Canonical := by
  constructor
  · exact canonical_of_fromBytes
  · rintro ⟨rfl, canonical⟩
    cases value with
    | unattributed trailer =>
        rw [toBytes, fromBytes_of_not_attributed canonical, Trailer.new,
          dif_pos trailer.retained]
    | _ => rfl

theorem fromBytes_of_long {bytes : Bytes} (long : trailerMax < bytes.length) :
    fromBytes bytes = .error ⟨bytes⟩ := by
  have other : bytes ∉ attributedEncodings := by
    intro attributed
    have short : ∀ form ∈ attributedEncodings, form.length ≤ trailerMax := by decide
    have fits := short bytes attributed
    omega
  have refused : ¬ (bytes ≠ [] ∧ bytes.length ≤ trailerMax) := by
    rintro ⟨-, fits⟩
    omega
  rw [fromBytes_of_not_attributed other, Trailer.new, dif_neg refused]

/-- The encodings that a trailer could repeat. -/
def repeatableEncodings : List Bytes := [[0], [1], [1, 1], [1, 0], [0, 1]]

theorem attributed_of_repeatable {bytes : Bytes}
    (repeatable : bytes ∈ repeatableEncodings) : bytes ∈ attributedEncodings :=
  List.mem_cons_of_mem [] repeatable

theorem exists_trailer_of_repeatable {bytes : Bytes}
    (repeatable : bytes ∈ repeatableEncodings) :
    ∃ trailer : Trailer, trailer.bytes = bytes := by
  have kept : ∀ form ∈ repeatableEncodings,
      form ≠ [] ∧ form.length ≤ trailerMax := by decide
  exact ⟨⟨bytes, kept bytes repeatable⟩, rfl⟩

theorem exists_named_of_attributed {bytes : Bytes}
    (attributed : bytes ∈ attributedEncodings) :
    ∃ value : OptionBool, value.toBytes = bytes ∧
      ∀ trailer, value ≠ unattributed trailer := by
  simp only [attributedEncodings, List.mem_cons, List.not_mem_nil, or_false]
    at attributed
  rcases attributed with rfl | rfl | rfl | rfl | rfl | rfl
  · exact ⟨none, rfl, nofun⟩
  · exact ⟨someFalse, rfl, nofun⟩
  · exact ⟨someTrue, rfl, nofun⟩
  · exact ⟨someTrueExtra, rfl, nofun⟩
  · exact ⟨someFalseExtra, rfl, nofun⟩
  · exact ⟨someFalseExtraInvalid, rfl, nofun⟩

theorem length_toBytes_le (value : OptionBool) :
    value.toBytes.length ≤ trailerMax := by
  cases value with
  | unattributed trailer => exact trailer.retained.2
  | _ => decide

/-- What is read is a form with these bytes. -/
theorem exists_fromBytes_iff {bytes : Bytes} :
    (∃ value, fromBytes bytes = .ok value) ↔ bytes.length ≤ trailerMax := by
  constructor
  · rintro ⟨value, read⟩
    rw [(canonical_of_fromBytes read).1]
    exact length_toBytes_le value
  · intro fits
    by_cases attributed : bytes ∈ attributedEncodings
    · obtain ⟨value, rfl, named⟩ := exists_named_of_attributed attributed
      refine ⟨value, fromBytes_eq_ok_iff.mpr ⟨rfl, ?_⟩⟩
      cases value with
      | unattributed trailer => exact absurd rfl (named trailer)
      | _ => trivial
    · have retained : bytes ≠ [] ∧ bytes.length ≤ trailerMax := by
        refine ⟨?_, fits⟩
        rintro rfl
        exact attributed (List.mem_cons_self ..)
      refine ⟨unattributed ⟨bytes, retained⟩, ?_⟩
      exact fromBytes_eq_ok_iff.mpr ⟨rfl, attributed⟩

theorem roundTrips_iff {value : OptionBool} :
    fromBytes value.toBytes = .ok value ↔ value.Canonical := by
  rw [fromBytes_eq_ok_iff, and_iff_right rfl]

theorem toBytes_injective_of_canonical {first second : OptionBool}
    (firstCanonical : first.Canonical) (secondCanonical : second.Canonical)
    (same : first.toBytes = second.toBytes) : first = second := by
  have read := roundTrips_iff.mpr firstCanonical
  rw [same, roundTrips_iff.mpr secondCanonical] at read
  exact (Except.ok.inj read).symm

/-- A form is the only one with its bytes unless a trailer repeats a named
form. -/
theorem toBytes_unique_iff {value : OptionBool} :
    (∀ other : OptionBool, other.toBytes = value.toBytes → other = value) ↔
      value.toBytes ∉ repeatableEncodings := by
  constructor
  · intro unique repeatable
    obtain ⟨trailer, trailerBytes⟩ := exists_trailer_of_repeatable repeatable
    obtain ⟨named, namedBytes, notTrailer⟩ :=
      exists_named_of_attributed (attributed_of_repeatable repeatable)
    have isNamed := unique named namedBytes
    have isTrailer := unique (unattributed trailer) trailerBytes
    exact notTrailer trailer (isNamed.trans isTrailer.symm)
  · intro single other same
    have canonical (form : OptionBool) (formBytes : form.toBytes = value.toBytes) :
        form.Canonical := by
      cases form with
      | unattributed trailer =>
          intro attributed
          rcases List.mem_cons.mp attributed with empty | repeatable
          · exact trailer.retained.1 empty
          · exact single (formBytes ▸ repeatable)
      | _ => trivial
    exact toBytes_injective_of_canonical (canonical other same) (canonical value rfl)
      same

/-- Byte strings up to the bound are read as a form with exactly these bytes.
A form is read back from its bytes exactly when it is not a trailer with the
bytes of a named form. -/
theorem bytes_values_correspond_iff (bytes : Bytes) (value : OptionBool) :
    ((∃ read, fromBytes bytes = .ok read) ↔ bytes.length ≤ trailerMax) ∧
      (∀ read, fromBytes bytes = .ok read → read.toBytes = bytes) ∧
      (fromBytes value.toBytes = .ok value ↔ value.Canonical) ∧
      ((∀ other : OptionBool, other.toBytes = value.toBytes → other = value) ↔
        value.toBytes ∉ repeatableEncodings) := by
  refine ⟨exists_fromBytes_iff, fun read readEq => ?_, roundTrips_iff,
    toBytes_unique_iff⟩
  exact (canonical_of_fromBytes readEq).1.symm

/-- A trailer of one zero byte has the bytes of `someFalse`. -/
theorem zero_trailer_not_read_back :
    ∃ trailer, Trailer.new [0] = some trailer ∧
      fromBytes (unattributed trailer).toBytes = .ok someFalse ∧
        fromBytes (unattributed trailer).toBytes ≠ .ok (unattributed trailer) ∧
          (unattributed trailer).toBytes = someFalse.toBytes :=
  ⟨⟨[0], by decide⟩, rfl, rfl, nofun, rfl⟩

end OptionBool

end Protocols

end SolanaProtocols
