import Mathlib.Algebra.Group.Nat.Defs
import Mathlib.Data.List.Basic
import Mathlib.Logic.Equiv.Basic
import Mathlib.Tactic.Common

/-!
# Prefix codecs

A prefix codec reads one value off the front of a byte string and writes it
back.  Its laws make bytes and values determine each other: what is written is
read, and what is read was written.
-/

namespace SolanaProtocols

/-- A writer and a reader that are inverse to each other. -/
structure PrefixCodec (α : Type) where
  encode : α → List UInt8
  decode : List UInt8 → Except String (α × List UInt8)
  decode_encode (value : α) (rest : List UInt8) :
    decode (encode value ++ rest) = .ok (value, rest)
  eq_append_of_decode {bytes : List UInt8} {value : α} {rest : List UInt8} :
    decode bytes = .ok (value, rest) → bytes = encode value ++ rest

namespace PrefixCodec

variable {α β : Type}

/-- What a reader reads is what a writer wrote in front of the rest. -/
theorem decode_eq_ok_iff (codec : PrefixCodec α) {bytes rest : List UInt8}
    {value : α} :
    codec.decode bytes = .ok (value, rest) ↔
      bytes = codec.encode value ++ rest := by
  constructor
  · exact codec.eq_append_of_decode
  · rintro rfl
    exact codec.decode_encode value rest

/-- Nothing at all. -/
def unit : PrefixCodec Unit where
  encode _ := []
  decode bytes := .ok ((), bytes)
  decode_encode _ _ := rfl
  eq_append_of_decode decoded := by
    cases decoded
    rfl

/-- One value after another. -/
def pair (first : PrefixCodec α) (second : PrefixCodec β) :
    PrefixCodec (α × β) where
  encode value := first.encode value.1 ++ second.encode value.2
  decode bytes :=
    match first.decode bytes with
    | .error message => .error message
    | .ok (left, rest) =>
        match second.decode rest with
        | .error message => .error message
        | .ok (right, rest) => .ok ((left, right), rest)
  decode_encode value rest := by
    simp only [List.append_assoc, first.decode_encode, second.decode_encode]
  eq_append_of_decode {bytes value rest} decoded := by
    cases readFirst : first.decode bytes with
    | error message => simp [readFirst] at decoded
    | ok leftRest =>
        obtain ⟨left, middle⟩ := leftRest
        cases readSecond : second.decode middle with
        | error message => simp [readFirst, readSecond] at decoded
        | ok rightRest =>
            obtain ⟨right, tail⟩ := rightRest
            simp only [readFirst, readSecond, Except.ok.injEq,
              Prod.mk.injEq] at decoded
            obtain ⟨rfl, rfl⟩ := decoded
            rw [first.eq_append_of_decode readFirst,
              second.eq_append_of_decode readSecond, List.append_assoc]

/-- The same bytes for an equivalent type. -/
def equiv (codec : PrefixCodec α) (same : α ≃ β) : PrefixCodec β where
  encode value := codec.encode (same.symm value)
  decode bytes := (codec.decode bytes).map (Prod.map same id)
  decode_encode value rest := by
    simp [codec.decode_encode, Except.map]
  eq_append_of_decode {bytes value rest} decoded := by
    cases read : codec.decode bytes with
    | error message => simp [read, Except.map] at decoded
    | ok valueRest =>
        simp only [read, Except.map, Except.ok.injEq] at decoded
        have bytesEq := codec.eq_append_of_decode read
        cases decoded
        simpa using bytesEq

/-- A type with one value is nothing at all. -/
def only (value : α) (unique : ∀ other, other = value) : PrefixCodec α :=
  unit.equiv
    { toFun := fun _ => value
      invFun := fun _ => ()
      left_inv := fun _ => rfl
      right_inv := fun other => (unique other).symm }

/-- The values that pass a test, and a message for the others. -/
def refine (codec : PrefixCodec α) (accepts : α → Prop)
    [DecidablePred accepts] (message : α → String) :
    PrefixCodec { value // accepts value } where
  encode value := codec.encode value
  decode bytes :=
    match codec.decode bytes with
    | .error message => .error message
    | .ok (value, rest) =>
        if accepted : accepts value then .ok (⟨value, accepted⟩, rest)
        else .error (message value)
  decode_encode value rest := by
    simp [codec.decode_encode, value.property]
  eq_append_of_decode {bytes value rest} decoded := by
    cases read : codec.decode bytes with
    | error message => simp [read] at decoded
    | ok valueRest =>
        obtain ⟨value', rest'⟩ := valueRest
        by_cases accepted : accepts value'
        · simp only [read, accepted, dif_pos, Except.ok.injEq,
            Prod.mk.injEq] at decoded
          obtain ⟨rfl, rfl⟩ := decoded
          exact codec.eq_append_of_decode read
        · simp [read, accepted] at decoded

/-- As many bytes as the length asks for. -/
def takeExact (len : Nat) (bytes : List UInt8) :
    Except String (List UInt8 × List UInt8) :=
  if len ≤ bytes.length then .ok (bytes.take len, bytes.drop len)
  else .error "Unexpected length of input"

theorem takeExact_append (front rest : List UInt8) :
    takeExact front.length (front ++ rest) = .ok (front, rest) := by
  simp [takeExact]

theorem takeExact_eq_ok {len : Nat} {bytes front rest : List UInt8}
    (taken : takeExact len bytes = .ok (front, rest)) :
    front.length = len ∧ bytes = front ++ rest := by
  rw [takeExact] at taken
  split at taken
  case isTrue enough =>
    cases taken
    simp [enough]
  case isFalse => cases taken

/-- The little-endian digits of a number. -/
def leBytes : Nat → Nat → List UInt8
  | 0, _ => []
  | len + 1, number => UInt8.ofNat number :: leBytes len (number / 256)

def ofLeBytes : List UInt8 → Nat
  | [] => 0
  | byte :: bytes => byte.toNat + 256 * ofLeBytes bytes

@[simp]
theorem leBytes_length (len number : Nat) : (leBytes len number).length = len := by
  induction len generalizing number with
  | zero => rfl
  | succ len ih => simp [leBytes, ih]

theorem ofLeBytes_lt (bytes : List UInt8) :
    ofLeBytes bytes < 2 ^ (8 * bytes.length) := by
  induction bytes with
  | nil => simp [ofLeBytes]
  | cons byte bytes ih =>
      have byteLt := byte.toNat_lt
      have power : 2 ^ (8 * (byte :: bytes).length) =
          256 * 2 ^ (8 * bytes.length) := by
        rw [List.length_cons, Nat.mul_add, Nat.pow_add]
        omega
      rw [ofLeBytes, power]
      omega

theorem ofLeBytes_leBytes (len number : Nat) (small : number < 2 ^ (8 * len)) :
    ofLeBytes (leBytes len number) = number := by
  induction len generalizing number with
  | zero => simp at small; simp [leBytes, ofLeBytes, small]
  | succ len ih =>
      have power : 2 ^ (8 * (len + 1)) = 256 * 2 ^ (8 * len) := by
        rw [Nat.mul_add, Nat.pow_add]
        omega
      have quotient := ih (number / 256) (by omega)
      rw [leBytes, ofLeBytes, quotient, UInt8.toNat_ofNat']
      omega

theorem leBytes_ofLeBytes (bytes : List UInt8) :
    leBytes bytes.length (ofLeBytes bytes) = bytes := by
  induction bytes with
  | nil => rfl
  | cons byte bytes ih =>
      have byteLt := byte.toNat_lt
      have quotient : (byte.toNat + 256 * ofLeBytes bytes) / 256 =
          ofLeBytes bytes := by omega
      have remainder :
          UInt8.ofNat (byte.toNat + 256 * ofLeBytes bytes) = byte := by
        apply UInt8.toNat_inj.mp
        rw [UInt8.toNat_ofNat']
        omega
      rw [List.length_cons, ofLeBytes, leBytes, quotient, ih, remainder]

/-- A little-endian integer of a number of bytes. -/
def littleEndian (len : Nat) : PrefixCodec (BitVec (8 * len)) where
  encode number := leBytes len number.toNat
  decode bytes :=
    (takeExact len bytes).map (Prod.map (fun front => BitVec.ofNat _ (ofLeBytes front)) id)
  decode_encode number rest := by
    have taken := takeExact_append (leBytes len number.toNat) rest
    rw [leBytes_length] at taken
    simp [taken, Except.map, ofLeBytes_leBytes _ _ number.isLt]
  eq_append_of_decode {bytes number rest} decoded := by
    cases taken : takeExact len bytes with
    | error message => simp [taken, Except.map] at decoded
    | ok frontRest =>
        obtain ⟨front, rest'⟩ := frontRest
        obtain ⟨frontLength, bytesEq⟩ := takeExact_eq_ok taken
        simp only [taken, Except.map, Except.ok.injEq, Prod.map,
          Prod.mk.injEq, id] at decoded
        obtain ⟨rfl, rfl⟩ := decoded
        subst frontLength
        rw [bytesEq, BitVec.toNat_ofNat, Nat.mod_eq_of_lt (ofLeBytes_lt front),
          leBytes_ofLeBytes]

/-- A byte that is 0 or 1. -/
def bool : PrefixCodec Bool where
  encode flag := [if flag then 1 else 0]
  decode
    | [] => .error "Unexpected length of input"
    | byte :: rest =>
        if byte = 0 then .ok (false, rest)
        else if byte = 1 then .ok (true, rest)
        else .error ("Invalid bool representation: " ++ toString byte.toNat)
  decode_encode flag rest := by
    cases flag <;> rfl
  eq_append_of_decode {bytes flag rest} decoded := by
    cases bytes with
    | nil => cases decoded
    | cons byte bytes =>
        by_cases zero : byte = 0
        · simp only [zero, if_pos] at decoded
          cases decoded
          simp [zero]
        · by_cases one : byte = 1
          · simp only [one] at decoded
            cases decoded
            simp [one]
          · simp [zero, one] at decoded

/-- One byte. -/
def byte : PrefixCodec UInt8 where
  encode value := [value]
  decode
    | [] => .error "Unexpected length of input"
    | value :: rest => .ok (value, rest)
  decode_encode _ _ := rfl
  eq_append_of_decode {bytes value rest} decoded := by
    cases bytes with
    | nil => cases decoded
    | cons first bytes =>
        cases decoded
        rfl

/-- A body whose codec the header decides. -/
def sigma {β : α → Type} (header : PrefixCodec α)
    (body : (value : α) → PrefixCodec (β value)) :
    PrefixCodec ((value : α) × β value) where
  encode value := header.encode value.1 ++ (body value.1).encode value.2
  decode bytes :=
    match header.decode bytes with
    | .error message => .error message
    | .ok (value, rest) =>
        ((body value).decode rest).map (Prod.map (Sigma.mk value) id)
  decode_encode value rest := by
    simp only [List.append_assoc, header.decode_encode,
      (body value.1).decode_encode]
    rfl
  eq_append_of_decode {bytes value rest} decoded := by
    cases readHeader : header.decode bytes with
    | error message => simp [readHeader] at decoded
    | ok valueMiddle =>
        obtain ⟨first, middle⟩ := valueMiddle
        cases readBody : (body first).decode middle with
        | error message => simp [readHeader, readBody, Except.map] at decoded
        | ok bodyRest =>
            simp only [readHeader, readBody, Except.map,
              Except.ok.injEq] at decoded
            cases decoded
            rw [header.eq_append_of_decode readHeader,
              (body first).eq_append_of_decode readBody, List.append_assoc]
            rfl

/-- Values one after another, as many as asked for. -/
def many (codec : PrefixCodec α) :
    (count : Nat) → PrefixCodec { values : List α // values.length = count }
  | 0 => unit.equiv
      { toFun := fun _ => ⟨[], rfl⟩
        invFun := fun _ => ()
        left_inv := fun _ => rfl
        right_inv := fun values =>
          Subtype.ext (List.eq_nil_of_length_eq_zero values.property).symm }
  | count + 1 => (codec.pair (codec.many count)).equiv
      { toFun := fun values =>
          ⟨values.1 :: values.2.val, congrArg (· + 1) values.2.property⟩
        invFun
          | ⟨value :: values, counted⟩ =>
              (value, ⟨values, Nat.succ.inj counted⟩)
        left_inv := fun _ => rfl
        right_inv
          | ⟨_ :: _, _⟩ => rfl }

/-- An array of a fixed length, with nothing in front of it. -/
def array (codec : PrefixCodec α) (len : Nat) : PrefixCodec (Vector α len) :=
  (codec.many len).equiv
    { toFun := fun values => ⟨values.val.toArray, values.property⟩
      invFun := fun values => ⟨values.toArray.toList, values.size_toArray⟩
      left_inv := fun _ => rfl
      right_inv := fun _ => rfl }

/-- A list whose length fits in four bytes. -/
abbrev Counted (α : Type) := { values : List α // values.length < 2 ^ (8 * 4) }

/-- A string whose length in bytes fits in four bytes. -/
abbrev CountedString := { text : String // text.utf8ByteSize < 2 ^ (8 * 4) }

/-- A list that a four-byte count describes. -/
def countedEquiv :
    ((count : BitVec (8 * 4)) × { values : List α // values.length = count.toNat }) ≃
      Counted α where
  toFun values := ⟨values.2.val, by
    rw [values.2.property]
    exact values.1.isLt⟩
  invFun values := ⟨BitVec.ofNat _ values.val.length, values.val, by
    rw [BitVec.toNat_ofNat, Nat.mod_eq_of_lt values.property]⟩
  left_inv := by
    rintro ⟨count, values, counted⟩
    have countEq : BitVec.ofNat (8 * 4) values.length = count := by
      rw [counted, BitVec.ofNat_toNat, BitVec.setWidth_eq]
    subst countEq
    rfl
  right_inv _ := rfl

/-- A list after its length in four bytes. -/
def vec (codec : PrefixCodec α) : PrefixCodec (Counted α) :=
  ((littleEndian 4).sigma fun count => codec.many count.toNat).equiv countedEquiv

/-- A string is its bytes, if these are UTF-8. -/
def utf8Equiv :
    { bytes : Counted UInt8 // (ByteArray.mk bytes.val.toArray).IsValidUTF8 } ≃
      CountedString where
  toFun bytes :=
    ⟨String.ofByteArray (ByteArray.mk bytes.val.val.toArray) bytes.property,
      bytes.val.property⟩
  invFun text :=
    ⟨⟨text.val.toByteArray.data.toList, text.property⟩, text.val.isValidUTF8⟩
  left_inv _ := rfl
  right_inv _ := rfl

/-- A string after its length in bytes.  The message says what is wrong with
bytes that are not UTF-8. -/
def string (utf8Error : List UInt8 → String) : PrefixCodec CountedString :=
  (byte.vec.refine (fun bytes => (ByteArray.mk bytes.val.toArray).IsValidUTF8)
    (fun bytes => utf8Error bytes.val)).equiv utf8Equiv

/-- Read one value and refuse what is left over. -/
def tryFromSlice (codec : PrefixCodec α) (bytes : List UInt8) :
    Except String α :=
  match codec.decode bytes with
  | .error message => .error message
  | .ok (value, []) => .ok value
  | .ok (_, _ :: _) => .error "Not all bytes read"

theorem tryFromSlice_eq_ok_iff (codec : PrefixCodec α) {bytes : List UInt8}
    {value : α} :
    codec.tryFromSlice bytes = .ok value ↔ bytes = codec.encode value := by
  rw [← List.append_nil (codec.encode value), ← codec.decode_eq_ok_iff]
  unfold tryFromSlice
  split
  next message read => simp [read]
  next value' read => simp [read]
  next value' byte rest read => simp [read]

/-- What is left over is refused. -/
theorem tryFromSlice_leftover (codec : PrefixCodec α) {bytes rest : List UInt8}
    {value : α} (decoded : codec.decode bytes = .ok (value, rest))
    (leftover : rest ≠ []) :
    codec.tryFromSlice bytes = .error "Not all bytes read" := by
  cases rest with
  | nil => exact absurd rfl leftover
  | cons byte rest => simp [tryFromSlice, decoded]

end PrefixCodec

end SolanaProtocols
