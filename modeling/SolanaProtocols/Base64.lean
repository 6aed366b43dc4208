import Mathlib.Data.List.Basic

/-!
# Base64

Three bytes are written as four digits of six bits; one or two bytes at the end
are written as two or three digits and padded.  A strict decoder accepts exactly
what the encoder writes.  Reading digits without padding finds the bytes that
they fill, and is the inverse on what the encoder writes.
-/

/-- Symbols of the digits and of the padding. -/
structure Base64Alphabet (Symbol : Type) where
  symbol : Nat → Symbol
  value : Symbol → Option Nat
  pad : Symbol
  value_symbol : ∀ digit < 64, value (symbol digit) = some digit
  symbol_of_value : ∀ {char digit}, value char = some digit →
    digit < 64 ∧ symbol digit = char
  value_pad : value pad = none

namespace Base64

/-- The digits of bytes. -/
def digitsOf : List UInt8 → List Nat
  | [] => []
  | [a] => [a.toNat / 4, a.toNat % 4 * 16]
  | [a, b] => [a.toNat / 4, a.toNat % 4 * 16 + b.toNat / 16, b.toNat % 16 * 4]
  | a :: b :: c :: rest =>
      a.toNat / 4 :: (a.toNat % 4 * 16 + b.toNat / 16) ::
        (b.toNat % 16 * 4 + c.toNat / 64) :: c.toNat % 64 :: digitsOf rest

/-- The bytes that digits fill.  Bits that are left over are dropped. -/
def bytesOf : List Nat → List UInt8
  | [] | [_] => []
  | [x, y] => [UInt8.ofNat (x * 4 + y / 16)]
  | [x, y, z] => [UInt8.ofNat (x * 4 + y / 16), UInt8.ofNat (y % 16 * 16 + z / 4)]
  | x :: y :: z :: w :: rest =>
      UInt8.ofNat (x * 4 + y / 16) :: UInt8.ofNat (y % 16 * 16 + z / 4) ::
        UInt8.ofNat (z % 4 * 64 + w) :: bytesOf rest

theorem ofNat_eq (byte : UInt8) {number : Nat} (same : number = byte.toNat) :
    UInt8.ofNat number = byte := by
  rw [same, UInt8.ofNat_toNat]

theorem toNat_lt (byte : UInt8) : byte.toNat < 256 :=
  byte.toNat_lt

theorem bytesOf_digitsOf (bytes : List UInt8) : bytesOf (digitsOf bytes) = bytes := by
  induction bytes using digitsOf.induct with
  | case1 => rfl
  | case2 a =>
      have aLt := toNat_lt a
      rw [digitsOf, bytesOf, ofNat_eq a (by omega)]
  | case3 a b =>
      have aLt := toNat_lt a
      have bLt := toNat_lt b
      rw [digitsOf, bytesOf, ofNat_eq a (by omega),
        ofNat_eq b (by omega)]
  | case4 a b c rest ih =>
      have aLt := toNat_lt a
      have bLt := toNat_lt b
      have cLt := toNat_lt c
      rw [digitsOf, bytesOf, ih, ofNat_eq a (by omega),
        ofNat_eq b (by omega), ofNat_eq c (by omega)]

section Texts

variable {Symbol : Type} (alphabet : Base64Alphabet Symbol)

/-- The padded encoding. -/
def encode : List UInt8 → List Symbol
  | [] => []
  | [a] =>
      [alphabet.symbol (a.toNat / 4), alphabet.symbol (a.toNat % 4 * 16),
        alphabet.pad, alphabet.pad]
  | [a, b] =>
      [alphabet.symbol (a.toNat / 4), alphabet.symbol (a.toNat % 4 * 16 + b.toNat / 16),
        alphabet.symbol (b.toNat % 16 * 4), alphabet.pad]
  | a :: b :: c :: rest =>
      alphabet.symbol (a.toNat / 4) ::
        alphabet.symbol (a.toNat % 4 * 16 + b.toNat / 16) ::
          alphabet.symbol (b.toNat % 16 * 4 + c.toNat / 64) ::
            alphabet.symbol (c.toNat % 64) :: encode rest

/-- A last group of one byte.  The bits it does not fill are zero. -/
def decodeOne (first second : Symbol) : Option (List UInt8) := do
  let x ← alphabet.value first
  let y ← alphabet.value second
  if y % 16 = 0 then return [UInt8.ofNat (x * 4 + y / 16)] else none

/-- A last group of two bytes. -/
def decodeTwo (first second third : Symbol) : Option (List UInt8) := do
  let x ← alphabet.value first
  let y ← alphabet.value second
  let z ← alphabet.value third
  if z % 4 = 0 then
    return [UInt8.ofNat (x * 4 + y / 16), UInt8.ofNat (y % 16 * 16 + z / 4)]
  else none

/-- A group of three bytes. -/
def decodeThree (first second third fourth : Symbol) : Option (List UInt8) := do
  let x ← alphabet.value first
  let y ← alphabet.value second
  let z ← alphabet.value third
  let w ← alphabet.value fourth
  return [UInt8.ofNat (x * 4 + y / 16), UInt8.ofNat (y % 16 * 16 + z / 4),
    UInt8.ofNat (z % 4 * 64 + w)]

variable {alphabet}

theorem symbol_ne_pad {digit : Nat} (inside : digit < 64) :
    alphabet.symbol digit ≠ alphabet.pad := by
  intro same
  have value := alphabet.value_symbol digit inside
  rw [same, alphabet.value_pad] at value
  cases value

theorem encode_of_decodeOne {first second : Symbol} {bytes : List UInt8}
    (decoded : decodeOne alphabet first second = some bytes) :
    encode alphabet bytes = [first, second, alphabet.pad, alphabet.pad] := by
  simp only [decodeOne, Option.bind_eq_bind, Option.bind_eq_some_iff] at decoded
  obtain ⟨x, xEq, y, yEq, decoded⟩ := decoded
  obtain ⟨xLt, rfl⟩ := alphabet.symbol_of_value xEq
  obtain ⟨yLt, rfl⟩ := alphabet.symbol_of_value yEq
  split at decoded
  · cases decoded
    have a : (UInt8.ofNat (x * 4 + y / 16)).toNat = x * 4 + y / 16 := by
      rw [UInt8.toNat_ofNat']
      omega
    have digits : (x * 4 + y / 16) / 4 = x ∧ (x * 4 + y / 16) % 4 * 16 = y := by omega
    rw [encode, a, digits.1, digits.2]
  · cases decoded

theorem encode_of_decodeTwo {first second third : Symbol} {bytes : List UInt8}
    (decoded : decodeTwo alphabet first second third = some bytes) :
    encode alphabet bytes = [first, second, third, alphabet.pad] := by
  simp only [decodeTwo, Option.bind_eq_bind, Option.bind_eq_some_iff] at decoded
  obtain ⟨x, xEq, y, yEq, z, zEq, decoded⟩ := decoded
  obtain ⟨xLt, rfl⟩ := alphabet.symbol_of_value xEq
  obtain ⟨yLt, rfl⟩ := alphabet.symbol_of_value yEq
  obtain ⟨zLt, rfl⟩ := alphabet.symbol_of_value zEq
  split at decoded
  · cases decoded
    have a : (UInt8.ofNat (x * 4 + y / 16)).toNat = x * 4 + y / 16 := by
      rw [UInt8.toNat_ofNat']
      omega
    have b : (UInt8.ofNat (y % 16 * 16 + z / 4)).toNat = y % 16 * 16 + z / 4 := by
      rw [UInt8.toNat_ofNat']
      omega
    have digits : (x * 4 + y / 16) / 4 = x ∧
        (x * 4 + y / 16) % 4 * 16 + (y % 16 * 16 + z / 4) / 16 = y ∧
          (y % 16 * 16 + z / 4) % 16 * 4 = z := by omega
    rw [encode, a, b, digits.1, digits.2.1, digits.2.2]
  · cases decoded

theorem encode_of_decodeThree {first second third fourth : Symbol}
    {three more : List UInt8}
    (decoded : decodeThree alphabet first second third fourth = some three) :
    encode alphabet (three ++ more) =
      first :: second :: third :: fourth :: encode alphabet more := by
  simp only [decodeThree, Option.bind_eq_bind, Option.bind_eq_some_iff] at decoded
  obtain ⟨x, xEq, y, yEq, z, zEq, w, wEq, decoded⟩ := decoded
  obtain ⟨xLt, rfl⟩ := alphabet.symbol_of_value xEq
  obtain ⟨yLt, rfl⟩ := alphabet.symbol_of_value yEq
  obtain ⟨zLt, rfl⟩ := alphabet.symbol_of_value zEq
  obtain ⟨wLt, rfl⟩ := alphabet.symbol_of_value wEq
  cases decoded
  have a : (UInt8.ofNat (x * 4 + y / 16)).toNat = x * 4 + y / 16 := by
    rw [UInt8.toNat_ofNat']
    omega
  have b : (UInt8.ofNat (y % 16 * 16 + z / 4)).toNat = y % 16 * 16 + z / 4 := by
    rw [UInt8.toNat_ofNat']
    omega
  have c : (UInt8.ofNat (z % 4 * 64 + w)).toNat = z % 4 * 64 + w := by
    rw [UInt8.toNat_ofNat']
    omega
  have digits : (x * 4 + y / 16) / 4 = x ∧
      (x * 4 + y / 16) % 4 * 16 + (y % 16 * 16 + z / 4) / 16 = y ∧
        (y % 16 * 16 + z / 4) % 16 * 4 + (z % 4 * 64 + w) / 64 = z ∧
          (z % 4 * 64 + w) % 64 = w := by omega
  change encode alphabet (_ :: _ :: _ :: more) = _
  rw [encode, a, b, c, digits.1, digits.2.1, digits.2.2.1, digits.2.2.2]

/-- An encoding consists of symbols of digits and padding. -/
theorem mem_encode {bytes : List UInt8} {char : Symbol}
    (member : char ∈ encode alphabet bytes) :
    char = alphabet.pad ∨ ∃ digit < 64, alphabet.symbol digit = char := by
  induction bytes using digitsOf.induct with
  | case1 => cases member
  | case2 a =>
      have aLt := toNat_lt a
      simp only [encode, List.mem_cons, List.not_mem_nil, or_false] at member
      rcases member with rfl | rfl | rfl | rfl
      · exact .inr ⟨_, by omega, rfl⟩
      · exact .inr ⟨_, by omega, rfl⟩
      · exact .inl rfl
      · exact .inl rfl
  | case3 a b =>
      have aLt := toNat_lt a
      have bLt := toNat_lt b
      simp only [encode, List.mem_cons, List.not_mem_nil, or_false] at member
      rcases member with rfl | rfl | rfl | rfl
      · exact .inr ⟨_, by omega, rfl⟩
      · exact .inr ⟨_, by omega, rfl⟩
      · exact .inr ⟨_, by omega, rfl⟩
      · exact .inl rfl
  | case4 a b c rest ih =>
      have aLt := toNat_lt a
      have bLt := toNat_lt b
      have cLt := toNat_lt c
      simp only [encode, List.mem_cons] at member
      rcases member with rfl | rfl | rfl | rfl | member
      · exact .inr ⟨_, by omega, rfl⟩
      · exact .inr ⟨_, by omega, rfl⟩
      · exact .inr ⟨_, by omega, rfl⟩
      · exact .inr ⟨_, by omega, rfl⟩
      · exact ih member

variable (alphabet)

variable [DecidableEq Symbol]

/-- The strict decoder: whole groups, padding in the last one only, and no bits
left over. -/
def decode : List Symbol → Option (List UInt8)
  | [] => some []
  | first :: second :: third :: fourth :: rest =>
      if fourth = alphabet.pad ∧ rest = [] then
        if third = alphabet.pad then decodeOne alphabet first second
        else decodeTwo alphabet first second third
      else do
        let three ← decodeThree alphabet first second third fourth
        let more ← decode rest
        return three ++ more
  | _ => none

/-- The digits in front of the padding, leaving out what is no digit. -/
def digitsBeforePad (text : List Symbol) : List Nat :=
  (text.takeWhile (· ≠ alphabet.pad)).filterMap alphabet.value

variable {alphabet}

theorem digitsBeforePad_symbol {digit : Nat} (inside : digit < 64)
    (text : List Symbol) :
    digitsBeforePad alphabet (alphabet.symbol digit :: text) =
      digit :: digitsBeforePad alphabet text := by
  rw [digitsBeforePad, List.takeWhile_cons,
    if_pos (decide_eq_true (symbol_ne_pad inside)),
    List.filterMap_cons_some (alphabet.value_symbol digit inside), ← digitsBeforePad]

theorem digitsBeforePad_pad (text : List Symbol) :
    digitsBeforePad alphabet (alphabet.pad :: text) = [] := by
  rw [digitsBeforePad, List.takeWhile_cons, if_neg (by simp), List.filterMap_nil]

/-- The digits of an encoding. -/
theorem digitsBeforePad_encode (bytes : List UInt8) :
    digitsBeforePad alphabet (encode alphabet bytes) = digitsOf bytes := by
  induction bytes using digitsOf.induct with
  | case1 => rfl
  | case2 a =>
      have aLt := toNat_lt a
      rw [encode, digitsBeforePad_symbol (by omega), digitsBeforePad_symbol (by omega),
        digitsBeforePad_pad, digitsOf]
  | case3 a b =>
      have aLt := toNat_lt a
      have bLt := toNat_lt b
      rw [encode, digitsBeforePad_symbol (by omega), digitsBeforePad_symbol (by omega),
        digitsBeforePad_symbol (by omega), digitsBeforePad_pad, digitsOf]
  | case4 a b c rest ih =>
      have aLt := toNat_lt a
      have bLt := toNat_lt b
      have cLt := toNat_lt c
      rw [encode, digitsBeforePad_symbol (by omega), digitsBeforePad_symbol (by omega),
        digitsBeforePad_symbol (by omega), digitsBeforePad_symbol (by omega), ih, digitsOf]

theorem decode_encode (bytes : List UInt8) :
    decode alphabet (encode alphabet bytes) = some bytes := by
  induction bytes using digitsOf.induct with
  | case1 => rfl
  | case2 a =>
      have aLt := toNat_lt a
      rw [encode, decode, if_pos ⟨rfl, rfl⟩, if_pos rfl, decodeOne,
        alphabet.value_symbol _ (by omega), alphabet.value_symbol _ (by omega)]
      simp only [Option.bind_eq_bind, Option.bind_some]
      rw [if_pos (by omega), ofNat_eq a (by omega)]
      rfl
  | case3 a b =>
      have aLt := toNat_lt a
      have bLt := toNat_lt b
      rw [encode, decode, if_pos ⟨rfl, rfl⟩, if_neg (symbol_ne_pad (by omega)),
        decodeTwo, alphabet.value_symbol _ (by omega), alphabet.value_symbol _ (by omega),
        alphabet.value_symbol _ (by omega)]
      simp only [Option.bind_eq_bind, Option.bind_some]
      rw [if_pos (by omega), ofNat_eq a (by omega),
        ofNat_eq b (by omega)]
      rfl
  | case4 a b c rest ih =>
      have aLt := toNat_lt a
      have bLt := toNat_lt b
      have cLt := toNat_lt c
      have open' : ¬ (alphabet.symbol (c.toNat % 64) = alphabet.pad ∧
          encode alphabet rest = []) :=
        fun padded => symbol_ne_pad (by omega) padded.1
      rw [encode, decode, if_neg open', decodeThree,
        alphabet.value_symbol _ (by omega), alphabet.value_symbol _ (by omega),
        alphabet.value_symbol _ (by omega), alphabet.value_symbol _ (by omega), ih]
      simp only [Option.bind_eq_bind, Option.bind_some]
      rw [ofNat_eq a (by omega), ofNat_eq b (by omega),
        ofNat_eq c (by omega)]
      rfl

/-- What is accepted is an encoding. -/
theorem encode_of_decode {text : List Symbol} {bytes : List UInt8}
    (decoded : decode alphabet text = some bytes) : encode alphabet bytes = text := by
  induction text using decode.induct alphabet generalizing bytes with
  | case1 =>
      cases decoded
      rfl
  | case2 first second fourth rest last =>
      obtain ⟨rfl, rfl⟩ := last
      rw [decode, if_pos ⟨rfl, rfl⟩, if_pos rfl] at decoded
      exact encode_of_decodeOne decoded
  | case3 first second third fourth rest last unpadded =>
      obtain ⟨rfl, rfl⟩ := last
      rw [decode, if_pos ⟨rfl, rfl⟩, if_neg unpadded] at decoded
      exact encode_of_decodeTwo decoded
  | case4 first second third fourth rest open' ih =>
      rw [decode, if_neg open'] at decoded
      simp only [Option.bind_eq_bind, Option.bind_eq_some_iff] at decoded
      obtain ⟨three, threeEq, more, moreEq, decoded⟩ := decoded
      cases decoded
      rw [encode_of_decodeThree threeEq, ih moreEq]
  | case5 text short long =>
      rw [decode] at decoded
      · cases decoded
      · exact short
      · exact long

/-- The strict decoder accepts exactly the encodings. -/
theorem decode_eq_some_iff {text : List Symbol} {bytes : List UInt8} :
    decode alphabet text = some bytes ↔ text = encode alphabet bytes := by
  constructor
  · exact fun decoded => (encode_of_decode decoded).symm
  · rintro rfl
    exact decode_encode bytes

end Texts

end Base64
