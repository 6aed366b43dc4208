import SolanaProtocols.Base64
import SolanaProtocols.LogEntry

/-!
# The decoder of derived log parsers

A derived log parser decodes base64 by itself: it shifts six bits of each
character into a buffer and takes a byte whenever there are eight, leaving out
characters of no value and stopping at the first padding character.  It reads
every encoding as the strict decoder does, and other text as the digits in it.
-/

namespace SolanaProtocols

/-- The bytes of a string. -/
def Text.toUtf8 (text : Text) : Bytes :=
  text.flatMap String.utf8EncodeChar

namespace LogParser

/-- The digits of standard base64 in order. -/
def alphabet : Bytes :=
  "ABCDEFGHIJKLMNOPQRSTUVWXYZabcdefghijklmnopqrstuvwxyz0123456789+/".toList.map
    fun char => UInt8.ofNat char.toNat

/-- The value of each byte, 255 for those of no value. -/
def decodeTable : List UInt8 :=
  alphabet.zipIdx.foldl (fun table (char, idx) => table.set char.toNat (UInt8.ofNat idx))
    (List.replicate 256 255)

/-- The bytes decoded so far and the bits that do not fill a byte yet. -/
structure DecodeState where
  output : Bytes
  buffer : Nat
  bits : Nat
deriving DecidableEq, Repr

def DecodeState.initial : DecodeState := ⟨[], 0, 0⟩

/-- Shift a value into the buffer, an unsigned integer of 32 bits. -/
def DecodeState.push (state : DecodeState) (value : Nat) : DecodeState :=
  let buffer := ((state.buffer <<< 6) % 2 ^ 32) ||| value
  let bits := state.bits + 6
  if 8 ≤ bits then
    { output := state.output ++ [UInt8.ofNat (buffer >>> (bits - 8))]
      buffer := buffer &&& ((1 <<< (bits - 8)) - 1)
      bits := bits - 8 }
  else { output := state.output, buffer := buffer, bits := bits }

/-- Decode the rest of the input. -/
def decodeLoop (state : DecodeState) : Bytes → DecodeState
  | [] => state
  | byte :: rest =>
      if byte = 61 then state
      else
        let value := decodeTable.getD byte.toNat 255
        -- Whitespace and other bytes of no value are skipped.
        if value = 255 then decodeLoop state rest
        else decodeLoop (state.push value.toNat) rest

/-- Decode base64 with the standard alphabet. -/
def decodeBase64 (text : Text) : Except String Bytes :=
  .ok (decodeLoop .initial text.toUtf8).output

section Standard

/-- The value of a byte in standard base64. -/
def standardValue (byte : UInt8) : Option Nat :=
  if 65 ≤ byte ∧ byte ≤ 90 then some (byte.toNat - 65)
  else if 97 ≤ byte ∧ byte ≤ 122 then some (byte.toNat - 71)
  else if 48 ≤ byte ∧ byte ≤ 57 then some (byte.toNat + 4)
  else if byte = 43 then some 62
  else if byte = 47 then some 63
  else none

theorem standardValue_symbol : ∀ digit < 64,
    standardValue (alphabet.getD digit 61) = some digit := by
  decide +kernel

theorem symbol_of_standardValue_ofNat : ∀ code < 256, ∀ digit ∈ standardValue (UInt8.ofNat code),
    digit < 64 ∧ alphabet.getD digit 61 = UInt8.ofNat code := by
  decide +kernel

theorem symbol_of_standardValue {byte : UInt8} {digit : Nat}
    (value : standardValue byte = some digit) :
    digit < 64 ∧ alphabet.getD digit 61 = byte := by
  have found := symbol_of_standardValue_ofNat byte.toNat byte.toNat_lt digit
  rw [UInt8.ofNat_toNat] at found
  exact found value

/-- Standard base64 on bytes, with padding. -/
def standard : Base64Alphabet UInt8 where
  symbol digit := alphabet.getD digit 61
  value := standardValue
  pad := 61
  value_symbol := standardValue_symbol
  symbol_of_value := symbol_of_standardValue
  value_pad := rfl

theorem decodeTable_ofNat : ∀ code < 256,
    decodeTable.getD (UInt8.ofNat code).toNat 255 =
      ((standardValue (UInt8.ofNat code)).map UInt8.ofNat).getD 255 := by
  decide +kernel

theorem decodeTable_eq (byte : UInt8) :
    decodeTable.getD byte.toNat 255 = ((standardValue byte).map UInt8.ofNat).getD 255 := by
  have entry := decodeTable_ofNat byte.toNat byte.toNat_lt
  rwa [UInt8.ofNat_toNat] at entry

end Standard

section Run

variable {output : Bytes} {buffer value : Nat}

theorem shift_or_eq (fits : buffer < 2 ^ 26) (digit : value < 64) :
    ((buffer <<< 6) % 2 ^ 32) ||| value = buffer * 64 + value := by
  have shifted : buffer <<< 6 = buffer * 64 := Nat.shiftLeft_eq buffer 6
  have small : (buffer <<< 6) % 2 ^ 32 = buffer <<< 6 := by
    rw [shifted]
    omega
  rw [small, ← Nat.shiftLeft_add_eq_or_of_lt digit, shifted]

theorem push_first (digit : value < 64) :
    DecodeState.push ⟨output, 0, 0⟩ value = ⟨output, value, 6⟩ := by
  rw [DecodeState.push]
  dsimp only
  rw [shift_or_eq (by omega) digit, if_neg (by omega), Nat.zero_mul, Nat.zero_add]

/-- With at least two bits in the buffer, a value completes a byte. -/
theorem push_more (bits : Nat) (kept : buffer < 2 ^ 26) (digit : value < 64) :
    DecodeState.push ⟨output, buffer, bits + 2⟩ value =
      ⟨output ++ [UInt8.ofNat ((buffer * 64 + value) / 2 ^ bits)],
        (buffer * 64 + value) % 2 ^ bits, bits⟩ := by
  have left : bits + 2 + 6 - 8 = bits := by omega
  rw [DecodeState.push]
  dsimp only
  rw [shift_or_eq kept digit, if_pos (by omega), left, Nat.shiftRight_eq_div_pow,
    Nat.one_shiftLeft, Nat.and_two_pow_sub_one_eq_mod]

theorem push_second {x y : Nat} (xLt : x < 64) (yLt : y < 64) :
    DecodeState.push ⟨output, x, 6⟩ y =
      ⟨output ++ [UInt8.ofNat (x * 4 + y / 16)], y % 16, 4⟩ := by
  have byte : (x * 64 + y) / 2 ^ 4 = x * 4 + y / 16 := by omega
  have rest : (x * 64 + y) % 2 ^ 4 = y % 16 := by omega
  rw [push_more 4 (by omega) yLt, byte, rest]

theorem push_third {y z : Nat} (zLt : z < 64) :
    DecodeState.push ⟨output, y % 16, 4⟩ z =
      ⟨output ++ [UInt8.ofNat (y % 16 * 16 + z / 4)], z % 4, 2⟩ := by
  have byte : (y % 16 * 64 + z) / 2 ^ 2 = y % 16 * 16 + z / 4 := by omega
  have rest : (y % 16 * 64 + z) % 2 ^ 2 = z % 4 := by omega
  rw [push_more 2 (by omega) zLt, byte, rest]

theorem push_fourth {z w : Nat} (wLt : w < 64) :
    DecodeState.push ⟨output, z % 4, 2⟩ w =
      ⟨output ++ [UInt8.ofNat (z % 4 * 64 + w)], 0, 0⟩ := by
  have byte : (z % 4 * 64 + w) / 2 ^ 0 = z % 4 * 64 + w := by omega
  have rest : (z % 4 * 64 + w) % 2 ^ 0 = 0 := by omega
  rw [push_more 0 (by omega) wLt, byte, rest]

/-- From an empty buffer, the bytes that the digits fill are appended. -/
theorem foldl_push_output {digits : List Nat} (inside : ∀ digit ∈ digits, digit < 64) :
    (digits.foldl DecodeState.push ⟨output, 0, 0⟩).output =
      output ++ Base64.bytesOf digits := by
  induction digits using Base64.bytesOf.induct generalizing output with
  | case1 => exact (List.append_nil output).symm
  | case2 x =>
      obtain ⟨xLt, -⟩ := List.forall_mem_cons.mp inside
      rw [List.foldl_cons, push_first xLt]
      exact (List.append_nil output).symm
  | case3 x y =>
      simp only [List.forall_mem_cons] at inside
      obtain ⟨xLt, yLt, -⟩ := inside
      rw [List.foldl_cons, push_first xLt, List.foldl_cons, push_second xLt yLt]
      rfl
  | case4 x y z =>
      simp only [List.forall_mem_cons] at inside
      obtain ⟨xLt, yLt, zLt, -⟩ := inside
      rw [List.foldl_cons, push_first xLt, List.foldl_cons, push_second xLt yLt,
        List.foldl_cons, push_third zLt, List.foldl_nil, Base64.bytesOf,
        List.append_assoc]
      rfl
  | case5 x y z w rest ih =>
      simp only [List.forall_mem_cons] at inside
      obtain ⟨xLt, yLt, zLt, wLt, inside⟩ := inside
      rw [List.foldl_cons, push_first xLt, List.foldl_cons, push_second xLt yLt,
        List.foldl_cons, push_third zLt, List.foldl_cons, push_fourth wLt,
        ih inside, Base64.bytesOf, List.append_assoc, List.append_assoc,
        List.append_assoc]
      rfl

/-- The loop shifts in the digits before the padding. -/
theorem decodeLoop_eq (state : DecodeState) (input : Bytes) :
    decodeLoop state input =
      (Base64.digitsBeforePad standard input).foldl DecodeState.push state := by
  induction input generalizing state with
  | nil => rfl
  | cons byte rest ih =>
      rw [decodeLoop, Base64.digitsBeforePad, List.takeWhile_cons]
      by_cases padding : byte = 61
      · have stops : ¬ decide (byte ≠ standard.pad) = true :=
          fun different => of_decide_eq_true different padding
        rw [if_pos padding, if_neg stops]
        rfl
      · have goesOn : decide (byte ≠ standard.pad) = true := decide_eq_true padding
        rw [if_neg padding, if_pos goesOn]
        dsimp only
        rw [decodeTable_eq]
        cases value : standardValue byte with
        | none =>
            have skipped : standard.value byte = none := value
            rw [List.filterMap_cons_none skipped]
            exact ih state
        | some digit =>
            have digitLt := (symbol_of_standardValue value).1
            have code : (UInt8.ofNat digit).toNat = digit := by
              rw [UInt8.toNat_ofNat']
              omega
            have hasValue : ¬ ((some digit).map UInt8.ofNat).getD 255 = 255 := by
              intro unset
              have codes := congrArg UInt8.toNat unset
              rw [Option.map_some, Option.getD_some, code] at codes
              have last : (255 : UInt8).toNat = 255 := rfl
              omega
            have shifted : standard.value byte = some digit := value
            rw [if_neg hasValue, List.filterMap_cons_some shifted, List.foldl_cons,
              Option.map_some, Option.getD_some, code]
            exact ih _

theorem digitsBeforePad_lt (input : Bytes) :
    ∀ digit ∈ Base64.digitsBeforePad standard input, digit < 64 := by
  intro digit member
  obtain ⟨byte, -, value⟩ := List.mem_filterMap.mp member
  exact (symbol_of_standardValue value).1

theorem decodeBase64_eq (text : Text) :
    decodeBase64 text =
      .ok (Base64.bytesOf (Base64.digitsBeforePad standard text.toUtf8)) := by
  rw [decodeBase64, decodeLoop_eq, DecodeState.initial,
    foldl_push_output (digitsBeforePad_lt _), List.nil_append]

end Run

section Agreement

/-- The strict decoder on a string. -/
def decodeStrict (text : Text) : Option Bytes :=
  Base64.decode standard text.toUtf8

/-- An encoding as a string. -/
def encodeText (bytes : Bytes) : Text :=
  (Base64.encode standard bytes).map fun byte => Char.ofNat byte.toNat

theorem utf8EncodeChar_of_ascii : ∀ code < 128,
    String.utf8EncodeChar (Char.ofNat code) = [UInt8.ofNat code] := by
  decide +kernel

theorem symbol_ascii : ∀ digit < 64, (standard.symbol digit).toNat < 128 := by
  decide +kernel

/-- Symbols are characters of one byte. -/
theorem utf8EncodeChar_of_mem_encode {bytes : Bytes} {byte : UInt8}
    (member : byte ∈ Base64.encode standard bytes) :
    String.utf8EncodeChar (Char.ofNat byte.toNat) = [byte] := by
  have ascii : byte.toNat < 128 := by
    rcases Base64.mem_encode member with rfl | ⟨digit, inside, rfl⟩
    · decide
    · exact symbol_ascii digit inside
  rw [utf8EncodeChar_of_ascii byte.toNat ascii, UInt8.ofNat_toNat]

theorem toUtf8_encodeText (bytes : Bytes) :
    (encodeText bytes).toUtf8 = Base64.encode standard bytes := by
  rw [encodeText, Text.toUtf8, List.flatMap_map]
  calc (Base64.encode standard bytes).flatMap
          (fun byte => String.utf8EncodeChar (Char.ofNat byte.toNat))
      = (Base64.encode standard bytes).flatMap (fun byte => [byte]) :=
        List.flatMap_congr fun byte member => utf8EncodeChar_of_mem_encode member
    _ = Base64.encode standard bytes := List.flatMap_singleton' _

theorem decodeBase64_of_encoding {text : Text} {bytes : Bytes}
    (encoding : text.toUtf8 = Base64.encode standard bytes) :
    decodeBase64 text = .ok bytes := by
  rw [decodeBase64_eq, encoding, Base64.digitsBeforePad_encode, Base64.bytesOf_digitsOf]

/-- Encodings are decoded to their bytes, and so is whatever the strict decoder
accepts.  Any other string is decoded as well, to the bytes that the digits
before the first padding character fill. -/
theorem decodeBase64_agrees :
    (∀ bytes : Bytes, decodeBase64 (encodeText bytes) = .ok bytes) ∧
      (∀ (text : Text) (bytes : Bytes), decodeStrict text = some bytes →
        decodeBase64 text = .ok bytes) ∧
      ∀ text : Text, decodeBase64 text =
        .ok (Base64.bytesOf (Base64.digitsBeforePad standard text.toUtf8)) := by
  refine ⟨fun bytes => decodeBase64_of_encoding (toUtf8_encodeText bytes),
    fun text bytes accepted => ?_, decodeBase64_eq⟩
  exact decodeBase64_of_encoding (Base64.decode_eq_some_iff.mp accepted)

/-- Text with a space is refused by the strict decoder and decoded here. -/
theorem decodeBase64_of_spaced :
    decodeStrict "T W E =".toList = none ∧
      decodeBase64 "T W E =".toList = .ok [77, 97] := by
  decide +kernel

end Agreement

end LogParser

end SolanaProtocols
