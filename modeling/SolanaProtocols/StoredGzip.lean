import SolanaProtocols.TaggedLayout

/-!
# Gzip members of stored blocks

A member has a header, the compressed data, and behind it a checksum and the
length of what was compressed.  Data may be stored as it is, in blocks of at most
65535 bytes, the last of which is marked.  What is stored this way is read back.
-/

namespace SolanaProtocols

namespace StoredGzip

open PrefixCodec

/-- No name and no time, the fastest level, and an unknown system. -/
def header : List UInt8 := [0x1F, 0x8B, 8, 0, 0, 0, 0, 0, 4, 0xFF]

/-- One bit of the division behind the checksum. -/
def crcBit (crc : BitVec 32) : BitVec 32 :=
  if crc.getLsbD 0 then (crc >>> 1) ^^^ 0xEDB88320#32 else crc >>> 1

def crcByte (crc : BitVec 32) (byte : UInt8) : BitVec 32 :=
  Nat.repeat crcBit 8 (crc ^^^ byte.toBitVec.setWidth 32)

/-- The checksum of the trailer. -/
def crc32 (bytes : List UInt8) : BitVec 32 :=
  ~~~ bytes.foldl crcByte 0xFFFFFFFF#32

example : crc32 [0x31, 0x32, 0x33, 0x34, 0x35, 0x36, 0x37, 0x38, 0x39] =
    0xCBF43926#32 := by
  decide +kernel

/-- The length of a block, and its complement. -/
abbrev Lengths := { lengths : BitVec 16 × BitVec 16 // lengths.2 = ~~~lengths.1 }

/-- Whether the block is the last one, and its bytes after their number. -/
abbrev Block :=
  Bool × ((lengths : Lengths) × { bytes : List UInt8 // bytes.length = lengths.val.1.toNat })

/-- A block starts at a byte, so that its marker has that byte for itself. -/
def block : PrefixCodec Block :=
  bool.pair <|
    (((littleEndian 2).pair (littleEndian 2)).refine (fun lengths => lengths.2 = ~~~lengths.1)
      (fun _ => "invalid stored block lengths")).sigma fun lengths =>
        byte.many lengths.val.1.toNat

def maxStored : Nat := 65535

/-- The first bytes of what is left to store, as many as a block holds. -/
def firstBlock (last : Bool) (bytes : List UInt8) : Block :=
  (last, ⟨⟨(BitVec.ofNat 16 (bytes.take maxStored).length,
      ~~~BitVec.ofNat 16 (bytes.take maxStored).length), rfl⟩,
    bytes.take maxStored, by
      have short : (bytes.take maxStored).length < 2 ^ 16 :=
        Nat.lt_succ_of_le (List.length_take_le maxStored bytes)
      rw [BitVec.toNat_ofNat, Nat.mod_eq_of_lt short]⟩)

def storedBlocks (bytes : List UInt8) : List UInt8 :=
  if maxStored < bytes.length then
    block.encode (firstBlock false bytes) ++ storedBlocks (bytes.drop maxStored)
  else
    block.encode (firstBlock true bytes)
termination_by bytes.length
decreasing_by
  rw [List.length_drop, maxStored] at *
  omega

/-- Read blocks up to the last one, of which there are at most as many. -/
def readBlocks : Nat → List UInt8 → Except String (List UInt8 × List UInt8)
  | 0, _ => .error "no last block"
  | atMost + 1, bytes => do
      let (block, rest) ← block.decode bytes
      if block.1 then
        return (block.2.2.val, rest)
      else
        let (more, rest) ← readBlocks atMost rest
        return (block.2.2.val ++ more, rest)

theorem readBlocks_storedBlocks {atMost : Nat} {bytes : List UInt8}
    (enough : bytes.length < atMost) (rest : List UInt8) :
    readBlocks atMost (storedBlocks bytes ++ rest) = .ok (bytes, rest) := by
  induction atMost generalizing bytes with
  | zero => exact absurd enough (Nat.not_lt_zero _)
  | succ atMost ih =>
      rw [storedBlocks, readBlocks]
      split_ifs with long
      · have fewer : (bytes.drop maxStored).length < atMost := by
          rw [List.length_drop, maxStored] at *
          omega
        rw [List.append_assoc, block.decode_encode]
        simp only [bind, Except.bind, firstBlock, Bool.false_eq_true, if_false, ih fewer]
        rw [List.take_append_drop]
        rfl
      · have whole : bytes.take maxStored = bytes :=
          List.take_of_length_le (Nat.le_of_not_lt long)
        rw [block.decode_encode]
        simp only [bind, Except.bind, firstBlock, if_true, whole]
        rfl

/-- A block is not shorter than its bytes. -/
theorem length_le_block (value : Block) :
    value.2.2.val.length ≤ (block.encode value).length := by
  have stored := congrArg List.length (many_byte_encode value.2.2)
  have parts : block.encode value = bool.encode value.1 ++
      (_ ++ (byte.many value.2.1.val.1.toNat).encode value.2.2) := rfl
  rw [parts, List.length_append, List.length_append, stored]
  omega

theorem length_le_storedBlocks (bytes : List UInt8) :
    bytes.length ≤ (storedBlocks bytes).length := by
  fun_induction storedBlocks bytes with
  | case1 bytes long ih =>
      have first := length_le_block (firstBlock false bytes)
      have parts := congrArg List.length (bytes.take_append_drop maxStored)
      rw [List.length_append] at parts ⊢
      rw [← parts]
      exact Nat.add_le_add first ih
  | case2 bytes short =>
      have whole : bytes.take maxStored = bytes :=
        List.take_of_length_le (Nat.le_of_not_lt short)
      calc
        bytes.length = (bytes.take maxStored).length := by rw [whole]
        _ ≤ (block.encode (firstBlock true bytes)).length :=
          length_le_block (firstBlock true bytes)

/-- The checksum and the length. -/
def trailer : PrefixCodec (BitVec 32 × BitVec 32) :=
  (littleEndian 4).pair (littleEndian 4)

def compress (bytes : List UInt8) : List UInt8 :=
  header ++ (storedBlocks bytes ++
    trailer.encode (crc32 bytes, BitVec.ofNat 32 bytes.length))

/-- Read a member and check its trailer. -/
def decompress (file : List UInt8) : Option (List UInt8) := do
  guard (file.take header.length = header)
  let (bytes, rest) ← (readBlocks file.length (file.drop header.length)).toOption
  let (checks, _) ← (trailer.decode rest).toOption
  guard (checks = (crc32 bytes, BitVec.ofNat 32 bytes.length))
  return bytes

theorem decompress_compress (bytes : List UInt8) :
    decompress (compress bytes) = some bytes := by
  have enough : bytes.length < (compress bytes).length := by
    have stored := length_le_storedBlocks bytes
    rw [compress, List.length_append, List.length_append, header]
    simp only [List.length_cons]
    omega
  rw [decompress, compress, List.take_left, List.drop_left, ← compress,
    readBlocks_storedBlocks enough]
  have checked := trailer.decode_encode (crc32 bytes, BitVec.ofNat 32 bytes.length) []
  rw [List.append_nil] at checked
  simp [checked, Except.toOption]

end StoredGzip

end SolanaProtocols
