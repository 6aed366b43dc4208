import SolanaProtocols.PrefixCodec

/-!
# Tagged layouts

A stored record starts with a tag, its fields follow, and whatever the storage
was allocated beyond them is padding.  Reading what follows the tag finds the
value that a record holds, and fields of a fixed width bound the length of a
record from below.
-/

namespace SolanaProtocols

namespace PrefixCodec

variable {α β : Type}

theorem many_byte_encode {count : Nat}
    (bytes : { bytes : List UInt8 // bytes.length = count }) :
    (byte.many count).encode bytes = bytes.val := by
  induction count with
  | zero => exact (List.eq_nil_of_length_eq_zero bytes.property).symm
  | succ count ih =>
      obtain ⟨bytes, counted⟩ := bytes
      cases bytes with
      | nil => cases counted
      | cons first bytes =>
          exact congrArg (first :: ·) (ih ⟨bytes, Nat.succ.inj counted⟩)

/-- An array of bytes stands for itself. -/
theorem array_byte_encode {len : Nat} (bytes : Vector UInt8 len) :
    (byte.array len).encode bytes = bytes.toList :=
  many_byte_encode _

/-- Every value takes the same number of bytes. -/
def HasWidth (codec : PrefixCodec α) (width : Nat) : Prop :=
  ∀ value, (codec.encode value).length = width

namespace HasWidth

theorem byte : PrefixCodec.byte.HasWidth 1 :=
  fun _ => rfl

theorem bool : PrefixCodec.bool.HasWidth 1 :=
  fun _ => rfl

theorem littleEndian (len : Nat) : (PrefixCodec.littleEndian len).HasWidth len :=
  fun number => leBytes_length len number.toNat

theorem pair {first : PrefixCodec α} {second : PrefixCodec β} {left right : Nat}
    (firstWidth : first.HasWidth left) (secondWidth : second.HasWidth right) :
    (first.pair second).HasWidth (left + right) := by
  intro value
  have split : (first.pair second).encode value =
      first.encode value.1 ++ second.encode value.2 := rfl
  rw [split, List.length_append, firstWidth, secondWidth]

theorem equiv {codec : PrefixCodec α} {width : Nat} (hasWidth : codec.HasWidth width)
    (same : α ≃ β) : (codec.equiv same).HasWidth width :=
  fun value => hasWidth (same.symm value)

theorem many {codec : PrefixCodec α} {width : Nat} (hasWidth : codec.HasWidth width)
    (count : Nat) : (codec.many count).HasWidth (count * width) := by
  induction count with
  | zero =>
      intro values
      rw [Nat.zero_mul]
      rfl
  | succ count ih =>
      have total : (count + 1) * width = width + count * width := by
        rw [Nat.succ_mul, Nat.add_comm]
      rw [total]
      exact (hasWidth.pair ih).equiv _

theorem array {codec : PrefixCodec α} {width : Nat} (hasWidth : codec.HasWidth width)
    (len : Nat) : (codec.array len).HasWidth (len * width) :=
  (hasWidth.many len).equiv _

/-- Values of one width stand at the multiples of the width. -/
theorem take_drop_flatMap {codec : PrefixCodec α} {width : Nat}
    (hasWidth : codec.HasWidth width) {values : List α} {index : Nat}
    (indexLt : index < values.length) (rest : List UInt8) :
    ((values.flatMap codec.encode ++ rest).drop (width * index)).take width =
      codec.encode values[index] := by
  induction values generalizing index with
  | nil => cases indexLt
  | cons value values ih =>
      rw [List.flatMap_cons, List.append_assoc]
      cases index with
      | zero => simp [hasWidth value]
      | succ index =>
          have past : width * (index + 1) =
              (codec.encode value).length + width * index := by
            rw [hasWidth value, Nat.mul_succ, Nat.add_comm]
          rw [past, ← List.drop_drop, List.drop_left]
          exact ih (Nat.lt_of_succ_lt_succ indexLt)

end HasWidth

end PrefixCodec

/-- Fields behind a tag. -/
structure TaggedLayout (α : Type) where
  tag : List UInt8
  fields : PrefixCodec α

namespace TaggedLayout

variable {α : Type}

/-- The bytes are the tag, the fields of the value, and padding. -/
def Holds (layout : TaggedLayout α) (value : α) (data : List UInt8) : Prop :=
  ∃ padding, data = layout.tag ++ (layout.fields.encode value ++ padding)

/-- The bytes hold a value of the layout. -/
def IsRecord (layout : TaggedLayout α) (data : List UInt8) : Prop :=
  ∃ value, layout.Holds value data

variable {layout : TaggedLayout α} {value : α} {data : List UInt8}

theorem Holds.take_tag (holds : layout.Holds value data) :
    data.take layout.tag.length = layout.tag := by
  obtain ⟨padding, rfl⟩ := holds
  exact List.take_left

/-- What follows the tag is read as the value. -/
theorem holds_iff :
    layout.Holds value data ↔
      data.take layout.tag.length = layout.tag ∧
        ∃ padding, layout.fields.decode (data.drop layout.tag.length) =
          .ok (value, padding) := by
  constructor
  · intro holds
    refine ⟨holds.take_tag, ?_⟩
    obtain ⟨padding, rfl⟩ := holds
    rw [List.drop_left]
    exact ⟨padding, layout.fields.decode_encode value padding⟩
  · rintro ⟨tagged, padding, decoded⟩
    refine ⟨padding, ?_⟩
    calc data
        = data.take layout.tag.length ++ data.drop layout.tag.length :=
          (List.take_append_drop _ _).symm
      _ = layout.tag ++ (layout.fields.encode value ++ padding) := by
          rw [tagged, layout.fields.eq_append_of_decode decoded]

end TaggedLayout

end SolanaProtocols
