import SolanaProtocols.DlmmBitmap
import SolanaProtocols.PoolIdentification

/-!
# Dynamic DLMM positions

A position account is a fixed struct, with the first 70 bins inline, and behind
it one record for each further bin of the range.  Decoding reads exactly the
records the range asks for, unless the width of the range overflows an `i32` or
the allocator refuses the room that is reserved for the records beforehand.
-/

namespace SolanaProtocols

namespace MeteoraDlmm

open PrefixCodec PoolLayouts
open Pumpfun (U64 u64 u128 pubkey)

/-- The start of `sha256("account:PositionV2")`. -/
def positionV2Discriminator : Discriminator :=
  #v[117, 176, 212, 199, 245, 180, 133, 182]

section Layout

/-- Reward accumulators of one bin, which nothing here reads. -/
abbrev UserRewardInfo := Vector UInt8 48

/-- Fee checkpoint of one bin. -/
structure FeeInfo where
  feeXPerTokenComplete : U128
  feeYPerTokenComplete : U128
  feeXPending : U64
  feeYPending : U64
deriving DecidableEq

def FeeInfo.fields : PrefixCodec FeeInfo :=
  (u128.pair <| u128.pair <| u64.pair u64).equiv
    { toFun := fun (a, b, c, d) => ⟨a, b, c, d⟩
      invFun := fun ⟨a, b, c, d⟩ => (a, b, c, d)
      left_inv := fun _ => rfl
      right_inv := fun _ => rfl }

/-- The fixed struct.  What stands behind the range is not read here. -/
structure PositionV2 where
  discriminator : Discriminator
  lbPair : Pubkey
  owner : Pubkey
  liquidityShares : Vector U128 70
  rewardInfos : Vector UserRewardInfo 70
  feeInfos : Vector FeeInfo 70
  lowerBinId : BitVec 32
  upperBinId : BitVec 32
  unread : Vector UInt8 200
deriving DecidableEq

def PositionV2.fields : PrefixCodec PositionV2 :=
  ((byte.array 8).pair <| pubkey.pair <| pubkey.pair <| (u128.array 70).pair <|
    ((byte.array 48).array 70).pair <| (FeeInfo.fields.array 70).pair <|
    (littleEndian 4).pair <| (littleEndian 4).pair (byte.array 200)).equiv
    { toFun := fun (a, b, c, d, e, f, g, h, i) => ⟨a, b, c, d, e, f, g, h, i⟩
      invFun := fun ⟨a, b, c, d, e, f, g, h, i⟩ => (a, b, c, d, e, f, g, h, i)
      left_inv := fun _ => rfl
      right_inv := fun _ => rfl }

/-- `PositionV2::LEN`. -/
def PositionV2.len : Nat := 8120

/-- The record of one bin beyond the inline ones. -/
structure PositionBinData where
  liquidityShare : U128
  rewardInfo : UserRewardInfo
  feeInfo : FeeInfo
deriving DecidableEq

def PositionBinData.fields : PrefixCodec PositionBinData :=
  (u128.pair <| (byte.array 48).pair FeeInfo.fields).equiv
    { toFun := fun (a, b, c) => ⟨a, b, c⟩
      invFun := fun ⟨a, b, c⟩ => (a, b, c)
      left_inv := fun _ => rfl
      right_inv := fun _ => rfl }

def binDataSize : Nat := 112

/-- `size_of::<PositionBinData>()` -/
def PositionBinData.memorySize : Nat := 112

/-- `align_of::<PositionBinData>()` -/
def PositionBinData.memoryAlign : Nat := 16

theorem FeeInfo.fields_hasWidth : FeeInfo.fields.HasWidth 48 :=
  ((HasWidth.littleEndian 16).pair <| (HasWidth.littleEndian 16).pair <|
    (HasWidth.littleEndian 8).pair (HasWidth.littleEndian 8)).equiv _

theorem PositionV2.fields_hasWidth : PositionV2.fields.HasWidth len :=
  ((HasWidth.byte.array 8).pair <| (HasWidth.littleEndian 32).pair <|
    (HasWidth.littleEndian 32).pair <| ((HasWidth.littleEndian 16).array 70).pair <|
    ((HasWidth.byte.array 48).array 70).pair <|
    (FeeInfo.fields_hasWidth.array 70).pair <| (HasWidth.littleEndian 4).pair <|
    (HasWidth.littleEndian 4).pair (HasWidth.byte.array 200)).equiv _

theorem PositionBinData.fields_hasWidth :
    PositionBinData.fields.HasWidth binDataSize :=
  ((HasWidth.littleEndian 16).pair <|
    (HasWidth.byte.array 48).pair FeeInfo.fields_hasWidth).equiv _

end Layout

section Width

/-- `upper - lower + 1` in an `i32`, or nothing when a step overflows. -/
def binWidth (lower upper : Int) : Option Int := do
  let difference ← checkedSigned 32 (upper - lower)
  checkedSigned 32 (difference + 1)

/-- The width of a range is an `i32`. -/
def WidthFits (lower upper : Int) : Prop :=
  -2 ^ 31 ≤ upper - lower ∧ upper - lower + 1 < 2 ^ 31

theorem binWidth_eq_some_iff {lower upper width : Int} :
    binWidth lower upper = some width ↔
      WidthFits lower upper ∧ width = upper - lower + 1 := by
  simp only [binWidth, WidthFits, Option.bind_eq_bind, Option.bind_eq_some_iff,
    checkedSigned_eq_some_iff]
  constructor
  · rintro ⟨_, ⟨fits, rfl⟩, fits', rfl⟩
    exact ⟨⟨fits.1, fits'.2⟩, rfl⟩
  · rintro ⟨⟨above, below⟩, rfl⟩
    exact ⟨_, ⟨⟨above, by omega⟩, rfl⟩, ⟨by omega, below⟩, rfl⟩

/-- Bins of the range over the integers. -/
def PositionV2.width (base : PositionV2) : Nat :=
  (base.upperBinId.toInt - base.lowerBinId.toInt + 1).toNat

theorem PositionV2.width_eq (base : PositionV2) :
    (max (base.upperBinId.toInt - base.lowerBinId.toInt + 1) 0).toNat =
      base.width := by
  rw [width]
  omega

end Width

section Decoding

/-- A decoding error, or one of the ways a decoder could break off. -/
inductive DecodeFault
  | err (error : Error)
  | overflow
  | outOfRange
  | capacityOverflow
  | allocation (bytes : Nat)
deriving DecidableEq, Repr

/-- Whether a request for so many bytes is granted. -/
abbrev Allocator := Nat → Bool

/-- `Vec::with_capacity` of elements that take up room.  Without elements nothing
is asked for, and a refusal aborts. -/
def withCapacity (allocator : Allocator) (elementSize elementAlign capacity : Nat) :
    Except DecodeFault Unit :=
  if capacity = 0 then
    .ok ()
  else if 2 ^ 63 - elementAlign < elementSize * capacity then
    .error .capacityOverflow
  else if allocator (elementSize * capacity) then
    .ok ()
  else
    .error (.allocation (elementSize * capacity))

/-- `&data[..stop]` -/
def sliceTo (data : Bytes) (stop : Nat) : Except DecodeFault Bytes :=
  if stop ≤ data.length then .ok (data.take stop) else .error .outOfRange

/-- `&data[start..]` -/
def sliceFrom (data : Bytes) (start : Nat) : Except DecodeFault Bytes :=
  if start ≤ data.length then .ok (data.drop start) else .error .outOfRange

def orOverflow {Value : Type} : Option Value → Except DecodeFault Value
  | none => .error .overflow
  | some value => .ok value

/-- Decode the fixed struct and leave what follows. -/
def decodePositionV2 (data : Bytes) : Except DecodeFault PositionV2 := do
  if data.length < 8 then
    throw (.err (.accountDataTooShort 8 data.length))
  let front ← sliceTo data 8
  if front ≠ positionV2Discriminator.toList then
    throw (.err (.parseError ("PositionV2: discriminator mismatch (expected " ++
      debugBytes positionV2Discriminator.toList ++ ", got " ++
      debugBytes front ++ ")")))
  match PositionV2.fields.decode data with
  | .error message =>
      throw (.err (.parseError ("PositionV2: borsh decode failed: " ++ message)))
  | .ok (base, _) => return base

/-- A position with the records of the bins beyond the inline ones. -/
structure PositionV2Full where
  base : PositionV2
  extendedBins : List PositionBinData

/-- The loop over the appended records, with as many left to read. -/
def readExtendedBins (extendedCount : Nat) :
    Nat → Bytes → Except DecodeFault (List PositionBinData)
  | 0, _ => return []
  | left + 1, cur =>
      match PositionBinData.fields.decode cur with
      | .error message =>
          throw (.err (.parseError ("PositionV2: appended bin " ++
            toString (extendedCount - (left + 1)) ++ "/" ++
            toString extendedCount ++ " decode failed: " ++ message)))
      | .ok (bin, cur) => do
          return bin :: (← readExtendedBins extendedCount left cur)

/-- The records behind the fixed struct, which are not looked for when the inline
slots suffice. -/
def appendedBins (data : Bytes) (extendedCount : Nat) :
    Except DecodeFault (List PositionBinData) := do
  if 0 < extendedCount then
    if data.length < PositionV2.len then
      throw (.err (.accountDataTooShort PositionV2.len data.length))
    let cur ← sliceFrom data PositionV2.len
    readExtendedBins extendedCount extendedCount cur
  else
    return []

/-- Decode the fixed struct and the appended records. -/
def decodePositionV2Full (allocator : Allocator) (data : Bytes) :
    Except DecodeFault PositionV2Full := do
  let base ← decodePositionV2 data
  let width ← orOverflow
    (binWidth base.lowerBinId.toInt base.upperBinId.toInt)
  let width := (max width 0).toNat
  let inlineSlots := 70
  let extendedCount := width - inlineSlots
  -- The room is reserved before the length of the data is looked at.
  withCapacity allocator PositionBinData.memorySize PositionBinData.memoryAlign
    extendedCount
  let extendedBins ← appendedBins data extendedCount
  return { base := base, extendedBins := extendedBins }

end Decoding

namespace PositionV2Full

/-- Bins the position covers, or nothing when the width overflows. -/
def binCount (position : PositionV2Full) : Option Nat :=
  (binWidth position.base.lowerBinId.toInt position.base.upperBinId.toInt).map
    fun width => (max width 0).toNat

/-- The inline slot or the appended record of a bin of the range. -/
def slot {Slot : Type} (position : PositionV2Full)
    (inlineSlots : Vector Slot 70) (ofBinData : PositionBinData → Slot)
    (offset : Nat) : Option (Option Slot) := do
  if (← position.binCount) ≤ offset then
    return none
  else if inside : offset < 70 then
    return some inlineSlots[offset]
  else
    return (position.extendedBins[offset - 70]?).map ofBinData

def liquidityShare (position : PositionV2Full) (offset : Nat) :
    Option (Option U128) :=
  position.slot position.base.liquidityShares (·.liquidityShare) offset

def feeInfo (position : PositionV2Full) (offset : Nat) :
    Option (Option FeeInfo) :=
  position.slot position.base.feeInfos (·.feeInfo) offset

/-- Bins of the range over the integers. -/
def width (position : PositionV2Full) : Nat :=
  (position.base.upperBinId.toInt - position.base.lowerBinId.toInt + 1).toNat

variable {position : PositionV2Full} {Slot : Type} {offset : Nat}
variable {inlineSlots : Vector Slot 70} {ofBinData : PositionBinData → Slot}

theorem binCount_eq
    (fits : WidthFits position.base.lowerBinId.toInt
      position.base.upperBinId.toInt) :
    position.binCount = some position.width := by
  rw [binCount, binWidth_eq_some_iff.mpr ⟨fits, rfl⟩, Option.map_some,
    PositionV2.width_eq]
  rfl

theorem slot_eq
    (fits : WidthFits position.base.lowerBinId.toInt
      position.base.upperBinId.toInt) :
    position.slot inlineSlots ofBinData offset =
      some (if position.width ≤ offset then none
        else if inside : offset < 70 then some inlineSlots[offset]
        else (position.extendedBins[offset - 70]?).map ofBinData) := by
  simp only [slot, binCount_eq fits, Option.bind_eq_bind, Option.bind_some]
  split_ifs <;> rfl

theorem exists_slot {Other : Type} {slotRead : Slot}
    (read : position.slot inlineSlots ofBinData offset = some (some slotRead))
    (otherSlots : Vector Other 70) (ofOther : PositionBinData → Other) :
    ∃ other, position.slot otherSlots ofOther offset = some (some other) := by
  simp only [slot, Option.bind_eq_bind, Option.bind_eq_some_iff] at read ⊢
  obtain ⟨count, counted, read⟩ := read
  split_ifs at read with past inside
  · cases read
  · exact ⟨_, count, counted, by rw [if_neg past, dif_pos inside]; rfl⟩
  · obtain ⟨record, recorded, -⟩ :=
      Option.map_eq_some_iff.mp (Option.some.inj read)
    refine ⟨ofOther record, count, counted, ?_⟩
    rw [if_neg past, dif_neg inside, recorded]
    rfl

end PositionV2Full

section Outcomes

variable {Value Result : Type}

/-- A decoder gives a value or an error and does not break off. -/
def Returns (outcome : Except DecodeFault Value) : Prop :=
  ∀ fault, outcome = .error fault → ∃ error, fault = .err error

theorem returns_ok (value : Value) :
    Returns (.ok value : Except DecodeFault Value) :=
  fun _ failed => by cases failed

theorem returns_err (error : Error) :
    Returns (.error (.err error) : Except DecodeFault Value) := by
  intro fault failed
  cases failed
  exact ⟨error, rfl⟩

theorem Returns.bind {first : Except DecodeFault Value}
    {rest : Value → Except DecodeFault Result} (returns : Returns first)
    (restReturns : ∀ value, first = .ok value → Returns (rest value)) :
    Returns (first >>= rest) := by
  cases first with
  | error fault =>
      intro fault' failed
      cases failed
      exact returns fault rfl
  | ok value => exact restReturns value rfl

theorem Returns.of_bind {first : Except DecodeFault Value}
    {rest : Value → Except DecodeFault Result} (returns : Returns (first >>= rest)) :
    Returns first := by
  rintro fault rfl
  exact returns fault rfl

theorem Returns.after {first : Except DecodeFault Value} {value : Value}
    {rest : Value → Except DecodeFault Result} (returns : Returns (first >>= rest))
    (firstEq : first = .ok value) :
    Returns (rest value) := by
  subst firstEq
  exact returns

theorem returns_orOverflow_iff {option : Option Value} :
    Returns (orOverflow option) ↔ ∃ value, option = some value := by
  cases option with
  | none =>
      constructor
      · intro returns
        obtain ⟨error, fault⟩ := returns .overflow rfl
        cases fault
      · rintro ⟨value, present⟩
        cases present
  | some value => exact ⟨fun _ => ⟨value, rfl⟩, fun _ => returns_ok value⟩

theorem orOverflow_eq_ok_iff {option : Option Value} {value : Value} :
    orOverflow option = .ok value ↔ option = some value := by
  cases option <;> simp [orOverflow]

theorem sliceTo_eq_ok {data : Bytes} {stop : Nat} (enough : stop ≤ data.length) :
    sliceTo data stop = .ok (data.take stop) :=
  if_pos enough

theorem sliceFrom_eq_ok {data : Bytes} {start : Nat}
    (enough : start ≤ data.length) :
    sliceFrom data start = .ok (data.drop start) :=
  if_pos enough

end Outcomes

section Room

variable {allocator : Allocator} {base : PositionV2}

/-- The width of the range is an `i32`, and the room for the records behind the
inline slots is granted, if any is asked for. -/
structure RangeFits (allocator : Allocator) (base : PositionV2) : Prop where
  width : WidthFits base.lowerBinId.toInt base.upperBinId.toInt
  granted : base.width ≤ 70 ∨
    allocator (PositionBinData.memorySize * (base.width - 70)) = true

/-- Records for a range that is an `i32` wide never ask for more than there can
be, so that only the allocator can refuse them. -/
theorem withCapacity_eq
    (fits : WidthFits base.lowerBinId.toInt base.upperBinId.toInt) :
    withCapacity allocator PositionBinData.memorySize PositionBinData.memoryAlign
        (base.width - 70) =
      if base.width - 70 = 0 then .ok ()
      else if allocator (PositionBinData.memorySize * (base.width - 70)) then .ok ()
      else .error
        (.allocation (PositionBinData.memorySize * (base.width - 70))) := by
  have narrow : base.width < 2 ^ 31 := by
    have below := fits.2
    rw [PositionV2.width]
    omega
  have possible : ¬ 2 ^ 63 - PositionBinData.memoryAlign <
      PositionBinData.memorySize * (base.width - 70) := by
    rw [PositionBinData.memoryAlign, PositionBinData.memorySize]
    omega
  rw [withCapacity, if_neg possible]

theorem withCapacity_eq_ok_iff
    (fits : WidthFits base.lowerBinId.toInt base.upperBinId.toInt) :
    withCapacity allocator PositionBinData.memorySize PositionBinData.memoryAlign
        (base.width - 70) = .ok () ↔
      RangeFits allocator base := by
  rw [withCapacity_eq fits]
  constructor
  · intro reserved
    refine ⟨fits, ?_⟩
    split_ifs at reserved with inline granted
    · exact Or.inl (Nat.le_of_sub_eq_zero inline)
    · exact Or.inr granted
  · rintro ⟨-, inline | granted⟩
    · exact if_pos (Nat.sub_eq_zero_of_le inline)
    · rw [if_pos granted, ite_self]

theorem withCapacity_returns_iff
    (fits : WidthFits base.lowerBinId.toInt base.upperBinId.toInt) :
    Returns (withCapacity allocator PositionBinData.memorySize
        PositionBinData.memoryAlign (base.width - 70)) ↔
      RangeFits allocator base := by
  rw [← withCapacity_eq_ok_iff fits]
  constructor
  · intro returns
    rw [withCapacity_eq fits] at returns ⊢
    split_ifs at returns ⊢
    · rfl
    · rfl
    · obtain ⟨error, fault⟩ := returns _ rfl
      cases fault
  · intro reserved
    rw [reserved]
    exact returns_ok ()

end Room

section Decoded

variable {allocator : Allocator} {data : Bytes} {base : PositionV2}
  {position : PositionV2Full}

/-- Decoding the fixed struct without its checks on the way. -/
theorem decodePositionV2_eq (data : Bytes) :
    decodePositionV2 data =
      if data.length < 8 then .error (.err (.accountDataTooShort 8 data.length))
      else if data.take 8 ≠ positionV2Discriminator.toList then
        .error (.err (.parseError
          ("PositionV2: discriminator mismatch (expected " ++
            debugBytes positionV2Discriminator.toList ++ ", got " ++
            debugBytes (data.take 8) ++ ")")))
      else
        match PositionV2.fields.decode data with
        | .error message => .error (.err (.parseError
            ("PositionV2: borsh decode failed: " ++ message)))
        | .ok (base, _) => .ok base := by
  by_cases short : data.length < 8
  · simp only [decodePositionV2, short, if_true]
    rfl
  have sliced := @sliceTo_eq_ok data 8 (not_lt.mp short)
  by_cases mismatch : data.take 8 ≠ positionV2Discriminator.toList
  · rw [if_neg short, if_pos mismatch]
    simp only [decodePositionV2, short, if_false, sliced]
    exact if_pos mismatch
  · simp only [decodePositionV2, short, if_false, sliced, bind, Except.bind,
      mismatch]
    cases read : PositionV2.fields.decode data <;> rfl

theorem PositionV2.take_encode (base : PositionV2) (rest : Bytes) :
    (PositionV2.fields.encode base ++ rest).take 8 =
      base.discriminator.toList := by
  have front : ∃ back, PositionV2.fields.encode base =
      base.discriminator.toList ++ back :=
    ⟨_, congrArg (· ++ _) (array_byte_encode base.discriminator)⟩
  obtain ⟨back, front⟩ := front
  rw [front, List.append_assoc]
  exact List.take_left' base.discriminator.length_toList

/-- The fixed struct is at the front, under its discriminator. -/
theorem decodePositionV2_eq_ok_iff :
    decodePositionV2 data = .ok base ↔
      base.discriminator = positionV2Discriminator ∧
        ∃ rest, data = PositionV2.fields.encode base ++ rest := by
  rw [decodePositionV2_eq]
  constructor
  · intro decoded
    split_ifs at decoded with short mismatch
    cases read : PositionV2.fields.decode data with
    | error message => simp [read] at decoded
    | ok baseRest =>
        obtain ⟨base', rest⟩ := baseRest
        simp only [read, Except.ok.injEq] at decoded
        subst decoded
        have dataEq := PositionV2.fields.eq_append_of_decode read
        refine ⟨?_, rest, dataEq⟩
        rw [not_not, dataEq, PositionV2.take_encode] at mismatch
        exact Vector.toList_inj.mp mismatch
  · rintro ⟨tagged, rest, rfl⟩
    have enough := PositionV2.fields_hasWidth base
    rw [PositionV2.len] at enough
    rw [if_neg (by rw [List.length_append]; omega), PositionV2.take_encode,
      tagged, if_neg (not_not_intro rfl), PositionV2.fields.decode_encode]

theorem decodePositionV2_returns (data : Bytes) :
    Returns (decodePositionV2 data) := by
  rw [decodePositionV2_eq]
  split_ifs
  · exact returns_err _
  · exact returns_err _
  · cases PositionV2.fields.decode data with
    | error message => exact returns_err _
    | ok baseRest => exact returns_ok _

/-- As many records as asked for are read off the front. -/
theorem readExtendedBins_eq_ok_iff {extendedCount left : Nat} {cur : Bytes}
    {bins : List PositionBinData} :
    readExtendedBins extendedCount left cur = .ok bins ↔
      bins.length = left ∧
        ∃ rest, cur = bins.flatMap PositionBinData.fields.encode ++ rest := by
  induction left generalizing cur bins with
  | zero =>
      simp only [readExtendedBins, pure, Except.pure, Except.ok.injEq]
      constructor
      · rintro rfl
        exact ⟨rfl, cur, rfl⟩
      · rintro ⟨none, -⟩
        exact (List.eq_nil_of_length_eq_zero none).symm
  | succ left ih =>
      constructor
      · intro read
        rw [readExtendedBins] at read
        cases readFirst : PositionBinData.fields.decode cur with
        | error message => simp [readFirst] at read
        | ok binRest =>
            obtain ⟨bin, cur'⟩ := binRest
            simp only [readFirst, bind_eq_ok_iff] at read
            obtain ⟨bins', readRest, read⟩ := read
            cases read
            obtain ⟨lengthEq, rest, rfl⟩ := ih.mp readRest
            refine ⟨congrArg (· + 1) lengthEq, rest, ?_⟩
            rw [List.flatMap_cons, List.append_assoc]
            exact PositionBinData.fields.eq_append_of_decode readFirst
      · rintro ⟨lengthEq, rest, rfl⟩
        cases bins with
        | nil => cases lengthEq
        | cons bin bins =>
            have readRest := ih.mpr ⟨Nat.succ.inj lengthEq, rest, rfl⟩
            rw [List.flatMap_cons, List.append_assoc, readExtendedBins,
              PositionBinData.fields.decode_encode]
            simp only [readRest]
            rfl

theorem readExtendedBins_returns (extendedCount left : Nat) (cur : Bytes) :
    Returns (readExtendedBins extendedCount left cur) := by
  induction left generalizing cur with
  | zero => exact returns_ok _
  | succ left ih =>
      rw [readExtendedBins]
      cases PositionBinData.fields.decode cur with
      | error message => exact returns_err _
      | ok binRest => exact (ih binRest.2).bind fun bins _ => returns_ok _

theorem appendedBins_eq (base : PositionV2) (rest : Bytes) (extendedCount : Nat) :
    appendedBins (PositionV2.fields.encode base ++ rest) extendedCount =
      readExtendedBins extendedCount extendedCount rest := by
  have baseLength := PositionV2.fields_hasWidth base
  have enough : PositionV2.len ≤
      (PositionV2.fields.encode base ++ rest).length := by
    rw [List.length_append]
    omega
  by_cases wide : 0 < extendedCount
  · rw [appendedBins, if_pos wide, if_neg (not_lt.mpr enough),
      sliceFrom_eq_ok enough, List.drop_left' baseLength]
    rfl
  · obtain rfl : extendedCount = 0 := by omega
    rfl

/-- A decoded position is its fixed struct and the records behind it, as many
as its range asks for. -/
theorem decodePositionV2Full_eq_ok_iff :
    decodePositionV2Full allocator data = .ok position ↔
      position.base.discriminator = positionV2Discriminator ∧
        RangeFits allocator position.base ∧
        position.extendedBins.length = position.width - 70 ∧
        ∃ rest, data = PositionV2.fields.encode position.base ++
          (position.extendedBins.flatMap PositionBinData.fields.encode ++
            rest) := by
  obtain ⟨base, bins⟩ := position
  simp only [decodePositionV2Full, bind_eq_ok_iff]
  constructor
  · rintro ⟨base', decoded, width, widthEq, ⟨⟩, reserved, bins', binsEq, built⟩
    cases built
    obtain ⟨tagged, rest, rfl⟩ := decodePositionV2_eq_ok_iff.mp decoded
    obtain ⟨fits, rfl⟩ :=
      binWidth_eq_some_iff.mp (orOverflow_eq_ok_iff.mp widthEq)
    rw [PositionV2.width_eq] at reserved binsEq
    rw [appendedBins_eq] at binsEq
    obtain ⟨lengthEq, rest', rfl⟩ := readExtendedBins_eq_ok_iff.mp binsEq
    exact ⟨tagged, (withCapacity_eq_ok_iff fits).mp reserved, lengthEq, rest', rfl⟩
  · rintro ⟨tagged, fits, lengthEq, rest, rfl⟩
    refine ⟨base, decodePositionV2_eq_ok_iff.mpr ⟨tagged, _, rfl⟩, _,
      orOverflow_eq_ok_iff.mpr (binWidth_eq_some_iff.mpr ⟨fits.width, rfl⟩), (), ?_,
      bins, ?_, rfl⟩
    all_goals rw [PositionV2.width_eq]
    · exact (withCapacity_eq_ok_iff fits.width).mpr fits
    · rw [appendedBins_eq]
      exact readExtendedBins_eq_ok_iff.mpr ⟨lengthEq, rest, rfl⟩

/-- Decoding breaks off exactly when the width of the range overflows or the
room for the records is refused. -/
theorem decodePositionV2Full_returns_iff :
    Returns (decodePositionV2Full allocator data) ↔
      ∀ base, decodePositionV2 data = .ok base → RangeFits allocator base := by
  constructor
  · intro returns base decoded
    rw [decodePositionV2Full] at returns
    have fromBase := returns.after decoded
    obtain ⟨width, widthEq⟩ := returns_orOverflow_iff.mp fromBase.of_bind
    obtain ⟨fits, rfl⟩ := binWidth_eq_some_iff.mp widthEq
    have fromWidth := fromBase.after (orOverflow_eq_ok_iff.mpr widthEq)
    have reserved := Returns.of_bind fromWidth
    rw [PositionV2.width_eq] at reserved
    exact (withCapacity_returns_iff fits).mp reserved
  · intro fits
    refine (decodePositionV2_returns data).bind fun base decoded => ?_
    have baseFits := fits base decoded
    obtain ⟨-, rest, rfl⟩ := decodePositionV2_eq_ok_iff.mp decoded
    rw [binWidth_eq_some_iff.mpr ⟨baseFits.width, rfl⟩, orOverflow]
    refine (returns_ok _).bind fun width widthEq => ?_
    cases widthEq
    rw [PositionV2.width_eq]
    refine ((withCapacity_returns_iff baseFits.width).mpr baseFits).bind
      fun _ _ => ?_
    rw [appendedBins_eq]
    exact (readExtendedBins_returns _ _ rest).bind fun bins _ => returns_ok _

end Decoded

section Exact

variable {allocator : Allocator} {data : Bytes} {position : PositionV2Full}

/-- An accessor gives the inline slot or the slot of the appended record of
every bin of the range, and nothing past the range. -/
structure ReadsSlots {Slot : Type} (position : PositionV2Full)
    (inlineSlots : Vector Slot 70) (ofBinData : PositionBinData → Slot)
    (read : Nat → Option (Option Slot)) : Prop where
  isInline : ∀ offset (inside : offset < 70), offset < position.width →
    read offset = some (some inlineSlots[offset])
  appended : ∀ offset, 70 ≤ offset → offset < position.width →
    ∃ record, position.extendedBins[offset - 70]? = some record ∧
      read offset = some (some (ofBinData record))
  outside : ∀ offset, position.width ≤ offset → read offset = some none

/-- Decoding ends in a value or an error, and a decoded position is what the
bytes hold, whatever follows them. -/
structure DecodesExactly (allocator : Allocator) (data : Bytes) : Prop where
  returns : Returns (decodePositionV2Full allocator data)
  fixedStruct : ∀ position, decodePositionV2Full allocator data = .ok position →
    decodePositionV2 data = .ok position.base
  recordCount : ∀ position, decodePositionV2Full allocator data = .ok position →
    position.extendedBins.length = position.width - 70
  records : ∀ position, decodePositionV2Full allocator data = .ok position →
    ∀ index (inside : index < position.extendedBins.length),
      (data.drop (PositionV2.len + binDataSize * index)).take binDataSize =
        PositionBinData.fields.encode position.extendedBins[index]
  shares : ∀ position, decodePositionV2Full allocator data = .ok position →
    ReadsSlots position position.base.liquidityShares (·.liquidityShare)
      position.liquidityShare
  feeInfos : ∀ position, decodePositionV2Full allocator data = .ok position →
    ReadsSlots position position.base.feeInfos (·.feeInfo) position.feeInfo
  appendStable : ∀ position, decodePositionV2Full allocator data = .ok position →
    ∀ more, decodePositionV2Full allocator (data ++ more) = .ok position

theorem readsSlots_of_decoded {Slot : Type} {inlineSlots : Vector Slot 70}
    {ofBinData : PositionBinData → Slot}
    (decoded : decodePositionV2Full allocator data = .ok position) :
    ReadsSlots position inlineSlots ofBinData
      (position.slot inlineSlots ofBinData) := by
  obtain ⟨-, fits, lengthEq, -⟩ := decodePositionV2Full_eq_ok_iff.mp decoded
  constructor
  · intro offset inside covered
    rw [PositionV2Full.slot_eq fits.width, if_neg (not_le.mpr covered), dif_pos inside]
  · intro offset beyond covered
    have recorded : offset - 70 < position.extendedBins.length := by omega
    refine ⟨position.extendedBins[offset - 70],
      List.getElem?_eq_getElem recorded, ?_⟩
    rw [PositionV2Full.slot_eq fits.width, if_neg (not_le.mpr covered),
      dif_neg (not_lt.mpr beyond), List.getElem?_eq_getElem recorded]
    rfl
  · intro offset past
    rw [PositionV2Full.slot_eq fits.width, if_pos past]

/-- Position decoding is total and exact for exactly the accounts whose range
has a width that is an `i32` and records that the allocator has room for. -/
theorem decodesExactly_iff (allocator : Allocator) (data : Bytes) :
    DecodesExactly allocator data ↔
      ∀ base, decodePositionV2 data = .ok base → RangeFits allocator base := by
  refine ⟨fun exactly => decodePositionV2Full_returns_iff.mp exactly.returns,
    fun fits => ⟨decodePositionV2Full_returns_iff.mpr fits, ?_, ?_, ?_, ?_, ?_,
      ?_⟩⟩
  all_goals
    intro position decoded
    obtain ⟨tagged, positionFits, lengthEq, rest, dataEq⟩ :=
      decodePositionV2Full_eq_ok_iff.mp decoded
  · exact decodePositionV2_eq_ok_iff.mpr ⟨tagged, _, dataEq⟩
  · exact lengthEq
  · intro index inside
    rw [dataEq, ← List.drop_drop,
      List.drop_left' (PositionV2.fields_hasWidth position.base)]
    exact PositionBinData.fields_hasWidth.take_drop_flatMap inside rest
  · exact readsSlots_of_decoded decoded
  · exact readsSlots_of_decoded decoded
  · intro more
    refine decodePositionV2Full_eq_ok_iff.mpr
      ⟨tagged, positionFits, lengthEq, rest ++ more, ?_⟩
    rw [dataEq, List.append_assoc, List.append_assoc]

/-- A position over every bin id of an `i32`. -/
def widestPosition : PositionV2 where
  discriminator := positionV2Discriminator
  lbPair := 0
  owner := 0
  liquidityShares := .replicate 70 0
  rewardInfos := .replicate 70 (.replicate 48 0)
  feeInfos := .replicate 70 ⟨0, 0, 0, 0⟩
  lowerBinId := BitVec.intMin 32
  upperBinId := BitVec.intMax 32
  unread := .replicate 200 0

/-- The width of the widest range overflows, whatever is granted. -/
theorem widestPosition_overflows :
    ¬ DecodesExactly (fun _ => true) (PositionV2.fields.encode widestPosition) := by
  intro exactly
  have fits := decodePositionV2Full_returns_iff.mp exactly.returns widestPosition
    (decodePositionV2_eq_ok_iff.mpr ⟨rfl, [], (List.append_nil _).symm⟩)
  have overflows : ¬ WidthFits widestPosition.lowerBinId.toInt
      widestPosition.upperBinId.toInt := by
    rw [WidthFits]
    decide
  exact overflows fits.width

end Exact

end MeteoraDlmm

end SolanaProtocols
