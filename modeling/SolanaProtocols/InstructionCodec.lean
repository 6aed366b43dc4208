import SolanaProtocols.OptionBool
import SolanaProtocols.PrefixCodec

/-!
# Instruction codec

An instruction enum reads the discriminator, and then hands what follows to the
arguments of the variant it names.  Writing is left to the arguments alone: a
derived arguments struct puts its own discriminator in front, and whatever else
puts nothing in front comes out without one.
-/

namespace SolanaProtocols

namespace Protocols

/-- Declared arguments: fields of the codec's own, or such fields before a
trailing `OptionBool` that takes the remainder. -/
inductive Arguments (Params : Type) : Type 1
  | fixed (fields : PrefixCodec Params)
  | trailing {Fields : Type} (fields : PrefixCodec Fields)
      (assemble : Fields × OptionBool ≃ Params)

namespace Arguments

variable {Params : Type}

/-- Encode the arguments. -/
def encode : Arguments Params → Params → Bytes
  | fixed fields, params => fields.encode params
  | trailing fields assemble, params =>
      fields.encode (assemble.symm params).1 ++
        (assemble.symm params).2.toBytes

/-- Decode the arguments and refuse what is left over. -/
def tryFromSlice : Arguments Params → Bytes → Except String Params
  | fixed fields, data => fields.tryFromSlice data
  | trailing fields assemble, data =>
      match fields.decode data with
      | .error message => .error message
      | .ok (front, rest) =>
          match OptionBool.fromBytes rest with
          | .error unknown => .error unknown.toText
          | .ok trailer => .ok (assemble (front, trailer))

/-- The trailing `OptionBool`, if there is one, is in the form of its bytes. -/
def Canonical : Arguments Params → Params → Prop
  | fixed _, _ => True
  | trailing _ assemble, params => (assemble.symm params).2.Canonical

/-- Bytes left over after the declared arguments. -/
def Leftover : Arguments Params → Bytes → Prop
  | fixed fields, data =>
      ∃ params rest, data = fields.encode params ++ rest ∧ rest ≠ []
  | trailing fields _, data =>
      ∃ front rest, data = fields.encode front ++ rest ∧
        trailerMax < rest.length

/-- Arguments are read from their bytes if they are the form of these. -/
theorem tryFromSlice_eq_ok_iff (arguments : Arguments Params) {data : Bytes}
    {params : Params} :
    arguments.tryFromSlice data = .ok params ↔
      data = arguments.encode params ∧ arguments.Canonical params := by
  cases arguments with
  | fixed fields =>
      rw [tryFromSlice, fields.tryFromSlice_eq_ok_iff]
      simp [encode, Canonical]
  | trailing fields assemble =>
      simp only [tryFromSlice, encode, Canonical]
      constructor
      · intro read
        split at read
        next => cases read
        next front rest readFront =>
          split at read
          next => cases read
          next trailer readTrailer =>
            cases read
            obtain ⟨restEq, canonical⟩ := OptionBool.fromBytes_eq_ok_iff.mp readTrailer
            rw [fields.eq_append_of_decode readFront, restEq,
              Equiv.symm_apply_apply]
            exact ⟨rfl, canonical⟩
      · rintro ⟨rfl, canonical⟩
        rw [fields.decode_encode]
        simp only
        rw [OptionBool.fromBytes_eq_ok_iff.mpr ⟨rfl, canonical⟩]
        simp

theorem tryFromSlice_leftover (arguments : Arguments Params) {data : Bytes}
    (leftover : arguments.Leftover data) :
    ∃ message, arguments.tryFromSlice data = .error message := by
  cases arguments with
  | fixed fields =>
      obtain ⟨params, rest, rfl, nonempty⟩ := leftover
      exact ⟨_, fields.tryFromSlice_leftover (fields.decode_encode params rest)
        nonempty⟩
  | trailing fields assemble =>
      obtain ⟨front, rest, rfl, long⟩ := leftover
      refine ⟨(UnknownOptionBool.mk rest).toText, ?_⟩
      simp only [tryFromSlice, fields.decode_encode,
        OptionBool.fromBytes_of_long long]

end Arguments

/-- The arguments type of a variant. -/
structure InstructionParams where
  Params : Type
  typeName : String
  arguments : Arguments Params
  /-- What `to_data` writes before the arguments. -/
  leading : Bytes

namespace InstructionParams

/-- A struct that derives `InstructionData`: it writes its own discriminator,
if it was given one. -/
def derived {Params : Type} (typeName : String)
    (discriminator : Option Bytes) (arguments : Arguments Params) :
    InstructionParams where
  Params := Params
  typeName := typeName
  arguments := arguments
  leading := discriminator.getD []

/-- Arguments for an instruction that declares none. -/
structure NoParams where
deriving DecidableEq, Repr

/-- `NoParams`, which encodes to nothing at all. -/
def noParams : InstructionParams where
  Params := NoParams
  typeName := "solana_protocols::parsing::traits::NoParams"
  arguments := .fixed (.only ⟨⟩ fun _ => rfl)
  leading := []

def toData (spec : InstructionParams) (params : spec.Params) : Bytes :=
  spec.leading ++ spec.arguments.encode params

/-- Decode arguments, without discriminator, from instruction data. -/
def fromInstructionData (spec : InstructionParams) (data : Bytes) :
    Except InstructionParseError spec.Params :=
  (spec.arguments.tryFromSlice data).mapError fun reason =>
    .deserializationFailed (spec.typeName ++ ": " ++ reason)

theorem fromInstructionData_eq_ok_iff (spec : InstructionParams) {data : Bytes}
    {params : spec.Params} :
    spec.fromInstructionData data = .ok params ↔
      data = spec.arguments.encode params ∧
        spec.arguments.Canonical params := by
  rw [← spec.arguments.tryFromSlice_eq_ok_iff, fromInstructionData]
  cases spec.arguments.tryFromSlice data <;> simp [Except.mapError]

end InstructionParams

/-- An enum that derives `ProtocolInstruction`. -/
structure InstructionEnum (Variant : Type) where
  discSize : Nat
  discSize_valid : discSize ∈ [1, 2, 4, 8]
  discriminator : Variant → Vector UInt8 discSize
  params : Variant → InstructionParams
  /-- The variants in the order they are declared. -/
  variants : List Variant
  mem_variants (variant : Variant) : variant ∈ variants

namespace InstructionEnum

/-- A value of the enum. -/
structure Instruction {Variant : Type} (enum : InstructionEnum Variant) where
  variant : Variant
  params : (enum.params variant).Params

variable {Variant : Type} (enum : InstructionEnum Variant)

/-- The first bytes of the data, padded with zeros to eight. -/
def reportedDiscriminator (data : Bytes) : Discriminator :=
  Vector.ofFn fun idx =>
    if idx.val < enum.discSize then data.getD idx.val 0 else 0

/-- Try the variants in turn. -/
def tryVariants (data : Bytes) :
    List Variant → Except InstructionParseError enum.Instruction
  | [] => .error (.unknownDiscriminator (enum.reportedDiscriminator data))
  | variant :: rest =>
      if enum.discSize ≤ data.length ∧
          data.take enum.discSize = (enum.discriminator variant).toList then
        ((enum.params variant).fromInstructionData
          (data.drop enum.discSize)).map (Instruction.mk variant)
      else tryVariants data rest

/-- Parse instruction data into the variant it names. -/
def tryFromSlice (data : Bytes) :
    Except InstructionParseError enum.Instruction :=
  if data.length < enum.discSize then .error .dataTooShort
  else enum.tryVariants data enum.variants

variable {enum}

/-- Serialize an instruction. -/
def Instruction.data (instruction : enum.Instruction) : Bytes :=
  (enum.params instruction.variant).toData instruction.params

/-- The discriminator of an instruction's variant. -/
def Instruction.discriminator (instruction : enum.Instruction) :
    Vector UInt8 enum.discSize :=
  enum.discriminator instruction.variant

/-- The argument bytes of an instruction. -/
def Instruction.arguments (instruction : enum.Instruction) : Bytes :=
  (enum.params instruction.variant).arguments.encode instruction.params

/-- What the writer puts in front is the discriminator that the reader looks
for. -/
def Instruction.WritesDiscriminator (instruction : enum.Instruction) : Prop :=
  (enum.params instruction.variant).leading = instruction.discriminator.toList

/-- A trailing `OptionBool` is in the form of its bytes. -/
def Instruction.Canonical (instruction : enum.Instruction) : Prop :=
  (enum.params instruction.variant).arguments.Canonical instruction.params

theorem take_drop_of_discriminator {variant : Variant} (rest : Bytes) :
    enum.discSize ≤ ((enum.discriminator variant).toList ++ rest).length ∧
      ((enum.discriminator variant).toList ++ rest).take enum.discSize =
        (enum.discriminator variant).toList ∧
      ((enum.discriminator variant).toList ++ rest).drop enum.discSize = rest := by
  have size := (enum.discriminator variant).length_toList
  refine ⟨?_, List.take_left' size, List.drop_left' size⟩
  rw [List.length_append, size]
  omega

/-- The reader finds the variant whose discriminator comes first. -/
theorem tryVariants_of_mem (distinct : Function.Injective enum.discriminator)
    {variant : Variant} {variants : List Variant} (member : variant ∈ variants)
    (rest : Bytes) :
    enum.tryVariants ((enum.discriminator variant).toList ++ rest) variants =
      ((enum.params variant).fromInstructionData rest).map (Instruction.mk variant) := by
  obtain ⟨long, front, back⟩ :=
    @take_drop_of_discriminator _ enum variant rest
  induction variants with
  | nil => cases member
  | cons first variants ih =>
      rw [tryVariants]
      by_cases same : first = variant
      · subst same
        rw [if_pos ⟨long, front⟩, back]
      · have different : (enum.discriminator variant).toList ≠
            (enum.discriminator first).toList := by
          intro equal
          exact same (distinct (Vector.toList_inj.mp equal)).symm
        rw [if_neg (by rw [front]; exact fun named => different named.2)]
        exact ih ((List.mem_cons.mp member).resolve_left fun equal =>
          same equal.symm)

theorem tryFromSlice_append (distinct : Function.Injective enum.discriminator)
    (variant : Variant) (rest : Bytes) :
    enum.tryFromSlice ((enum.discriminator variant).toList ++ rest) =
      ((enum.params variant).fromInstructionData rest).map (Instruction.mk variant) := by
  have long := (@take_drop_of_discriminator _ enum variant rest).1
  rw [tryFromSlice, if_neg (Nat.not_lt.mpr long),
    tryVariants_of_mem distinct (enum.mem_variants variant)]

theorem eq_append_of_tryVariants {data : Bytes} {variants : List Variant}
    {instruction : enum.Instruction}
    (read : enum.tryVariants data variants = .ok instruction) :
    data = instruction.discriminator.toList ++ instruction.arguments ∧
      instruction.Canonical := by
  induction variants with
  | nil => cases read
  | cons variant variants ih =>
      rw [tryVariants] at read
      split at read
      case isFalse => exact ih read
      case isTrue named =>
        cases decoded : (enum.params variant).fromInstructionData
            (data.drop enum.discSize) with
        | error err => simp [decoded, Except.map] at read
        | ok params =>
            simp only [decoded, Except.map, Except.ok.injEq] at read
            subst read
            obtain ⟨restEq, canonical⟩ :=
              (enum.params variant).fromInstructionData_eq_ok_iff.mp decoded
            refine ⟨?_, canonical⟩
            calc
              data = data.take enum.discSize ++ data.drop enum.discSize :=
                (List.take_append_drop _ _).symm
              _ = _ := by rw [named.2, restEq]; rfl

/-- What is read is what follows the discriminator, in the form of its bytes. -/
theorem tryFromSlice_eq_ok_iff (distinct : Function.Injective enum.discriminator)
    {data : Bytes} {instruction : enum.Instruction} :
    enum.tryFromSlice data = .ok instruction ↔
      data = instruction.discriminator.toList ++ instruction.arguments ∧
        instruction.Canonical := by
  constructor
  · intro read
    rw [tryFromSlice] at read
    split at read
    · cases read
    · exact eq_append_of_tryVariants read
  · obtain ⟨variant, params⟩ := instruction
    rintro ⟨rfl, canonical⟩
    have decoded := (enum.params variant).fromInstructionData_eq_ok_iff.mpr
      ⟨rfl, canonical⟩
    refine (tryFromSlice_append distinct variant _).trans ?_
    simp only [Instruction.arguments, decoded, Except.map]

/-- An instruction is read back from its data, which starts with its
discriminator. -/
def Instruction.RoundTrips (instruction : enum.Instruction) : Prop :=
  enum.tryFromSlice instruction.data = .ok instruction ∧
    instruction.discriminator.toList <+: instruction.data

theorem Instruction.data_eq (instruction : enum.Instruction) :
    instruction.data =
      (enum.params instruction.variant).leading ++ instruction.arguments :=
  rfl

theorem Instruction.roundTrips_iff
    (distinct : Function.Injective enum.discriminator)
    (instruction : enum.Instruction) :
    instruction.RoundTrips ↔
      instruction.WritesDiscriminator ∧ instruction.Canonical := by
  rw [RoundTrips, tryFromSlice_eq_ok_iff distinct, data_eq, WritesDiscriminator]
  constructor
  · rintro ⟨⟨same, canonical⟩, -⟩
    exact ⟨List.append_cancel_right same, canonical⟩
  · rintro ⟨writes, canonical⟩
    rw [writes]
    exact ⟨⟨rfl, canonical⟩, List.prefix_append _ _⟩

variable (enum) in
/-- Whatever is read from the data is written as the data. -/
def Reencodes (data : Bytes) : Prop :=
  ∀ instruction : enum.Instruction,
    enum.tryFromSlice data = .ok instruction → instruction.data = data

variable (enum) in
/-- The data is an instruction whose writer leaves its discriminator out. -/
def NamesUnwritten (data : Bytes) : Prop :=
  ∃ instruction : enum.Instruction, ¬ instruction.WritesDiscriminator ∧
    instruction.Canonical ∧
      data = instruction.discriminator.toList ++ instruction.arguments

theorem reencodes_iff (distinct : Function.Injective enum.discriminator)
    (data : Bytes) : enum.Reencodes data ↔ ¬ enum.NamesUnwritten data := by
  constructor
  · rintro reencodes ⟨instruction, unwritten, canonical, rfl⟩
    have written := reencodes instruction
      ((tryFromSlice_eq_ok_iff distinct).mpr ⟨rfl, canonical⟩)
    exact unwritten (List.append_cancel_right written)
  · intro written instruction read
    obtain ⟨rfl, canonical⟩ := (tryFromSlice_eq_ok_iff distinct).mp read
    have writes : instruction.WritesDiscriminator := by
      by_contra unwritten
      exact written ⟨instruction, unwritten, canonical, rfl⟩
    rw [instruction.data_eq, writes]

variable (enum) in
/-- Shorter than a discriminator, of none that is known, or longer than the
arguments of the variant that is named. -/
def Malformed (data : Bytes) : Prop :=
  data.length < enum.discSize ∨
    (∀ variant, ¬ (enum.discriminator variant).toList <+: data) ∨
      ∃ variant rest, data = (enum.discriminator variant).toList ++ rest ∧
        (enum.params variant).arguments.Leftover rest

theorem tryFromSlice_of_malformed
    (distinct : Function.Injective enum.discriminator) {data : Bytes}
    (malformed : enum.Malformed data) :
    ∃ err, enum.tryFromSlice data = .error err := by
  rcases malformed with short | unknown | ⟨variant, rest, rfl, leftover⟩
  · exact ⟨.dataTooShort, if_pos short⟩
  · cases read : enum.tryFromSlice data with
    | error err => exact ⟨err, rfl⟩
    | ok instruction =>
        obtain ⟨rfl, -⟩ := (tryFromSlice_eq_ok_iff distinct).mp read
        exact absurd (List.prefix_append _ _) (unknown instruction.variant)
  · obtain ⟨message, refused⟩ :=
      (enum.params variant).arguments.tryFromSlice_leftover leftover
    rw [tryFromSlice_append distinct, InstructionParams.fromInstructionData, refused]
    exact ⟨_, rfl⟩

/-- An instruction survives the round trip if and only if its writer puts the
discriminator in front and its trailing `OptionBool` is in the form of its
bytes; data is written as it was read if and only if it is no instruction whose
writer leaves the discriminator out; malformed data is refused. -/
theorem instruction_codec_iff (distinct : Function.Injective enum.discriminator) :
    (∀ instruction : enum.Instruction, instruction.RoundTrips ↔
        instruction.WritesDiscriminator ∧ instruction.Canonical) ∧
      (∀ data, enum.Reencodes data ↔ ¬ enum.NamesUnwritten data) ∧
        ∀ data, enum.Malformed data → ∃ err, enum.tryFromSlice data = .error err :=
  ⟨Instruction.roundTrips_iff distinct, reencodes_iff distinct,
    fun _ => tryFromSlice_of_malformed distinct⟩

end InstructionEnum

end Protocols

end SolanaProtocols
