import SolanaProtocols.AccountOwnership
import SolanaProtocols.SwapAccounts

/-!
# Instruction builders

A builder fills the declared slots of an accounts struct, derives what it
appends, and writes its parameters behind a discriminator.  What it builds is
read back when the slots that derive their address find what was appended.
-/

namespace SolanaProtocols

open Parsing Protocols

namespace Parsing

/-- A key for every declared slot, in order. -/
structure NamedKeys (slots : NamedSlots) where
  entries : List (AccountName × Pubkey)
  names : entries.map Prod.fst = slots.map Prod.fst

namespace NamedKeys

variable {slots : NamedSlots} (declared : NamedKeys slots)

def keys : List Pubkey :=
  declared.entries.map Prod.snd

/-- The declared fields, all of them present. -/
def fields : List (Option Pubkey) :=
  declared.keys.map some

@[simp]
theorem length_keys : declared.keys.length = slots.length := by
  have sameLength := congrArg List.length declared.names
  rwa [List.length_map, List.length_map,
    ← @List.length_map _ _ _ Prod.snd] at sameLength

@[simp]
theorem length_fields : declared.fields.length = slots.length := by
  rw [fields, List.length_map, length_keys]

end NamedKeys

theorem forall₂_fields {slots : List DeclaredSlot} {keys : List Pubkey}
    (sameLength : keys.length = slots.length) :
    List.Forall₂ (fun slot value => value = none → slot.optional = true) slots
      (keys.map some) := by
  induction slots generalizing keys with
  | nil =>
      rw [List.eq_nil_of_length_eq_zero sameLength]
      exact .nil
  | cons slot slots ih =>
      cases keys with
      | nil => cases sameLength
      | cons key keys =>
          exact .cons (fun absent => by cases absent) (ih (Nat.succ.inj sameLength))

namespace AccountsStruct

variable (struct : AccountsStruct)

/-- The accounts of a builder: every declared slot is filled, and no account
remains. -/
def fill (declared : NamedKeys struct.slots) (appended : List Conditional)
    (complete : appended.length = struct.layout.appended.count) :
    Accounts struct.layout where
  fields := ⟨declared.fields, appended, []⟩
  fit :=
    { declared := forall₂_fields (by
        rw [declared.length_keys, struct.declared, List.length_map])
      appended := complete
      rest := fun _ => rfl }

variable {struct} {declared : NamedKeys struct.slots} {appended : List Conditional}
  {complete : appended.length = struct.layout.appended.count}

/-- The slots of a struct that derives its appended accounts. -/
def resolvedSlots (derives : List (List (Option Pubkey) → Pubkey)) :
    List ResolvedSlot :=
  derives.map fun derive =>
    { writable := false
      signer := false
      derive := fun declared _ => derive declared }

theorem map_pubkey_fill :
    (struct.fill declared appended complete).toAccountMetas.map AccountMeta.pubkey =
      declared.keys ++ appended.flatMap Conditional.keys := by
  rw [Accounts.map_pubkey]
  simp [fill, NamedKeys.fields, Function.comp_def]

theorem zipWith_declaredValue_of_required {layout : AccountLayout}
    {slots : List DeclaredSlot} (required : ∀ slot ∈ slots, slot.optional = false)
    {keys : List Pubkey} (sameLength : keys.length = slots.length)
    (tail : List Pubkey) :
    List.zipWith layout.declaredValue slots (keys ++ tail) = keys.map some := by
  induction slots generalizing keys with
  | nil =>
      rw [List.eq_nil_of_length_eq_zero sameLength]
      rfl
  | cons slot slots ih =>
      cases keys with
      | nil => cases sameLength
      | cons key keys =>
          have present : layout.declaredValue slot key = some key := by
            simp [AccountLayout.declaredValue, required slot List.mem_cons_self]
          have rest := ih (fun slot member => required slot (.tail _ member))
            (Nat.succ.inj sameLength)
          rw [List.cons_append, List.zipWith_cons_cons, present, rest, List.map_cons]

/-- The declared accounts of a builder are read as they are, and the resolved
slots look for theirs in what was appended. -/
theorem readFields_fill (required : struct.AllRequired)
    (listed : struct.layout.remaining ≠ none) {slots : List ResolvedSlot}
    (resolved : struct.layout.appended = .resolved slots) :
    struct.layout.readFields
        ((struct.fill declared appended complete).toAccountMetas.map
          AccountMeta.pubkey) =
      .ok ⟨declared.fields,
        (AccountLayout.resolve declared.fields slots []
          (appended.flatMap Conditional.keys)).1,
        (AccountLayout.resolve declared.fields slots []
          (appended.flatMap Conditional.keys)).2⟩ := by
  have sameLength : declared.keys.length = struct.layout.declared.length := by
    rw [declared.length_keys, struct.declared, List.length_map]
  have requiredSlots : ∀ slot ∈ struct.layout.declared, slot.optional = false := by
    rw [struct.declared, List.forall_mem_map]
    exact required
  have declaredEq := @zipWith_declaredValue_of_required struct.layout _ requiredSlots
    _ sameLength (appended.flatMap Conditional.keys)
  rw [AccountLayout.readFields_eq_ok_iff, map_pubkey_fill]
  refine ⟨?_, ?_, fun unlisted => absurd unlisted listed⟩
  · rw [List.length_append, sameLength]
    exact Nat.le_add_right _ _
  · rw [AccountLayout.appendedValues, AccountLayout.declaredValues, declaredEq,
      List.drop_left' sameLength, AccountLayout.readAppended, resolved]
    rfl

/-- The accounts of a builder are read back when the resolved slots find what
was appended, and nothing else. -/
theorem fromAccountKeys_fill_iff (required : struct.AllRequired)
    (listed : struct.layout.remaining ≠ none) {slots : List ResolvedSlot}
    (resolved : struct.layout.appended = .resolved slots) :
    struct.fromAccountKeys
        ((struct.fill declared appended complete).toAccountMetas.map
          AccountMeta.pubkey) =
        .ok (struct.fill declared appended complete) ↔
      AccountLayout.resolve declared.fields slots []
        (appended.flatMap Conditional.keys) = (appended, []) := by
  rw [fromAccountKeys, AccountLayout.fromPubkeys_eq_ok_iff,
    readFields_fill required listed resolved, Except.ok.injEq]
  constructor
  · intro fieldsEq
    have parts := AccountFields.mk.inj fieldsEq
    exact Prod.ext parts.2.1 parts.2.2
  · intro found
    rw [found]
    rfl

end AccountsStruct

end Parsing

namespace Protocols

/-- An instruction to be sent. -/
structure Instruction where
  programId : Pubkey
  accounts : List AccountMeta
  data : Bytes

/-- An instruction builder: the variant that it writes, and how it fills in the
accounts. -/
structure InstructionBuilder (Keys : Type) where
  Variant : Type
  enum : InstructionEnum Variant
  variant : Variant
  programId : Pubkey
  struct : AccountsStruct
  accounts : Keys → Pubkey → Accounts struct.layout

namespace InstructionBuilder

variable {Keys : Type} (builder : InstructionBuilder Keys)

abbrev Params : Type :=
  (builder.enum.params builder.variant).Params

/-- The value of the enum that is written. -/
def instruction (params : builder.Params) : builder.enum.Instruction :=
  ⟨builder.variant, params⟩

def buildSwapInstruction (keys : Keys) (user : Pubkey) (params : builder.Params) :
    Instruction where
  programId := builder.programId
  accounts := (builder.accounts keys user).toAccountMetas
  data := (builder.enum.params builder.variant).toData params

/-- The instruction is read as the parameters and the accounts that it was built
from, without a buyback vault. -/
structure ReadsBack (keys : Keys) (user : Pubkey) (params : builder.Params) :
    Prop where
  data : builder.enum.tryFromSlice
    (builder.buildSwapInstruction keys user params).data =
      .ok (builder.instruction params)
  accounts : builder.struct.fromAccountKeys
    ((builder.buildSwapInstruction keys user params).accounts.map
      AccountMeta.pubkey) = .ok (builder.accounts keys user)
  vaults : (builder.accounts keys user).fields.rest = []

variable {builder} {keys : Keys} {user : Pubkey} {params : builder.Params}

/-- Data that starts with its discriminator is read back when its trailer is in
the form of its bytes. -/
theorem data_iff (distinct : Function.Injective builder.enum.discriminator)
    (writes : (builder.instruction params).WritesDiscriminator) :
    builder.enum.tryFromSlice (builder.buildSwapInstruction keys user params).data =
        .ok (builder.instruction params) ↔
      (builder.instruction params).Canonical := by
  have dataEq : (builder.buildSwapInstruction keys user params).data =
      (builder.instruction params).discriminator.toList ++
        (builder.instruction params).arguments := by
    rw [← writes]
    rfl
  rw [InstructionEnum.tryFromSlice_eq_ok_iff distinct, dataEq]
  exact and_iff_right rfl

theorem readsBack_iff_of_fill
    (distinct : Function.Injective builder.enum.discriminator)
    (writes : (builder.instruction params).WritesDiscriminator)
    {declared : NamedKeys builder.struct.slots} {appended : List Conditional}
    {complete : appended.length = builder.struct.layout.appended.count}
    (filled : builder.accounts keys user =
      builder.struct.fill declared appended complete)
    (required : builder.struct.AllRequired)
    (listed : builder.struct.layout.remaining ≠ none) {slots : List ResolvedSlot}
    (resolved : builder.struct.layout.appended = .resolved slots) :
    builder.ReadsBack keys user params ↔
      AccountLayout.resolve declared.fields slots []
          (appended.flatMap Conditional.keys) = (appended, []) ∧
        (builder.instruction params).Canonical := by
  rw [← @AccountsStruct.fromAccountKeys_fill_iff _ _ _ complete required listed _
    resolved, ← filled, ← @data_iff _ _ keys user _ distinct writes]
  constructor
  · rintro ⟨data, accounts, -⟩
    exact ⟨accounts, data⟩
  · rintro ⟨accounts, data⟩
    exact ⟨data, accounts, congrArg (fun held => held.fields.rest) filled⟩

end InstructionBuilder

end Protocols

end SolanaProtocols
