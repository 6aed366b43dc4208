import SolanaProtocols.InstructionBuilder

/-!
# Fixed account lists

An accounts struct whose slots are all required, without any past the declared
ones.  It is read from just as many keys as it has slots, so each list of that
length is one value of the struct.  Where more may follow, the keys in front are
the required accounts all the same.
-/

namespace SolanaProtocols

namespace Parsing

/-- Keys one after another. -/
abbrev KeyTuple : Nat → Type
  | 0 => Unit
  | 1 => Pubkey
  | len + 2 => Pubkey × KeyTuple (len + 1)

namespace KeyTuple

def toList : {len : Nat} → KeyTuple len → List Pubkey
  | 0, _ => []
  | 1, key => [key]
  | _ + 2, (key, keys) => key :: toList keys

/-- The keys at the front of a list. -/
def ofList : (len : Nat) → List Pubkey → KeyTuple len
  | 0, _ => ()
  | 1, keys => keys.headD 0
  | len + 2, keys => (keys.headD 0, ofList (len + 1) keys.tail)

@[simp]
theorem length_toList {len : Nat} (keys : KeyTuple len) : keys.toList.length = len := by
  induction len using Nat.twoStepInduction with
  | zero => rfl
  | one => rfl
  | more len _ ih =>
      obtain ⟨key, keys⟩ := keys
      rw [toList, List.length_cons, ih]

@[simp]
theorem ofList_toList {len : Nat} (keys : KeyTuple len) :
    ofList len keys.toList = keys := by
  induction len using Nat.twoStepInduction with
  | zero => rfl
  | one => rfl
  | more len _ ih =>
      obtain ⟨key, keys⟩ := keys
      exact Prod.ext rfl (ih keys)

theorem toList_ofList {len : Nat} {keys : List Pubkey} (filled : keys.length = len) :
    (ofList len keys).toList = keys := by
  induction len using Nat.twoStepInduction generalizing keys with
  | zero => exact (List.eq_nil_of_length_eq_zero filled).symm
  | one =>
      obtain ⟨key, rfl⟩ := List.length_eq_one_iff.mp filled
      rfl
  | more len _ ih =>
      cases keys with
      | nil => cases filled
      | cons key keys =>
          rw [ofList, toList, List.headD_cons, List.tail_cons, ih (Nat.succ.inj filled)]

end KeyTuple

/-- An accounts struct with required slots alone. -/
structure FixedAccounts (A : Type) where
  programId : Pubkey
  slots : List DeclaredSlot
  required : ∀ slot ∈ slots, slot.optional = false
  tuple : KeyTuple slots.length ≃ A

namespace FixedAccounts

variable {A : Type} (struct : FixedAccounts A)

def layout : AccountLayout where
  programId := struct.programId
  declared := struct.slots
  appended := .conditional []
  remaining := none

/-- The keys of the accounts, in the order of the slots. -/
def keys (accounts : A) : List Pubkey :=
  (struct.tuple.symm accounts).toList

/-- Parse from a list of account keys. -/
def fromAccountKeys (keys : List Pubkey) : Except InstructionParseError A :=
  (struct.layout.readFields keys).map fun fields =>
    struct.tuple (.ofList _ (fields.declared.map (·.getD 0)))

/-- Convert to the accounts of an instruction to be built. -/
def toAccountMetas (accounts : A) : List AccountMeta :=
  List.zipWith (DeclaredSlot.toAccountMeta struct.programId) struct.slots
    ((struct.keys accounts).map some)

@[simp]
theorem length_keys (accounts : A) : (struct.keys accounts).length = struct.slots.length :=
  KeyTuple.length_toList _

@[simp]
theorem map_pubkey_toAccountMetas (accounts : A) :
    (struct.toAccountMetas accounts).map AccountMeta.pubkey = struct.keys accounts := by
  have pubkeys : ∀ (slots : List DeclaredSlot) (keys : List Pubkey),
      keys.length = slots.length →
      (List.zipWith (DeclaredSlot.toAccountMeta struct.programId) slots
        (keys.map some)).map AccountMeta.pubkey = keys := by
    intro slots
    induction slots with
    | nil => exact fun keys none => (List.eq_nil_of_length_eq_zero none).symm ▸ rfl
    | cons slot slots ih =>
        intro keys filled
        cases keys with
        | nil => cases filled
        | cons key keys =>
            exact congrArg (key :: ·) (ih keys (Nat.succ.inj filled))
  exact pubkeys _ _ (struct.length_keys accounts)

variable {struct}

/-- What is read from keys that fill the slots, and more. -/
theorem readFields_append {front tail : List Pubkey}
    (filled : front.length = struct.slots.length) :
    struct.layout.readFields (front ++ tail) =
      match tail with
      | [] => .ok ⟨front.map some, [], []⟩
      | first :: _ => .error (.unmodelledAccounts struct.slots.length
          (front ++ tail).length first) := by
  have enough : struct.slots.length ≤ (front ++ tail).length := by
    rw [List.length_append, filled]
    exact Nat.le_add_right _ _
  have declared : struct.layout.readDeclared (front ++ tail).length struct.slots
      (front ++ tail) = .ok (front.map some, tail) := by
    rw [AccountLayout.readDeclared_of_le enough, List.drop_left' filled,
      AccountsStruct.zipWith_declaredValue_of_required struct.required filled]
  rw [AccountLayout.readFields, show struct.layout.declared = struct.slots from rfl,
    declared]
  cases tail with
  | nil => rfl
  | cons first tail =>
      have modelled : (front ++ first :: tail).length - (first :: tail).length =
          struct.slots.length := by
        rw [List.length_append, filled, Nat.add_sub_cancel]
      simp only [AccountLayout.readAppended, layout, AccountLayout.readConditionals,
        modelled]

theorem fromAccountKeys_of_lt {keys : List Pubkey}
    (short : keys.length < struct.slots.length) :
    struct.fromAccountKeys keys =
      .error (.notEnoughAccounts struct.slots.length keys.length) := by
  have declared : struct.layout.readDeclared keys.length struct.slots keys =
      .error (.notEnoughAccounts struct.slots.length keys.length) :=
    AccountLayout.readDeclared_of_lt short
  rw [fromAccountKeys, AccountLayout.readFields,
    show struct.layout.declared = struct.slots from rfl, declared]
  rfl

/-- The keys of a value are read as the value. -/
theorem fromAccountKeys_keys (accounts : A) :
    struct.fromAccountKeys (struct.keys accounts) = .ok accounts := by
  have read := @readFields_append A struct (struct.keys accounts) []
    (struct.length_keys accounts)
  have present : ((struct.keys accounts).map some).map (·.getD 0) =
      struct.keys accounts := by
    rw [List.map_map]
    exact List.map_id _
  rw [List.append_nil] at read
  rw [fromAccountKeys, read]
  simp only [Except.map, present]
  rw [keys, KeyTuple.ofList_toList, Equiv.apply_symm_apply]

theorem fromAccountKeys_append (accounts : A) (first : Pubkey) (rest : List Pubkey) :
    struct.fromAccountKeys (struct.keys accounts ++ first :: rest) =
      .error (.unmodelledAccounts struct.slots.length
        (struct.slots.length + (rest.length + 1)) first) := by
  rw [fromAccountKeys, readFields_append (struct.length_keys accounts),
    List.length_append, length_keys, List.length_cons]
  rfl

theorem exists_keys_eq {keys : List Pubkey} (filled : keys.length = struct.slots.length) :
    ∃ accounts, struct.keys accounts = keys :=
  ⟨struct.tuple (.ofList _ keys), by
    rw [FixedAccounts.keys, Equiv.symm_apply_apply, KeyTuple.toList_ofList filled]⟩

/-- A value is read from its keys, and from no others. -/
theorem fromAccountKeys_eq_ok_iff {keys : List Pubkey} {accounts : A} :
    struct.fromAccountKeys keys = .ok accounts ↔ keys = struct.keys accounts := by
  constructor
  · intro read
    rcases lt_or_ge keys.length struct.slots.length with short | enough
    · rw [fromAccountKeys_of_lt short] at read
      cases read
    · obtain ⟨held, heldEq⟩ := exists_keys_eq
        (List.length_take_of_le enough : _ = struct.slots.length)
      rw [← List.take_append_drop struct.slots.length keys, ← heldEq] at read ⊢
      cases tail : keys.drop struct.slots.length with
      | nil =>
          rw [tail, List.append_nil, fromAccountKeys_keys] at read
          cases read
          exact List.append_nil _
      | cons first rest =>
          rw [tail, fromAccountKeys_append] at read
          cases read
  · rintro rfl
    exact fromAccountKeys_keys accounts

end FixedAccounts

/-- An accounts struct with more behind the required slots: some that are filled
while there are keys left, and perhaps a list for what remains. -/
structure OpenAccounts (A : Type) extends FixedAccounts A where
  conditional : List String
  remaining : Option RemainingSlot

/-- The accounts of such a struct. -/
structure Opened (A : Type) where
  declared : A
  appended : List Conditional
  rest : List Pubkey
deriving DecidableEq

namespace OpenAccounts

variable {A : Type} (struct : OpenAccounts A)

def openLayout : AccountLayout where
  programId := struct.programId
  declared := struct.slots
  appended := .conditional struct.conditional
  remaining := struct.remaining

/-- Parse from a list of account keys. -/
def fromAccountKeys (keys : List Pubkey) : Except InstructionParseError (Opened A) :=
  (struct.openLayout.readFields keys).map fun fields =>
    { declared := struct.tuple (.ofList _ (fields.declared.map (·.getD 0)))
      appended := fields.appended
      rest := fields.rest }

/-- What is read from the keys behind the required ones. -/
def behind (tail : List Pubkey) : List Conditional × List Pubkey :=
  AccountLayout.readConditionals struct.conditional tail

/-- Every key behind the required ones has a slot. -/
def Takes (tail : List Pubkey) : Prop :=
  struct.remaining = none → (struct.behind tail).2 = []

variable {struct}

/-- The keys in front are the required accounts, and there is a slot for the rest. -/
theorem fromAccountKeys_eq_ok_iff {keys : List Pubkey} {accounts : Opened A} :
    struct.fromAccountKeys keys = .ok accounts ↔
      ∃ tail, keys = struct.keys accounts.declared ++ tail ∧ struct.Takes tail ∧
        (accounts.appended, accounts.rest) = struct.behind tail := by
  have read {front tail : List Pubkey} (filled : front.length = struct.slots.length)
      {fields : AccountFields} :
      struct.openLayout.readFields (front ++ tail) = .ok fields ↔
        fields = ⟨front.map some, (struct.behind tail).1, (struct.behind tail).2⟩ ∧
          struct.Takes tail := by
    have declared : struct.openLayout.declaredValues (front ++ tail) =
        front.map some :=
      AccountsStruct.zipWith_declaredValue_of_required struct.required filled tail
    have dropped : (front ++ tail).drop struct.openLayout.declared.length = tail :=
      List.drop_left' filled
    have enough : struct.openLayout.declared.length ≤ (front ++ tail).length := by
      rw [List.length_append, filled]
      exact Nat.le_add_right _ _
    rw [AccountLayout.readFields_eq_ok_iff, AccountLayout.appendedValues, declared,
      dropped, and_iff_right enough]
    rfl
  have present (front : List Pubkey) : (front.map some).map (·.getD 0) = front := by
    rw [List.map_map]
    exact List.map_id _
  constructor
  · intro given
    cases readEq : struct.openLayout.readFields keys with
    | error err =>
        rw [fromAccountKeys, readEq] at given
        cases given
    | ok fields =>
        rw [fromAccountKeys, readEq] at given
        cases given
        have enough : struct.slots.length ≤ keys.length :=
          (AccountLayout.readFields_eq_ok_iff.mp readEq).1
        have filled : (keys.take struct.slots.length).length = struct.slots.length :=
          List.length_take_of_le enough
        rw [← List.take_append_drop struct.slots.length keys] at readEq
        obtain ⟨rfl, takes⟩ := (read filled).mp readEq
        refine ⟨keys.drop struct.slots.length, ?_, takes, rfl⟩
        rw [FixedAccounts.keys, Equiv.symm_apply_apply, present,
          KeyTuple.toList_ofList filled, List.take_append_drop]
  · rintro ⟨tail, rfl, takes, behind⟩
    have readEq := (read (struct.length_keys accounts.declared)).mpr ⟨rfl, takes⟩
    have declared : struct.tuple (.ofList _ (struct.keys accounts.declared)) =
        accounts.declared := by
      rw [FixedAccounts.keys, KeyTuple.ofList_toList, Equiv.apply_symm_apply]
    rw [fromAccountKeys, readEq]
    simp only [Except.map, present, declared, ← behind]

theorem fromAccountKeys_keys (accounts : A) {tail : List Pubkey}
    (takes : struct.Takes tail) :
    struct.fromAccountKeys (struct.keys accounts ++ tail) =
      .ok ⟨accounts, (struct.behind tail).1, (struct.behind tail).2⟩ :=
  fromAccountKeys_eq_ok_iff.mpr ⟨tail, rfl, takes, rfl⟩

end OpenAccounts

end Parsing

end SolanaProtocols
