import Mathlib.Data.List.Forall2
import SolanaProtocols.KeyClaims
import SolanaProtocols.SolanaTypes

/-!
# Account layouts

An accounts struct has declared slots, which sit at their index and hold the
program id when an optional account is absent; then either conditional slots,
which are filled while there are keys left, or resolved slots, which derive an
address and look for it; then at most one list for whatever remains.
-/

namespace SolanaProtocols

namespace Parsing

/-- An account of an instruction to be built. -/
structure AccountMeta where
  pubkey : Pubkey
  isSigner : Bool
  isWritable : Bool
deriving DecidableEq, Repr

/-- An account past the declared list: present, or its slot does not exist. -/
inductive Conditional
  | absent
  | present (key : Pubkey)
deriving DecidableEq, Repr

namespace Conditional

def isPresent : Conditional → Bool
  | absent => false
  | present _ => true

/-- The keys that a slot occupies. -/
def keys : Conditional → List Pubkey
  | absent => []
  | present key => [key]

end Conditional

/-- A slot with a fixed index. -/
structure DeclaredSlot where
  writable : Bool
  signer : Bool
  optional : Bool
deriving DecidableEq, Repr

/-- A slot whose address the preceding fields determine. -/
structure ResolvedSlot where
  writable : Bool
  signer : Bool
  derive : List (Option Pubkey) → List Conditional → Pubkey

/-- The slots past the declared list. -/
inductive AppendedSlots
  | conditional (names : List String)
  | resolved (slots : List ResolvedSlot)

def AppendedSlots.count : AppendedSlots → Nat
  | conditional names => names.length
  | resolved slots => slots.length

/-- No slot is located by its address. -/
def AppendedSlots.Positional : AppendedSlots → Prop
  | conditional _ => True
  | resolved slots => slots = []

/-- A list for the keys that no other slot takes. -/
structure RemainingSlot where
  name : String
  writable : Bool
deriving DecidableEq, Repr

/-- The layout of an accounts struct.  The program id stands for an optional
account that is absent. -/
structure AccountLayout where
  programId : Pubkey
  declared : List DeclaredSlot
  appended : AppendedSlots
  remaining : Option RemainingSlot

/-- The fields of an accounts struct. -/
structure AccountFields where
  declared : List (Option Pubkey)
  appended : List Conditional
  rest : List Pubkey
deriving DecidableEq, Repr

/-- The fields are those of the layout: a required account is there, each
appended slot has a value, and without a remaining list nothing remains. -/
structure AccountFields.Fit (layout : AccountLayout) (fields : AccountFields) :
    Prop where
  declared : List.Forall₂ (fun slot value => value = none → slot.optional = true)
    layout.declared fields.declared
  appended : fields.appended.length = layout.appended.count
  rest : layout.remaining = none → fields.rest = []

/-- A value of an accounts struct. -/
structure Accounts (layout : AccountLayout) where
  fields : AccountFields
  fit : fields.Fit layout

/-- A conditional prefix with a hole. -/
structure RemainingSequence where
  absent : String
  present : String
deriving DecidableEq, Repr

namespace AccountLayout

variable (layout : AccountLayout)

/-- The value of a declared slot that holds a key. -/
def declaredValue (slot : DeclaredSlot) (key : Pubkey) : Option Pubkey :=
  if slot.optional ∧ key = layout.programId then none else some key

/-- Take a key for each declared slot. -/
def readDeclared (total : Nat) :
    List DeclaredSlot → List Pubkey →
      Except InstructionParseError (List (Option Pubkey) × List Pubkey)
  | [], cursor => .ok ([], cursor)
  | _ :: _, [] => .error (.notEnoughAccounts layout.declared.length total)
  | slot :: slots, key :: cursor =>
      match readDeclared total slots cursor with
      | .error err => .error err
      | .ok (values, cursor) => .ok (layout.declaredValue slot key :: values, cursor)

/-- Take a key for each conditional slot while there are any. -/
def readConditionals : List String → List Pubkey → List Conditional × List Pubkey
  | [], cursor => ([], cursor)
  | _ :: names, [] => (.absent :: (readConditionals names []).1, [])
  | _ :: names, key :: cursor =>
      (.present key :: (readConditionals names cursor).1,
        (readConditionals names cursor).2)

/-- Derive the address of each resolved slot and remove it from the tail. -/
def resolve (declared : List (Option Pubkey)) :
    List ResolvedSlot → List Conditional → List Pubkey →
      List Conditional × List Pubkey
  | [], _, tail => ([], tail)
  | slot :: slots, earlier, tail =>
      let want := slot.derive declared earlier
      let value := if want ∈ tail then Conditional.present want else .absent
      let left := if want ∈ tail then tail.erase want else tail
      (value :: (resolve declared slots (earlier ++ [value]) left).1,
        (resolve declared slots (earlier ++ [value]) left).2)

def readAppended (declared : List (Option Pubkey)) (cursor : List Pubkey) :
    List Conditional × List Pubkey :=
  match layout.appended with
  | .conditional names => readConditionals names cursor
  | .resolved slots => resolve declared slots [] cursor

/-- Drain the keys in declaration order. -/
def readFields (keys : List Pubkey) : Except InstructionParseError AccountFields :=
  match layout.readDeclared keys.length layout.declared keys with
  | .error err => .error err
  | .ok (declared, cursor) =>
      let appended := (layout.readAppended declared cursor).1
      let left := (layout.readAppended declared cursor).2
      match layout.remaining, left with
      | some _, _ => .ok ⟨declared, appended, left⟩
      | none, [] => .ok ⟨declared, appended, []⟩
      | none, first :: _ =>
          .error (.unmodelledAccounts (keys.length - left.length) keys.length first)

variable {layout}

theorem readDeclared_of_le {total : Nat} {slots : List DeclaredSlot}
    {keys : List Pubkey} (enough : slots.length ≤ keys.length) :
    layout.readDeclared total slots keys =
      .ok (List.zipWith layout.declaredValue slots keys, keys.drop slots.length) := by
  induction slots generalizing keys with
  | nil => rfl
  | cons slot slots ih =>
      cases keys with
      | nil => simp at enough
      | cons key keys =>
          rw [readDeclared, ih (by simpa using enough)]
          rfl

theorem readDeclared_of_lt {total : Nat} {slots : List DeclaredSlot}
    {keys : List Pubkey} (short : keys.length < slots.length) :
    layout.readDeclared total slots keys =
      .error (.notEnoughAccounts layout.declared.length total) := by
  induction slots generalizing keys with
  | nil => simp at short
  | cons slot slots ih =>
      cases keys with
      | nil => rfl
      | cons key keys => rw [readDeclared, ih (by simpa using short)]

theorem declaredValue_none {slot : DeclaredSlot} {key : Pubkey}
    (none : layout.declaredValue slot key = none) : slot.optional = true := by
  rw [declaredValue] at none
  split at none
  next absent => exact absent.1
  next => cases none

theorem forall₂_zipWith_declaredValue {slots : List DeclaredSlot}
    {keys : List Pubkey} (enough : slots.length ≤ keys.length) :
    List.Forall₂ (fun slot value => value = none → slot.optional = true) slots
      (List.zipWith layout.declaredValue slots keys) := by
  induction slots generalizing keys with
  | nil => exact .nil
  | cons slot slots ih =>
      cases keys with
      | nil => simp at enough
      | cons key keys =>
          exact .cons declaredValue_none (ih (by simpa using enough))

theorem readConditionals_length (names : List String) (cursor : List Pubkey) :
    (readConditionals names cursor).1.length = names.length := by
  induction names generalizing cursor with
  | nil => rfl
  | cons name names ih => cases cursor <;> simp [readConditionals, ih]

theorem resolve_length (declared : List (Option Pubkey)) (slots : List ResolvedSlot)
    (earlier : List Conditional) (tail : List Pubkey) :
    (resolve declared slots earlier tail).1.length = slots.length := by
  induction slots generalizing earlier tail with
  | nil => rfl
  | cons slot slots ih => simp [resolve, ih]

theorem readAppended_length (declared : List (Option Pubkey))
    (cursor : List Pubkey) :
    (layout.readAppended declared cursor).1.length = layout.appended.count := by
  rw [readAppended]
  cases layout.appended with
  | conditional names => exact readConditionals_length names cursor
  | resolved slots => exact resolve_length declared slots [] cursor

variable (layout) in
/-- The values of the declared slots. -/
def declaredValues (keys : List Pubkey) : List (Option Pubkey) :=
  List.zipWith layout.declaredValue layout.declared keys

variable (layout) in
/-- The appended slots, and the keys that they leave. -/
def appendedValues (keys : List Pubkey) : List Conditional × List Pubkey :=
  layout.readAppended (layout.declaredValues keys)
    (keys.drop layout.declared.length)

/-- What the fields are read as. -/
theorem readFields_eq_ok_iff {keys : List Pubkey} {fields : AccountFields} :
    layout.readFields keys = .ok fields ↔
      layout.declared.length ≤ keys.length ∧
        fields = ⟨layout.declaredValues keys, (layout.appendedValues keys).1,
          (layout.appendedValues keys).2⟩ ∧
        (layout.remaining = none → (layout.appendedValues keys).2 = []) := by
  by_cases enough : layout.declared.length ≤ keys.length
  · have declared := @readDeclared_of_le layout keys.length _ _ enough
    simp only [readFields, declared, appendedValues, declaredValues, enough,
      true_and]
    cases layout.remaining with
    | some slot =>
        simp only [Except.ok.injEq, reduceCtorEq, false_implies, and_true]
        exact eq_comm
    | none =>
        cases left : (layout.readAppended
            (List.zipWith layout.declaredValue layout.declared keys)
            (keys.drop layout.declared.length)).2 with
        | nil =>
            simp only [Except.ok.injEq, implies_true, and_true]
            exact eq_comm
        | cons first others => simp
  · have declared := @readDeclared_of_lt layout keys.length _ _
      (Nat.lt_of_not_le enough)
    simp [readFields, declared, enough]

theorem readFields_fit {keys : List Pubkey} {fields : AccountFields}
    (read : layout.readFields keys = .ok fields) : fields.Fit layout := by
  obtain ⟨enough, rfl, exhausted⟩ := readFields_eq_ok_iff.mp read
  exact
    { declared := forall₂_zipWith_declaredValue enough
      appended := readAppended_length _ _
      rest := exhausted }

variable (layout) in
/-- Parse from a list of account keys. -/
def fromPubkeys (keys : List Pubkey) : Except InstructionParseError (Accounts layout) :=
  match read : layout.readFields keys with
  | .error err => .error err
  | .ok fields => .ok ⟨fields, readFields_fit read⟩

theorem fromPubkeys_eq_ok_iff {keys : List Pubkey} {accounts : Accounts layout} :
    layout.fromPubkeys keys = .ok accounts ↔
      layout.readFields keys = .ok accounts.fields := by
  obtain ⟨fields, fit⟩ := accounts
  unfold fromPubkeys
  split
  next err read => simp [read]
  next fields' read => simp [read]

end AccountLayout

/-- A slot that holds an account, with the privileges of the slot, or the
program id. -/
def DeclaredSlot.toAccountMeta (programId : Pubkey) (slot : DeclaredSlot) :
    Option Pubkey → AccountMeta
  | some key => ⟨key, slot.signer, slot.writable⟩
  | none => ⟨programId, false, false⟩

/-- The accounts of the appended slots that exist. -/
def AppendedSlots.toAccountMetas :
    AppendedSlots → List Conditional → List AccountMeta
  | .conditional _, values =>
      (values.flatMap Conditional.keys).map fun key => ⟨key, false, true⟩
  | .resolved slots, values =>
      (List.zipWith (fun slot value =>
        value.keys.map fun key => ⟨key, slot.signer, slot.writable⟩)
          slots values).flatten

/-- Look for a slot that is present after one that is absent. -/
def sequenceChecks (earlier : List (String × Conditional)) :
    List (String × Conditional) → Option RemainingSequence
  | [] => none
  | this :: later =>
      match earlier.find? fun other => this.2.isPresent && !other.2.isPresent with
      | some other => some ⟨other.1, this.1⟩
      | none => sequenceChecks (earlier ++ [this]) later

namespace Accounts

variable {layout : AccountLayout}

/-- Convert to the accounts of an instruction to be built. -/
def toAccountMetas (accounts : Accounts layout) : List AccountMeta :=
  List.zipWith (DeclaredSlot.toAccountMeta layout.programId) layout.declared
      accounts.fields.declared ++
    layout.appended.toAccountMetas accounts.fields.appended ++
      accounts.fields.rest.map fun key =>
        ⟨key, false, (layout.remaining.map RemainingSlot.writable).getD false⟩

/-- A remaining list behind an absent conditional. -/
def remainingCheck (names : List String) (accounts : Accounts layout) :
    Option RemainingSequence :=
  match layout.remaining, (names.zip accounts.fields.appended).getLast? with
  | some slot, some last =>
      if accounts.fields.rest ≠ [] ∧ last.2.isPresent = false then
        some ⟨last.1, slot.name⟩
      else none
  | _, _ => none

/-- The account list, unless the conditionals have a hole. -/
def tryToAccountMetas (accounts : Accounts layout) :
    Except RemainingSequence (List AccountMeta) :=
  match layout.appended with
  | .conditional names =>
      match (sequenceChecks [] (names.zip accounts.fields.appended)).or
          (accounts.remainingCheck names) with
      | some sequence => .error sequence
      | none => .ok accounts.toAccountMetas
  | .resolved _ => .ok accounts.toAccountMetas

end Accounts

end Parsing

end SolanaProtocols
