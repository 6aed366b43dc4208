import SolanaProtocols.CheckedArithmetic
import SolanaProtocols.HandlerRegistry
import SolanaProtocols.VersionedStateMap

/-!
# Quote state

A quote is priced from several accounts.  One list of fields, each with its
source, yields two readers: assembly reads the accounts out of a cache as of a
slot, and the declaration lists the accounts to keep live.
-/

namespace SolanaProtocols

namespace QuoteState

open Storage SlotHistory

section Declaration

variable {Ty : Type} (Val : Ty → Type)

/-- The address of an account.  The declaration has only the root in scope. -/
inductive KeyExpr
  | constant (key : Pubkey)
  | ofRoot (key : Sigma Val → Pubkey)

/-- An item of a `dep` attribute. -/
inductive DepItem (ty : Ty)
  | root
  | singleton
  | key (expr : KeyExpr Val)
  | expect (ident : String)
  | computed (expr : List (Sigma Val) → Val ty)
  | other (path : String)

structure FieldDecl where
  ident : String
  ty : Ty
  deps : List (List (DepItem Val ty))

structure DeriveError where
  span : String
  message : String
deriving DecidableEq, Repr

/-- What the attributes of a field say. -/
structure FieldFlags (ty : Ty) where
  key : Option (KeyExpr Val)
  expect : Option String
  computed : Option (List (Sigma Val) → Val ty)
  isRoot : Bool
  isSingleton : Bool

/-- How one field of the quote state is obtained. -/
inductive Source (ty : Ty)
  | root
  | keyed (key : KeyExpr Val) (expect : String)
  | singleton
  | computed (expr : List (Sigma Val) → Val ty)

structure FieldSpec where
  ident : String
  ty : Ty
  source : Source Val ty

/-- A field other than the root, where `Scope` is what its key can read. -/
inductive Field (Scope : Type)
  | keyed (ty : Ty) (key : Scope → Pubkey) (expect : DeliveryExpectation)
  | singleton (ty : Ty)
  | computed (ty : Ty) (expr : List (Sigma Val) → Val ty)

/-- The fields in read order.  A key before the root is a constant. -/
structure Layout where
  lead : List (Field Val Unit)
  rootTy : Ty
  rest : List (Field Val (Val rootTy))

end Declaration

variable {Ty : Type} {Val : Ty → Type} {ty : Ty}

section Derive

def FieldFlags.start : FieldFlags Val ty where
  key := none
  expect := none
  computed := none
  isRoot := false
  isSingleton := false

def FieldFlags.apply (flags : FieldFlags Val ty) :
    DepItem Val ty → Except DeriveError (FieldFlags Val ty)
  | .root => .ok { flags with isRoot := true }
  | .singleton => .ok { flags with isSingleton := true }
  | .key expr => .ok { flags with key := some expr }
  | .expect ident => .ok { flags with expect := some ident }
  | .computed expr => .ok { flags with computed := some expr }
  | .other path => .error
      ⟨path, "expected root, key, expect, singleton, or computed"⟩

/-- The one source that the attributes pick. -/
def FieldFlags.source (flags : FieldFlags Val ty) (ident : String) :
    Except DeriveError (Source Val ty) :=
  match flags.isRoot, flags.isSingleton, flags.key, flags.computed with
  | true, false, none, none => .ok .root
  | false, true, none, none => .ok .singleton
  | false, false, some key, none =>
      match flags.expect with
      | some expect => .ok (.keyed key expect)
      | none => .error ⟨ident,
          "keyed field needs `expect = frequent|infrequent|dynamic` — delivery " ++
          "class decides subscription vs RPC fetch and has no safe default"⟩
  | false, false, none, some expr => .ok (.computed expr)
  | _, _, _, _ => .error
      ⟨ident, "pick exactly one of: root, key = …, singleton, computed = …"⟩

def FieldDecl.spec (decl : FieldDecl Val) :
    Except DeriveError (FieldSpec Val) := do
  let flags ← decl.deps.flatten.foldlM FieldFlags.apply .start
  if decl.deps.isEmpty then
    throw ⟨decl.ident,
      "every QuoteState field needs #[dep(...)] — an undeclared field is an " ++
      "account the dependency list would not know about"⟩
  let source ← flags.source decl.ident
  pure ⟨decl.ident, decl.ty, source⟩

/-- Map the `expect = …` ident onto a `DeliveryExpectation` variant. -/
def expectationVariant : String → Except DeriveError DeliveryExpectation
  | "frequent" => .ok .frequent
  | "infrequent" => .ok .infrequent
  | "dynamic" => .ok .dynamic
  | other => .error ⟨other, "unknown delivery expectation `" ++ other ++
      "` (expected frequent, infrequent, or dynamic)"⟩

/-- A key before the root does not compile when it reads the root. -/
def KeyExpr.beforeRoot (ident : String) :
    KeyExpr Val → Except DeriveError (Unit → Pubkey)
  | .constant key => .ok fun _ => key
  | .ofRoot _ => .error ⟨ident, "cannot find value in this scope"⟩

def KeyExpr.afterRoot (rootTy : Ty) : KeyExpr Val → Val rootTy → Pubkey
  | .constant key => fun _ => key
  | .ofRoot key => fun root => key ⟨rootTy, root⟩

def FieldSpec.isRoot (spec : FieldSpec Val) : Bool :=
  match spec.source with
  | .root => true
  | _ => false

/-- The generated code of a field other than the root. -/
def FieldSpec.field {Scope : Type}
    (resolve : KeyExpr Val → Except DeriveError (Scope → Pubkey))
    (spec : FieldSpec Val) : Except DeriveError (Field Val Scope) :=
  match spec.source with
  | .root => .error ⟨spec.ident, "only one field may be #[dep(root)]"⟩
  | .keyed key expect => do
      let expectation ← expectationVariant expect
      let key ← resolve key
      pure (.keyed spec.ty key expectation)
  | .singleton => pure (.singleton spec.ty)
  | .computed expr => pure (.computed spec.ty expr)

/-- The layout of a struct, or the error that it does not compile with. -/
def derive (name : String) (fields : List (FieldDecl Val)) :
    Except DeriveError (Layout Val) := do
  let specs ← fields.mapM FieldDecl.spec
  match specs.find? FieldSpec.isRoot with
  | none => throw ⟨name, "one field must be #[dep(root)] — the account " ++
      "`assemble`'s pubkey identifies"⟩
  | some root =>
      if 1 < specs.countP FieldSpec.isRoot then
        throw ⟨name, "only one field may be #[dep(root)]"⟩
      let lead ← (specs.takeWhile (! FieldSpec.isRoot ·)).mapM fun spec =>
        spec.field (KeyExpr.beforeRoot spec.ident)
      let rest ← (specs.dropWhile (! FieldSpec.isRoot ·)).tail.mapM fun spec =>
        spec.field fun key => .ok (key.afterRoot root.ty)
      pure ⟨lead, root.ty, rest⟩

end Derive

/-- What a cache stores.  Each map is one that inserts, removals and clears can
leave behind. -/
structure Cache (Val : Ty → Type) where
  accounts : ∀ ty, VersionedStateMap Pubkey (Val ty)
  singletons : ∀ ty, Option (Val ty)
  reached : ∀ ty, ∃ depth events,
    accounts ty = (MapRun.ofEvents depth events).map

/-- A run of generated code: the accounts it read, and its result unless a
read found nothing. -/
structure Reads (Ty α : Type) where
  accounts : List (Ty × Pubkey)
  result : Option α

instance : Monad (Reads Ty) where
  pure value := ⟨[], some value⟩
  bind reads next :=
    match reads.result with
    | none => ⟨reads.accounts, none⟩
    | some value =>
        ⟨reads.accounts ++ (next value).accounts, (next value).result⟩

namespace Cache

def getAtSlot (cache : Cache Val) (ty : Ty) (key : Pubkey) (slot : Nat) :
    Reads Ty (Val ty) :=
  ⟨[(ty, key)], (cache.accounts ty).getAtSlot key slot⟩

def get (cache : Cache Val) (ty : Ty) : Reads Ty (Val ty) :=
  ⟨[], cache.singletons ty⟩

end Cache

section Assemble

variable (cache : Cache Val) (slot : Nat)

/-- The generated read of a field, after the earlier fields. -/
def Field.read {Scope : Type} (scope : Scope) (earlier : List (Sigma Val)) :
    Field Val Scope → Reads Ty (Sigma Val)
  | .keyed ty key _ => do
      let state ← cache.getAtSlot ty (key scope) slot
      pure ⟨ty, state⟩
  | .singleton ty => do
      let value ← cache.get ty
      pure ⟨ty, value⟩
  | .computed ty expr => pure ⟨ty, expr earlier⟩

def readFields {Scope : Type} (scope : Scope) :
    List (Sigma Val) → List (Field Val Scope) → Reads Ty (List (Sigma Val))
  | _, [] => pure []
  | earlier, field :: fields => do
      let value ← field.read cache slot scope earlier
      let values ← readFields scope (earlier ++ [value]) fields
      pure (value :: values)

/-- The struct: the values of its fields in order. -/
structure Quote (layout : Layout Val) where
  lead : List (Sigma Val)
  root : Val layout.rootTy
  rest : List (Sigma Val)

/-- The generated body of `assemble`, with the reads it makes. -/
def Layout.run (layout : Layout Val) (pool : Pubkey) :
    Reads Ty (Quote layout) := do
  let lead ← readFields cache slot () [] layout.lead
  let root ← cache.getAtSlot layout.rootTy pool slot
  let rest ← readFields cache slot root (lead ++ [⟨_, root⟩]) layout.rest
  pure ⟨lead, root, rest⟩

def Layout.assemble (layout : Layout Val) (pool : Pubkey) :
    Option (Quote layout) :=
  (layout.run cache slot pool).result

def Layout.keysRead (layout : Layout Val) (pool : Pubkey) : List Pubkey :=
  (layout.run cache slot pool).accounts.map Prod.snd

end Assemble

def Field.dependency {Scope : Type} (scope : Scope) :
    Field Val Scope → Option Dependency
  | .keyed _ key expect => some ⟨key scope, expect⟩
  | .singleton _ => none
  | .computed _ _ => none

/-- Accounts that must be kept live for `assemble` to succeed. -/
def Layout.dependentAccounts (layout : Layout Val) (root : Val layout.rootTy) :
    List Dependency :=
  layout.lead.filterMap (Field.dependency ()) ++
    layout.rest.filterMap (Field.dependency root)

end QuoteState

end SolanaProtocols
