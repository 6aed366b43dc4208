import Mathlib.Data.Finset.Insert
import SolanaProtocols.SolanaTypes

/-!
# Handler registry

Account updates are dispatched by owner and leading data bytes to the handler
registered for them.  A handler writes the cache it is given, so handling
returns the cache as well as its result.
-/

namespace SolanaProtocols

namespace Storage

/-- How a dependency reaches us. -/
inductive DeliveryExpectation
  | infrequent
  | frequent
  | dynamic
deriving DecidableEq, Repr

/-- An account that a handler needs in order to do its job. -/
structure Dependency where
  pubkey : Pubkey
  expectation : DeliveryExpectation
deriving DecidableEq, Repr

/-- What a handler reports after applying an update. -/
structure HandleResult where
  accountsToFetch : List Dependency
  accountsPendingGrpc : List Dependency
  accountsToSubscribe : List Dependency
deriving DecidableEq, Repr

inductive HandlerError
  | deserialize (dataLen : Nat) (reason : String)
  | noHandler (programId : Pubkey) (discriminator : Option Discriminator)
  | apply (pubkey : Pubkey) (reason : String)
deriving DecidableEq, Repr

/-- A handler with its state type. -/
structure StorageHandler (C : Type) where
  State : Type
  programId : Pubkey
  discriminator : Option Bytes
  matchesAccount : Bytes → Bool := fun _ => true
  subscribeProgramAccounts : Bool := true
  deserialize : Bytes → Except HandlerError State
  apply : C → Pubkey → State → Nat → C × Except HandlerError HandleResult

/-- A handler whose state type is hidden. -/
structure ErasedHandler (C : Type) where
  programId : Pubkey
  discriminator : Option Bytes
  matchesAccount : Bytes → Bool
  subscribeProgramAccounts : Bool
  handle : C → Pubkey → Bytes → Nat → C × Except HandlerError HandleResult

/-- Deserialize and apply in one shot. -/
def StorageHandler.erase {C : Type} (handler : StorageHandler C) :
    ErasedHandler C where
  programId := handler.programId
  discriminator := handler.discriminator
  matchesAccount := handler.matchesAccount
  subscribeProgramAccounts := handler.subscribeProgramAccounts
  handle cache pubkey data slot :=
    match handler.deserialize data with
    | .error err => (cache, .error err)
    | .ok state => handler.apply cache pubkey state slot

def firstEight (data : Bytes) : Option Discriminator :=
  if enough : 8 ≤ data.length then
    some (Vector.ofFn fun idx => data[idx])
  else none

structure HandlerRegistry (C : Type) where
  byDiscriminator : Pubkey × Discriminator → Option (ErasedHandler C)
  fallback : Pubkey → List (ErasedHandler C)
  programIds : Finset Pubkey
  subscribable : Finset Pubkey

namespace HandlerRegistry

variable {C : Type}

def new : HandlerRegistry C where
  byDiscriminator _ := none
  fallback _ := []
  programIds := ∅
  subscribable := ∅

/-- Register a handler.  `none` is a panic: another handler is registered for
the same program and discriminator. -/
def register (registry : HandlerRegistry C) (handler : StorageHandler C) :
    Option (HandlerRegistry C) :=
  let erased := handler.erase
  let programId := erased.programId
  let registry := { registry with
    programIds := insert programId registry.programIds
    subscribable :=
      if erased.subscribeProgramAccounts then
        insert programId registry.subscribable
      else registry.subscribable }
  match erased.discriminator.bind fun bytes =>
      if bytes.length = 8 then firstEight bytes else none with
  | some keyBytes =>
      match registry.byDiscriminator (programId, keyBytes) with
      | some _ => none
      | none => some { registry with
          byDiscriminator := fun key =>
            if key = (programId, keyBytes) then some erased
            else registry.byDiscriminator key }
  | none => some { registry with
      fallback := fun owner =>
        if owner = programId then registry.fallback owner ++ [erased]
        else registry.fallback owner }

/-- The handlers off the discriminator path that take the data. -/
def fallbackMatches (data : Bytes) (handler : ErasedHandler C) : Bool :=
  handler.discriminator.all (fun bytes => bytes.isPrefixOf data) &&
    handler.matchesAccount data

/-- Find the handler for an account update, if any. -/
def lookup (registry : HandlerRegistry C) (owner : Pubkey) (data : Bytes) :
    Option (ErasedHandler C) :=
  ((firstEight data).bind fun firstEight =>
      registry.byDiscriminator (owner, firstEight)).or
    ((registry.fallback owner).find? (fallbackMatches data))

/-- Dispatch an account update. -/
def dispatch (registry : HandlerRegistry C) (cache : C) (owner pubkey : Pubkey)
    (data : Bytes) (slot : Nat) : C × Except HandlerError HandleResult :=
  match registry.lookup owner data with
  | some handler => handler.handle cache pubkey data slot
  | none => (cache, .error (.noHandler owner (firstEight data)))

end HandlerRegistry

end Storage

end SolanaProtocols
