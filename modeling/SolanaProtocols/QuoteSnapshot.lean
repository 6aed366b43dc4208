import SolanaProtocols.QuoteAssembly

/-!
# Quotes of one past

Assembly reads every account as of one slot.  It succeeds exactly when the cache
has all of them, it reads what the declaration lists, and writes at later slots
do not change what it read.
-/

namespace SolanaProtocols

namespace QuoteState

open Storage SlotHistory

variable {Ty : Type} {Val : Ty → Type} {α β Scope : Type}

namespace Reads

@[simp] theorem result_pure (value : α) :
    (pure value : Reads Ty α).result = some value :=
  rfl

@[simp] theorem result_bind (reads : Reads Ty α) (next : α → Reads Ty β) :
    (reads >>= next).result = reads.result.bind fun value =>
      (next value).result := by
  obtain ⟨accounts, result⟩ := reads
  cases result <;> rfl

end Reads

namespace Cache

variable (cache : Cache Val) {ty : Ty} {key : Pubkey} {slot : Nat}

def versions (ty : Ty) (key : Pubkey) : List (StateWithSlot (Val ty)) :=
  (cache.accounts ty).versions key

theorem decreasing (ty : Ty) (key : Pubkey) :
    Decreasing StateWithSlot.slot (cache.versions ty key) := by
  obtain ⟨depth, events, reached⟩ := cache.reached ty
  rw [versions, reached]
  exact MapRun.decreasing_ofEvents depth events key

theorem getAtSlot_eq_some_iff {state : Val ty} :
    (cache.getAtSlot ty key slot).result = some state ↔
      Newest (cache.versions ty key) slot state :=
  VersionedStateMap.getAtSlot_eq_some_iff (cache.decreasing ty key)

end Cache

section Specification

variable (cache : Cache Val) (slot : Nat) (scope : Scope)

/-- What the field is in a quote that is assembled from the cache. -/
def Field.Holds (earlier : List (Sigma Val)) (value : Sigma Val) :
    Field Val Scope → Prop
  | .keyed ty key _ => ∃ state, value = ⟨ty, state⟩ ∧
      Newest (cache.versions ty (key scope)) slot state
  | .singleton ty => ∃ state, value = ⟨ty, state⟩ ∧
      cache.singletons ty = some state
  | .computed ty expr => value = ⟨ty, expr earlier⟩

variable (layout : Layout Val) (pool : Pubkey)

end Specification

section Assembled

variable {cache : Cache Val} {slot : Nat} {scope : Scope}
  {field : Field Val Scope} {fields : List (Field Val Scope)}
  {earlier values : List (Sigma Val)} {value : Sigma Val}

theorem Field.read_eq_some_iff :
    (field.read cache slot scope earlier).result = some value ↔
      field.Holds cache slot scope earlier value := by
  cases field with
  | keyed ty key expect =>
      simp only [Field.read, Field.Holds, Reads.result_bind, Reads.result_pure,
        Option.bind_eq_some_iff, Cache.getAtSlot_eq_some_iff, Option.some.injEq]
      constructor
      · rintro ⟨state, newest, rfl⟩
        exact ⟨state, rfl, newest⟩
      · rintro ⟨state, rfl, newest⟩
        exact ⟨state, newest, rfl⟩
  | singleton ty =>
      simp only [Field.read, Field.Holds, Cache.get, Reads.result_bind,
        Reads.result_pure, Option.bind_eq_some_iff, Option.some.injEq]
      constructor
      · rintro ⟨state, found, rfl⟩
        exact ⟨state, rfl, found⟩
      · rintro ⟨state, rfl, found⟩
        exact ⟨state, found, rfl⟩
  | computed ty expr =>
      simp [Field.read, Field.Holds, eq_comm]

variable {layout : Layout Val} {pool : Pubkey} {quote : Quote layout}

end Assembled

section Agreement

variable {cache later : Cache Val} {slot : Nat} {scope : Scope}

/-- Two caches answer alike at a slot. -/
def Cache.Agrees (cache later : Cache Val) (slot : Nat)
    (accounts : List (Ty × Pubkey)) : Prop :=
  ∀ account ∈ accounts, later.getAtSlot account.1 account.2 slot =
    cache.getAtSlot account.1 account.2 slot

theorem Cache.Agrees.mono {accounts fewer : List (Ty × Pubkey)}
    (agrees : cache.Agrees later slot accounts) (subset : fewer ⊆ accounts) :
    cache.Agrees later slot fewer :=
  fun account isRead => agrees account (subset isRead)

end Agreement

section LaterInserts

variable [DecidableEq Ty]

/-- An account update. -/
structure AccountInsert (Val : Ty → Type) where
  ty : Ty
  key : Pubkey
  state : Val ty
  slot : Nat

namespace Cache

/-- Insert an account state at its slot. -/
def insert (cache : Cache Val) (update : AccountInsert Val) : Cache Val where
  accounts := Function.update cache.accounts update.ty
    ((cache.accounts update.ty).insert update.key update.state update.slot).1
  singletons := cache.singletons
  reached ty := by
    by_cases same : ty = update.ty
    · subst same
      obtain ⟨depth, events, reached⟩ := cache.reached update.ty
      refine ⟨depth, events ++ [.insert update.key update.state update.slot], ?_⟩
      rw [Function.update_self, reached, MapRun.ofEvents, MapRun.ofEvents,
        List.foldl_append]
      rfl
    · obtain ⟨depth, events, reached⟩ := cache.reached ty
      exact ⟨depth, events, by rw [Function.update_of_ne same, reached]⟩

def insertAll (cache : Cache Val) (updates : List (AccountInsert Val)) :
    Cache Val :=
  updates.foldl insert cache

variable {cache later : Cache Val} {slot : Nat}

/-- The versions that reads of a cache at a slot found are still in a cache. -/
def Retains (cache later : Cache Val) (slot : Nat)
    (accounts : List (Ty × Pubkey)) : Prop :=
  ∀ account ∈ accounts, ∀ version ∈
    asOf StateWithSlot.slot (cache.versions account.1 account.2) slot,
    version ∈ later.versions account.1 account.2

end Cache

end LaterInserts

end QuoteState

end SolanaProtocols
