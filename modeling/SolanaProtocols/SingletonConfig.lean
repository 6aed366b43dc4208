import Mathlib.Data.List.Perm.Basic
import SolanaProtocols.DepResolver
import SolanaProtocols.PumpConfig

/-!
# Singleton configs

The pump handlers keep three unkeyed values in the cache: the fee recipients
and the two fee configs.  A singleton is replaced by whatever is dispatched, so
after any deliveries it holds what the last of them carried, whatever the slots.
-/

namespace SolanaProtocols

namespace Storage

open Pumpfun

/-- Read/write access to a singleton value. -/
class CacheSingleton (C T : Type) where
  get : C → Option T
  set : C → T → C

/-- The singletons of the cache. -/
structure LocalCache where
  pumpfunFeeRecipients : Option PumpfunFeeRecipients
  pumpfunFeeConfig : Option PumpfunFeeConfig
  pumpSwapFeeConfig : Option PumpSwapFeeConfig
deriving DecidableEq

namespace LocalCache

def new : LocalCache where
  pumpfunFeeRecipients := none
  pumpfunFeeConfig := none
  pumpSwapFeeConfig := none

instance : CacheSingleton LocalCache PumpfunFeeRecipients where
  get cache := cache.pumpfunFeeRecipients
  set cache value := { cache with pumpfunFeeRecipients := some value }

instance : CacheSingleton LocalCache PumpfunFeeConfig where
  get cache := cache.pumpfunFeeConfig
  set cache value := { cache with pumpfunFeeConfig := some value }

instance : CacheSingleton LocalCache PumpSwapFeeConfig where
  get cache := cache.pumpSwapFeeConfig
  set cache value := { cache with pumpSwapFeeConfig := some value }

end LocalCache

/-- The error of a handler whose account data did not parse. -/
def deserializeError (data : Bytes) (err : AccountParseError) : HandlerError :=
  .deserialize data.length err.toText

/-- Nothing to fetch, to wait for or to subscribe to. -/
def HandleResult.nothing : HandleResult where
  accountsToFetch := []
  accountsPendingGrpc := []
  accountsToSubscribe := []

/-- Handler for the Global account. -/
def pumpfunGlobalHandler (C : Type) [CacheSingleton C PumpfunFeeRecipients] :
    StorageHandler C where
  State := PumpfunFeeRecipients
  programId := programId
  discriminator := some globalDiscriminator.toList
  deserialize data :=
    (PumpfunFeeRecipients.fromAccountData data).mapError (deserializeError data)
  apply cache _pubkey state _slot :=
    (CacheSingleton.set cache state, .ok .nothing)

/-- Handler for the FeeConfig family.  Owner and discriminator are the same, so
the address decides the slot. -/
def pumpfunFeeConfigHandler (C : Type) [CacheSingleton C PumpfunFeeConfig]
    [CacheSingleton C PumpSwapFeeConfig] : StorageHandler C where
  State := PumpfunFeeConfig
  programId := pumpFeesProgramId
  discriminator := some feeConfigDiscriminator.toList
  deserialize data :=
    (PumpfunFeeConfig.fromAccountData data).mapError (deserializeError data)
  apply cache pubkey state _slot :=
    if pubkey = feeConfigPda then
      (CacheSingleton.set cache state, .ok .nothing)
    else if pubkey = pumpSwapFeeConfigPda then
      (CacheSingleton.set cache (PumpSwapFeeConfig.mk state), .ok .nothing)
    -- A FeeConfig of some other program is skipped.
    else (cache, .ok .nothing)

/-- Dispatch updates one after another. -/
def Ingest.applyAll {C : Type} (registry : HandlerRegistry C)
    (ingest : Ingest C) (updates : List AccountUpdate) : Ingest C :=
  updates.foldl (fun ingest update => (ingest.apply registry update).1) ingest

/-- A registry that has both handlers where they register. -/
structure ServesPump (registry : HandlerRegistry LocalCache) : Prop where
  global : registry.byDiscriminator (programId, globalDiscriminator) =
    some (pumpfunGlobalHandler LocalCache).erase
  feeConfig :
    registry.byDiscriminator (pumpFeesProgramId, feeConfigDiscriminator) =
      some (pumpfunFeeConfigHandler LocalCache).erase

/-- The registry with the two handlers. -/
def pumpRegistry : Option (HandlerRegistry LocalCache) :=
  (HandlerRegistry.new.register (pumpfunGlobalHandler LocalCache)).bind
    (·.register (pumpfunFeeConfigHandler LocalCache))

/-- Owned by pumpfun, with the discriminator of Global. -/
def IsGlobal (update : AccountUpdate) : Prop :=
  update.owner = programId ∧ firstEight update.data = some globalDiscriminator

/-- Owned by `pump_fees`, with the discriminator of FeeConfig. -/
def IsFeeConfig (update : AccountUpdate) : Prop :=
  update.owner = pumpFeesProgramId ∧
    firstEight update.data = some feeConfigDiscriminator

instance : DecidablePred IsGlobal := fun _ => inferInstanceAs (Decidable (_ ∧ _))

instance : DecidablePred IsFeeConfig := fun _ => inferInstanceAs (Decidable (_ ∧ _))

/-- The fee recipients that an update carries. -/
def recipientsCarried (update : AccountUpdate) : Option PumpfunFeeRecipients :=
  if IsGlobal update then
    (PumpfunFeeRecipients.fromAccountData update.data).toOption
  else none

/-- The fee config of an address that an update carries. -/
def feeConfigCarried (pda : Pubkey) (update : AccountUpdate) :
    Option PumpfunFeeConfig :=
  if IsFeeConfig update ∧ update.pubkey = pda then
    (PumpfunFeeConfig.fromAccountData update.data).toOption
  else none

def pumpSwapFeeConfigCarried (update : AccountUpdate) :
    Option PumpSwapFeeConfig :=
  (feeConfigCarried pumpSwapFeeConfigPda update).map .mk

section Deliveries

variable {T : Type} (carried : AccountUpdate → Option T)

/-- The last delivered update that carries a value. -/
def lastCarrying (delivered : List AccountUpdate) : Option AccountUpdate :=
  (delivered.filter fun update => (carried update).isSome).getLast?

/-- The value that the last delivered update carries, or the old one. -/
def HoldsLast (delivered : List AccountUpdate) (before after : Option T) : Prop :=
  after = ((lastCarrying carried delivered).bind carried).or before

/-- The value of the update with the highest slot. -/
def HoldsHighest (delivered : List AccountUpdate) (held : Option T) : Prop :=
  ∀ update ∈ delivered, (carried update).isSome →
    (∀ other ∈ delivered, (carried other).isSome → other.slot ≤ update.slot) →
      held = carried update

/-- The update with the highest slot is the last to be delivered. -/
def HighestLast (delivered : List AccountUpdate) : Prop :=
  ∀ last ∈ lastCarrying carried delivered, ∀ other ∈ delivered,
    (carried other).isSome → other.slot ≤ last.slot

variable {carried} {delivered : List AccountUpdate}

theorem lastCarrying_append (update : AccountUpdate) :
    lastCarrying carried (delivered ++ [update]) =
      if (carried update).isSome then some update
      else lastCarrying carried delivered := by
  rw [lastCarrying, List.filter_append]
  cases carries : (carried update).isSome with
  | true => simp [carries]
  | false => simp [carries, lastCarrying]

theorem mem_of_lastCarrying {last : AccountUpdate}
    (isLast : last ∈ lastCarrying carried delivered) :
    last ∈ delivered ∧ (carried last).isSome := by
  simpa using List.mem_filter.mp (List.mem_of_mem_getLast? isLast)

theorem lastCarrying_isSome {update : AccountUpdate}
    (member : update ∈ delivered) (carries : (carried update).isSome) :
    ∃ last, lastCarrying carried delivered = some last := by
  have kept : update ∈ delivered.filter fun update => (carried update).isSome :=
    List.mem_filter.mpr ⟨member, carries⟩
  exact ⟨_, List.getLast?_eq_some_getLast (List.ne_nil_of_mem kept)⟩

/-- One more delivery. -/
theorem HoldsLast.append {before middle after : Option T} {update : AccountUpdate}
    (holds : HoldsLast carried delivered before middle)
    (written : after = (carried update).or middle) :
    HoldsLast carried (delivered ++ [update]) before after := by
  rw [HoldsLast] at holds ⊢
  rw [written, holds, lastCarrying_append]
  cases carries : carried update <;> simp [carries]

theorem eq_of_slot_eq (distinct : (delivered.map AccountUpdate.slot).Nodup)
    {first second : AccountUpdate} (firstMem : first ∈ delivered)
    (secondMem : second ∈ delivered) (slotEq : first.slot = second.slot) :
    first = second :=
  List.inj_on_of_nodup_map distinct firstMem secondMem slotEq

/-- Nothing regresses when the highest slot is delivered last. -/
theorem HoldsLast.highest {before after : Option T}
    (holds : HoldsLast carried delivered before after)
    (distinct : (delivered.map AccountUpdate.slot).Nodup)
    (highestLast : HighestLast carried delivered) :
    HoldsHighest carried delivered after := by
  intro update member carries highest
  obtain ⟨last, isLast⟩ := lastCarrying_isSome member carries
  obtain ⟨lastMem, lastCarries⟩ := mem_of_lastCarrying isLast
  have slotEq : last.slot = update.slot :=
    Nat.le_antisymm (highest last lastMem lastCarries)
      (highestLast last isLast update member carries)
  have same := eq_of_slot_eq distinct lastMem member slotEq
  rw [holds, isLast, Option.bind_some, same]
  exact Option.or_eq_left_of_isSome carries

/-- Orders that deliver the highest slot last end with the same update. -/
theorem lastCarrying_eq_of_perm {other : List AccountUpdate}
    (perm : other.Perm delivered)
    (distinct : (delivered.map AccountUpdate.slot).Nodup)
    (highestLast : HighestLast carried delivered)
    (otherHighestLast : HighestLast carried other) :
    lastCarrying carried other = lastCarrying carried delivered := by
  cases isLast : lastCarrying carried delivered with
  | none =>
      cases otherLast : lastCarrying carried other with
      | none => rfl
      | some last =>
          obtain ⟨member, carries⟩ := mem_of_lastCarrying otherLast
          obtain ⟨_, impossible⟩ :=
            lastCarrying_isSome (perm.mem_iff.mp member) carries
          rw [isLast] at impossible
          cases impossible
  | some last =>
      obtain ⟨member, carries⟩ := mem_of_lastCarrying isLast
      have otherMember := perm.mem_iff.mpr member
      obtain ⟨otherLast, isOtherLast⟩ := lastCarrying_isSome otherMember carries
      obtain ⟨otherLastMem, otherCarries⟩ := mem_of_lastCarrying isOtherLast
      have slotEq : otherLast.slot = last.slot := Nat.le_antisymm
        (highestLast last isLast otherLast (perm.mem_iff.mp otherLastMem)
          otherCarries)
        (otherHighestLast otherLast isOtherLast last otherMember carries)
      rw [isOtherLast,
        eq_of_slot_eq distinct (perm.mem_iff.mp otherLastMem) member slotEq]

end Deliveries

theorem lookup_of_firstEight {C : Type} {registry : HandlerRegistry C}
    {owner : Pubkey} {data : Bytes} {key : Discriminator}
    {handler : ErasedHandler C} (starts : firstEight data = some key)
    (registered : registry.byDiscriminator (owner, key) = some handler) :
    registry.lookup owner data = some handler := by
  rw [HandlerRegistry.lookup, starts, Option.bind_some, registered, Option.some_or]

theorem foldl_trySend_cache {C : Type} (targets : List Pubkey) (ingest : Ingest C) :
    (targets.foldl Ingest.trySend ingest).cache = ingest.cache := by
  induction targets generalizing ingest with
  | nil => rfl
  | cons target targets ih =>
      rw [List.foldl_cons, ih, Ingest.trySend]
      split <;> rfl

/-- Applying an update leaves in the cache what its handler leaves there. -/
theorem apply_cache {C : Type} {registry : HandlerRegistry C} {ingest : Ingest C}
    {update : AccountUpdate} {handler : ErasedHandler C}
    (found : registry.lookup update.owner update.data = some handler) :
    (ingest.apply registry update).1.cache =
      (handler.handle ingest.cache update.pubkey update.data update.slot).1 := by
  rw [Ingest.apply, HandlerRegistry.dispatch, found]
  rcases handled : handler.handle ingest.cache update.pubkey update.data
    update.slot with ⟨cache, result | result⟩
  · simp [handled]
  · simp [handled, foldl_trySend_cache]

/-- What an update leaves in the singletons. -/
def LocalCache.write (cache : LocalCache) (update : AccountUpdate) : LocalCache where
  pumpfunFeeRecipients :=
    (recipientsCarried update).or cache.pumpfunFeeRecipients
  pumpfunFeeConfig :=
    (feeConfigCarried feeConfigPda update).or cache.pumpfunFeeConfig
  pumpSwapFeeConfig :=
    (pumpSwapFeeConfigCarried update).or cache.pumpSwapFeeConfig

theorem IsGlobal.not_isFeeConfig {update : AccountUpdate}
    (isGlobal : IsGlobal update) : ¬ IsFeeConfig update := by
  rintro ⟨owner, -⟩
  exact absurd (isGlobal.1.symm.trans owner) (by decide)

variable {registry : HandlerRegistry LocalCache} {ingest : Ingest LocalCache}
  {update : AccountUpdate}

theorem apply_global (serves : ServesPump registry) (isGlobal : IsGlobal update) :
    (ingest.apply registry update).1.cache = ingest.cache.write update := by
  obtain ⟨owner, starts⟩ := id isGlobal
  have found := lookup_of_firstEight starts serves.global
  rw [← owner] at found
  rw [apply_cache found]
  have notFeeConfig := isGlobal.not_isFeeConfig
  cases parsed : PumpfunFeeRecipients.fromAccountData update.data with
  | error err =>
      simp [LocalCache.write, recipientsCarried, feeConfigCarried,
        pumpSwapFeeConfigCarried, StorageHandler.erase, pumpfunGlobalHandler,
        parsed, isGlobal, notFeeConfig, Except.mapError, Except.toOption]
  | ok state =>
      simp [LocalCache.write, recipientsCarried, feeConfigCarried,
        pumpSwapFeeConfigCarried, StorageHandler.erase, pumpfunGlobalHandler,
        parsed, isGlobal, notFeeConfig, Except.mapError, Except.toOption,
        CacheSingleton.set]

theorem apply_feeConfig (serves : ServesPump registry)
    (isFeeConfig : IsFeeConfig update) :
    (ingest.apply registry update).1.cache = ingest.cache.write update := by
  obtain ⟨owner, starts⟩ := id isFeeConfig
  have found := lookup_of_firstEight starts serves.feeConfig
  rw [← owner] at found
  rw [apply_cache found]
  have notGlobal : ¬ IsGlobal update := fun isGlobal =>
    isGlobal.not_isFeeConfig isFeeConfig
  have different : pumpSwapFeeConfigPda ≠ feeConfigPda := by decide
  cases parsed : PumpfunFeeConfig.fromAccountData update.data with
  | error err =>
      simp [LocalCache.write, recipientsCarried, feeConfigCarried,
        pumpSwapFeeConfigCarried, StorageHandler.erase, pumpfunFeeConfigHandler,
        parsed, notGlobal, Except.mapError, Except.toOption]
  | ok state =>
      by_cases pumpfun : update.pubkey = feeConfigPda
      · simp [LocalCache.write, recipientsCarried, feeConfigCarried,
          pumpSwapFeeConfigCarried, StorageHandler.erase, pumpfunFeeConfigHandler,
          parsed, notGlobal, isFeeConfig, pumpfun, different.symm,
          Except.mapError, Except.toOption, CacheSingleton.set]
      · by_cases pumpSwap : update.pubkey = pumpSwapFeeConfigPda
        · simp [LocalCache.write, recipientsCarried, feeConfigCarried,
            pumpSwapFeeConfigCarried, StorageHandler.erase,
            pumpfunFeeConfigHandler, parsed, notGlobal, isFeeConfig, pumpSwap,
            different, Except.mapError, Except.toOption, CacheSingleton.set]
        · simp [LocalCache.write, recipientsCarried, feeConfigCarried,
            pumpSwapFeeConfigCarried, StorageHandler.erase,
            pumpfunFeeConfigHandler, parsed, notGlobal, pumpfun, pumpSwap,
            Except.mapError]

/-- A Global or FeeConfig update. -/
def IsConfig (update : AccountUpdate) : Prop :=
  IsGlobal update ∨ IsFeeConfig update

theorem apply_config (serves : ServesPump registry) (isConfig : IsConfig update) :
    (ingest.apply registry update).1.cache = ingest.cache.write update :=
  isConfig.elim (apply_global serves) (apply_feeConfig serves)

/-- Each singleton holds what the last delivery for it carried. -/
structure LastHeld (delivered : List AccountUpdate) (before after : LocalCache) :
    Prop where
  recipients : HoldsLast recipientsCarried delivered
    (CacheSingleton.get before) (CacheSingleton.get after)
  feeConfig : HoldsLast (feeConfigCarried feeConfigPda) delivered
    (CacheSingleton.get before) (CacheSingleton.get after)
  pumpSwapFeeConfig : HoldsLast pumpSwapFeeConfigCarried delivered
    (CacheSingleton.get before) (CacheSingleton.get after)

/-- Each singleton holds the value with the highest slot. -/
structure HighestHeld (delivered : List AccountUpdate) (after : LocalCache) :
    Prop where
  recipients : HoldsHighest recipientsCarried delivered (CacheSingleton.get after)
  feeConfig : HoldsHighest (feeConfigCarried feeConfigPda) delivered
    (CacheSingleton.get after)
  pumpSwapFeeConfig : HoldsHighest pumpSwapFeeConfigCarried delivered
    (CacheSingleton.get after)

/-- For each singleton, the update with the highest slot is delivered last. -/
structure DeliversHighestLast (delivered : List AccountUpdate) : Prop where
  recipients : HighestLast recipientsCarried delivered
  feeConfig : HighestLast (feeConfigCarried feeConfigPda) delivered
  pumpSwapFeeConfig : HighestLast pumpSwapFeeConfigCarried delivered

theorem applyAll_lastHeld (serves : ServesPump registry) (ingest : Ingest LocalCache)
    {delivered : List AccountUpdate} (configs : ∀ update ∈ delivered, IsConfig update) :
    LastHeld delivered ingest.cache (ingest.applyAll registry delivered).cache := by
  induction delivered using List.reverseRecOn with
  | nil => exact ⟨rfl, rfl, rfl⟩
  | append_singleton delivered update ih =>
      obtain ⟨recipients, feeConfig, pumpSwapFeeConfig⟩ :=
        ih fun earlier member => configs earlier (List.mem_append_left _ member)
      have written : (ingest.applyAll registry (delivered ++ [update])).cache =
          (ingest.applyAll registry delivered).cache.write update := by
        rw [Ingest.applyAll, List.foldl_append]
        exact apply_config serves (configs update (by simp))
      rw [written]
      exact ⟨recipients.append rfl, feeConfig.append rfl,
        pumpSwapFeeConfig.append rfl⟩

theorem LastHeld.cache_eq {delivered other : List AccountUpdate}
    {before after otherAfter : LocalCache}
    (held : LastHeld delivered before after)
    (otherHeld : LastHeld other before otherAfter) (perm : other.Perm delivered)
    (distinct : (delivered.map AccountUpdate.slot).Nodup)
    (highestLast : DeliversHighestLast delivered)
    (otherHighestLast : DeliversHighestLast other) : otherAfter = after := by
  have recipients : otherAfter.pumpfunFeeRecipients = after.pumpfunFeeRecipients :=
    otherHeld.recipients.trans <| by
      rw [lastCarrying_eq_of_perm perm distinct highestLast.recipients
        otherHighestLast.recipients]
      exact held.recipients.symm
  have feeConfig : otherAfter.pumpfunFeeConfig = after.pumpfunFeeConfig :=
    otherHeld.feeConfig.trans <| by
      rw [lastCarrying_eq_of_perm perm distinct highestLast.feeConfig
        otherHighestLast.feeConfig]
      exact held.feeConfig.symm
  have pumpSwapFeeConfig : otherAfter.pumpSwapFeeConfig = after.pumpSwapFeeConfig :=
    otherHeld.pumpSwapFeeConfig.trans <| by
      rw [lastCarrying_eq_of_perm perm distinct highestLast.pumpSwapFeeConfig
        otherHighestLast.pumpSwapFeeConfig]
      exact held.pumpSwapFeeConfig.symm
  cases otherAfter
  cases after
  simp_all

/-- However the Global and FeeConfig updates are ordered, each singleton ends
with what the last delivery for it carried; where that is the one with the
highest slot, nothing regresses and the order of the others does not matter. -/
theorem singletons_hold_lastDelivered (serves : ServesPump registry)
    (ingest : Ingest LocalCache) {delivered : List AccountUpdate}
    (configs : ∀ update ∈ delivered, IsConfig update) :
    LastHeld delivered ingest.cache (ingest.applyAll registry delivered).cache ∧
      ((delivered.map AccountUpdate.slot).Nodup → DeliversHighestLast delivered →
        HighestHeld delivered (ingest.applyAll registry delivered).cache ∧
          ∀ other, other.Perm delivered → DeliversHighestLast other →
            (ingest.applyAll registry other).cache =
              (ingest.applyAll registry delivered).cache) := by
  have held := applyAll_lastHeld serves ingest configs
  refine ⟨held, fun distinct highestLast => ⟨?_, ?_⟩⟩
  · exact ⟨held.recipients.highest distinct highestLast.recipients,
      held.feeConfig.highest distinct highestLast.feeConfig,
      held.pumpSwapFeeConfig.highest distinct highestLast.pumpSwapFeeConfig⟩
  · intro other perm otherHighestLast
    have otherHeld := applyAll_lastHeld serves ingest fun update member =>
      configs update (perm.mem_iff.mp member)
    exact held.cache_eq otherHeld perm distinct highestLast otherHighestLast

theorem firstEight_append (discriminator : Discriminator) (rest : Bytes) :
    firstEight (discriminator.toList ++ rest) = some discriminator := by
  have enough : 8 ≤ (discriminator.toList ++ rest).length := by
    rw [List.length_append, discriminator.length_toList]
    omega
  rw [firstEight, dif_pos enough, Option.some_inj]
  apply Vector.ext
  intro idx idxLt
  rw [Vector.getElem_ofFn]
  exact (List.getElem_append_left (by simpa using idxLt)).trans (by simp)

theorem pumpRegistry_serves :
    ∃ registry, pumpRegistry = some registry ∧ ServesPump registry := by
  refine ⟨_, rfl, ?_, ?_⟩
  · rfl
  · rfl

/-- A fee config that its bump tells from the others. -/
def plainFeeConfig (bump : UInt8) : PumpfunFeeConfig where
  bump := bump
  admin := 7
  flatFees := ⟨0, 0, 0⟩
  feeTiers := ⟨[], by decide⟩

/-- Pumpfun's FeeConfig account at a slot. -/
def feeConfigUpdate (bump : UInt8) (slot : Nat) : AccountUpdate where
  pubkey := feeConfigPda
  owner := pumpFeesProgramId
  data := feeConfigDiscriminator.toList ++
    PumpfunFeeConfig.fields.encode (plainFeeConfig bump)
  slot := slot

@[simp]
theorem feeConfigUpdate_slot (bump : UInt8) (slot : Nat) :
    (feeConfigUpdate bump slot).slot = slot :=
  rfl

theorem feeConfigUpdate_isFeeConfig (bump : UInt8) (slot : Nat) :
    IsFeeConfig (feeConfigUpdate bump slot) :=
  ⟨rfl, firstEight_append _ _⟩

theorem feeConfigUpdate_carried (bump : UInt8) (slot : Nat) :
    feeConfigCarried feeConfigPda (feeConfigUpdate bump slot) =
      some (plainFeeConfig bump) := by
  have parsed := fromAccountData_encode feeConfigDiscriminator
    PumpfunFeeConfig.fields (plainFeeConfig bump) []
  rw [List.append_nil] at parsed
  rw [feeConfigCarried, if_pos ⟨feeConfigUpdate_isFeeConfig bump slot, rfl⟩,
    PumpfunFeeConfig.fromAccountData, feeConfigUpdate, parsed, Except.toOption]

/-- The newer config arrives first, as when a fetch and the stream race. -/
def racedConfigs : List AccountUpdate :=
  [feeConfigUpdate 22 101, feeConfigUpdate 11 100]

def freshIngest : Ingest LocalCache where
  cache := .new
  queue := []
  depsDropped := 0

theorem racedConfigs_isConfig : ∀ update ∈ racedConfigs, IsConfig update := by
  intro update member
  rcases List.mem_pair.mp member with rfl | rfl
  · exact .inr (feeConfigUpdate_isFeeConfig 22 101)
  · exact .inr (feeConfigUpdate_isFeeConfig 11 100)

/-- The older config stays, and the other order ends with the newer one. -/
theorem racedConfigs_regress :
    ∃ registry, pumpRegistry = some registry ∧
      (∀ update ∈ racedConfigs, IsConfig update) ∧
      (racedConfigs.map AccountUpdate.slot).Nodup ∧
      ¬ HighestHeld racedConfigs
        (freshIngest.applyAll registry racedConfigs).cache ∧
      (freshIngest.applyAll registry racedConfigs.reverse).cache ≠
        (freshIngest.applyAll registry racedConfigs).cache := by
  obtain ⟨registry, registered, serves⟩ := pumpRegistry_serves
  have held := (applyAll_lastHeld serves freshIngest racedConfigs_isConfig).feeConfig
  have reversed := (applyAll_lastHeld serves freshIngest
    (fun update member => racedConfigs_isConfig update
      (List.mem_reverse.mp member)) :
    LastHeld racedConfigs.reverse _ _).feeConfig
  have older : (freshIngest.applyAll registry racedConfigs).cache.pumpfunFeeConfig =
      some (plainFeeConfig 11) := by
    refine held.trans ?_
    simp [lastCarrying, racedConfigs, feeConfigUpdate_carried]
  have newer : (freshIngest.applyAll registry
      racedConfigs.reverse).cache.pumpfunFeeConfig = some (plainFeeConfig 22) := by
    refine reversed.trans ?_
    simp [lastCarrying, racedConfigs, feeConfigUpdate_carried]
  have different : plainFeeConfig 11 ≠ plainFeeConfig 22 := by decide
  refine ⟨registry, registered, racedConfigs_isConfig, by decide, ?_, ?_⟩
  · intro highest
    have expected := highest.feeConfig (feeConfigUpdate 22 101)
      (by simp [racedConfigs]) (by simp [feeConfigUpdate_carried])
      (by simp [racedConfigs])
    rw [feeConfigUpdate_carried] at expected
    exact different (Option.some_inj.mp (older.symm.trans expected))
  · intro same
    rw [same, older, Option.some_inj] at newer
    exact different newer

theorem feeConfigUpdate_recipients (bump : UInt8) (slot : Nat) :
    recipientsCarried (feeConfigUpdate bump slot) = none :=
  if_neg fun isGlobal =>
    isGlobal.not_isFeeConfig (feeConfigUpdate_isFeeConfig bump slot)

theorem feeConfigUpdate_pumpSwap (bump : UInt8) (slot : Nat) :
    pumpSwapFeeConfigCarried (feeConfigUpdate bump slot) = none := by
  have elsewhere : feeConfigPda ≠ pumpSwapFeeConfigPda := by decide
  simp [pumpSwapFeeConfigCarried, feeConfigCarried, feeConfigUpdate, elsewhere]

/-- In the order of their slots the two configs end with the newer one. -/
theorem singletons_hold_lastDelivered_ordered :
    ∃ registry, pumpRegistry = some registry ∧
      LastHeld racedConfigs.reverse LocalCache.new
        (freshIngest.applyAll registry racedConfigs.reverse).cache ∧
      HighestHeld racedConfigs.reverse
        (freshIngest.applyAll registry racedConfigs.reverse).cache := by
  obtain ⟨registry, registered, serves⟩ := pumpRegistry_serves
  have configs : ∀ update ∈ racedConfigs.reverse, IsConfig update :=
    fun update member => racedConfigs_isConfig update (List.mem_reverse.mp member)
  obtain ⟨lastHeld, highest⟩ :=
    singletons_hold_lastDelivered serves freshIngest configs
  have highestLast : DeliversHighestLast racedConfigs.reverse := by
    constructor
    · simp [HighestLast, lastCarrying, racedConfigs, feeConfigUpdate_recipients]
    · simp [HighestLast, lastCarrying, racedConfigs, feeConfigUpdate_carried]
    · simp [HighestLast, lastCarrying, racedConfigs, feeConfigUpdate_pumpSwap]
  exact ⟨registry, registered, lastHeld, (highest (by decide) highestLast).1⟩

end Storage

end SolanaProtocols
