import SolanaProtocols.CacheDispatch

/-!
# Runs of the whole cache

After any deliveries, a map is what its own accounts make of it, and the current
state of an account is the last one delivered of those with the highest slot.
-/

namespace SolanaProtocols

namespace Storage

open HandlerRegistry NewestWins

namespace VersionedStateMap

variable {K T : Type*}

/-- The current version of a key. -/
def current (map : VersionedStateMap K T) (key : K) : Option (StateWithSlot T) :=
  (map.inner key).map VersionedState.current

variable [DecidableEq K] (map : VersionedStateMap K T)

/-- Insert values one after the other. -/
def insertAll (inserts : List (K × StateWithSlot T)) : VersionedStateMap K T :=
  inserts.foldl (fun map (key, version) => (map.insert key version.state version.slot).1)
    map

theorem insertAll_withDepth (depth : Nat) (inserts : List (K × StateWithSlot T)) :
    (withDepth depth : VersionedStateMap K T).insertAll inserts =
      (MapRun.ofEvents depth (inserts.map fun (key, version) =>
        .insert key version.state version.slot)).map := by
  have follows : ∀ run : MapRun K T, run.map.insertAll inserts =
      ((inserts.map fun (key, version) =>
        MapEvent.insert key version.state version.slot).foldl MapRun.step run).map := by
    induction inserts with
    | nil => exact fun _ => rfl
    | cons insertion inserts ih =>
        intro run
        exact ih (run.step (.insert insertion.1 insertion.2.state insertion.2.slot))
  exact follows (.start depth)

end VersionedStateMap

section Runs

variable {dlmm : DlmmAccounts}

variable (dlmm) in
/-- What updates insert into a map, in order. -/
def insertions (field : CacheField) (delivered : List AccountUpdate) :
    List (Pubkey × StateWithSlot (field.Value dlmm)) :=
  delivered.filterMap fun update =>
    (carried dlmm field update).map fun value => (update.pubkey, ⟨value, update.slot⟩)

variable (dlmm) in
/-- The states of an account that are delivered for a map, in order. -/
def observations (field : CacheField) (key : Pubkey) (delivered : List AccountUpdate) :
    List (StateWithSlot (field.Value dlmm)) :=
  ((insertions dlmm field delivered).filter (·.1 = key)).map Prod.snd

theorem maps_write (cache : CacheData dlmm) (update : AccountUpdate)
    (field : CacheField) :
    (cache.write update).maps field =
      (cache.maps field).insertAll (insertions dlmm field [update]) := by
  simp only [CacheData.write, insertions, List.filterMap_cons, List.filterMap_nil]
  cases carried dlmm field update <;> rfl

theorem maps_writeAll (cache : CacheData dlmm) (delivered : List AccountUpdate)
    (field : CacheField) :
    (delivered.foldl CacheData.write cache).maps field =
      (cache.maps field).insertAll (insertions dlmm field delivered) := by
  induction delivered generalizing cache with
  | nil => rfl
  | cons update delivered ih =>
      have split : insertions dlmm field (update :: delivered) =
          insertions dlmm field [update] ++ insertions dlmm field delivered := by
        rw [insertions, insertions, insertions, ← List.filterMap_append]
        rfl
      rw [List.foldl_cons, ih, maps_write, split, VersionedStateMap.insertAll,
        VersionedStateMap.insertAll, VersionedStateMap.insertAll, List.foldl_append]

theorem singletons_writeAll (cache : CacheData dlmm) (delivered : List AccountUpdate) :
    (delivered.foldl CacheData.write cache).singletons =
      delivered.foldl LocalCache.write cache.singletons := by
  induction delivered generalizing cache with
  | nil => rfl
  | cons update delivered ih =>
      rw [List.foldl_cons, ih, List.foldl_cons]
      rfl

variable {watchlist : Option (Finset Pubkey)}
  {registry : HandlerRegistry (CacheData dlmm)}

theorem cache_apply {C : Type} (registry : HandlerRegistry C) (ingest : Ingest C)
    (update : AccountUpdate) :
    (ingest.apply registry update).1.cache =
      (registry.dispatch ingest.cache update.owner update.pubkey update.data
        update.slot).1 := by
  rw [Ingest.apply]
  rcases registry.dispatch ingest.cache update.owner update.pubkey update.data
    update.slot with ⟨cache, result | result⟩
  · rfl
  · exact foldl_trySend_cache _ _

theorem cache_applyAll
    (registered : registerAll (cacheHandlers dlmm watchlist) = some registry)
    (ingest : Ingest (CacheData dlmm)) (delivered : List AccountUpdate) :
    (ingest.applyAll registry delivered).cache =
      delivered.foldl CacheData.write ingest.cache := by
  induction delivered generalizing ingest with
  | nil => rfl
  | cons update delivered ih =>
      have rest := ih (ingest.apply registry update).1
      rw [cache_apply, dispatch_cache registered] at rest
      exact rest

/-- Every version that an account had before or is delivered. -/
def known (before : CacheData dlmm) (delivered : List AccountUpdate)
    (field : CacheField) (key : Pubkey) : List (StateWithSlot (field.Value dlmm)) :=
  ((before.maps field).current key).toList ++ observations dlmm field key delivered

end Runs

section TokenAccounts

open PrefixCodec Pumpfun

end TokenAccounts

section Examples

/-- Accounts without state that their discriminators tell apart. -/
def plainAccounts : DlmmAccounts where
  LbPair := Unit
  BinArray := Unit
  BinArrayBitmapExtension := Unit
  PositionV2Full := Unit
  lbPair := ⟨#v[1, 0, 0, 0, 0, 0, 0, 0], fun _ => .ok ()⟩
  binArray := ⟨#v[2, 0, 0, 0, 0, 0, 0, 0], fun _ => .ok ()⟩
  binArrayBitmapExtension := ⟨#v[3, 0, 0, 0, 0, 0, 0, 0], fun _ => .ok ()⟩
  positionV2 := ⟨#v[4, 0, 0, 0, 0, 0, 0, 0], fun _ => .ok ()⟩

end Examples

end Storage

end SolanaProtocols
