import SolanaProtocols.SnapshotAtomic
import SolanaProtocols.SnapshotFormat

/-!
# Restarts from a snapshot

A cache that is loaded has the blockhashes of a snapshot and is empty otherwise.
Whenever processes stop, the next one can load, and from there on accounts are
cached as if they were the first ones.
-/

namespace SolanaProtocols

namespace Storage

open HandlerRegistry

/-- Construction-time configuration. -/
structure LocalCacheConfig where
  depths : FieldDepths
  persistOnDrop : Option Text
  currentSlot : Option Nat

/-- What the handles to a cache share beside its data. -/
structure CacheMeta where
  persistOnDrop : Option Text
  persisted : Bool
  currentSlot : Nat
deriving DecidableEq

def LocalCacheConfig.meta (config : LocalCacheConfig) : CacheMeta where
  persistOnDrop := config.persistOnDrop
  persisted := false
  currentSlot := config.currentSlot.getD 0

/-- What a handle refers to. -/
structure SharedCache (dlmm : DlmmAccounts) where
  data : CacheData dlmm
  shared : CacheMeta

variable {dlmm : DlmmAccounts}

/-- Data that is read back, with placeholders for what is not serialized. -/
def CacheData.ofSaved (saved : SavedMap) : CacheData dlmm where
  maps
    | .blockhashes => saved.toMap
    | .bondingCurves => .withDepth 0
    | .pumpSwapPools => .withDepth 0
    | .dlmmLbPairs => .withDepth 0
    | .dlmmBinArrays => .withDepth 0
    | .dlmmBinArrayBitmapExtensions => .withDepth 0
    | .dlmmPositions => .withDepth 0
    | .mintTokenPrograms => .withDepth 0
    | .tokenAccounts => .withDepth 0
  singletons := .new

/-- Give the fields that are not persisted their configured depths. -/
def CacheData.resetRuntimeFields (data : CacheData dlmm) (depths : FieldDepths) :
    CacheData dlmm where
  maps
    | .blockhashes => data.maps .blockhashes
    | .bondingCurves => .withDepth (depths .bondingCurves)
    | .pumpSwapPools => .withDepth (depths .pumpSwapPools)
    | .dlmmLbPairs => .withDepth (depths .dlmmLbPairs)
    | .dlmmBinArrays => .withDepth (depths .dlmmBinArrays)
    | .dlmmBinArrayBitmapExtensions => .withDepth (depths .dlmmBinArrayBitmapExtensions)
    | .dlmmPositions => .withDepth (depths .dlmmPositions)
    | .mintTokenPrograms => .withDepth (depths .mintTokenPrograms)
    | .tokenAccounts => .withDepth (depths .tokenAccounts)
  -- The PumpSwap fee config is not reset.
  singletons := { data.singletons with pumpfunFeeRecipients := none, pumpfunFeeConfig := none }

namespace SharedCache

def new (config : LocalCacheConfig) : SharedCache dlmm where
  data := .withDepths config.depths
  shared := config.meta

/-- Load a snapshot from the contents of a path. -/
def loadFrom (gzip : Gzip) (path : Text) (file : Option Bytes)
    (config : LocalCacheConfig) : Except CacheError (SharedCache dlmm) :=
  (readPayload gzip.snapshots path file).map fun saved =>
    { data := (CacheData.ofSaved saved).resetRuntimeFields config.depths
      shared := config.meta }

/-- Load from the configured path, if there is a file. -/
def loadOrNew (gzip : Gzip) (fs : FileSystem Text) (config : LocalCacheConfig) :
    Except CacheError (SharedCache dlmm) :=
  match config.persistOnDrop.filter fun path => (fs.names path).isSome with
  | some path => loadFrom gzip path (fs.read path) config
  | none => .ok (.new config)

end SharedCache

/-- A new cache, but for the blockhashes. -/
def CacheData.restored (depths : FieldDepths)
    (blockhashes : VersionedStateMap Pubkey (Vector UInt8 32)) : CacheData dlmm where
  maps := Function.update (CacheData.withDepths depths).maps .blockhashes blockhashes
  singletons := .new

theorem maps_restored_self {depths : FieldDepths}
    (blockhashes : VersionedStateMap Pubkey (Vector UInt8 32)) :
    (CacheData.restored depths blockhashes : CacheData dlmm).maps .blockhashes =
      blockhashes := by
  simp only [CacheData.restored, Function.update_self]

theorem maps_restored_of_ne {depths : FieldDepths} {field : CacheField}
    (blockhashes : VersionedStateMap Pubkey (Vector UInt8 32))
    (different : field ≠ .blockhashes) :
    (CacheData.restored depths blockhashes : CacheData dlmm).maps field =
      (CacheData.withDepths depths).maps field :=
  Function.update_of_ne different _ _

theorem resetRuntimeFields_ofSaved (saved : SavedMap) (depths : FieldDepths) :
    (CacheData.ofSaved saved : CacheData dlmm).resetRuntimeFields depths =
      .restored depths saved.toMap := by
  rw [CacheData.resetRuntimeFields, CacheData.restored, CacheData.mk.injEq]
  refine ⟨?_, rfl⟩
  funext field
  cases field <;> rfl

theorem withDepths_eq_restored (depths : FieldDepths) :
    (CacheData.withDepths depths : CacheData dlmm) =
      .restored depths (.withDepth (depths .blockhashes)) := by
  rw [CacheData.restored, CacheData.withDepths, CacheData.mk.injEq]
  exact ⟨(Function.update_eq_self CacheField.blockhashes _).symm, rfl⟩

namespace SharedCache

/-- A new cache, but for the blockhashes that were saved, if any were. -/
def resumed (config : LocalCacheConfig) :
    Option (VersionedStateMap Pubkey (Vector UInt8 32)) → SharedCache dlmm
  | none => .new config
  | some blockhashes =>
      { data := .restored config.depths blockhashes
        shared := config.meta }

theorem data_resumed (config : LocalCacheConfig)
    (saved : Option (VersionedStateMap Pubkey (Vector UInt8 32))) :
    (resumed config saved : SharedCache dlmm).data =
      .restored config.depths (saved.getD (.withDepth (config.depths .blockhashes))) := by
  cases saved with
  | none => exact withDepths_eq_restored config.depths
  | some blockhashes => rfl

end SharedCache

/-- What processes leave of the files, and the blockhashes of which they completed
a save, in their order.  One process runs after the other, its saves take turns,
and it stops at any moment. -/
inductive Sessions (gzip : Gzip) (path : Text) (initial : FileSystem Text) :
    List (VersionedStateMap Pubkey (Vector UInt8 32)) → FileSystem Text → Prop
  | untouched : Sessions gzip path initial [] initial
  | stopped {saved fs payloads maps completed state}
      (before : Sessions gzip path initial saved fs)
      (lists : ∀ call, SavedMap.Lists (payloads call) (maps call))
      (session : SaveState.Completes gzip.snapshots path payloads fs completed state) :
      Sessions gzip path initial (saved ++ completed.map maps) state.fs

section Sessions

variable {gzip : Gzip} {path : Text} {initial fs : FileSystem Text}
  {saved : List (VersionedStateMap Pubkey (Vector UInt8 32))}

theorem Sessions.read (sessions : Sessions gzip path initial saved fs) :
    (saved.getLast? = none ∧ fs.read path = initial.read path) ∨
      ∃ payload map, saved.getLast? = some map ∧ SavedMap.Lists payload map ∧
        fs.read path = some (gzip.snapshots.image payload) := by
  induction sessions with
  | untouched => exact .inl ⟨rfl, rfl⟩
  | @stopped saved fs payloads maps completed state before lists session ih =>
      rw [session.read_eq, List.getLast?_append, List.getLast?_map]
      cases last : completed.getLast? with
      | none => exact ih
      | some call => exact .inr ⟨payloads call, maps call, rfl, lists call, rfl⟩

theorem Sessions.save (sessions : Sessions gzip path initial saved fs) {payload : SavedMap}
    {map : VersionedStateMap Pubkey (Vector UInt8 32)} (lists : payload.Lists map) :
    ∃ after, Sessions gzip path initial (saved ++ [map]) after := by
  have before : SaveState.Completes gzip.snapshots path (fun _ => payload) fs []
      (.start fs) := .initially
  have isReady : (SaveState.start fs).calls 0 = .ready := rfl
  obtain ⟨after, completes, -⟩ := before.save isReady fun _ _ inProgress => inProgress
  exact ⟨after.fs, sessions.stopped (fun _ => lists) completes⟩

theorem Sessions.interrupted (sessions : Sessions gzip path initial saved fs)
    {payload : SavedMap} {map : VersionedStateMap Pubkey (Vector UInt8 32)}
    (lists : payload.Lists map) :
    ∃ after, Sessions gzip path initial saved after ∧
      after.names (tmpPath path) ≠ none := by
  have before : SaveState.Completes gzip.snapshots path (fun _ => payload) fs []
      (.start fs) := .initially
  have isReady : (SaveState.start fs).calls 0 = .ready := rfl
  have created := before.onward (fun _ _ _ inProgress => inProgress)
    (.create isReady) (by simp)
  have stopped := sessions.stopped (fun _ => lists) created
  rw [List.map_nil, List.append_nil] at stopped
  refine ⟨_, stopped, ?_⟩
  change (fs.create (tmpPath path)).1.names (tmpPath path) ≠ none
  rw [(FileSystem.create_spec fs (tmpPath path)).1, if_pos rfl]
  exact Option.some_ne_none _

/-- The next process gets the blockhashes that were saved last, or a new cache. -/
theorem Sessions.loadOrNew_eq (sessions : Sessions gzip path initial saved fs)
    (unbound : initial.names path = none) {config : LocalCacheConfig}
    (configured : config.persistOnDrop = some path) :
    SharedCache.loadOrNew gzip fs config =
      .ok (.resumed config saved.getLast? : SharedCache dlmm) := by
  have unread : initial.read path = none := by
    rw [FileSystem.read, unbound, Option.map_none]
  rcases sessions.read with ⟨noSave, same⟩ | ⟨payload, map, isLast, lists, whole⟩
  · have noFile : fs.names path = none := by
      rwa [unread, FileSystem.read, Option.map_eq_none_iff] at same
    rw [SharedCache.loadOrNew, configured, Option.filter_some, noFile, noSave]
    rfl
  · have isFile : (fs.names path).isSome := by
      rw [FileSystem.read] at whole
      obtain ⟨file, bound, -⟩ := Option.map_eq_some_iff.mp whole
      rw [bound, Option.isSome_some]
    rw [SharedCache.loadOrNew, configured, Option.filter_some, if_pos isFile, isLast]
    simp only [SharedCache.loadFrom, whole, readPayload_image, Except.map,
      resetRuntimeFields_ofSaved, lists.toMap_eq, SharedCache.resumed]

end Sessions

/-- What deliveries to a restored cache leave: what they leave in a new one, beside
the blockhashes. -/
structure Resumes (fresh resumed : CacheData dlmm)
    (blockhashes : VersionedStateMap Pubkey (Vector UInt8 32)) : Prop where
  singletons : resumed.singletons = fresh.singletons
  maps : ∀ field, field ≠ .blockhashes → resumed.maps field = fresh.maps field
  blockhashes : resumed.maps .blockhashes = blockhashes

theorem resumes_writeAll (depths : FieldDepths)
    (blockhashes : VersionedStateMap Pubkey (Vector UInt8 32))
    (delivered : List AccountUpdate) :
    Resumes (delivered.foldl CacheData.write (.withDepths depths) : CacheData dlmm)
      (delivered.foldl CacheData.write (.restored depths blockhashes)) blockhashes where
  singletons := by
    rw [singletons_writeAll, singletons_writeAll]
    rfl
  maps field different := by
    rw [maps_writeAll, maps_writeAll, maps_restored_of_ne blockhashes different]
  blockhashes := by
    have nothing : insertions dlmm .blockhashes delivered = [] :=
      List.filterMap_eq_nil_iff.mpr fun update _ => rfl
    rw [maps_writeAll, nothing, maps_restored_self]
    rfl

/-- However many processes saved and stopped, and at whatever moment, the next one
loads: its blockhashes are those of the last completed save, or the cache is new
where no save was completed, and accounts that are delivered to it are cached as
in a new cache. -/
theorem restarts_recover {gzip : Gzip} {path : Text} {initial fs : FileSystem Text}
    {saved : List (VersionedStateMap Pubkey (Vector UInt8 32))}
    (unbound : initial.names path = none)
    (sessions : Sessions gzip path initial saved fs) (config : LocalCacheConfig)
    (configured : config.persistOnDrop = some path) :
    SharedCache.loadOrNew gzip fs config =
        .ok (.resumed config saved.getLast? : SharedCache dlmm) ∧
      ∀ watchlist registry, registerAll (cacheHandlers dlmm watchlist) = some registry →
        ∀ queue depsDropped delivered,
          Resumes
            ((Ingest.mk (CacheData.withDepths config.depths) queue
              depsDropped).applyAll registry delivered).cache
            ((Ingest.mk (SharedCache.resumed config saved.getLast?).data queue
              depsDropped).applyAll registry delivered).cache
            (saved.getLast?.getD (.withDepth (config.depths .blockhashes))) := by
  refine ⟨sessions.loadOrNew_eq unbound configured, ?_⟩
  intro watchlist registry registered queue depsDropped delivered
  rw [cache_applyAll registered, cache_applyAll registered, SharedCache.data_resumed]
  exact resumes_writeAll config.depths _ delivered

section Examples

def persistingConfig : LocalCacheConfig where
  depths := .default
  persistOnDrop := some SaveState.cachePath
  currentSlot := none

def noBlockhashes : SavedMap :=
  (⟨[], by decide⟩, 8)

/-- One key with two versions, in a map of another depth than the configured one. -/
def twoBlockhashes : SavedMap :=
  (⟨[(1, (.replicate 32 17, 101), ⟨[(.replicate 32 16, 100)], by decide⟩)], by decide⟩, 3)

/-- A process completed a save, and the next one stopped while it wrote another. -/
theorem restarts_recover_stopped :
    ∃ fs : FileSystem Text, fs.names (tmpPath SaveState.cachePath) ≠ none ∧
      twoBlockhashes.toMap.inner 1 =
        some ⟨⟨.replicate 32 17, 101⟩, [⟨.replicate 32 16, 100⟩]⟩ ∧
      SharedCache.loadOrNew stored fs persistingConfig =
        .ok (.resumed persistingConfig (some twoBlockhashes.toMap) :
          SharedCache plainAccounts) := by
  have unbound : SaveState.noFiles.names SaveState.cachePath = none := rfl
  have listsTwo : twoBlockhashes.Lists twoBlockhashes.toMap :=
    SavedMap.lists_toMap (by decide)
  have listsNone : noBlockhashes.Lists noBlockhashes.toMap :=
    SavedMap.lists_toMap (by decide)
  have noSessions : Sessions stored SaveState.cachePath SaveState.noFiles [] _ := .untouched
  obtain ⟨saved, completed⟩ := noSessions.save listsTwo
  obtain ⟨fs, sessions, leftOpen⟩ := completed.interrupted listsNone
  have recovered := @restarts_recover plainAccounts _ _ _ _ _ unbound sessions
    persistingConfig rfl
  exact ⟨fs, leftOpen, rfl, recovered.1⟩

end Examples

end Storage

end SolanaProtocols
