import SolanaProtocols.CacheRuns
import SolanaProtocols.SnapshotFile
import SolanaProtocols.StoredGzip

/-!
# What a snapshot of the cache keeps

Of the fields of the cache only the blockhashes are serialized.  The entries of
their map come in any order, with the versions of each entry and the depth of the
map, and a map that is read back answers as the one that was written.
-/

namespace SolanaProtocols

namespace PrefixCodec

/-- A list whose length fits in a number of bytes. -/
abbrev Listed (len : Nat) (α : Type) :=
  { values : List α // values.length < 2 ^ (8 * len) }

/-- A list that a count describes. -/
def listedEquiv {α : Type} (len : Nat) :
    ((count : BitVec (8 * len)) ×
      { values : List α // values.length = count.toNat }) ≃ Listed len α where
  toFun values := ⟨values.2.val, by
    rw [values.2.property]
    exact values.1.isLt⟩
  invFun values := ⟨BitVec.ofNat _ values.val.length, values.val, by
    rw [BitVec.toNat_ofNat, Nat.mod_eq_of_lt values.property]⟩
  left_inv := by
    rintro ⟨count, values, counted⟩
    have countEq : BitVec.ofNat (8 * len) values.length = count := by
      rw [counted, BitVec.ofNat_toNat, BitVec.setWidth_eq]
    subst countEq
    rfl
  right_inv _ := rfl

/-- A list after its length. -/
def listed {α : Type} (len : Nat) (codec : PrefixCodec α) :
    PrefixCodec (Listed len α) :=
  ((littleEndian len).sigma fun count => codec.many count.toNat).equiv (listedEquiv len)

end PrefixCodec

namespace Storage

open PrefixCodec Pumpfun

/-- A blockhash, and the slot it was observed at. -/
abbrev SavedVersion := Vector UInt8 32 × U64

def savedVersion : PrefixCodec SavedVersion :=
  (byte.array 32).pair u64

/-- The current version of an entry, and its history. -/
abbrev SavedState := SavedVersion × Listed 8 SavedVersion

def savedState : PrefixCodec SavedState :=
  savedVersion.pair (savedVersion.listed 8)

/-- The entries of a map, in some order, and its depth. -/
abbrev SavedMap := Listed 8 (Pubkey × SavedState) × U64

/-- The serialized fields of the cache. -/
def savedMap : PrefixCodec SavedMap :=
  ((pubkey.pair savedState).listed 8).pair u64

/-- The compressor. -/
structure Gzip where
  compress : Bytes → Bytes
  decompress : Bytes → Option Bytes
  decompress_compress : ∀ bytes, decompress (compress bytes) = some bytes

/-- Snapshots of the cache are compressed, and more behind a payload is ignored. -/
def Gzip.snapshots (gzip : Gzip) : SnapshotCodec SavedMap where
  serialize := savedMap.encode
  deserialize bytes := (savedMap.decode bytes).toOption.map Prod.fst
  compress := gzip.compress
  decompress := gzip.decompress
  deserialize_serialize payload := by
    have read := savedMap.decode_encode payload []
    rw [List.append_nil] at read
    rw [read]
    rfl
  decompress_compress := gzip.decompress_compress

def SavedVersion.toVersion (saved : SavedVersion) : StateWithSlot (Vector UInt8 32) :=
  ⟨saved.1, saved.2.toNat⟩

def SavedState.toVersioned (saved : SavedState) : VersionedState (Vector UInt8 32) where
  current := SavedVersion.toVersion saved.1
  history := saved.2.val.map SavedVersion.toVersion

/-- Insert the entries that were read one after the other. -/
def SavedMap.toMap (saved : SavedMap) : VersionedStateMap Pubkey (Vector UInt8 32) :=
  saved.1.val.foldl (fun map entry => map.put entry.1 (SavedState.toVersioned entry.2))
    (.withDepth saved.2.toNat)

/-- The saved entry of a key. -/
def SavedMap.entry (saved : SavedMap) (key : Pubkey) :
    Option (VersionedState (Vector UInt8 32)) :=
  (saved.1.val.find? (·.1 = key)).map fun entry => SavedState.toVersioned entry.2

/-- A saved map has the entries of a map, each of them once, in any order. -/
structure SavedMap.Lists (saved : SavedMap)
    (map : VersionedStateMap Pubkey (Vector UInt8 32)) : Prop where
  once : (saved.1.val.map Prod.fst).Nodup
  entries : ∀ key, map.inner key = saved.entry key
  depth : map.depth = saved.2.toNat

/-- Different keys do not get into each other's way. -/
theorem inner_putAll {entries : List (Pubkey × SavedState)}
    (once : (entries.map Prod.fst).Nodup)
    (start : VersionedStateMap Pubkey (Vector UInt8 32)) (key : Pubkey) :
    (entries.foldl (fun map entry => map.put entry.1 (SavedState.toVersioned entry.2))
        start).inner key =
      ((entries.find? (·.1 = key)).map fun entry =>
        SavedState.toVersioned entry.2).or (start.inner key) := by
  induction entries generalizing start with
  | nil => rfl
  | cons entry entries ih =>
      obtain ⟨notAgain, once⟩ := List.nodup_cons.mp once
      rw [List.foldl_cons, ih once]
      by_cases same : entry.1 = key
      · subst same
        have noOther : entries.find? (·.1 = entry.1) = none := by
          rw [List.find?_eq_none]
          intro other member sameKey
          exact notAgain (of_decide_eq_true sameKey ▸ List.mem_map_of_mem member)
        rw [noOther, List.find?_cons_of_pos (by simp)]
        simp [VersionedStateMap.put]
      · rw [List.find?_cons_of_neg (by simpa using same)]
        simp [VersionedStateMap.put, Ne.symm same]

theorem depth_putAll (entries : List (Pubkey × SavedState))
    (start : VersionedStateMap Pubkey (Vector UInt8 32)) :
    (entries.foldl (fun map entry => map.put entry.1 (SavedState.toVersioned entry.2))
      start).depth = start.depth := by
  induction entries generalizing start with
  | nil => rfl
  | cons entry entries ih => exact ih _

theorem SavedMap.lists_toMap {saved : SavedMap}
    (once : (saved.1.val.map Prod.fst).Nodup) : saved.Lists saved.toMap where
  once := once
  entries key := by
    rw [toMap, inner_putAll once, entry]
    exact Option.or_none
  depth := depth_putAll _ _

theorem SavedMap.Lists.toMap_eq {saved : SavedMap}
    {map : VersionedStateMap Pubkey (Vector UInt8 32)} (lists : saved.Lists map) :
    saved.toMap = map := by
  have own := lists_toMap lists.once
  have inner : saved.toMap.inner = map.inner :=
    funext fun key => (own.entries key).trans (lists.entries key).symm
  have depth : saved.toMap.depth = map.depth := own.depth.trans lists.depth.symm
  cases map
  exact VersionedStateMap.mk.injEq .. ▸ ⟨inner, depth⟩

section Fits

/-- A map with no more keys and versions than a count, whose slots fit. -/
structure Fits (count : Nat) (map : VersionedStateMap Pubkey (Vector UInt8 32)) :
    Prop where
  keys : ∃ keys : List Pubkey, keys.Nodup ∧ keys.length ≤ count ∧
    ∀ key, key ∈ keys ↔ (map.inner key).isSome
  versions : ∀ key versioned, map.inner key = some versioned →
    versioned.history.length ≤ count ∧
      ∀ version ∈ versioned.current :: versioned.history, version.slot < 2 ^ 64

theorem fits_withDepth (depth : Nat) : Fits 0 (.withDepth depth) where
  keys := ⟨[], List.nodup_nil, le_rfl, fun _ => by simp [VersionedStateMap.withDepth]⟩
  versions _ _ found := by cases found

/-- One more value makes one more key, or one more version. -/
theorem Fits.put {count : Nat} {map : VersionedStateMap Pubkey (Vector UInt8 32)}
    (fits : Fits count map) (key : Pubkey) (versioned : VersionedState (Vector UInt8 32))
    (short : versioned.history.length ≤ count + 1)
    (slots : ∀ version ∈ versioned.current :: versioned.history, version.slot < 2 ^ 64) :
    Fits (count + 1) (map.put key versioned) := by
  constructor
  · obtain ⟨keys, nodup, length, mem_iff⟩ := fits.keys
    by_cases known : key ∈ keys
    · refine ⟨keys, nodup, length.trans (Nat.le_succ count), fun other => ?_⟩
      by_cases same : other = key
      · subst same
        simp [known, VersionedStateMap.put]
      · simp [mem_iff, same, VersionedStateMap.put]
    · refine ⟨key :: keys, List.nodup_cons.mpr ⟨known, nodup⟩,
        Nat.succ_le_succ length, fun other => ?_⟩
      by_cases same : other = key
      · subst same
        simp [VersionedStateMap.put]
      · simp [mem_iff, same, VersionedStateMap.put]
  · intro other found isFound
    by_cases same : other = key
    · subst same
      simp only [VersionedStateMap.put, Function.update_self, Option.some_inj] at isFound
      subst isFound
      exact ⟨short, slots⟩
    · simp only [VersionedStateMap.put, Function.update_of_ne same] at isFound
      obtain ⟨enough, inTime⟩ := fits.versions other found isFound
      exact ⟨enough.trans (Nat.le_succ count), inTime⟩

theorem Fits.insert {count : Nat} {map : VersionedStateMap Pubkey (Vector UInt8 32)}
    (fits : Fits count map) (key : Pubkey) (state : Vector UInt8 32) {slot : Nat}
    (small : slot < 2 ^ 64) : Fits (count + 1) (map.insert key state slot).1 := by
  rw [VersionedStateMap.insert]
  cases found : map.inner key with
  | none =>
      exact fits.put key (VersionedState.new state slot) (Nat.zero_le _) (by
        simpa [VersionedState.new] using small)
  | some versioned =>
      obtain ⟨short, slots⟩ := fits.versions key versioned found
      obtain ⟨currentSmall, historySmall⟩ := List.forall_mem_cons.mp slots
      simp only
      split_ifs with older same keeps
      · exact ⟨fits.keys.imp fun keys listed =>
          ⟨listed.1, listed.2.1.trans (Nat.le_succ count), listed.2.2⟩,
          fun other found isFound => (fits.versions other found isFound).imp_left
            fun enough => enough.trans (Nat.le_succ count)⟩
      · exact fits.put key _ (short.trans (Nat.le_succ count))
          (List.forall_mem_cons.mpr ⟨same ▸ small, historySmall⟩)
      · refine fits.put key _ ?_ (List.forall_mem_cons.mpr ⟨small, ?_⟩)
        · exact (List.length_take_le' _ _).trans (Nat.succ_le_succ short)
        · exact fun version kept => slots version (List.mem_of_mem_take kept)
      · exact fits.put key _ (short.trans (Nat.le_succ count))
          (List.forall_mem_cons.mpr ⟨small, historySmall⟩)

theorem Fits.insertAll {count : Nat}
    {map : VersionedStateMap Pubkey (Vector UInt8 32)} (fits : Fits count map)
    {inserts : List (Pubkey × StateWithSlot (Vector UInt8 32))}
    (small : ∀ insertion ∈ inserts, insertion.2.slot < 2 ^ 64) :
    Fits (count + inserts.length) (map.insertAll inserts) := by
  induction inserts generalizing count map with
  | nil => exact fits
  | cons insertion inserts ih =>
      obtain ⟨first, rest⟩ := List.forall_mem_cons.mp small
      have after := ih (fits.insert insertion.1 insertion.2.state first) rest
      rw [List.length_cons, Nat.add_comm inserts.length 1, ← Nat.add_assoc]
      exact after

theorem exists_toVersion {version : StateWithSlot (Vector UInt8 32)}
    (small : version.slot < 2 ^ 64) :
    ∃ saved, SavedVersion.toVersion saved = version :=
  ⟨(version.state, BitVec.ofNat 64 version.slot), by
    rw [SavedVersion.toVersion, BitVec.toNat_ofNat, Nat.mod_eq_of_lt small]⟩

theorem exists_toVersioned {versioned : VersionedState (Vector UInt8 32)}
    (short : versioned.history.length < 2 ^ 64)
    (slots : ∀ version ∈ versioned.current :: versioned.history, version.slot < 2 ^ 64) :
    ∃ saved, SavedState.toVersioned saved = versioned := by
  obtain ⟨currentSmall, historySmall⟩ := List.forall_mem_cons.mp slots
  obtain ⟨current, isCurrent⟩ := exists_toVersion currentSmall
  obtain ⟨history, isHistory⟩ :
      versioned.history ∈ Set.range (List.map SavedVersion.toVersion) := by
    rw [Set.range_list_map]
    exact fun version member => exists_toVersion (historySmall version member)
  have historyShort : history.length < 2 ^ (8 * 8) := by
    rw [← List.length_map SavedVersion.toVersion, isHistory]
    exact short
  refine ⟨(current, ⟨history, historyShort⟩), ?_⟩
  rw [SavedState.toVersioned, isCurrent, isHistory]

/-- A map that fits can be saved. -/
theorem Fits.exists_lists {count : Nat}
    {map : VersionedStateMap Pubkey (Vector UInt8 32)} (fits : Fits count map)
    (small : count < 2 ^ 64) (depthSmall : map.depth < 2 ^ 64) :
    ∃ saved : SavedMap, saved.Lists map := by
  obtain ⟨keys, nodup, length, mem_iff⟩ := fits.keys
  let found (key : Pubkey) : Option (Pubkey × VersionedState (Vector UInt8 32)) :=
    (map.inner key).map (Prod.mk key)
  obtain ⟨entries, isEntries⟩ : keys.filterMap found ∈
      Set.range (List.map (Prod.map id SavedState.toVersioned)) := by
    rw [Set.range_list_map]
    intro entry member
    obtain ⟨key, -, isEntry⟩ := List.mem_filterMap.mp member
    obtain ⟨versioned, isFound, rfl⟩ := Option.map_eq_some_iff.mp isEntry
    obtain ⟨short, slots⟩ := fits.versions key versioned isFound
    obtain ⟨saved, rfl⟩ := exists_toVersioned (short.trans_lt small) slots
    exact ⟨(key, saved), rfl⟩
  have keysEq : entries.map Prod.fst = keys := by
    have viaFound : entries.map Prod.fst = (keys.filterMap found).map Prod.fst := by
      rw [← isEntries, List.map_map]
      rfl
    rw [viaFound, List.map_filterMap]
    refine (List.filterMap_congr fun key member => ?_).trans (List.filterMap_some (l := keys))
    obtain ⟨versioned, isFound⟩ := Option.isSome_iff_exists.mp ((mem_iff key).mp member)
    simp [found, isFound]
  have short : entries.length < 2 ^ (8 * 8) := by
    rw [← List.length_map Prod.fst, keysEq]
    exact length.trans_lt small
  refine ⟨(⟨entries, short⟩, BitVec.ofNat 64 map.depth), keysEq ▸ nodup, fun key => ?_, ?_⟩
  · rw [SavedMap.entry]
    cases isFound : entries.find? (·.1 = key) with
    | none =>
        have unknown : key ∉ keys := by
          rw [← keysEq, List.mem_map]
          rintro ⟨entry, member, rfl⟩
          simpa using List.find?_eq_none.mp isFound entry member
        simpa [mem_iff] using unknown
    | some entry =>
        have member : Prod.map id SavedState.toVersioned entry ∈ keys.filterMap found :=
          isEntries ▸ List.mem_map_of_mem (List.mem_of_find?_eq_some isFound)
        obtain ⟨other, -, isEntry⟩ := List.mem_filterMap.mp member
        obtain ⟨versioned, isVersioned, same⟩ := Option.map_eq_some_iff.mp isEntry
        obtain ⟨rfl, rfl⟩ := Prod.mk.inj same
        have isKey := List.find?_some isFound
        rw [← of_decide_eq_true isKey]
        exact isVersioned
  · rw [BitVec.toNat_ofNat, Nat.mod_eq_of_lt depthSmall]

end Fits

/-- The blockhashes that a cache holds after any inserts can be saved, and however
their entries are ordered, the same map is read back. -/
theorem blockhashes_saved (gzip : Gzip) (path : Text) (depth : Nat)
    (inserts : List (Pubkey × StateWithSlot (Vector UInt8 32)))
    (depthSmall : depth < 2 ^ 64)
    (short : inserts.length < 2 ^ 64)
    (slotsSmall : ∀ insertion ∈ inserts, insertion.2.slot < 2 ^ 64) :
    let map := (VersionedStateMap.withDepth depth).insertAll inserts
    (∃ saved : SavedMap, saved.Lists map) ∧
      ∀ saved : SavedMap, saved.Lists map →
        ∃ read, readPayload gzip.snapshots path
            (some (gzip.snapshots.image saved)) = .ok read ∧ SavedMap.toMap read = map := by
  intro map
  have fits := (fits_withDepth depth).insertAll slotsSmall
  rw [Nat.zero_add] at fits
  have depthEq : map.depth = depth := by
    rw [show map = (MapRun.ofEvents depth _).map from
      VersionedStateMap.insertAll_withDepth depth inserts]
    exact (MapRun.valid_ofEvents depth _).depthEq
  exact ⟨fits.exists_lists short (depthEq.trans_lt depthSmall), fun saved lists =>
    ⟨saved, readPayload_image gzip.snapshots path saved, lists.toMap_eq⟩⟩

/-- A compressor that stores what it is given. -/
def stored : Gzip where
  compress := StoredGzip.compress
  decompress := StoredGzip.decompress
  decompress_compress := StoredGzip.decompress_compress

theorem blockhashes_saved_two :
    ∃ saved : SavedMap, SavedMap.toMap saved =
      (VersionedStateMap.withDepth 8).insertAll
        [(1, ⟨Vector.replicate 32 16, 100⟩), (1, ⟨Vector.replicate 32 17, 101⟩)] := by
  obtain ⟨⟨saved, lists⟩, readBack⟩ := blockhashes_saved stored [] 8
    [(1, ⟨Vector.replicate 32 16, 100⟩), (1, ⟨Vector.replicate 32 17, 101⟩)]
    (by decide) (by decide) (by simp)
  obtain ⟨read, -, same⟩ := readBack saved lists
  exact ⟨read, same⟩

end Storage

end SolanaProtocols
