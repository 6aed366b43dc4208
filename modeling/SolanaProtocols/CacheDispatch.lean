import SolanaProtocols.CacheData

/-!
# Updates of the whole cache

Every handler that the protocols ship takes accounts that no other one takes.  So
an update is a write of at most one value: into the map of its kind, or into one
of the singletons.
-/

namespace SolanaProtocols

namespace Storage

open Pumpfun PoolLayouts HandlerRegistry

section Takes

variable {C : Type}

theorem toList_prefix_iff {key : Discriminator} {data : Bytes} :
    key.toList <+: data ↔ firstEight data = some key := by
  rw [firstEight_eq_some_iff]
  have eight : key.toList.length = 8 := by simp
  constructor
  · intro starts
    refine ⟨eight ▸ starts.length_le, ?_⟩
    have front := List.prefix_iff_eq_take.mp starts
    rw [eight] at front
    exact front.symm
  · rintro ⟨-, front⟩
    exact front ▸ List.take_prefix 8 data

/-- A handler takes the accounts of its program that start with what it declares
and match. -/
def ErasedHandler.Takes (handler : ErasedHandler C) (owner : Pubkey) (data : Bytes) :
    Prop :=
  handler.programId = owner ∧ (∀ bytes ∈ handler.discriminator, bytes <+: data) ∧
    handler.matchesAccount data = true

/-- Handlers that declare eight bytes match all that start with them, and the
others have their program for themselves. -/
structure Exclusive (history : List (ErasedHandler C)) : Prop where
  matchesAll : ∀ handler ∈ history, handler.dispatchKey ≠ none →
    ∀ data, handler.matchesAccount data = true
  alone : ∀ handler ∈ history, handler.dispatchKey = none →
    ∀ other ∈ history, other.programId = handler.programId → other = handler

variable {history : List (ErasedHandler C)} {registry : HandlerRegistry C}
  {owner : Pubkey} {data : Bytes} {handler : ErasedHandler C}

theorem ErasedHandler.Takes.declaresLeading (takes : handler.Takes owner data)
    (keyed : handler.dispatchKey ≠ none) : DeclaresLeading data handler := by
  obtain ⟨key, keyEq⟩ := Option.ne_none_iff_exists'.mp keyed
  rw [ErasedHandler.dispatchKey_eq_some_iff] at keyEq
  obtain ⟨enough, leading⟩ :=
    firstEight_eq_some_iff.mp (toList_prefix_iff.mp (takes.2.1 _ keyEq))
  exact ⟨enough, keyEq.trans (congrArg some leading.symm)⟩

theorem takesUnkeyed_iff :
    takesUnkeyed owner data handler = true ↔
      handler.Takes owner data ∧ handler.dispatchKey = none := by
  rw [ErasedHandler.dispatchKey_eq_none_iff, ErasedHandler.Takes]
  simp only [takesUnkeyed, Bool.and_eq_true, decide_eq_true_eq]
  cases handler.discriminator with
  | none => simp
  | some bytes =>
      simp only [Option.all_some, bne_iff_ne, List.isPrefixOf_iff_prefix,
        Option.mem_some_iff, forall_eq']
      tauto

theorem Exclusive.not_declaresLeading (exclusive : Exclusive history) (data : Bytes)
    (member : handler ∈ history) (unkeyed : handler.dispatchKey = none) :
    ∀ other ∈ history, other.programId = handler.programId →
      ¬DeclaresLeading data other := by
  intro other otherMember sameProgram declares
  rw [exclusive.alone handler member unkeyed other otherMember sameProgram] at declares
  apply ErasedHandler.dispatchKey_eq_none_iff.mp unkeyed _ declares.2
  rw [List.length_take]
  exact Nat.min_eq_left declares.1

/-- An exclusive registry finds exactly the handler that takes an account. -/
theorem HandlerRegistry.Reflects.lookup_eq_some_iff (reflects : Reflects history registry)
    (exclusive : Exclusive history) :
    registry.lookup owner data = some handler ↔
      handler ∈ history ∧ handler.Takes owner data := by
  constructor
  · intro found
    obtain ⟨member, ownerEq, starts⟩ := reflects.lookup_own found
    refine ⟨member, ownerEq, starts, ?_⟩
    by_cases unkeyed : handler.dispatchKey = none
    · have nobody := exclusive.not_declaresLeading data member unkeyed
      rw [ownerEq] at nobody
      rw [reflects.lookup_unkeyed nobody] at found
      exact (takesUnkeyed_iff.mp (List.find?_some found)).1.2.2
    · exact exclusive.matchesAll handler member unkeyed data
  · rintro ⟨member, takes⟩
    by_cases unkeyed : handler.dispatchKey = none
    · have nobody := exclusive.not_declaresLeading data member unkeyed
      rw [takes.1] at nobody
      rw [reflects.lookup_unkeyed nobody]
      cases found : history.find? (takesUnkeyed owner data) with
      | none =>
          exact absurd (takesUnkeyed_iff.mpr ⟨takes, unkeyed⟩)
            (List.find?_eq_none.mp found handler member)
      | some other =>
          have otherTakes := (takesUnkeyed_iff.mp (List.find?_some found)).1
          rw [exclusive.alone handler member unkeyed other
            (List.mem_of_find?_eq_some found) (otherTakes.1.trans takes.1.symm)]
    · have declares := takes.declaresLeading unkeyed
      rw [← takes.1]
      exact reflects.lookup_keyed member declares

end Takes

section Handlers

variable {dlmm : DlmmAccounts} {watchlist : Option (Finset Pubkey)}

/-- A shipped handler writes a map or a singleton. -/
theorem mem_cacheHandlers_iff {handler : StorageHandler (CacheData dlmm)} :
    handler ∈ cacheHandlers dlmm watchlist ↔
      (∃ field, ∃ route ∈ routes dlmm field,
        handler = route.handler field (report watchlist field)) ∨
      handler = pumpfunGlobalHandler (CacheData dlmm) ∨
      handler = pumpfunFeeConfigHandler (CacheData dlmm) := by
  constructor
  · intro member
    simp only [cacheHandlers, List.mem_cons, List.not_mem_nil, or_false] at member
    rcases member with rfl | rfl | rfl | rfl | rfl | rfl | rfl | rfl | rfl | rfl
    · exact .inl ⟨.bondingCurves, _, List.mem_singleton_self _, rfl⟩
    · exact .inl ⟨.pumpSwapPools, _, List.mem_singleton_self _, rfl⟩
    · exact .inl ⟨.dlmmLbPairs, _, List.mem_singleton_self _, rfl⟩
    · exact .inl ⟨.dlmmBinArrays, _, List.mem_singleton_self _, rfl⟩
    · exact .inl ⟨.dlmmBinArrayBitmapExtensions, _, List.mem_singleton_self _, rfl⟩
    · exact .inl ⟨.dlmmPositions, _, List.mem_singleton_self _, rfl⟩
    · exact .inl ⟨.tokenAccounts, tokenAccountRoute dlmm .splToken,
        List.mem_cons_self, rfl⟩
    · exact .inl ⟨.tokenAccounts, tokenAccountRoute dlmm .splToken2022,
        List.mem_cons_of_mem _ (List.mem_singleton_self _), rfl⟩
    · exact .inr (.inl rfl)
    · exact .inr (.inr rfl)
  · rintro (⟨field, route, member, rfl⟩ | rfl | rfl)
    · cases field with
      | blockhashes => cases member
      | bondingCurves =>
          rw [List.mem_singleton.mp member]
          exact List.mem_of_getElem? (i := 0) rfl
      | pumpSwapPools =>
          rw [List.mem_singleton.mp member]
          exact List.mem_of_getElem? (i := 1) rfl
      | dlmmLbPairs =>
          rw [List.mem_singleton.mp member]
          exact List.mem_of_getElem? (i := 2) rfl
      | dlmmBinArrays =>
          rw [List.mem_singleton.mp member]
          exact List.mem_of_getElem? (i := 3) rfl
      | dlmmBinArrayBitmapExtensions =>
          rw [List.mem_singleton.mp member]
          exact List.mem_of_getElem? (i := 4) rfl
      | dlmmPositions =>
          rw [List.mem_singleton.mp member]
          exact List.mem_of_getElem? (i := 5) rfl
      | mintTokenPrograms => cases member
      | tokenAccounts =>
          rcases List.mem_pair.mp member with rfl | rfl
          · exact List.mem_of_getElem? (i := 6) rfl
          · exact List.mem_of_getElem? (i := 7) rfl
    · exact List.mem_of_getElem? (i := 8) rfl
    · exact List.mem_of_getElem? (i := 9) rfl

theorem discriminator_handler {field : CacheField}
    (route : AccountRoute (field.Value dlmm))
    (report : Pubkey → field.Value dlmm → HandleResult) :
    (route.handler field report).erase.discriminator =
      route.discriminator.map Vector.toList :=
  rfl

theorem dispatchKey_handler {field : CacheField}
    (route : AccountRoute (field.Value dlmm))
    (report : Pubkey → field.Value dlmm → HandleResult) :
    (route.handler field report).erase.dispatchKey = route.discriminator := by
  cases declared : route.discriminator with
  | none =>
      rw [ErasedHandler.dispatchKey_eq_none_iff, discriminator_handler, declared]
      simp
  | some key =>
      rw [ErasedHandler.dispatchKey_eq_some_iff, discriminator_handler, declared]
      rfl

theorem takes_handler_iff {field : CacheField} {owner : Pubkey} {data : Bytes}
    {route : AccountRoute (field.Value dlmm)}
    {report : Pubkey → field.Value dlmm → HandleResult} :
    (route.handler field report).erase.Takes owner data ↔
      route.takes owner data = true := by
  rw [ErasedHandler.Takes, discriminator_handler, AccountRoute.takes]
  simp only [Bool.and_eq_true, decide_eq_true_eq]
  cases route.discriminator with
  | none => simp [StorageHandler.erase, AccountRoute.handler]
  | some key =>
      simp only [Option.map_some, Option.mem_some_iff, forall_eq', Option.all_some,
        decide_eq_true_eq, toList_prefix_iff, and_assoc]
      rfl

end Handlers

section Exclusive

variable (dlmm : DlmmAccounts)

/-- The discriminators of the DLMM accounts differ. -/
def DlmmAccounts.Distinct : Prop :=
  [dlmm.lbPair.discriminator, dlmm.binArray.discriminator,
    dlmm.binArrayBitmapExtension.discriminator, dlmm.positionV2.discriminator].Nodup

/-- Every route with its map. -/
def allRoutes : List (Σ field : CacheField, AccountRoute (field.Value dlmm)) :=
  [⟨.bondingCurves, bondingCurveRoute dlmm⟩, ⟨.pumpSwapPools, pumpSwapPoolRoute dlmm⟩,
    ⟨.dlmmLbPairs, dlmmRoute dlmm.lbPair⟩, ⟨.dlmmBinArrays, dlmmRoute dlmm.binArray⟩,
    ⟨.dlmmBinArrayBitmapExtensions, dlmmRoute dlmm.binArrayBitmapExtension⟩,
    ⟨.dlmmPositions, dlmmRoute dlmm.positionV2⟩,
    ⟨.tokenAccounts, tokenAccountRoute dlmm .splToken⟩,
    ⟨.tokenAccounts, tokenAccountRoute dlmm .splToken2022⟩]

variable {dlmm}

theorem mem_allRoutes {field : CacheField} {route : AccountRoute (field.Value dlmm)}
    (member : route ∈ routes dlmm field) : ⟨field, route⟩ ∈ allRoutes dlmm := by
  cases field with
  | blockhashes => cases member
  | bondingCurves =>
      rw [List.mem_singleton.mp member]
      exact List.mem_of_getElem? (i := 0) rfl
  | pumpSwapPools =>
      rw [List.mem_singleton.mp member]
      exact List.mem_of_getElem? (i := 1) rfl
  | dlmmLbPairs =>
      rw [List.mem_singleton.mp member]
      exact List.mem_of_getElem? (i := 2) rfl
  | dlmmBinArrays =>
      rw [List.mem_singleton.mp member]
      exact List.mem_of_getElem? (i := 3) rfl
  | dlmmBinArrayBitmapExtensions =>
      rw [List.mem_singleton.mp member]
      exact List.mem_of_getElem? (i := 4) rfl
  | dlmmPositions =>
      rw [List.mem_singleton.mp member]
      exact List.mem_of_getElem? (i := 5) rfl
  | mintTokenPrograms => cases member
  | tokenAccounts =>
      rcases List.mem_pair.mp member with rfl | rfl
      · exact List.mem_of_getElem? (i := 6) rfl
      · exact List.mem_of_getElem? (i := 7) rfl

/-- Two routes differ in program or discriminator. -/
theorem nodup_allRoutes (distinct : dlmm.Distinct) :
    ((allRoutes dlmm).map fun route =>
      (route.2.programId, route.2.discriminator)).Nodup := by
  have keys : ((allRoutes dlmm).map fun route =>
      (route.2.programId, route.2.discriminator)) =
      [(programId, some bondingCurveDiscriminator),
        (PumpSwap.programId, some poolDiscriminator)] ++
      ([dlmm.lbPair.discriminator, dlmm.binArray.discriminator,
        dlmm.binArrayBitmapExtension.discriminator,
        dlmm.positionV2.discriminator].map fun key =>
          (MeteoraDlmm.programId, some key)) ++
      [(TokenProgram.splToken.id, none), (TokenProgram.splToken2022.id, none)] :=
    rfl
  rw [keys]
  have pump : [(programId, some bondingCurveDiscriminator),
      (PumpSwap.programId, some poolDiscriminator)].Nodup := by decide
  have tokens : [(TokenProgram.splToken.id, (none : Option Discriminator)),
      (TokenProgram.splToken2022.id, none)].Nodup := by decide
  have dlmmKeys := distinct.map (f := fun key =>
    (MeteoraDlmm.programId, some key)) fun first second same =>
      Option.some.inj (Prod.mk.inj same).2
  refine List.Nodup.append (List.Nodup.append pump dlmmKeys ?_) tokens ?_
  · intro key isPump isDlmm
    obtain ⟨_, -, rfl⟩ := List.mem_map.mp isDlmm
    have owner : MeteoraDlmm.programId ∈ [programId, PumpSwap.programId] :=
      List.mem_map_of_mem (f := Prod.fst) isPump
    exact absurd owner (by decide)
  · intro key isKeyed isToken
    have noKey : key.2 = none := by
      rcases List.mem_pair.mp isToken with rfl | rfl <;> rfl
    rcases List.mem_append.mp isKeyed with isPump | isDlmm
    · rcases List.mem_pair.mp isPump with rfl | rfl <;> cases noKey
    · obtain ⟨_, -, rfl⟩ := List.mem_map.mp isDlmm
      cases noKey

/-- The token programs have the routes without a discriminator. -/
theorem discriminator_eq_none_iff :
    ∀ route ∈ allRoutes dlmm, route.2.discriminator = none ↔
      route.2.programId ∈ [TokenProgram.splToken.id, TokenProgram.splToken2022.id] := by
  have pumpfun :
      programId ∉ [TokenProgram.splToken.id, TokenProgram.splToken2022.id] := by
    decide
  have pumpSwap : PumpSwap.programId ∉
      [TokenProgram.splToken.id, TokenProgram.splToken2022.id] := by
    decide
  have meteoraDlmm : MeteoraDlmm.programId ∉
      [TokenProgram.splToken.id, TokenProgram.splToken2022.id] := by
    decide
  intro route member
  simp only [allRoutes, List.mem_cons, List.not_mem_nil, or_false] at member
  rcases member with rfl | rfl | rfl | rfl | rfl | rfl | rfl | rfl
  · exact iff_of_false (Option.some_ne_none _) pumpfun
  · exact iff_of_false (Option.some_ne_none _) pumpSwap
  · exact iff_of_false (Option.some_ne_none _) meteoraDlmm
  · exact iff_of_false (Option.some_ne_none _) meteoraDlmm
  · exact iff_of_false (Option.some_ne_none _) meteoraDlmm
  · exact iff_of_false (Option.some_ne_none _) meteoraDlmm
  · exact iff_of_true rfl List.mem_cons_self
  · exact iff_of_true rfl (List.mem_cons_of_mem _ (List.mem_singleton_self _))

/-- An account is taken by one route at most. -/
theorem takes_unique (distinct : dlmm.Distinct) {owner : Pubkey} {data : Bytes}
    {first second : Σ field : CacheField, AccountRoute (field.Value dlmm)}
    (firstMem : first ∈ allRoutes dlmm) (secondMem : second ∈ allRoutes dlmm)
    (firstTakes : first.2.takes owner data = true)
    (secondTakes : second.2.takes owner data = true) : first = second := by
  apply List.inj_on_of_nodup_map (nodup_allRoutes distinct) firstMem secondMem
  simp only [AccountRoute.takes, Bool.and_eq_true, decide_eq_true_eq]
    at firstTakes secondTakes
  obtain ⟨⟨firstOwner, firstKey⟩, -⟩ := firstTakes
  obtain ⟨⟨secondOwner, secondKey⟩, -⟩ := secondTakes
  have sameOwner := firstOwner.trans secondOwner.symm
  have noKey := discriminator_eq_none_iff first firstMem
  rw [sameOwner, ← discriminator_eq_none_iff second secondMem] at noKey
  refine Prod.ext sameOwner ?_
  cases firstEq : first.2.discriminator with
  | none => exact (noKey.mp firstEq).symm
  | some key =>
      cases secondEq : second.2.discriminator with
      | none => rw [noKey.mpr secondEq] at firstEq; cases firstEq
      | some other =>
          simp only [firstEq, secondEq, Option.all_some, decide_eq_true_eq]
            at firstKey secondKey
          exact firstKey.symm.trans secondKey

theorem matchesAccount_of_discriminator :
    ∀ route ∈ allRoutes dlmm, route.2.discriminator ≠ none →
      ∀ data, route.2.matchesAccount data = true := by
  intro route member keyed data
  simp only [allRoutes, List.mem_cons, List.not_mem_nil, or_false] at member
  rcases member with rfl | rfl | rfl | rfl | rfl | rfl | rfl | rfl
  · rfl
  · rfl
  · rfl
  · rfl
  · rfl
  · rfl
  · exact absurd rfl keyed
  · exact absurd rfl keyed

theorem dispatchKey_globalHandler {C : Type} [CacheSingleton C PumpfunFeeRecipients] :
    (pumpfunGlobalHandler C).erase.dispatchKey = some globalDiscriminator :=
  ErasedHandler.dispatchKey_eq_some_iff.mpr rfl

theorem dispatchKey_feeConfigHandler {C : Type} [CacheSingleton C PumpfunFeeConfig]
    [CacheSingleton C PumpSwapFeeConfig] :
    (pumpfunFeeConfigHandler C).erase.dispatchKey = some feeConfigDiscriminator :=
  ErasedHandler.dispatchKey_eq_some_iff.mpr rfl

variable {watchlist : Option (Finset Pubkey)}

theorem mem_map_cacheHandlers_iff {erased : ErasedHandler (CacheData dlmm)} :
    erased ∈ (cacheHandlers dlmm watchlist).map StorageHandler.erase ↔
      (∃ field, ∃ route ∈ routes dlmm field,
        erased = (route.handler field (report watchlist field)).erase) ∨
      erased = (pumpfunGlobalHandler (CacheData dlmm)).erase ∨
      erased = (pumpfunFeeConfigHandler (CacheData dlmm)).erase := by
  simp only [List.mem_map, mem_cacheHandlers_iff]
  constructor
  · rintro ⟨_, ⟨field, route, member, rfl⟩ | rfl | rfl, rfl⟩
    · exact .inl ⟨field, route, member, rfl⟩
    · exact .inr (.inl rfl)
    · exact .inr (.inr rfl)
  · rintro (⟨field, route, member, rfl⟩ | rfl | rfl)
    · exact ⟨_, .inl ⟨field, route, member, rfl⟩, rfl⟩
    · exact ⟨_, .inr (.inl rfl), rfl⟩
    · exact ⟨_, .inr (.inr rfl), rfl⟩

theorem singleton_not_token :
    programId ∉ [TokenProgram.splToken.id, TokenProgram.splToken2022.id] ∧
      pumpFeesProgramId ∉ [TokenProgram.splToken.id, TokenProgram.splToken2022.id] := by
  decide

theorem exclusive_cacheHandlers (distinct : dlmm.Distinct) :
    Exclusive ((cacheHandlers dlmm watchlist).map StorageHandler.erase) where
  matchesAll handler member keyed data := by
    rcases mem_map_cacheHandlers_iff.mp member with
      ⟨field, route, isRoute, rfl⟩ | rfl | rfl
    · rw [dispatchKey_handler] at keyed
      exact matchesAccount_of_discriminator _ (mem_allRoutes isRoute) keyed data
    · rfl
    · rfl
  alone handler member unkeyed other otherMember sameProgram := by
    rcases mem_map_cacheHandlers_iff.mp member with
      ⟨field, route, isRoute, rfl⟩ | rfl | rfl
    · rw [dispatchKey_handler] at unkeyed
      have isToken := (discriminator_eq_none_iff _ (mem_allRoutes isRoute)).mp unkeyed
      rcases mem_map_cacheHandlers_iff.mp otherMember with
        ⟨field', route', isRoute', rfl⟩ | rfl | rfl
      · have sameProgram : route'.programId = route.programId := sameProgram
        have unkeyed' := (discriminator_eq_none_iff _ (mem_allRoutes isRoute')).mpr
          (sameProgram ▸ isToken)
        have same := List.inj_on_of_nodup_map (nodup_allRoutes distinct)
          (mem_allRoutes isRoute') (mem_allRoutes isRoute)
          (Prod.ext sameProgram (unkeyed'.trans unkeyed.symm))
        cases same
        rfl
      · have sameProgram : programId = route.programId := sameProgram
        exact absurd (sameProgram ▸ isToken) singleton_not_token.1
      · have sameProgram : pumpFeesProgramId = route.programId := sameProgram
        exact absurd (sameProgram ▸ isToken) singleton_not_token.2
    · rw [dispatchKey_globalHandler] at unkeyed
      cases unkeyed
    · rw [dispatchKey_feeConfigHandler] at unkeyed
      cases unkeyed

end Exclusive

section Write

variable {dlmm : DlmmAccounts} {watchlist : Option (Finset Pubkey)}

variable (dlmm) in
/-- The value that an update has for a map. -/
def carried (field : CacheField) (update : AccountUpdate) :
    Option (field.Value dlmm) :=
  ((routes dlmm field).find? (·.takes update.owner update.data)).bind fun route =>
    (route.deserialize update.data).toOption

/-- What an update leaves in the cache. -/
def CacheData.write (cache : CacheData dlmm) (update : AccountUpdate) :
    CacheData dlmm where
  maps field :=
    match carried dlmm field update with
    | some value => ((cache.maps field).insert update.pubkey value update.slot).1
    | none => cache.maps field
  singletons := cache.singletons.write update

theorem distinct_of_registerAll {registry : HandlerRegistry (CacheData dlmm)}
    (registered : registerAll (cacheHandlers dlmm watchlist) = some registry) :
    dlmm.Distinct := by
  let keyOf (handler : ErasedHandler (CacheData dlmm)) :=
    (handler.programId, handler.dispatchKey)
  have handlers : ((((cacheHandlers dlmm watchlist).map StorageHandler.erase).drop
      2).take 4).map keyOf =
      [dlmm.lbPair.discriminator, dlmm.binArray.discriminator,
        dlmm.binArrayBitmapExtension.discriminator,
        dlmm.positionV2.discriminator].map fun key =>
          (MeteoraDlmm.programId, some key) := by
    simp only [cacheHandlers, List.map_cons, List.drop_succ_cons, List.drop_zero,
      List.take_succ_cons, List.take_zero, List.map_nil, keyOf, lbPairHandler,
      binArrayHandler, binArrayBitmapExtensionHandler, positionV2Handler,
      dispatchKey_handler]
    rfl
  have pairwise := ((reflects_registerAll registered).distinct.sublist
    (List.drop_sublist 2 _)).sublist (List.take_sublist 4 _)
  have keyed : ∀ handler ∈ (((cacheHandlers dlmm watchlist).map
      StorageHandler.erase).drop 2).take 4,
        ∃ key, keyOf handler = (MeteoraDlmm.programId, some key) := by
    intro handler member
    have isKey := List.mem_map_of_mem (f := keyOf) member
    rw [handlers] at isKey
    obtain ⟨key, -, keyEq⟩ := List.mem_map.mp isKey
    exact ⟨key, keyEq.symm⟩
  apply List.Nodup.of_map fun key => (MeteoraDlmm.programId, some key)
  rw [← handlers]
  refine List.pairwise_map.mpr (pairwise.imp_of_mem ?_)
  intro first second firstMem secondMem differ same
  obtain ⟨key, keyEq⟩ := keyed first firstMem
  have keyEq' := same.symm.trans keyEq
  rw [Prod.mk.injEq] at keyEq keyEq'
  exact differ key (keyedBy_iff.mpr ⟨rfl, keyEq.2⟩)
    (keyedBy_iff.mpr ⟨keyEq'.1.trans keyEq.1.symm, keyEq'.2⟩)

section Carried

variable {field : CacheField} {route : AccountRoute (field.Value dlmm)}
  {update : AccountUpdate}

theorem carried_of_takes (distinct : dlmm.Distinct) (isRoute : route ∈ routes dlmm field)
    (takes : route.takes update.owner update.data = true) :
    carried dlmm field update = (route.deserialize update.data).toOption := by
  rw [carried]
  cases found : (routes dlmm field).find? (·.takes update.owner update.data) with
  | none => exact absurd takes (List.find?_eq_none.mp found route isRoute)
  | some other =>
      have otherTakes := List.find?_some found
      have same := takes_unique distinct
        (mem_allRoutes (List.mem_of_find?_eq_some found)) (mem_allRoutes isRoute)
        otherTakes takes
      cases same
      rfl

theorem carried_eq_none
    (untaken : ∀ route ∈ routes dlmm field,
      ¬route.takes update.owner update.data = true) :
    carried dlmm field update = none := by
  rw [carried, List.find?_eq_none.mpr untaken, Option.bind_none]

theorem carried_eq_none_of_ne (distinct : dlmm.Distinct)
    (isRoute : route ∈ routes dlmm field)
    (takes : route.takes update.owner update.data = true) {other : CacheField}
    (different : other ≠ field) : carried dlmm other update = none := by
  apply carried_eq_none
  intro otherRoute isOther otherTakes
  have same := takes_unique distinct (mem_allRoutes isOther) (mem_allRoutes isRoute)
    otherTakes takes
  exact different (congrArg Sigma.fst same)

end Carried

section Singletons

variable {C : Type} {update : AccountUpdate}

theorem takes_globalHandler_iff [CacheSingleton C PumpfunFeeRecipients] :
    (pumpfunGlobalHandler C).erase.Takes update.owner update.data ↔
      IsGlobal update := by
  rw [IsGlobal, ← toList_prefix_iff]
  constructor
  · rintro ⟨owner, starts, -⟩
    exact ⟨owner.symm, starts _ rfl⟩
  · rintro ⟨owner, starts⟩
    refine ⟨owner.symm, fun bytes declared => ?_, rfl⟩
    cases declared
    exact starts

theorem takes_feeConfigHandler_iff [CacheSingleton C PumpfunFeeConfig]
    [CacheSingleton C PumpSwapFeeConfig] :
    (pumpfunFeeConfigHandler C).erase.Takes update.owner update.data ↔
      IsFeeConfig update := by
  rw [IsFeeConfig, ← toList_prefix_iff]
  constructor
  · rintro ⟨owner, starts, -⟩
    exact ⟨owner.symm, starts _ rfl⟩
  · rintro ⟨owner, starts⟩
    refine ⟨owner.symm, fun bytes declared => ?_, rfl⟩
    cases declared
    exact starts

theorem handle_global (isGlobal : IsGlobal update) (cache : LocalCache) :
    ((pumpfunGlobalHandler LocalCache).erase.handle cache update.pubkey update.data
      update.slot).1 = cache.write update := by
  obtain ⟨registry, -, serves⟩ := pumpRegistry_serves
  have found := lookup_of_firstEight isGlobal.2 serves.global
  rw [← isGlobal.1] at found
  have applied := @apply_global _ ⟨cache, [], 0⟩ _ serves isGlobal
  rw [apply_cache found] at applied
  exact applied

theorem handle_feeConfig (isFeeConfig : IsFeeConfig update) (cache : LocalCache) :
    ((pumpfunFeeConfigHandler LocalCache).erase.handle cache update.pubkey update.data
      update.slot).1 = cache.write update := by
  obtain ⟨registry, -, serves⟩ := pumpRegistry_serves
  have found := lookup_of_firstEight isFeeConfig.2 serves.feeConfig
  rw [← isFeeConfig.1] at found
  have applied := @apply_feeConfig _ ⟨cache, [], 0⟩ _ serves isFeeConfig
  rw [apply_cache found] at applied
  exact applied

theorem handle_globalHandler (cache : CacheData dlmm) (pubkey : Pubkey) (data : Bytes)
    (slot : Nat) :
    ((pumpfunGlobalHandler (CacheData dlmm)).erase.handle cache pubkey data slot).1 =
      { cache with singletons :=
          ((pumpfunGlobalHandler LocalCache).erase.handle cache.singletons pubkey data
            slot).1 } := by
  simp only [StorageHandler.erase, pumpfunGlobalHandler]
  cases (PumpfunFeeRecipients.fromAccountData data).mapError (deserializeError data) with
  | error err => rfl
  | ok state => rfl

theorem handle_feeConfigHandler (cache : CacheData dlmm) (pubkey : Pubkey)
    (data : Bytes) (slot : Nat) :
    ((pumpfunFeeConfigHandler (CacheData dlmm)).erase.handle cache pubkey data slot).1 =
      { cache with singletons :=
          ((pumpfunFeeConfigHandler LocalCache).erase.handle cache.singletons pubkey
            data slot).1 } := by
  simp only [StorageHandler.erase, pumpfunFeeConfigHandler]
  cases (PumpfunFeeConfig.fromAccountData data).mapError (deserializeError data) with
  | error err => rfl
  | ok state =>
      simp only
      split_ifs <;> rfl

theorem write_singletons_of_not (notGlobal : ¬IsGlobal update)
    (notFeeConfig : ¬IsFeeConfig update) (cache : LocalCache) :
    cache.write update = cache := by
  simp [LocalCache.write, recipientsCarried, pumpSwapFeeConfigCarried, feeConfigCarried,
    notGlobal, notFeeConfig]

end Singletons

section Dispatch

variable {registry : HandlerRegistry (CacheData dlmm)}

/-- The only accounts of pumpfun that go into a map are its curves. -/
theorem programId_route :
    ∀ route ∈ allRoutes dlmm, route.2.programId ≠ pumpFeesProgramId ∧
      (route.2.programId = programId →
        route.2.discriminator = some bondingCurveDiscriminator) := by
  have pumpfun : programId ≠ pumpFeesProgramId := by decide
  have pumpSwap : PumpSwap.programId ≠ pumpFeesProgramId ∧
      PumpSwap.programId ≠ programId := by decide
  have meteoraDlmm : MeteoraDlmm.programId ≠ pumpFeesProgramId ∧
      MeteoraDlmm.programId ≠ programId := by decide
  have token (program : TokenProgram) : program.id ≠ pumpFeesProgramId ∧
      program.id ≠ programId := by
    cases program <;> decide
  intro route member
  simp only [allRoutes, List.mem_cons, List.not_mem_nil, or_false] at member
  rcases member with rfl | rfl | rfl | rfl | rfl | rfl | rfl | rfl
  · exact ⟨pumpfun, fun _ => rfl⟩
  · exact ⟨pumpSwap.1, fun same => absurd same pumpSwap.2⟩
  · exact ⟨meteoraDlmm.1, fun same => absurd same meteoraDlmm.2⟩
  · exact ⟨meteoraDlmm.1, fun same => absurd same meteoraDlmm.2⟩
  · exact ⟨meteoraDlmm.1, fun same => absurd same meteoraDlmm.2⟩
  · exact ⟨meteoraDlmm.1, fun same => absurd same meteoraDlmm.2⟩
  · exact ⟨(token .splToken).1, fun same => absurd same (token .splToken).2⟩
  · exact ⟨(token .splToken2022).1, fun same => absurd same (token .splToken2022).2⟩

theorem not_takes_of_isConfig {field : CacheField}
    {route : AccountRoute (field.Value dlmm)} (isRoute : route ∈ routes dlmm field)
    {update : AccountUpdate} (isConfig : IsConfig update) :
    ¬route.takes update.owner update.data = true := by
  intro takes
  simp only [AccountRoute.takes, Bool.and_eq_true, decide_eq_true_eq] at takes
  obtain ⟨⟨owner, key⟩, -⟩ := takes
  obtain ⟨notFees, ofPumpfun⟩ := programId_route _ (mem_allRoutes isRoute)
  rcases isConfig with ⟨isOwner, starts⟩ | ⟨isOwner, -⟩
  · rw [ofPumpfun (owner.trans isOwner), Option.all_some, decide_eq_true_eq, starts,
      Option.some.injEq] at key
    exact absurd key (by decide)
  · exact notFees (owner.trans isOwner)

/-- What a map handler does is to write what the account carries. -/
theorem handle_route (distinct : dlmm.Distinct) {field : CacheField}
    {route : AccountRoute (field.Value dlmm)} (isRoute : route ∈ routes dlmm field)
    {update : AccountUpdate} (takes : route.takes update.owner update.data = true)
    (singletons : ∀ cache : LocalCache, cache.write update = cache)
    (report : Pubkey → field.Value dlmm → HandleResult) (cache : CacheData dlmm) :
    ((route.handler field report).erase.handle cache update.pubkey update.data
      update.slot).1 = cache.write update := by
  have own := carried_of_takes distinct isRoute takes
  have others : ∀ other, other ≠ field → carried dlmm other update = none :=
    fun other different => carried_eq_none_of_ne distinct isRoute takes different
  simp only [StorageHandler.erase, AccountRoute.handler, CacheData.write, singletons]
  cases decoded : route.deserialize update.data with
  | error err =>
      rw [decoded] at own
      have untouched : ∀ other, carried dlmm other update = none := by
        intro other
        by_cases same : other = field
        · subst same
          exact own
        · exact others other same
      simp only [untouched]
  | ok state =>
      rw [decoded] at own
      simp only [CacheData.insert, CacheData.mk.injEq, and_true]
      funext other
      by_cases same : other = field
      · subst same
        rw [Function.update_self, own]
        rfl
      · rw [Function.update_of_ne same, others other same]

section Registry

variable (registered : registerAll (cacheHandlers dlmm watchlist) = some registry)
include registered

theorem lookup_cacheHandlers_iff (handler : ErasedHandler (CacheData dlmm))
    (owner : Pubkey) (data : Bytes) :
    registry.lookup owner data = some handler ↔
      handler ∈ (cacheHandlers dlmm watchlist).map StorageHandler.erase ∧
        handler.Takes owner data :=
  (reflects_registerAll registered).lookup_eq_some_iff
    (exclusive_cacheHandlers (distinct_of_registerAll registered))

/-- A config is written to its singleton, and the maps are left. -/
theorem dispatch_config (cache : CacheData dlmm) {update : AccountUpdate}
    (isConfig : IsConfig update) :
    (registry.dispatch cache update.owner update.pubkey update.data update.slot).1 =
      cache.write update := by
  have untouched : ∀ field, carried dlmm field update = none :=
    fun field => carried_eq_none fun route isRoute =>
      not_takes_of_isConfig isRoute isConfig
  have written : cache.write update =
      { cache with singletons := cache.singletons.write update } := by
    simp only [CacheData.write, untouched]
  rw [written]
  rcases isConfig with isGlobal | isFeeConfig
  · have found := (lookup_cacheHandlers_iff registered _ _ _).mpr
      ⟨mem_map_cacheHandlers_iff.mpr (.inr (.inl rfl)),
        takes_globalHandler_iff.mpr isGlobal⟩
    simp only [dispatch, found, handle_globalHandler, handle_global isGlobal]
  · have found := (lookup_cacheHandlers_iff registered _ _ _).mpr
      ⟨mem_map_cacheHandlers_iff.mpr (.inr (.inr rfl)),
        takes_feeConfigHandler_iff.mpr isFeeConfig⟩
    simp only [dispatch, found, handle_feeConfigHandler, handle_feeConfig isFeeConfig]

/-- Dispatching an update writes what it carries. -/
theorem dispatch_cache (cache : CacheData dlmm) (update : AccountUpdate) :
    (registry.dispatch cache update.owner update.pubkey update.data update.slot).1 =
      cache.write update := by
  by_cases isConfig : IsConfig update
  · exact dispatch_config registered cache isConfig
  have singletons : ∀ cache : LocalCache, cache.write update = cache :=
    write_singletons_of_not (fun isGlobal => isConfig (.inl isGlobal))
      (fun isFeeConfig => isConfig (.inr isFeeConfig))
  by_cases taken : ∃ field, ∃ route ∈ routes dlmm field,
      route.takes update.owner update.data = true
  · obtain ⟨field, route, isRoute, takes⟩ := taken
    have found := (lookup_cacheHandlers_iff registered
      (route.handler field (report watchlist field)).erase _ _).mpr
      ⟨mem_map_cacheHandlers_iff.mpr (.inl ⟨field, route, isRoute, rfl⟩),
        takes_handler_iff.mpr takes⟩
    rw [dispatch, found]
    exact handle_route (distinct_of_registerAll registered) isRoute takes singletons _ _
  · have untouched : ∀ field, carried dlmm field update = none := by
      intro field
      apply carried_eq_none
      intro route isRoute takes
      exact taken ⟨field, route, isRoute, takes⟩
    have notFound : registry.lookup update.owner update.data = none := by
      rw [Option.eq_none_iff_forall_ne_some]
      intro handler found
      obtain ⟨member, takes⟩ := (lookup_cacheHandlers_iff registered _ _ _).mp found
      rcases mem_map_cacheHandlers_iff.mp member with
        ⟨field, route, isRoute, rfl⟩ | rfl | rfl
      · exact taken ⟨field, route, isRoute, takes_handler_iff.mp takes⟩
      · exact isConfig (.inl (takes_globalHandler_iff.mp takes))
      · exact isConfig (.inr (takes_feeConfigHandler_iff.mp takes))
    simp only [dispatch, notFound, CacheData.write, untouched, singletons]

end Registry

end Dispatch

end Write

section Registration

variable {C : Type}

end Registration

end Storage

end SolanaProtocols
