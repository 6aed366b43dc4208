import SolanaProtocols.HandlerRegistry

/-!
# Handler dispatch

What a registry answers is determined by the handlers registered in it, in the
order of their registration: the table is a search for the keyed handlers of
the history, the fallback lists are its other handlers, and both sets are
images of it.
-/

namespace SolanaProtocols

namespace Storage

section Keys

variable {C : Type}

theorem firstEight_eq_some_iff {data : Bytes} {key : Discriminator} :
    firstEight data = some key ↔ 8 ≤ data.length ∧ data.take 8 = key.toList := by
  unfold firstEight
  split
  · rename_i enough
    have leading : (Vector.ofFn fun idx : Fin 8 => data[idx]).toList =
        data.take 8 := by
      apply List.ext_getElem
      · simp [enough]
      · intro idx inside _
        simp
    rw [Option.some.injEq, ← leading]
    constructor
    · rintro rfl
      exact ⟨enough, rfl⟩
    · rintro ⟨-, same⟩
      exact Vector.toList_inj.mp same
  · rename_i short
    simp [short]

/-- The key of a handler on the discriminator path, if it declares eight
bytes. -/
def ErasedHandler.dispatchKey (handler : ErasedHandler C) :
    Option Discriminator :=
  handler.discriminator.bind fun bytes =>
    if bytes.length = 8 then firstEight bytes else none

theorem ErasedHandler.dispatchKey_eq_some_iff {handler : ErasedHandler C}
    {key : Discriminator} :
    handler.dispatchKey = some key ↔ handler.discriminator = some key.toList := by
  unfold ErasedHandler.dispatchKey
  rw [Option.bind_eq_some_iff]
  constructor
  · rintro ⟨bytes, declared, keyEq⟩
    split at keyEq
    · rename_i eight
      rw [firstEight_eq_some_iff, List.take_of_length_le eight.le] at keyEq
      rw [declared, keyEq.2]
    · cases keyEq
  · intro declared
    refine ⟨key.toList, declared, ?_⟩
    have eight : key.toList.length = 8 := by simp
    rw [if_pos eight, firstEight_eq_some_iff]
    exact ⟨eight.ge, List.take_of_length_le eight.le⟩

theorem ErasedHandler.dispatchKey_eq_none_iff {handler : ErasedHandler C} :
    handler.dispatchKey = none ↔
      ∀ bytes ∈ handler.discriminator, bytes.length ≠ 8 := by
  rw [Option.eq_none_iff_forall_ne_some]
  constructor
  · intro noKey bytes declared eight
    obtain ⟨key, keyEq⟩ : ∃ key, firstEight bytes = some key := by
      simp [firstEight, eight]
    rw [firstEight_eq_some_iff, List.take_of_length_le eight.le] at keyEq
    apply noKey key
    rw [dispatchKey_eq_some_iff, ← keyEq.2]
    exact declared
  · intro short key keyEq
    rw [dispatchKey_eq_some_iff] at keyEq
    exact short _ keyEq (by simp)

end Keys

namespace HandlerRegistry

variable {C : Type}

/-- The handlers of a program on the discriminator path with a given key. -/
def keyedBy (owner : Pubkey) (key : Discriminator)
    (handler : ErasedHandler C) : Bool :=
  handler.programId = owner ∧ handler.dispatchKey = some key

/-- The handlers of a program off the discriminator path. -/
def unkeyed (owner : Pubkey) (handler : ErasedHandler C) : Bool :=
  handler.programId = owner ∧ handler.dispatchKey = none

/-- Register handlers one after the other. -/
def registerAll (handlers : List (StorageHandler C)) :
    Option (HandlerRegistry C) :=
  handlers.foldlM register new

/-- The registry holds what its registration history says. -/
structure Reflects (history : List (ErasedHandler C))
    (registry : HandlerRegistry C) : Prop where
  table : ∀ owner key,
    registry.byDiscriminator (owner, key) = history.find? (keyedBy owner key)
  lists : ∀ owner, registry.fallback owner = history.filter (unkeyed owner)
  programs : ∀ owner, owner ∈ registry.programIds ↔
    ∃ handler ∈ history, handler.programId = owner
  wanted : ∀ owner, owner ∈ registry.subscribable ↔
    ∃ handler ∈ history, handler.subscribeProgramAccounts = true ∧
      handler.programId = owner
  distinct : history.Pairwise fun first second => ∀ key,
    keyedBy first.programId key first → ¬keyedBy first.programId key second

theorem reflects_new : Reflects [] (new : HandlerRegistry C) where
  table _ _ := rfl
  lists _ := rfl
  programs _ := by simp [new]
  wanted _ := by simp [new]
  distinct := List.Pairwise.nil

section Register

variable {registry after : HandlerRegistry C} {handler : StorageHandler C}
  {history : List (ErasedHandler C)}

/-- A registration that goes through adds the program, and puts the handler
either in a free place of the table or at the end of its program's list. -/
theorem register_cases (registered : registry.register handler = some after) :
    after.programIds = insert handler.programId registry.programIds ∧
      after.subscribable = (if handler.subscribeProgramAccounts then
        insert handler.programId registry.subscribable
        else registry.subscribable) ∧
      ((∃ key, handler.erase.dispatchKey = some key ∧
        registry.byDiscriminator (handler.programId, key) = none ∧
        after.byDiscriminator = (fun other =>
          if other = (handler.programId, key) then some handler.erase
          else registry.byDiscriminator other) ∧
        after.fallback = registry.fallback) ∨
      (handler.erase.dispatchKey = none ∧
        after.byDiscriminator = registry.byDiscriminator ∧
        after.fallback = fun owner =>
          if owner = handler.programId then
            registry.fallback owner ++ [handler.erase]
          else registry.fallback owner)) := by
  cases keyEq : handler.erase.dispatchKey with
  | none =>
      unfold ErasedHandler.dispatchKey at keyEq
      simp only [register, keyEq, Option.some.injEq] at registered
      subst registered
      exact ⟨rfl, rfl, .inr ⟨rfl, rfl, rfl⟩⟩
  | some key =>
      unfold ErasedHandler.dispatchKey at keyEq
      simp only [register, keyEq] at registered
      cases taken : registry.byDiscriminator (handler.erase.programId, key) with
      | some _ => simp [taken] at registered
      | none =>
          simp only [taken, Option.some.injEq] at registered
          subst registered
          exact ⟨rfl, rfl, .inl ⟨key, rfl, taken, rfl, rfl⟩⟩

theorem keyedBy_iff {owner : Pubkey} {key : Discriminator}
    {erased : ErasedHandler C} :
    keyedBy owner key erased = true ↔
      erased.programId = owner ∧ erased.dispatchKey = some key := by
  simp [keyedBy]

theorem unkeyed_iff {owner : Pubkey} {erased : ErasedHandler C} :
    unkeyed owner erased = true ↔
      erased.programId = owner ∧ erased.dispatchKey = none := by
  simp [unkeyed]

theorem exists_mem_concat {erased : ErasedHandler C}
    {property : ErasedHandler C → Prop} :
    (∃ found ∈ history ++ [erased], property found) ↔
      (∃ found ∈ history, property found) ∨ property erased := by
  simp only [List.mem_append, List.mem_singleton, or_and_right, exists_or,
    exists_eq_left]

theorem Reflects.programs_register (reflects : Reflects history registry)
    (programsEq : after.programIds =
      insert handler.programId registry.programIds) (owner : Pubkey) :
    owner ∈ after.programIds ↔
      ∃ found ∈ history ++ [handler.erase], found.programId = owner := by
  rw [programsEq, Finset.mem_insert, reflects.programs, exists_mem_concat,
    or_comm, eq_comm]
  rfl

theorem Reflects.wanted_register (reflects : Reflects history registry)
    (wantedEq : after.subscribable = if handler.subscribeProgramAccounts then
      insert handler.programId registry.subscribable
      else registry.subscribable) (owner : Pubkey) :
    owner ∈ after.subscribable ↔
      ∃ found ∈ history ++ [handler.erase],
        found.subscribeProgramAccounts = true ∧ found.programId = owner := by
  rw [wantedEq, exists_mem_concat, ← reflects.wanted]
  cases wants : handler.subscribeProgramAccounts with
  | true =>
      simp only [if_true, Finset.mem_insert, StorageHandler.erase, wants, true_and]
      rw [or_comm, eq_comm]
  | false => simp [StorageHandler.erase, wants]

/-- A key that nobody had finds the handler registered under it. -/
theorem Reflects.table_keyed (reflects : Reflects history registry)
    {key : Discriminator} (keyEq : handler.erase.dispatchKey = some key)
    (nobody : ∀ found ∈ history, ¬keyedBy handler.programId key found = true)
    (tableEq : after.byDiscriminator = fun other =>
      if other = (handler.programId, key) then some handler.erase
      else registry.byDiscriminator other)
    (owner : Pubkey) (other : Discriminator) :
    after.byDiscriminator (owner, other) =
      (history ++ [handler.erase]).find? (keyedBy owner other) := by
  rw [tableEq, List.find?_append]
  by_cases same : (owner, other) = (handler.programId, key)
  · cases same
    have own : keyedBy handler.programId key handler.erase = true :=
      keyedBy_iff.mpr ⟨rfl, keyEq⟩
    simp [List.find?_eq_none.mpr nobody, own]
  · have notOwn : keyedBy owner other handler.erase = false := by
      rw [Bool.eq_false_iff]
      intro own
      obtain ⟨ownerEq, otherEq⟩ := keyedBy_iff.mp own
      rw [keyEq] at otherEq
      exact same (Prod.ext ownerEq.symm (Option.some.inj otherEq).symm)
    simp [same, reflects.table, notOwn]

/-- A handler without a key is at the end of its program's list. -/
theorem Reflects.lists_unkeyed (reflects : Reflects history registry)
    (noKey : handler.erase.dispatchKey = none)
    (listsEq : after.fallback = fun owner =>
      if owner = handler.programId then registry.fallback owner ++ [handler.erase]
      else registry.fallback owner)
    (owner : Pubkey) :
    after.fallback owner = (history ++ [handler.erase]).filter (unkeyed owner) := by
  rw [listsEq, List.filter_append]
  by_cases same : owner = handler.programId
  · subst same
    have own : unkeyed handler.programId handler.erase = true :=
      unkeyed_iff.mpr ⟨rfl, noKey⟩
    simp [reflects.lists, own]
  · have notOwn : unkeyed owner handler.erase = false := by
      rw [Bool.eq_false_iff]
      intro own
      exact same (unkeyed_iff.mp own).1.symm
    simp [same, reflects.lists, notOwn]

theorem Reflects.distinct_concat (reflects : Reflects history registry)
    (free : ∀ key, handler.erase.dispatchKey = some key → ∀ found ∈ history,
      ¬keyedBy handler.programId key found = true) :
    (history ++ [handler.erase]).Pairwise fun first second => ∀ key,
      keyedBy first.programId key first → ¬keyedBy first.programId key second := by
  rw [List.pairwise_append]
  refine ⟨reflects.distinct, List.pairwise_singleton _ _, ?_⟩
  intro first member second isNew key keyed keyed'
  rw [List.mem_singleton.mp isNew, keyedBy_iff] at keyed'
  obtain ⟨ownerEq, keyEq⟩ := keyed'
  apply free key keyEq first member
  rw [← show first.programId = handler.programId from ownerEq.symm]
  exact keyed

/-- A registration that goes through is added to the history. -/
theorem Reflects.register (reflects : Reflects history registry)
    (registered : registry.register handler = some after) :
    Reflects (history ++ [handler.erase]) after := by
  obtain ⟨programsEq, wantedEq, ⟨key, keyEq, free, tableEq, listsEq⟩ |
    ⟨noKey, tableEq, listsEq⟩⟩ := register_cases registered
  · have nobody : ∀ found ∈ history,
        ¬keyedBy handler.programId key found = true := by
      rw [reflects.table, List.find?_eq_none] at free
      exact free
    constructor
    · exact reflects.table_keyed keyEq nobody tableEq
    · intro owner
      have notOwn : unkeyed owner handler.erase = false := by
        simp [unkeyed, keyEq]
      simp [listsEq, reflects.lists, notOwn]
    · exact reflects.programs_register programsEq
    · exact reflects.wanted_register wantedEq
    · apply reflects.distinct_concat
      intro other otherEq
      cases keyEq.symm.trans otherEq
      exact nobody
  · constructor
    · intro owner other
      have notOwn : keyedBy owner other handler.erase = false := by
        simp [keyedBy, noKey]
      simp [tableEq, reflects.table, notOwn]
    · exact reflects.lists_unkeyed noKey listsEq
    · exact reflects.programs_register programsEq
    · exact reflects.wanted_register wantedEq
    · apply reflects.distinct_concat
      intro key keyEq
      rw [noKey] at keyEq
      cases keyEq

/-- A registry reflects the handlers registered in it, in their order. -/
theorem Reflects.foldlM {handlers : List (StorageHandler C)}
    (reflects : Reflects history registry)
    (registered : handlers.foldlM HandlerRegistry.register registry =
      some after) :
    Reflects (history ++ handlers.map StorageHandler.erase) after := by
  induction handlers generalizing history registry with
  | nil =>
      cases registered
      rw [List.map_nil, List.append_nil]
      exact reflects
  | cons handler handlers ih =>
      rw [List.foldlM_cons, Option.bind_eq_bind, Option.bind_eq_some_iff]
        at registered
      obtain ⟨next, first, rest⟩ := registered
      have split := ih (reflects.register first) rest
      rwa [List.append_assoc] at split

theorem reflects_registerAll {handlers : List (StorageHandler C)}
    (registered : registerAll handlers = some after) :
    Reflects (handlers.map StorageHandler.erase) after :=
  reflects_new.foldlM registered

end Register

section Dispatch

variable {registry : HandlerRegistry C} {history : List (ErasedHandler C)}
  {owner : Pubkey} {data : Bytes} {handler : ErasedHandler C}

/-- Off the discriminator path a handler takes an account of its program when
it does not declare eight bytes, the data starts with what it declares, if
anything, and it matches the account. -/
def takesUnkeyed (owner : Pubkey) (data : Bytes)
    (handler : ErasedHandler C) : Bool :=
  decide (handler.programId = owner) &&
    handler.discriminator.all (·.length != 8) &&
    handler.discriminator.all (·.isPrefixOf data) && handler.matchesAccount data

/-- A handler declares the first eight bytes of the data. -/
def DeclaresLeading (data : Bytes) (handler : ErasedHandler C) : Prop :=
  8 ≤ data.length ∧ handler.discriminator = some (data.take 8)

/-- What a registry with a given history answers. -/
structure DispatchesExactly (history : List (ErasedHandler C))
    (registry : HandlerRegistry C) : Prop where
  keyed : ∀ handler ∈ history, ∀ data, DeclaresLeading data handler →
    registry.lookup handler.programId data = some handler
  unkeyed : ∀ owner data,
    (∀ handler ∈ history, handler.programId = owner →
      ¬DeclaresLeading data handler) →
    registry.lookup owner data = history.find? (takesUnkeyed owner data)
  own : ∀ owner data handler, registry.lookup owner data = some handler →
    handler ∈ history ∧ handler.programId = owner ∧
      ∀ bytes ∈ handler.discriminator, bytes <+: data
  wanted : ∀ owner, owner ∈ registry.subscribable ↔
    ∃ handler ∈ history, handler.subscribeProgramAccounts = true ∧
      handler.programId = owner
  known : registry.subscribable ⊆ registry.programIds

theorem declaresLeading_iff {key : Discriminator}
    (leading : firstEight data = some key) :
    DeclaresLeading data handler ↔ handler.dispatchKey = some key := by
  obtain ⟨enough, takeEq⟩ := firstEight_eq_some_iff.mp leading
  rw [DeclaresLeading, takeEq, ErasedHandler.dispatchKey_eq_some_iff]
  exact and_iff_right enough

theorem Reflects.lookup_eq (reflects : Reflects history registry) :
    registry.lookup owner data =
      ((firstEight data).bind fun key => history.find? (keyedBy owner key)).or
        (history.find? (takesUnkeyed owner data)) := by
  have fallbackEq : ((registry.fallback owner).find? (fallbackMatches data)) =
      history.find? (takesUnkeyed owner data) := by
    rw [reflects.lists, List.find?_filter]
    congr 1
    funext handler
    have short : decide (handler.dispatchKey = none) =
        handler.discriminator.all (·.length != 8) := by
      rw [Bool.eq_iff_iff, decide_eq_true_eq,
        ErasedHandler.dispatchKey_eq_none_iff]
      cases handler.discriminator <;> simp
    simp only [HandlerRegistry.unkeyed, takesUnkeyed, fallbackMatches,
      Bool.decide_and, short, Bool.and_assoc, Bool.decide_eq_true]
  simp only [lookup, fallbackEq, reflects.table]

theorem Reflects.lookup_keyed (reflects : Reflects history registry)
    (member : handler ∈ history) (declares : DeclaresLeading data handler) :
    registry.lookup handler.programId data = some handler := by
  obtain ⟨key, leading⟩ : ∃ key, firstEight data = some key := by
    simp [firstEight, declares.1]
  have own : keyedBy handler.programId key handler = true :=
    keyedBy_iff.mpr ⟨rfl, (declaresLeading_iff leading).mp declares⟩
  obtain ⟨before, rest, rfl⟩ := List.append_of_mem member
  have distinct := (List.pairwise_append.mp reflects.distinct).2.2
  -- Nobody before the handler has its key, so the search finds it.
  have nobody : before.find? (keyedBy handler.programId key) = none := by
    rw [List.find?_eq_none]
    intro found inBefore keyed
    apply distinct found inBefore handler List.mem_cons_self key
    · rw [(keyedBy_iff.mp keyed).1]
      exact keyed
    · rw [(keyedBy_iff.mp keyed).1]
      exact own
  rw [reflects.lookup_eq, leading, Option.bind_some, List.find?_append, nobody,
    Option.none_or, List.find?_cons_of_pos own, Option.some_or]

theorem Reflects.lookup_unkeyed (reflects : Reflects history registry)
    (nobody : ∀ handler ∈ history, handler.programId = owner →
      ¬DeclaresLeading data handler) :
    registry.lookup owner data = history.find? (takesUnkeyed owner data) := by
  rw [reflects.lookup_eq]
  cases leading : firstEight data with
  | none => rfl
  | some key =>
      have notFound : history.find? (keyedBy owner key) = none := by
        rw [List.find?_eq_none]
        intro handler member keyed
        obtain ⟨ownerEq, keyEq⟩ := keyedBy_iff.mp keyed
        exact nobody handler member ownerEq
          ((declaresLeading_iff leading).mpr keyEq)
      rw [Option.bind_some, notFound, Option.none_or]

theorem Reflects.lookup_own (reflects : Reflects history registry)
    (found : registry.lookup owner data = some handler) :
    handler ∈ history ∧ handler.programId = owner ∧
      ∀ bytes ∈ handler.discriminator, bytes <+: data := by
  rw [reflects.lookup_eq, Option.or_eq_some_iff] at found
  rcases found with onPath | ⟨-, offPath⟩
  · obtain ⟨key, leading, search⟩ := Option.bind_eq_some_iff.mp onPath
    obtain ⟨ownerEq, keyEq⟩ := keyedBy_iff.mp (List.find?_some search)
    refine ⟨List.mem_of_find?_eq_some search, ownerEq, fun bytes declared => ?_⟩
    have declares := (declaresLeading_iff leading).mpr keyEq
    rw [Option.mem_def, declares.2] at declared
    cases declared
    exact List.take_prefix 8 data
  · have takes := List.find?_some offPath
    simp only [takesUnkeyed, Bool.and_eq_true, decide_eq_true_eq] at takes
    obtain ⟨⟨⟨ownerEq, -⟩, starts⟩, -⟩ := takes
    refine ⟨List.mem_of_find?_eq_some offPath, ownerEq, fun bytes declared => ?_⟩
    rw [Option.mem_def] at declared
    rw [declared, Option.all_some] at starts
    exact List.isPrefixOf_iff_prefix.mp starts

/-- After any registrations that go through, dispatch is exact. -/
theorem registerAll_dispatchesExactly (handlers : List (StorageHandler C))
    (registry : HandlerRegistry C)
    (registered : registerAll handlers = some registry) :
    DispatchesExactly (handlers.map StorageHandler.erase) registry := by
  have reflects := reflects_registerAll registered
  constructor
  · exact fun handler member data => reflects.lookup_keyed member
  · exact fun owner data => reflects.lookup_unkeyed
  · exact fun owner data handler => reflects.lookup_own
  · exact reflects.wanted
  · intro owner wants
    obtain ⟨handler, member, -, ownerEq⟩ := (reflects.wanted owner).mp wants
    exact (reflects.programs owner).mpr ⟨handler, member, ownerEq⟩

/-- A handler of program 5 that counts the updates it sees. -/
def countingHandler (discriminator : Option Bytes) : StorageHandler Nat where
  State := Unit
  programId := 5
  discriminator := discriminator
  deserialize _ := .ok ()
  apply count _ _ _ := (count + 1, .ok ⟨[], [], []⟩)

theorem registerAll_dispatchesExactly_counting :
    ∃ registry, registerAll
        [countingHandler (some [1, 2, 3, 4, 5, 6, 7, 8]),
          countingHandler (some [9])] = some registry ∧
      DispatchesExactly
        [(countingHandler (some [1, 2, 3, 4, 5, 6, 7, 8])).erase,
          (countingHandler (some [9])).erase] registry :=
  ⟨_, rfl, registerAll_dispatchesExactly
    [countingHandler (some [1, 2, 3, 4, 5, 6, 7, 8]),
      countingHandler (some [9])] _ rfl⟩

end Dispatch

end HandlerRegistry

end Storage

end SolanaProtocols
