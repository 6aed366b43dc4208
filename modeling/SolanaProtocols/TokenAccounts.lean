import Mathlib.Data.List.DropRight
import SolanaProtocols.HandlerDispatch
import SolanaProtocols.PrefixCodec
import SolanaProtocols.SwapBuilders
import SolanaProtocols.VersionedStateMap

/-!
# Token accounts in the cache

Token accounts carry no discriminator, so their handler takes every account of a
token program that is long enough for one.  A mint of the classic program is
shorter.  A Token-2022 mint with extensions is padded to the length of a token
account before them, so it is taken too, and its bytes are stored as an owner and
a balance.

Unpacking of mints is left to the crates of the token programs.
-/

namespace SolanaProtocols

open Parsing

/-- Token program type. -/
inductive TokenProgram
  | splToken
  | splToken2022
deriving DecidableEq, Repr

namespace TokenProgram

/-- `TokenzQdBNbLqP5VEhdkAS6EPFLC1PHnBqCXEpPxuEb`. -/
def splToken2022Id : Pubkey :=
  0xfc8ba1d828f9bdfe270db9834dfc1ab6dacd6ce4bc5d4218de8f75eee1f6dd06

def fromProgramId (id : Pubkey) : Option TokenProgram :=
  if id = SolanaProtocols.splToken then some .splToken
  else if id = splToken2022Id then some .splToken2022
  else none

def id : TokenProgram → Pubkey
  | .splToken => SolanaProtocols.splToken
  | .splToken2022 => splToken2022Id

@[simp] theorem fromProgramId_id (program : TokenProgram) :
    fromProgramId program.id = some program := by
  cases program <;> decide

theorem id_injective : Function.Injective id := by
  intro program other same
  rw [← Option.some.injEq, ← fromProgramId_id program, same, fromProgramId_id]

end TokenProgram

structure TokenWithProgram where
  mint : Pubkey
  program : TokenProgram
deriving DecidableEq, Repr

/-- A token account with owner and balance information. -/
structure TokenAccount where
  token : TokenWithProgram
  owner : Pubkey
  balance : BitVec 64
deriving DecidableEq, Repr

def tokenAccountBaseLen : Nat := 165

/-- Why an account cannot be decoded. -/
inductive AccountError
  | accountDataTooShort (expected actual : Nat)
deriving DecidableEq, Repr

def AccountError.toText : AccountError → String
  | .accountDataTooShort expected actual =>
      "account data too short: need " ++ toString expected ++ " bytes, got " ++
        toString actual

/-- The address in the 32 bytes from an offset. -/
def pubkeyAt (data : Bytes) (offset : Nat) : Pubkey :=
  .ofNat 256 (PrefixCodec.ofLeBytes ((data.drop offset).take 32))

/-- Decode from raw account bytes. -/
def TokenAccount.fromAccountData (data : Bytes) (program : TokenProgram) :
    Except AccountError TokenAccount :=
  if data.length < tokenAccountBaseLen then
    .error (.accountDataTooShort tokenAccountBaseLen data.length)
  else
    .ok {
      token := { mint := pubkeyAt data 0, program := program }
      owner := pubkeyAt data 32
      balance := .ofNat 64 (PrefixCodec.ofLeBytes ((data.drop 64).take 8)) }

section Mints

/-- The display fields of a mint. -/
structure MintDisplay where
  name : Text
  symbol : Text
  uri : Text
deriving DecidableEq, Repr

/-- The fields of an unpacked mint that are read. -/
structure Mint where
  supply : BitVec 64
  decimals : UInt8
deriving DecidableEq, Repr

/-- An unpacked Token-2022 mint and its metadata extension, if it has one. -/
structure MintWithExtensions where
  base : Mint
  metadata : Option MintDisplay
deriving DecidableEq, Repr

/-- Unpacking in the crates of the two token programs. -/
structure MintUnpackers where
  unpack : Bytes → Option Mint
  unpackWithExtensions : Bytes → Option MintWithExtensions

/-- Everything the mint account itself reports. -/
structure MintAccountFacts where
  program : TokenProgram
  decimals : UInt8
  supply : BitVec 64
  display : Option MintDisplay
deriving DecidableEq, Repr

/-- Metadata strings are padded with zero characters. -/
def trimEndNul (text : Text) : Text :=
  text.rdropWhile fun char => char.toNat = 0

/-- Decode a mint account by its owning program. -/
def decodeMintAccount (unpackers : MintUnpackers) (owner : Pubkey) (data : Bytes) :
    Option MintAccountFacts := do
  match ← TokenProgram.fromProgramId owner with
  | .splToken =>
      let mint ← unpackers.unpack data
      return { program := .splToken
               decimals := mint.decimals
               supply := mint.supply
               display := none }
  | .splToken2022 =>
      let state ← unpackers.unpackWithExtensions data
      return { program := .splToken2022
               decimals := state.base.decimals
               supply := state.base.supply
               display := state.metadata.map fun metadata =>
                 { name := trimEndNul metadata.name
                   symbol := trimEndNul metadata.symbol
                   uri := trimEndNul metadata.uri } }

/-- The length of a mint without extensions. -/
def mintLen : Nat := 82

/-- A mint with extensions: the base, padding up to the length of a token account,
the account type of mints, and the extensions. -/
def HasExtensions (data : Bytes) : Prop :=
  ∃ base extensions : Bytes, base.length = mintLen ∧
    data = base ++ List.replicate (tokenAccountBaseLen - mintLen) 0 ++ 1 :: extensions

/-- The layouts of the mints that are unpacked. -/
structure MintUnpackers.FollowLayouts (unpackers : MintUnpackers) : Prop where
  classic : ∀ data mint, unpackers.unpack data = some mint → data.length = mintLen
  extensible : ∀ data state, unpackers.unpackWithExtensions data = some state →
    data.length = mintLen ∨ HasExtensions data

theorem HasExtensions.length_gt {data : Bytes} (extended : HasExtensions data) :
    tokenAccountBaseLen < data.length := by
  obtain ⟨base, extensions, baseLength, rfl⟩ := extended
  simp only [List.length_append, List.length_replicate, List.length_cons, baseLength,
    tokenAccountBaseLen, mintLen]
  omega

/-- A mint without extensions is shorter than a token account. -/
theorem MintUnpackers.FollowLayouts.layout {unpackers : MintUnpackers}
    (layouts : unpackers.FollowLayouts) {program : TokenProgram} {data : Bytes}
    {facts : MintAccountFacts}
    (decoded : decodeMintAccount unpackers program.id data = some facts) :
    data.length = mintLen ∨ HasExtensions data := by
  unfold decodeMintAccount at decoded
  rw [TokenProgram.fromProgramId_id, Option.bind_eq_bind, Option.bind_some] at decoded
  cases program with
  | splToken =>
      obtain ⟨mint, unpacked, -⟩ := Option.bind_eq_some_iff.mp decoded
      exact .inl (layouts.classic data mint unpacked)
  | splToken2022 =>
      obtain ⟨state, unpacked, -⟩ := Option.bind_eq_some_iff.mp decoded
      exact layouts.extensible data state unpacked

end Mints

namespace Storage

open HandlerRegistry

/-- The cached token accounts. -/
abbrev TokenCache := VersionedStateMap Pubkey TokenAccount

/-- Decodes token accounts into the cache. -/
def tokenAccountHandler (program : TokenProgram) : StorageHandler TokenCache where
  State := TokenAccount
  programId := program.id
  discriminator := none
  matchesAccount data := tokenAccountBaseLen ≤ data.length
  subscribeProgramAccounts := false
  deserialize data :=
    (TokenAccount.fromAccountData data program).mapError fun error =>
      .deserialize data.length error.toText
  apply cache pubkey state slot :=
    ((cache.insert pubkey state slot).1, .ok ⟨[], [], []⟩)

/-- One handler for each token program. -/
def tokenHandlers : List (StorageHandler TokenCache) :=
  [tokenAccountHandler .splToken, tokenAccountHandler .splToken2022]

theorem mem_tokenHandlers (program : TokenProgram) :
    tokenAccountHandler program ∈ tokenHandlers := by
  cases program <;> simp [tokenHandlers]

section Dispatch

variable {program : TokenProgram} {data : Bytes}

theorem matchesAccount_eq_false_iff :
    (tokenAccountHandler program).matchesAccount data = false ↔
      data.length < tokenAccountBaseLen := by
  simp [tokenAccountHandler]

theorem handle_claimed (enough : tokenAccountBaseLen ≤ data.length)
    (cache : TokenCache) (pubkey : Pubkey) (slot : Nat) :
    ∃ account, TokenAccount.fromAccountData data program = .ok account ∧
      ((tokenAccountHandler program).erase.handle cache pubkey data slot).1 =
        (cache.insert pubkey account slot).1 := by
  have decoded : ∃ account, TokenAccount.fromAccountData data program = .ok account := by
    simp [TokenAccount.fromAccountData, enough.not_gt]
  obtain ⟨account, decoded⟩ := decoded
  refine ⟨account, decoded, ?_⟩
  simp [StorageHandler.erase, tokenAccountHandler, decoded, Except.mapError]

/-- A token program's accounts are left to its token account handler. -/
structure Registered (program : TokenProgram)
    (handlers : List (StorageHandler TokenCache))
    (registry : HandlerRegistry TokenCache) : Prop where
  registered : registerAll handlers = some registry
  only : ∀ handler ∈ handlers, handler.programId = program.id →
    handler = tokenAccountHandler program

theorem exists_registered_tokenHandlers :
    ∃ registry, ∀ program, Registered program tokenHandlers registry := by
  refine ⟨_, fun program => ⟨rfl, fun handler member ownerEq => ?_⟩⟩
  have own (other : TokenProgram) (same : other.id = program.id) :
      tokenAccountHandler other = tokenAccountHandler program :=
    congrArg tokenAccountHandler (TokenProgram.id_injective same)
  simp only [tokenHandlers, List.mem_cons, List.not_mem_nil, or_false] at member
  rcases member with rfl | rfl
  · exact own .splToken ownerEq
  · exact own .splToken2022 ownerEq

/-- No registry stores the account. -/
def Uncached (program : TokenProgram) (data : Bytes) : Prop :=
  ∀ handlers registry, Registered program handlers registry →
    ∀ cache pubkey slot,
      (registry.dispatch cache program.id pubkey data slot).1 = cache

section Registry

variable {handlers : List (StorageHandler TokenCache)}
  {registry : HandlerRegistry TokenCache}

theorem Registered.lookup_eq (registration : Registered program handlers registry) :
    registry.lookup program.id data =
      (handlers.map StorageHandler.erase).find? (takesUnkeyed program.id data) := by
  apply (reflects_registerAll registration.registered).lookup_unkeyed
  intro erased member ownerEq declares
  obtain ⟨handler, inHandlers, rfl⟩ := List.mem_map.mp member
  rw [registration.only handler inHandlers ownerEq] at declares
  cases declares.2

/-- Only the token account handler is found, for an account that it claims. -/
theorem Registered.claimed_of_lookup
    (registration : Registered program handlers registry)
    {found : ErasedHandler TokenCache}
    (lookup : registry.lookup program.id data = some found) :
    found = (tokenAccountHandler program).erase ∧
      (tokenAccountHandler program).matchesAccount data = true := by
  rw [registration.lookup_eq] at lookup
  obtain ⟨handler, inHandlers, rfl⟩ :=
    List.mem_map.mp (List.mem_of_find?_eq_some lookup)
  have takes := List.find?_some lookup
  simp only [takesUnkeyed, Bool.and_eq_true, decide_eq_true_eq] at takes
  obtain ⟨⟨⟨ownerEq, -⟩, -⟩, claims⟩ := takes
  rw [registration.only handler inHandlers ownerEq] at claims ⊢
  exact ⟨rfl, claims⟩

theorem Registered.lookup_of_claimed
    (registration : Registered program handlers registry)
    (member : tokenAccountHandler program ∈ handlers)
    (claims : (tokenAccountHandler program).matchesAccount data = true) :
    registry.lookup program.id data = some (tokenAccountHandler program).erase := by
  cases lookup : registry.lookup program.id data with
  | some found => rw [(registration.claimed_of_lookup lookup).1]
  | none =>
      rw [registration.lookup_eq, List.find?_eq_none] at lookup
      have takes : takesUnkeyed program.id data
          (tokenAccountHandler program).erase = true := by
        simp only [takesUnkeyed, Bool.and_eq_true, decide_eq_true_eq]
        exact ⟨⟨⟨rfl, rfl⟩, rfl⟩, claims⟩
      exact absurd takes (lookup _ (List.mem_map_of_mem member))

theorem Registered.stored_of_claimed
    (registration : Registered program handlers registry)
    (member : tokenAccountHandler program ∈ handlers)
    (claims : (tokenAccountHandler program).matchesAccount data = true)
    (cache : TokenCache) (pubkey : Pubkey) (slot : Nat) :
    ∃ account, TokenAccount.fromAccountData data program = .ok account ∧
      (registry.dispatch cache program.id pubkey data slot).1 =
        (cache.insert pubkey account slot).1 := by
  rw [dispatch, registration.lookup_of_claimed member claims]
  apply handle_claimed
  simpa [tokenAccountHandler] using claims

end Registry

/-- An account stays out of the cache exactly when it is not claimed. -/
theorem uncached_iff :
    Uncached program data ↔
      (tokenAccountHandler program).matchesAccount data = false := by
  constructor
  · intro uncached
    rw [← Bool.not_eq_true]
    intro claims
    -- With both handlers, the account enters an empty cache.
    obtain ⟨registry, registration⟩ := exists_registered_tokenHandlers
    obtain ⟨account, -, stored⟩ := (registration program).stored_of_claimed
      (mem_tokenHandlers program) claims (.withDepth 0) 0 0
    rw [uncached _ _ (registration program)] at stored
    have absent := congrArg (fun cache => (cache.inner 0).isSome) stored
    simp [VersionedStateMap.insert, VersionedStateMap.withDepth,
      VersionedStateMap.put] at absent
  · intro unclaimed handlers registry registration cache pubkey slot
    have nobody : registry.lookup program.id data = none := by
      rw [Option.eq_none_iff_forall_ne_some]
      intro found lookup
      rw [(registration.claimed_of_lookup lookup).2] at unclaimed
      cases unclaimed
    rw [dispatch, nobody]

end Dispatch

section Mints

variable {program : TokenProgram} {data : Bytes}

/-- An account is neither claimed nor stored as a token account. -/
structure StaysOut (program : TokenProgram) (data : Bytes) : Prop where
  unclaimed : (tokenAccountHandler program).matchesAccount data = false
  uncached : Uncached program data

theorem staysOut_iff_length_lt :
    StaysOut program data ↔ data.length < tokenAccountBaseLen := by
  rw [← matchesAccount_eq_false_iff]
  constructor
  · exact StaysOut.unclaimed
  · intro unclaimed
    exact ⟨unclaimed, uncached_iff.mpr unclaimed⟩

/-- A mint stays out exactly when it carries no extensions. -/
theorem mint_staysOut_iff (unpackers : MintUnpackers)
    (layouts : unpackers.FollowLayouts) (program : TokenProgram) (data : Bytes)
    (facts : MintAccountFacts)
    (decoded : decodeMintAccount unpackers program.id data = some facts) :
    StaysOut program data ↔ ¬HasExtensions data := by
  rw [staysOut_iff_length_lt]
  constructor
  · intro short extended
    exact extended.length_gt.not_gt short
  · intro plain
    have length := (layouts.layout decoded).resolve_right plain
    rw [length]
    decide

/-- The base of a mint that is initialized, its optional keys tagged 0 or 1. -/
def unpackBase (data : Bytes) : Option Mint :=
  if data.length = mintLen ∧
      data.take 4 ∈ [[0, 0, 0, 0], [1, 0, 0, 0]] ∧
      (data.drop 46).take 4 ∈ [[0, 0, 0, 0], [1, 0, 0, 0]] ∧
      data[45]? = some 1 then
    some { supply := .ofNat 64 (PrefixCodec.ofLeBytes ((data.drop 36).take 8))
           decimals := data.getD 44 0 }
  else none

/-- Unpackers for mints without metadata. -/
def layoutUnpackers : MintUnpackers where
  unpack := unpackBase
  unpackWithExtensions data :=
    if data.length = mintLen then
      (unpackBase data).map fun base => { base := base, metadata := none }
    else if (data.drop mintLen).take (tokenAccountBaseLen - mintLen) =
        List.replicate (tokenAccountBaseLen - mintLen) 0 ∧
        data[tokenAccountBaseLen]? = some 1 ∧ data.length ≠ 355 then
      (unpackBase (data.take mintLen)).map fun base =>
        { base := base, metadata := none }
    else none

theorem unpackBase_length {mint : Mint} (unpacked : unpackBase data = some mint) :
    data.length = mintLen := by
  unfold unpackBase at unpacked
  split at unpacked
  · rename_i checks
    exact checks.1
  · cases unpacked

theorem layoutUnpackers_followLayouts : layoutUnpackers.FollowLayouts where
  classic _ _ := unpackBase_length
  extensible data state unpacked := by
    simp only [layoutUnpackers] at unpacked
    split at unpacked
    · rename_i plain
      exact .inl plain
    split at unpacked
    · rename_i checks
      obtain ⟨padding, accountType, -⟩ := checks
      obtain ⟨base, unpacked, -⟩ := Option.map_eq_some_iff.mp unpacked
      obtain ⟨inside, typeEq⟩ := List.getElem?_eq_some_iff.mp accountType
      refine .inr ⟨data.take mintLen, data.drop (tokenAccountBaseLen + 1),
        unpackBase_length unpacked, ?_⟩
      have afterBase : data.drop tokenAccountBaseLen =
          (data.drop mintLen).drop (tokenAccountBaseLen - mintLen) := by
        rw [List.drop_drop]
        rfl
      rw [← padding, ← typeEq, List.append_assoc, List.getElem_cons_drop, afterBase,
        List.take_append_drop, List.take_append_drop]
    · cases unpacked

/-- A mint with a metadata pointer. -/
def pointerMint : Bytes :=
  List.replicate 38 0 ++ [141, 73, 253, 26, 7, 0, 6, 1] ++ List.replicate 36 0 ++
    List.replicate 83 0 ++ [1, 18, 0, 64, 0] ++ List.replicate 32 0 ++
    List.replicate 32 15

theorem mint_staysOut_iff_pointer :
    StaysOut .splToken2022 (pointerMint.take mintLen) ↔
      ¬HasExtensions (pointerMint.take mintLen) :=
  mint_staysOut_iff layoutUnpackers layoutUnpackers_followLayouts .splToken2022
    (pointerMint.take mintLen) _ rfl

/-- The mint is decoded, and stored as a token account by the registry of both
token programs. -/
theorem pointerMint_stored :
    ∃ facts account registry,
      decodeMintAccount layoutUnpackers TokenProgram.splToken2022.id pointerMint =
          some facts ∧
        registerAll tokenHandlers = some registry ∧
        (registry.dispatch (.withDepth 0) TokenProgram.splToken2022.id 7
          pointerMint 1).1.inner 7 = some (.new account 1) ∧
        ¬StaysOut .splToken2022 pointerMint := by
  obtain ⟨registry, registration⟩ := exists_registered_tokenHandlers
  have claims :
      (tokenAccountHandler .splToken2022).matchesAccount pointerMint = true := by
    decide +kernel
  obtain ⟨facts, decoded⟩ : ∃ facts, decodeMintAccount layoutUnpackers
      TokenProgram.splToken2022.id pointerMint = some facts :=
    Option.isSome_iff_exists.mp (by decide +kernel)
  obtain ⟨account, -, stored⟩ := (registration .splToken2022).stored_of_claimed
    (mem_tokenHandlers .splToken2022) claims (.withDepth 0) 7 1
  refine ⟨facts, account, registry, decoded, (registration .splToken2022).registered,
    ?_, ?_⟩
  · rw [stored]
    rfl
  · intro staysOut
    rw [staysOut.unclaimed] at claims
    cases claims

end Mints

end Storage

end SolanaProtocols
