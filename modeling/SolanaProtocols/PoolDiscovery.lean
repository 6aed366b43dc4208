import SolanaProtocols.Corroboration
import SolanaProtocols.PoolGraph

/-!
# Pool discovery

Discovery reads the edge of a swap off its accounts alone: the pool and the
pair, without the event and without the arguments.  Extraction needs both
sources, and takes the pair of a pumpfun swap to be the mint and SOL, also for
the second forms, whose accounts name a quote mint.
-/

namespace SolanaProtocols

open Parsing Chain Protocols Slot

namespace Chain

/-- The bytes of an address. -/
def toBytes (key : Pubkey) : Bytes :=
  Pumpfun.pubkey.encode key

/-- Build an edge, ordering the pair canonically. -/
def PoolEdge.new (pool : Pubkey) (protocol : Protocol) (one other : Pubkey) :
    PoolEdge :=
  if toBytes one ≤ toBytes other then ⟨pool, protocol, one, other⟩
  else ⟨pool, protocol, other, one⟩

namespace PoolEdge

variable (pool one other : Pubkey) (protocol : Protocol)

@[simp]
theorem new_pool : (PoolEdge.new pool protocol one other).pool = pool := by
  rw [PoolEdge.new]
  split <;> rfl

@[simp]
theorem new_protocol :
    (PoolEdge.new pool protocol one other).protocol = protocol := by
  rw [PoolEdge.new]
  split <;> rfl

/-- The order of the pair is forgotten. -/
theorem new_tokens :
    ({(PoolEdge.new pool protocol one other).tokenA,
      (PoolEdge.new pool protocol one other).tokenB} : Set Pubkey) =
        {one, other} := by
  rw [PoolEdge.new]
  split
  · rfl
  · exact Set.pair_comm other one

end PoolEdge

/-- One side of a pair: an account, or a mint that the layout fixes. -/
inductive Side
  | account (name : AccountName)
  | mint (key : Pubkey)

def Side.resolve (account : AccountName → Pubkey) : Side → Pubkey
  | .account name => account name
  | .mint key => key

/-- A swap instruction's accounts struct, which names the pool and its pair. -/
structure SwapAccounts where
  struct : AccountsStruct
  pool : AccountName
  pair : Side × Side

/-- Read the pool and its pair straight from an account list. -/
def SwapAccounts.read (layout : SwapAccounts) (keys : List Pubkey) :
    Option (Pubkey × Pubkey × Pubkey) :=
  match layout.struct.fromAccountKeys keys with
  | .error _ => none
  | .ok accounts =>
      let account := layout.struct.account accounts
      some (account layout.pool, layout.pair.1.resolve account,
        layout.pair.2.resolve account)

/-- What one instruction had to say about a pool. -/
inductive Discovery
  | edge (edge : PoolEdge)
  | unreadable (instruction : SwapInstruction)
  | notASwap

/-- Pull the four facts out of an account list via the layout. -/
def Discovery.read (layout : SwapAccounts) (instruction : SwapInstruction)
    (keys : List Pubkey) (protocol : Protocol) : Discovery :=
  match layout.read keys with
  | some (pool, one, other) => .edge (.new pool protocol one other)
  | none => .unreadable instruction

end Chain

namespace Pumpfun

def BuyExactSolInAccounts.slots : NamedSlots :=
    [(.global, readonly), (.feeRecipient, writable), (.mint, readonly),
     (.bondingCurve, writable), (.associatedBondingCurve, writable),
     (.associatedUser, writable), (.user, writableSigner),
     (.systemProgram, readonly), (.tokenProgram, readonly),
     (.creatorVault, writable), (.eventAuthority, readonly),
     (.program, readonly), (.globalVolumeAccumulator, readonly),
     (.userVolumeAccumulator, writable), (.feeConfig, readonly),
     (.feeProgram, readonly)]

def BuyExactQuoteInV2Accounts.slots : NamedSlots :=
    [(.global, readonly), (.baseMint, readonly), (.quoteMint, readonly),
     (.baseTokenProgram, readonly), (.quoteTokenProgram, readonly),
     (.associatedTokenProgram, readonly), (.feeRecipient, writable),
     (.associatedQuoteFeeRecipient, writable),
     (.buybackFeeRecipient, writable),
     (.associatedQuoteBuybackFeeRecipient, writable),
     (.bondingCurve, writable), (.associatedBaseBondingCurve, writable),
     (.associatedQuoteBondingCurve, writable), (.user, writableSigner),
     (.associatedBaseUser, writable), (.associatedQuoteUser, writable),
     (.creatorVault, writable), (.associatedCreatorVault, writable),
     (.sharingConfig, readonly), (.globalVolumeAccumulator, readonly),
     (.userVolumeAccumulator, writable),
     (.associatedUserVolumeAccumulator, writable), (.feeConfig, readonly),
     (.feeProgram, readonly), (.systemProgram, readonly),
     (.eventAuthority, readonly), (.program, readonly)]

section Layouts

variable (addresses : AddressDerivation)

def BuyExactSolInAccounts : AccountsStruct :=
  swapAccounts addresses "BuyExactSolInAccounts" BuyExactSolInAccounts.slots .mint

def BuyExactQuoteInV2Accounts : AccountsStruct :=
  swapAccounts addresses "BuyExactQuoteInV2Accounts"
    BuyExactQuoteInV2Accounts.slots .baseMint

/-- The first layouts are quoted in SOL. -/
def firstLayout (struct : AccountsStruct) : Chain.SwapAccounts where
  struct := struct
  pool := .bondingCurve
  pair := (.account .mint, .mint wsol)

/-- The second layouts name both sides. -/
def secondLayout (struct : AccountsStruct) : Chain.SwapAccounts where
  struct := struct
  pool := .bondingCurve
  pair := (.account .baseMint, .account .quoteMint)

end Layouts

end Pumpfun

namespace PumpSwap

def BuyExactQuoteInAccounts.slots : NamedSlots :=
    [(.pool, writable), (.user, writableSigner), (.globalConfig, readonly),
     (.baseMint, readonly), (.quoteMint, readonly),
     (.userBaseTokenAccount, writable), (.userQuoteTokenAccount, writable),
     (.poolBaseTokenAccount, writable), (.poolQuoteTokenAccount, writable),
     (.protocolFeeRecipient, readonly),
     (.protocolFeeRecipientTokenAccount, writable),
     (.baseTokenProgram, readonly), (.quoteTokenProgram, readonly),
     (.systemProgram, readonly), (.associatedTokenProgram, readonly),
     (.eventAuthority, readonly), (.program, readonly),
     (.coinCreatorVaultAta, writable), (.coinCreatorVaultAuthority, readonly),
     (.globalVolumeAccumulator, readonly), (.userVolumeAccumulator, writable),
     (.feeConfig, readonly), (.feeProgram, readonly)]

def BuyExactQuoteInAccounts (addresses : AddressDerivation) : AccountsStruct :=
  .ofResolved "BuyExactQuoteInAccounts" programId BuyExactQuoteInAccounts.slots
    [fun declared => addresses.getAssociatedTokenAddress
      (BuyExactQuoteInAccounts.slots.account declared .userVolumeAccumulator)
      (BuyExactQuoteInAccounts.slots.account declared .quoteMint)]

/-- The layouts name the pool and both sides. -/
def poolLayout (struct : AccountsStruct) : Chain.SwapAccounts where
  struct := struct
  pool := .pool
  pair := (.account .baseMint, .account .quoteMint)

end PumpSwap

namespace Chain

variable (addresses : AddressDerivation)

/-- Read whatever a single instruction can tell us about a pool. -/
def discover (ix : ParsedInstruction) : Discovery :=
  let instruction := SwapInstruction.resolve ix.programId ix.data
  match instruction with
  | .pumpfunBuy =>
      .read (Pumpfun.firstLayout (Pumpfun.BuyAccounts addresses)) instruction
        ix.accounts .pumpfun
  | .pumpfunSell =>
      .read (Pumpfun.firstLayout (Pumpfun.SellAccounts addresses)) instruction
        ix.accounts .pumpfun
  | .pumpfunBuyV2 =>
      .read (Pumpfun.secondLayout (Pumpfun.BuyV2Accounts addresses)) instruction
        ix.accounts .pumpfun
  | .pumpfunSellV2 =>
      .read (Pumpfun.secondLayout (Pumpfun.SellV2Accounts addresses)) instruction
        ix.accounts .pumpfun
  | .pumpSwapBuy =>
      .read (PumpSwap.poolLayout (PumpSwap.BuyAccounts addresses)) instruction
        ix.accounts .pumpSwap
  | .pumpSwapSell =>
      .read (PumpSwap.poolLayout (PumpSwap.SellAccounts addresses)) instruction
        ix.accounts .pumpSwap
  | .pumpfunBuyExactSolIn =>
      .read (Pumpfun.firstLayout (Pumpfun.BuyExactSolInAccounts addresses))
        instruction ix.accounts .pumpfun
  | .pumpfunBuyExactQuoteInV2 =>
      .read (Pumpfun.secondLayout (Pumpfun.BuyExactQuoteInV2Accounts addresses))
        instruction ix.accounts .pumpfun
  | .pumpSwapBuyExactQuoteIn =>
      .read (PumpSwap.poolLayout (PumpSwap.BuyExactQuoteInAccounts addresses))
        instruction ix.accounts .pumpSwap
  | .unknown _ => .notASwap

end Chain

theorem Parsing.AccountsStruct.exists_of_le {struct : AccountsStruct}
    {keys : List Pubkey} (listed : struct.layout.remaining ≠ none)
    (enough : struct.slots.length ≤ keys.length) :
    ∃ accounts, struct.fromAccountKeys keys = .ok accounts := by
  have long : struct.layout.declared.length ≤ keys.length := by
    rw [struct.declared, List.length_map]
    exact enough
  have read := AccountLayout.readFields_eq_ok_iff.mpr
    ⟨long, rfl, fun unlisted => absurd unlisted listed⟩
  exact ⟨⟨_, AccountLayout.readFields_fit read⟩,
    AccountLayout.fromPubkeys_eq_ok_iff.mpr read⟩

theorem Parsing.AccountsStruct.length_le_of_fromAccountKeys
    {struct : AccountsStruct} {keys : List Pubkey} {accounts : Accounts struct.layout}
    (read : struct.fromAccountKeys keys = .ok accounts) :
    struct.slots.length ≤ keys.length := by
  obtain ⟨enough, -⟩ := AccountLayout.readFields_eq_ok_iff.mp
    (AccountLayout.fromPubkeys_eq_ok_iff.mp read)
  rwa [struct.declared, List.length_map] at enough

namespace Chain

/-- The key at the index of a named slot. -/
def keyAt (slots : NamedSlots) (keys : List Pubkey) (name : AccountName) : Pubkey :=
  keys.getD (slots.indexOf name) 0

/-- The slots declare an account of the name. -/
def Declares (slots : NamedSlots) (name : AccountName) : Prop :=
  slots.indexOf name < slots.length

instance (slots : NamedSlots) (name : AccountName) : Decidable (Declares slots name) :=
  inferInstanceAs (Decidable (_ < _))

/-- A side is fixed, or its account is declared. -/
def Side.DeclaredIn (slots : NamedSlots) : Side → Prop
  | .account name => Declares slots name
  | .mint _ => True

/-- The declared slots are required and name the pool and its pair, and however
many accounts follow are taken. -/
structure SwapAccounts.WellFormed (layout : SwapAccounts) : Prop where
  required : layout.struct.AllRequired
  listed : layout.struct.layout.remaining ≠ none
  pool : Declares layout.struct.slots layout.pool
  one : layout.pair.1.DeclaredIn layout.struct.slots
  other : layout.pair.2.DeclaredIn layout.struct.slots

section Read

variable {layout : SwapAccounts} {keys : List Pubkey}

/-- The account of a declared slot, for a struct whose slots are known. -/
theorem account_eq_keyAt {struct : AccountsStruct} {slots : NamedSlots}
    {accounts : Accounts struct.layout} (slotsEq : struct.slots = slots)
    (required : ∀ slot ∈ slots, slot.2.optional = false)
    (read : struct.fromAccountKeys keys = .ok accounts) {name : AccountName}
    (declared : Declares slots name) :
    struct.account accounts name = keyAt slots keys name := by
  subst slotsEq
  exact AccountsStruct.account_eq read required declared

theorem Side.resolve_account {struct : AccountsStruct}
    {accounts : Accounts struct.layout} (required : struct.AllRequired)
    (read : struct.fromAccountKeys keys = .ok accounts) {side : Side}
    (declared : side.DeclaredIn struct.slots) :
    side.resolve (struct.account accounts) =
      side.resolve (keyAt struct.slots keys) := by
  cases side with
  | account name => exact AccountsStruct.account_eq read required declared
  | mint key => rfl

/-- A list with a key for every declared slot names a pool and its pair. -/
theorem SwapAccounts.read_eq (wellFormed : layout.WellFormed)
    (enough : layout.struct.slots.length ≤ keys.length) :
    layout.read keys =
      some (keyAt layout.struct.slots keys layout.pool,
        layout.pair.1.resolve (keyAt layout.struct.slots keys),
        layout.pair.2.resolve (keyAt layout.struct.slots keys)) := by
  obtain ⟨accounts, read⟩ :=
    AccountsStruct.exists_of_le wellFormed.listed enough
  have poolKey := AccountsStruct.account_eq read wellFormed.required wellFormed.pool
  have one := Side.resolve_account wellFormed.required read wellFormed.one
  have other := Side.resolve_account wellFormed.required read wellFormed.other
  rw [SwapAccounts.read, read]
  simp only [poolKey, one, other]
  rfl

theorem Discovery.read_eq {protocol : Protocol} {instruction : SwapInstruction}
    (wellFormed : layout.WellFormed)
    (enough : layout.struct.slots.length ≤ keys.length) :
    Discovery.read layout instruction keys protocol =
      .edge (.new (keyAt layout.struct.slots keys layout.pool) protocol
        (layout.pair.1.resolve (keyAt layout.struct.slots keys))
        (layout.pair.2.resolve (keyAt layout.struct.slots keys))) := by
  rw [Discovery.read, SwapAccounts.read_eq wellFormed enough]

end Read

theorem SwapAccounts.wellFormed_ofResolved {name : String} {program : Pubkey}
    {slots : NamedSlots} {derives : List (List (Option Pubkey) → Pubkey)}
    {poolName : AccountName} {pair : Side × Side}
    (required : ∀ slot ∈ slots, slot.2.optional = false)
    (poolDeclared : Declares slots poolName) (one : pair.1.DeclaredIn slots)
    (other : pair.2.DeclaredIn slots) :
    SwapAccounts.WellFormed
      ⟨.ofResolved name program slots derives, poolName, pair⟩ where
  required := required
  listed := by simp [AccountsStruct.ofResolved]
  pool := poolDeclared
  one := one
  other := other

/-- A swap on a pool of a pair. -/
structure Joins (swap : Swap) (protocol : Protocol) (pool one other : Pubkey) :
    Prop where
  protocol : swap.protocol = protocol
  pool : swap.pool = pool
  tokens : ({swap.tokenIn, swap.tokenOut} : Set Pubkey) = {one, other}

/-- What discovery found is the pool of the swap, under the same pair. -/
def Covers (discovery : Discovery) (swap : Swap) : Prop :=
  ∃ edge, discovery = .edge edge ∧ edge.pool = swap.pool ∧
    edge.protocol = swap.protocol ∧
      ({edge.tokenA, edge.tokenB} : Set Pubkey) = {swap.tokenIn, swap.tokenOut}

/-- A swap is covered by the edge of its pool and its pair. -/
theorem covers_edge_iff {swap : Swap} {protocol : Protocol}
    {pool one other : Pubkey} :
    Covers (.edge (.new pool protocol one other)) swap ↔
      Joins swap protocol pool one other := by
  constructor
  · rintro ⟨edge, edgeEq, samePool, sameProtocol, sameTokens⟩
    cases edgeEq
    rw [PoolEdge.new_pool] at samePool
    rw [PoolEdge.new_protocol] at sameProtocol
    rw [PoolEdge.new_tokens] at sameTokens
    exact ⟨sameProtocol.symm, samePool.symm, sameTokens.symm⟩
  · rintro ⟨sameProtocol, samePool, sameTokens⟩
    refine ⟨_, rfl, ?_, ?_, ?_⟩
    · rw [PoolEdge.new_pool, samePool]
    · rw [PoolEdge.new_protocol, sameProtocol]
    · rw [PoolEdge.new_tokens, sameTokens]

end Chain

theorem Chain.SwapInstruction.fromDiscriminator_append (protocol : Protocol)
    (head : Discriminator) (rest : Bytes) :
    fromDiscriminator protocol (head.toList ++ rest) =
      fromDiscriminator protocol head.toList := by
  have named (tail : Bytes) : firstChunk (head.toList ++ tail) = some head :=
    firstChunk_eq_some_iff.mpr (List.prefix_append _ _)
  have alone := named []
  rw [List.append_nil] at alone
  rw [fromDiscriminator, fromDiscriminator, named, alone]

theorem Chain.SwapInstruction.resolve_append (protocol : Protocol)
    (head : Discriminator) (rest : Bytes) :
    resolve protocol.programId (head.toList ++ rest) =
      fromDiscriminator protocol head.toList := by
  rw [resolve, Protocol.fromProgramId_programId]
  exact fromDiscriminator_append protocol head rest

/-- The data that decodes as a variant is catalogued by the discriminator of the
variant. -/
theorem Chain.SwapInstruction.resolve_of_decoded {Variant : Type}
    {enum : InstructionEnum Variant} {parsed : enum.Instruction}
    {ix : ParsedInstruction} {protocol : Protocol} {head : Discriminator}
    (distinct : Function.Injective enum.discriminator)
    (program : ix.programId = protocol.programId)
    (decoded : enum.tryFromSlice ix.data = .ok parsed)
    (headEq : parsed.discriminator.toList = head.toList) :
    resolve ix.programId ix.data = fromDiscriminator protocol head.toList := by
  obtain ⟨dataEq, -⟩ := (InstructionEnum.tryFromSlice_eq_ok_iff distinct).mp decoded
  rw [program, dataEq, headEq]
  exact resolve_append protocol head _

namespace Pumpfun

namespace SwapForm

/-- The catalogued instruction of a form. -/
def instruction : SwapForm → SwapInstruction
  | buy => .pumpfunBuy
  | buyExactSolIn => .pumpfunBuyExactSolIn
  | sell => .pumpfunSell
  | buyV2 => .pumpfunBuyV2
  | buyExactQuoteInV2 => .pumpfunBuyExactQuoteInV2
  | sellV2 => .pumpfunSellV2

/-- The layout that discovery reads for a form. -/
def layout (addresses : AddressDerivation) : SwapForm → Chain.SwapAccounts
  | buy => firstLayout (BuyAccounts addresses)
  | buyExactSolIn => firstLayout (BuyExactSolInAccounts addresses)
  | sell => firstLayout (SellAccounts addresses)
  | buyV2 => secondLayout (BuyV2Accounts addresses)
  | buyExactQuoteInV2 => secondLayout (BuyExactQuoteInV2Accounts addresses)
  | sellV2 => secondLayout (SellV2Accounts addresses)

/-- The slots that both readers read for a form. -/
def slots : SwapForm → NamedSlots
  | buy | buyExactSolIn => BuyAccounts.slots
  | sell => SellAccounts.slots
  | buyV2 | buyExactQuoteInV2 => BuyV2Accounts.slots
  | sellV2 => SellV2Accounts.slots

variable {addresses : AddressDerivation} {form : SwapForm} {ix : ParsedInstruction}

theorem slots_layout : (form.layout addresses).struct.slots = form.slots := by
  cases form <;> rfl

theorem slots_accounts : (form.accounts addresses).slots = form.slots := by
  cases form <;> rfl

theorem required_slots : ∀ slot ∈ form.slots, slot.2.optional = false := by
  cases form <;> decide

theorem layout_wellFormed : (form.layout addresses).WellFormed := by
  cases form with
  | buy | buyExactSolIn | sell =>
      exact SwapAccounts.wellFormed_ofResolved (by decide) (by decide)
        (show Declares _ _ by decide) trivial
  | buyV2 | buyExactQuoteInV2 | sellV2 =>
      exact SwapAccounts.wellFormed_ofResolved (by decide) (by decide)
        (show Declares _ _ by decide) (show Declares _ _ by decide)

theorem discover_of_resolve
    (resolved : SwapInstruction.resolve ix.programId ix.data = form.instruction) :
    discover addresses ix =
      .read (form.layout addresses) form.instruction ix.accounts .pumpfun := by
  rw [discover, resolved]
  cases form <;> rfl

theorem fromDiscriminator_of_variant {variant : PumpfunVariant}
    (formEq : SwapForm.ofVariant variant = some form) :
    SwapInstruction.fromDiscriminator .pumpfun
      (instructionDiscriminator variant).toList = form.instruction := by
  cases variant <;> cases formEq <;> decide

/-- The data that decodes as a form is catalogued as that form. -/
theorem resolve_of_decoded {utf8Error : Bytes → String}
    {parsed : (pumpfunInstruction utf8Error).Instruction}
    (program : ix.programId = programId)
    (decoded : (pumpfunInstruction utf8Error).tryFromSlice ix.data = .ok parsed)
    (formEq : SwapForm.ofVariant parsed.variant = some form) :
    SwapInstruction.resolve ix.programId ix.data = form.instruction := by
  exact (@SwapInstruction.resolve_of_decoded _ _ _ _ .pumpfun _
    instructionDiscriminator_injective program decoded rfl).trans
      (fromDiscriminator_of_variant formEq)

/-- The quote of a form, as discovery reads it. -/
def quote (form : SwapForm) (keys : List Pubkey) : Pubkey :=
  if form.isSecond then keyAt form.slots keys .quoteMint else wsol

/-- A form with a key for every declared slot is an edge. -/
theorem discover_eq
    (resolved : SwapInstruction.resolve ix.programId ix.data = form.instruction)
    (enough : form.slots.length ≤ ix.accounts.length) :
    discover addresses ix =
      .edge (.new (keyAt form.slots ix.accounts .bondingCurve) .pumpfun
        (keyAt form.slots ix.accounts form.mintName) (form.quote ix.accounts)) := by
  rw [← @slots_layout addresses] at enough
  rw [discover_of_resolve resolved, Discovery.read_eq layout_wellFormed enough,
    slots_layout]
  cases form <;> rfl

end SwapForm

section Extract

variable {utf8Error : Bytes → String} {addresses : AddressDerivation}
  {form : SwapForm}
  {build : TradeEvent → ParsedInstruction → Except ExtractError Swap}
  {ix : ParsedInstruction} {all : List ParsedInstruction} {swap : Swap}

/-- A swap on the curve of an instruction's accounts, between the mint and
SOL. -/
structure SwapForm.Trades (form : SwapForm) (ix : ParsedInstruction) (swap : Swap) :
    Prop where
  enough : form.slots.length ≤ ix.accounts.length
  joins : Joins swap .pumpfun (keyAt form.slots ix.accounts .bondingCurve)
    (keyAt form.slots ix.accounts form.mintName) wsol

theorem joins_swapFrom {identity : SwapIdentity} {event : TradeEvent}
    {trackVolume : OptionBool} :
    Joins (swapFrom identity event ix trackVolume) .pumpfun identity.pool
      identity.mint wsol where
  protocol := rfl
  pool := rfl
  tokens := by
    simp only [swapFrom]
    split
    · exact Set.pair_comm wsol identity.mint
    · rfl

theorem SwapForm.account_eq {name : AccountName}
    {accounts : Accounts (form.accounts addresses).layout}
    (read : (form.accounts addresses).fromAccountKeys ix.accounts = .ok accounts)
    (declared : Declares form.slots name) :
    (form.accounts addresses).account accounts name =
      keyAt form.slots ix.accounts name :=
  account_eq_keyAt slots_accounts required_slots read declared

theorem SwapForm.enough_of_read
    {accounts : Accounts (form.accounts addresses).layout}
    (read : (form.accounts addresses).fromAccountKeys ix.accounts = .ok accounts) :
    form.slots.length ≤ ix.accounts.length := by
  rw [← @slots_accounts addresses]
  exact AccountsStruct.length_le_of_fromAccountKeys read

theorem SwapForm.declares_bondingCurve : Declares form.slots .bondingCurve := by
  cases form <;> decide

theorem SwapForm.declares_mintName : Declares form.slots form.mintName := by
  cases form <;> decide

theorem trades_of_swapVia
    (trades : ∀ event built, build event ix = .ok built → form.Trades ix built)
    (via : swapVia utf8Error build ix all = .ok (some swap)) :
    form.Trades ix swap := by
  obtain ⟨event, built, completed, -, builtEq, -, rfl⟩ :=
    swapVia_eq_some_iff.mp via
  obtain ⟨enough, joins⟩ := trades event built builtEq
  exact ⟨enough, joins.protocol, joins.pool, joins.tokens⟩

theorem trades_of_first (first : form.isSecond = false) {trackVolume : OptionBool}
    (via : swapVia utf8Error build ix all = .ok (some swap))
    (buildEq : ∀ event ix, build event ix = do
      let identity ← identityFromV1 (form.accounts addresses) ix
      corroborate "mint" event.mint identity.mint
      return swapFrom identity event ix trackVolume) :
    form.Trades ix swap := by
  refine trades_of_swapVia (fun event swap built => ?_) via
  simp only [buildEq, identityFromV1, bind_eq_ok_iff, readAccounts_eq_ok_iff,
    corroborate_eq_ok_iff, pure, Except.pure, Except.ok.injEq] at built
  obtain ⟨_, ⟨accounts, read, rfl⟩, _, -, rfl⟩ := built
  have name : form.mintName = .mint := by
    simp only [SwapForm.mintName, first, Bool.false_eq_true, if_false]
  refine ⟨SwapForm.enough_of_read read, ?_⟩
  rw [← SwapForm.account_eq read SwapForm.declares_bondingCurve,
    ← SwapForm.account_eq read SwapForm.declares_mintName, name]
  exact joins_swapFrom

theorem trades_of_second (second : form.isSecond = true) {trackVolume : OptionBool}
    (via : swapVia utf8Error build ix all = .ok (some swap))
    (buildEq : ∀ event ix, build event ix = do
      let accounts ← readAccounts (form.accounts addresses) ix
      let identity ← identityFromV2 addresses _ accounts event
      return swapFrom identity event ix trackVolume) :
    form.Trades ix swap := by
  refine trades_of_swapVia (fun event swap built => ?_) via
  simp only [buildEq, identityFromV2, bind_eq_ok_iff, readAccounts_eq_ok_iff,
    corroborate_eq_ok_iff, pure, Except.pure, Except.ok.injEq] at built
  obtain ⟨accounts, read, _, ⟨_, mintEq, _, -, _, -, rfl⟩, rfl⟩ := built
  have name : form.mintName = .baseMint := by
    simp only [SwapForm.mintName, second, if_true]
  refine ⟨SwapForm.enough_of_read read, ?_⟩
  rw [← SwapForm.account_eq read SwapForm.declares_bondingCurve,
    ← SwapForm.account_eq read SwapForm.declares_mintName, name, ← mintEq]
  exact joins_swapFrom

/-- A decoded instruction that gives a swap is a form, and the swap is its
trade. -/
theorem exists_form_of_swapOf {parsed : (pumpfunInstruction utf8Error).Instruction}
    (given : swapOf utf8Error addresses ix all parsed = .ok (some swap)) :
    ∃ form, SwapForm.ofVariant parsed.variant = some form ∧ form.Trades ix swap := by
  obtain ⟨variant, params⟩ := parsed
  cases variant with
  | buy => exact ⟨.buy, rfl, trades_of_first rfl given fun _ _ => rfl⟩
  | buyExactSolIn =>
      exact ⟨.buyExactSolIn, rfl, trades_of_first rfl given fun _ _ => rfl⟩
  | sell => exact ⟨.sell, rfl, trades_of_first rfl given fun _ _ => rfl⟩
  | buyV2 => exact ⟨.buyV2, rfl, trades_of_second rfl given fun _ _ => rfl⟩
  | buyExactQuoteInV2 =>
      exact ⟨.buyExactQuoteInV2, rfl, trades_of_second rfl given fun _ _ => rfl⟩
  | sellV2 => exact ⟨.sellV2, rfl, trades_of_second rfl given fun _ _ => rfl⟩
  | _ => cases (swapOf_of_other rfl).symm.trans given

theorem exists_form_of_extract
    (recorded : extract utf8Error addresses ix all = some swap) :
    ∃ parsed form, (pumpfunInstruction utf8Error).tryFromSlice ix.data = .ok parsed ∧
      SwapForm.ofVariant parsed.variant = some form ∧ form.Trades ix swap := by
  have given := extract_eq_some_iff.mp recorded
  rw [tryExtract] at given
  split at given
  · cases given
  split at given
  next => cases given
  next parsed decoded =>
    obtain ⟨form, formEq, trades⟩ := exists_form_of_swapOf given
    exact ⟨parsed, form, decoded, formEq, trades⟩

/-- A swap of a form is covered exactly when it was quoted in SOL. -/
theorem SwapForm.Trades.covers_iff (trades : form.Trades ix swap)
    (resolved : SwapInstruction.resolve ix.programId ix.data = form.instruction) :
    Covers (discover addresses ix) swap ↔ form.quote ix.accounts = wsol := by
  rw [SwapForm.discover_eq resolved trades.enough, covers_edge_iff]
  constructor
  · intro joins
    have same := joins.tokens.symm.trans trades.joins.tokens
    rcases Set.pair_eq_pair_iff.mp same with ⟨-, quoteEq⟩ | ⟨mintEq, quoteEq⟩
    · exact quoteEq
    · rw [quoteEq, mintEq]
  · intro quoteEq
    rw [quoteEq]
    exact trades.joins

end Extract

end Pumpfun

namespace PumpSwap

/-- The swap instructions. -/
inductive SwapForm
  | buy
  | buyExactQuoteIn
  | sell
deriving DecidableEq, Repr

namespace SwapForm

def ofVariant : PumpSwapVariant → Option SwapForm
  | .buy => some buy
  | .buyExactQuoteIn => some buyExactQuoteIn
  | .sell => some sell
  | _ => none

/-- The catalogued instruction of a form. -/
def instruction : SwapForm → SwapInstruction
  | buy => .pumpSwapBuy
  | buyExactQuoteIn => .pumpSwapBuyExactQuoteIn
  | sell => .pumpSwapSell

/-- The struct that extraction reads for a form. -/
def accounts (addresses : AddressDerivation) : SwapForm → AccountsStruct
  | buy | buyExactQuoteIn => BuyAccounts addresses
  | sell => SellAccounts addresses

/-- The layout that discovery reads for a form. -/
def layout (addresses : AddressDerivation) : SwapForm → Chain.SwapAccounts
  | buy => poolLayout (BuyAccounts addresses)
  | buyExactQuoteIn => poolLayout (BuyExactQuoteInAccounts addresses)
  | sell => poolLayout (SellAccounts addresses)

/-- The slots that both readers read for a form. -/
def slots : SwapForm → NamedSlots
  | buy | buyExactQuoteIn => BuyAccounts.slots
  | sell => SellAccounts.slots

variable {addresses : AddressDerivation} {form : SwapForm} {ix : ParsedInstruction}

theorem slots_layout : (form.layout addresses).struct.slots = form.slots := by
  cases form <;> rfl

theorem slots_accounts : (form.accounts addresses).slots = form.slots := by
  cases form <;> rfl

theorem required_slots : ∀ slot ∈ form.slots, slot.2.optional = false := by
  cases form <;> decide

theorem layout_wellFormed : (form.layout addresses).WellFormed := by
  cases form <;>
    exact SwapAccounts.wellFormed_ofResolved (by decide) (by decide)
      (show Declares _ _ by decide) (show Declares _ _ by decide)

theorem discover_of_resolve
    (resolved : SwapInstruction.resolve ix.programId ix.data = form.instruction) :
    discover addresses ix =
      .read (form.layout addresses) form.instruction ix.accounts .pumpSwap := by
  rw [discover, resolved]
  cases form <;> rfl

theorem fromDiscriminator_of_variant {variant : PumpSwapVariant}
    (formEq : SwapForm.ofVariant variant = some form) :
    SwapInstruction.fromDiscriminator .pumpSwap
      (instructionDiscriminator variant).toList = form.instruction := by
  cases variant <;> cases formEq <;> decide

/-- The data that decodes as a form is catalogued as that form. -/
theorem resolve_of_decoded {parsed : pumpSwapInstruction.Instruction}
    (program : ix.programId = programId)
    (decoded : pumpSwapInstruction.tryFromSlice ix.data = .ok parsed)
    (formEq : SwapForm.ofVariant parsed.variant = some form) :
    SwapInstruction.resolve ix.programId ix.data = form.instruction := by
  exact (@SwapInstruction.resolve_of_decoded _ _ _ _ .pumpSwap _
    instructionDiscriminator_injective program decoded rfl).trans
      (fromDiscriminator_of_variant formEq)

/-- A form with a key for every declared slot is an edge. -/
theorem discover_eq
    (resolved : SwapInstruction.resolve ix.programId ix.data = form.instruction)
    (enough : form.slots.length ≤ ix.accounts.length) :
    discover addresses ix =
      .edge (.new (keyAt form.slots ix.accounts .pool) .pumpSwap
        (keyAt form.slots ix.accounts .baseMint)
        (keyAt form.slots ix.accounts .quoteMint)) := by
  rw [← @slots_layout addresses] at enough
  rw [discover_of_resolve resolved, Discovery.read_eq layout_wellFormed enough,
    slots_layout]
  cases form <;> rfl

end SwapForm

section Extract

variable {utf8Error : Bytes → String} {addresses : AddressDerivation}
  {form : SwapForm} {ix : ParsedInstruction} {all : List ParsedInstruction}
  {swap : Swap}

/-- A swap on the pool of an instruction's accounts, between its mints. -/
structure SwapForm.Trades (form : SwapForm) (ix : ParsedInstruction) (swap : Swap) :
    Prop where
  enough : form.slots.length ≤ ix.accounts.length
  joins : Joins swap .pumpSwap (keyAt form.slots ix.accounts .pool)
    (keyAt form.slots ix.accounts .baseMint)
    (keyAt form.slots ix.accounts .quoteMint)

theorem SwapForm.account_eq {name : AccountName}
    {accounts : Accounts (form.accounts addresses).layout}
    (read : (form.accounts addresses).fromAccountKeys ix.accounts = .ok accounts)
    (declared : Declares form.slots name) :
    (form.accounts addresses).account accounts name =
      keyAt form.slots ix.accounts name :=
  account_eq_keyAt slots_accounts required_slots read declared

/-- A swap that joins the accounts' mints is the form's trade. -/
theorem SwapForm.trades_of_read
    {accounts : Accounts (form.accounts addresses).layout}
    (read : (form.accounts addresses).fromAccountKeys ix.accounts = .ok accounts)
    (joins : Joins swap .pumpSwap ((form.accounts addresses).account accounts .pool)
      ((form.accounts addresses).account accounts .baseMint)
      ((form.accounts addresses).account accounts .quoteMint)) :
    form.Trades ix swap := by
  have enough : form.slots.length ≤ ix.accounts.length := by
    rw [← @slots_accounts addresses]
    exact AccountsStruct.length_le_of_fromAccountKeys read
  have poolDeclared : Declares form.slots .pool := by cases form <;> decide
  have baseDeclared : Declares form.slots .baseMint := by cases form <;> decide
  have quoteDeclared : Declares form.slots .quoteMint := by cases form <;> decide
  rw [account_eq read poolDeclared, account_eq read baseDeclared,
    account_eq read quoteDeclared] at joins
  exact ⟨enough, joins⟩

theorem trades_of_buySwap (form : SwapForm)
    (structEq : form.accounts addresses = BuyAccounts addresses) {event : BuyEvent}
    {trackVolume : OptionBool}
    (built : buySwap addresses event ix trackVolume = .ok swap) :
    form.Trades ix swap := by
  simp only [buySwap, bind_eq_ok_iff, readAccounts_eq_ok_iff,
    corroborate_eq_ok_iff, pure, Except.pure, Except.ok.injEq] at built
  rw [← structEq] at built
  obtain ⟨accounts, read, _, -, rfl⟩ := built
  exact SwapForm.trades_of_read read ⟨rfl, rfl, Set.pair_comm _ _⟩

theorem trades_of_sell {event : SellEvent}
    (built : SellParams.swap addresses event ix = .ok swap) :
    SwapForm.sell.Trades ix swap := by
  simp only [SellParams.swap, bind_eq_ok_iff, readAccounts_eq_ok_iff,
    corroborate_eq_ok_iff, pure, Except.pure, Except.ok.injEq] at built
  obtain ⟨accounts, read, _, -, rfl⟩ := built
  exact @SwapForm.trades_of_read addresses .sell ix _ accounts read ⟨rfl, rfl, rfl⟩

theorem exists_form_of_swapOf {parsed : pumpSwapInstruction.Instruction}
    (given : swapOf utf8Error addresses ix all parsed = .ok (some swap)) :
    ∃ form, SwapForm.ofVariant parsed.variant = some form ∧ form.Trades ix swap := by
  obtain ⟨variant, params⟩ := parsed
  cases variant with
  | buy =>
      obtain ⟨event, -, built⟩ := swapVia_eq_some_iff.mp given
      exact ⟨.buy, rfl, trades_of_buySwap .buy rfl built⟩
  | buyExactQuoteIn =>
      obtain ⟨event, -, built⟩ := swapVia_eq_some_iff.mp given
      exact ⟨.buyExactQuoteIn, rfl, trades_of_buySwap .buyExactQuoteIn rfl built⟩
  | sell =>
      obtain ⟨event, -, built⟩ := swapVia_eq_some_iff.mp given
      exact ⟨.sell, rfl, trades_of_sell built⟩
  | _ => cases given

theorem exists_form_of_extract
    (recorded : extract utf8Error addresses ix all = some swap) :
    ∃ parsed form, pumpSwapInstruction.tryFromSlice ix.data = .ok parsed ∧
      SwapForm.ofVariant parsed.variant = some form ∧ form.Trades ix swap := by
  have given := extract_eq_some_iff.mp recorded
  rw [tryExtract] at given
  split at given
  · cases given
  split at given
  next => cases given
  next parsed decoded =>
    obtain ⟨form, formEq, trades⟩ := exists_form_of_swapOf given
    exact ⟨parsed, form, decoded, formEq, trades⟩

theorem covers_of_extract (program : ix.programId = programId)
    (recorded : extract utf8Error addresses ix all = some swap) :
    Covers (discover addresses ix) swap := by
  obtain ⟨parsed, form, decoded, formEq, trades⟩ := exists_form_of_extract recorded
  have resolved := SwapForm.resolve_of_decoded program decoded formEq
  rw [SwapForm.discover_eq resolved trades.enough, covers_edge_iff]
  exact trades.joins

end Extract

end PumpSwap

section Coverage

variable (utf8Error : Bytes → String) (addresses : AddressDerivation)
  (ix : ParsedInstruction) (all : List ParsedInstruction)

/-- Discovery covers whatever swap the extractor of the instruction's program
records. -/
structure CoversExtraction : Prop where
  pumpfun : ix.programId = Pumpfun.programId → ∀ swap,
    Pumpfun.extract utf8Error addresses ix all = some swap →
      Covers (discover addresses ix) swap
  pumpSwap : ix.programId = PumpSwap.programId → ∀ swap,
    PumpSwap.extract utf8Error addresses ix all = some swap →
      Covers (discover addresses ix) swap

/-- A second form of pumpfun, if its accounts and its events are readable and do
not contradict each other, names SOL in its quote slot. -/
def QuotesSol : Prop :=
  ix.programId = Pumpfun.programId → ∀ form : Pumpfun.SwapForm,
    SwapInstruction.resolve ix.programId ix.data = form.instruction →
      form.isSecond = true → ∀ read,
        Pumpfun.reading utf8Error addresses ix all = some read →
          read.ComparedAgree → Pumpfun.CompletesReadably ix all →
            keyAt form.slots ix.accounts .quoteMint = wsol

variable {utf8Error} {addresses} {ix} {all}

theorem Pumpfun.SwapForm.instruction_injective :
    Function.Injective Pumpfun.SwapForm.instruction := by
  intro first second same
  cases first <;> cases second <;> first | rfl | cases same

theorem quotesSol_of_coversExtraction
    (covers : CoversExtraction utf8Error addresses ix all) :
    QuotesSol utf8Error addresses ix all := by
  intro program form resolved second read readEq agree completes
  obtain ⟨swap, recorded⟩ := (Pumpfun.explains utf8Error addresses ix all).complete
    read readEq agree completes
  obtain ⟨parsed, form', decoded, formEq, trades⟩ :=
    Pumpfun.exists_form_of_extract recorded
  have resolved' := Pumpfun.SwapForm.resolve_of_decoded program decoded formEq
  obtain rfl : form = form' :=
    Pumpfun.SwapForm.instruction_injective (resolved.symm.trans resolved')
  have quoteEq := (trades.covers_iff resolved).mp
    (covers.pumpfun program swap recorded)
  rwa [Pumpfun.SwapForm.quote, if_pos second] at quoteEq

theorem coversExtraction_of_quotesSol
    (quotesSol : QuotesSol utf8Error addresses ix all) :
    CoversExtraction utf8Error addresses ix all where
  pumpfun program swap recorded := by
    obtain ⟨parsed, form, decoded, formEq, trades⟩ :=
      Pumpfun.exists_form_of_extract recorded
    have resolved := Pumpfun.SwapForm.resolve_of_decoded program decoded formEq
    refine (trades.covers_iff resolved).mpr ?_
    rw [Pumpfun.SwapForm.quote]
    split
    next second =>
      obtain ⟨completes, read, readEq, agree, -⟩ :=
        (Pumpfun.explains utf8Error addresses ix all).sound swap recorded
      exact quotesSol program form resolved second read readEq agree completes
    next => rfl
  pumpSwap program _ recorded := PumpSwap.covers_of_extract program recorded

/-- Discovery covers extraction exactly when the second forms that are recorded
are quoted in SOL. -/
theorem coversExtraction_iff (utf8Error : Bytes → String)
    (addresses : AddressDerivation) (ix : ParsedInstruction)
    (all : List ParsedInstruction) :
    CoversExtraction utf8Error addresses ix all ↔
      QuotesSol utf8Error addresses ix all :=
  ⟨quotesSol_of_coversExtraction, coversExtraction_of_quotesSol⟩

end Coverage

namespace Pumpfun

/-- A sell of ten tokens. -/
def plainSellV2 : (pumpfunInstruction plainExternals.utf8Error).Instruction where
  variant := .sellV2
  params := SellV2Params.mk 10 0

def sellV2Data : Bytes :=
  plainSellV2.discriminator.toList ++ plainSellV2.arguments

/-- The wallet `99` sells tokens of the mint `2`, whose curve is quoted in the
mint `7`. -/
def sellV2Instruction (addresses : AddressDerivation) : ParsedInstruction where
  programId := programId
  accounts := [0, 2, 7, 3, 4, 5, 6, 8, 9, 10, deriveBondingCurvePda addresses 2,
    11, 12, 99, 13, 14, 15, 16, 17, 18, 19, 20, 21, 22, 23, 24]
  data := sellV2Data
  logs := []
  stackHeight := 1
  parentIndex := none
  instructionIndex := 0

theorem childrenOn_sellV2Instruction (addresses : AddressDerivation) :
    childrenOn (sellV2Instruction addresses)
      [sellV2Instruction addresses, otherTraderInstruction] programId =
        [otherTraderInstruction] :=
  rfl

theorem completesReadably_sellV2Instruction (addresses : AddressDerivation) :
    CompletesReadably (sellV2Instruction addresses)
      [sellV2Instruction addresses, otherTraderInstruction] := by
  refine ⟨none, optionalChildEvent_eq_none ?_ rfl⟩
  have other : eventBody otherTraderInstruction.data
      completeEvent.discriminator = none :=
    eventBody_of_ne (by decide)
  rw [childrenOn_sellV2Instruction, fromChildren,
    ProtocolEvent.fromEventInstruction, other]
  rfl

theorem childEvent_sellV2Instruction (addresses : AddressDerivation) :
    childEvent (tradeEvent plainExternals.utf8Error) (sellV2Instruction addresses)
      [sellV2Instruction addresses, otherTraderInstruction] programId =
        .ok otherTraderEvent := by
  have strict : (tradeEvent plainExternals.utf8Error).tryFromSlice =
      (TradeEvent.fields plainExternals.utf8Error).tryFromSlice := rfl
  refine childEvent_of_children (childrenOn_sellV2Instruction addresses) rfl ?_
  rw [ProtocolEvent.fromEventBody_eq_ok_iff, strict,
    PrefixCodec.tryFromSlice_eq_ok_iff]

/-- The swap of a curve that is quoted in another mint is recorded against SOL,
so whatever the addresses are, discovery does not cover it. -/
theorem not_coversExtraction_sellV2Instruction :
    ¬ ∃ addresses, ∀ utf8Error all, ∀ ix ∈ all,
      CoversExtraction utf8Error addresses ix all := by
  rintro ⟨addresses, claimed⟩
  have quotesSol := (coversExtraction_iff _ _ _ _).mp (claimed plainExternals.utf8Error
    [sellV2Instruction addresses, otherTraderInstruction]
    (sellV2Instruction addresses) List.mem_cons_self)
  have decoded : (pumpfunInstruction plainExternals.utf8Error).tryFromSlice
      (sellV2Instruction addresses).data = .ok plainSellV2 :=
    (InstructionEnum.tryFromSlice_eq_ok_iff
      instructionDiscriminator_injective).mpr ⟨rfl, trivial⟩
  have untagged : ¬ hasEventTag sellV2Data = true := by decide
  have resolved := @SwapForm.resolve_of_decoded .sellV2
    (sellV2Instruction addresses) _ _ rfl decoded rfl
  obtain ⟨accounts, read⟩ : ∃ accounts,
      (SellV2Accounts addresses).fromAccountKeys
        (sellV2Instruction addresses).accounts = .ok accounts :=
    AccountsStruct.exists_of_length rfl
  have account (name : AccountName) (declared : Declares SellV2Accounts.slots name) :
      (SellV2Accounts addresses).account accounts name =
        keyAt SellV2Accounts.slots (sellV2Instruction addresses).accounts name :=
    @SwapForm.account_eq addresses .sellV2 _ name accounts read declared
  have agree : (SwapForm.sellV2.reading addresses _ accounts
      otherTraderEvent).ComparedAgree := by
    rw [SwapForm.comparedAgree_of_second rfl]
    exact ⟨(account .baseMint (by decide)).symm,
      (account .bondingCurve (by decide)).symm, (account .user (by decide)).symm⟩
  have readEq : reading plainExternals.utf8Error addresses
      (sellV2Instruction addresses)
        [sellV2Instruction addresses, otherTraderInstruction] =
          some (SwapForm.sellV2.reading addresses _ accounts otherTraderEvent) := by
    refine (reading_of_form untagged decoded rfl).trans ?_
    exact readBoth_eq_some_iff.mpr
      ⟨_, accounts, childEvent_sellV2Instruction addresses, read, rfl⟩
  have quoted : (7 : Pubkey) = wsol := quotesSol rfl .sellV2 resolved rfl _ readEq
    agree (completesReadably_sellV2Instruction addresses)
  exact absurd quoted (by decide)

end Pumpfun

end SolanaProtocols
