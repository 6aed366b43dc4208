import SolanaProtocols.ChainEvents
import SolanaProtocols.ExtractTransaction
import SolanaProtocols.MachineArithmetic

/-!
# Extracting chain events

The whole extractors: each variant of an instruction declares what it records, and
an instruction that should have recorded something and did not is a failure.  Only
the fees of a PumpSwap swap are added with plain operators, and a build that stops
at overflows can panic there.
-/

namespace SolanaProtocols

open Parsing Chain Protocols
open MachineArithmetic (Build add_eq add_lt_of_panics add_mod)
open Pumpfun (U64)

namespace Chain

section Read

variable {A : Type} (name : String)

/-- Read an accounts struct off an instruction. -/
def readFixed (struct : FixedAccounts A) (ix : ParsedInstruction) :
    Except ExtractError A :=
  (struct.fromAccountKeys ix.accounts).mapError (.accountLayout name)

def readOpen (struct : OpenAccounts A) (ix : ParsedInstruction) :
    Except ExtractError (Opened A) :=
  (struct.fromAccountKeys ix.accounts).mapError (.accountLayout name)

variable {name} {ix : ParsedInstruction}

@[simp] theorem readFixed_eq_ok_iff {struct : FixedAccounts A} {accounts : A} :
    readFixed name struct ix = .ok accounts ↔ ix.accounts = struct.keys accounts := by
  rw [← FixedAccounts.fromAccountKeys_eq_ok_iff, readFixed]
  cases struct.fromAccountKeys ix.accounts <;> simp [Except.mapError]

@[simp] theorem readOpen_eq_ok_iff {struct : OpenAccounts A} {accounts : Opened A} :
    readOpen name struct ix = .ok accounts ↔
      struct.fromAccountKeys ix.accounts = .ok accounts := by
  rw [readOpen]
  cases struct.fromAccountKeys ix.accounts <;> simp [Except.mapError]

end Read

/-- What an extractor returns. -/
abbrev Extracted := Except ExtractError (Option ChainEvent)

/-- Wrap the swap that an instruction records. -/
def recordSwap (swap : Except ExtractError (Option Swap)) : Extracted :=
  swap.map (Option.map .swap)

/-- Resolve an instruction's event, then let it build what it records. -/
def eventVia {Event : Type} (event : ProtocolEvent Event) (program : Pubkey)
    (build : Event → ParsedInstruction → Except ExtractError ChainEvent)
    (ix : ParsedInstruction) (all : List ParsedInstruction) : Extracted := do
  let found ← childEvent event ix all program
  let record ← build found ix
  return some record

/-- What becomes of an instruction: it records an event, it is reported as a
failure or as one that does not decode, or it records nothing. -/
inductive ExtractOutcome
  | recorded (event : ChainEvent)
  | failed (protocol : Protocol) (err : ExtractError)
  | undecoded
  | nothing

namespace ExtractOutcome

def event : ExtractOutcome → Option ChainEvent
  | recorded event => some event
  | _ => none

def ofExtracted (protocol : Protocol) : Extracted → ExtractOutcome
  | .ok (some event) => recorded event
  | .ok none => nothing
  | .error err => failed protocol err

def ofOption : Option ChainEvent → ExtractOutcome
  | some event => recorded event
  | none => nothing

@[simp] theorem event_ofOption (event : Option ChainEvent) :
    (ofOption event).event = event := by
  cases event <;> rfl

theorem event_ofExtracted_eq_some_iff {protocol : Protocol} {extracted : Extracted}
    {record : ChainEvent} :
    (ofExtracted protocol extracted).event = some record ↔
      extracted = .ok (some record) := by
  rcases extracted with err | _ | other <;> simp [ofExtracted, event]

end ExtractOutcome

section Via

variable {Event : Type} {event : ProtocolEvent Event} {program : Pubkey}
  {build : Event → ParsedInstruction → Except ExtractError ChainEvent}
  {ix : ParsedInstruction} {all : List ParsedInstruction} {record : ChainEvent}

theorem eventVia_eq_ok_iff :
    eventVia event program build ix all = .ok (some record) ↔ ∃ found,
      childEvent event ix all program = .ok found ∧ build found ix = .ok record := by
  simp [eventVia, bind_eq_ok_iff, pure, Except.pure]

theorem recordSwap_eq_ok_iff {swap : Except ExtractError (Option Swap)} :
    recordSwap swap = .ok (some record) ↔
      ∃ recorded, swap = .ok (some recorded) ∧ .swap recorded = record := by
  rcases swap with err | _ | recorded <;> simp [recordSwap, Except.map]

end Via

end Chain

namespace Pumpfun

section Records

def CompletePumpAmmMigrationEvent.migration (event : CompletePumpAmmMigrationEvent) :
    Migration where
  fromProtocol := .pumpfun
  toProtocol := .pumpSwap
  mint := event.mint
  fromPool := event.bondingCurve
  toPool := event.pool
  migratedSol := event.solAmount
  migratedTokens := event.mintAmount

/-- Graduation, from the side of the curve. -/
def migrationFrom (mint bondingCurve pool : Pubkey)
    (event : CompletePumpAmmMigrationEvent) : Except ExtractError Migration := do
  corroborate "mint" event.mint mint
  corroborate "bonding_curve" event.bondingCurve bondingCurve
  corroborate "pool" event.pool pool
  return event.migration

def MigrateParams.migration (event : CompletePumpAmmMigrationEvent)
    (ix : ParsedInstruction) : Except ExtractError ChainEvent := do
  let accounts ← readOpen "MigrateAccounts" MigrateAccounts.struct ix
  let migration ← migrationFrom accounts.declared.mint accounts.declared.bondingCurve
    accounts.declared.pool event
  return .migration migration

def MigrateV2Params.migration (event : CompletePumpAmmMigrationEvent)
    (ix : ParsedInstruction) : Except ExtractError ChainEvent := do
  let accounts ← readOpen "MigrateV2Accounts" MigrateV2Accounts.struct ix
  let migration ← migrationFrom accounts.declared.baseMint
    accounts.declared.bondingCurve accounts.declared.pool event
  return .migration migration

/-- A creation, with what the event says was minted and where the curve started. -/
def creationOf (mint pool creator : Pubkey) (name symbol uri : PrefixCodec.CountedString)
    (event : Option CreateEvent) : TokenCreation where
  protocol := .pumpfun
  mint := mint
  pool := pool
  creator := creator
  name := name
  symbol := symbol
  uri := uri
  tokenTotalSupply := event.map CreateEvent.tokenTotalSupply
  initialVirtualTokenReserves := event.map CreateEvent.virtualTokenReserves
  initialVirtualSolReserves := event.map CreateEvent.virtualSolReserves

def CreateParams.creation (params : CreateParams) (event : Option CreateEvent)
    (ix : ParsedInstruction) : Except ExtractError TokenCreation := do
  let accounts ← readFixed "CreateAccounts" CreateAccounts.struct ix
  return creationOf accounts.mint accounts.bondingCurve accounts.user params.name
    params.symbol params.uri event

/-- The explicit creator is preferred over the signer where it is populated. -/
def CreateV2Params.creation (params : CreateV2Params) (event : Option CreateEvent)
    (ix : ParsedInstruction) : Except ExtractError TokenCreation := do
  let accounts ← readOpen "CreateV2Accounts" CreateV2Accounts.struct ix
  let creator := if params.creator = 0 then accounts.declared.user else params.creator
  return creationOf accounts.declared.mint accounts.declared.bondingCurve creator
    params.name params.symbol params.uri event

/-- The vault accrues across every coin of the creator, so no mint is named. -/
def collected (event : CollectCreatorFeeEvent) : CreatorFee where
  protocol := .pumpfun
  payout := .direct event.creator
  amount := event.creatorFee
  quoteMint := event.quoteMint
  mint := none
  timestamp := event.timestamp

def distributed (event : DistributeCreatorFeesEvent) : CreatorFee where
  protocol := .pumpfun
  payout := .shared event.bondingCurve event.sharingConfig event.admin
    event.shareholders
  amount := event.distributed
  quoteMint := event.quoteMint
  mint := some event.mint
  timestamp := event.timestamp

/-- The event and the accounts name the same graduation. -/
theorem migrationFrom_eq_ok_iff {mint bondingCurve pool : Pubkey}
    {event : CompletePumpAmmMigrationEvent} {migration : Migration} :
    migrationFrom mint bondingCurve pool event = .ok migration ↔
      (event.mint = mint ∧ event.bondingCurve = bondingCurve ∧ event.pool = pool) ∧
        event.migration = migration := by
  simp [migrationFrom, bind_eq_ok_iff, pure, Except.pure, and_assoc]

variable {ix : ParsedInstruction} {record : ChainEvent} {creation : TokenCreation}

theorem MigrateParams.migration_eq_ok_iff {event : CompletePumpAmmMigrationEvent} :
    MigrateParams.migration event ix = .ok record ↔ ∃ accounts,
      MigrateAccounts.struct.fromAccountKeys ix.accounts = .ok accounts ∧
        (event.mint = accounts.declared.mint ∧
          event.bondingCurve = accounts.declared.bondingCurve ∧
            event.pool = accounts.declared.pool) ∧
          .migration event.migration = record := by
  simp [MigrateParams.migration, bind_eq_ok_iff, migrationFrom_eq_ok_iff, pure,
    Except.pure]

theorem MigrateV2Params.migration_eq_ok_iff {event : CompletePumpAmmMigrationEvent} :
    MigrateV2Params.migration event ix = .ok record ↔ ∃ accounts,
      MigrateV2Accounts.struct.fromAccountKeys ix.accounts = .ok accounts ∧
        (event.mint = accounts.declared.baseMint ∧
          event.bondingCurve = accounts.declared.bondingCurve ∧
            event.pool = accounts.declared.pool) ∧
          .migration event.migration = record := by
  simp [MigrateV2Params.migration, bind_eq_ok_iff, migrationFrom_eq_ok_iff, pure,
    Except.pure]

theorem CreateParams.creation_eq_ok_iff {params : CreateParams}
    {event : Option CreateEvent} :
    params.creation event ix = .ok creation ↔ ∃ accounts,
      ix.accounts = CreateAccounts.struct.keys accounts ∧
        creationOf accounts.mint accounts.bondingCurve accounts.user params.name
          params.symbol params.uri event = creation := by
  simp [CreateParams.creation, bind_eq_ok_iff, pure, Except.pure]

theorem CreateV2Params.creation_eq_ok_iff {params : CreateV2Params}
    {event : Option CreateEvent} :
    params.creation event ix = .ok creation ↔ ∃ accounts,
      CreateV2Accounts.struct.fromAccountKeys ix.accounts = .ok accounts ∧
        creationOf accounts.declared.mint accounts.declared.bondingCurve
          (if params.creator = 0 then accounts.declared.user else params.creator)
          params.name params.symbol params.uri event = creation := by
  simp [CreateV2Params.creation, bind_eq_ok_iff, pure, Except.pure]

end Records

section Extract

variable (utf8Error : Bytes → String) (addresses : AddressDerivation)
  (ix : ParsedInstruction) (all : List ParsedInstruction)

/-- The event of a creation is optional. -/
def creationVia
    (build : Option CreateEvent → ParsedInstruction → Except ExtractError TokenCreation) :
    Extracted := do
  let event ← optionalChildEvent (CreateEvent.protocolEvent utf8Error) ix all programId
  let creation ← build event ix
  return some (.tokenCreation creation)

/-- Same, for the family of creator fees, which read no accounts. -/
def feeVia {Event : Type} (event : ProtocolEvent Event) (fee : Event → CreatorFee) :
    Extracted :=
  eventVia event programId (fun found _ => .ok (.creatorFee (fee found))) ix all

variable {utf8Error ix all}

/-- A creation is recorded as one, whether or not its event is there. -/
theorem creationVia_eq_ok_iff {record : ChainEvent}
    {build : Option CreateEvent → ParsedInstruction →
      Except ExtractError TokenCreation} :
    creationVia utf8Error ix all build = .ok (some record) ↔ ∃ event creation,
      optionalChildEvent (CreateEvent.protocolEvent utf8Error) ix all programId =
        .ok event ∧ build event ix = .ok creation ∧ .tokenCreation creation = record := by
  simp [creationVia, bind_eq_ok_iff, pure, Except.pure]

theorem feeVia_eq_ok_iff {record : ChainEvent} {Event : Type}
    {event : ProtocolEvent Event} {fee : Event → CreatorFee} :
    feeVia ix all event fee = .ok (some record) ↔ ∃ found,
      childEvent event ix all programId = .ok found ∧
        .creatorFee (fee found) = record := by
  simp [feeVia, eventVia_eq_ok_iff]

variable (utf8Error ix all)

/-- The event of a decoded instruction. -/
def eventOf : (pumpfunInstruction utf8Error).Instruction → Extracted
  | ⟨.buy, params⟩ =>
      recordSwap (swapVia utf8Error (BuyParams.swap addresses params) ix all)
  | ⟨.buyExactSolIn, params⟩ =>
      recordSwap (swapVia utf8Error (BuyExactSolInParams.swap addresses params) ix all)
  | ⟨.sell, _⟩ => recordSwap (swapVia utf8Error (SellParams.swap addresses) ix all)
  | ⟨.buyV2, _⟩ => recordSwap (swapVia utf8Error (BuyV2Params.swap addresses) ix all)
  | ⟨.buyExactQuoteInV2, params⟩ =>
      recordSwap (swapVia utf8Error (BuyExactQuoteInV2Params.swap addresses params) ix all)
  | ⟨.sellV2, _⟩ => recordSwap (swapVia utf8Error (SellV2Params.swap addresses) ix all)
  | ⟨.create, params⟩ => creationVia utf8Error ix all (CreateParams.creation params)
  | ⟨.createV2, params⟩ => creationVia utf8Error ix all (CreateV2Params.creation params)
  | ⟨.migrate, _⟩ =>
      eventVia CompletePumpAmmMigrationEvent.protocolEvent programId
        MigrateParams.migration ix all
  | ⟨.migrateV2, _⟩ =>
      eventVia CompletePumpAmmMigrationEvent.protocolEvent programId
        MigrateV2Params.migration ix all
  | ⟨.collectCreatorFee, _⟩ | ⟨.collectCreatorFeeV2, _⟩ =>
      feeVia ix all CollectCreatorFeeEvent.protocolEvent collected
  | ⟨.distributeCreatorFees, _⟩ | ⟨.distributeCreatorFeesV2, _⟩ =>
      feeVia ix all DistributeCreatorFeesEvent.protocolEvent distributed

/-- What becomes of an instruction of the program. -/
def outcome : ExtractOutcome :=
  if hasEventTag ix.data then .nothing
  else
    match (pumpfunInstruction utf8Error).tryFromSlice ix.data with
    | .error _ => .undecoded
    | .ok parsed => .ofExtracted .pumpfun (eventOf utf8Error addresses ix all parsed)

end Extract

end Pumpfun

namespace PumpSwap

section Records

variable (addresses : AddressDerivation)

/-- Liquidity that entered, with the provider of the event. -/
def DepositEvent.liquidity (event : DepositEvent) (pool : Pubkey) : Liquidity where
  protocol := .pumpSwap
  pool := pool
  provider := event.user
  baseDelta := event.baseAmountIn.toNat
  quoteDelta := event.quoteAmountIn.toNat
  lpTokenAmount := event.lpTokenAmountOut
  poolBaseReserves := event.poolBaseTokenReserves
  poolQuoteReserves := event.poolQuoteTokenReserves

def DepositParams.liquidity (event : DepositEvent) (ix : ParsedInstruction) :
    Except ExtractError ChainEvent := do
  let accounts ← readFixed "DepositAccounts" DepositAccounts.struct ix
  corroborate "pool" event.pool accounts.pool
  return .liquidity (event.liquidity accounts.pool)

/-- Liquidity that left has the opposite sign. -/
def WithdrawEvent.liquidity (event : WithdrawEvent) (pool : Pubkey) : Liquidity where
  protocol := .pumpSwap
  pool := pool
  provider := event.user
  baseDelta := -event.baseAmountOut.toNat
  quoteDelta := -event.quoteAmountOut.toNat
  lpTokenAmount := event.lpTokenAmountIn
  poolBaseReserves := event.poolBaseTokenReserves
  poolQuoteReserves := event.poolQuoteTokenReserves

def WithdrawParams.liquidity (event : WithdrawEvent) (ix : ParsedInstruction) :
    Except ExtractError ChainEvent := do
  let accounts ← readFixed "WithdrawAccounts" WithdrawAccounts.struct ix
  corroborate "pool" event.pool accounts.pool
  return .liquidity (event.liquidity accounts.pool)

/-- The graduation that a pool's opening is.  The curve is derived from the mint. -/
def CreatePoolEvent.migration (event : CreatePoolEvent) (mint pool : Pubkey) :
    Migration where
  fromProtocol := .pumpfun
  toProtocol := .pumpSwap
  mint := mint
  fromPool := Pumpfun.deriveBondingCurvePda addresses mint
  toPool := pool
  migratedSol := event.quoteAmountIn
  migratedTokens := event.baseAmountIn

/-- Nothing here is compared with the event. -/
def CreatePoolParams.migration (event : CreatePoolEvent) (ix : ParsedInstruction) :
    Except ExtractError ChainEvent := do
  let accounts ← readFixed "CreatePoolAccounts" CreatePoolAccounts.struct ix
  return .migration (event.migration addresses accounts.baseMint accounts.pool)

/-- The event names no mint, so the denomination is the instruction's. -/
def CollectCoinCreatorFeeEvent.creatorFee (event : CollectCoinCreatorFeeEvent)
    (quoteMint : Pubkey) : CreatorFee where
  protocol := .pumpSwap
  payout := .direct event.coinCreator
  amount := event.coinCreatorFee
  quoteMint := quoteMint
  mint := none
  timestamp := event.timestamp

def CollectCoinCreatorFeeParams.creatorFee (event : CollectCoinCreatorFeeEvent)
    (ix : ParsedInstruction) : Except ExtractError ChainEvent := do
  let accounts ← readFixed "CollectCoinCreatorFeeAccounts"
    CollectCoinCreatorFeeAccounts.struct ix
  return .creatorFee (event.creatorFee accounts.quoteMint)

variable {addresses} {ix : ParsedInstruction} {record : ChainEvent}

theorem DepositParams.liquidity_eq_ok_iff {event : DepositEvent} :
    DepositParams.liquidity event ix = .ok record ↔ ∃ accounts,
      ix.accounts = DepositAccounts.struct.keys accounts ∧
        event.pool = accounts.pool ∧
          .liquidity (event.liquidity accounts.pool) = record := by
  simp [DepositParams.liquidity, bind_eq_ok_iff, pure, Except.pure]

theorem WithdrawParams.liquidity_eq_ok_iff {event : WithdrawEvent} :
    WithdrawParams.liquidity event ix = .ok record ↔ ∃ accounts,
      ix.accounts = WithdrawAccounts.struct.keys accounts ∧
        event.pool = accounts.pool ∧
          .liquidity (event.liquidity accounts.pool) = record := by
  simp [WithdrawParams.liquidity, bind_eq_ok_iff, pure, Except.pure]

theorem CreatePoolParams.migration_eq_ok_iff {event : CreatePoolEvent} :
    CreatePoolParams.migration addresses event ix = .ok record ↔ ∃ accounts,
      ix.accounts = CreatePoolAccounts.struct.keys accounts ∧
        .migration (event.migration addresses accounts.baseMint accounts.pool) =
          record := by
  simp [CreatePoolParams.migration, bind_eq_ok_iff, pure, Except.pure]

theorem CollectCoinCreatorFeeParams.creatorFee_eq_ok_iff
    {event : CollectCoinCreatorFeeEvent} :
    CollectCoinCreatorFeeParams.creatorFee event ix = .ok record ↔ ∃ accounts,
      ix.accounts = CollectCoinCreatorFeeAccounts.struct.keys accounts ∧
        .creatorFee (event.creatorFee accounts.quoteMint) = record := by
  simp [CollectCoinCreatorFeeParams.creatorFee, bind_eq_ok_iff, pure, Except.pure]

end Records

section Fees

/-- The fees that an event names. -/
abbrev Fees := U64 × U64 × U64

def BuyEvent.fees (event : BuyEvent) : Fees :=
  (event.lpFee, event.protocolFee, event.coinCreatorFee)

def SellEvent.fees (event : SellEvent) : Fees :=
  (event.lpFee, event.protocolFee, event.coinCreatorFee)

/-- The sum of the fees over the integers. -/
def Fees.total (fees : Fees) : Nat :=
  fees.1.toNat + fees.2.1.toNat + fees.2.2.toNat

/-- Add the fees as a build does.  `none` is a panic. -/
def Fees.add (build : Build) (fees : Fees) : Option Nat := do
  let sum ← build.add 64 fees.1.toNat fees.2.1.toNat
  build.add 64 sum fees.2.2.toNat

variable {Event : Type} (build : Build) (fees : Event → Fees) (event : ProtocolEvent Event)
  (swap : Event → ParsedInstruction → Except ExtractError Swap)
  (ix : ParsedInstruction) (all : List ParsedInstruction)

/-- Resolve an instruction's event, then record its swap with the sum of the fees. -/
def swapEventVia : Option Extracted :=
  match childEvent event ix all programId with
  | .error err => some (.error err)
  | .ok found =>
      match swap found ix with
      | .error err => some (.error err)
      | .ok recorded => ((fees found).add build).map fun sum =>
          .ok (some (.swap { recorded with feeAmount := BitVec.ofNat 64 sum }))

/-- A swap would be recorded, but its fees do not add up in 64 bits. -/
def SwapOverflows : Prop :=
  ∃ found recorded, childEvent event ix all programId = .ok found ∧
    swap found ix = .ok recorded ∧ 2 ^ 64 ≤ (fees found).total

variable {build fees event swap ix all}

/-- The sum is that of machine integers. -/
theorem Fees.eq_of_add {fees : Fees} {sum : Nat} (added : fees.add build = some sum) :
    BitVec.ofNat 64 sum = fees.1 + fees.2.1 + fees.2.2 := by
  rw [Fees.add, Option.bind_eq_bind, Option.bind_eq_some_iff] at added
  obtain ⟨first, firstEq, added⟩ := added
  apply BitVec.eq_of_toNat_eq
  rw [add_mod added, add_mod firstEq, BitVec.toNat_ofNat, BitVec.toNat_add,
    BitVec.toNat_add, Nat.mod_mod]

theorem Fees.add_eq_none_iff {fees : Fees} :
    fees.add build = none ↔ build.operators = .panics ∧ 2 ^ 64 ≤ fees.total := by
  rw [Fees.add, Fees.total, Option.bind_eq_bind]
  cases added : build.add 64 fees.1.toNat fees.2.1.toNat with
  | none =>
      obtain ⟨stops, large⟩ := MachineArithmetic.add_eq_none_iff.mp added
      exact iff_of_true rfl ⟨stops, large.trans (Nat.le_add_right _ _)⟩
  | some first =>
      rw [Option.bind_some, MachineArithmetic.add_eq_none_iff]
      refine and_congr_right fun stops => ?_
      rw [add_eq (add_lt_of_panics stops added), Option.some_inj] at added
      rw [added]

/-- What ends without a panic is an error of either step, or the swap with the sum of its fees. -/
theorem swapEventVia_cases {extracted : Extracted}
    (ended : swapEventVia build fees event swap ix all = some extracted) :
    (∃ err, swapVia event swap ix all = .error err ∧ extracted = .error err) ∨
      ∃ found recorded sum, swap found ix = .ok recorded ∧
        swapVia event swap ix all = .ok (some recorded) ∧
        (fees found).add build = some sum ∧
        extracted = .ok (some (.swap { recorded with feeAmount := BitVec.ofNat 64 sum })) := by
  rw [swapEventVia] at ended
  rw [swapVia]
  cases resolved : childEvent event ix all programId with
  | error err =>
      rw [resolved] at ended
      cases ended
      exact .inl ⟨err, rfl, rfl⟩
  | ok found =>
      rw [resolved] at ended
      dsimp only at ended
      simp only [bind, Except.bind]
      cases built : swap found ix with
      | error err =>
          rw [built] at ended
          cases ended
          exact .inl ⟨err, rfl, rfl⟩
      | ok recorded =>
          rw [built] at ended
          obtain ⟨sum, added, rfl⟩ := Option.map_eq_some_iff.mp ended
          exact .inr ⟨found, recorded, sum, built, rfl, added, rfl⟩

/-- What does not panic records the swap that has the sum of machine integers. -/
theorem eq_of_swapEventVia {extracted : Extracted}
    (sums : ∀ found recorded, swap found ix = .ok recorded → recorded.feeAmount =
      (fees found).1 + (fees found).2.1 + (fees found).2.2)
    (ended : swapEventVia build fees event swap ix all = some extracted) :
    extracted = recordSwap (swapVia event swap ix all) := by
  rcases swapEventVia_cases ended with
    ⟨err, stops, rfl⟩ | ⟨found, recorded, sum, built, swapped, added, rfl⟩
  · rw [stops]
    rfl
  · rw [swapped, Fees.eq_of_add added, ← sums found recorded built]
    rfl

/-- What is recorded is a swap. -/
theorem exists_swap_of_swapEventVia {record : Option ChainEvent}
    (ended : swapEventVia build fees event swap ix all = some (.ok record)) :
    ∃ recorded, record = some (.swap recorded) := by
  rcases swapEventVia_cases ended with ⟨err, -, ⟨⟩⟩ | ⟨_, _, _, -, -, -, recordEq⟩
  exact ⟨_, Except.ok.inj recordEq⟩

theorem swapEventVia_eq_none_iff :
    swapEventVia build fees event swap ix all = none ↔
      build.operators = .panics ∧ SwapOverflows fees event swap ix all := by
  rw [swapEventVia, SwapOverflows]
  cases found : childEvent event ix all programId with
  | error err => simp
  | ok value =>
      cases built : swap value ix with
      | error err => simp [built]
      | ok recorded => simp [built, Fees.add_eq_none_iff]

/-- Every form of a swap has the sum of its event's fees. -/
theorem feeAmount_of_buySwap {addresses : AddressDerivation} {event : BuyEvent}
    {trackVolume : OptionBool} {recorded : Swap}
    (built : buySwap addresses event ix trackVolume = .ok recorded) :
    recorded.feeAmount = event.fees.1 + event.fees.2.1 + event.fees.2.2 := by
  simp only [buySwap, bind_eq_ok_iff, pure, Except.pure, Except.ok.injEq] at built
  obtain ⟨accounts, -, -, -, rfl⟩ := built
  rfl

theorem SellParams.feeAmount_of_swap {addresses : AddressDerivation} {event : SellEvent}
    {recorded : Swap} (built : SellParams.swap addresses event ix = .ok recorded) :
    recorded.feeAmount = event.fees.1 + event.fees.2.1 + event.fees.2.2 := by
  simp only [SellParams.swap, bind_eq_ok_iff, pure, Except.pure, Except.ok.injEq] at built
  obtain ⟨accounts, -, -, -, rfl⟩ := built
  rfl

end Fees

section Extract

variable (build : Build) (utf8Error : Bytes → String) (addresses : AddressDerivation)
  (ix : ParsedInstruction) (all : List ParsedInstruction)

/-- The event of a decoded instruction. -/
def eventOf : pumpSwapInstruction.Instruction → Option Extracted
  | ⟨.buy, params⟩ =>
      swapEventVia build BuyEvent.fees (buyEvent utf8Error)
        (BuyParams.swap addresses params) ix all
  | ⟨.buyExactQuoteIn, params⟩ =>
      swapEventVia build BuyEvent.fees (buyEvent utf8Error)
        (BuyExactQuoteInParams.swap addresses params) ix all
  | ⟨.sell, _⟩ =>
      swapEventVia build SellEvent.fees sellEvent (SellParams.swap addresses) ix all
  | ⟨.createPool, _⟩ =>
      some (eventVia CreatePoolEvent.protocolEvent programId
        (CreatePoolParams.migration addresses) ix all)
  | ⟨.collectCoinCreatorFee, _⟩ =>
      some (eventVia CollectCoinCreatorFeeEvent.protocolEvent programId
        CollectCoinCreatorFeeParams.creatorFee ix all)
  | ⟨.deposit, _⟩ =>
      some (eventVia DepositEvent.protocolEvent programId DepositParams.liquidity ix all)
  | ⟨.withdraw, _⟩ =>
      some (eventVia WithdrawEvent.protocolEvent programId WithdrawParams.liquidity ix all)

/-- What becomes of an instruction of the program.  `none` is a panic. -/
def outcome : Option ExtractOutcome :=
  if hasEventTag ix.data then some .nothing
  else
    match pumpSwapInstruction.tryFromSlice ix.data with
    | .error _ => some .undecoded
    | .ok parsed =>
        (eventOf build utf8Error addresses ix all parsed).map (.ofExtracted .pumpSwap)

/-- The fees of the swap of a decoded instruction do not add up in 64 bits. -/
def SwapOverflowsOf : pumpSwapInstruction.Instruction → Prop
  | ⟨.buy, params⟩ =>
      SwapOverflows BuyEvent.fees (buyEvent utf8Error) (BuyParams.swap addresses params)
        ix all
  | ⟨.buyExactQuoteIn, params⟩ =>
      SwapOverflows BuyEvent.fees (buyEvent utf8Error)
        (BuyExactQuoteInParams.swap addresses params) ix all
  | ⟨.sell, _⟩ =>
      SwapOverflows SellEvent.fees sellEvent (SellParams.swap addresses) ix all
  | _ => False

/-- The fees of the swap of an instruction do not add up in 64 bits. -/
def FeesOverflow : Prop :=
  hasEventTag ix.data = false ∧ ∃ parsed,
    pumpSwapInstruction.tryFromSlice ix.data = .ok parsed ∧
      SwapOverflowsOf utf8Error addresses ix all parsed

variable {build utf8Error addresses ix all}

theorem eventOf_eq_none_iff {parsed : pumpSwapInstruction.Instruction} :
    eventOf build utf8Error addresses ix all parsed = none ↔
      build.operators = .panics ∧ SwapOverflowsOf utf8Error addresses ix all parsed := by
  obtain ⟨variant, params⟩ := parsed
  cases variant with
  | buy | buyExactQuoteIn | sell => exact swapEventVia_eq_none_iff
  | createPool | collectCoinCreatorFee | deposit | withdraw =>
      exact iff_of_false (Option.some_ne_none _) And.right

/-- An instruction panics exactly where its build stops over its fees. -/
theorem outcome_eq_none_iff :
    outcome build utf8Error addresses ix all = none ↔
      build.operators = .panics ∧ FeesOverflow utf8Error addresses ix all := by
  rw [outcome, FeesOverflow]
  cases tagged : hasEventTag ix.data with
  | true => simp
  | false =>
      cases read : pumpSwapInstruction.tryFromSlice ix.data with
      | error err => simp
      | ok parsed => simp [eventOf_eq_none_iff]

end Extract

end PumpSwap

namespace MeteoraDlmm

variable (sdk : Sdk) (readsOther : List Pubkey → Bytes → Bool)
  (ix : ParsedInstruction) (all : List ParsedInstruction)

/-- Whether the data starts with the discriminator of a swap. -/
def isSwapForm : Bool :=
  (firstChunk ix.data).any fun disc =>
    SwapForm.all.any fun form => sdk.discriminator form == disc

/-- What becomes of an instruction of the program.  The dispatch reads instructions
other than swaps too, and they record nothing.  A swap without a matching event
records nothing either. -/
def outcome : ExtractOutcome :=
  if hasEventTag ix.data then .nothing
  else
    match parseSwap sdk ix with
    | some (_, common) => .ofOption ((extractSwap sdk ix all common).map .swap)
    | none =>
        if isSwapForm sdk ix || !readsOther ix.accounts ix.data then .undecoded
        else .nothing

end MeteoraDlmm

/-- What becomes of an instruction of DAMM v2.  `none` is a walk that has not
ended. -/
def MeteoraDammV2.outcome (fuel : Nat) (ix : ParsedInstruction)
    (all : List ParsedInstruction) : Option ExtractOutcome :=
  (extract fuel ix all).map fun swap => .ofOption (swap.map .swap)

namespace Chain

/-- An extractor, given a bound for its walks.  `none` is a walk that has not ended, or
a panic. -/
abbrev OutcomeFn := Nat → ParsedInstruction → List ParsedInstruction → Option ExtractOutcome

/-- The whole extractors by program. -/
structure EventRegistry where
  byProgram : List (Pubkey × OutcomeFn)

namespace EventRegistry

def new : EventRegistry where
  byProgram := []

/-- Register one protocol's extractor.  `none` is the panic on a duplicate. -/
def register (registry : EventRegistry) (programId : Pubkey) (outcome : OutcomeFn) :
    Option EventRegistry :=
  if (registry.byProgram.lookup programId).isSome then none
  else some { byProgram := (programId, outcome) :: registry.byProgram }

/-- The registry of every protocol the crate knows about. -/
def withAllProtocols (build : Build) (externals : Externals)
    (readsOther : List Pubkey → Bytes → Bool) : Option EventRegistry := do
  let registry ← new.register Pumpfun.programId fun _ ix all =>
    some (Pumpfun.outcome externals.utf8Error externals.addresses ix all)
  let registry ← registry.register PumpSwap.programId fun _ ix all =>
    PumpSwap.outcome build externals.utf8Error externals.addresses ix all
  let registry ← registry.register MeteoraDammV2.programId MeteoraDammV2.outcome
  registry.register MeteoraDlmm.programId fun _ ix all =>
    some (MeteoraDlmm.outcome externals.dlmm readsOther ix all)

/-- Run the registered extractor, if any, against an instruction. -/
def outcome (registry : EventRegistry) (fuel : Nat) (ix : ParsedInstruction)
    (all : List ParsedInstruction) : Option ExtractOutcome :=
  match registry.byProgram.lookup ix.programId with
  | none => some .nothing
  | some extractor => extractor fuel ix all

/-- What becomes of the instructions, in order. -/
def outcomes (registry : EventRegistry) (fuel : Nat) (all : List ParsedInstruction) :
    List ParsedInstruction → Option (List ExtractOutcome)
  | [] => some []
  | ix :: rest => do
      let outcome ← registry.outcome fuel ix all
      let outcomes ← outcomes registry fuel all rest
      return outcome :: outcomes

end EventRegistry

end Chain

end SolanaProtocols
