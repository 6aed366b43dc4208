import SolanaProtocols.PoolAccounts
import SolanaProtocols.SwapExtract

/-!
# Chain events

What extraction records besides swaps: coins that are created, curves that
graduate, fees that creators take, liquidity that comes and goes.  With them are
the accounts and the events they are recorded from.
-/

namespace SolanaProtocols

open Parsing Slot Chain Protocols PrefixCodec
open Pumpfun (U64 u64 pubkey)

namespace Pumpfun

/-- The accounts of a creation. -/
structure CreateAccounts where
  mint : Pubkey
  mintAuthority : Pubkey
  bondingCurve : Pubkey
  associatedBondingCurve : Pubkey
  global : Pubkey
  mplTokenMetadata : Pubkey
  metadata : Pubkey
  user : Pubkey
  systemProgram : Pubkey
  tokenProgram : Pubkey
  associatedTokenProgram : Pubkey
  rent : Pubkey
  eventAuthority : Pubkey
  program : Pubkey
deriving DecidableEq

def CreateAccounts.struct : FixedAccounts CreateAccounts where
  programId := programId
  slots :=
    [writableSigner, readonly, writable, writable, readonly, readonly,
     writable, writableSigner, readonly, readonly, readonly, readonly, readonly,
     readonly]
  required := by decide
  tuple :=
    { toFun := fun (a, b, c, d, e, f, g, h, i, j, k, l, m, n) =>
        ⟨a, b, c, d, e, f, g, h, i, j, k, l, m, n⟩
      invFun := fun ⟨a, b, c, d, e, f, g, h, i, j, k, l, m, n⟩ =>
        (a, b, c, d, e, f, g, h, i, j, k, l, m, n)
      left_inv := fun _ => rfl
      right_inv := fun _ => rfl }

/-- The required accounts of the second version. -/
structure CreateV2Accounts where
  mint : Pubkey
  mintAuthority : Pubkey
  bondingCurve : Pubkey
  associatedBondingCurve : Pubkey
  global : Pubkey
  user : Pubkey
  systemProgram : Pubkey
  tokenProgram : Pubkey
  associatedTokenProgram : Pubkey
  mayhemProgramId : Pubkey
  globalParams : Pubkey
  solVault : Pubkey
  mayhemState : Pubkey
  mayhemTokenVault : Pubkey
  eventAuthority : Pubkey
  program : Pubkey
deriving DecidableEq

def CreateV2Accounts.struct : OpenAccounts CreateV2Accounts where
  programId := programId
  slots :=
    [writableSigner, readonly, writable, writable, readonly,
     writableSigner, readonly, readonly, readonly, writable, readonly, writable,
     writable, writable, readonly, readonly]
  required := by decide
  tuple :=
    { toFun := fun (a, b, c, d, e, f, g, h, i, j, k, l, m, n, o, p) =>
        ⟨a, b, c, d, e, f, g, h, i, j, k, l, m, n, o, p⟩
      invFun := fun ⟨a, b, c, d, e, f, g, h, i, j, k, l, m, n, o, p⟩ =>
        (a, b, c, d, e, f, g, h, i, j, k, l, m, n, o, p)
      left_inv := fun _ => rfl
      right_inv := fun _ => rfl }
  conditional := ["quote_mint", "associated_quote_bonding_curve", "quote_token_program"]
  remaining := none

/-- The required accounts of a graduation. -/
structure MigrateAccounts where
  global : Pubkey
  withdrawAuthority : Pubkey
  mint : Pubkey
  bondingCurve : Pubkey
  associatedBondingCurve : Pubkey
  user : Pubkey
  systemProgram : Pubkey
  tokenProgram : Pubkey
  pumpAmm : Pubkey
  pool : Pubkey
  poolAuthority : Pubkey
  poolAuthorityMintAccount : Pubkey
  poolAuthorityWsolAccount : Pubkey
  ammGlobalConfig : Pubkey
  wsolMint : Pubkey
  lpMint : Pubkey
  userPoolTokenAccount : Pubkey
  poolBaseTokenAccount : Pubkey
  poolQuoteTokenAccount : Pubkey
  token2022Program : Pubkey
  associatedTokenProgram : Pubkey
  pumpAmmEventAuthority : Pubkey
  eventAuthority : Pubkey
  program : Pubkey
  rent : Pubkey
deriving DecidableEq

def MigrateAccounts.struct : OpenAccounts MigrateAccounts where
  programId := programId
  slots :=
    [readonly, writable, readonly, writable, writable, signer, readonly,
     readonly, readonly, writable, writable, writable, writable, readonly, readonly,
     writable, writable, writable, writable, readonly, readonly, readonly, readonly,
     readonly, readonly]
  required := by decide
  tuple :=
    { toFun := fun (a, b, c, d, e, f, g, h, i, j, k, l, m, n, o, p, q, r, s, t, u,
        v, w, x, y) =>
        ⟨a, b, c, d, e, f, g, h, i, j, k, l, m, n, o, p, q, r, s, t, u, v, w, x, y⟩
      invFun := fun ⟨a, b, c, d, e, f, g, h, i, j, k, l, m, n, o, p, q, r, s, t, u,
        v, w, x, y⟩ =>
        (a, b, c, d, e, f, g, h, i, j, k, l, m, n, o, p, q, r, s, t, u, v, w, x, y)
      left_inv := fun _ => rfl
      right_inv := fun _ => rfl }
  conditional := []
  remaining := some ⟨"unidentified", false⟩

/-- The required accounts of the second version. -/
structure MigrateV2Accounts where
  global : Pubkey
  withdrawAuthority : Pubkey
  baseMint : Pubkey
  quoteMint : Pubkey
  bondingCurve : Pubkey
  associatedBaseBondingCurve : Pubkey
  associatedQuoteBondingCurve : Pubkey
  user : Pubkey
  systemProgram : Pubkey
  pumpAmm : Pubkey
  pool : Pubkey
  poolAuthority : Pubkey
  poolAuthorityMintAccount : Pubkey
  poolAuthorityQuoteAccount : Pubkey
  ammGlobalConfig : Pubkey
  lpMint : Pubkey
  userPoolTokenAccount : Pubkey
  poolBaseTokenAccount : Pubkey
  poolQuoteTokenAccount : Pubkey
  baseTokenProgram : Pubkey
  quoteTokenProgram : Pubkey
  token2022Program : Pubkey
  associatedTokenProgram : Pubkey
  pumpAmmEventAuthority : Pubkey
  rent : Pubkey
  eventAuthority : Pubkey
  program : Pubkey
deriving DecidableEq

def MigrateV2Accounts.struct : OpenAccounts MigrateV2Accounts where
  programId := programId
  slots :=
    [readonly, writable, readonly, readonly, writable, writable,
     writable, signer, readonly, readonly, writable, writable, writable, writable,
     readonly, writable, writable, writable, writable, readonly, readonly, readonly,
     readonly, readonly, readonly, readonly, readonly]
  required := by decide
  tuple :=
    { toFun := fun (a, b, c, d, e, f, g, h, i, j, k, l, m, n, o, p, q, r, s, t, u,
        v, w, x, y, z, a1) =>
        ⟨a, b, c, d, e, f, g, h, i, j, k, l, m, n, o, p, q, r, s, t, u, v, w, x, y,
        z, a1⟩
      invFun := fun ⟨a, b, c, d, e, f, g, h, i, j, k, l, m, n, o, p, q, r, s, t, u,
        v, w, x, y, z, a1⟩ =>
        (a, b, c, d, e, f, g, h, i, j, k, l, m, n, o, p, q, r, s, t, u, v, w, x, y,
        z, a1)
      left_inv := fun _ => rfl
      right_inv := fun _ => rfl }
  conditional := []
  remaining := some ⟨"unidentified", false⟩

/-- A coin launching. -/
structure CreateEvent where
  name : CountedString
  symbol : CountedString
  uri : CountedString
  mint : Pubkey
  bondingCurve : Pubkey
  user : Pubkey
  creator : Pubkey
  timestamp : I64
  virtualTokenReserves : U64
  virtualSolReserves : U64
  realTokenReserves : U64
  tokenTotalSupply : U64
  tokenProgram : Pubkey
  isMayhemMode : Bool
  isCashbackEnabled : Bool
  quoteMint : Pubkey
  virtualQuoteReserves : U64

def CreateEvent.fields (utf8Error : Bytes → String) : PrefixCodec CreateEvent :=
  ((string utf8Error).pair <| (string utf8Error).pair <|
    (string utf8Error).pair <| pubkey.pair <| pubkey.pair <| pubkey.pair <|
    pubkey.pair <| i64.pair <| u64.pair <| u64.pair <| u64.pair <| u64.pair <|
    pubkey.pair <| bool.pair <| bool.pair <| pubkey.pair u64).equiv
    { toFun := fun (a, b, c, d, e, f, g, h, i, j, k, l, m, n, o, p, q) =>
        ⟨a, b, c, d, e, f, g, h, i, j, k, l, m, n, o, p, q⟩
      invFun := fun ⟨a, b, c, d, e, f, g, h, i, j, k, l, m, n, o, p, q⟩ =>
        (a, b, c, d, e, f, g, h, i, j, k, l, m, n, o, p, q)
      left_inv := fun _ => rfl
      right_inv := fun _ => rfl }

/-- The start of `sha256("event:CreateEvent")`. -/
def CreateEvent.protocolEvent (utf8Error : Bytes → String) :
    ProtocolEvent CreateEvent where
  discriminator := #v[27, 114, 169, 77, 222, 235, 99, 118]
  name := "CreateEvent"
  tryFromSlice := (CreateEvent.fields utf8Error).tryFromSlice

/-- The graduation settling, from the curve's side. -/
structure CompletePumpAmmMigrationEvent where
  user : Pubkey
  mint : Pubkey
  mintAmount : U64
  solAmount : U64
  poolMigrationFee : U64
  bondingCurve : Pubkey
  timestamp : I64
  pool : Pubkey
  quoteMint : Pubkey

def CompletePumpAmmMigrationEvent.fields : PrefixCodec CompletePumpAmmMigrationEvent :=
  (pubkey.pair <| pubkey.pair <| u64.pair <| u64.pair <| u64.pair <|
    pubkey.pair <| i64.pair <| pubkey.pair pubkey).equiv
    { toFun := fun (a, b, c, d, e, f, g, h, i) =>
        ⟨a, b, c, d, e, f, g, h, i⟩
      invFun := fun ⟨a, b, c, d, e, f, g, h, i⟩ =>
        (a, b, c, d, e, f, g, h, i)
      left_inv := fun _ => rfl
      right_inv := fun _ => rfl }

/-- The start of `sha256("event:CompletePumpAmmMigrationEvent")`. -/
def CompletePumpAmmMigrationEvent.protocolEvent :
    ProtocolEvent CompletePumpAmmMigrationEvent where
  discriminator := #v[189, 233, 93, 185, 92, 148, 234, 148]
  name := "CompletePumpAmmMigrationEvent"
  tryFromSlice := CompletePumpAmmMigrationEvent.fields.tryFromSlice

/-- A creator draining their own vault. -/
structure CollectCreatorFeeEvent where
  timestamp : I64
  creator : Pubkey
  creatorFee : U64
  quoteMint : Pubkey

def CollectCreatorFeeEvent.fields : PrefixCodec CollectCreatorFeeEvent :=
  (i64.pair <| pubkey.pair <| u64.pair pubkey).equiv
    { toFun := fun (a, b, c, d) =>
        ⟨a, b, c, d⟩
      invFun := fun ⟨a, b, c, d⟩ =>
        (a, b, c, d)
      left_inv := fun _ => rfl
      right_inv := fun _ => rfl }

/-- The start of `sha256("event:CollectCreatorFeeEvent")`. -/
def CollectCreatorFeeEvent.protocolEvent : ProtocolEvent CollectCreatorFeeEvent where
  discriminator := #v[122, 2, 127, 1, 14, 191, 12, 175]
  name := "CollectCreatorFeeEvent"
  tryFromSlice := CollectCreatorFeeEvent.fields.tryFromSlice

/-- A vault split across a sharing config. -/
structure DistributeCreatorFeesEvent where
  timestamp : I64
  mint : Pubkey
  bondingCurve : Pubkey
  sharingConfig : Pubkey
  admin : Pubkey
  shareholders : Counted Shareholder
  distributed : U64
  quoteMint : Pubkey

def DistributeCreatorFeesEvent.fields : PrefixCodec DistributeCreatorFeesEvent :=
  (i64.pair <| pubkey.pair <| pubkey.pair <| pubkey.pair <| pubkey.pair <|
    Shareholder.fields.vec.pair <| u64.pair pubkey).equiv
    { toFun := fun (a, b, c, d, e, f, g, h) =>
        ⟨a, b, c, d, e, f, g, h⟩
      invFun := fun ⟨a, b, c, d, e, f, g, h⟩ =>
        (a, b, c, d, e, f, g, h)
      left_inv := fun _ => rfl
      right_inv := fun _ => rfl }

/-- The start of `sha256("event:DistributeCreatorFeesEvent")`. -/
def DistributeCreatorFeesEvent.protocolEvent :
    ProtocolEvent DistributeCreatorFeesEvent where
  discriminator := #v[165, 55, 129, 112, 4, 179, 202, 40]
  name := "DistributeCreatorFeesEvent"
  tryFromSlice := DistributeCreatorFeesEvent.fields.tryFromSlice

end Pumpfun

namespace PumpSwap

/-- The accounts of a creator fee. -/
structure CollectCoinCreatorFeeAccounts where
  quoteMint : Pubkey
  quoteTokenProgram : Pubkey
  coinCreator : Pubkey
  coinCreatorVaultAuthority : Pubkey
  coinCreatorVaultAta : Pubkey
  coinCreatorTokenAccount : Pubkey
  eventAuthority : Pubkey
  program : Pubkey
deriving DecidableEq

def CollectCoinCreatorFeeAccounts.struct :
    FixedAccounts CollectCoinCreatorFeeAccounts where
  programId := programId
  slots :=
    [readonly, readonly, readonly, readonly, writable, writable,
     readonly, readonly]
  required := by decide
  tuple :=
    { toFun := fun (a, b, c, d, e, f, g, h) =>
        ⟨a, b, c, d, e, f, g, h⟩
      invFun := fun ⟨a, b, c, d, e, f, g, h⟩ =>
        (a, b, c, d, e, f, g, h)
      left_inv := fun _ => rfl
      right_inv := fun _ => rfl }

/-- A pool opening. -/
structure CreatePoolEvent where
  timestamp : I64
  index : BitVec 16
  creator : Pubkey
  baseMint : Pubkey
  quoteMint : Pubkey
  baseMintDecimals : UInt8
  quoteMintDecimals : UInt8
  baseAmountIn : U64
  quoteAmountIn : U64
  poolBaseAmount : U64
  poolQuoteAmount : U64
  minimumLiquidity : U64
  initialLiquidity : U64
  lpTokenAmountOut : U64
  poolBump : UInt8
  pool : Pubkey
  lpMint : Pubkey
  userBaseTokenAccount : Pubkey
  userQuoteTokenAccount : Pubkey
  coinCreator : Pubkey
  isMayhemMode : Bool

def CreatePoolEvent.fields : PrefixCodec CreatePoolEvent :=
  (i64.pair <| u16.pair <| pubkey.pair <| pubkey.pair <| pubkey.pair <|
    byte.pair <| byte.pair <| u64.pair <| u64.pair <| u64.pair <| u64.pair <|
    u64.pair <| u64.pair <| u64.pair <| byte.pair <| pubkey.pair <|
    pubkey.pair <| pubkey.pair <| pubkey.pair <| pubkey.pair bool).equiv
    { toFun := fun (a, b, c, d, e, f, g, h, i, j, k, l, m, n, o, p, q, r, s, t,
        u) =>
        ⟨a, b, c, d, e, f, g, h, i, j, k, l, m, n, o, p, q, r, s, t, u⟩
      invFun := fun ⟨a, b, c, d, e, f, g, h, i, j, k, l, m, n, o, p, q, r, s, t,
        u⟩ =>
        (a, b, c, d, e, f, g, h, i, j, k, l, m, n, o, p, q, r, s, t, u)
      left_inv := fun _ => rfl
      right_inv := fun _ => rfl }

/-- The start of `sha256("event:CreatePoolEvent")`. -/
def CreatePoolEvent.protocolEvent : ProtocolEvent CreatePoolEvent where
  discriminator := #v[177, 49, 12, 210, 160, 118, 167, 116]
  name := "CreatePoolEvent"
  tryFromSlice := CreatePoolEvent.fields.tryFromSlice

/-- Liquidity entering a pool. -/
structure DepositEvent where
  timestamp : I64
  lpTokenAmountOut : U64
  maxBaseAmountIn : U64
  maxQuoteAmountIn : U64
  userBaseTokenReserves : U64
  userQuoteTokenReserves : U64
  poolBaseTokenReserves : U64
  poolQuoteTokenReserves : U64
  baseAmountIn : U64
  quoteAmountIn : U64
  lpMintSupply : U64
  pool : Pubkey
  user : Pubkey
  userBaseTokenAccount : Pubkey
  userQuoteTokenAccount : Pubkey
  userPoolTokenAccount : Pubkey

def DepositEvent.fields : PrefixCodec DepositEvent :=
  (i64.pair <| u64.pair <| u64.pair <| u64.pair <| u64.pair <| u64.pair <|
    u64.pair <| u64.pair <| u64.pair <| u64.pair <| u64.pair <| pubkey.pair <|
    pubkey.pair <| pubkey.pair <| pubkey.pair pubkey).equiv
    { toFun := fun (a, b, c, d, e, f, g, h, i, j, k, l, m, n, o, p) =>
        ⟨a, b, c, d, e, f, g, h, i, j, k, l, m, n, o, p⟩
      invFun := fun ⟨a, b, c, d, e, f, g, h, i, j, k, l, m, n, o, p⟩ =>
        (a, b, c, d, e, f, g, h, i, j, k, l, m, n, o, p)
      left_inv := fun _ => rfl
      right_inv := fun _ => rfl }

/-- The start of `sha256("event:DepositEvent")`. -/
def DepositEvent.protocolEvent : ProtocolEvent DepositEvent where
  discriminator := #v[120, 248, 61, 83, 31, 142, 107, 144]
  name := "DepositEvent"
  tryFromSlice := DepositEvent.fields.tryFromSlice

/-- Liquidity leaving a pool. -/
structure WithdrawEvent where
  timestamp : I64
  lpTokenAmountIn : U64
  minBaseAmountOut : U64
  minQuoteAmountOut : U64
  userBaseTokenReserves : U64
  userQuoteTokenReserves : U64
  poolBaseTokenReserves : U64
  poolQuoteTokenReserves : U64
  baseAmountOut : U64
  quoteAmountOut : U64
  lpMintSupply : U64
  pool : Pubkey
  user : Pubkey
  userBaseTokenAccount : Pubkey
  userQuoteTokenAccount : Pubkey
  userPoolTokenAccount : Pubkey

def WithdrawEvent.fields : PrefixCodec WithdrawEvent :=
  (i64.pair <| u64.pair <| u64.pair <| u64.pair <| u64.pair <| u64.pair <|
    u64.pair <| u64.pair <| u64.pair <| u64.pair <| u64.pair <| pubkey.pair <|
    pubkey.pair <| pubkey.pair <| pubkey.pair pubkey).equiv
    { toFun := fun (a, b, c, d, e, f, g, h, i, j, k, l, m, n, o, p) =>
        ⟨a, b, c, d, e, f, g, h, i, j, k, l, m, n, o, p⟩
      invFun := fun ⟨a, b, c, d, e, f, g, h, i, j, k, l, m, n, o, p⟩ =>
        (a, b, c, d, e, f, g, h, i, j, k, l, m, n, o, p)
      left_inv := fun _ => rfl
      right_inv := fun _ => rfl }

/-- The start of `sha256("event:WithdrawEvent")`. -/
def WithdrawEvent.protocolEvent : ProtocolEvent WithdrawEvent where
  discriminator := #v[22, 9, 133, 26, 160, 44, 71, 192]
  name := "WithdrawEvent"
  tryFromSlice := WithdrawEvent.fields.tryFromSlice

/-- A coin creator withdrawing fees of the pools. -/
structure CollectCoinCreatorFeeEvent where
  timestamp : I64
  coinCreator : Pubkey
  coinCreatorFee : U64
  coinCreatorVaultAta : Pubkey
  coinCreatorTokenAccount : Pubkey

def CollectCoinCreatorFeeEvent.fields : PrefixCodec CollectCoinCreatorFeeEvent :=
  (i64.pair <| pubkey.pair <| u64.pair <| pubkey.pair pubkey).equiv
    { toFun := fun (a, b, c, d, e) =>
        ⟨a, b, c, d, e⟩
      invFun := fun ⟨a, b, c, d, e⟩ =>
        (a, b, c, d, e)
      left_inv := fun _ => rfl
      right_inv := fun _ => rfl }

/-- The start of `sha256("event:CollectCoinCreatorFeeEvent")`. -/
def CollectCoinCreatorFeeEvent.protocolEvent :
    ProtocolEvent CollectCoinCreatorFeeEvent where
  discriminator := #v[232, 245, 194, 238, 234, 218, 58, 89]
  name := "CollectCoinCreatorFeeEvent"
  tryFromSlice := CollectCoinCreatorFeeEvent.fields.tryFromSlice

end PumpSwap

namespace Chain

/-- A coin that was created. -/
structure TokenCreation where
  protocol : Protocol
  mint : Pubkey
  pool : Pubkey
  creator : Pubkey
  name : CountedString
  symbol : CountedString
  uri : CountedString
  tokenTotalSupply : Option U64
  initialVirtualTokenReserves : Option U64
  initialVirtualSolReserves : Option U64

/-- A coin that moved from one protocol to another. -/
structure Migration where
  mint : Pubkey
  fromProtocol : Protocol
  fromPool : Pubkey
  toProtocol : Protocol
  toPool : Pubkey
  migratedSol : U64
  migratedTokens : U64
deriving DecidableEq

/-- Who a creator fee goes to. -/
inductive CreatorPayout
  | direct (creator : Pubkey)
  | shared (bondingCurve sharingConfig admin : Pubkey)
      (shareholders : Counted Shareholder)

/-- A creator fee that was paid out. -/
structure CreatorFee where
  protocol : Protocol
  payout : CreatorPayout
  amount : U64
  quoteMint : Pubkey
  mint : Option Pubkey
  timestamp : I64

/-- Liquidity that entered a pool or left it. -/
structure Liquidity where
  protocol : Protocol
  pool : Pubkey
  provider : Pubkey
  baseDelta : Int
  quoteDelta : Int
  lpTokenAmount : U64
  poolBaseReserves : U64
  poolQuoteReserves : U64
deriving DecidableEq

inductive ChainEvent
  | swap (record : Swap)
  | tokenCreation (record : TokenCreation)
  | migration (record : Migration)
  | creatorFee (record : CreatorFee)
  | liquidity (record : Liquidity)

namespace ChainEvent

/-- The protocol an event is recorded for. -/
def protocol : ChainEvent → Protocol
  | swap record => record.protocol
  | tokenCreation record => record.protocol
  | migration record => record.fromProtocol
  | creatorFee record => record.protocol
  | liquidity record => record.protocol

def asSwap : ChainEvent → Option Swap
  | swap record => some record
  | _ => none

end ChainEvent

end Chain

end SolanaProtocols
