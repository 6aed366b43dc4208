import SolanaProtocols.NewestWins
import SolanaProtocols.PoolIdentification
import SolanaProtocols.QuoteBundles
import SolanaProtocols.SingletonConfig
import SolanaProtocols.TokenAccounts

/-!
# The whole cache

The cache has a slot-versioned map for each kind of account, and the singletons.
Each handler of the protocols decodes the accounts of its kind and inserts them
into the map of that kind, under their own address.
-/

namespace SolanaProtocols

/-- An error as it is displayed. -/
def Error.toText : Error → String
  | .accountDataTooShort expected actual =>
      "account data too short: need " ++ toString expected ++ " bytes, got " ++
        toString actual
  | .invalidAccountData message => "invalid account data: " ++ message
  | .protocolError protocol message => protocol ++ " error: " ++ message

namespace Storage

open Pumpfun PoolLayouts HandlerRegistry

/-- A type of accounts, and its decoder. -/
structure AccountDecoder (State : Type) where
  discriminator : Discriminator
  decode : Bytes → Except Error State

/-- The accounts of DLMM.  Their types and decoders rest on the SDK. -/
structure DlmmAccounts where
  LbPair : Type
  BinArray : Type
  BinArrayBitmapExtension : Type
  PositionV2Full : Type
  lbPair : AccountDecoder LbPair
  binArray : AccountDecoder BinArray
  binArrayBitmapExtension : AccountDecoder BinArrayBitmapExtension
  positionV2 : AccountDecoder PositionV2Full

/-- The slot-versioned fields of the cache. -/
inductive CacheField
  | blockhashes
  | bondingCurves
  | pumpSwapPools
  | dlmmLbPairs
  | dlmmBinArrays
  | dlmmBinArrayBitmapExtensions
  | dlmmPositions
  | mintTokenPrograms
  | tokenAccounts
deriving DecidableEq, Repr

/-- What a field stores under an address. -/
abbrev CacheField.Value (dlmm : DlmmAccounts) : CacheField → Type
  | blockhashes => Vector UInt8 32
  | bondingCurves => BondingCurve
  | pumpSwapPools => PumpSwap.PumpSwapPool
  | dlmmLbPairs => dlmm.LbPair
  | dlmmBinArrays => dlmm.BinArray
  | dlmmBinArrayBitmapExtensions => dlmm.BinArrayBitmapExtension
  | dlmmPositions => dlmm.PositionV2Full
  | mintTokenPrograms => TokenProgram
  | tokenAccounts => TokenAccount

/-- History depths of the fields. -/
abbrev FieldDepths := CacheField → Nat

def FieldDepths.default : FieldDepths
  | .blockhashes => 8
  | .bondingCurves => 8
  | .pumpSwapPools => 8
  | .dlmmLbPairs => 8
  | .dlmmBinArrays => 4
  | .dlmmBinArrayBitmapExtensions => 4
  | .dlmmPositions => 8
  | .mintTokenPrograms => 1
  | .tokenAccounts => 8

/-- The single source of truth for the fields of the cache. -/
structure CacheData (dlmm : DlmmAccounts) where
  maps : ∀ field : CacheField, VersionedStateMap Pubkey (field.Value dlmm)
  singletons : LocalCache

namespace CacheData

variable {dlmm : DlmmAccounts}

def withDepths (depths : FieldDepths) : CacheData dlmm where
  maps field := .withDepth (depths field)
  singletons := .new

instance : CacheSingleton (CacheData dlmm) PumpfunFeeRecipients where
  get cache := CacheSingleton.get cache.singletons
  set cache value :=
    { cache with singletons := CacheSingleton.set cache.singletons value }

instance : CacheSingleton (CacheData dlmm) PumpfunFeeConfig where
  get cache := CacheSingleton.get cache.singletons
  set cache value :=
    { cache with singletons := CacheSingleton.set cache.singletons value }

instance : CacheSingleton (CacheData dlmm) PumpSwapFeeConfig where
  get cache := CacheSingleton.get cache.singletons
  set cache value :=
    { cache with singletons := CacheSingleton.set cache.singletons value }

/-- Insert into one of the maps. -/
def insert (cache : CacheData dlmm) (field : CacheField) (key : Pubkey)
    (value : field.Value dlmm) (slot : Nat) : CacheData dlmm :=
  { cache with
    maps := Function.update cache.maps field
      ((cache.maps field).insert key value slot).1 }

end CacheData

/-- The accounts that a handler takes, and how it decodes them. -/
structure AccountRoute (Value : Type) where
  programId : Pubkey
  discriminator : Option Discriminator
  matchesAccount : Bytes → Bool := fun _ => true
  subscribeProgramAccounts : Bool := true
  deserialize : Bytes → Except HandlerError Value

/-- Whether an account is of the program, starts with the discriminator, if there is
one, and matches. -/
def AccountRoute.takes {Value : Type} (route : AccountRoute Value) (owner : Pubkey)
    (data : Bytes) : Bool :=
  decide (route.programId = owner) &&
    route.discriminator.all (fun key => firstEight data = some key) &&
    route.matchesAccount data

/-- A handler that inserts the accounts of a route into a map. -/
def AccountRoute.handler {dlmm : DlmmAccounts} (field : CacheField)
    (route : AccountRoute (field.Value dlmm))
    (report : Pubkey → field.Value dlmm → HandleResult) :
    StorageHandler (CacheData dlmm) where
  State := field.Value dlmm
  programId := route.programId
  discriminator := route.discriminator.map Vector.toList
  matchesAccount := route.matchesAccount
  subscribeProgramAccounts := route.subscribeProgramAccounts
  deserialize := route.deserialize
  apply cache pubkey state slot :=
    (cache.insert field pubkey state slot, .ok (report pubkey state))

section Routes

variable (dlmm : DlmmAccounts)

/-- The error of a derived handler whose decoder failed. -/
def decodeError (data : Bytes) (err : Error) : HandlerError :=
  .deserialize data.length err.toText

def bondingCurveRoute : AccountRoute (CacheField.bondingCurves.Value dlmm) where
  programId := programId
  discriminator := some bondingCurveDiscriminator
  deserialize data :=
    ((BondingCurve.fromAccountData data).mapError .ofAccountParseError).mapError
      (decodeError data)

def pumpSwapPoolRoute : AccountRoute (CacheField.pumpSwapPools.Value dlmm) where
  programId := PumpSwap.programId
  discriminator := some poolDiscriminator
  deserialize data :=
    ((Pumpfun.fromAccountData poolDiscriminator
      PumpSwap.PumpSwapPool.fields data).mapError fun err =>
        Error.parseError ("PumpSwap pool: " ++ err.toText)).mapError
      (decodeError data)

/-- The accounts of a DLMM type. -/
def dlmmRoute {State : Type} (decoder : AccountDecoder State) :
    AccountRoute State where
  programId := MeteoraDlmm.programId
  discriminator := some decoder.discriminator
  deserialize data := (decoder.decode data).mapError (decodeError data)

def tokenAccountRoute (program : TokenProgram) :
    AccountRoute (CacheField.tokenAccounts.Value dlmm) where
  programId := program.id
  discriminator := none
  matchesAccount data := tokenAccountBaseLen ≤ data.length
  subscribeProgramAccounts := false
  deserialize data :=
    (TokenAccount.fromAccountData data program).mapError fun error =>
      .deserialize data.length error.toText

/-- The routes that lead into a map.  Blockhashes and the token programs of
mints do not come from accounts. -/
def routes : ∀ field : CacheField, List (AccountRoute (field.Value dlmm))
  | .blockhashes => []
  | .bondingCurves => [bondingCurveRoute dlmm]
  | .pumpSwapPools => [pumpSwapPoolRoute dlmm]
  | .dlmmLbPairs => [dlmmRoute dlmm.lbPair]
  | .dlmmBinArrays => [dlmmRoute dlmm.binArray]
  | .dlmmBinArrayBitmapExtensions => [dlmmRoute dlmm.binArrayBitmapExtension]
  | .dlmmPositions => [dlmmRoute dlmm.positionV2]
  | .mintTokenPrograms => []
  | .tokenAccounts =>
      [tokenAccountRoute dlmm .splToken, tokenAccountRoute dlmm .splToken2022]

end Routes

/-- The fields of a pool that a quote reads. -/
def quoteRoot (pool : PumpSwap.PumpSwapPool) : QuoteState.PumpSwapPool where
  poolBaseTokenAccount := pool.poolBaseTokenAccount
  poolQuoteTokenAccount := pool.poolQuoteTokenAccount
  coinCreator := pool.coinCreator

section Handlers

variable {dlmm : DlmmAccounts}

def reportNothing {State : Type} (_pubkey : Pubkey) (_state : State) : HandleResult :=
  .nothing

def pumpfunBondingCurveHandler : StorageHandler (CacheData dlmm) :=
  (bondingCurveRoute dlmm).handler .bondingCurves reportNothing

/-- A pool reports its vaults, unless there is a watchlist without it. -/
def reportVaults (watchlist : Option (Finset Pubkey)) (pubkey : Pubkey)
    (pool : PumpSwap.PumpSwapPool) : HandleResult :=
  if watchlist.all fun watched => pubkey ∈ watched then
    { HandleResult.nothing with
      accountsToSubscribe :=
        QuoteState.PumpSwapQuote.layout.dependentAccounts (quoteRoot pool) }
  else .nothing

def pumpSwapPoolHandler (watchlist : Option (Finset Pubkey)) :
    StorageHandler (CacheData dlmm) :=
  (pumpSwapPoolRoute dlmm).handler .pumpSwapPools (reportVaults watchlist)

def lbPairHandler : StorageHandler (CacheData dlmm) :=
  (dlmmRoute dlmm.lbPair).handler .dlmmLbPairs reportNothing

def binArrayHandler : StorageHandler (CacheData dlmm) :=
  (dlmmRoute dlmm.binArray).handler .dlmmBinArrays reportNothing

def binArrayBitmapExtensionHandler : StorageHandler (CacheData dlmm) :=
  (dlmmRoute dlmm.binArrayBitmapExtension).handler .dlmmBinArrayBitmapExtensions
    reportNothing

def positionV2Handler : StorageHandler (CacheData dlmm) :=
  (dlmmRoute dlmm.positionV2).handler .dlmmPositions reportNothing

def cachedTokenAccountHandler (program : TokenProgram) :
    StorageHandler (CacheData dlmm) :=
  (tokenAccountRoute dlmm program).handler .tokenAccounts reportNothing

/-- What the handlers of a map report. -/
def report (watchlist : Option (Finset Pubkey)) :
    ∀ field : CacheField, Pubkey → field.Value dlmm → HandleResult
  | .pumpSwapPools => reportVaults watchlist
  | _ => reportNothing

variable (dlmm) in
/-- The handlers that the protocols ship. -/
def cacheHandlers (watchlist : Option (Finset Pubkey)) :
    List (StorageHandler (CacheData dlmm)) :=
  [pumpfunBondingCurveHandler, pumpSwapPoolHandler watchlist, lbPairHandler,
    binArrayHandler, binArrayBitmapExtensionHandler, positionV2Handler,
    cachedTokenAccountHandler .splToken, cachedTokenAccountHandler .splToken2022,
    pumpfunGlobalHandler (CacheData dlmm), pumpfunFeeConfigHandler (CacheData dlmm)]

end Handlers

end Storage

end SolanaProtocols
