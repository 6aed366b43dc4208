import SolanaProtocols.PumpConfig

/-!
# Pool accounts of the pump programs

The bonding curve of pumpfun and the pool of PumpSwap.  A bonding curve written
before the cashback upgrade ends before the two flags that the upgrade added; a
pool carries no reserves, so it is paired with the balances of its vaults.
-/

namespace SolanaProtocols

open PrefixCodec Pumpfun

/-- A field that only accounts written after some upgrade have. -/
inductive Legacy (Value : Type)
  | present (value : Value)
  | absent
deriving DecidableEq, Repr

namespace Legacy

variable {Value : Type}

def isPresent : Legacy Value → Bool
  | present _ => true
  | absent => false

/-- Read the field if there are bytes left for it. -/
def decode (codec : PrefixCodec Value) (data : Bytes) :
    Except String (Legacy Value × Bytes) :=
  if data = [] then .ok (absent, [])
  else (codec.decode data).map fun (value, rest) => (present value, rest)

end Legacy

namespace Pumpfun

/-- On-chain bonding curve account state. -/
structure BondingCurve where
  virtualTokenReserves : U64
  virtualQuoteReserves : U64
  realTokenReserves : U64
  realQuoteReserves : U64
  tokenTotalSupply : U64
  complete : Bool
  creator : Pubkey
  isMayhemMode : Legacy Bool
  isCashbackCoin : Legacy Bool
deriving DecidableEq, Repr

namespace BondingCurve

def isActive (curve : BondingCurve) : Bool :=
  !curve.complete

/-- The fields that every curve has, in the order of the account. -/
abbrev Core : Type :=
  U64 × U64 × U64 × U64 × U64 × Bool × Pubkey

def coreFields : PrefixCodec Core :=
  u64.pair <| u64.pair <| u64.pair <| u64.pair <| u64.pair <| bool.pair pubkey

def ofCore : Core → Legacy Bool → Legacy Bool → BondingCurve
  | (virtualToken, virtualQuote, realToken, realQuote, supply, complete, creator),
      mayhem, cashback =>
    ⟨virtualToken, virtualQuote, realToken, realQuote, supply, complete, creator,
      mayhem, cashback⟩

end BondingCurve

end Pumpfun

namespace PumpSwap

/-- PumpSwap pool state from on-chain account. -/
structure PumpSwapPool where
  poolBump : UInt8
  index : BitVec 16
  creator : Pubkey
  baseMint : Pubkey
  quoteMint : Pubkey
  lpMint : Pubkey
  poolBaseTokenAccount : Pubkey
  poolQuoteTokenAccount : Pubkey
  lpSupply : U64
  coinCreator : Pubkey
  isMayhemMode : Bool
deriving DecidableEq, Repr

namespace PumpSwapPool

def fields : PrefixCodec PumpSwapPool :=
  (byte.pair <| (littleEndian 2).pair <| pubkey.pair <| pubkey.pair <|
    pubkey.pair <| pubkey.pair <| pubkey.pair <| pubkey.pair <| u64.pair <|
    pubkey.pair bool).equiv
    { toFun := fun (a, b, c, d, e, f, g, h, i, j, k) =>
        ⟨a, b, c, d, e, f, g, h, i, j, k⟩
      invFun := fun ⟨a, b, c, d, e, f, g, h, i, j, k⟩ =>
        (a, b, c, d, e, f, g, h, i, j, k)
      left_inv := fun _ => rfl
      right_inv := fun _ => rfl }

def hasCreator (pool : PumpSwapPool) : Bool :=
  pool.coinCreator ≠ 0

end PumpSwapPool

/-- A pool paired with the vault balances that its account does not carry. -/
structure PoolWithReserves where
  pool : PumpSwapPool
  baseReserves : U64
  quoteReserves : U64
deriving DecidableEq, Repr

def PoolWithReserves.isActive (self : PoolWithReserves) : Bool :=
  0 < self.baseReserves ∧ 0 < self.quoteReserves

end PumpSwap

end SolanaProtocols
