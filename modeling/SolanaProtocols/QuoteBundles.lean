import SolanaProtocols.PumpConfig
import SolanaProtocols.QuoteAssembly

/-!
# The quote states of pumpfun and PumpSwap

A PumpSwap pool holds no reserves: they live in two vaults.  A bonding curve
carries its own.  Both select their fees from a FeeConfig account.
-/

namespace SolanaProtocols

namespace QuoteState

open Storage Pumpfun

/-- The singleton that holds the FeeConfig of PumpSwap. -/
structure PumpSwapFeeConfig where
  config : PumpfunFeeConfig
deriving DecidableEq, Repr

structure PumpSwapPool where
  poolBaseTokenAccount : Pubkey
  poolQuoteTokenAccount : Pubkey
  coinCreator : Pubkey
deriving DecidableEq, Repr

def PumpSwapPool.hasCreator (pool : PumpSwapPool) : Bool :=
  pool.coinCreator ≠ 0

structure TokenAccount where
  balance : U64
deriving DecidableEq, Repr

structure BondingCurve where
  virtualTokenReserves : U64
  virtualQuoteReserves : U64
  tokenTotalSupply : U64
deriving DecidableEq, Repr

/-- Look up the fee tier for a given market cap. -/
def calculateFeeTier (feeTiers : List PumpfunFeeTier)
    (marketCap : BitVec 128) : PumpfunFees :=
  match feeTiers with
  | [] => ⟨0, 0, 0⟩
  | first :: _ =>
      if marketCap < first.marketCapLamportsThreshold then first.fees
      else
        match feeTiers.reverse.find? fun tier =>
            tier.marketCapLamportsThreshold ≤ marketCap with
        | some tier => tier.fees
        | none => first.fees

/-- Bonding curve market cap in lamports. -/
def bondingCurveMarketCap (virtualSolReserves virtualTokenReserves
    tokenTotalSupply : U64) : BitVec 128 :=
  if virtualTokenReserves = 0 then 0
  else virtualSolReserves.setWidth 128 * tokenTotalSupply.setWidth 128 /
    virtualTokenReserves.setWidth 128

/-- The fees of a PumpSwap pool. -/
def Fees.select (config : PumpSwapFeeConfig) (hasCoinCreator : Bool)
    (quoteReserves : U64) : PumpfunFees :=
  if !hasCoinCreator then config.config.flatFees
  else calculateFeeTier config.config.feeTiers.val (quoteReserves.setWidth 128)

/-- The types that the fields of the quote states have. -/
inductive BundleTy
  | pumpSwapPool
  | bondingCurve
  | tokenAccount
  | pumpSwapFeeConfig
  | pumpfunFeeConfig
  | pumpfunFees
deriving DecidableEq, Repr

def BundleTy.Val : BundleTy → Type
  | .pumpSwapPool => PumpSwapPool
  | .bondingCurve => BondingCurve
  | .tokenAccount => TokenAccount
  | .pumpSwapFeeConfig => PumpSwapFeeConfig
  | .pumpfunFeeConfig => PumpfunFeeConfig
  | .pumpfunFees => PumpfunFees

/-- A key that is read out of the root, which is a PumpSwap pool. -/
def poolKey (key : PumpSwapPool → Pubkey) : Sigma BundleTy.Val → Pubkey
  | ⟨.pumpSwapPool, pool⟩ => key pool
  | _ => 0

namespace PumpSwapQuote

def fees : List (Sigma BundleTy.Val) → BundleTy.Val .pumpfunFees
  | [⟨.pumpSwapPool, pool⟩, _, ⟨.tokenAccount, quote⟩,
      ⟨.pumpSwapFeeConfig, feeConfig⟩] =>
      Fees.select feeConfig (PumpSwapPool.hasCreator pool)
        (TokenAccount.balance quote)
  | _ => PumpfunFees.mk 0 0 0

/-- The fields of `PumpSwapQuote`. -/
def fields : List (FieldDecl BundleTy.Val) :=
  [⟨"pool", .pumpSwapPool, [[.root]]⟩,
    ⟨"base", .tokenAccount,
      [[.key (.ofRoot (poolKey PumpSwapPool.poolBaseTokenAccount)),
        .expect "dynamic"]]⟩,
    ⟨"quote", .tokenAccount,
      [[.key (.ofRoot (poolKey PumpSwapPool.poolQuoteTokenAccount)),
        .expect "dynamic"]]⟩,
    ⟨"fee_config", .pumpSwapFeeConfig, [[.singleton]]⟩,
    ⟨"fees", .pumpfunFees, [[.computed fees]]⟩]

def layout : Layout BundleTy.Val where
  lead := []
  rootTy := .pumpSwapPool
  rest :=
    [.keyed .tokenAccount PumpSwapPool.poolBaseTokenAccount .dynamic,
      .keyed .tokenAccount PumpSwapPool.poolQuoteTokenAccount .dynamic,
      .singleton .pumpSwapFeeConfig,
      .computed .pumpfunFees fees]

theorem derive_fields : derive "PumpSwapQuote" fields = .ok layout := by
  rfl

/-- A PumpSwap quote depends on the two vaults of its pool. -/
theorem dependentAccounts_layout (pool : PumpSwapPool) :
    layout.dependentAccounts pool =
      [⟨pool.poolBaseTokenAccount, .dynamic⟩,
        ⟨pool.poolQuoteTokenAccount, .dynamic⟩] :=
  rfl

end PumpSwapQuote

namespace PumpfunQuote

def fees : List (Sigma BundleTy.Val) → BundleTy.Val .pumpfunFees
  | [⟨.bondingCurve, curve⟩, ⟨.pumpfunFeeConfig, feeConfig⟩] =>
      calculateFeeTier (PumpfunFeeConfig.feeTiers feeConfig).val
        (bondingCurveMarketCap (BondingCurve.virtualQuoteReserves curve)
          (BondingCurve.virtualTokenReserves curve)
          (BondingCurve.tokenTotalSupply curve))
  | _ => PumpfunFees.mk 0 0 0

/-- The fields of `PumpfunQuote`. -/
def fields : List (FieldDecl BundleTy.Val) :=
  [⟨"curve", .bondingCurve, [[.root]]⟩,
    ⟨"fee_config", .pumpfunFeeConfig, [[.singleton]]⟩,
    ⟨"fees", .pumpfunFees, [[.computed fees]]⟩]

def layout : Layout BundleTy.Val where
  lead := []
  rootTy := .bondingCurve
  rest := [.singleton .pumpfunFeeConfig, .computed .pumpfunFees fees]

theorem derive_fields : derive "PumpfunQuote" fields = .ok layout := by
  rfl

theorem dependentAccounts_layout (curve : BondingCurve) :
    layout.dependentAccounts curve = [] :=
  rfl

end PumpfunQuote

end QuoteState

end SolanaProtocols
