import SolanaProtocols.CheckedArithmetic
import Mathlib.Tactic.Linarith
import Mathlib.Algebra.Order.Floor.Semiring

/-!
# Swap quotes of the constant product pools

The Raydium V4, Raydium CPMM, Raydium Launchpad and Meteora DBC pools quote a
swap from two reserves and a fee rate.  The three Raydium quotes share their
arithmetic on 128-bit integers and differ in the reserves and the fee; the DBC
quote works on saturating 64-bit integers.  The prices that a quote also
reports are floating point numbers and are left out.
-/

namespace SolanaProtocols

namespace Swap

inductive SwapDirection
  | buy
  | sell
deriving DecidableEq, Repr

inductive SwapAmount
  | exactIn (amount : UInt64)
  | exactOut (amount : UInt64)
deriving DecidableEq, Repr

def SwapAmount.amount : SwapAmount → UInt64
  | .exactIn amount => amount
  | .exactOut amount => amount

structure SwapParams where
  amount : SwapAmount
  direction : SwapDirection
deriving DecidableEq, Repr

structure SwapOutput where
  amountIn : UInt64
  amountOut : UInt64
  fee : UInt64
  protocolFee : UInt64
  lpFee : UInt64
deriving DecidableEq, Repr

/-- How a quote fails: with an error value, or with an arithmetic panic. -/
inductive Failure
  | panic
  | insufficientReserves (needed available : UInt64)
  | protocolError (protocol message : String)
deriving DecidableEq, Repr

abbrev Quote := SwapParams → Except Failure SwapOutput

/-- Plain machine arithmetic: a missing value is an overflow. -/
def orPanic {Value : Type} (option : Option Value) : Except Failure Value :=
  match option with
  | some value => .ok value
  | none => .error .panic

@[simp]
theorem orPanic_some {Value : Type} (value : Value) :
    orPanic (some value) = .ok value :=
  rfl

@[simp]
theorem ok_bind {Value Result : Type} (value : Value)
    (rest : Value → Except Failure Result) :
    (Except.ok value >>= rest) = rest value :=
  rfl

/-- The reserve that a swap fills and the reserve that it draws on. -/
def orient (base quote : Nat) : SwapDirection → Nat × Nat
  | .buy => (quote, base)
  | .sell => (base, quote)

/-- The arithmetic that the three Raydium quotes share, in 128-bit integers. -/
def constantProductSwap (fee reserveIn reserveOut : Nat) (rawAmount : UInt64) :
    Except Failure SwapOutput := do
  let amountInAfterFee ← orPanic (checkedSub rawAmount.toNat fee)
  let numerator ← orPanic (checkedMul 128 reserveOut amountInAfterFee)
  let denominator ← orPanic (checkedAdd 128 reserveIn amountInAfterFee)
  if denominator = 0 then
    throw (.insufficientReserves rawAmount 0)
  let amountOut := numerator / denominator
  -- The reserves after the swap only enter the prices, but they can overflow.
  let _ ← orPanic (checkedAdd 128 reserveIn rawAmount.toNat)
  let _ ← orPanic (checkedSub reserveOut amountOut)
  return {
    amountIn := rawAmount
    amountOut := UInt64.ofNat amountOut
    fee := UInt64.ofNat fee
    protocolFee := UInt64.ofNat fee
    lpFee := 0 }

end Swap

open Swap

namespace RaydiumV4

structure LiquidityPool where
  tradeFeeNumerator : UInt64
  tradeFeeDenominator : UInt64
deriving DecidableEq, Repr

structure PoolWithReserves where
  pool : LiquidityPool
  baseReserve : UInt64
  quoteReserve : UInt64
deriving DecidableEq, Repr

def calculateSwapOutput (pool : LiquidityPool)
    (baseReserve quoteReserve : UInt64) : Quote := fun params => do
  let rawAmount := params.amount.amount
  let product ← orPanic
    (checkedMul 128 rawAmount.toNat pool.tradeFeeNumerator.toNat)
  let fee := (checkedDiv product pool.tradeFeeDenominator.toNat).getD 0
  let (reserveIn, reserveOut) :=
    orient baseReserve.toNat quoteReserve.toNat params.direction
  constantProductSwap fee reserveIn reserveOut rawAmount

def PoolWithReserves.calculateSwap (self : PoolWithReserves) : Quote :=
  calculateSwapOutput self.pool self.baseReserve self.quoteReserve

end RaydiumV4

namespace RaydiumCpmm

def feeRateDenominator : Nat := 1000000

structure CpmmPoolWithReserves where
  reserve0 : UInt64
  reserve1 : UInt64
  tradeFeeRate : UInt64
deriving DecidableEq, Repr

/-- Buying pays with token 1 and receives token 0. -/
def calculateCpmmSwap (reserve0 reserve1 tradeFeeRate : UInt64) : Quote :=
  fun params => do
    let rawAmount := params.amount.amount
    let product ← orPanic (checkedMul 128 rawAmount.toNat tradeFeeRate.toNat)
    let fee := product / feeRateDenominator
    let (reserveIn, reserveOut) :=
      orient reserve0.toNat reserve1.toNat params.direction
    constantProductSwap fee reserveIn reserveOut rawAmount

def CpmmPoolWithReserves.calculateSwap (self : CpmmPoolWithReserves) : Quote :=
  calculateCpmmSwap self.reserve0 self.reserve1 self.tradeFeeRate

end RaydiumCpmm

namespace RaydiumLaunchpad

def feeRateDenominator : Nat := 1000000

structure LaunchpadPoolState where
  virtualBase : UInt64
  virtualQuote : UInt64
  realBase : UInt64
  realQuote : UInt64
deriving DecidableEq, Repr

structure LaunchpadSwapPool where
  pool : LaunchpadPoolState
  tradeFeeRate : UInt64
deriving DecidableEq, Repr

/-- A saturating subtraction. -/
def LaunchpadPoolState.baseReserve (self : LaunchpadPoolState) : Nat :=
  self.virtualBase.toNat - self.realBase.toNat

/-- A saturating addition. -/
def LaunchpadPoolState.quoteReserve (self : LaunchpadPoolState) : Nat :=
  min (self.virtualQuote.toNat + self.realQuote.toNat) (2 ^ 64 - 1)

def calculateLaunchpadSwap (pool : LaunchpadPoolState) (tradeFeeRate : UInt64) :
    Quote := fun params => do
  let rawAmount := params.amount.amount
  let product ← orPanic (checkedMul 128 rawAmount.toNat tradeFeeRate.toNat)
  let fee := product / feeRateDenominator
  let (reserveIn, reserveOut) :=
    orient pool.baseReserve pool.quoteReserve params.direction
  constantProductSwap fee reserveIn reserveOut rawAmount

def LaunchpadSwapPool.calculateSwap (self : LaunchpadSwapPool) : Quote :=
  calculateLaunchpadSwap self.pool self.tradeFeeRate

end RaydiumLaunchpad

namespace MeteoraDbc

def feeDenominator : Nat := 1000000000

structure VirtualPool where
  baseReserve : UInt64
  quoteReserve : UInt64
  isMigrated : UInt8
deriving DecidableEq, Repr

def VirtualPool.isActive (self : VirtualPool) : Bool :=
  self.isMigrated == 0

structure DbcSwapPool where
  pool : VirtualPool
  tradeFeeRate : UInt64
deriving DecidableEq, Repr

/-- The fee of a swap.  A product of more than 64 bits counts as no fee. -/
def dbcFee (rawAmount tradeFeeRate : Nat) : Nat :=
  ((checkedMul 64 rawAmount tradeFeeRate).bind
    (checkedDiv · feeDenominator)).getD 0

def calculateDbcSwap (pool : VirtualPool) (tradeFeeRate : UInt64) : Quote :=
  fun params => do
    if !pool.isActive then
      throw (.protocolError "MeteoraDbC" "pool is migrated/inactive")
    let rawAmount := params.amount.amount
    let fee := dbcFee rawAmount.toNat tradeFeeRate.toNat
    let amountAfterFee := rawAmount.toNat - fee
    let (reserveIn, reserveOut) :=
      orient pool.baseReserve.toNat pool.quoteReserve.toNat params.direction
    let denominator := min (reserveIn + amountAfterFee) (2 ^ 64 - 1)
    if denominator = 0 then
      return {
        amountIn := rawAmount
        amountOut := 0
        fee := UInt64.ofNat fee
        protocolFee := UInt64.ofNat (fee / 2)
        lpFee := UInt64.ofNat (fee / 2) }
    let amountOut := UInt64.ofNat
      (((checkedMul 128 reserveOut amountAfterFee).bind
        (checkedDiv · denominator)).getD 0)
    if reserveOut < amountOut.toNat then
      throw (.insufficientReserves amountOut (UInt64.ofNat reserveOut))
    return {
      amountIn := rawAmount
      amountOut := amountOut
      fee := UInt64.ofNat fee
      protocolFee := UInt64.ofNat (fee / 2)
      lpFee := UInt64.ofNat (fee / 2) }

def DbcSwapPool.calculateSwap (self : DbcSwapPool) : Quote :=
  calculateDbcSwap self.pool self.tradeFeeRate

end MeteoraDbc

end SolanaProtocols
