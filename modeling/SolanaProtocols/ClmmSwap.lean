import SolanaProtocols.PassLoop
import SolanaProtocols.PoolLayouts

/-!
# Swaps through concentrated liquidity

A swap walks the initialized ticks in the direction of the price.  Up to the
next tick it is a swap against constant liquidity; crossing the tick changes the
liquidity by what the tick records.  The walk ends when the input is used up,
when a range lets nothing through, or after more than a hundred ticks.

Prices and amounts of a range are computed in floating point, and are left to
`PriceMath`.  Sums are those of a build that wraps.
-/

namespace SolanaProtocols

open PoolLayouts (U128 ClmmPoolState)
open Pumpfun (U64)

namespace PoolLayouts

deriving instance Inhabited for RewardInfo

deriving instance Inhabited for ClmmPoolState

end PoolLayouts

namespace Clmm

def feeRateDenominator : Nat := 1000000

def minTick : Int := -443636

def maxTick : Int := 443636

/-- Individual tick state within a tick array. -/
structure TickState where
  tick : BitVec 32
  /-- A signed number; liquidity wraps around. -/
  liquidityNet : U128
  liquidityGross : U128
deriving DecidableEq, Inhabited

structure TickArrayState where
  ticks : Vector TickState 60

/-- Pool state bundled with tick arrays for swap computation. -/
structure PoolWithTickArrays where
  pool : ClmmPoolState
  tickArrays : List TickArrayState

/-- The price arithmetic. -/
structure PriceMath where
  tickToSqrtPriceX64 (tick : Int) : Nat
  tickFromSqrtPriceX64 (sqrtPrice : Nat) : Int
  getDeltaAmount0 (sqrtPriceLower sqrtPriceUpper : Nat) (liquidity : U128) : Nat
  getDeltaAmount1 (sqrtPriceLower sqrtPriceUpper : Nat) (liquidity : U128) : Nat
  /-- The price after an input of token 0. -/
  baseInputPrice (sqrtPrice : Nat) (liquidity : U128) (amountIn : Nat) : Nat
  /-- What an input of token 1 adds to the price. -/
  quoteInputDelta (liquidity : U128) (amountIn : Nat) : Nat

/-- Result of a CLMM swap computation. -/
structure ClmmSwapResult where
  amountIn : U64
  amountOut : U64
  feeAmount : U64
  sqrtPriceAfter : Nat
  tickAfter : Int
  tickCrossings : Nat
deriving DecidableEq

/-- A swap within a single tick range. -/
structure RangeSwap where
  consumed : Nat
  produced : Nat
  fee : Nat
  newSqrtPrice : Nat
  reachedTick : Bool
deriving DecidableEq

section Range

variable (math : PriceMath)

/-- Partial swap with token 0 input. -/
def computePartialSwapBaseInput (sqrtPrice : Nat) (liquidity : U128)
    (amountIn : Nat) : Nat × Nat × Nat :=
  if liquidity = 0 ∨ sqrtPrice = 0 then (0, 0, sqrtPrice)
  else
    let newSqrtPrice := math.baseInputPrice sqrtPrice liquidity amountIn
    (amountIn, math.getDeltaAmount1 newSqrtPrice sqrtPrice liquidity, newSqrtPrice)

/-- Partial swap with token 1 input. -/
def computePartialSwapQuoteInput (sqrtPrice : Nat) (liquidity : U128)
    (amountIn : Nat) : Nat × Nat × Nat :=
  if liquidity = 0 then (0, 0, sqrtPrice)
  else
    let newSqrtPrice :=
      min (sqrtPrice + math.quoteInputDelta liquidity amountIn) (2 ^ 128 - 1)
    (amountIn, math.getDeltaAmount0 sqrtPrice newSqrtPrice liquidity, newSqrtPrice)

/-- The amounts that move the price to the target, unless it is there
already. -/
def maxAmounts (sqrtPrice targetSqrtPrice : Nat) (liquidity : U128)
    (isBaseInput : Bool) : Option (Nat × Nat) :=
  if isBaseInput then
    if sqrtPrice ≤ targetSqrtPrice then none
    else some (math.getDeltaAmount0 targetSqrtPrice sqrtPrice liquidity,
      math.getDeltaAmount1 targetSqrtPrice sqrtPrice liquidity)
  else if targetSqrtPrice ≤ sqrtPrice then none
  else some (math.getDeltaAmount1 sqrtPrice targetSqrtPrice liquidity,
    math.getDeltaAmount0 sqrtPrice targetSqrtPrice liquidity)

def swapWithinTickRange (sqrtPrice targetSqrtPrice : Nat) (liquidity : U128)
    (amountInRemaining : Nat) (isBaseInput : Bool) (feeRate : Nat) : RangeSwap :=
  if liquidity = 0 then ⟨0, 0, 0, sqrtPrice, false⟩
  else
    let amountAfterFee :=
      amountInRemaining * (feeRateDenominator - feeRate) / feeRateDenominator
    match maxAmounts math sqrtPrice targetSqrtPrice liquidity isBaseInput with
    | none => ⟨0, 0, 0, sqrtPrice, false⟩
    | some (maxIn, maxOut) =>
        if maxIn ≤ amountAfterFee then
          let fee := maxIn * feeRate / (feeRateDenominator - feeRate)
          ⟨maxIn, maxOut, fee, targetSqrtPrice, true⟩
        else
          let (consumed, produced, newSqrtPrice) :=
            if isBaseInput then
              computePartialSwapBaseInput math sqrtPrice liquidity amountAfterFee
            else computePartialSwapQuoteInput math sqrtPrice liquidity amountAfterFee
          let fee := amountInRemaining - amountAfterFee
          ⟨consumed, produced, fee, newSqrtPrice, false⟩

end Range

/-- Where a swap stands. -/
structure SwapState where
  remainingIn : Nat
  totalOut : Nat
  totalFee : Nat
  sqrtPrice : Nat
  liquidity : U128
  tick : Int
  tickCrossings : Nat
  tickIter : List TickState

/-- The initialized ticks, unsorted. -/
def PoolWithTickArrays.initializedTicks (pool : PoolWithTickArrays) :
    List TickState :=
  (pool.tickArrays.flatMap (·.ticks.toList)).filter (0 < ·.liquidityGross)

/-- The ticks to walk: at or below the current tick, going down, or above it,
going up. -/
def PoolWithTickArrays.sortedTicks (pool : PoolWithTickArrays)
    (isBaseInput : Bool) : List TickState :=
  let tick := pool.pool.tickCurrent.toInt
  if isBaseInput then
    (pool.initializedTicks.mergeSort fun first second =>
      second.tick.toInt ≤ first.tick.toInt).filter (·.tick.toInt ≤ tick)
  else
    (pool.initializedTicks.mergeSort fun first second =>
      first.tick.toInt ≤ second.tick.toInt).filter (tick < ·.tick.toInt)

namespace SwapState

/-- The tick that comes next, or the last one there is. -/
def nextTick (state : SwapState) (isBaseInput : Bool) : Int :=
  match state.tickIter with
  | next :: _ => next.tick.toInt
  | [] => if isBaseInput then minTick else maxTick

/-- Cross the next tick, if there is one. -/
def cross (state : SwapState) (isBaseInput : Bool) : SwapState :=
  match state.tickIter with
  | [] => state
  | crossed :: rest =>
      { state with
        tick := crossed.tick.toInt
        liquidity :=
          if isBaseInput then state.liquidity - crossed.liquidityNet
          else state.liquidity + crossed.liquidityNet
        tickCrossings := state.tickCrossings + 1
        tickIter := rest }

def start (pool : PoolWithTickArrays) (amountIn : U64) (isBaseInput : Bool) :
    SwapState where
  remainingIn := amountIn.toNat
  totalOut := 0
  totalFee := 0
  sqrtPrice := pool.pool.sqrtPriceX64.toNat
  liquidity := pool.pool.liquidity
  tick := pool.pool.tickCurrent.toInt
  tickCrossings := 0
  tickIter := pool.sortedTicks isBaseInput

def result (stop : SwapState) (amountIn : U64) : ClmmSwapResult where
  amountIn := BitVec.ofNat 64 (amountIn.toNat - stop.remainingIn)
  amountOut := BitVec.ofNat 64 stop.totalOut
  feeAmount := BitVec.ofNat 64 stop.totalFee
  sqrtPriceAfter := stop.sqrtPrice
  tickAfter := stop.tick
  tickCrossings := stop.tickCrossings

end SwapState

section Swap

variable (math : PriceMath) (isBaseInput : Bool) (feeRate : Nat)

/-- One pass of the walk. -/
def swapPass (state : SwapState) : Pass SwapState SwapState :=
  if 0 < state.remainingIn then
    let targetSqrtPrice := math.tickToSqrtPriceX64 (state.nextTick isBaseInput)
    let range := swapWithinTickRange math state.sqrtPrice targetSqrtPrice
      state.liquidity state.remainingIn isBaseInput feeRate
    let moved := { state with
      remainingIn := state.remainingIn - (range.consumed + range.fee)
      totalOut := state.totalOut + range.produced
      totalFee := state.totalFee + range.fee
      sqrtPrice := range.newSqrtPrice }
    if range.reachedTick then
      let crossed := moved.cross isBaseInput
      -- "Safety: prevent infinite loops"
      if 100 < crossed.tickCrossings then .leave crossed else .next crossed
    else
      .leave { moved with tick := math.tickFromSqrtPriceX64 moved.sqrtPrice }
  else .leave state

/-- The state in which the walk stops.  `none` is a walk that has not ended. -/
def walk (fuel : Nat) (pool : PoolWithTickArrays) (amountIn : U64) :
    Option SwapState :=
  PassLoop.run (fun state => some (swapPass math isBaseInput feeRate state)) fuel
    (.start pool amountIn isBaseInput)

/-- Compute a swap with exact input amount. -/
def computeSwap (fuel : Nat) (pool : PoolWithTickArrays) (amountIn : U64) :
    Option ClmmSwapResult :=
  (walk math isBaseInput feeRate fuel pool amountIn).map (·.result amountIn)

end Swap

end Clmm

end SolanaProtocols
