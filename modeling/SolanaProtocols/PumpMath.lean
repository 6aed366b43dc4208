import SolanaProtocols.ConstantProduct
import SolanaProtocols.MachineArithmetic
import SolanaProtocols.PumpState
import SolanaProtocols.RoundedFees
import SolanaProtocols.SwapExactOut

/-!
# Swap quotes of pumpfun and PumpSwap

Both protocols price on a constant product curve and round every fee up on its
own.  Pumpfun takes the fees of a buy from the input and those of a sell from
the output; PumpSwap always takes them from the output, and refuses a trade
whose output does not cover them.  Prices and the price impact are floating
point numbers and are left out; the integers they are computed from are kept
where they can overflow.
-/

namespace SolanaProtocols

open MachineArithmetic Pumpfun RoundedFees

namespace Swap

/-- How a quote of the pump protocols fails. -/
inductive QuoteError
  | panic
  | zeroAmount
  | insufficientReserves (needed available : UInt64)
  | feesExceedOutput (grossOut totalFee : UInt64)
  | bondingCurveCompleted
  | protocolError (protocol message : String)
deriving DecidableEq, Repr

/-- Plain arithmetic fails with a panic only. -/
def computed {Value : Type} : Option Value → Except QuoteError Value
  | some value => .ok value
  | none => .error .panic

def feeDenominator : Nat := 10000

/-- The fee of one rate, rounded up. -/
def ceilFee (build : Build) (amount bps : Nat) : Option Nat := do
  let product ← build.mul 128 amount bps
  divCeil product feeDenominator

/-- `SwapOutputBuilder::build`: the fee is the sum of its two parts. -/
def buildOutput (build : Build) (amountIn amountOut : UInt64)
    (protocolFee lpFee : Nat) : Option SwapOutput := do
  let fee ← build.add 64 protocolFee lpFee
  return {
    amountIn := amountIn
    amountOut := amountOut
    fee := UInt64.ofNat fee
    protocolFee := UInt64.ofNat protocolFee
    lpFee := UInt64.ofNat lpFee }

end Swap

open Swap

namespace Pumpfun

namespace BondingCurve

def calculateBuy (build : Build) (self : BondingCurve) (solAmount : UInt64)
    (fees : PumpfunFees) : Except QuoteError SwapOutput :=
  if self.complete then .error .bondingCurveCompleted
  else if solAmount = 0 then .error .zeroAmount
  else computed do
    let amountIn := solAmount.toNat
    let reserveIn := self.virtualQuoteReserves.toNat
    let reserveOut := self.virtualTokenReserves.toNat
    let protocolFee ← ceilFee build amountIn fees.protocolFeeBps.toNat
    let creatorFee ← ceilFee build amountIn fees.creatorFeeBps.toNat
    let totalFee ← build.add 128 protocolFee creatorFee
    let amountInAfterFee ← build.sub 128 amountIn totalFee
    let numerator ← build.mul 128 reserveOut amountInAfterFee
    let denominator ← build.add 128 reserveIn amountInAfterFee
    let amountOut ← checkedDiv numerator denominator
    -- The reserves after the swap only enter the prices.
    let _ ← build.add 128 reserveIn amountInAfterFee
    let _ ← build.sub 128 reserveOut amountOut
    let paid ← build.cast 64 amountOut
    let protocolPart ← build.cast 64 protocolFee
    let creatorPart ← build.cast 64 creatorFee
    buildOutput build solAmount (UInt64.ofNat paid) protocolPart creatorPart

def calculateSell (build : Build) (self : BondingCurve) (tokenAmount : UInt64)
    (fees : PumpfunFees) : Except QuoteError SwapOutput :=
  if self.complete then .error .bondingCurveCompleted
  else if tokenAmount = 0 then .error .zeroAmount
  else computed do
    let amountIn := tokenAmount.toNat
    let reserveIn := self.virtualTokenReserves.toNat
    let reserveOut := self.virtualQuoteReserves.toNat
    let numerator ← build.mul 128 reserveOut amountIn
    let denominator ← build.add 128 reserveIn amountIn
    let amountOutBeforeFees ← checkedDiv numerator denominator
    let protocolFee ←
      ceilFee build amountOutBeforeFees fees.protocolFeeBps.toNat
    let creatorFee ← ceilFee build amountOutBeforeFees fees.creatorFeeBps.toNat
    let totalFee ← build.add 128 protocolFee creatorFee
    let amountOut ← build.sub 128 amountOutBeforeFees totalFee
    let _ ← build.add 128 reserveIn amountIn
    let _ ← build.sub 128 reserveOut amountOutBeforeFees
    let paid ← build.cast 64 amountOut
    let protocolPart ← build.cast 64 protocolFee
    let creatorPart ← build.cast 64 creatorFee
    buildOutput build tokenAmount (UInt64.ofNat paid) protocolPart creatorPart

def calculateBuyExactOut (build : Build) (self : BondingCurve)
    (tokenAmount : UInt64) (fees : PumpfunFees) :
    Except QuoteError SwapOutput :=
  if self.complete then .error .bondingCurveCompleted
  else if tokenAmount = 0 then .error .zeroAmount
  else if self.virtualTokenReserves.toNat ≤ tokenAmount.toNat then
    .error (.insufficientReserves tokenAmount
      (UInt64.ofNat self.virtualTokenReserves.toNat))
  else computed do
    let amountOut := tokenAmount.toNat
    let reserveIn := self.virtualQuoteReserves.toNat
    let reserveOut := self.virtualTokenReserves.toNat
    let denominator ← build.sub 128 reserveOut amountOut
    let numerator ← build.mul 128 reserveIn amountOut
    let amountInAfterFee ← divCeil numerator denominator
    -- Gross up by the combined rate.
    let totalFeeBps ←
      build.add 64 fees.protocolFeeBps.toNat fees.creatorFeeBps.toNat
    let denominatorAfterFee ← build.sub 64 feeDenominator totalFeeBps
    let scaled ← build.mul 128 amountInAfterFee feeDenominator
    let amountIn ← divCeil scaled denominatorAfterFee
    let protocolFee ← ceilFee build amountIn fees.protocolFeeBps.toNat
    let creatorFee ← ceilFee build amountIn fees.creatorFeeBps.toNat
    let _ ← build.add 128 reserveIn amountInAfterFee
    let _ ← build.sub 128 reserveOut amountOut
    let asked ← build.cast 64 amountIn
    let protocolPart ← build.cast 64 protocolFee
    let creatorPart ← build.cast 64 creatorFee
    buildOutput build (UInt64.ofNat asked) tokenAmount protocolPart creatorPart

/-- The fees of a sell are on the output, so the output is grossed up before
anything is compared with the reserve. -/
def calculateSellExactOut (build : Build) (self : BondingCurve)
    (solAmount : UInt64) (fees : PumpfunFees) :
    Except QuoteError SwapOutput :=
  if self.complete then .error .bondingCurveCompleted
  else if solAmount = 0 then .error .zeroAmount
  else do
    let solOutBeforeFees ← computed do
      let totalFeeBps ←
        build.add 64 fees.protocolFeeBps.toNat fees.creatorFeeBps.toNat
      let scaled ← build.mul 128 solAmount.toNat feeDenominator
      let denominator ← build.sub 64 feeDenominator totalFeeBps
      divCeil scaled denominator
    let reserveIn := self.virtualTokenReserves.toNat
    let reserveOut := self.virtualQuoteReserves.toNat
    if reserveOut ≤ solOutBeforeFees then
      let needed ← computed (build.cast 64 solOutBeforeFees)
      .error (.insufficientReserves (UInt64.ofNat needed)
        (UInt64.ofNat reserveOut))
    else computed do
      let denominator ← build.sub 128 reserveOut solOutBeforeFees
      let numerator ← build.mul 128 reserveIn solOutBeforeFees
      let tokensIn ← divCeil numerator denominator
      let protocolFee ← ceilFee build solOutBeforeFees fees.protocolFeeBps.toNat
      let creatorFee ← ceilFee build solOutBeforeFees fees.creatorFeeBps.toNat
      let _ ← build.add 128 reserveIn tokensIn
      let _ ← build.sub 128 reserveOut solOutBeforeFees
      let asked ← build.cast 64 tokensIn
      let protocolPart ← build.cast 64 protocolFee
      let creatorPart ← build.cast 64 creatorFee
      buildOutput build (UInt64.ofNat asked) solAmount protocolPart creatorPart

/-- Price a swap with explicit fee rates. -/
def calculateSwapWithFees (build : Build) (self : BondingCurve)
    (params : SwapParams) (fees : PumpfunFees) : Except QuoteError SwapOutput :=
  match params.direction, params.amount with
  | .buy, .exactIn amount => self.calculateBuy build amount fees
  | .buy, .exactOut amount => self.calculateBuyExactOut build amount fees
  | .sell, .exactIn amount => self.calculateSell build amount fees
  | .sell, .exactOut amount => self.calculateSellExactOut build amount fees

end BondingCurve

end Pumpfun

namespace PumpSwap

/-- Fee structure for a PumpSwap pool, in basis points. -/
structure FeeStructure where
  creatorBps : U64
  protocolBps : U64
  lpBps : U64
deriving DecidableEq, Repr

/-- Ceiling division; dividing by zero gives zero. -/
def ceilDiv (a b : Nat) : Nat :=
  if b = 0 then 0 else a ⌈/⌉ b

namespace FeeStructure

def totalBps (build : Build) (self : FeeStructure) : Option Nat := do
  let sum ← build.add 64 self.creatorBps.toNat self.protocolBps.toNat
  build.add 64 sum self.lpBps.toNat

/-- Creator, protocol and LP fee of an output amount. -/
def calculateFees (build : Build) (self : FeeStructure)
    (amountBeforeFees : Nat) : Option (Nat × Nat × Nat) := do
  let creatorProduct ← build.mul 128 amountBeforeFees self.creatorBps.toNat
  let protocolProduct ← build.mul 128 amountBeforeFees self.protocolBps.toNat
  let lpProduct ← build.mul 128 amountBeforeFees self.lpBps.toNat
  let creatorFee ← build.cast 64 (ceilDiv creatorProduct feeDenominator)
  let protocolFee ← build.cast 64 (ceilDiv protocolProduct feeDenominator)
  let lpFee ← build.cast 64 (ceilDiv lpProduct feeDenominator)
  return (creatorFee, protocolFee, lpFee)

end FeeStructure

/-- Swap with an exact input; the fees are taken from the output. -/
def calculateSwapExactIn (build : Build) (amountIn : UInt64)
    (reserveIn reserveOut : U64) (fees : FeeStructure) :
    Except QuoteError (UInt64 × SwapOutput) := do
  let (amountOutBeforeFees, grossOut, creatorFee, protocolFee, lpFee, totalFee) ←
    computed do
      let numerator ← build.mul 128 reserveOut.toNat amountIn.toNat
      let denominator ← build.add 128 reserveIn.toNat amountIn.toNat
      let amountOutBeforeFees ← checkedDiv numerator denominator
      let grossOut ← build.cast 64 amountOutBeforeFees
      let (creatorFee, protocolFee, lpFee) ← fees.calculateFees build grossOut
      let firstFees ← build.add 64 creatorFee protocolFee
      let totalFee ← build.add 64 firstFees lpFee
      return (amountOutBeforeFees, grossOut, creatorFee, protocolFee, lpFee,
        totalFee)
  match checkedSub grossOut totalFee with
  | none =>
    .error (.feesExceedOutput (UInt64.ofNat grossOut) (UInt64.ofNat totalFee))
  | some amountOut => computed do
    let _ ← build.add 128 reserveIn.toNat amountIn.toNat
    let _ ← build.sub 128 reserveOut.toNat amountOutBeforeFees
    let lpPart ← build.add 64 creatorFee lpFee
    return (UInt64.ofNat amountOut, {
      amountIn := amountIn
      amountOut := UInt64.ofNat amountOut
      fee := UInt64.ofNat totalFee
      protocolFee := UInt64.ofNat protocolFee
      lpFee := UInt64.ofNat lpPart })

/-- `SwapOutput::default()`. -/
def defaultOutput : SwapOutput := ⟨0, 0, 0, 0, 0⟩

/-- Swap with an exact output.  Nothing can be refused here: a request beyond
the reserves is answered with the default output. -/
def calculateSwapExactOut (build : Build) (desiredAmountOut : UInt64)
    (reserveIn reserveOut : U64) (fees : FeeStructure) : Option SwapOutput := do
  let totalFeeBps ← fees.totalBps build
  let scaled ← build.mul 128 desiredAmountOut.toNat feeDenominator
  let afterFee ← build.sub 128 feeDenominator totalFeeBps
  let amountBeforeFees := ceilDiv scaled afterFee
  if reserveOut.toNat ≤ amountBeforeFees then
    return defaultOutput
  else
    let numerator ← build.mul 128 reserveIn.toNat amountBeforeFees
    let denominator ← build.sub 128 reserveOut.toNat amountBeforeFees
    let amountIn := ceilDiv numerator denominator
    let gross ← build.cast 64 amountBeforeFees
    let (creatorFee, protocolFee, lpFee) ← fees.calculateFees build gross
    let firstFees ← build.add 64 creatorFee protocolFee
    let totalFee ← build.add 64 firstFees lpFee
    let asked ← build.cast 64 amountIn
    let lpPart ← build.add 64 creatorFee lpFee
    return {
      amountIn := UInt64.ofNat asked
      amountOut := desiredAmountOut
      fee := UInt64.ofNat totalFee
      protocolFee := UInt64.ofNat protocolFee
      lpFee := UInt64.ofNat lpPart }

end PumpSwap

end SolanaProtocols
