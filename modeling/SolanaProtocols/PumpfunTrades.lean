import SolanaProtocols.PumpfunQuotes

/-!
# Sequences of pumpfun trades

Buys and sells are quoted one after the other on a bonding curve, each under the
fees of its own tier.  A buy puts its input without the fee on the curve, a sell
takes its gross output off it, so each is a trade of the constant product curve;
a ledger of what was paid and received then shows that tokens which are all sold
again have not cost the curve anything.
-/

namespace SolanaProtocols

open ConstantProduct MachineArithmetic Swap

namespace Pumpfun

namespace BondingCurve

/-- The virtual reserves, with the token as the base. -/
def reserves (curve : BondingCurve) : Reserves :=
  ⟨curve.virtualTokenReserves.toNat, curve.virtualQuoteReserves.toNat⟩

/-- The curve with other virtual reserves. -/
def withReserves (curve : BondingCurve) (token quote : U64) : BondingCurve :=
  { curve with virtualTokenReserves := token, virtualQuoteReserves := quote }

section Answers

variable {build : Build} {curve : BondingCurve} {fees : PumpfunFees}
  {amount : UInt64} {direction : SwapDirection} {quote : SwapOutput}

theorem live_of_answered
    (answered : curve.calculateSwapWithFees build ⟨.exactIn amount, direction⟩
      fees = .ok quote) : curve.complete = false ∧ amount ≠ 0 := by
  by_cases complete : curve.complete
  · cases direction <;>
      simp [calculateSwapWithFees, calculateBuy, calculateSell, complete]
        at answered
  by_cases zero : amount = 0
  · cases direction <;>
      simp [calculateSwapWithFees, calculateBuy, calculateSell, complete, zero]
        at answered
  exact ⟨by simpa using complete, zero⟩

theorem fee_of_answered (below : fees.rates.sum < feeDenominator)
    (answered : curve.calculateSwapWithFees build ⟨.exactIn amount, direction⟩
      fees = .ok quote) :
    quote.fee.toNat = fees.charge (curve.gross direction amount.toNat) := by
  cases direction with
  | buy => exact fee_of_calculateBuy below answered
  | sell => exact fee_of_calculateSell below answered

theorem quote_of_answered (funded : 0 < curve.virtualQuoteReserves.toNat)
    (below : fees.rates.sum < feeDenominator)
    (answered : curve.calculateSwapWithFees build ⟨.exactIn amount, direction⟩
      fees = .ok quote)
    (feeLe : quote.fee.toNat ≤ curve.gross direction amount.toNat) :
    quote.amountIn = amount ∧
      quote.amountOut.toNat = curve.paid fees direction amount.toNat := by
  obtain ⟨incomplete, positive⟩ := live_of_answered answered
  rw [fee_of_answered below answered] at feeLe
  rw [calculateSwapWithFees_exactIn_eq incomplete funded positive below feeLe]
    at answered
  cases answered
  exact ⟨rfl, UInt64.toNat_ofNat_of_lt'
    (paid_le.trans_lt (curve.outputReserve direction).isLt)⟩

end Answers

end BondingCurve

/-- A curve, and what has been traded on it. -/
structure Session where
  curve : BondingCurve
  tokensBought : Nat
  tokensSold : Nat
  solPaidIn : Nat
  solPaidOut : Nat
deriving DecidableEq, Repr

namespace Session

def start (curve : BondingCurve) : Session :=
  ⟨curve, 0, 0, 0, 0⟩

/-- A quoted trade, with a fee no larger than what it is taken from, moves the
virtual reserves. -/
inductive Step (build : Build) : Session → Session → Prop
  | buy {session : Session} {fees : PumpfunFees} {amount : UInt64}
      {quote : SwapOutput} {token sol : U64}
      (below : fees.rates.sum < feeDenominator)
      (answered : session.curve.calculateSwapWithFees build
        ⟨.exactIn amount, .buy⟩ fees = .ok quote)
      (feeLe : quote.fee.toNat ≤ session.curve.gross .buy amount.toNat)
      (solEq : sol.toNat + quote.fee.toNat =
        session.curve.virtualQuoteReserves.toNat + quote.amountIn.toNat)
      (tokenEq : token.toNat + quote.amountOut.toNat =
        session.curve.virtualTokenReserves.toNat) :
      Step build session {
        curve := session.curve.withReserves token sol
        tokensBought := session.tokensBought + quote.amountOut.toNat
        tokensSold := session.tokensSold
        solPaidIn := session.solPaidIn + quote.amountIn.toNat
        solPaidOut := session.solPaidOut }
  | sell {session : Session} {fees : PumpfunFees} {amount : UInt64}
      {quote : SwapOutput} {token sol : U64}
      (below : fees.rates.sum < feeDenominator)
      (answered : session.curve.calculateSwapWithFees build
        ⟨.exactIn amount, .sell⟩ fees = .ok quote)
      (feeLe : quote.fee.toNat ≤ session.curve.gross .sell amount.toNat)
      (tokenEq : token.toNat =
        session.curve.virtualTokenReserves.toNat + quote.amountIn.toNat)
      (solEq : sol.toNat + quote.amountOut.toNat + quote.fee.toNat =
        session.curve.virtualQuoteReserves.toNat) :
      Step build session {
        curve := session.curve.withReserves token sol
        tokensBought := session.tokensBought
        tokensSold := session.tokensSold + quote.amountIn.toNat
        solPaidIn := session.solPaidIn
        solPaidOut := session.solPaidOut + quote.amountOut.toNat }

/-- What the ledger says of the reserves: every token is accounted for, and the
quote reserve has kept what was paid in and not paid out. -/
structure Balanced (first : BondingCurve) (session : Session) : Prop where
  tokens : session.curve.reserves.base + session.tokensBought =
    first.reserves.base + session.tokensSold
  sol : session.curve.reserves.quote + session.solPaidOut ≤
    first.reserves.quote + session.solPaidIn

section Runs

variable {build : Build} {first : BondingCurve} {before after last : Session}

/-- A step on a funded curve is a trade of its reserves. -/
theorem Step.trade (step : Step build before after)
    (funded : before.curve.reserves.Funded) :
    Reserves.Trade before.curve.reserves after.curve.reserves := by
  cases step with
  | @buy fees amount quote token sol below answered feeLe solEq tokenEq =>
    obtain ⟨amountEq, paidEq⟩ :=
      BondingCurve.quote_of_answered funded.quote below answered feeLe
    have feeEq := BondingCurve.fee_of_answered below answered
    have covered : quote.amountOut.toNat ≤
        output before.curve.virtualQuoteReserves.toNat
          before.curve.virtualTokenReserves.toNat
          (amount.toNat - fees.charge amount.toNat) := paidEq.le
    have moved : (before.curve.withReserves token sol).reserves =
        ⟨before.curve.virtualTokenReserves.toNat - quote.amountOut.toNat,
          before.curve.virtualQuoteReserves.toNat +
            (amount.toNat - fees.charge amount.toNat)⟩ := by
      simp only [BondingCurve.reserves, BondingCurve.withReserves,
        BondingCurve.gross, Reserves.mk.injEq] at feeEq feeLe ⊢
      rw [amountEq] at solEq
      omega
    rw [moved]
    exact .buy _ _ covered
  | @sell fees amount quote token sol below answered feeLe tokenEq solEq =>
    obtain ⟨amountEq, paidEq⟩ :=
      BondingCurve.quote_of_answered funded.quote below answered feeLe
    have feeEq := BondingCurve.fee_of_answered below answered
    have moved : (before.curve.withReserves token sol).reserves =
        ⟨before.curve.virtualTokenReserves.toNat + amount.toNat,
          before.curve.virtualQuoteReserves.toNat -
            before.curve.grossSell amount.toNat⟩ := by
      simp only [BondingCurve.reserves, BondingCurve.withReserves,
        BondingCurve.gross, BondingCurve.paid, Reserves.mk.injEq]
        at feeEq feeLe paidEq ⊢
      rw [amountEq] at tokenEq
      omega
    rw [moved]
    exact .sell _ _ le_rfl

/-- A step keeps the books. -/
theorem Step.balanced (step : Step build before after)
    (balanced : Balanced first before) : Balanced first after := by
  have tokens := balanced.tokens
  have sol := balanced.sol
  cases step with
  | buy below answered feeLe solEq tokenEq =>
    constructor
    · simp only [BondingCurve.reserves, BondingCurve.withReserves] at tokens ⊢
      omega
    · simp only [BondingCurve.reserves, BondingCurve.withReserves] at sol ⊢
      omega
  | sell below answered feeLe tokenEq solEq =>
    constructor
    · simp only [BondingCurve.reserves, BondingCurve.withReserves] at tokens ⊢
      omega
    · simp only [BondingCurve.reserves, BondingCurve.withReserves] at sol ⊢
      omega

theorem balanced_start (first : BondingCurve) : Balanced first (start first) :=
  ⟨rfl, le_rfl⟩

theorem run_keeps
    (run : Relation.ReflTransGen (Step build) (start first) last)
    (funded : first.reserves.Funded) :
    Balanced first last ∧
      Relation.ReflTransGen Reserves.Trade first.reserves last.curve.reserves := by
  induction run with
  | refl => exact ⟨balanced_start first, .refl⟩
  | tail _ step ih =>
    obtain ⟨balanced, trades⟩ := ih
    have stillFunded := (Reserves.keeps_of_trades trades funded).1
    exact ⟨step.balanced balanced, trades.tail (step.trade stillFunded)⟩

/-- No sequence of trades drains a curve: the product of the virtual reserves
never falls, neither reserve reaches zero, and tokens that are all sold again
have returned no more SOL than was paid for them. -/
theorem trades_never_drain (tokenFunded : first.virtualTokenReserves ≠ 0)
    (quoteFunded : first.virtualQuoteReserves ≠ 0)
    (run : Relation.ReflTransGen (Step build) (start first) last) :
    first.virtualTokenReserves.toNat * first.virtualQuoteReserves.toNat ≤
        last.curve.virtualTokenReserves.toNat *
          last.curve.virtualQuoteReserves.toNat ∧
      last.curve.virtualTokenReserves ≠ 0 ∧
      last.curve.virtualQuoteReserves ≠ 0 ∧
      (last.tokensSold = last.tokensBought →
        last.solPaidOut ≤ last.solPaidIn) := by
  have funded : first.reserves.Funded :=
    ⟨toNat_pos tokenFunded, toNat_pos quoteFunded⟩
  obtain ⟨balanced, trades⟩ := run_keeps run funded
  obtain ⟨lastFunded, grown⟩ := Reserves.keeps_of_trades trades funded
  refine ⟨grown, ne_zero_of_toNat_pos lastFunded.base,
    ne_zero_of_toNat_pos lastFunded.quote, ?_⟩
  intro allSold
  have tokens := balanced.tokens
  have sol := balanced.sol
  have kept := Reserves.quote_le_of_base_le trades funded (by omega)
  omega

end Runs

/-- What one SOL leaves of a fresh curve. -/
def afterOneSol : BondingCurve :=
  BondingCurve.launch.withReserves 1038805970149254 30987500000

theorem exists_step_one_sol :
    ∃ last, Step .debug (start BondingCurve.launch) last ∧
      last.curve = afterOneSol := by
  have answered := @BondingCurve.calculateSwapWithFees_exactIn_eq .debug
    BondingCurve.launch BondingCurve.launchFees 1000000000 .buy rfl (by decide)
    (by decide) (by decide) (by decide)
  exact ⟨_, Step.buy (by decide) answered (by decide) (by decide) (by decide),
    rfl⟩

theorem trades_never_drain_one_sol :
    BondingCurve.launch.virtualTokenReserves.toNat *
        BondingCurve.launch.virtualQuoteReserves.toNat ≤
      afterOneSol.virtualTokenReserves.toNat *
        afterOneSol.virtualQuoteReserves.toNat := by
  obtain ⟨last, step, lastEq⟩ := exists_step_one_sol
  rw [← lastEq]
  exact (trades_never_drain (by decide) (by decide) (.single step)).1

end Session

end Pumpfun

end SolanaProtocols
