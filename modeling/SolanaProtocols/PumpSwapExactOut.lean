import SolanaProtocols.PumpfunExactOut
import SolanaProtocols.PumpSwapQuotes

/-!
# Exact-out quotes of PumpSwap

A quote for an output cannot be refused: a request beyond the reserves comes
back as an output of zeros, and an input of more than 64 bits is cut off.  What
is asked for is the cost of the output grossed up by the combined fee rate, and
whether swapping it pays the output depends on how the three fees are rounded.
-/

namespace SolanaProtocols

open ConstantProduct MachineArithmetic Pumpfun RoundedFees Swap

namespace PumpSwap

section Delivery

variable {build : Build} {fees : FeeStructure} {amount paidIn : UInt64}
  {reserveIn reserveOut : U64}

/-- Swapping an input pays an output exactly when the gross output affords its
fees and the output. -/
theorem pays_iff (funded : 0 < reserveIn.toNat)
    (below : fees.rates.sum < feeDenominator) (positive : 0 < amount.toNat) :
    (∃ paid swap,
      calculateSwapExactIn build paidIn reserveIn reserveOut fees =
          .ok (paid, swap) ∧
        amount ≤ paid) ↔
      Affords feeDenominator fees.rates
        (output reserveIn.toNat reserveOut.toNat paidIn.toNat) amount.toNat := by
  have affords : Affords feeDenominator fees.rates
      (output reserveIn.toNat reserveOut.toNat paidIn.toNat) amount.toNat ↔
      fees.charge (output reserveIn.toNat reserveOut.toNat paidIn.toNat) +
          amount.toNat ≤
        output reserveIn.toNat reserveOut.toNat paidIn.toNat :=
    affords_iff (by decide)
  rw [affords]
  by_cases covered :
    fees.charge (output reserveIn.toNat reserveOut.toNat paidIn.toNat) ≤
      output reserveIn.toNat reserveOut.toNat paidIn.toNat
  · have net : (UInt64.ofNat
        (output reserveIn.toNat reserveOut.toNat paidIn.toNat -
          fees.charge
            (output reserveIn.toNat reserveOut.toNat paidIn.toNat))).toNat =
        output reserveIn.toNat reserveOut.toNat paidIn.toNat -
          fees.charge
            (output reserveIn.toNat reserveOut.toNat paidIn.toNat) :=
      UInt64.toNat_ofNat_of_lt' ((Nat.sub_le _ _).trans_lt
        (output_le.trans_lt reserveOut.isLt))
    rw [calculateSwapExactIn_eq funded below rfl covered]
    constructor
    · rintro ⟨paid, swap, answered, enough⟩
      cases answered
      rw [UInt64.le_iff_toNat_le, net] at enough
      omega
    · intro enough
      refine ⟨_, _, rfl, ?_⟩
      rw [UInt64.le_iff_toNat_le, net]
      omega
  · rw [calculateSwapExactIn_refused funded below rfl (Nat.not_le.mp covered)]
    constructor
    · rintro ⟨paid, swap, answered, -⟩
      cases answered
    · intro enough
      omega

end Delivery

/-- Where a PumpSwap swap is priced. -/
inductive SwapSource
  | ofQuote (quote : PumpSwapQuote)
  | ofPool (pool : PoolWithReserves)
deriving DecidableEq, Repr

namespace SwapSource

/-- The reserve that a swap fills. -/
def reserveIn : SwapSource → SwapDirection → U64
  | ofQuote quote, direction => quote.reserveIn direction
  | ofPool pool, .buy => pool.quoteReserves
  | ofPool pool, .sell => pool.baseReserves

/-- The reserve that a swap draws on. -/
def reserveOut : SwapSource → SwapDirection → U64
  | ofQuote quote, direction => quote.reserveOut direction
  | ofPool pool, .buy => pool.baseReserves
  | ofPool pool, .sell => pool.quoteReserves

def fees (quoteReservesSol : U64 → Rat) : SwapSource → FeeStructure
  | ofQuote quote => quote.feeStructure
  | ofPool pool =>
    feeStructure (quoteReservesSol pool.quoteReserves) pool.pool.hasCreator

def calculateSwap (build : Build) (quoteReservesSol : U64 → Rat) :
    SwapSource → SwapParams → Except QuoteError SwapOutput
  | ofQuote quote, params => quote.calculateSwap build params
  | ofPool pool, params => pool.calculateSwap build quoteReservesSol params

variable {build : Build} {quoteReservesSol : U64 → Rat} {source : SwapSource}
  {direction : SwapDirection} {amount : UInt64}

theorem calculateSwap_exactOut (inFunded : source.reserveIn direction ≠ 0)
    (outFunded : source.reserveOut direction ≠ 0) :
    source.calculateSwap build quoteReservesSol ⟨.exactOut amount, direction⟩ =
      computed (calculateSwapExactOut build amount (source.reserveIn direction)
        (source.reserveOut direction) (source.fees quoteReservesSol)) := by
  cases source with
  | ofQuote quote =>
    have active : quote.isActive = true := by
      rw [PumpSwapQuote.isActive_iff]
      cases direction with
      | buy => exact ⟨outFunded, inFunded⟩
      | sell => exact ⟨inFunded, outFunded⟩
    unfold calculateSwap PumpSwapQuote.calculateSwap
    cases direction <;>
      simp [active, reserveIn, reserveOut, PumpSwapQuote.reserveIn,
        PumpSwapQuote.reserveOut, fees]
  | ofPool pool =>
    have active : pool.isActive = true := by
      rw [PoolWithReserves.isActive_iff]
      cases direction with
      | buy => exact ⟨outFunded, inFunded⟩
      | sell => exact ⟨inFunded, outFunded⟩
    unfold calculateSwap PoolWithReserves.calculateSwap
    cases direction <;> simp [active, reserveIn, reserveOut, fees]

theorem funded_of_answered {params : SwapParams} {answer : SwapOutput}
    (answered : source.calculateSwap build quoteReservesSol params = .ok answer) :
    source.reserveIn params.direction ≠ 0 ∧
      source.reserveOut params.direction ≠ 0 := by
  cases source with
  | ofQuote quote =>
    have active : quote.isActive = true := by
      by_contra inactive
      rw [Bool.not_eq_true] at inactive
      simp [calculateSwap, PumpSwapQuote.calculateSwap, inactive] at answered
    obtain ⟨base, quoteFunded⟩ := PumpSwapQuote.isActive_iff.mp active
    unfold reserveIn reserveOut
    cases params.direction with
    | buy => exact ⟨quoteFunded, base⟩
    | sell => exact ⟨base, quoteFunded⟩
  | ofPool pool =>
    have active : pool.isActive = true := by
      by_contra inactive
      rw [Bool.not_eq_true] at inactive
      simp [calculateSwap, PoolWithReserves.calculateSwap, inactive] at answered
    obtain ⟨base, quoteFunded⟩ := PoolWithReserves.isActive_iff.mp active
    cases params.direction with
    | buy => exact ⟨quoteFunded, base⟩
    | sell => exact ⟨base, quoteFunded⟩

theorem calculateSwap_exactIn (inFunded : source.reserveIn direction ≠ 0)
    (outFunded : source.reserveOut direction ≠ 0) :
    source.calculateSwap build quoteReservesSol ⟨.exactIn amount, direction⟩ =
      (calculateSwapExactIn build amount (source.reserveIn direction)
        (source.reserveOut direction) (source.fees quoteReservesSol)).map
          (·.2) := by
  cases source with
  | ofQuote quote =>
    have active : quote.isActive = true := by
      rw [PumpSwapQuote.isActive_iff]
      cases direction with
      | buy => exact ⟨outFunded, inFunded⟩
      | sell => exact ⟨inFunded, outFunded⟩
    exact PumpSwapQuote.calculateSwap_exactIn active
  | ofPool pool =>
    have active : pool.isActive = true := by
      rw [PoolWithReserves.isActive_iff]
      cases direction with
      | buy => exact ⟨outFunded, inFunded⟩
      | sell => exact ⟨inFunded, outFunded⟩
    unfold calculateSwap PoolWithReserves.calculateSwap
    cases direction <;> simp [active, reserveIn, reserveOut, fees]

/-- A quote for an output is an error value, or it serves the output: it asks
for the least input that the curve requires, and swapping that pays it. -/
def ExactOutServes (build : Build) (quoteReservesSol : U64 → Rat)
    (source : SwapSource) (direction : SwapDirection) (amount : UInt64) : Prop :=
  let fees := source.fees quoteReservesSol
  match source.calculateSwap build quoteReservesSol
      ⟨.exactOut amount, direction⟩ with
  | .error failure => failure ≠ .panic
  | .ok quote =>
    fees.grossOutput amount.toNat < (source.reserveOut direction).toNat ∧
      quote.amountOut = amount ∧
      quote.amountIn.toNat = input (source.reserveIn direction).toNat
        (source.reserveOut direction).toNat (fees.grossOutput amount.toNat) ∧
      ∃ paid swap,
        calculateSwapExactIn build quote.amountIn (source.reserveIn direction)
            (source.reserveOut direction) fees = .ok (paid, swap) ∧
          amount ≤ paid

/-- The reserve holds the output grossed up by the combined rate, the input that
this costs fits in 64 bits, and what it buys affords, in whole units, its fees
and the output. -/
def Servable (quoteReservesSol : U64 → Rat) (source : SwapSource)
    (direction : SwapDirection) (amount : Nat) : Prop :=
  let rates := (source.fees quoteReservesSol).rates
  let reserveIn := (source.reserveIn direction).toNat
  let reserveOut := (source.reserveOut direction).toNat
  ∃ taken tokens gross,
    IsLeast {taken | amount * feeDenominator ≤
      (feeDenominator - rates.sum) * taken} taken ∧
    taken < reserveOut ∧
    IsLeast {tokens | reserveIn * taken ≤ (reserveOut - taken) * tokens} tokens ∧
    tokens < 2 ^ 64 ∧
    IsGreatest {gross | gross * (reserveIn + tokens) ≤ reserveOut * tokens}
      gross ∧
    Affords feeDenominator rates gross amount

theorem not_exactOutServes_of_beyond
    (inFunded : source.reserveIn direction ≠ 0)
    (outFunded : source.reserveOut direction ≠ 0)
    (below : (source.fees quoteReservesSol).rates.sum < feeDenominator)
    (beyond : (source.reserveOut direction).toNat ≤
      (source.fees quoteReservesSol).grossOutput amount.toNat) :
    ¬source.ExactOutServes build quoteReservesSol direction amount := by
  unfold ExactOutServes
  rw [calculateSwap_exactOut inFunded outFunded,
    calculateSwapExactOut_eq_default below beyond]
  rintro ⟨held, -⟩
  exact absurd beyond held.not_ge

theorem exactOutServes_iff_of_held (casts : build.casts = .wraps)
    (inFunded : source.reserveIn direction ≠ 0)
    (outFunded : source.reserveOut direction ≠ 0)
    (below : (source.fees quoteReservesSol).rates.sum < feeDenominator)
    (positive : 0 < amount.toNat)
    (held : (source.fees quoteReservesSol).grossOutput amount.toNat <
      (source.reserveOut direction).toNat) :
    source.ExactOutServes build quoteReservesSol direction amount ↔
      input (source.reserveIn direction).toNat
          (source.reserveOut direction).toNat
          ((source.fees quoteReservesSol).grossOutput amount.toNat) < 2 ^ 64 ∧
        Affords feeDenominator (source.fees quoteReservesSol).rates
          (output (source.reserveIn direction).toNat
            (source.reserveOut direction).toNat
            (input (source.reserveIn direction).toNat
              (source.reserveOut direction).toNat
              ((source.fees quoteReservesSol).grossOutput amount.toNat)))
          amount.toNat := by
  obtain ⟨asked, cut, answered⟩ := @calculateSwapExactOut_eq build _ amount
    (source.reserveIn direction) _ casts below held
  unfold ExactOutServes
  rw [calculateSwap_exactOut inFunded outFunded, answered]
  simp only [computed, FeeStructure.quoted, held, true_and]
  constructor
  · rintro ⟨untruncated, delivered⟩
    rw [pays_iff (toNat_pos inFunded) below positive, untruncated] at delivered
    exact ⟨untruncated ▸ UInt64.toNat_lt _, delivered⟩
  · rintro ⟨fits, affords⟩
    rw [cast_eq fits] at cut
    cases cut
    have untruncated := UInt64.toNat_ofNat_of_lt' fits
    refine ⟨untruncated, ?_⟩
    rw [pays_iff (toNat_pos inFunded) below positive, untruncated]
    exact affords

/-- A funded source of an actual build serves a request for an output exactly
when it is servable. -/
theorem exactOutServes_iff (operators : Overflow)
    (inFunded : source.reserveIn direction ≠ 0)
    (outFunded : source.reserveOut direction ≠ 0)
    (below : (source.fees quoteReservesSol).rates.sum < feeDenominator)
    (positive : 0 < amount) :
    source.ExactOutServes (.actual operators) quoteReservesSol direction amount ↔
      source.Servable quoteReservesSol direction amount.toNat := by
  have positiveNat : 0 < amount.toNat := UInt64.lt_iff_toNat_lt.mp positive
  have inPos := toNat_pos inFunded
  have takenLeast : IsLeast {taken | amount.toNat * feeDenominator ≤
      (feeDenominator - (source.fees quoteReservesSol).rates.sum) * taken}
      ((source.fees quoteReservesSol).grossOutput amount.toNat) :=
    isLeast_grossUp below
  by_cases held : (source.fees quoteReservesSol).grossOutput amount.toNat <
    (source.reserveOut direction).toNat
  · rw [exactOutServes_iff_of_held rfl inFunded outFunded below positiveNat held]
    constructor
    · rintro ⟨fits, affords⟩
      exact ⟨_, _, _, takenLeast, held, isLeast_input held, fits,
        isGreatest_output (by omega), affords⟩
    · rintro ⟨taken, tokens, gross, least, -, inLeast, fits, outGreatest,
        affords⟩
      rw [least.unique takenLeast] at inLeast
      rw [inLeast.unique (isLeast_input held)] at fits outGreatest
      rw [outGreatest.unique (isGreatest_output (by omega))] at affords
      exact ⟨fits, affords⟩
  · refine iff_of_false (not_exactOutServes_of_beyond inFunded outFunded below
      (Nat.not_lt.mp held)) ?_
    rintro ⟨taken, tokens, gross, least, lt, -⟩
    rw [least.unique takenLeast] at lt
    exact held lt

/-- A pool of 85 SOL and a million tokens at the flat rates. -/
def flatPool : SwapSource :=
  .ofQuote ⟨1000000000000, 85000000000, ⟨25, 5, 0⟩⟩

/-- The same pool on the older path, with a creator. -/
def ladderPool : SwapSource :=
  .ofPool ⟨⟨255, 0, 1, 2, 3, 4, 5, 6, 0, 7, false⟩, 1000000000000, 85000000000⟩

theorem exactOutServes_iff_one_token :
    (flatPool.ExactOutServes (.actual .panics) (fun _ => 85) .buy 1000000 ↔
        flatPool.Servable (fun _ => 85) .buy (1000000 : UInt64).toNat) ∧
      (ladderPool.ExactOutServes (.actual .panics) (fun _ => 85) .buy 1000000 ↔
        ladderPool.Servable (fun _ => 85) .buy (1000000 : UInt64).toNat) :=
  ⟨exactOutServes_iff .panics (by decide) (by decide) (by decide) (by decide),
    exactOutServes_iff .panics (by decide) (by decide)
      (FeeStructure.rates_feeStructure_lt 85 true) (by decide)⟩

/-- Asked for more than it holds, the flat pool quotes zeros. -/
theorem flatPool_not_exactOutServes :
    flatPool.calculateSwap (.actual .panics) (fun _ => 85)
        ⟨.exactOut 2000000000000, .buy⟩ = .ok defaultOutput ∧
      ¬flatPool.ExactOutServes (.actual .panics) (fun _ => 85) .buy
        2000000000000 := by
  have beyond : (flatPool.reserveOut .buy).toNat ≤
      (flatPool.fees (fun _ => 85)).grossOutput (2000000000000 : UInt64).toNat := by
    decide
  constructor
  · rw [calculateSwap_exactOut (by decide) (by decide),
      calculateSwapExactOut_eq_default (by decide) beyond]
    rfl
  · exact not_exactOutServes_of_beyond (by decide) (by decide) (by decide) beyond

end SwapSource

end PumpSwap

end SolanaProtocols
