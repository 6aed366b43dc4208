import SolanaProtocols.PumpfunTrades
import SolanaProtocols.PumpSwapQuotes
import SolanaProtocols.Verify

/-!
# Grading the pump quotes

PumpSwap takes its fees from the output of every swap, pumpfun from the output
of a sell and from the input of a buy.  On all three the grader undoes exactly
the deduction that the quote makes, so a quote passes on its own answers, and an
observation that passes the curve but not the whole quote reports another fee
than the quote charges.
-/

namespace SolanaProtocols

open ConstantProduct MachineArithmetic RoundedFees Swap

open Pumpfun (BondingCurve PumpfunFees)

open PumpSwap (PumpSwapQuote)

/-- A quote state of one of the two protocols. -/
inductive PumpQuote
  | pumpSwap (quote : PumpSwapQuote)
  | pumpfun (curve : BondingCurve) (fees : PumpfunFees)
deriving DecidableEq, Repr

namespace PumpQuote

def zeroFees : PumpfunFees := ⟨0, 0, 0⟩

/-- The same state with all rates zero. -/
def withoutFees : PumpQuote → PumpQuote
  | pumpSwap quote => pumpSwap { quote with fees := zeroFees }
  | pumpfun curve _ => pumpfun curve zeroFees

/-- What the fees are taken from. -/
def gross : PumpQuote → SwapDirection → Nat → Nat
  | pumpSwap quote, direction, amount => quote.gross direction amount
  | pumpfun curve _, direction, amount => curve.gross direction amount

/-- The fee that the state charges on an input. -/
def charge : PumpQuote → SwapDirection → Nat → Nat
  | pumpSwap quote, direction, amount =>
    quote.feeStructure.charge (quote.gross direction amount)
  | pumpfun curve fees, direction, amount =>
    fees.charge (curve.gross direction amount)

/-- The quote of a state.  A pumpfun input whose fees exceed what they are taken
from counts as refused, as PumpSwap refuses it. -/
def quote (build : Build) (toText : QuoteError → String) (state : PumpQuote) :
    SwapMath where
  Error := QuoteError
  toText := toText
  calculateSwap params :=
    match state with
    | pumpSwap quote => quote.calculateSwap build params
    | pumpfun curve fees =>
      match params.amount with
      | .exactIn amount =>
        let gross := curve.gross params.direction amount.toNat
        if gross < fees.charge gross then
          .error (.feesExceedOutput (UInt64.ofNat gross)
            (UInt64.ofNat (fees.charge gross)))
        else curve.calculateSwapWithFees build params fees
      | .exactOut _ => curve.calculateSwapWithFees build params fees

/-- Which side a protocol takes its fees from. -/
def feeSide : PumpQuote → SwapDirection → FeeSide
  | pumpSwap _, _ => .output
  | pumpfun _ _, .buy => .input
  | pumpfun _ _, .sell => .output

/-- A PumpSwap state is active, and the rates add up to less than the whole. -/
def Gradable : PumpQuote → Prop
  | pumpSwap quote =>
    quote.isActive = true ∧ quote.feeStructure.rates.sum < feeDenominator
  | pumpfun _ fees => fees.rates.sum < feeDenominator

/-- A buy on a bonding curve whose fee is all of the input. -/
def AllFee (state : PumpQuote) (direction : SwapDirection) (amount : UInt64)
    (out : SwapOutput) : Prop :=
  state.feeSide direction = .input ∧ out.fee = amount

variable {build : Build} {toText : QuoteError → String} {amount : UInt64}
  {direction : SwapDirection} {out : SwapOutput}

theorem chargesOutput_pumpSwap {state : PumpSwapQuote}
    (active : state.isActive = true)
    (below : state.feeStructure.rates.sum < feeDenominator) :
    ChargesOutput ((pumpSwap state).quote build toText)
      ((pumpSwap state).withoutFees.quote build toText) direction
      (fun amount => state.gross direction amount.toNat)
      (fun amount => (pumpSwap state).charge direction amount.toNat)
      (fun _ => True) where
  gross_lt amount := PumpSwapQuote.gross_lt
  answers amount _ covered := by
    refine ⟨_, PumpSwapQuote.calculateSwap_exactIn_eq active below covered, ?_, ?_⟩
    · exact UInt64.toNat_ofNat_of_lt'
        (PumpSwap.FeeStructure.charge_lt below PumpSwapQuote.gross_lt)
    · exact UInt64.toNat_ofNat_of_lt'
        ((Nat.sub_le _ _).trans_lt PumpSwapQuote.gross_lt)
  live_of_answer amount out answered :=
    ⟨trivial, PumpSwapQuote.covered_of_calculateSwap active below answered⟩
  zeroFee_answers amount _ := by
    have free : (PumpSwap.FeeStructure.mk 0 0 0).charge
        (state.gross direction amount.toNat) = 0 :=
      PumpSwap.FeeStructure.charge_zero_rates _
    have rates : (PumpSwap.FeeStructure.mk 0 0 0).rates.sum < feeDenominator := by
      decide
    refine ⟨_, @PumpSwapQuote.calculateSwap_exactIn_eq build
      { state with fees := zeroFees } amount direction active rates
      (free.trans_le (Nat.zero_le _)), ?_⟩
    change (UInt64.ofNat (state.gross direction amount.toNat -
      (PumpSwap.FeeStructure.mk 0 0 0).charge
        (state.gross direction amount.toNat))).toNat = _
    rw [free, Nat.sub_zero]
    exact UInt64.toNat_ofNat_of_lt' PumpSwapQuote.gross_lt
  live_of_zeroFee _ _ _ := trivial

section Pumpfun

variable {curve : BondingCurve} {fees : PumpfunFees}

theorem pumpfun_eq_ok_iff :
    ((pumpfun curve fees).quote build toText).calculateSwap
        ⟨.exactIn amount, direction⟩ = .ok out ↔
      fees.charge (curve.gross direction amount.toNat) ≤
          curve.gross direction amount.toNat ∧
        curve.calculateSwapWithFees build ⟨.exactIn amount, direction⟩ fees =
          .ok out := by
  unfold quote
  simp only
  by_cases covered : fees.charge (curve.gross direction amount.toNat) ≤
    curve.gross direction amount.toNat
  · rw [if_neg (Nat.not_lt.mpr covered)]
    exact (and_iff_right covered).symm
  · rw [if_pos (Nat.not_le.mp covered)]
    simp [covered]

theorem zeroFees_below : zeroFees.rates.sum < feeDenominator := by
  decide

theorem zeroFees_covered (gross : Nat) : zeroFees.charge gross ≤ gross :=
  (PumpfunFees.charge_zero_rates gross).trans_le (Nat.zero_le _)

theorem chargesOutput_pumpfun (below : fees.rates.sum < feeDenominator) :
    ChargesOutput ((pumpfun curve fees).quote build toText)
      ((pumpfun curve fees).withoutFees.quote build toText) .sell
      (fun amount => curve.gross .sell amount.toNat)
      (fun amount => (pumpfun curve fees).charge .sell amount.toNat)
      (fun amount => curve.complete = false ∧ amount ≠ 0) where
  gross_lt amount := BondingCurve.gross_lt
  answers amount live covered := by
    refine ⟨_, pumpfun_eq_ok_iff.mpr ⟨covered, BondingCurve.calculateSell_eq
      live.1 live.2 below covered⟩, ?_, ?_⟩
    · exact UInt64.toNat_ofNat_of_lt'
        (PumpfunFees.charge_lt below BondingCurve.grossSell_lt)
    · exact UInt64.toNat_ofNat_of_lt'
        ((Nat.sub_le _ _).trans_lt BondingCurve.grossSell_lt)
  live_of_answer amount out answered := by
    obtain ⟨covered, quoted⟩ := pumpfun_eq_ok_iff.mp answered
    exact ⟨BondingCurve.live_of_answered quoted, covered⟩
  zeroFee_answers amount live := by
    refine ⟨_, pumpfun_eq_ok_iff.mpr ⟨zeroFees_covered _,
      BondingCurve.calculateSell_eq live.1 live.2 zeroFees_below
        (zeroFees_covered _)⟩, ?_⟩
    change (UInt64.ofNat (curve.grossSell amount.toNat -
      zeroFees.charge (curve.grossSell amount.toNat))).toNat = _
    rw [zeroFees, PumpfunFees.charge_zero_rates, Nat.sub_zero]
    exact UInt64.toNat_ofNat_of_lt' BondingCurve.grossSell_lt
  live_of_zeroFee amount out answered :=
    BondingCurve.live_of_answered (pumpfun_eq_ok_iff.mp answered).2

theorem buy_answers {fees : PumpfunFees} (incomplete : curve.complete = false)
    (positive : amount ≠ 0) (below : fees.rates.sum < feeDenominator)
    (covered : fees.charge amount.toNat ≤ amount.toNat)
    (left : 0 < amount.toNat - fees.charge amount.toNat) :
    ∃ out,
      ((pumpfun curve fees).quote build toText).calculateSwap
          ⟨.exactIn amount, .buy⟩ = .ok out ∧
        out.amountOut = UInt64.ofNat (output curve.virtualQuoteReserves.toNat
          curve.virtualTokenReserves.toNat
          (amount.toNat - fees.charge amount.toNat)) :=
  ⟨_, pumpfun_eq_ok_iff.mpr ⟨covered, BondingCurve.calculateBuy_eq incomplete
    positive below covered (by omega)⟩, rfl⟩

theorem zeroFee_buy_answers (incomplete : curve.complete = false)
    (positive : amount ≠ 0) :
    ∃ out,
      ((pumpfun curve zeroFees).quote build toText).calculateSwap
          ⟨.exactIn amount, .buy⟩ = .ok out ∧
        out.amountOut = UInt64.ofNat (output curve.virtualQuoteReserves.toNat
          curve.virtualTokenReserves.toNat amount.toNat) := by
  have amountPos : amount.toNat ≠ 0 := fun zero =>
    positive (UInt64.toNat_inj.mp zero)
  have free : zeroFees.charge amount.toNat = 0 :=
    PumpfunFees.charge_zero_rates _
  obtain ⟨out, answered, paid⟩ := @buy_answers build toText amount curve zeroFees
    incomplete positive zeroFees_below (zeroFees_covered _) (by omega)
  rw [free, Nat.sub_zero] at paid
  exact ⟨out, answered, paid⟩

/-- An answer to a buy that is not all fee is graded exact with its fee undone
from the input. -/
theorem buy_curve_exact (below : fees.rates.sum < feeDenominator)
    (answered : ((pumpfun curve fees).quote build toText).calculateSwap
      ⟨.exactIn amount, .buy⟩ = .ok out) (notAll : out.fee ≠ amount) :
    (Grade.curve ((pumpfun curve fees).withoutFees.quote build toText)
      ⟨.buy, amount, out.amountOut, some out.fee, .input⟩).outcome = .exact := by
  obtain ⟨covered, quoted⟩ := pumpfun_eq_ok_iff.mp answered
  obtain ⟨incomplete, positive⟩ := BondingCurve.live_of_answered quoted
  have feeEq := BondingCurve.fee_of_answered below quoted
  have feeLe : out.fee ≤ amount := by
    rw [UInt64.le_iff_toNat_le, feeEq]
    exact covered
  have netEq : (amount - out.fee).toNat =
      amount.toNat - fees.charge amount.toNat := by
    rw [UInt64.toNat_sub_of_le _ _ feeLe, feeEq]
    rfl
  have netPos : 0 < amount.toNat - fees.charge amount.toNat := by
    have : out.fee.toNat ≠ amount.toNat := fun same =>
      notAll (UInt64.toNat_inj.mp same)
    rw [feeEq] at this
    change fees.charge amount.toNat ≠ amount.toNat at this
    change fees.charge amount.toNat ≤ amount.toNat at covered
    omega
  have netNe : amount - out.fee ≠ 0 := by
    intro zero
    rw [zero] at netEq
    exact netPos.ne netEq
  obtain ⟨out', answered', paid'⟩ := @buy_answers build toText amount curve fees
    incomplete positive below covered netPos
  rw [answered] at answered'
  cases answered'
  obtain ⟨pure, pureAnswered, pureEq⟩ := @zeroFee_buy_answers build toText
    (amount - out.fee) curve incomplete netNe
  rw [Grade.curve_eq_exact_iff_of_input rfl]
  refine ⟨out.fee, rfl, feeLe, pure, pureAnswered, ?_⟩
  rw [pureEq, netEq, paid']

/-- A buy on which the curve is exact and the whole quote is not reports another
fee than the quote charges. -/
theorem buy_fee_differs (below : fees.rates.sum < feeDenominator)
    {observed : ObservedSwap} (side : observed.feeSide = .input)
    (directionEq : observed.direction = .buy)
    (curveExact : (Grade.curve
      ((pumpfun curve fees).withoutFees.quote build toText) observed).outcome =
        .exact)
    (fullNot : (Grade.full ((pumpfun curve fees).quote build toText)
      observed).outcome ≠ .exact) :
    ∀ fee, observed.feeAmount = some fee →
      fee.toNat ≠ fees.charge observed.amountIn.toNat := by
  intro fee reported feeEq
  rw [Grade.curve_eq_exact_iff_of_input side, directionEq] at curveExact
  obtain ⟨fee', reported', feeLe, pure, pureAnswered, pureEq⟩ := curveExact
  rw [reported] at reported'
  cases reported'
  obtain ⟨incomplete, netNe⟩ :=
    BondingCurve.live_of_answered (pumpfun_eq_ok_iff.mp pureAnswered).2
  obtain ⟨pure', pureAnswered', paid⟩ := @zeroFee_buy_answers build toText
    (observed.amountIn - fee) curve incomplete netNe
  have sameAnswer := pureAnswered.symm.trans pureAnswered'
  cases sameAnswer
  have netEq := UInt64.toNat_sub_of_le _ _ feeLe
  have netPos : 0 < (observed.amountIn - fee).toNat :=
    Nat.pos_of_ne_zero fun zero => netNe (UInt64.toNat_inj.mp zero)
  have positive : observed.amountIn ≠ 0 := by
    intro zero
    rw [netEq, zero] at netPos
    simp at netPos
  rw [UInt64.le_iff_toNat_le, feeEq] at feeLe
  rw [netEq, feeEq] at netPos
  obtain ⟨out, answered, paid'⟩ := @buy_answers build toText observed.amountIn
    curve fees incomplete positive below feeLe netPos
  refine fullNot (Grade.full_eq_exact_iff.mpr ⟨out, ?_, ?_⟩)
  · rw [directionEq]
    exact answered
  · rw [paid', ← pureEq, paid, netEq, feeEq]

end Pumpfun

/-- Grading isolates the curve from the fee.  A quote reports the fee it charges
and passes on its own answers, and so does its curve unless a buy is all fee; an
observation that passes the curve and fails the whole quote reports another fee
than the quote charges. -/
theorem grading_isolates_fee (build : Build) (toText : QuoteError → String)
    {state : PumpQuote} (gradable : state.Gradable) :
    (∀ direction amount out,
      (state.quote build toText).calculateSwap ⟨.exactIn amount, direction⟩ =
          .ok out →
        out.fee.toNat = state.charge direction amount.toNat ∧
        (Grade.full (state.quote build toText)
          ⟨direction, amount, out.amountOut, some out.fee,
            state.feeSide direction⟩).outcome = .exact ∧
        (¬state.AllFee direction amount out →
          (Grade.curve (state.withoutFees.quote build toText)
            ⟨direction, amount, out.amountOut, some out.fee,
              state.feeSide direction⟩).outcome = .exact)) ∧
    ∀ observed : ObservedSwap,
      observed.feeSide = state.feeSide observed.direction →
      (Grade.curve (state.withoutFees.quote build toText) observed).outcome =
          .exact →
      (Grade.full (state.quote build toText) observed).outcome ≠ .exact →
        ∀ fee, observed.feeAmount = some fee →
          fee.toNat ≠ state.charge observed.direction observed.amountIn.toNat := by
  have passes (direction : SwapDirection) (amount : UInt64) (out : SwapOutput)
      (answered : (state.quote build toText).calculateSwap
        ⟨.exactIn amount, direction⟩ = .ok out) :
      (Grade.full (state.quote build toText)
        ⟨direction, amount, out.amountOut, some out.fee,
          state.feeSide direction⟩).outcome = .exact :=
    Grade.full_eq_exact_iff.mpr ⟨out, answered, rfl⟩
  cases state with
  | pumpSwap state =>
    obtain ⟨active, below⟩ := gradable
    constructor
    · intro direction amount out answered
      have charges := @chargesOutput_pumpSwap build toText direction state active
        below
      exact ⟨(charges.fee_of_answer answered).1, passes _ _ _ answered,
        fun _ => charges.curve_exact answered⟩
    · intro observed side curveExact fullNot
      exact (chargesOutput_pumpSwap active below).fee_differs side rfl curveExact
        fullNot
  | pumpfun curve fees =>
    constructor
    · intro direction amount out answered
      refine ⟨BondingCurve.fee_of_answered gradable
        (pumpfun_eq_ok_iff.mp answered).2, passes _ _ _ answered, ?_⟩
      intro notAll
      cases direction with
      | buy =>
        exact buy_curve_exact gradable answered fun all => notAll ⟨rfl, all⟩
      | sell => exact (chargesOutput_pumpfun gradable).curve_exact answered
    · intro observed side curveExact fullNot
      cases directionEq : observed.direction with
      | buy =>
        rw [directionEq] at side
        exact buy_fee_differs gradable side directionEq curveExact fullNot
      | sell =>
        rw [directionEq] at side
        exact (chargesOutput_pumpfun gradable).fee_differs side directionEq
          curveExact fullNot

theorem grading_isolates_fee_one_sol :
    ∃ out,
      (Grade.full ((pumpfun BondingCurve.launch BondingCurve.launchFees).quote
        .debug (fun _ => ""))
        ⟨.buy, 1000000000, out, some 12500000, .input⟩).outcome = .exact := by
  have answered : ((pumpfun BondingCurve.launch BondingCurve.launchFees).quote
      .debug (fun _ => "")).calculateSwap ⟨.exactIn 1000000000, .buy⟩ = _ :=
    pumpfun_eq_ok_iff.mpr ⟨by decide, BondingCurve.calculateBuy_eq rfl (by decide)
      (by decide) (by decide) (by decide)⟩
  have below : (pumpfun BondingCurve.launch BondingCurve.launchFees).Gradable := by
    show _ < _
    decide
  exact ⟨_, ((grading_isolates_fee .debug (fun _ => "") below).1 _ _ _
    answered).2.1⟩

end PumpQuote

end SolanaProtocols
