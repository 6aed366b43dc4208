import SolanaProtocols.SwapMath

/-!
# Grading quotes against executed swaps

A quote state is graded against a swap that landed: the quote is asked for the
observed input and its output is compared exactly.  The whole quote is graded as
it is; the curve alone is graded with a quote state of zero fees, against the
swap with its reported fee undone on the side it was taken from.
-/

namespace SolanaProtocols

open Swap

/-- Which leg of a swap a protocol takes its fee from. -/
inductive FeeSide
  | input
  | output
deriving DecidableEq, Repr

/-- A swap that actually executed, as observed on chain. -/
structure ObservedSwap where
  direction : SwapDirection
  amountIn : UInt64
  amountOut : UInt64
  feeAmount : Option UInt64
  feeSide : FeeSide
deriving DecidableEq, Repr

/-- Which property a verdict is about. -/
inductive Check
  | quoteExactIn
  | quoteExactOut
deriving DecidableEq, Repr

/-- How far a prediction missed, bucketed by what that magnitude implicates. -/
inductive Divergence
  | rounding
  | feeRate
  | structural
deriving DecidableEq, Repr

/-- Classify by relative error against what the chain produced. -/
def Divergence.classify (predicted observed : UInt64) : Divergence :=
  let diff := max predicted observed - min predicted observed
  if diff ≤ 2 then .rounding
  else if observed = 0 then .structural
  else if diff.toNat * 100 ≤ observed.toNat then .feeRate
  else .structural

/-- The result of one check. -/
inductive Outcome
  | exact
  | off (predicted observed : UInt64) (divergence : Divergence)
  | refused (reason : String)
  | skipped (reason : String)
deriving DecidableEq, Repr

/-- One graded check. -/
structure Verdict where
  check : Check
  outcome : Outcome
deriving DecidableEq, Repr

/-- A prediction awaiting its comparison. -/
structure Pending where
  check : Check
  predicted : Option UInt64
  refusal : Option String
deriving DecidableEq, Repr

def Pending.compare (self : Pending) (observed : UInt64) : Verdict where
  check := self.check
  outcome :=
    match self.predicted, self.refusal with
    | some predicted, _ =>
      if predicted = observed then .exact
      else .off predicted observed (.classify predicted observed)
    | none, some reason => .refused reason
    | none, none => .skipped "no prediction and no refusal"

/-- A quote state that prices swaps, and the text of its errors. -/
structure SwapMath where
  Error : Type
  toText : Error → String
  calculateSwap : SwapParams → Except Error SwapOutput

namespace Grade

def run (quote : SwapMath) (check : Check) (amount : UInt64)
    (direction : SwapDirection) (pick : SwapOutput → UInt64) : Pending :=
  let params : SwapParams := {
    direction := direction
    amount := match check with
      | .quoteExactIn => .exactIn amount
      | .quoteExactOut => .exactOut amount }
  match quote.calculateSwap params with
  | .ok out => ⟨check, some (pick out), none⟩
  | .error failure => ⟨check, none, some (quote.toText failure)⟩

/-- Grade the curve alone, on a quote state of zero fees. -/
def curve (zeroFeeQuote : SwapMath) (observed : ObservedSwap) : Verdict :=
  match observed.feeAmount with
  | none => ⟨.quoteExactIn, .skipped "observation carries no decoded fee"⟩
  | some fee =>
    match observed.feeSide with
    | .input =>
      if fee ≤ observed.amountIn then
        (run zeroFeeQuote .quoteExactIn (observed.amountIn - fee)
          observed.direction (·.amountOut)).compare observed.amountOut
      else ⟨.quoteExactIn, .skipped "reported fee exceeds the input amount"⟩
    | .output =>
      if observed.amountOut.toNat + fee.toNat < 2 ^ 64 then
        (run zeroFeeQuote .quoteExactIn observed.amountIn
          observed.direction (·.amountOut)).compare (observed.amountOut + fee)
      else ⟨.quoteExactIn, .skipped "output plus fee overflows"⟩

/-- Grade the whole quote, with the fee rates that the state selected. -/
def full (quote : SwapMath) (observed : ObservedSwap) : Verdict :=
  (run quote .quoteExactIn observed.amountIn observed.direction
    (·.amountOut)).compare observed.amountOut

/-- Grade the inverse direction. -/
def inverse (quote : SwapMath) (observed : ObservedSwap) : Verdict :=
  (run quote .quoteExactOut observed.amountOut observed.direction
    (·.amountIn)).compare observed.amountIn

section Exact

variable {quote : SwapMath} {amount observed : UInt64}
  {direction : SwapDirection} {swap : ObservedSwap}

theorem compare_run_eq_exact_iff {pick : SwapOutput → UInt64} :
    ((run quote .quoteExactIn amount direction pick).compare observed).outcome =
        .exact ↔
      ∃ out, quote.calculateSwap ⟨.exactIn amount, direction⟩ = .ok out ∧
        pick out = observed := by
  unfold run
  simp only
  cases quote.calculateSwap ⟨.exactIn amount, direction⟩ with
  | error failure => simp [Pending.compare]
  | ok out =>
    by_cases same : pick out = observed
    · simp [Pending.compare, same]
    · simp [Pending.compare, same]

theorem full_eq_exact_iff :
    (full quote swap).outcome = .exact ↔
      ∃ out,
        quote.calculateSwap ⟨.exactIn swap.amountIn, swap.direction⟩ = .ok out ∧
          out.amountOut = swap.amountOut :=
  compare_run_eq_exact_iff

theorem curve_eq_exact_iff_of_input (side : swap.feeSide = .input) :
    (curve quote swap).outcome = .exact ↔
      ∃ fee, swap.feeAmount = some fee ∧ fee ≤ swap.amountIn ∧
        ∃ out,
          quote.calculateSwap
              ⟨.exactIn (swap.amountIn - fee), swap.direction⟩ = .ok out ∧
            out.amountOut = swap.amountOut := by
  unfold curve
  cases swap.feeAmount with
  | none => simp
  | some fee =>
    rw [side]
    by_cases within : fee ≤ swap.amountIn
    · simp [within, compare_run_eq_exact_iff]
    · simp [within]

/-- The curve is graded exact on the output together with the fee. -/
theorem curve_eq_exact_iff_of_output (side : swap.feeSide = .output) :
    (curve quote swap).outcome = .exact ↔
      ∃ fee, swap.feeAmount = some fee ∧
        swap.amountOut.toNat + fee.toNat < 2 ^ 64 ∧
        ∃ out,
          quote.calculateSwap ⟨.exactIn swap.amountIn, swap.direction⟩ =
              .ok out ∧
            out.amountOut = swap.amountOut + fee := by
  unfold curve
  cases swap.feeAmount with
  | none => simp
  | some fee =>
    rw [side]
    by_cases fits : swap.amountOut.toNat + fee.toNat < 2 ^ 64
    · simp only [fits, if_true, compare_run_eq_exact_iff, true_and,
        Option.some.injEq, exists_eq_left']
    · simp only [fits, if_false, false_and, Option.some.injEq, exists_eq_left',
        reduceCtorEq]

end Exact

end Grade

/-- A quote in one direction that takes a charge from the gross output of its
curve, which the same quote without fees pays in full. -/
structure ChargesOutput (quote zeroFeeQuote : SwapMath)
    (direction : SwapDirection) (gross charge : UInt64 → Nat)
    (live : UInt64 → Prop) : Prop where
  gross_lt : ∀ amount, gross amount < 2 ^ 64
  answers : ∀ amount, live amount → charge amount ≤ gross amount →
    ∃ out, quote.calculateSwap ⟨.exactIn amount, direction⟩ = .ok out ∧
      out.fee.toNat = charge amount ∧
      out.amountOut.toNat = gross amount - charge amount
  live_of_answer : ∀ amount out,
    quote.calculateSwap ⟨.exactIn amount, direction⟩ = .ok out →
      live amount ∧ charge amount ≤ gross amount
  zeroFee_answers : ∀ amount, live amount →
    ∃ out, zeroFeeQuote.calculateSwap ⟨.exactIn amount, direction⟩ = .ok out ∧
      out.amountOut.toNat = gross amount
  live_of_zeroFee : ∀ amount out,
    zeroFeeQuote.calculateSwap ⟨.exactIn amount, direction⟩ = .ok out →
      live amount

namespace ChargesOutput

variable {quote zeroFeeQuote : SwapMath} {direction : SwapDirection}
  {gross charge : UInt64 → Nat} {live : UInt64 → Prop} {amount : UInt64}
  {out : SwapOutput}

theorem fee_of_answer
    (charges : ChargesOutput quote zeroFeeQuote direction gross charge live)
    (answered : quote.calculateSwap ⟨.exactIn amount, direction⟩ = .ok out) :
    out.fee.toNat = charge amount ∧
      out.amountOut.toNat + out.fee.toNat = gross amount := by
  obtain ⟨alive, covered⟩ := charges.live_of_answer amount out answered
  obtain ⟨out', answered', feeEq, paidEq⟩ := charges.answers amount alive covered
  rw [answered] at answered'
  cases answered'
  exact ⟨feeEq, by omega⟩

theorem curve_exact
    (charges : ChargesOutput quote zeroFeeQuote direction gross charge live)
    (answered : quote.calculateSwap ⟨.exactIn amount, direction⟩ = .ok out) :
    (Grade.curve zeroFeeQuote
      ⟨direction, amount, out.amountOut, some out.fee, .output⟩).outcome =
        .exact := by
  obtain ⟨alive, -⟩ := charges.live_of_answer amount out answered
  obtain ⟨-, sum⟩ := charges.fee_of_answer answered
  obtain ⟨pure, pureAnswered, pureEq⟩ := charges.zeroFee_answers amount alive
  have fits := charges.gross_lt amount
  rw [Grade.curve_eq_exact_iff_of_output rfl]
  refine ⟨out.fee, rfl, by rwa [sum], pure, pureAnswered, ?_⟩
  apply UInt64.toNat_inj.mp
  rw [pureEq, ← sum, UInt64.toNat_add, Nat.mod_eq_of_lt (by rwa [sum])]

/-- An observation on which the curve is exact and the whole quote is not
reports another fee than the quote charges. -/
theorem fee_differs
    (charges : ChargesOutput quote zeroFeeQuote direction gross charge live)
    {observed : ObservedSwap} (side : observed.feeSide = .output)
    (directionEq : observed.direction = direction)
    (curveExact : (Grade.curve zeroFeeQuote observed).outcome = .exact)
    (fullNot : (Grade.full quote observed).outcome ≠ .exact) :
    ∀ fee, observed.feeAmount = some fee →
      fee.toNat ≠ charge observed.amountIn := by
  intro fee reported feeEq
  rw [Grade.curve_eq_exact_iff_of_output side, directionEq] at curveExact
  obtain ⟨fee', reported', fits, pure, pureAnswered, pureEq⟩ := curveExact
  rw [reported] at reported'
  cases reported'
  have alive := charges.live_of_zeroFee _ _ pureAnswered
  obtain ⟨pure', pureAnswered', grossEq⟩ := charges.zeroFee_answers _ alive
  rw [pureAnswered] at pureAnswered'
  cases pureAnswered'
  rw [pureEq, UInt64.toNat_add, Nat.mod_eq_of_lt fits] at grossEq
  obtain ⟨out, answered, -, paidEq⟩ :=
    charges.answers observed.amountIn alive (by omega)
  refine fullNot (Grade.full_eq_exact_iff.mpr ⟨out, ?_, ?_⟩)
  · rw [directionEq]
    exact answered
  · apply UInt64.toNat_inj.mp
    omega

end ChargesOutput

end SolanaProtocols
