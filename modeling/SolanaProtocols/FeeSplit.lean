import SolanaProtocols.DbcFeeFormula
import SolanaProtocols.PumpSwapExactOut

/-!
# The split of the fee

Every quote reports a fee and its protocol and LP parts.  The pump quotes add up
parts that are rounded on their own, the Raydium quotes leave the fee in one
piece, and the DBC quote halves it twice, which drops a unit of an odd fee.  A
build that wraps around can also report a pumpfun fee cut off at 64 bits, where
a buy for an output costs more than a 64-bit input.
-/

namespace SolanaProtocols

open ConstantProduct MachineArithmetic Pumpfun RoundedFees

namespace Swap

/-- The fee is the sum of its two parts, over exact integers. -/
def SwapOutput.SplitsFee (answer : SwapOutput) : Prop :=
  answer.fee.toNat = answer.protocolFee.toNat + answer.lpFee.toNat

instance : DecidablePred SwapOutput.SplitsFee :=
  fun answer => inferInstanceAs (Decidable (answer.fee.toNat = _))

theorem splitsFee_of_eq {answer : SwapOutput} {protocolFee lpFee : Nat}
    (fits : protocolFee + lpFee < 2 ^ 64)
    (fee : answer.fee = UInt64.ofNat (protocolFee + lpFee))
    (protocolPart : answer.protocolFee = UInt64.ofNat protocolFee)
    (lpPart : answer.lpFee = UInt64.ofNat lpFee) : answer.SplitsFee := by
  have protocolBound : protocolFee < 2 ^ 64 := by omega
  have lpBound : lpFee < 2 ^ 64 := by omega
  rw [SwapOutput.SplitsFee, fee, protocolPart, lpPart,
    UInt64.toNat_ofNat_of_lt' fits, UInt64.toNat_ofNat_of_lt' protocolBound,
    UInt64.toNat_ofNat_of_lt' lpBound]

theorem splitsFee_buildOutput_iff {build : Build} {amountIn amountOut : UInt64}
    {protocolFee lpFee : Nat} {answer : SwapOutput}
    (protocolBound : protocolFee < 2 ^ 64) (lpBound : lpFee < 2 ^ 64)
    (built : buildOutput build amountIn amountOut protocolFee lpFee =
      some answer) :
    answer.SplitsFee ↔ protocolFee + lpFee < 2 ^ 64 := by
  simp only [buildOutput, Option.bind_eq_bind, Option.bind_eq_some_iff,
    Option.pure_def, Option.some.injEq] at built
  obtain ⟨fee, added, rfl⟩ := built
  constructor
  · intro splits
    rw [SwapOutput.SplitsFee, UInt64.toNat_ofNat_of_lt' protocolBound,
      UInt64.toNat_ofNat_of_lt' lpBound] at splits
    rw [← splits]
    exact UInt64.toNat_lt _
  · intro fits
    rw [add_eq fits] at added
    cases added
    exact splitsFee_of_eq fits rfl rfl rfl

theorem parts_lt_of_panics {build : Build} {amountIn amountOut : UInt64}
    {protocolFee lpFee : Nat} {answer : SwapOutput}
    (stops : build.operators = .panics)
    (built : buildOutput build amountIn amountOut protocolFee lpFee =
      some answer) : protocolFee + lpFee < 2 ^ 64 := by
  simp only [buildOutput, Option.bind_eq_bind, Option.bind_eq_some_iff] at built
  obtain ⟨fee, added, -⟩ := built
  exact add_lt_of_panics stops added

end Swap

open Swap

namespace Pumpfun

theorem PumpfunFees.splitsFee_quoted {fees : PumpfunFees} {gross : Nat}
    (below : fees.rates.sum < feeDenominator) (bound : gross < 2 ^ 64)
    (amountIn amountOut : UInt64) :
    (fees.quoted amountIn amountOut gross).SplitsFee := by
  have fits := fees.charge_lt below bound
  rw [fees.charge_eq] at fits
  refine splitsFee_of_eq fits ?_ rfl rfl
  rw [← fees.charge_eq]
  rfl

/-- The rates of a curve that is priced without a fee configuration. -/
def compiledInFees : PumpfunFees where
  lpFeeBps := 0
  protocolFeeBps := 95
  creatorFeeBps := 30

namespace BondingCurve

def calculateSwap (build : Build) (self : BondingCurve) (params : SwapParams) :
    Except QuoteError SwapOutput :=
  self.calculateSwapWithFees build params compiledInFees

/-- The input that a buy for an output asks for, with the product that grosses
it up cut off after 128 bits. -/
def wrappedInput (curve : BondingCurve) (fees : PumpfunFees) (amount : Nat) :
    Nat :=
  (input curve.virtualQuoteReserves.toNat curve.virtualTokenReserves.toNat
      amount * feeDenominator % 2 ^ 128) ⌈/⌉ (feeDenominator - fees.rates.sum)

/-- One part of its fee, the product cut off after 128 bits and the quotient
after 64. -/
def wrappedPart (bps amount : Nat) : Nat :=
  (amount * bps % 2 ^ 128) ⌈/⌉ feeDenominator % 2 ^ 64

/-- A buy for an output is refused, or the parts of its fee fit when they are
added up. -/
def PartsFit (curve : BondingCurve) (fees : PumpfunFees) (amount : UInt64) :
    Prop :=
  curve.complete = true ∨ amount = 0 ∨
    curve.virtualTokenReserves.toNat ≤ amount.toNat ∨
    wrappedPart fees.protocolFeeBps.toNat
        (curve.wrappedInput fees amount.toNat) +
      wrappedPart fees.creatorFeeBps.toNat
        (curve.wrappedInput fees amount.toNat) < 2 ^ 64

section Quotes

variable {build : Build} {curve : BondingCurve} {fees : PumpfunFees}
  {amount : UInt64} {answer : SwapOutput}

theorem splitsFee_of_calculateBuy (below : fees.rates.sum < feeDenominator)
    (answered : curve.calculateBuy build amount fees = .ok answer) :
    answer.SplitsFee := by
  obtain ⟨paid, rfl⟩ := quoted_of_calculateBuy below answered
  exact PumpfunFees.splitsFee_quoted below amount.toNat_lt _ _

theorem splitsFee_of_calculateSell (below : fees.rates.sum < feeDenominator)
    (answered : curve.calculateSell build amount fees = .ok answer) :
    answer.SplitsFee := by
  obtain ⟨paid, rfl⟩ := quoted_of_calculateSell below answered
  exact PumpfunFees.splitsFee_quoted below grossSell_lt _ _

theorem splitsFee_of_calculateSellExactOut
    (below : fees.rates.sum < feeDenominator)
    (answered : curve.calculateSellExactOut build amount fees = .ok answer) :
    answer.SplitsFee := by
  unfold calculateSellExactOut at answered
  split at answered
  · cases answered
  split at answered
  · cases answered
  rw [sell_stage below] at answered
  rcases Nat.lt_or_ge (grossUp feeDenominator fees.rates.sum amount.toNat)
    curve.virtualQuoteReserves.toNat with held | beyond
  · have bound : grossUp feeDenominator fees.rates.sum amount.toNat < 2 ^ 64 :=
      held.trans curve.virtualQuoteReserves.isLt
    have staged := (if_neg (Nat.not_le.mpr held)).symm.trans answered
    simp only [computed_eq_ok_iff, Option.bind_eq_bind,
      Option.bind_eq_some_iff] at staged
    obtain ⟨_, -, _, -, _, -, _, protocolEq, _, creatorEq, _, -, _, -, _, -, _,
      protocolCast, _, creatorCast, built⟩ := staged
    rw [quoted_of_parts below bound protocolEq creatorEq protocolCast creatorCast
      built]
    exact PumpfunFees.splitsFee_quoted below bound _ _
  · have refused := (if_pos beyond).symm.trans answered
    obtain ⟨_, -, failed⟩ := bind_eq_ok_iff.mp refused
    cases failed

/-- In a build that wraps around, a buy for an output is answered with the parts
that wrapping arithmetic leaves. -/
theorem buildOutput_of_wraps (operators : build.operators = .wraps)
    (casts : build.casts = .wraps) (incomplete : curve.complete = false)
    (positive : amount ≠ 0) (below : fees.rates.sum < feeDenominator)
    (held : amount.toNat < curve.virtualTokenReserves.toNat) :
    ∃ asked, curve.calculateBuyExactOut build amount fees =
      computed (buildOutput build asked amount
        (wrappedPart fees.protocolFeeBps.toNat
          (curve.wrappedInput fees amount.toNat))
        (wrappedPart fees.creatorFeeBps.toNat
          (curve.wrappedInput fees amount.toNat))) := by
  have tokenBound := curve.virtualTokenReserves.isLt
  have quoteBound := curve.virtualQuoteReserves.isLt
  obtain ⟨combined, remainder⟩ := @combined_steps build fees below
  have product : build.mul 128 curve.virtualQuoteReserves.toNat amount.toNat =
      some (curve.virtualQuoteReserves.toNat * amount.toNat) :=
    mul_eq (mul_lt_two_pow_128 quoteBound amount.toNat_lt)
  have grossed : divCeil (input curve.virtualQuoteReserves.toNat
      curve.virtualTokenReserves.toNat amount.toNat * feeDenominator % 2 ^ 128)
        (feeDenominator - fees.rates.sum) =
      some (curve.wrappedInput fees amount.toNat) := divCeil_eq (by omega)
  have charged (bps : Nat) : ceilFee build
      (curve.wrappedInput fees amount.toNat) bps =
        some ((curve.wrappedInput fees amount.toNat * bps % 2 ^ 128) ⌈/⌉
          feeDenominator) := by
    rw [ceilFee, bind_of_eq_some (mul_wraps operators)]
    exact divCeil_eq (by decide)
  refine ⟨UInt64.ofNat (curve.wrappedInput fees amount.toNat % 2 ^ 64), ?_⟩
  unfold calculateBuyExactOut
  rw [if_neg (by simp [incomplete]), if_neg positive,
    if_neg (Nat.not_le.mpr held),
    bind_of_eq_some (sub_eq held.le (by omega)), bind_of_eq_some product,
    bind_of_eq_some (divCeil_eq_input held), bind_of_eq_some combined,
    bind_of_eq_some remainder, bind_of_eq_some (mul_wraps operators),
    bind_of_eq_some grossed, bind_of_eq_some (charged _),
    bind_of_eq_some (charged _), bind_of_eq_some (add_wraps operators),
    bind_of_eq_some (sub_eq held.le (by omega)),
    bind_of_eq_some (cast_wraps casts), bind_of_eq_some (cast_wraps casts),
    bind_of_eq_some (cast_wraps casts)]
  rfl

theorem wrappedPart_lt (bps amount : Nat) : wrappedPart bps amount < 2 ^ 64 :=
  Nat.mod_lt _ (by norm_num)

theorem splitsFee_of_calculateBuyExactOut (stops : build.operators = .panics)
    (answered : curve.calculateBuyExactOut build amount fees = .ok answer) :
    answer.SplitsFee := by
  unfold calculateBuyExactOut at answered
  split at answered
  · cases answered
  split at answered
  · cases answered
  split at answered
  · cases answered
  simp only [computed_eq_ok_iff, Option.bind_eq_bind,
    Option.bind_eq_some_iff] at answered
  obtain ⟨_, -, _, -, _, -, _, -, _, -, _, -, _, -, _, -, _, -, _, -, _, -, _, -,
    protocolPart, protocolCast, creatorPart, creatorCast, built⟩ := answered
  have fits : protocolPart + creatorPart < 2 ^ 64 :=
    parts_lt_of_panics stops built
  exact (splitsFee_buildOutput_iff (by omega) (by omega) built).mpr fits

theorem splitsFee_iff_of_wraps (operators : build.operators = .wraps)
    (casts : build.casts = .wraps) (incomplete : curve.complete = false)
    (positive : amount ≠ 0) (below : fees.rates.sum < feeDenominator)
    (held : amount.toNat < curve.virtualTokenReserves.toNat) :
    (∀ answer, curve.calculateBuyExactOut build amount fees = .ok answer →
        answer.SplitsFee) ↔
      wrappedPart fees.protocolFeeBps.toNat
          (curve.wrappedInput fees amount.toNat) +
        wrappedPart fees.creatorFeeBps.toNat
          (curve.wrappedInput fees amount.toNat) < 2 ^ 64 := by
  obtain ⟨asked, answeredAs⟩ :=
    buildOutput_of_wraps operators casts incomplete positive below held
  have protocolBound := wrappedPart_lt fees.protocolFeeBps.toNat
    (curve.wrappedInput fees amount.toNat)
  have creatorBound := wrappedPart_lt fees.creatorFeeBps.toNat
    (curve.wrappedInput fees amount.toNat)
  generalize wrappedPart fees.protocolFeeBps.toNat _ = protocolPart at *
  generalize wrappedPart fees.creatorFeeBps.toNat _ = creatorPart at *
  obtain ⟨quote, built⟩ : ∃ quote, buildOutput build asked amount protocolPart
      creatorPart = some quote := by
    rw [buildOutput, bind_of_eq_some (add_wraps operators)]
    exact ⟨_, rfl⟩
  rw [answeredAs, built, ← splitsFee_buildOutput_iff protocolBound creatorBound
    built]
  constructor
  · intro splits
    exact splits quote rfl
  · intro splits answer answered
    rwa [← Except.ok.inj answered]

/-- A buy for an output splits its fee exactly where the parts fit. -/
theorem splitsFee_calculateBuyExactOut_iff (casts : build.casts = .wraps)
    (below : fees.rates.sum < feeDenominator) :
    (∀ answer, curve.calculateBuyExactOut build amount fees = .ok answer →
        answer.SplitsFee) ↔
      build.operators = .panics ∨ curve.PartsFit fees amount := by
  have refusal {failure : QuoteError}
      (refused : curve.calculateBuyExactOut build amount fees = .error failure)
      (answer : SwapOutput)
      (answered : curve.calculateBuyExactOut build amount fees = .ok answer) :
      answer.SplitsFee := by
    rw [refused] at answered
    cases answered
  cases operators : build.operators with
  | panics =>
    refine iff_of_true ?_ (Or.inl rfl)
    exact fun answer answered =>
      splitsFee_of_calculateBuyExactOut operators answered
  | wraps =>
    rw [or_iff_right (by simp), PartsFit]
    cases complete : curve.complete with
    | true =>
      exact iff_of_true (refusal (if_pos complete)) (Or.inl rfl)
    | false =>
      rw [or_iff_right (by simp)]
      by_cases zero : amount = 0
      · have refused : curve.calculateBuyExactOut build amount fees =
            .error .zeroAmount :=
          (if_neg (by simp [complete])).trans (if_pos zero)
        exact iff_of_true (refusal refused) (Or.inl zero)
      rw [or_iff_right zero]
      rcases Nat.lt_or_ge amount.toNat curve.virtualTokenReserves.toNat with
        held | beyond
      · rw [or_iff_right (Nat.not_le.mpr held)]
        exact splitsFee_iff_of_wraps operators casts complete zero below held
      · exact iff_of_true
          (refusal (calculateBuyExactOut_refused complete zero beyond))
          (Or.inl beyond)

theorem splitsFee_calculateSwapWithFees_iff (casts : build.casts = .wraps)
    (below : fees.rates.sum < feeDenominator) (params : SwapParams) :
    (∀ answer, curve.calculateSwapWithFees build params fees = .ok answer →
        answer.SplitsFee) ↔
      ∀ amount, params = ⟨.exactOut amount, .buy⟩ →
        build.operators = .panics ∨ curve.PartsFit fees amount := by
  obtain ⟨mode, direction⟩ := params
  cases direction with
  | buy =>
    cases mode with
    | exactIn amount =>
      simp only [SwapParams.mk.injEq, reduceCtorEq, false_and, IsEmpty.forall_iff,
        implies_true, iff_true]
      exact fun answer answered => splitsFee_of_calculateBuy below answered
    | exactOut amount =>
      simp only [SwapParams.mk.injEq, SwapAmount.exactOut.injEq, and_true,
        forall_eq']
      exact splitsFee_calculateBuyExactOut_iff casts below
  | sell =>
    simp only [SwapParams.mk.injEq, reduceCtorEq, and_false, IsEmpty.forall_iff,
      implies_true, iff_true]
    cases mode with
    | exactIn amount =>
      exact fun answer answered => splitsFee_of_calculateSell below answered
    | exactOut amount =>
      exact fun answer answered =>
        splitsFee_of_calculateSellExactOut below answered

end Quotes

end BondingCurve

end Pumpfun

namespace PumpSwap

theorem FeeStructure.splitsFee_quoted {fees : FeeStructure} {gross : Nat}
    (below : fees.rates.sum < feeDenominator) (bound : gross < 2 ^ 64)
    (amountIn amountOut : UInt64) :
    (fees.quoted amountIn amountOut gross).SplitsFee := by
  have fits := fees.charge_lt below bound
  have regrouped : fees.charge gross =
      share feeDenominator fees.protocolBps.toNat gross +
        (share feeDenominator fees.creatorBps.toNat gross +
          share feeDenominator fees.lpBps.toNat gross) := by
    rw [fees.charge_eq]
    omega
  rw [regrouped] at fits
  refine splitsFee_of_eq fits ?_ rfl rfl
  rw [← regrouped]
  rfl

namespace SwapSource

/-- A PumpSwap quote splits its fee, whichever way the build treats
overflows. -/
theorem splitsFee_of_calculateSwap {build : Build}
    {quoteReservesSol : U64 → Rat} {source : SwapSource} {params : SwapParams}
    {answer : SwapOutput} (casts : build.casts = .wraps)
    (below : (source.fees quoteReservesSol).rates.sum < feeDenominator)
    (answered : source.calculateSwap build quoteReservesSol params =
      .ok answer) : answer.SplitsFee := by
  obtain ⟨inFunded, outFunded⟩ := funded_of_answered answered
  obtain ⟨mode, direction⟩ := params
  cases mode with
  | exactIn amount =>
    have grossBound : output (source.reserveIn direction).toNat
        (source.reserveOut direction).toNat amount.toNat < 2 ^ 64 :=
      output_le.trans_lt (source.reserveOut direction).isLt
    rw [calculateSwap_exactIn inFunded outFunded,
      calculateSwapExactIn_of_gross (toNat_pos inFunded) below rfl] at answered
    split at answered
    · cases answered
    · cases answered
      exact FeeStructure.splitsFee_quoted below grossBound _ _
  | exactOut amount =>
    rw [calculateSwap_exactOut inFunded outFunded, computed_eq_ok_iff] at answered
    rcases Nat.lt_or_ge
      ((source.fees quoteReservesSol).grossOutput amount.toNat)
      (source.reserveOut direction).toNat with held | beyond
    · obtain ⟨asked, -, quoted⟩ :=
        @calculateSwapExactOut_eq build _ amount (source.reserveIn direction) _
          casts below held
      rw [quoted] at answered
      cases answered
      exact FeeStructure.splitsFee_quoted below
        (held.trans (source.reserveOut direction).isLt) _ _
    · rw [calculateSwapExactOut_eq_default below beyond] at answered
      cases answered
      exact (by decide : defaultOutput.SplitsFee)

end SwapSource

end PumpSwap

namespace MeteoraDbc

/-- The fee of an input is dropped with a product of more than 64 bits, or it
halves evenly. -/
def HalvesEvenly (tradeFeeRate amount : Nat) : Prop :=
  2 ^ 64 ≤ amount * tradeFeeRate ∨ 2 ∣ exactFee tradeFeeRate amount

theorem two_dvd_dbcFee_iff {tradeFeeRate amount : Nat} :
    2 ∣ dbcFee amount tradeFeeRate ↔ HalvesEvenly tradeFeeRate amount := by
  unfold HalvesEvenly
  rcases Nat.lt_or_ge (amount * tradeFeeRate) (2 ^ 64) with fits | overflows
  · rw [dbcFee_eq_exactFee fits, or_iff_right (Nat.not_le.mpr fits)]
  · rw [dbcFee_eq_zero overflows]
    exact iff_of_true (dvd_zero 2) (Or.inl overflows)

theorem dbcFee_lt_two_pow_64 {tradeFeeRate amount : Nat} :
    dbcFee amount tradeFeeRate < 2 ^ 64 := by
  rcases Nat.lt_or_ge (amount * tradeFeeRate) (2 ^ 64) with fits | overflows
  · rw [dbcFee_eq_exactFee fits]
    exact (Nat.div_le_self _ _).trans_lt fits
  · rw [dbcFee_eq_zero overflows]
    norm_num

/-- A DBC quote splits its fee exactly where the pool is closed or the fee
halves evenly. -/
theorem splitsFee_calculateDbcSwap_iff {pool : VirtualPool}
    {tradeFeeRate : UInt64} {params : SwapParams} :
    (∀ answer, calculateDbcSwap pool tradeFeeRate params = .ok answer →
        answer.SplitsFee) ↔
      pool.isMigrated ≠ 0 ∨
        HalvesEvenly tradeFeeRate.toNat params.amount.amount.toNat := by
  by_cases active : pool.isMigrated = 0
  · cases reserves : orient pool.baseReserve.toNat pool.quoteReserve.toNat
      params.direction with
    | mk reserveIn reserveOut =>
      have outBound := (SwapPool.orient_lt pool.baseReserve.toNat_lt
        pool.quoteReserve.toNat_lt params.direction).2
      rw [reserves] at outBound
      have feeBound : dbcFee params.amount.amount.toNat tradeFeeRate.toNat <
          2 ^ 64 := dbcFee_lt_two_pow_64
      have halfBound : dbcFee params.amount.amount.toNat tradeFeeRate.toNat / 2 <
          2 ^ 64 := (Nat.div_le_self _ _).trans_lt feeBound
      simp only [calculateDbcSwap_eq active reserves outBound rfl,
        Except.ok.injEq, forall_eq', SwapOutput.SplitsFee,
        UInt64.toNat_ofNat_of_lt' feeBound, UInt64.toNat_ofNat_of_lt' halfBound]
      rw [or_iff_right (by simpa using active), ← two_dvd_dbcFee_iff]
      omega
  · refine iff_of_true ?_ (Or.inl active)
    intro answer answered
    unfold calculateDbcSwap at answered
    simp only [VirtualPool.isActive, beq_eq_false_iff_ne.mpr active] at answered
    cases answered

end MeteoraDbc

/-- The pools that quote on a constant product curve.  A pump pool is priced with
compiled-in rates or with configured ones, which leave a part of the amount. -/
inductive ConstantProductPool
  | bondingCurve (curve : BondingCurve)
  | pumpfunQuote (curve : BondingCurve) (fees : PumpfunFees)
      (below : fees.rates.sum < feeDenominator)
  | pumpSwapPool (pool : PumpSwap.PoolWithReserves)
  | pumpSwapQuote (quote : PumpSwap.PumpSwapQuote)
      (below : quote.feeStructure.rates.sum < feeDenominator)
  | feeRatePool (pool : SwapPool)

namespace ConstantProductPool

def Answers (build : Build) (quoteReservesSol : U64 → Rat)
    (params : SwapParams) (answer : SwapOutput) : ConstantProductPool → Prop
  | bondingCurve curve => curve.calculateSwap build params = .ok answer
  | pumpfunQuote curve fees _ =>
    curve.calculateSwapWithFees build params fees = .ok answer
  | pumpSwapPool pool =>
    pool.calculateSwap build quoteReservesSol params = .ok answer
  | pumpSwapQuote quote _ => quote.calculateSwap build params = .ok answer
  | feeRatePool pool => pool.calculateSwap params = .ok answer

/-- Where the split is exact: a DBC pool that is open halves its fee evenly, and
in a build that wraps around the parts of a pumpfun buy for an output fit. -/
def SplitsExactly (operators : Overflow) (params : SwapParams) :
    ConstantProductPool → Prop
  | bondingCurve curve => ∀ amount, params = ⟨.exactOut amount, .buy⟩ →
      operators = .panics ∨ curve.PartsFit compiledInFees amount
  | pumpfunQuote curve fees _ => ∀ amount, params = ⟨.exactOut amount, .buy⟩ →
      operators = .panics ∨ curve.PartsFit fees amount
  | feeRatePool (.meteoraDbc pool) => pool.pool.isMigrated ≠ 0 ∨
      MeteoraDbc.HalvesEvenly pool.tradeFeeRate.toNat params.amount.amount.toNat
  | _ => True

section Split

variable {operators : Overflow} {quoteReservesSol : U64 → Rat}
  {params : SwapParams}

theorem splitsFee_of_constantProductSwap {fee reserveIn reserveOut : Nat}
    {amount : UInt64} {answer : SwapOutput}
    (answered : constantProductSwap fee reserveIn reserveOut amount =
      .ok answer) : answer.SplitsFee := by
  unfold constantProductSwap at answered
  obtain ⟨net, -, answered⟩ := bind_eq_ok_iff.mp answered
  obtain ⟨numerator, -, answered⟩ := bind_eq_ok_iff.mp answered
  obtain ⟨denominator, -, answered⟩ := bind_eq_ok_iff.mp answered
  split at answered
  · cases answered
  · obtain ⟨_, -, answered⟩ := bind_eq_ok_iff.mp answered
    obtain ⟨_, -, answered⟩ := bind_eq_ok_iff.mp answered
    obtain rfl := Except.ok.inj answered
    exact (Nat.add_zero _).symm

theorem splitsFee_of_pricedAlike {pool : SwapPool} (priced : pool.PricedAlike)
    (answer : SwapOutput) (answered : pool.calculateSwap params = .ok answer) :
    answer.SplitsFee :=
  splitsFee_of_constantProductSwap ((priced params).symm.trans answered)

/-- A quote conserves its fee exactly where its split is exact. -/
theorem splitsFee_iff (operators : Overflow) (quoteReservesSol : U64 → Rat)
    (pool : ConstantProductPool) (params : SwapParams) :
    (∀ answer, pool.Answers (.actual operators) quoteReservesSol params answer →
        answer.SplitsFee) ↔
      pool.SplitsExactly operators params := by
  cases pool with
  | bondingCurve curve =>
    exact BondingCurve.splitsFee_calculateSwapWithFees_iff rfl (by decide) params
  | pumpfunQuote curve fees below =>
    exact BondingCurve.splitsFee_calculateSwapWithFees_iff rfl below params
  | pumpSwapPool pool =>
    refine iff_of_true (fun answer answered => ?_) trivial
    have below := PumpSwap.FeeStructure.rates_feeStructure_lt
      (quoteReservesSol pool.quoteReserves) pool.pool.hasCreator
    exact @PumpSwap.SwapSource.splitsFee_of_calculateSwap _ quoteReservesSol
      (.ofPool pool) _ _ rfl below answered
  | pumpSwapQuote quote below =>
    refine iff_of_true (fun answer answered => ?_) trivial
    exact @PumpSwap.SwapSource.splitsFee_of_calculateSwap _ quoteReservesSol
      (.ofQuote quote) _ _ rfl below answered
  | feeRatePool pool =>
    cases pool with
    | raydiumV4 pool =>
      exact iff_of_true
        (splitsFee_of_pricedAlike (SwapPool.pricedAlike_raydiumV4 pool)) trivial
    | raydiumCpmm pool =>
      exact iff_of_true
        (splitsFee_of_pricedAlike (SwapPool.pricedAlike_raydiumCpmm pool)) trivial
    | raydiumLaunchpad pool =>
      exact iff_of_true
        (splitsFee_of_pricedAlike (SwapPool.pricedAlike_raydiumLaunchpad pool))
        trivial
    | meteoraDbc pool => exact MeteoraDbc.splitsFee_calculateDbcSwap_iff

/-- An open DBC pool at one percent takes one unit from an input of 100, and
reports both parts of it as zero. -/
theorem dbc_drops_unit :
    (feeRatePool (.meteoraDbc ⟨⟨1000000, 1000000, 0⟩, 10000000⟩)).Answers
        .debug (fun _ => 0) ⟨.exactIn 100, .buy⟩ ⟨100, 98, 1, 0, 0⟩ ∧
      ¬(SwapOutput.mk 100 98 1 0 0).SplitsFee := by
  constructor
  · exact (by decide : MeteoraDbc.calculateDbcSwap ⟨1000000, 1000000, 0⟩ 10000000
      ⟨.exactIn 100, .buy⟩ = .ok ⟨100, 98, 1, 0, 0⟩)
  · decide

end Split

end ConstantProductPool

end SolanaProtocols
