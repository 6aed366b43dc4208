import SolanaProtocols.PumpMath

/-!
# What the pumpfun quotes compute

A quote for an input is the constant product formula as soon as the two fees,
each rounded up, fit into the amount they are taken from: the input of a buy,
the gross output of a sell.  Two round-ups can exceed a small amount, and then
the subtraction of the fees goes below zero.
-/

namespace SolanaProtocols

open ConstantProduct MachineArithmetic RoundedFees Swap

namespace Swap

section Fees

variable {build : Build} {amount bps : Nat} {rates : List Nat}

theorem ceilFee_eq (amountBound : amount < 2 ^ 64) (bpsBound : bps < 2 ^ 64) :
    ceilFee build amount bps = some (share feeDenominator bps amount) := by
  have positive : 0 < feeDenominator := by decide
  rw [ceilFee, mul_eq (mul_lt_two_pow_128 amountBound bpsBound)]
  exact divCeil_eq positive

theorem total_lt_two_pow_64 (below : rates.sum < feeDenominator)
    (few : rates.length ≤ 3) (amountBound : amount < 2 ^ 64) :
    total feeDenominator rates amount < 2 ^ 64 := by
  have charged : feeDenominator * total feeDenominator rates amount +
      (amount + rates.length) ≤ feeDenominator * (amount + rates.length) :=
    mul_total_add_le below
  unfold feeDenominator at charged ⊢
  omega

@[simp]
theorem computed_eq_ok_iff {Value : Type} {value : Option Value}
    {result : Value} : computed value = .ok result ↔ value = some result := by
  cases value with
  | none => simp [computed]
  | some value => simp [computed]

theorem computed_pure_bind {Value Result : Type} (value : Value)
    (rest : Value → Except QuoteError Result) :
    (computed (pure value) >>= rest) = rest value :=
  rfl

theorem computed_eq_error {Value : Type} {value : Option Value}
    {failure : QuoteError} (failed : computed value = .error failure) :
    failure = .panic := by
  cases value with
  | none => exact (Except.error.inj failed).symm
  | some value => cases failed

end Fees

end Swap

namespace Pumpfun

theorem toNat_pos {reserve : U64} (funded : reserve ≠ 0) : 0 < reserve.toNat := by
  refine Nat.pos_of_ne_zero fun zero => funded ?_
  exact BitVec.eq_of_toNat_eq (by simpa using zero)

theorem ne_zero_of_toNat_pos {reserve : U64} (positive : 0 < reserve.toNat) :
    reserve ≠ 0 := by
  rintro rfl
  exact absurd positive (by decide)

def PumpfunFees.rates (fees : PumpfunFees) : List Nat :=
  [fees.protocolFeeBps.toNat, fees.creatorFeeBps.toNat]

/-- The fees of an amount, each rounded up. -/
def PumpfunFees.charge (fees : PumpfunFees) (amount : Nat) : Nat :=
  total feeDenominator fees.rates amount

/-- The quote that charges a gross amount and pays what is stated. -/
def PumpfunFees.quoted (fees : PumpfunFees) (amountIn amountOut : UInt64)
    (gross : Nat) : SwapOutput where
  amountIn := amountIn
  amountOut := amountOut
  fee := UInt64.ofNat (fees.charge gross)
  protocolFee :=
    UInt64.ofNat (share feeDenominator fees.protocolFeeBps.toNat gross)
  lpFee := UInt64.ofNat (share feeDenominator fees.creatorFeeBps.toNat gross)

section Fees

variable {build : Build} {fees : PumpfunFees} {gross : Nat}

theorem PumpfunFees.charge_eq (fees : PumpfunFees) (gross : Nat) :
    fees.charge gross =
      share feeDenominator fees.protocolFeeBps.toNat gross +
        share feeDenominator fees.creatorFeeBps.toNat gross := by
  rw [charge, rates, total_cons, total_cons, total_nil, Nat.add_zero]

@[simp]
theorem PumpfunFees.charge_zero_rates (gross : Nat) :
    charge ⟨0, 0, 0⟩ gross = 0 := by
  simp [charge_eq]

theorem PumpfunFees.charge_lt (below : fees.rates.sum < feeDenominator)
    (bound : gross < 2 ^ 64) : fees.charge gross < 2 ^ 64 :=
  total_lt_two_pow_64 below (by simp [rates]) bound

theorem buildOutput_eq (below : fees.rates.sum < feeDenominator)
    (bound : gross < 2 ^ 64) (amountIn amountOut : UInt64) :
    buildOutput build amountIn amountOut
        (share feeDenominator fees.protocolFeeBps.toNat gross)
        (share feeDenominator fees.creatorFeeBps.toNat gross) =
      some (fees.quoted amountIn amountOut gross) := by
  have fits := fees.charge_lt below bound
  rw [fees.charge_eq] at fits
  rw [buildOutput, add_eq fits, ← fees.charge_eq]
  rfl

theorem PumpfunFees.shares_lt (below : fees.rates.sum < feeDenominator)
    (bound : gross < 2 ^ 64) :
    share feeDenominator fees.protocolFeeBps.toNat gross < 2 ^ 64 ∧
      share feeDenominator fees.creatorFeeBps.toNat gross < 2 ^ 64 := by
  have fits := fees.charge_lt below bound
  rw [fees.charge_eq] at fits
  omega

/-- What the fee parts of a computation are built into. -/
theorem quoted_of_parts (below : fees.rates.sum < feeDenominator)
    (bound : gross < 2 ^ 64) {amountIn amountOut : UInt64} {quote : SwapOutput}
    {protocolFee creatorFee protocolPart creatorPart : Nat}
    (protocolEq : ceilFee build gross fees.protocolFeeBps.toNat =
      some protocolFee)
    (creatorEq : ceilFee build gross fees.creatorFeeBps.toNat = some creatorFee)
    (protocolCast : build.cast 64 protocolFee = some protocolPart)
    (creatorCast : build.cast 64 creatorFee = some creatorPart)
    (built : buildOutput build amountIn amountOut protocolPart creatorPart =
      some quote) :
    quote = fees.quoted amountIn amountOut gross := by
  obtain ⟨protocolBound, creatorBound⟩ := fees.shares_lt below bound
  rw [ceilFee_eq bound fees.protocolFeeBps.isLt] at protocolEq
  rw [ceilFee_eq bound fees.creatorFeeBps.isLt] at creatorEq
  cases protocolEq
  cases creatorEq
  rw [cast_eq protocolBound] at protocolCast
  rw [cast_eq creatorBound] at creatorCast
  cases protocolCast
  cases creatorCast
  rw [buildOutput_eq below bound] at built
  exact (Option.some.inj built).symm

theorem add_shares_eq (below : fees.rates.sum < feeDenominator)
    (bound : gross < 2 ^ 64) :
    build.add 128 (share feeDenominator fees.protocolFeeBps.toNat gross)
        (share feeDenominator fees.creatorFeeBps.toNat gross) =
      some (fees.charge gross) := by
  have fits := fees.charge_lt below bound
  rw [fees.charge_eq] at fits ⊢
  exact add_eq (by omega)

end Fees

namespace BondingCurve

variable {build : Build} {curve : BondingCurve} {fees : PumpfunFees}
  {amount : UInt64}

/-- A buy whose fees fit into its input, with something to divide by. -/
theorem calculateBuy_eq (incomplete : curve.complete = false)
    (positive : amount ≠ 0) (below : fees.rates.sum < feeDenominator)
    (covered : fees.charge amount.toNat ≤ amount.toNat)
    (funded : 0 < curve.virtualQuoteReserves.toNat +
      (amount.toNat - fees.charge amount.toNat)) :
    curve.calculateBuy build amount fees = .ok (fees.quoted amount
      (UInt64.ofNat (output curve.virtualQuoteReserves.toNat
        curve.virtualTokenReserves.toNat
        (amount.toNat - fees.charge amount.toNat))) amount.toNat) := by
  have amountBound := amount.toNat_lt
  have quoteBound := curve.virtualQuoteReserves.isLt
  have tokenBound := curve.virtualTokenReserves.isLt
  obtain ⟨protocolBound, creatorBound⟩ := fees.shares_lt below amountBound
  have paidLe : output curve.virtualQuoteReserves.toNat
      curve.virtualTokenReserves.toNat
        (amount.toNat - fees.charge amount.toNat) ≤
      curve.virtualTokenReserves.toNat := output_le
  have product : curve.virtualTokenReserves.toNat *
      (amount.toNat - fees.charge amount.toNat) < 2 ^ 128 :=
    mul_lt_two_pow_128 tokenBound (by omega)
  have net : build.sub 128 amount.toNat (fees.charge amount.toNat) =
      some (amount.toNat - fees.charge amount.toNat) :=
    sub_eq covered (by omega)
  have divisor : build.add 128 curve.virtualQuoteReserves.toNat
      (amount.toNat - fees.charge amount.toNat) =
        some (curve.virtualQuoteReserves.toNat +
          (amount.toNat - fees.charge amount.toNat)) := add_eq (by omega)
  have quotient : checkedDiv (curve.virtualTokenReserves.toNat *
      (amount.toNat - fees.charge amount.toNat))
        (curve.virtualQuoteReserves.toNat +
          (amount.toNat - fees.charge amount.toNat)) =
      some (output curve.virtualQuoteReserves.toNat
        curve.virtualTokenReserves.toNat
          (amount.toNat - fees.charge amount.toNat)) := if_neg funded.ne'
  unfold calculateBuy
  rw [if_neg (by simp [incomplete]), if_neg positive,
    bind_of_eq_some (ceilFee_eq amountBound fees.protocolFeeBps.isLt),
    bind_of_eq_some (ceilFee_eq amountBound fees.creatorFeeBps.isLt),
    bind_of_eq_some (add_shares_eq below amountBound), bind_of_eq_some net,
    bind_of_eq_some (mul_eq product),
    bind_of_eq_some divisor, bind_of_eq_some quotient, bind_of_eq_some divisor,
    bind_of_eq_some (sub_eq paidLe (by omega)),
    bind_of_eq_some (cast_eq (by omega)),
    bind_of_eq_some (cast_eq protocolBound),
    bind_of_eq_some (cast_eq creatorBound), buildOutput_eq below amountBound]
  rfl

/-- A build that stops at overflows stops where the fees of a buy exceed its
input. -/
theorem calculateBuy_eq_panic (stops : build.operators = .panics)
    (incomplete : curve.complete = false) (positive : amount ≠ 0)
    (below : fees.rates.sum < feeDenominator)
    (exceeds : amount.toNat < fees.charge amount.toNat) :
    curve.calculateBuy build amount fees = .error .panic := by
  have amountBound := amount.toNat_lt
  unfold calculateBuy
  rw [if_neg (by simp [incomplete]), if_neg positive,
    bind_of_eq_some (ceilFee_eq amountBound fees.protocolFeeBps.isLt),
    bind_of_eq_some (ceilFee_eq amountBound fees.creatorFeeBps.isLt),
    bind_of_eq_some (add_shares_eq below amountBound),
    sub_eq_none stops exceeds]
  rfl

theorem quoted_of_calculateBuy {quote : SwapOutput}
    (below : fees.rates.sum < feeDenominator)
    (answered : curve.calculateBuy build amount fees = .ok quote) :
    ∃ paid, quote = fees.quoted amount paid amount.toNat := by
  unfold calculateBuy at answered
  split at answered
  · cases answered
  split at answered
  · cases answered
  simp only [computed_eq_ok_iff, Option.bind_eq_bind,
    Option.bind_eq_some_iff] at answered
  obtain ⟨_, protocolEq, _, creatorEq, _, -, _, -, _, -, _, -, _, -, _, -, _, -,
    _, -, _, protocolCast, _, creatorCast, built⟩ := answered
  exact ⟨_, quoted_of_parts below amount.toNat_lt protocolEq creatorEq
    protocolCast creatorCast built⟩

theorem fee_of_calculateBuy {quote : SwapOutput}
    (below : fees.rates.sum < feeDenominator)
    (answered : curve.calculateBuy build amount fees = .ok quote) :
    quote.fee.toNat = fees.charge amount.toNat := by
  obtain ⟨paid, rfl⟩ := quoted_of_calculateBuy below answered
  exact UInt64.toNat_ofNat_of_lt' (fees.charge_lt below amount.toNat_lt)

/-- What a sell takes out of the curve, before its fees. -/
def grossSell (curve : BondingCurve) (amount : Nat) : Nat :=
  output curve.virtualTokenReserves.toNat curve.virtualQuoteReserves.toNat amount

theorem grossSell_le : curve.grossSell amount.toNat ≤
    curve.virtualQuoteReserves.toNat :=
  output_le

theorem grossSell_lt : curve.grossSell amount.toNat < 2 ^ 64 :=
  grossSell_le.trans_lt curve.virtualQuoteReserves.isLt

section Sell

variable (curve)

theorem sell_product_lt (amount : UInt64) :
    curve.virtualQuoteReserves.toNat * amount.toNat < 2 ^ 128 :=
  mul_lt_two_pow_128 curve.virtualQuoteReserves.isLt amount.toNat_lt

theorem sell_sum_lt (amount : UInt64) :
    curve.virtualTokenReserves.toNat + amount.toNat < 2 ^ 128 := by
  have amountBound := amount.toNat_lt
  have tokenBound := curve.virtualTokenReserves.isLt
  omega

theorem sell_quotient_eq (positive : amount ≠ 0) :
    checkedDiv (curve.virtualQuoteReserves.toNat * amount.toNat)
        (curve.virtualTokenReserves.toNat + amount.toNat) =
      some (curve.grossSell amount.toNat) := by
  have amountPos : amount.toNat ≠ 0 := by
    intro zero
    exact positive (UInt64.toNat_inj.mp zero)
  exact if_neg (by omega)

end Sell

/-- A sell whose fees fit into its gross output. -/
theorem calculateSell_eq (incomplete : curve.complete = false)
    (positive : amount ≠ 0) (below : fees.rates.sum < feeDenominator)
    (covered : fees.charge (curve.grossSell amount.toNat) ≤
      curve.grossSell amount.toNat) :
    curve.calculateSell build amount fees = .ok (fees.quoted amount
      (UInt64.ofNat (curve.grossSell amount.toNat -
        fees.charge (curve.grossSell amount.toNat)))
      (curve.grossSell amount.toNat)) := by
  have grossBound : curve.grossSell amount.toNat < 2 ^ 64 := grossSell_lt
  have quoteBound := curve.virtualQuoteReserves.isLt
  obtain ⟨protocolBound, creatorBound⟩ := fees.shares_lt below grossBound
  unfold calculateSell
  rw [if_neg (by simp [incomplete]), if_neg positive,
    bind_of_eq_some (mul_eq (curve.sell_product_lt amount)),
    bind_of_eq_some (add_eq (curve.sell_sum_lt amount)),
    bind_of_eq_some (curve.sell_quotient_eq positive),
    bind_of_eq_some (ceilFee_eq grossBound fees.protocolFeeBps.isLt),
    bind_of_eq_some (ceilFee_eq grossBound fees.creatorFeeBps.isLt),
    bind_of_eq_some (add_shares_eq below grossBound),
    bind_of_eq_some (sub_eq covered (by omega)),
    bind_of_eq_some (add_eq (curve.sell_sum_lt amount)),
    bind_of_eq_some (sub_eq grossSell_le (by omega)),
    bind_of_eq_some (cast_eq (by omega)),
    bind_of_eq_some (cast_eq protocolBound),
    bind_of_eq_some (cast_eq creatorBound), buildOutput_eq below grossBound]
  rfl

/-- A build that stops at overflows stops where the fees of a sell exceed its
gross output. -/
theorem calculateSell_eq_panic (stops : build.operators = .panics)
    (incomplete : curve.complete = false) (positive : amount ≠ 0)
    (below : fees.rates.sum < feeDenominator)
    (exceeds : curve.grossSell amount.toNat <
      fees.charge (curve.grossSell amount.toNat)) :
    curve.calculateSell build amount fees = .error .panic := by
  have grossBound : curve.grossSell amount.toNat < 2 ^ 64 := grossSell_lt
  unfold calculateSell
  rw [if_neg (by simp [incomplete]), if_neg positive,
    bind_of_eq_some (mul_eq (curve.sell_product_lt amount)),
    bind_of_eq_some (add_eq (curve.sell_sum_lt amount)),
    bind_of_eq_some (curve.sell_quotient_eq positive),
    bind_of_eq_some (ceilFee_eq grossBound fees.protocolFeeBps.isLt),
    bind_of_eq_some (ceilFee_eq grossBound fees.creatorFeeBps.isLt),
    bind_of_eq_some (add_shares_eq below grossBound),
    sub_eq_none stops exceeds]
  rfl

/-- Whatever a build makes of the subtraction, a sell charges its gross
output. -/
theorem quoted_of_calculateSell {quote : SwapOutput}
    (below : fees.rates.sum < feeDenominator)
    (answered : curve.calculateSell build amount fees = .ok quote) :
    ∃ paid, quote = fees.quoted amount paid (curve.grossSell amount.toNat) := by
  unfold calculateSell at answered
  split at answered
  · cases answered
  split at answered
  · cases answered
  next positive =>
    rw [computed_eq_ok_iff,
      bind_of_eq_some (mul_eq (curve.sell_product_lt amount)),
      bind_of_eq_some (add_eq (curve.sell_sum_lt amount)),
      bind_of_eq_some (curve.sell_quotient_eq positive)] at answered
    simp only [Option.bind_eq_bind, Option.bind_eq_some_iff] at answered
    obtain ⟨_, protocolEq, _, creatorEq, _, -, _, -, _, -, _, -, _, -, _,
      protocolCast, _, creatorCast, built⟩ := answered
    exact ⟨_, quoted_of_parts below grossSell_lt protocolEq creatorEq protocolCast
      creatorCast built⟩

theorem fee_of_calculateSell {quote : SwapOutput}
    (below : fees.rates.sum < feeDenominator)
    (answered : curve.calculateSell build amount fees = .ok quote) :
    quote.fee.toNat = fees.charge (curve.grossSell amount.toNat) := by
  obtain ⟨paid, rfl⟩ := quoted_of_calculateSell below answered
  exact UInt64.toNat_ofNat_of_lt' (fees.charge_lt below grossSell_lt)

/-- What the fees of a swap are taken from: the input of a buy, the gross output
of a sell. -/
def gross (curve : BondingCurve) : SwapDirection → Nat → Nat
  | .buy, amount => amount
  | .sell, amount => curve.grossSell amount

/-- What a swap pays out once its fees are taken. -/
def paid (curve : BondingCurve) (fees : PumpfunFees) : SwapDirection → Nat → Nat
  | .buy, amount =>
    output curve.virtualQuoteReserves.toNat curve.virtualTokenReserves.toNat
      (amount - fees.charge amount)
  | .sell, amount =>
    curve.grossSell amount - fees.charge (curve.grossSell amount)

/-- The virtual reserve that pays for a swap. -/
def outputReserve (curve : BondingCurve) : SwapDirection → U64
  | .buy => curve.virtualTokenReserves
  | .sell => curve.virtualQuoteReserves

/-- A quote for an input is refused with an error value, or it is what exact
arithmetic computes, with a fee and a payment within their bounds. -/
def QuotesSafely (build : Build) (curve : BondingCurve) (fees : PumpfunFees)
    (direction : SwapDirection) (amount : UInt64) : Prop :=
  match curve.calculateSwapWithFees build ⟨.exactIn amount, direction⟩ fees with
  | .error failure => failure ≠ .panic
  | .ok quote =>
    curve.calculateSwapWithFees .exact ⟨.exactIn amount, direction⟩ fees =
        .ok quote ∧
      quote.fee.toNat ≤ curve.gross direction amount.toNat ∧
      quote.amountOut.toNat ≤ (curve.outputReserve direction).toNat

/-- The amount that the fees are taken from can be split into whole units for
each of them. -/
def FeesFit (curve : BondingCurve) (fees : PumpfunFees) :
    SwapDirection → Nat → Prop
  | .buy, amount => Affords feeDenominator fees.rates amount 0
  | .sell, amount =>
    ∃ gross, IsGreatest {paid | paid *
          (curve.virtualTokenReserves.toNat + amount) ≤
        curve.virtualQuoteReserves.toNat * amount} gross ∧
      Affords feeDenominator fees.rates gross 0

theorem feesFit_iff {direction : SwapDirection} (positive : amount ≠ 0) :
    curve.FeesFit fees direction amount.toNat ↔
      fees.charge (curve.gross direction amount.toNat) ≤
        curve.gross direction amount.toNat := by
  cases direction with
  | buy => exact affords_zero_iff (by decide)
  | sell =>
    have amountPos : 0 < curve.virtualTokenReserves.toNat + amount.toNat := by
      have : amount.toNat ≠ 0 := fun zero => positive (UInt64.toNat_inj.mp zero)
      omega
    constructor
    · rintro ⟨paid, greatest, affords⟩
      rw [greatest.unique (isGreatest_output amountPos)] at affords
      exact (affords_zero_iff (by decide)).mp affords
    · intro covered
      exact ⟨_, isGreatest_output amountPos,
        (affords_zero_iff (by decide)).mpr covered⟩

theorem paid_le {direction : SwapDirection} :
    curve.paid fees direction amount.toNat ≤
      (curve.outputReserve direction).toNat := by
  cases direction with
  | buy => exact output_le
  | sell => exact (Nat.sub_le _ _).trans grossSell_le

theorem calculateSwapWithFees_exactIn_eq {direction : SwapDirection}
    (incomplete : curve.complete = false)
    (funded : 0 < curve.virtualQuoteReserves.toNat) (positive : amount ≠ 0)
    (below : fees.rates.sum < feeDenominator)
    (covered : fees.charge (curve.gross direction amount.toNat) ≤
      curve.gross direction amount.toNat) :
    curve.calculateSwapWithFees build ⟨.exactIn amount, direction⟩ fees =
      .ok (fees.quoted amount
        (UInt64.ofNat (curve.paid fees direction amount.toNat))
        (curve.gross direction amount.toNat)) := by
  cases direction with
  | buy => exact calculateBuy_eq incomplete positive below covered (by omega)
  | sell => exact calculateSell_eq incomplete positive below covered

theorem gross_lt {direction : SwapDirection} :
    curve.gross direction amount.toNat < 2 ^ 64 := by
  cases direction with
  | buy => exact amount.toNat_lt
  | sell => exact grossSell_lt

theorem calculateSwapWithFees_exact_eq_panic {direction : SwapDirection}
    (incomplete : curve.complete = false) (positive : amount ≠ 0)
    (below : fees.rates.sum < feeDenominator)
    (exceeds : curve.gross direction amount.toNat <
      fees.charge (curve.gross direction amount.toNat)) :
    curve.calculateSwapWithFees .exact ⟨.exactIn amount, direction⟩ fees =
      .error .panic := by
  cases direction with
  | buy => exact calculateBuy_eq_panic rfl incomplete positive below exceeds
  | sell => exact calculateSell_eq_panic rfl incomplete positive below exceeds

/-- A live curve refuses no positive input: it answers or panics. -/
theorem failure_eq_panic {direction : SwapDirection} {failure : QuoteError}
    (incomplete : curve.complete = false) (positive : amount ≠ 0)
    (failed : curve.calculateSwapWithFees build ⟨.exactIn amount, direction⟩
      fees = .error failure) : failure = .panic := by
  cases direction with
  | buy =>
    change curve.calculateBuy build amount fees = _ at failed
    unfold calculateBuy at failed
    rw [if_neg (by simp [incomplete]), if_neg positive] at failed
    exact computed_eq_error failed
  | sell =>
    change curve.calculateSell build amount fees = _ at failed
    unfold calculateSell at failed
    rw [if_neg (by simp [incomplete]), if_neg positive] at failed
    exact computed_eq_error failed

/-- Fees beyond what they are taken from make no safe quote in any build. -/
theorem not_quotesSafely_of_exceeds {direction : SwapDirection}
    (incomplete : curve.complete = false) (positive : amount ≠ 0)
    (below : fees.rates.sum < feeDenominator)
    (exceeds : curve.gross direction amount.toNat <
      fees.charge (curve.gross direction amount.toNat)) :
    ¬curve.QuotesSafely build fees direction amount := by
  intro safe
  have stopped := calculateSwapWithFees_exact_eq_panic incomplete positive below
    exceeds
  unfold QuotesSafely at safe
  split at safe
  next failure failed => exact safe (failure_eq_panic incomplete positive failed)
  next quote answered =>
    rw [stopped] at safe
    cases safe.1

/-- A quote for an input is safe in any build exactly when its fees, each rounded
up to whole units, fit into the amount that they are taken from. -/
theorem calculateSwapWithFees_quotesSafely_iff (build : Build)
    {direction : SwapDirection} (incomplete : curve.complete = false)
    (quoteFunded : curve.virtualQuoteReserves ≠ 0)
    (below : fees.protocolFeeBps.toNat + fees.creatorFeeBps.toNat < 10000)
    (positive : 0 < amount) :
    curve.QuotesSafely build fees direction amount ↔
      curve.FeesFit fees direction amount.toNat := by
  have positiveNe : amount ≠ 0 := by
    rintro rfl
    exact absurd positive (by decide)
  have funded := toNat_pos quoteFunded
  have rates : fees.rates.sum < feeDenominator := by
    simpa [PumpfunFees.rates, feeDenominator] using below
  rw [feesFit_iff positiveNe]
  constructor
  · intro safe
    by_contra exceeds
    exact not_quotesSafely_of_exceeds incomplete positiveNe rates
      (Nat.not_le.mp exceeds) safe
  · intro covered
    unfold QuotesSafely
    rw [calculateSwapWithFees_exactIn_eq incomplete funded positiveNe rates
      covered]
    refine ⟨calculateSwapWithFees_exactIn_eq incomplete funded positiveNe rates
      covered, ?_, ?_⟩
    · exact (UInt64.toNat_ofNat_of_lt' (fees.charge_lt rates gross_lt)).trans_le
        covered
    · refine (UInt64.toNat_ofNat_of_lt' ?_).trans_le paid_le
      exact paid_le.trans_lt (curve.outputReserve direction).isLt

/-- The curve of a freshly launched coin. -/
def launch : BondingCurve where
  virtualTokenReserves := 1073000000000000
  virtualQuoteReserves := 30000000000
  realTokenReserves := 793100000000000
  realQuoteReserves := 0
  tokenTotalSupply := 1000000000000000
  complete := false
  creator := 1
  isMayhemMode := .absent
  isCashbackCoin := .absent

/-- The rates that the program was launched with. -/
def launchFees : PumpfunFees := ⟨0, 95, 30⟩

theorem calculateSwapWithFees_quotesSafely_iff_one_sol :
    launch.QuotesSafely .release launchFees .buy 1000000000 ↔
      launch.FeesFit launchFees .buy (1000000000 : UInt64).toNat :=
  calculateSwapWithFees_quotesSafely_iff .release rfl (by decide) (by decide)
    (by decide)

/-- One lamport owes a lamport to each of the two fees: a debug build panics and
a release build wraps around. -/
theorem one_lamport_not_quotesSafely :
    ¬launch.QuotesSafely .debug launchFees .buy 1 ∧
      ¬launch.QuotesSafely .release launchFees .buy 1 :=
  ⟨not_quotesSafely_of_exceeds rfl (by decide) (by decide) (by decide),
    not_quotesSafely_of_exceeds rfl (by decide) (by decide) (by decide)⟩

end BondingCurve

end Pumpfun

end SolanaProtocols
