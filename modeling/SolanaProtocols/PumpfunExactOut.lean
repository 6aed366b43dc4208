import SolanaProtocols.PumpfunQuotes

/-!
# Exact-out quotes of pumpfun

A quote for an output asks for the least input of the curve, grossed up by the
combined fee rate.  Swapping that input pays two fees that are rounded up apart,
which can be one unit more than the gross-up left for them; and an input of more
than 64 bits is cut off.  The input asked for buys the output exactly when it
fits and affords its fees in whole units.
-/

namespace SolanaProtocols

open ConstantProduct MachineArithmetic RoundedFees Swap

namespace MachineArithmetic

/-- The builds there are: operators differ, casts keep the low bits. -/
def Build.actual (operators : Overflow) : Build := ⟨operators, .wraps⟩

end MachineArithmetic

namespace Pumpfun

namespace BondingCurve

variable {build : Build} {curve : BondingCurve} {fees : PumpfunFees}
  {amount : UInt64} {direction : SwapDirection}

/-- The least input that the curve asks for an output, fees included at their
combined rate. -/
def required (curve : BondingCurve) (fees : PumpfunFees) :
    SwapDirection → Nat → Nat
  | .buy, amount =>
    grossUp feeDenominator fees.rates.sum
      (input curve.virtualQuoteReserves.toNat curve.virtualTokenReserves.toNat
        amount)
  | .sell, amount =>
    input curve.virtualTokenReserves.toNat curve.virtualQuoteReserves.toNat
      (grossUp feeDenominator fees.rates.sum amount)

/-- A quote for an output asks for the required input, which buys the output;
where that input does not fit in 64 bits, the quote is an error value. -/
def ExactOutSuffices (build : Build) (curve : BondingCurve) (fees : PumpfunFees)
    (direction : SwapDirection) (amount : UInt64) : Prop :=
  (∀ quote,
    curve.calculateSwapWithFees build ⟨.exactOut amount, direction⟩ fees =
        .ok quote →
      quote.amountIn.toNat = curve.required fees direction amount.toNat ∧
        ∃ delivered,
          curve.calculateSwapWithFees build
              ⟨.exactIn quote.amountIn, direction⟩ fees = .ok delivered ∧
            amount ≤ delivered.amountOut) ∧
  (2 ^ 64 ≤ curve.required fees direction amount.toNat →
    ∃ failure, failure ≠ QuoteError.panic ∧
      curve.calculateSwapWithFees build ⟨.exactOut amount, direction⟩ fees =
        .error failure)

/-- What has to be taken out of the curve for an output: the output of a buy,
the grossed up output of a sell. -/
def taken (fees : PumpfunFees) : SwapDirection → Nat → Nat
  | .buy, amount => amount
  | .sell, amount => grossUp feeDenominator fees.rates.sum amount

section Steps

theorem combined_steps (below : fees.rates.sum < feeDenominator) :
    build.add 64 fees.protocolFeeBps.toNat fees.creatorFeeBps.toNat =
        some fees.rates.sum ∧
      build.sub 64 feeDenominator fees.rates.sum =
        some (feeDenominator - fees.rates.sum) := by
  have sum : fees.rates.sum =
      fees.protocolFeeBps.toNat + fees.creatorFeeBps.toNat := by
    simp [PumpfunFees.rates]
  have denominator : feeDenominator < 2 ^ 64 := by decide
  constructor
  · rw [sum]
    exact add_eq (by omega)
  · exact sub_eq below.le denominator

theorem divCeil_eq_grossUp (below : fees.rates.sum < feeDenominator) (net : Nat) :
    divCeil (net * feeDenominator) (feeDenominator - fees.rates.sum) =
      some (grossUp feeDenominator fees.rates.sum net) :=
  divCeil_eq (by omega)

theorem divCeil_eq_input {reserveIn reserveOut paid : Nat}
    (lt : paid < reserveOut) :
    divCeil (reserveIn * paid) (reserveOut - paid) =
      some (input reserveIn reserveOut paid) :=
  divCeil_eq (by omega)

end Steps

section Buy

theorem calculateBuyExactOut_refused (incomplete : curve.complete = false)
    (positive : amount ≠ 0)
    (beyond : curve.virtualTokenReserves.toNat ≤ amount.toNat) :
    curve.calculateBuyExactOut build amount fees =
      .error (.insufficientReserves amount
        (UInt64.ofNat curve.virtualTokenReserves.toNat)) := by
  unfold calculateBuyExactOut
  rw [if_neg (by simp [incomplete]), if_neg positive, if_pos beyond]

theorem calculateBuyExactOut_failure {failure : QuoteError}
    (incomplete : curve.complete = false) (positive : amount ≠ 0)
    (held : amount.toNat < curve.virtualTokenReserves.toNat)
    (failed : curve.calculateBuyExactOut build amount fees = .error failure) :
    failure = .panic := by
  unfold calculateBuyExactOut at failed
  rw [if_neg (by simp [incomplete]), if_neg positive,
    if_neg (Nat.not_le.mpr held)] at failed
  exact computed_eq_error failed

/-- A required input of 64 bits is asked for as it is. -/
theorem calculateBuyExactOut_eq (incomplete : curve.complete = false)
    (positive : amount ≠ 0) (below : fees.rates.sum < feeDenominator)
    (held : amount.toNat < curve.virtualTokenReserves.toNat)
    (fits : curve.required fees .buy amount.toNat < 2 ^ 64) :
    curve.calculateBuyExactOut build amount fees =
      .ok (fees.quoted
        (UInt64.ofNat (curve.required fees .buy amount.toNat)) amount
        (curve.required fees .buy amount.toNat)) := by
  have tokenBound := curve.virtualTokenReserves.isLt
  have quoteBound := curve.virtualQuoteReserves.isLt
  obtain ⟨combined, remainder⟩ := @combined_steps build fees below
  unfold required at fits ⊢
  obtain ⟨protocolBound, creatorBound⟩ := fees.shares_lt below fits
  have netBound : input curve.virtualQuoteReserves.toNat
      curve.virtualTokenReserves.toNat amount.toNat < 2 ^ 64 :=
    (le_grossUp below).trans_lt fits
  have scaled : build.mul 128 (input curve.virtualQuoteReserves.toNat
      curve.virtualTokenReserves.toNat amount.toNat) feeDenominator =
        some (input curve.virtualQuoteReserves.toNat
          curve.virtualTokenReserves.toNat amount.toNat * feeDenominator) :=
    mul_eq (mul_lt_two_pow_128 netBound (by decide))
  unfold calculateBuyExactOut
  rw [if_neg (by simp [incomplete]), if_neg positive,
    if_neg (Nat.not_le.mpr held),
    bind_of_eq_some (sub_eq held.le (by omega)),
    bind_of_eq_some (mul_eq (mul_lt_two_pow_128 quoteBound amount.toNat_lt)),
    bind_of_eq_some (divCeil_eq_input held), bind_of_eq_some combined,
    bind_of_eq_some remainder, bind_of_eq_some scaled,
    bind_of_eq_some (divCeil_eq_grossUp below _),
    bind_of_eq_some (ceilFee_eq fits fees.protocolFeeBps.isLt),
    bind_of_eq_some (ceilFee_eq fits fees.creatorFeeBps.isLt),
    bind_of_eq_some (add_eq (by omega)),
    bind_of_eq_some (sub_eq held.le (by omega)),
    bind_of_eq_some (cast_eq fits), bind_of_eq_some (cast_eq protocolBound),
    bind_of_eq_some (cast_eq creatorBound), buildOutput_eq below fits]
  rfl

end Buy

section Sell

theorem sell_stage (below : fees.rates.sum < feeDenominator) :
    computed (do
      let totalFeeBps ←
        build.add 64 fees.protocolFeeBps.toNat fees.creatorFeeBps.toNat
      let scaled ← build.mul 128 amount.toNat feeDenominator
      let denominator ← build.sub 64 feeDenominator totalFeeBps
      divCeil scaled denominator) =
      .ok (grossUp feeDenominator fees.rates.sum amount.toNat) := by
  obtain ⟨combined, remainder⟩ := @combined_steps build fees below
  have scaled : build.mul 128 amount.toNat feeDenominator =
      some (amount.toNat * feeDenominator) :=
    mul_eq (mul_lt_two_pow_128 amount.toNat_lt (by decide))
  rw [bind_of_eq_some combined, bind_of_eq_some scaled,
    bind_of_eq_some remainder, divCeil_eq_grossUp below]
  rfl

theorem calculateSellExactOut_refused (incomplete : curve.complete = false)
    (positive : amount ≠ 0) (below : fees.rates.sum < feeDenominator)
    (casts : build.casts = .wraps)
    (beyond : curve.virtualQuoteReserves.toNat ≤
      grossUp feeDenominator fees.rates.sum amount.toNat) :
    ∃ needed, curve.calculateSellExactOut build amount fees =
      .error (.insufficientReserves needed
        (UInt64.ofNat curve.virtualQuoteReserves.toNat)) := by
  obtain ⟨needed, cut⟩ := Option.isSome_iff_exists.mp
    (@settle_wraps_isSome 64 (grossUp feeDenominator fees.rates.sum amount.toNat))
  rw [← casts] at cut
  refine ⟨UInt64.ofNat needed, ?_⟩
  unfold calculateSellExactOut
  rw [if_neg (by simp [incomplete]), if_neg positive, sell_stage below]
  refine (if_pos beyond).trans ?_
  rw [Build.cast, cut]
  rfl

theorem calculateSellExactOut_failure {failure : QuoteError}
    (incomplete : curve.complete = false) (positive : amount ≠ 0)
    (below : fees.rates.sum < feeDenominator)
    (held : grossUp feeDenominator fees.rates.sum amount.toNat <
      curve.virtualQuoteReserves.toNat)
    (failed : curve.calculateSellExactOut build amount fees = .error failure) :
    failure = .panic := by
  unfold calculateSellExactOut at failed
  rw [if_neg (by simp [incomplete]), if_neg positive, sell_stage below] at failed
  exact computed_eq_error ((if_neg (Nat.not_le.mpr held)).symm.trans failed)

/-- A required input of 64 bits is asked for as it is. -/
theorem calculateSellExactOut_eq (incomplete : curve.complete = false)
    (positive : amount ≠ 0) (below : fees.rates.sum < feeDenominator)
    (held : grossUp feeDenominator fees.rates.sum amount.toNat <
      curve.virtualQuoteReserves.toNat)
    (fits : curve.required fees .sell amount.toNat < 2 ^ 64) :
    curve.calculateSellExactOut build amount fees =
      .ok (fees.quoted
        (UInt64.ofNat (curve.required fees .sell amount.toNat)) amount
        (grossUp feeDenominator fees.rates.sum amount.toNat)) := by
  have tokenBound := curve.virtualTokenReserves.isLt
  have quoteBound := curve.virtualQuoteReserves.isLt
  have grossBound : grossUp feeDenominator fees.rates.sum amount.toNat <
      2 ^ 64 := by omega
  obtain ⟨protocolBound, creatorBound⟩ := fees.shares_lt below grossBound
  have tokensBound : input curve.virtualTokenReserves.toNat
      curve.virtualQuoteReserves.toNat
        (grossUp feeDenominator fees.rates.sum amount.toNat) < 2 ^ 64 := fits
  unfold calculateSellExactOut
  rw [if_neg (by simp [incomplete]), if_neg positive, sell_stage below]
  refine (if_neg (Nat.not_le.mpr held)).trans ?_
  rw [bind_of_eq_some (sub_eq held.le (by omega)),
    bind_of_eq_some (mul_eq (mul_lt_two_pow_128 tokenBound grossBound)),
    bind_of_eq_some (divCeil_eq_input held),
    bind_of_eq_some (ceilFee_eq grossBound fees.protocolFeeBps.isLt),
    bind_of_eq_some (ceilFee_eq grossBound fees.creatorFeeBps.isLt),
    bind_of_eq_some (add_eq (by omega)),
    bind_of_eq_some (sub_eq held.le (by omega)),
    bind_of_eq_some (cast_eq tokensBound),
    bind_of_eq_some (cast_eq protocolBound),
    bind_of_eq_some (cast_eq creatorBound), buildOutput_eq below grossBound]
  rfl

end Sell

section Directions

/-- What the fees have to leave of the amount that they are taken from. -/
def left (curve : BondingCurve) : SwapDirection → Nat → Nat
  | .buy, amount =>
    input curve.virtualQuoteReserves.toNat curve.virtualTokenReserves.toNat
      amount
  | .sell, amount => amount

theorem exists_refusal (incomplete : curve.complete = false)
    (positive : amount ≠ 0) (below : fees.rates.sum < feeDenominator)
    (casts : build.casts = .wraps)
    (beyond : (curve.outputReserve direction).toNat ≤
      taken fees direction amount.toNat) :
    ∃ failure, failure ≠ QuoteError.panic ∧
      curve.calculateSwapWithFees build ⟨.exactOut amount, direction⟩ fees =
        .error failure := by
  cases direction with
  | buy =>
    exact ⟨_, QuoteError.noConfusion,
      calculateBuyExactOut_refused incomplete positive beyond⟩
  | sell =>
    obtain ⟨needed, refused⟩ :=
      calculateSellExactOut_refused incomplete positive below casts beyond
    exact ⟨_, QuoteError.noConfusion, refused⟩

theorem exactOut_failure_eq_panic {failure : QuoteError}
    (incomplete : curve.complete = false) (positive : amount ≠ 0)
    (below : fees.rates.sum < feeDenominator)
    (held : taken fees direction amount.toNat <
      (curve.outputReserve direction).toNat)
    (failed : curve.calculateSwapWithFees build ⟨.exactOut amount, direction⟩
      fees = .error failure) : failure = .panic := by
  cases direction with
  | buy => exact calculateBuyExactOut_failure incomplete positive held failed
  | sell =>
    exact calculateSellExactOut_failure incomplete positive below held failed

theorem exists_exactOut (incomplete : curve.complete = false)
    (positive : amount ≠ 0) (below : fees.rates.sum < feeDenominator)
    (held : taken fees direction amount.toNat <
      (curve.outputReserve direction).toNat)
    (fits : curve.required fees direction amount.toNat < 2 ^ 64) :
    ∃ quote,
      curve.calculateSwapWithFees build ⟨.exactOut amount, direction⟩ fees =
          .ok quote ∧
        quote.amountIn =
          UInt64.ofNat (curve.required fees direction amount.toNat) := by
  cases direction with
  | buy =>
    exact ⟨_, calculateBuyExactOut_eq incomplete positive below held fits, rfl⟩
  | sell =>
    exact ⟨_, calculateSellExactOut_eq incomplete positive below held fits, rfl⟩

theorem required_covers (quoteFunded : 0 < curve.virtualQuoteReserves.toNat)
    (tokenFunded : 0 < curve.virtualTokenReserves.toNat)
    (positive : 0 < amount.toNat) (below : fees.rates.sum < feeDenominator)
    (held : taken fees direction amount.toNat <
      (curve.outputReserve direction).toNat) :
    0 < curve.required fees direction amount.toNat ∧
      fees.charge (curve.gross direction
          (curve.required fees direction amount.toNat)) ≤
        curve.gross direction
          (curve.required fees direction amount.toNat) := by
  cases direction with
  | buy =>
    have netPos := input_pos quoteFunded positive held
    refine ⟨netPos.trans_le (le_grossUp below), ?_⟩
    apply total_le_of_grossed below (isLeast_grossUp below).1
    exact Nat.succ_le_succ netPos
  | sell =>
    have grossLe : grossUp feeDenominator fees.rates.sum amount.toNat ≤
        curve.grossSell (curve.required fees .sell amount.toNat) :=
      (le_output_iff tokenFunded held).mpr le_rfl
    refine ⟨input_pos tokenFunded (positive.trans_le (le_grossUp below)) held,
      ?_⟩
    refine total_le_of_grossed below ?_ (Nat.succ_le_succ positive)
    exact (isLeast_grossUp below).1.trans (Nat.mul_le_mul_left _ grossLe)

theorem le_paid_iff {paidIn : Nat}
    (quoteFunded : 0 < curve.virtualQuoteReserves.toNat)
    (held : taken fees direction amount.toNat <
      (curve.outputReserve direction).toNat)
    (covered : fees.charge (curve.gross direction paidIn) ≤
      curve.gross direction paidIn) :
    amount.toNat ≤ curve.paid fees direction paidIn ↔
      fees.charge (curve.gross direction paidIn) +
          curve.left direction amount.toNat ≤
        curve.gross direction paidIn := by
  cases direction with
  | buy =>
    have pays : amount.toNat ≤ output curve.virtualQuoteReserves.toNat
        curve.virtualTokenReserves.toNat (paidIn - fees.charge paidIn) ↔
        input curve.virtualQuoteReserves.toNat
          curve.virtualTokenReserves.toNat amount.toNat ≤
            paidIn - fees.charge paidIn := le_output_iff quoteFunded held
    simp only [gross, paid, left] at covered ⊢
    rw [pays]
    omega
  | sell =>
    simp only [gross, paid, left] at covered ⊢
    omega

end Directions

/-- The input that the curve requires for an output fits in 64 bits and affords,
in whole units, its fees and what is to be left of it; or the reserve does not
hold the output. -/
def Deliverable (curve : BondingCurve) (fees : PumpfunFees) :
    SwapDirection → Nat → Prop
  | .buy, amount =>
    curve.virtualTokenReserves.toNat ≤ amount ∨
      ∃ net gross,
        IsLeast {net | curve.virtualQuoteReserves.toNat * amount ≤
          (curve.virtualTokenReserves.toNat - amount) * net} net ∧
        IsLeast {gross | net * feeDenominator ≤
          (feeDenominator - fees.rates.sum) * gross} gross ∧
        gross < 2 ^ 64 ∧ Affords feeDenominator fees.rates gross net
  | .sell, amount =>
    ∃ taken,
      IsLeast {gross | amount * feeDenominator ≤
        (feeDenominator - fees.rates.sum) * gross} taken ∧
      (curve.virtualQuoteReserves.toNat ≤ taken ∨
        ∃ tokens gross,
          IsLeast {tokens | curve.virtualTokenReserves.toNat * taken ≤
            (curve.virtualQuoteReserves.toNat - taken) * tokens} tokens ∧
          tokens < 2 ^ 64 ∧
          IsGreatest {paid | paid *
              (curve.virtualTokenReserves.toNat + tokens) ≤
            curve.virtualQuoteReserves.toNat * tokens} gross ∧
          Affords feeDenominator fees.rates gross amount)

theorem deliverable_iff (tokenFunded : 0 < curve.virtualTokenReserves.toNat)
    (below : fees.rates.sum < feeDenominator) :
    curve.Deliverable fees direction amount.toNat ↔
      (curve.outputReserve direction).toNat ≤
          taken fees direction amount.toNat ∨
        (curve.required fees direction amount.toNat < 2 ^ 64 ∧
          fees.charge (curve.gross direction
              (curve.required fees direction amount.toNat)) +
              curve.left direction amount.toNat ≤
            curve.gross direction
              (curve.required fees direction amount.toNat)) := by
  cases direction with
  | buy =>
    simp only [Deliverable, outputReserve, taken, required, gross, left]
    rw [← Nat.not_lt]
    refine or_congr_right' fun held => ?_
    rw [not_not] at held
    constructor
    · rintro ⟨net, paidIn, netLeast, grossLeast, fits, affords⟩
      rw [netLeast.unique (isLeast_input held)] at grossLeast affords
      rw [grossLeast.unique (isLeast_grossUp below)] at fits affords
      exact ⟨fits, (affords_iff (by decide)).mp affords⟩
    · rintro ⟨fits, enough⟩
      exact ⟨_, _, isLeast_input held, isLeast_grossUp below, fits,
        (affords_iff (by decide)).mpr enough⟩
  | sell =>
    have pos (tokens : Nat) : 0 < curve.virtualTokenReserves.toNat + tokens :=
      Nat.add_pos_left tokenFunded tokens
    simp only [Deliverable, outputReserve, taken, required, gross, left]
    constructor
    · rintro ⟨_, takenLeast, beyond | ⟨tokens, gross, inLeast, fits, outGreatest,
        affords⟩⟩
      · rw [takenLeast.unique (isLeast_grossUp below)] at beyond
        exact Or.inl beyond
      · rw [takenLeast.unique (isLeast_grossUp below)] at inLeast
        by_cases held : grossUp feeDenominator fees.rates.sum amount.toNat <
          curve.virtualQuoteReserves.toNat
        · rw [inLeast.unique (isLeast_input held)] at fits outGreatest
          rw [outGreatest.unique (isGreatest_output (pos _))] at affords
          exact Or.inr ⟨fits, (affords_iff (by decide)).mp affords⟩
        · exact Or.inl (Nat.not_lt.mp held)
    · intro answered
      refine ⟨_, isLeast_grossUp below, ?_⟩
      by_cases held : grossUp feeDenominator fees.rates.sum amount.toNat <
        curve.virtualQuoteReserves.toNat
      · rcases answered with beyond | ⟨fits, enough⟩
        · exact Or.inl beyond
        · exact Or.inr ⟨_, _, isLeast_input held, fits, isGreatest_output (pos _),
            (affords_iff (by decide)).mpr enough⟩
      · exact Or.inl (Nat.not_lt.mp held)

/-- What swapping the required input delivers. -/
theorem exists_delivered (build : Build) (incomplete : curve.complete = false)
    (quoteFunded : 0 < curve.virtualQuoteReserves.toNat)
    (below : fees.rates.sum < feeDenominator)
    (fits : curve.required fees direction amount.toNat < 2 ^ 64)
    (requiredPos : 0 < curve.required fees direction amount.toNat)
    (covered : fees.charge (curve.gross direction
        (curve.required fees direction amount.toNat)) ≤
      curve.gross direction (curve.required fees direction amount.toNat)) :
    ∃ delivered,
      curve.calculateSwapWithFees build ⟨.exactIn (UInt64.ofNat
          (curve.required fees direction amount.toNat)), direction⟩ fees =
        .ok delivered ∧
      delivered.amountOut.toNat = curve.paid fees direction
        (curve.required fees direction amount.toNat) := by
  obtain ⟨asked, askedEq⟩ : ∃ asked : UInt64,
      asked.toNat = curve.required fees direction amount.toNat :=
    ⟨_, UInt64.toNat_ofNat_of_lt' fits⟩
  have askedNe : asked ≠ 0 := by
    rintro rfl
    simp only [UInt64.toNat_zero] at askedEq
    omega
  rw [← askedEq, UInt64.ofNat_toNat]
  rw [← askedEq] at covered
  refine ⟨_, calculateSwapWithFees_exactIn_eq incomplete quoteFunded askedNe below
    covered, ?_⟩
  exact UInt64.toNat_ofNat_of_lt' (paid_le.trans_lt
    (curve.outputReserve direction).isLt)

theorem not_exactOutSuffices_of_large (incomplete : curve.complete = false)
    (positive : amount ≠ 0) (below : fees.rates.sum < feeDenominator)
    (held : taken fees direction amount.toNat <
      (curve.outputReserve direction).toNat)
    (large : 2 ^ 64 ≤ curve.required fees direction amount.toNat) :
    ¬curve.ExactOutSuffices build fees direction amount := by
  rintro ⟨-, refuses⟩
  obtain ⟨failure, noPanic, failed⟩ := refuses large
  exact noPanic
    (exactOut_failure_eq_panic incomplete positive below held failed)

/-- A required input of 64 bits suffices exactly when its swap pays the
output. -/
theorem exactOutSuffices_iff_le_paid (incomplete : curve.complete = false)
    (quoteFunded : 0 < curve.virtualQuoteReserves.toNat)
    (tokenFunded : 0 < curve.virtualTokenReserves.toNat)
    (positive : amount ≠ 0) (below : fees.rates.sum < feeDenominator)
    (held : taken fees direction amount.toNat <
      (curve.outputReserve direction).toNat)
    (fits : curve.required fees direction amount.toNat < 2 ^ 64) :
    curve.ExactOutSuffices build fees direction amount ↔
      amount.toNat ≤ curve.paid fees direction
        (curve.required fees direction amount.toNat) := by
  have positiveNat : 0 < amount.toNat :=
    Nat.pos_of_ne_zero fun zero => positive (UInt64.toNat_inj.mp zero)
  obtain ⟨requiredPos, covered⟩ :=
    required_covers quoteFunded tokenFunded positiveNat below held
  obtain ⟨quote, quoted, asked⟩ := @exists_exactOut build _ _ _ _ incomplete
    positive below held fits
  obtain ⟨delivered, swapped, paidOut⟩ := exists_delivered build incomplete
    quoteFunded below fits requiredPos covered
  rw [← paidOut, ← UInt64.le_iff_toNat_le]
  constructor
  · rintro ⟨answers, -⟩
    obtain ⟨-, delivered', swapped', enough⟩ := answers quote quoted
    rw [asked, swapped] at swapped'
    cases swapped'
    exact enough
  · intro enough
    refine ⟨fun quote' quoted' => ?_, fun large => absurd fits large.not_gt⟩
    rw [quoted] at quoted'
    cases quoted'
    rw [asked]
    exact ⟨UInt64.toNat_ofNat_of_lt' fits, delivered, swapped, enough⟩

/-- An exact-out quote of an actual build suffices exactly when its output is
deliverable. -/
theorem exactOutSuffices_iff (operators : Overflow)
    (incomplete : curve.complete = false)
    (quoteFunded : curve.virtualQuoteReserves ≠ 0)
    (tokenFunded : curve.virtualTokenReserves ≠ 0)
    (below : fees.protocolFeeBps.toNat + fees.creatorFeeBps.toNat < 10000)
    (positive : 0 < amount) :
    curve.ExactOutSuffices (.actual operators) fees direction amount ↔
      curve.Deliverable fees direction amount.toNat := by
  have positiveNe : amount ≠ 0 := by
    rintro rfl
    exact absurd positive (by decide)
  have positiveNat : 0 < amount.toNat := UInt64.lt_iff_toNat_lt.mp positive
  have quotePos := toNat_pos quoteFunded
  have tokenPos := toNat_pos tokenFunded
  have rates : fees.rates.sum < feeDenominator := by
    simpa [PumpfunFees.rates, feeDenominator] using below
  rw [deliverable_iff tokenPos rates]
  by_cases held : taken fees direction amount.toNat <
    (curve.outputReserve direction).toNat
  · obtain ⟨-, covered⟩ :=
      required_covers quotePos tokenPos positiveNat rates held
    rw [or_iff_right (Nat.not_le.mpr held), ← le_paid_iff quotePos held covered]
    by_cases fits : curve.required fees direction amount.toNat < 2 ^ 64
    · rw [exactOutSuffices_iff_le_paid incomplete quotePos tokenPos positiveNe
        rates held fits, and_iff_right fits]
    · have short := @not_exactOutSuffices_of_large (.actual operators) _ _ _ _
        incomplete positiveNe rates held (Nat.not_lt.mp fits)
      exact iff_of_false short fun answered => fits answered.1
  · have beyond := Nat.not_lt.mp held
    obtain ⟨failure, noPanic, refused⟩ := @exists_refusal (.actual operators) _ _
      _ _ incomplete positiveNe rates rfl beyond
    refine iff_of_true ⟨fun quote quoted => ?_, fun _ => ⟨failure, noPanic,
      refused⟩⟩ (Or.inl beyond)
    rw [refused] at quoted
    cases quoted

theorem exactOutSuffices_iff_launch :
    launch.ExactOutSuffices (.actual .panics) launchFees .buy 1000000 ↔
      launch.Deliverable launchFees .buy (1000000 : UInt64).toNat :=
  exactOutSuffices_iff .panics rfl (by decide) (by decide) (by decide)
    (by decide)

/-- All but one unit of the tokens cost more than 64 bits of lamports, and the
quote asks for what is left of that sum; the 29 lamports that a million units
are said to cost buy 965699 units. -/
theorem launch_not_exactOutSuffices :
    ¬launch.ExactOutSuffices (.actual .panics) launchFees .buy
        1072999999999999 ∧
      ¬launch.ExactOutSuffices (.actual .panics) launchFees .buy 1000000 := by
  constructor
  · exact not_exactOutSuffices_of_large rfl (by decide) (by decide) (by decide)
      (by decide)
  · rw [exactOutSuffices_iff_le_paid rfl (by decide) (by decide) (by decide)
      (by decide) (by decide) (by decide)]
    decide

end BondingCurve

end Pumpfun

end SolanaProtocols
