import SolanaProtocols.PumpfunQuotes
import Mathlib.Data.Rat.Floor

/-!
# What the PumpSwap quotes compute

A PumpSwap swap is priced in two places: on the quote state, with the fees
selected from the on-chain configuration, and on the bare pool paired with its
reserves, with fees from a ladder over the SOL in the pool.  Both share the
arithmetic.  The quote for an input is the constant product formula less three
fees, each rounded up, and is refused where the fees exceed the output.
-/

namespace SolanaProtocols

open ConstantProduct MachineArithmetic Pumpfun RoundedFees Swap

namespace PumpSwap

/-- The creator fees of the ladder, each up to a number of whole SOL. -/
def creatorLadder : List (Nat × U64) :=
  [(420, 30), (1470, 95), (2460, 90), (3440, 85), (4420, 80), (9820, 75),
    (14740, 70), (19650, 65), (24560, 60), (29470, 55), (34380, 50), (39300, 45),
    (44210, 40), (49120, 35), (54030, 30), (58940, 27), (63860, 25), (68770, 22),
    (73681, 20), (78590, 17), (83500, 15), (88400, 12), (93330, 10), (98240, 7)]

/-- Determine the fee structure from the SOL in the pool. -/
def feeStructure (quoteReservesSol : Rat) (hasCreator : Bool) : FeeStructure :=
  if !hasCreator then ⟨0, 5, 25⟩
  else
    let creatorBps :=
      match creatorLadder.find? (⌊quoteReservesSol⌋.toNat ≤ ·.1) with
      | some (_, bps) => bps
      | none => 5
    let (protocolBps, lpBps) :=
      if quoteReservesSol ≤ 420 then (93, 2) else (5, 20)
    ⟨creatorBps, protocolBps, lpBps⟩

/-- A pool with its vault balances and the fees selected for it. -/
structure PumpSwapQuote where
  baseBalance : U64
  quoteBalance : U64
  fees : PumpfunFees
deriving DecidableEq, Repr

namespace PumpSwapQuote

def isActive (self : PumpSwapQuote) : Bool :=
  0 < self.baseBalance ∧ 0 < self.quoteBalance

theorem isActive_iff {self : PumpSwapQuote} :
    self.isActive = true ↔ self.baseBalance ≠ 0 ∧ self.quoteBalance ≠ 0 := by
  simp [isActive, BitVec.pos_iff_ne_zero]

def feeStructure (self : PumpSwapQuote) : FeeStructure where
  creatorBps := self.fees.creatorFeeBps
  protocolBps := self.fees.protocolFeeBps
  lpBps := self.fees.lpFeeBps

/-- Buying pays with the quote token, selling with the base token. -/
def calculateSwap (build : Build) (self : PumpSwapQuote) (params : SwapParams) :
    Except QuoteError SwapOutput :=
  if !self.isActive then
    .error (.protocolError "swap"
      "PumpSwap pool has no reserves on one or both sides")
  else
    let (reserveIn, reserveOut) :=
      match params.direction with
      | .buy => (self.quoteBalance, self.baseBalance)
      | .sell => (self.baseBalance, self.quoteBalance)
    match params.amount with
    | .exactIn amount =>
      (calculateSwapExactIn build amount reserveIn reserveOut
        self.feeStructure).map (·.2)
    | .exactOut amount =>
      computed (calculateSwapExactOut build amount reserveIn reserveOut
        self.feeStructure)

/-- The reserve that a swap fills. -/
def reserveIn (self : PumpSwapQuote) : SwapDirection → U64
  | .buy => self.quoteBalance
  | .sell => self.baseBalance

/-- The reserve that a swap draws on. -/
def reserveOut (self : PumpSwapQuote) : SwapDirection → U64
  | .buy => self.baseBalance
  | .sell => self.quoteBalance

theorem calculateSwap_exactIn {build : Build} {self : PumpSwapQuote}
    {amount : UInt64} {direction : SwapDirection}
    (active : self.isActive = true) :
    self.calculateSwap build ⟨.exactIn amount, direction⟩ =
      (calculateSwapExactIn build amount (self.reserveIn direction)
        (self.reserveOut direction) self.feeStructure).map (·.2) := by
  unfold calculateSwap
  cases direction <;> simp [active, reserveIn, reserveOut]

theorem reserveIn_pos {self : PumpSwapQuote} (active : self.isActive = true)
    (direction : SwapDirection) : 0 < (self.reserveIn direction).toNat := by
  obtain ⟨base, quote⟩ := isActive_iff.mp active
  cases direction with
  | buy => exact toNat_pos quote
  | sell => exact toNat_pos base

end PumpSwapQuote

theorem PoolWithReserves.isActive_iff {self : PoolWithReserves} :
    self.isActive = true ↔ self.baseReserves ≠ 0 ∧ self.quoteReserves ≠ 0 := by
  simp [isActive, BitVec.pos_iff_ne_zero]

/-- The older path: fees from the ladder, by the SOL that the quote reserve
amounts to. -/
def PoolWithReserves.calculateSwap (build : Build) (quoteReservesSol : U64 → Rat)
    (self : PoolWithReserves) (params : SwapParams) :
    Except QuoteError SwapOutput :=
  if !self.isActive then
    .error (.protocolError "swap" "PumpSwap pool has no reserves")
  else
    let fees :=
      feeStructure (quoteReservesSol self.quoteReserves) self.pool.hasCreator
    match params.direction, params.amount with
    | .buy, .exactIn amountIn =>
      (calculateSwapExactIn build amountIn self.quoteReserves self.baseReserves
        fees).map (·.2)
    | .sell, .exactIn amountIn =>
      (calculateSwapExactIn build amountIn self.baseReserves self.quoteReserves
        fees).map (·.2)
    | .buy, .exactOut amountOut =>
      computed (calculateSwapExactOut build amountOut self.quoteReserves
        self.baseReserves fees)
    | .sell, .exactOut amountOut =>
      computed (calculateSwapExactOut build amountOut self.baseReserves
        self.quoteReserves fees)

namespace FeeStructure

def rates (fees : FeeStructure) : List Nat :=
  [fees.creatorBps.toNat, fees.protocolBps.toNat, fees.lpBps.toNat]

/-- The fees of an amount, each rounded up. -/
def charge (fees : FeeStructure) (amount : Nat) : Nat :=
  total feeDenominator fees.rates amount

variable {build : Build} {fees : FeeStructure} {amount : Nat}

theorem rates_feeStructure_lt (quoteReservesSol : Rat) (hasCreator : Bool) :
    (feeStructure quoteReservesSol hasCreator).rates.sum < feeDenominator := by
  have rungs : ∀ rung ∈ creatorLadder, rung.2.toNat ≤ 95 := by decide
  unfold feeStructure
  cases hasCreator with
  | false => simp [rates, feeDenominator]
  | true =>
    cases found : creatorLadder.find? (⌊quoteReservesSol⌋.toNat ≤ ·.1) with
    | none => split_ifs <;> simp_all [rates, feeDenominator]
    | some rung =>
      have small := rungs rung (List.mem_of_find?_eq_some found)
      split_ifs <;> simp_all [rates, feeDenominator] <;> omega

theorem charge_eq (fees : FeeStructure) (amount : Nat) :
    fees.charge amount =
      share feeDenominator fees.creatorBps.toNat amount +
        share feeDenominator fees.protocolBps.toNat amount +
        share feeDenominator fees.lpBps.toNat amount := by
  rw [charge, rates, total_cons, total_cons, total_cons, total_nil, Nat.add_zero,
    ← Nat.add_assoc]

@[simp]
theorem charge_zero_rates (amount : Nat) :
    charge ⟨0, 0, 0⟩ amount = 0 := by
  simp [charge_eq]

theorem charge_lt (below : fees.rates.sum < feeDenominator)
    (bound : amount < 2 ^ 64) : fees.charge amount < 2 ^ 64 :=
  total_lt_two_pow_64 below (by simp [rates]) bound

theorem ceilDiv_eq_share (bps : Nat) :
    ceilDiv (amount * bps) feeDenominator = share feeDenominator bps amount :=
  if_neg (by decide)

theorem calculateFees_eq (below : fees.rates.sum < feeDenominator)
    (bound : amount < 2 ^ 64) :
    fees.calculateFees build amount =
      some (share feeDenominator fees.creatorBps.toNat amount,
        share feeDenominator fees.protocolBps.toNat amount,
        share feeDenominator fees.lpBps.toNat amount) := by
  have fits := fees.charge_lt below bound
  rw [charge_eq] at fits
  have creatorBound : share feeDenominator fees.creatorBps.toNat amount <
      2 ^ 64 := by omega
  have protocolBound : share feeDenominator fees.protocolBps.toNat amount <
      2 ^ 64 := by omega
  have lpBound : share feeDenominator fees.lpBps.toNat amount < 2 ^ 64 := by
    omega
  unfold calculateFees
  rw [bind_of_eq_some (mul_eq (mul_lt_two_pow_128 bound fees.creatorBps.isLt)),
    bind_of_eq_some (mul_eq (mul_lt_two_pow_128 bound fees.protocolBps.isLt)),
    bind_of_eq_some (mul_eq (mul_lt_two_pow_128 bound fees.lpBps.isLt)),
    ceilDiv_eq_share, ceilDiv_eq_share, ceilDiv_eq_share,
    bind_of_eq_some (cast_eq creatorBound),
    bind_of_eq_some (cast_eq protocolBound), bind_of_eq_some (cast_eq lpBound)]
  rfl

/-- The quote that charges a gross amount and pays what is stated. -/
def quoted (fees : FeeStructure) (amountIn amountOut : UInt64) (gross : Nat) :
    SwapOutput where
  amountIn := amountIn
  amountOut := amountOut
  fee := UInt64.ofNat (fees.charge gross)
  protocolFee :=
    UInt64.ofNat (share feeDenominator fees.protocolBps.toNat gross)
  lpFee := UInt64.ofNat (share feeDenominator fees.creatorBps.toNat gross +
    share feeDenominator fees.lpBps.toNat gross)

end FeeStructure

section ExactIn

variable {build : Build} {fees : FeeStructure} {amount : UInt64}
  {reserveIn reserveOut : U64}

/-- The steps of a quote for an input up to its gross output. -/
theorem gross_steps {gross : Nat} (funded : 0 < reserveIn.toNat)
    (grossEq : output reserveIn.toNat reserveOut.toNat amount.toNat = gross) :
    build.mul 128 reserveOut.toNat amount.toNat =
        some (reserveOut.toNat * amount.toNat) ∧
      build.add 128 reserveIn.toNat amount.toNat =
        some (reserveIn.toNat + amount.toNat) ∧
      checkedDiv (reserveOut.toNat * amount.toNat)
          (reserveIn.toNat + amount.toNat) = some gross ∧
      build.cast 64 gross = some gross ∧
      build.sub 128 reserveOut.toNat gross = some (reserveOut.toNat - gross) := by
  have amountBound := amount.toNat_lt
  have inBound := reserveIn.isLt
  have outBound := reserveOut.isLt
  have grossLe : gross ≤ reserveOut.toNat := grossEq ▸ output_le
  refine ⟨mul_eq (mul_lt_two_pow_128 outBound amountBound), add_eq (by omega),
    ?_, cast_eq (by omega), sub_eq grossLe (by omega)⟩
  rw [← grossEq]
  exact if_neg (by omega)

theorem fee_steps {gross : Nat} (below : fees.rates.sum < feeDenominator)
    (bound : gross < 2 ^ 64) :
    build.add 64 (share feeDenominator fees.creatorBps.toNat gross)
        (share feeDenominator fees.protocolBps.toNat gross) =
        some (share feeDenominator fees.creatorBps.toNat gross +
          share feeDenominator fees.protocolBps.toNat gross) ∧
      build.add 64 (share feeDenominator fees.creatorBps.toNat gross +
          share feeDenominator fees.protocolBps.toNat gross)
          (share feeDenominator fees.lpBps.toNat gross) =
        some (fees.charge gross) ∧
      build.add 64 (share feeDenominator fees.creatorBps.toNat gross)
          (share feeDenominator fees.lpBps.toNat gross) =
        some (share feeDenominator fees.creatorBps.toNat gross +
          share feeDenominator fees.lpBps.toNat gross) := by
  have fits := fees.charge_lt below bound
  rw [fees.charge_eq] at fits
  rw [fees.charge_eq]
  exact ⟨add_eq (by omega), add_eq fits, add_eq (by omega)⟩

/-- A quote for an input is decided by whether its fees fit into the gross
output. -/
theorem calculateSwapExactIn_of_gross {gross : Nat} (funded : 0 < reserveIn.toNat)
    (below : fees.rates.sum < feeDenominator)
    (grossEq : output reserveIn.toNat reserveOut.toNat amount.toNat = gross) :
    calculateSwapExactIn build amount reserveIn reserveOut fees =
      match checkedSub gross (fees.charge gross) with
      | none => .error (.feesExceedOutput (UInt64.ofNat gross)
          (UInt64.ofNat (fees.charge gross)))
      | some net => .ok (UInt64.ofNat net,
          fees.quoted amount (UInt64.ofNat net) gross) := by
  have bound : gross < 2 ^ 64 := grossEq ▸ output_le.trans_lt reserveOut.isLt
  obtain ⟨product, sum, quotient, kept, rest⟩ :=
    @gross_steps build _ _ _ _ funded grossEq
  obtain ⟨first, all, outer⟩ := @fee_steps build _ _ below bound
  unfold calculateSwapExactIn
  rw [bind_of_eq_some product, bind_of_eq_some sum, bind_of_eq_some quotient,
    bind_of_eq_some kept, bind_of_eq_some (fees.calculateFees_eq below bound)]
  dsimp only
  rw [bind_of_eq_some first, bind_of_eq_some all, computed_pure_bind]
  cases checkedSub gross (fees.charge gross) with
  | none => rfl
  | some net =>
    dsimp only
    rw [bind_of_eq_some sum, bind_of_eq_some rest, bind_of_eq_some outer]
    rfl

theorem calculateSwapExactIn_eq {gross : Nat} (funded : 0 < reserveIn.toNat)
    (below : fees.rates.sum < feeDenominator)
    (grossEq : output reserveIn.toNat reserveOut.toNat amount.toNat = gross)
    (covered : fees.charge gross ≤ gross) :
    calculateSwapExactIn build amount reserveIn reserveOut fees =
      .ok (UInt64.ofNat (gross - fees.charge gross),
        fees.quoted amount (UInt64.ofNat (gross - fees.charge gross)) gross) := by
  have net : checkedSub gross (fees.charge gross) =
      some (gross - fees.charge gross) := if_pos covered
  rw [calculateSwapExactIn_of_gross funded below grossEq, net]

theorem calculateSwapExactIn_refused {gross : Nat}
    (funded : 0 < reserveIn.toNat) (below : fees.rates.sum < feeDenominator)
    (grossEq : output reserveIn.toNat reserveOut.toNat amount.toNat = gross)
    (exceeds : gross < fees.charge gross) :
    calculateSwapExactIn build amount reserveIn reserveOut fees =
      .error (.feesExceedOutput (UInt64.ofNat gross)
        (UInt64.ofNat (fees.charge gross))) := by
  have net : checkedSub gross (fees.charge gross) = none :=
    if_neg (Nat.not_le.mpr exceeds)
  rw [calculateSwapExactIn_of_gross funded below grossEq, net]

/-- Whatever the fees and the build, a quote for an input reports the amount and
pays no more than the gross output. -/
theorem bounds_of_calculateSwapExactIn {amountOut : UInt64} {quote : SwapOutput}
    (funded : 0 < reserveIn.toNat)
    (answered : calculateSwapExactIn build amount reserveIn reserveOut fees =
      .ok (amountOut, quote)) :
    quote.amountIn = amount ∧ quote.amountOut = amountOut ∧
      amountOut.toNat ≤
        output reserveIn.toNat reserveOut.toNat amount.toNat := by
  obtain ⟨product, sum, quotient, kept, -⟩ :=
    @gross_steps build _ _ _ _ funded rfl
  unfold calculateSwapExactIn at answered
  rw [bind_of_eq_some product, bind_of_eq_some sum, bind_of_eq_some quotient,
    bind_of_eq_some kept] at answered
  obtain ⟨⟨before, gross, creator, protocol, lp, fee⟩, staged, answered⟩ :=
    bind_eq_ok_iff.mp answered
  simp only [computed_eq_ok_iff, Option.bind_eq_bind, Option.bind_eq_some_iff,
    Option.pure_def, Option.some.injEq, Prod.mk.injEq] at staged
  obtain ⟨_, -, _, -, _, -, -, rfl, -⟩ := staged
  dsimp only at answered
  split at answered
  · cases answered
  next net subtracted =>
    obtain ⟨-, rfl⟩ := checkedSub_eq_some_iff.mp subtracted
    simp only [computed_eq_ok_iff, Option.bind_eq_bind, Option.bind_eq_some_iff,
      Option.pure_def, Option.some.injEq, Prod.mk.injEq] at answered
    obtain ⟨_, -, _, -, _, -, rfl, rfl⟩ := answered
    refine ⟨rfl, rfl, ?_⟩
    have netLe := Nat.sub_le
      (output reserveIn.toNat reserveOut.toNat amount.toNat) fee
    rw [UInt64.toNat_ofNat_of_lt' (netLe.trans_lt
      (output_le.trans_lt reserveOut.isLt))]
    exact netLe

end ExactIn

namespace PumpSwapQuote

variable {build : Build} {self : PumpSwapQuote} {amount : UInt64}
  {direction : SwapDirection}

/-- The gross output of a swap. -/
def gross (self : PumpSwapQuote) (direction : SwapDirection) (amount : Nat) :
    Nat :=
  output (self.reserveIn direction).toNat (self.reserveOut direction).toNat amount

theorem gross_lt : self.gross direction amount.toNat < 2 ^ 64 :=
  output_le.trans_lt (self.reserveOut direction).isLt

/-- An active quote whose fees fit into the gross output. -/
theorem calculateSwap_exactIn_eq (active : self.isActive = true)
    (below : self.feeStructure.rates.sum < feeDenominator)
    (covered : self.feeStructure.charge (self.gross direction amount.toNat) ≤
      self.gross direction amount.toNat) :
    self.calculateSwap build ⟨.exactIn amount, direction⟩ =
      .ok (self.feeStructure.quoted amount
        (UInt64.ofNat (self.gross direction amount.toNat -
          self.feeStructure.charge (self.gross direction amount.toNat)))
        (self.gross direction amount.toNat)) := by
  rw [calculateSwap_exactIn active, calculateSwapExactIn_eq
    (reserveIn_pos active direction) below rfl covered]
  rfl

theorem covered_of_calculateSwap {out : SwapOutput}
    (active : self.isActive = true)
    (below : self.feeStructure.rates.sum < feeDenominator)
    (answered : self.calculateSwap build ⟨.exactIn amount, direction⟩ =
      .ok out) :
    self.feeStructure.charge (self.gross direction amount.toNat) ≤
      self.gross direction amount.toNat := by
  by_contra exceeds
  rw [calculateSwap_exactIn active, calculateSwapExactIn_refused
    (reserveIn_pos active direction) below rfl (Nat.not_le.mp exceeds)] at answered
  cases answered

end PumpSwapQuote

section ExactOut

variable {build : Build} {fees : FeeStructure} {amount : UInt64}
  {reserveIn reserveOut : U64}

/-- The gross output that a quote for an output starts from. -/
def FeeStructure.grossOutput (fees : FeeStructure) (amount : Nat) : Nat :=
  grossUp feeDenominator fees.rates.sum amount

/-- The steps of a quote for an output up to its gross output. -/
theorem grossOutput_steps (below : fees.rates.sum < feeDenominator) :
    fees.totalBps build = some fees.rates.sum ∧
      build.mul 128 amount.toNat feeDenominator =
        some (amount.toNat * feeDenominator) ∧
      build.sub 128 feeDenominator fees.rates.sum =
        some (feeDenominator - fees.rates.sum) ∧
      ceilDiv (amount.toNat * feeDenominator)
          (feeDenominator - fees.rates.sum) = fees.grossOutput amount.toNat := by
  have denominator : feeDenominator < 2 ^ 64 := by decide
  have sum : fees.rates.sum = fees.creatorBps.toNat + fees.protocolBps.toNat +
      fees.lpBps.toNat := by
    simp [FeeStructure.rates, Nat.add_assoc]
  refine ⟨?_, mul_eq (mul_lt_two_pow_128 amount.toNat_lt denominator),
    sub_eq below.le (by omega), if_neg (by omega)⟩
  unfold FeeStructure.totalBps
  rw [bind_of_eq_some (add_eq (by omega)), sum]
  exact add_eq (by omega)

theorem calculateSwapExactOut_eq_default (below : fees.rates.sum < feeDenominator)
    (beyond : reserveOut.toNat ≤ fees.grossOutput amount.toNat) :
    calculateSwapExactOut build amount reserveIn reserveOut fees =
      some defaultOutput := by
  obtain ⟨bps, scaled, remainder, gross⟩ :=
    @grossOutput_steps build _ amount below
  unfold calculateSwapExactOut
  rw [bind_of_eq_some bps, bind_of_eq_some scaled, bind_of_eq_some remainder,
    gross]
  exact if_pos beyond

/-- Any other request is answered with the cost of its gross output, cut off
after 64 bits. -/
theorem calculateSwapExactOut_eq (casts : build.casts = .wraps)
    (below : fees.rates.sum < feeDenominator)
    (held : fees.grossOutput amount.toNat < reserveOut.toNat) :
    ∃ asked,
      build.cast 64 (input reserveIn.toNat reserveOut.toNat
          (fees.grossOutput amount.toNat)) = some asked ∧
        calculateSwapExactOut build amount reserveIn reserveOut fees =
          some (fees.quoted (UInt64.ofNat asked) amount
            (fees.grossOutput amount.toNat)) := by
  have outBound := reserveOut.isLt
  have bound : fees.grossOutput amount.toNat < 2 ^ 64 := by omega
  obtain ⟨bps, scaled, remainder, gross⟩ :=
    @grossOutput_steps build _ amount below
  obtain ⟨first, all, outer⟩ := @fee_steps build _ _ below bound
  have cost : ceilDiv (reserveIn.toNat * fees.grossOutput amount.toNat)
      (reserveOut.toNat - fees.grossOutput amount.toNat) =
      input reserveIn.toNat reserveOut.toNat (fees.grossOutput amount.toNat) :=
    if_neg (by omega)
  obtain ⟨asked, cut⟩ := Option.isSome_iff_exists.mp
    (@settle_wraps_isSome 64 (input reserveIn.toNat reserveOut.toNat
      (fees.grossOutput amount.toNat)))
  rw [← casts] at cut
  refine ⟨asked, cut, ?_⟩
  unfold calculateSwapExactOut
  rw [bind_of_eq_some bps, bind_of_eq_some scaled, bind_of_eq_some remainder,
    gross]
  refine (if_neg (Nat.not_le.mpr held)).trans ?_
  rw [bind_of_eq_some (mul_eq (mul_lt_two_pow_128 reserveIn.isLt bound)),
    bind_of_eq_some (sub_eq held.le (by omega)), cost,
    bind_of_eq_some (cast_eq bound),
    bind_of_eq_some (fees.calculateFees_eq below bound)]
  dsimp only
  rw [bind_of_eq_some first, bind_of_eq_some all,
    bind_of_eq_some (show build.cast 64 _ = some asked from cut),
    bind_of_eq_some outer]
  rfl

end ExactOut

end PumpSwap

end SolanaProtocols
