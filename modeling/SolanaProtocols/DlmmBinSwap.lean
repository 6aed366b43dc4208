import SolanaProtocols.DlmmFees
import SolanaProtocols.InPlaceUpdate

/-!
# A swap into one bin

The swap works out its amounts before it touches the bin, and then assigns the
two reserves one after the other; each assignment can fail on its own.  Here the
bin is mutated in place, as the source does it.  The amounts are such that the
second assignment cannot fail after the first, so an error leaves the bin as it
was, and no swap takes more out of a bin than its price allows for what it puts
in.
-/

namespace SolanaProtocols

namespace MeteoraDlmm

open ProportionalCharge
open InPlaceUpdate (ofResult outcome_get_bind outcome_ofResult_ok_bind
  outcome_bind_of_ok outcome_bind_of_error)

/-- A bin with all fields of its account. -/
structure BinRecord extends Bin where
  liquiditySupply : Nat
  rewardPerTokenStored : Nat × Nat
  feeAmountXPerTokenStored : Nat
  feeAmountYPerTokenStored : Nat
  amountXIn : Nat
  amountYIn : Nat
deriving DecidableEq, Repr

/-- Work on a bin in place: an error keeps what was assigned before it. -/
abbrev BinUpdate := InPlaceUpdate String BinRecord

/-- The two assignments at the end of a swap. -/
def assignReserves (swapForY : Bool) (amountIntoBin amountOut : Nat) :
    BinUpdate Unit := do
  if swapForY then
    let amountX ← ofResult (safeAdd 64 (← get).amountX amountIntoBin)
    modify fun bin => { bin with amountX := amountX }
    let amountY ← ofResult (safeSub (← get).amountY amountOut)
    modify fun bin => { bin with amountY := amountY }
  else
    let amountY ← ofResult (safeAdd 64 (← get).amountY amountIntoBin)
    modify fun bin => { bin with amountY := amountY }
    let amountX ← ofResult (safeSub (← get).amountX amountOut)
    modify fun bin => { bin with amountX := amountX }

/-- `binSwap` on a bin that the caller keeps. -/
def binSwapInPlace (amountIn price : Nat) (swapForY : Bool) (pair : LbPair)
    (hostFeeBps : Option Nat) : BinUpdate BinSwapResult := do
  let (result, amountIntoBin) ← ofResult
    (binSwapAmounts (← get).toBin amountIn price swapForY pair hostFeeBps)
  assignReserves swapForY amountIntoBin result.amountOut
  return result

/-- The reserve that a swap fills. -/
def amountInto (bin : Bin) (swapForY : Bool) : Nat :=
  if swapForY then bin.amountX else bin.amountY

/-- The bin after a swap that put an amount in and took an amount out. -/
def Bin.swapped (bin : Bin) (swapForY : Bool) (amountIntoBin amountOut : Nat) :
    Bin :=
  if swapForY then
    { bin with
      amountX := bin.amountX + amountIntoBin
      amountY := bin.amountY - amountOut }
  else
    { bin with
      amountX := bin.amountX - amountOut
      amountY := bin.amountY + amountIntoBin }

section Assignments

theorem safeAdd_of_lt {width x y : Nat} (fits : x + y < 2 ^ width) :
    safeAdd width x y = .ok (x + y) := by
  rw [safeAdd, checkedAdd, if_pos fits]
  rfl

theorem safeAdd_of_not_lt {width x y : Nat} (overflows : ¬x + y < 2 ^ width) :
    safeAdd width x y = .error "LBError::MathOverflow" := by
  rw [safeAdd, checkedAdd, if_neg overflows]
  rfl

variable {swapForY : Bool} {amountIntoBin amountOut : Nat} {bin : BinRecord}

theorem assignReserves_outcome
    (held : amountOut ≤ maxAmountOut bin.toBin swapForY) :
    (assignReserves swapForY amountIntoBin amountOut).outcome bin =
      if amountInto bin.toBin swapForY + amountIntoBin < 2 ^ 64 then
        (.ok (), { bin with
          toBin := bin.toBin.swapped swapForY amountIntoBin amountOut })
      else (.error "LBError::MathOverflow", bin) := by
  unfold assignReserves
  cases swapForY with
  | true =>
    have left : safeSub bin.amountY amountOut = .ok (bin.amountY - amountOut) :=
      safeSub_of_le held
    by_cases fits : bin.amountX + amountIntoBin < 2 ^ 64
    · refine Eq.trans ?_ (if_pos fits).symm
      simp [safeAdd_of_lt fits, left, Bin.swapped]
    · refine Eq.trans ?_ (if_neg fits).symm
      simp [safeAdd_of_not_lt fits]
  | false =>
    have left : safeSub bin.amountX amountOut = .ok (bin.amountX - amountOut) :=
      safeSub_of_le held
    by_cases fits : bin.amountY + amountIntoBin < 2 ^ 64
    · refine Eq.trans ?_ (if_pos fits).symm
      simp [safeAdd_of_lt fits, left, Bin.swapped]
    · refine Eq.trans ?_ (if_neg fits).symm
      simp [safeAdd_of_not_lt fits]

end Assignments

section Amounts

variable {bin : Bin} {amountIn price : Nat} {swapForY : Bool} {pair : LbPair}
  {hostFeeBps : Option Nat} {result : BinSwapResult} {amountIntoBin : Nat}

/-- Where the outgoing reserve holds the amount, the swap of the quoter fails
where the first assignment does. -/
theorem binSwap_of_amounts (held : result.amountOut ≤ maxAmountOut bin swapForY)
    (ok : binSwapAmounts bin amountIn price swapForY pair hostFeeBps =
      .ok (result, amountIntoBin)) :
    binSwap bin amountIn price swapForY pair hostFeeBps =
      if amountInto bin swapForY + amountIntoBin < 2 ^ 64 then
        .ok (result, bin.swapped swapForY amountIntoBin result.amountOut)
      else .error "LBError::MathOverflow" := by
  rw [binSwap, ok]
  cases swapForY with
  | true =>
    have left : safeSub bin.amountY result.amountOut =
        .ok (bin.amountY - result.amountOut) := safeSub_of_le held
    by_cases fits : bin.amountX + amountIntoBin < 2 ^ 64
    · refine Eq.trans ?_ (if_pos fits).symm
      simp [safeAdd_of_lt fits, left, Bin.swapped, bind, Except.bind, pure,
        Except.pure]
    · refine Eq.trans ?_ (if_neg fits).symm
      simp [safeAdd_of_not_lt fits, bind, Except.bind]
  | false =>
    have left : safeSub bin.amountX result.amountOut =
        .ok (bin.amountX - result.amountOut) := safeSub_of_le held
    by_cases fits : bin.amountY + amountIntoBin < 2 ^ 64
    · refine Eq.trans ?_ (if_pos fits).symm
      simp [safeAdd_of_lt fits, left, Bin.swapped, bind, Except.bind, pure,
        Except.pure]
    · refine Eq.trans ?_ (if_neg fits).symm
      simp [safeAdd_of_not_lt fits, bind, Except.bind]

/-- The amounts of a swap, and what they are worth at the price of the bin. -/
structure AmountsWithin (bin : Bin) (amountIn price : Nat) (swapForY : Bool)
    (result : BinSwapResult) (amountIntoBin : Nat) : Prop where
  usedLe : result.amountInWithFees ≤ amountIn
  split : result.amountInWithFees = amountIntoBin + result.fee
  amountOutLe : result.amountOut ≤ maxAmountOut bin swapForY
  worth : result.amountOut * rateCost swapForY price ≤
    amountIntoBin * rateUnit swapForY price
  drained : result.amountInWithFees < amountIn →
    result.amountOut = maxAmountOut bin swapForY

theorem worth_of_getAmountIn {amountOut cost : Nat} (pricePos : 0 < price)
    (ok : getAmountIn amountOut price swapForY = .ok cost) :
    amountOut * rateCost swapForY price ≤ cost * rateUnit swapForY price := by
  rw [getAmountIn_eq ok, Nat.mul_comm (scaleUp _ _ _)]
  exact (ceilDiv_le_iff_le_mul (rateUnit_pos pricePos)).mp le_rfl

theorem worth_of_getAmountOut {amountOut net : Nat}
    (ok : getAmountOut net price swapForY = .ok amountOut) :
    amountOut * rateCost swapForY price ≤ net * rateUnit swapForY price := by
  rw [getAmountOut_eq ok]
  exact Nat.div_mul_le_self _ _

theorem amountsWithin_of_binSwapAmounts (pricePos : 0 < price)
    (ok : binSwapAmounts bin amountIn price swapForY pair hostFeeBps =
      .ok (result, amountIntoBin)) :
    AmountsWithin bin amountIn price swapForY result amountIntoBin := by
  simp only [binSwapAmounts, bind_eq_ok_iff] at ok
  obtain ⟨maxIn, maxInEq, maxFee, -, drainIn, drainInEq,
    ⟨used, out, fee, protocolFee⟩, amountsEq, hostFee, -, afterHost, -, into,
    intoEq, ok⟩ := ok
  cases ok
  rw [safeSub_eq_ok_iff] at intoEq
  obtain ⟨feeLe, rfl⟩ := intoEq
  rw [maxAmountIn_eq] at maxInEq
  rw [safeAdd_eq_ok_iff] at drainInEq
  obtain ⟨-, rfl⟩ := drainInEq
  split at amountsEq
  next drains =>
    obtain ⟨_, -, amountsEq⟩ := bind_eq_ok_iff.mp amountsEq
    cases amountsEq
    refine ⟨drains.le, ?_, le_rfl, ?_, fun _ => rfl⟩
    · exact (Nat.sub_add_cancel feeLe).symm
    · rw [Nat.add_sub_cancel]
      exact worth_of_getAmountIn pricePos maxInEq
  next =>
    simp only [bind_eq_ok_iff] at amountsEq
    obtain ⟨included, -, net, netEq, bought, boughtEq, _, -, amountsEq⟩ :=
      amountsEq
    cases amountsEq
    rw [safeSub_eq_ok_iff] at netEq
    obtain ⟨-, rfl⟩ := netEq
    refine ⟨le_rfl, ?_, Nat.min_le_right _ _, ?_, ?_⟩
    · exact (Nat.sub_add_cancel feeLe).symm
    · exact (Nat.mul_le_mul_right _ (Nat.min_le_left _ _)).trans
        (worth_of_getAmountOut boughtEq)
    · intro less
      exact absurd less (lt_irrefl _)

/-- The protocol and the host share the part of the fee that the pool gives
away. -/
theorem shares_le_fee (protocolShare : pair.parameters.protocolShare ≤ 10000)
    (ok : binSwapAmounts bin amountIn price swapForY pair hostFeeBps =
      .ok (result, amountIntoBin)) :
    result.protocolFeeAfterHostFee + result.hostFee ≤ result.fee := by
  have protocolLe {fee protocolFee : Nat}
      (charged : computeProtocolFee pair fee = .ok protocolFee) :
      protocolFee ≤ fee := by
    simp only [computeProtocolFee, safeMul, safeDiv, safeCast_eq_ok_iff,
      bind_eq_ok_iff, okOr_eq_ok_iff, checkedMul_eq_some_iff,
      checkedDiv_eq_some_iff] at charged
    obtain ⟨_, ⟨-, rfl⟩, _, ⟨-, rfl⟩, -, rfl⟩ := charged
    apply Nat.div_le_of_le_mul
    rw [Nat.mul_comm]
    exact Nat.mul_le_mul_right fee protocolShare
  simp only [binSwapAmounts, bind_eq_ok_iff] at ok
  obtain ⟨maxIn, -, maxFee, -, drainIn, -, ⟨used, out, fee, protocolFee⟩,
    amountsEq, hostFee, -, afterHost, afterHostEq, into, -, ok⟩ := ok
  cases ok
  have whole : afterHost + hostFee = protocolFee := by
    simp only [safeSub_eq_ok_iff] at afterHostEq
    omega
  change afterHost + hostFee ≤ fee
  rw [whole]
  split at amountsEq
  · obtain ⟨_, protocolEq, amountsEq⟩ := bind_eq_ok_iff.mp amountsEq
    cases amountsEq
    exact protocolLe protocolEq
  · simp only [bind_eq_ok_iff] at amountsEq
    obtain ⟨included, -, net, -, bought, -, _, protocolEq, amountsEq⟩ :=
      amountsEq
    cases amountsEq
    exact protocolLe protocolEq

end Amounts

section Swaps

variable {bin after : BinRecord} {amountIn price : Nat} {swapForY : Bool}
  {pair : LbPair} {hostFeeBps : Option Nat} {result : BinSwapResult}

theorem binSwapInPlace_outcome (pricePos : 0 < price) :
    (binSwapInPlace amountIn price swapForY pair hostFeeBps).outcome bin =
      match binSwap bin.toBin amountIn price swapForY pair hostFeeBps with
      | .ok (result, stored) => (.ok result, { bin with toBin := stored })
      | .error message => (.error message, bin) := by
  unfold binSwapInPlace
  rw [outcome_get_bind]
  cases amounts :
    binSwapAmounts bin.toBin amountIn price swapForY pair hostFeeBps with
  | error message =>
    rw [binSwap, amounts]
    rfl
  | ok both =>
    obtain ⟨result, amountIntoBin⟩ := both
    have held := (amountsWithin_of_binSwapAmounts pricePos amounts).amountOutLe
    rw [outcome_ofResult_ok_bind, binSwap_of_amounts held amounts]
    have assigned := @assignReserves_outcome swapForY amountIntoBin _ bin held
    by_cases fits : amountInto bin.toBin swapForY + amountIntoBin < 2 ^ 64
    · rw [if_pos fits] at assigned ⊢
      exact outcome_bind_of_ok assigned _
    · rw [if_neg fits] at assigned ⊢
      exact outcome_bind_of_error assigned _

/-- A swap that takes no more out of a bin than what it puts in is worth. -/
structure CreatesNoValue (bin after : BinRecord) (amountIn price : Nat)
    (swapForY : Bool) (result : BinSwapResult) : Prop where
  usedLe : result.amountInWithFees ≤ amountIn
  feeLe : result.fee ≤ result.amountInWithFees
  amountOutLe : result.amountOut ≤ maxAmountOut bin.toBin swapForY
  sharesLe : result.protocolFeeAfterHostFee + result.hostFee ≤ result.fee
  left : after = { bin with
    toBin := bin.toBin.swapped swapForY
      (result.amountInWithFees - result.fee) result.amountOut }
  worth : if swapForY
    then result.amountOut * 2 ^ 64 ≤
      (result.amountInWithFees - result.fee) * price
    else result.amountOut * price ≤
      (result.amountInWithFees - result.fee) * 2 ^ 64
  drained : result.amountInWithFees < amountIn →
    maxAmountOut after.toBin swapForY = 0

/-- A swap that creates no value, or an error that leaves the bin as it was. -/
def KeepsValue (bin : BinRecord) (amountIn price : Nat) (swapForY : Bool) :
    Except String BinSwapResult × BinRecord → Prop
  | (.ok result, after) =>
    CreatesNoValue bin after amountIn price swapForY result
  | (.error _, after) => after = bin

/-- A swap into a bin creates no value, and where it fails the bin is what it
was. -/
theorem binSwapInPlace_createsNoValue (bin : BinRecord) (amountIn price : Nat)
    (swapForY : Bool) (pair : LbPair) (hostFeeBps : Option Nat)
    (priceNonzero : price ≠ 0)
    (protocolShare : pair.parameters.protocolShare ≤ 10000) :
    KeepsValue bin amountIn price swapForY
      ((binSwapInPlace amountIn price swapForY pair hostFeeBps).outcome bin) := by
  have pricePos := Nat.pos_of_ne_zero priceNonzero
  rw [binSwapInPlace_outcome pricePos]
  cases swapped : binSwap bin.toBin amountIn price swapForY pair hostFeeBps with
  | error message => rfl
  | ok both =>
    obtain ⟨result, stored⟩ := both
    obtain ⟨amountIntoBin, amounts⟩ := exists_amounts_of_binSwap swapped
    have within := amountsWithin_of_binSwapAmounts pricePos amounts
    have shares := shares_le_fee protocolShare amounts
    rw [binSwap_of_amounts within.amountOutLe amounts] at swapped
    split at swapped
    · cases swapped
      have net : result.amountInWithFees - result.fee = amountIntoBin := by
        rw [within.split, Nat.add_sub_cancel]
      refine ⟨within.usedLe, ?_, within.amountOutLe, shares, by rw [net], ?_, ?_⟩
      · rw [within.split]
        exact Nat.le_add_left _ _
      · rw [net]
        cases swapForY with
        | true => exact within.worth
        | false => exact within.worth
      · intro left
        have drains := within.drained left
        cases swapForY with
        | true => exact Nat.sub_eq_zero_of_le drains.ge
        | false => exact Nat.sub_eq_zero_of_le drains.ge
    · cases swapped

/-- A bin of a thousand tokens a side, at a price of one. -/
def balancedBin : BinRecord where
  amountX := 1000
  amountY := 1000
  price := one
  liquiditySupply := one
  rewardPerTokenStored := (0, 0)
  feeAmountXPerTokenStored := 0
  feeAmountYPerTokenStored := 0
  amountXIn := 0
  amountYIn := 0

theorem binSwapInPlace_createsNoValue_balanced :
    KeepsValue balancedBin 500 one true
      ((binSwapInPlace 500 one true onePercentPair (some 2000)).outcome
        balancedBin) :=
  binSwapInPlace_createsNoValue balancedBin 500 one true onePercentPair
    (some 2000) (by decide) (by decide)

end Swaps

end MeteoraDlmm

end SolanaProtocols
