import SolanaProtocols.DlmmBitmap

/-!
# Meteora DLMM swap quoter

`quoteExactIn` and `quoteExactOut` walk the bins from the active one until the
amount is used up.  The two functions share their loops and differ in what they
do with a bin that has liquidity.  The outer `while` and the inner `loop` are
one transition system whose states are the heads of the two loops.
-/

namespace SolanaProtocols

namespace MeteoraDlmm

structure ExactInQuote where
  amountOut : Nat
  fee : Nat
deriving DecidableEq, Repr

structure ExactOutQuote where
  amountIn : Nat
  fee : Nat
deriving DecidableEq, Repr

/-- What a quote reads besides the pool and the amount.  Deriving the address
of a bin array from its index is outside this repository. -/
structure QuoteInputs where
  lbPairPubkey : Pubkey
  swapForY : Bool
  binArrays : Pubkey → Option BinArray
  bitmapExtension : Option BinArrayBitmapExtension
  currentTimestamp : Nat
  currentSlot : Nat
  deriveBinArrayAddress : Pubkey → Int → Pubkey

def validateSwapActivation (pair : LbPair)
    (currentTimestamp currentSlot : Nat) : Except String Unit := do
  if !pair.isActive then
    throw "Pool is disabled"
  if pair.pairType = 1 then
    let currentPoint : Option Nat :=
      match pair.activationType with
      | 0 => some currentSlot
      | 1 => some currentTimestamp
      | _ => none
    if currentPoint.any (· < pair.activationPoint) then
      throw "Pool not yet activated"

/-- The loop variables of a quote: the amount left to swap, and the amount and
the fee added up so far. -/
structure Walk where
  pair : LbPair
  amount : Nat
  total : Nat
  totalFee : Nat
deriving DecidableEq, Repr

/-- A head of one of the two loops.  The inner loop works on its own copy of
the array it was given. -/
inductive QuotePoint
  | search (walk : Walk)
  | bins (activeArray : BinArray) (walk : Walk)
deriving DecidableEq, Repr

/-- The loop variables at a loop head. -/
def QuotePoint.walk : QuotePoint → Walk
  | .search walk => walk
  | .bins _ walk => walk

/-- What a quote does with a bin that has liquidity, given its price. -/
abbrev Fill :=
  Bool → Bin → Nat → Walk → Except String (Walk × Bin)

/-- Swap into the bin as much of the input as it takes. -/
def exactInFill : Fill := fun swapForY activeBin price walk => do
  let (result, activeBin) ←
    binSwap activeBin walk.amount price swapForY walk.pair none
  let amountIn ← okOr (checkedSub walk.amount result.amountInWithFees)
    "MathOverflow"
  let totalAmountOut ← okOr (checkedAdd 64 walk.total result.amountOut)
    "MathOverflow"
  let totalFee ← okOr (checkedAdd 64 walk.totalFee result.fee) "MathOverflow"
  return ({ walk with
    amount := amountIn, total := totalAmountOut, totalFee := totalFee },
    activeBin)

/-- Charge for as much of the output as the bin has. -/
def exactOutFill : Fill := fun swapForY activeBin price walk => do
  let binMaxOut := maxAmountOut activeBin swapForY
  if binMaxOut ≤ walk.amount then
    let maxIn ← maxAmountIn activeBin price swapForY
    let maxFee ← computeFee walk.pair maxIn
    let totalAmountIn ← okOr (checkedAdd 64 walk.total maxIn) "MathOverflow"
    let totalFee ← okOr (checkedAdd 64 walk.totalFee maxFee) "MathOverflow"
    let amountOut ← okOr (checkedSub walk.amount binMaxOut) "MathOverflow"
    return ({ walk with
      amount := amountOut, total := totalAmountIn, totalFee := totalFee },
      activeBin)
  else
    let singleIn ← getAmountIn walk.amount price swapForY
    let fee ← computeFee walk.pair singleIn
    let totalAmountIn ← okOr (checkedAdd 64 walk.total singleIn) "MathOverflow"
    let totalFee ← okOr (checkedAdd 64 walk.totalFee fee) "MathOverflow"
    let (_, activeBin) ← binSwapExactOut activeBin
      (← okOr (checkedAdd 64 singleIn fee) "MathOverflow") price swapForY
      walk.pair none walk.amount
    return ({ walk with
      amount := 0, total := totalAmountIn, totalFee := totalFee }, activeBin)

theorem exactInFill_cases {swapForY : Bool} {activeBin stored : Bin}
    {price : Nat} {walk filled : Walk}
    (ok : exactInFill swapForY activeBin price walk = .ok (filled, stored)) :
    ∃ result,
      binSwap activeBin walk.amount price swapForY walk.pair none =
        .ok (result, stored) ∧
      result.amountInWithFees ≤ walk.amount ∧
      filled = { walk with
        amount := walk.amount - result.amountInWithFees
        total := walk.total + result.amountOut
        totalFee := walk.totalFee + result.fee } := by
  simp only [exactInFill, bind_eq_ok_iff, okOr_eq_ok_iff,
    checkedSub_eq_some_iff, checkedAdd_eq_some_iff] at ok
  obtain ⟨⟨result, bin⟩, swapped, _, ⟨enough, rfl⟩, _, ⟨-, rfl⟩, _, ⟨-, rfl⟩,
    ok⟩ := ok
  cases ok
  exact ⟨result, swapped, enough, rfl⟩

theorem exactOutFill_cases {swapForY : Bool} {activeBin stored : Bin}
    {price : Nat} {walk filled : Walk}
    (ok : exactOutFill swapForY activeBin price walk = .ok (filled, stored)) :
    ∃ amountIn fee,
      getAmountIn (min walk.amount (maxAmountOut activeBin swapForY)) price
        swapForY = .ok amountIn ∧
      computeFee walk.pair amountIn = .ok fee ∧
      filled = { walk with
        amount := walk.amount -
          min walk.amount (maxAmountOut activeBin swapForY)
        total := walk.total + amountIn
        totalFee := walk.totalFee + fee } := by
  by_cases drains : maxAmountOut activeBin swapForY ≤ walk.amount
  · simp only [exactOutFill, drains, if_true, bind_eq_ok_iff, okOr_eq_ok_iff,
      checkedSub_eq_some_iff, checkedAdd_eq_some_iff] at ok
    obtain ⟨maxIn, maxInEq, maxFee, maxFeeEq, _, ⟨-, rfl⟩, _, ⟨-, rfl⟩, _,
      ⟨-, rfl⟩, ok⟩ := ok
    cases ok
    rw [maxAmountIn_eq] at maxInEq
    rw [Nat.min_eq_right drains]
    exact ⟨maxIn, maxFee, maxInEq, maxFeeEq, rfl⟩
  · simp only [exactOutFill, drains, if_false, bind_eq_ok_iff, okOr_eq_ok_iff,
      checkedAdd_eq_some_iff] at ok
    obtain ⟨singleIn, singleInEq, fee, feeEq, _, ⟨-, rfl⟩, _, ⟨-, rfl⟩, _,
      ⟨-, rfl⟩, ⟨result, bin⟩, -, ok⟩ := ok
    cases ok
    rw [Nat.min_eq_left (by omega), Nat.sub_self]
    exact ⟨singleIn, fee, singleInEq, feeEq, rfl⟩

/-- The start of a pass: the pair with its volatility refreshed, and the active bin
with its price. -/
def openActiveBin (activeArray : BinArray) (pair : LbPair) :
    Except String (LbPair × Nat × Bin) := do
  let pair ← updateVolatilityAccumulator pair
  let activeBin ← getBin activeArray pair.activeId
  let (price, activeBin) ←
    getOrStoreBinPrice activeBin pair.activeId pair.binStep
  return (pair, price, activeBin)

/-- One pass of the inner loop on the active bin. -/
def binPass (fill : Fill) (swapForY : Bool) (activeArray : BinArray)
    (walk : Walk) : Except String (BinArray × Walk) := do
  let (pair, price, activeBin) ← openActiveBin activeArray walk.pair
  let walk := { walk with pair := pair }
  let activeId := pair.activeId
  let (walk, activeBin) ← (
    if !isEmpty activeBin (!swapForY) then fill swapForY activeBin price walk
    else pure (walk, activeBin))
  let activeArray ← setBin activeArray activeId activeBin
  if 0 < walk.amount then
    let pair ← advanceActiveBin walk.pair swapForY
    return (activeArray, { walk with pair := pair })
  else
    return (activeArray, walk)

/-- What a pass over a bin did: it refreshed the volatility accumulator, read
the bin and its price, filled the bin unless it was empty, wrote it back and,
with amount left, advanced the active bin. -/
theorem binPass_cases {fill : Fill} {swapForY : Bool}
    {activeArray after : BinArray} {walk next : Walk}
    (passed : binPass fill swapForY activeArray walk = .ok (after, next)) :
    ∃ pair activeBin price priced filled stored,
      updateVolatilityAccumulator walk.pair = .ok pair ∧
      getBin activeArray pair.activeId = .ok activeBin ∧
      getOrStoreBinPrice activeBin pair.activeId pair.binStep =
        .ok (price, priced) ∧
      (if isEmpty priced (!swapForY) then
          filled = { walk with pair := pair } ∧ stored = priced
        else
          fill swapForY priced price { walk with pair := pair } =
            .ok (filled, stored)) ∧
      setBin activeArray pair.activeId stored = .ok after ∧
      (if 0 < filled.amount then
          ∃ advanced, advanceActiveBin filled.pair swapForY = .ok advanced ∧
            next = { filled with pair := advanced }
        else next = filled) := by
  simp only [binPass, openActiveBin, bind_eq_ok_iff] at passed
  obtain ⟨_, ⟨pair, pairEq, activeBin, binEq, ⟨price, priced⟩, priceEq, opened⟩,
    ⟨filled, stored⟩, filledEq, array, setEq, rest⟩ := passed
  cases opened
  refine ⟨pair, activeBin, price, priced, filled, stored, pairEq, binEq,
    priceEq, ?_, ?_⟩
  · cases empty : isEmpty priced (!swapForY)
    · simpa [empty] using filledEq
    · simpa [empty, pure, Except.pure, eq_comm] using filledEq
  · by_cases left : 0 < filled.amount
    · simp only [left, if_true, bind_eq_ok_iff, pure, Except.pure,
        Except.ok.injEq, Prod.mk.injEq] at rest ⊢
      obtain ⟨advanced, advancedEq, rfl, rfl⟩ := rest
      exact ⟨setEq, advanced, advancedEq, rfl⟩
    · simp only [left, if_false, pure, Except.pure, Except.ok.injEq,
        Prod.mk.injEq] at rest ⊢
      obtain ⟨rfl, rfl⟩ := rest
      exact ⟨setEq, rfl⟩

/-- The transition from a loop head to the next.  `fuel` bounds the search for
the active array. -/
def quotePass (fill : Fill) (inputs : QuoteInputs) (fuel : Nat) :
    QuotePoint → Option (Pass QuotePoint (Except Fault Walk))
  | .search walk =>
      if walk.amount = 0 then
        some (.leave (.ok walk))
      else
        match getBinArrayPubkeysForSwap walk.pair inputs.bitmapExtension
            inputs.swapForY 1 inputs.deriveBinArrayAddress
            inputs.lbPairPubkey fuel with
        | none => none
        | some (.error fault) => some (.leave (.error fault))
        | some (.ok pubkeys) =>
            match pubkeys.getLast? with
            | none => some (.leave (.error (.err "Pool out of liquidity")))
            | some activePda =>
                match inputs.binArrays activePda with
                | none => some (.leave (.error
                    (.err "Active bin array not found in cache")))
                | some activeArray => some (.next (.bins activeArray walk))
  | .bins activeArray walk =>
      if !isBinIdWithinRange activeArray walk.pair.activeId ∨
          walk.amount = 0 then
        some (.next (.search walk))
      else
        match binPass fill inputs.swapForY activeArray walk with
        | .error message => some (.leave (.error (.err message)))
        | .ok (activeArray, walk) => some (.next (.bins activeArray walk))

/-- The loop variables before the first pass. -/
def startWalk (inputs : QuoteInputs) (pair : LbPair) (amount : Nat) :
    Except String Walk := do
  validateSwapActivation pair inputs.currentTimestamp inputs.currentSlot
  let pair ← updateReferences pair (asI64 inputs.currentTimestamp)
  return { pair := pair, amount := amount, total := 0, totalFee := 0 }

/-- The loop variables after the last pass. -/
def runWalk (fill : Fill) (inputs : QuoteInputs) (pair : LbPair)
    (amount fuel : Nat) : Option (Except Fault Walk) :=
  match startWalk inputs pair amount with
  | .error message => some (.error (.err message))
  | .ok walk => PassLoop.run (quotePass fill inputs fuel) fuel (.search walk)

/-- Quote a swap that consumes `amountIn`. -/
def quoteExactIn (inputs : QuoteInputs) (pair : LbPair) (amountIn fuel : Nat) :
    Option (Except Fault ExactInQuote) :=
  (runWalk exactInFill inputs pair amountIn fuel).map
    (Except.map fun walk =>
      { amountOut := walk.total, fee := walk.totalFee })

/-- Quote a swap that delivers `amountOut`. -/
def quoteExactOut (inputs : QuoteInputs) (pair : LbPair)
    (amountOut fuel : Nat) : Option (Except Fault ExactOutQuote) :=
  (runWalk exactOutFill inputs pair amountOut fuel).map fun outcome => do
    let walk ← outcome
    let grossAmountIn ← (okOr (checkedAdd 64 walk.total walk.totalFee)
      "MathOverflow").mapError Fault.err
    return { amountIn := grossAmountIn, fee := walk.totalFee }

end MeteoraDlmm

end SolanaProtocols
