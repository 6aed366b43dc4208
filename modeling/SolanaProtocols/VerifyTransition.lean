import SolanaProtocols.Verify

/-!
# Grading the transition between two swaps

Two consecutive swaps of a pool are compared in two ways.  The transition check
predicts the next reserves by saturating arithmetic and compares the prediction;
the continuity gate compares signed differences on the token side alone.  They
agree unless a side stops at an end of its range and the next swap observes that
end.
-/

namespace SolanaProtocols

/-- What a trade does to one reserve. -/
inductive Movement
  | up (amount : UInt64)
  | down (amount : UInt64)
deriving DecidableEq, Repr

namespace Movement

/-- Move a reserve, stopping at the ends of its range. -/
def saturate (reserve : UInt64) : Movement → UInt64
  | up amount =>
      if reserve.toNat + amount.toNat < 2 ^ 64 then reserve + amount else -1
  | down amount => if amount ≤ reserve then reserve - amount else 0

/-- The signed change. -/
def delta : Movement → Int
  | up amount => amount.toNat
  | down amount => -amount.toNat

/-- The end of the range that the movement goes towards. -/
def bound : Movement → UInt64
  | up _ => -1
  | down _ => 0

/-- The moved reserve is in its range. -/
def Fits (reserve : UInt64) : Movement → Prop
  | up amount => reserve.toNat + amount.toNat < 2 ^ 64
  | down amount => amount ≤ reserve

/-- The next reserve is the moved one over the integers. -/
def Reaches (movement : Movement) (reserve next : UInt64) : Prop :=
  (next.toNat : Int) = reserve.toNat + movement.delta

/-- The movement leaves the range and the next reserve is where it stops. -/
def Clamped (movement : Movement) (reserve next : UInt64) : Prop :=
  ¬ movement.Fits reserve ∧ next = movement.bound

variable {movement : Movement} {reserve next : UInt64}

theorem saturate_of_fits (fits : movement.Fits reserve) :
    ((movement.saturate reserve).toNat : Int) =
      reserve.toNat + movement.delta := by
  cases movement with
  | up amount =>
      have inRange : reserve.toNat + amount.toNat < 2 ^ 64 := fits
      rw [saturate, if_pos inRange, UInt64.toNat_add, Nat.mod_eq_of_lt inRange,
        delta]
      push_cast
      rfl
  | down amount =>
      have covered : amount ≤ reserve := fits
      have coveredNat := UInt64.le_iff_toNat_le.mp covered
      rw [saturate, if_pos covered, UInt64.toNat_sub_of_le _ _ covered, delta]
      omega

theorem saturate_of_not_fits (leaves : ¬ movement.Fits reserve) :
    movement.saturate reserve = movement.bound := by
  cases movement with
  | up amount => exact if_neg leaves
  | down amount => exact if_neg leaves

theorem fits_of_reaches (reaches : movement.Reaches reserve next) :
    movement.Fits reserve := by
  have nextLt := next.toNat_lt
  cases movement with
  | up amount =>
      simp only [Reaches, delta] at reaches
      simp only [Fits]
      omega
  | down amount =>
      simp only [Reaches, delta] at reaches
      refine UInt64.le_iff_toNat_le.mpr ?_
      omega

/-- The prediction is met by the moved reserve, or by the end it stops at. -/
theorem saturate_eq_iff :
    movement.saturate reserve = next ↔
      movement.Reaches reserve next ∨ movement.Clamped reserve next := by
  by_cases fits : movement.Fits reserve
  · have exact := saturate_of_fits fits
    constructor
    · rintro rfl
      exact .inl exact
    · rintro (reaches | ⟨leaves, -⟩)
      · refine UInt64.toNat_inj.mp ?_
        rw [Reaches, ← exact] at reaches
        omega
      · exact absurd fits leaves
  · rw [saturate_of_not_fits fits]
    constructor
    · rintro rfl
      exact .inr ⟨fits, rfl⟩
    · rintro (reaches | ⟨-, isBound⟩)
      · exact absurd (fits_of_reaches reaches) fits
      · exact isBound.symm

end Movement

/-- A pool's reserves, normalised to the SOL side and the token side. -/
structure PoolReserves where
  sol : UInt64
  tok : UInt64
deriving DecidableEq, Repr

namespace PoolReserves

/-- Apply an executed trade under the model that the fee stays in the pool. -/
def withTradeApplied (self : PoolReserves) (amountIn amountOut : UInt64)
    (solIsInput : Bool) : PoolReserves :=
  if solIsInput then
    { sol := (Movement.up amountIn).saturate self.sol
      tok := (Movement.down amountOut).saturate self.tok }
  else
    { sol := (Movement.down amountOut).saturate self.sol
      tok := (Movement.up amountIn).saturate self.tok }

end PoolReserves

/-- What happened to one consecutive pair of swaps. -/
inductive Disposition
  | pass
  | mismatch
  | discontinuous
  | unverifiable
deriving DecidableEq, Repr

/-- Whether a state model lands on the next swap's observed state, with the
signed residuals of both sides. -/
def verifyTransition (pre : PoolReserves) (amountIn amountOut : UInt64)
    (solIsInput : Bool) (observedNext : PoolReserves) : Disposition × Int × Int :=
  let predicted := pre.withTradeApplied amountIn amountOut solIsInput
  let dSol : Int := predicted.sol.toNat - observedNext.sol.toNat
  let dTok : Int := predicted.tok.toNat - observedNext.tok.toNat
  if predicted = observedNext then (.pass, 0, 0)
  else
    -- The trade forces a sign on each side's movement.
    let obsSol : Int := observedNext.sol.toNat - pre.sol.toNat
    let obsTok : Int := observedNext.tok.toNat - pre.tok.toNat
    let solContradicts := decide (obsSol > 0) ≠ solIsInput ∧ obsSol ≠ 0
    let tokContradicts := decide (obsTok > 0) ≠ !solIsInput ∧ obsTok ≠ 0
    if solContradicts ∨ tokContradicts then (.discontinuous, dSol, dTok)
    else (.mismatch, dSol, dTok)

/-- Whether anything other than a trade moved the pool between two swaps. -/
inductive Continuity
  | continuous
  | intervened (expected observed : Int)
  | liquidityChanged (dSol dTok : Int)
deriving DecidableEq, Repr

/-- Whether the side without fees moved by exactly what the trade says. -/
def checkContinuity (pre : PoolReserves) (amountIn amountOut : UInt64)
    (solIsInput : Bool) (next : PoolReserves) : Continuity :=
  let dSol : Int := next.sol.toNat - pre.sol.toNat
  let dTok : Int := next.tok.toNat - pre.tok.toNat
  let expected : Int := if solIsInput then -amountOut.toNat else amountIn.toNat
  if dTok = expected then .continuous
  else if dSol ≠ 0 ∧ dTok ≠ 0 ∧ (dSol > 0 ↔ dTok > 0) then
    .liquidityChanged dSol dTok
  else .intervened expected dTok

section Trades

variable {pre next : PoolReserves} {amountIn amountOut : UInt64}
  {solIsInput : Bool}

/-- The movement of the SOL side in a trade. -/
def solMovement (amountIn amountOut : UInt64) (solIsInput : Bool) : Movement :=
  if solIsInput then .up amountIn else .down amountOut

/-- The movement of the token side in a trade. -/
def tokMovement (amountIn amountOut : UInt64) (solIsInput : Bool) : Movement :=
  if solIsInput then .down amountOut else .up amountIn

theorem withTradeApplied_eq :
    pre.withTradeApplied amountIn amountOut solIsInput =
      { sol := (solMovement amountIn amountOut solIsInput).saturate pre.sol
        tok := (tokMovement amountIn amountOut solIsInput).saturate pre.tok } := by
  cases solIsInput <;> rfl

theorem checkContinuity_eq_continuous_iff :
    checkContinuity pre amountIn amountOut solIsInput next = .continuous ↔
      (tokMovement amountIn amountOut solIsInput).Reaches pre.tok next.tok := by
  have expected : (if solIsInput = true then -(amountOut.toNat : Int)
      else amountIn.toNat) = (tokMovement amountIn amountOut solIsInput).delta := by
    cases solIsInput <;> rfl
  rw [Movement.Reaches, checkContinuity, expected]
  split_ifs with moved
  · refine iff_of_true rfl ?_
    omega
  · refine iff_of_false nofun fun reaches => ?_
    omega
  · refine iff_of_false nofun fun reaches => ?_
    omega

theorem verifyTransition_residuals :
    (verifyTransition pre amountIn amountOut solIsInput next).2 =
      (((pre.withTradeApplied amountIn amountOut solIsInput).sol.toNat : Int) -
          next.sol.toNat,
        ((pre.withTradeApplied amountIn amountOut solIsInput).tok.toNat : Int) -
          next.tok.toNat) := by
  rw [verifyTransition]
  dsimp only
  split_ifs with met
  · rw [met, sub_self, sub_self]
  · rfl
  · rfl

theorem verifyTransition_eq_pass_iff :
    (verifyTransition pre amountIn amountOut solIsInput next).1 = .pass ↔
      pre.withTradeApplied amountIn amountOut solIsInput = next := by
  rw [verifyTransition]
  dsimp only
  split_ifs with met
  · exact iff_of_true rfl met
  · exact iff_of_false nofun met
  · exact iff_of_false nofun met

theorem residual_eq_zero_iff {predicted observed : UInt64} :
    (predicted.toNat : Int) - observed.toNat = 0 ↔ predicted = observed := by
  rw [← UInt64.toNat_inj]
  omega

theorem solResidual_eq_zero_iff :
    (verifyTransition pre amountIn amountOut solIsInput next).2.1 = 0 ↔
      (solMovement amountIn amountOut solIsInput).Reaches pre.sol next.sol ∨
        (solMovement amountIn amountOut solIsInput).Clamped pre.sol next.sol := by
  rw [verifyTransition_residuals, residual_eq_zero_iff, withTradeApplied_eq,
    Movement.saturate_eq_iff]

theorem tokResidual_eq_zero_iff :
    (verifyTransition pre amountIn amountOut solIsInput next).2.2 = 0 ↔
      (tokMovement amountIn amountOut solIsInput).Reaches pre.tok next.tok ∨
        (tokMovement amountIn amountOut solIsInput).Clamped pre.tok next.tok := by
  rw [verifyTransition_residuals, residual_eq_zero_iff, withTradeApplied_eq,
    Movement.saturate_eq_iff]

/-- A pair passes exactly when both residuals vanish. -/
theorem pass_iff_residuals :
    (verifyTransition pre amountIn amountOut solIsInput next).1 = .pass ↔
      (verifyTransition pre amountIn amountOut solIsInput next).2.1 = 0 ∧
        (verifyTransition pre amountIn amountOut solIsInput next).2.2 = 0 := by
  rw [verifyTransition_eq_pass_iff, verifyTransition_residuals,
    residual_eq_zero_iff, residual_eq_zero_iff]
  constructor
  · rintro rfl
    exact ⟨rfl, rfl⟩
  · rintro ⟨solEq, tokEq⟩
    cases next
    cases solEq
    cases tokEq
    rfl

/-- The gate is the token residual, a pass is an exact movement of both sides,
and what passes is continuous. -/
structure GradesAgree (pre : PoolReserves) (amountIn amountOut : UInt64)
    (solIsInput : Bool) (next : PoolReserves) : Prop where
  gate : checkContinuity pre amountIn amountOut solIsInput next = .continuous ↔
    (verifyTransition pre amountIn amountOut solIsInput next).2.2 = 0
  pass : (verifyTransition pre amountIn amountOut solIsInput next).1 = .pass ↔
    (verifyTransition pre amountIn amountOut solIsInput next).2 = (0, 0) ∧
      (solMovement amountIn amountOut solIsInput).Reaches pre.sol next.sol ∧
        (tokMovement amountIn amountOut solIsInput).Reaches pre.tok next.tok
  continuous : (verifyTransition pre amountIn amountOut solIsInput next).1 = .pass →
    checkContinuity pre amountIn amountOut solIsInput next = .continuous

theorem not_reaches_of_clamped {movement : Movement} {reserve observed : UInt64}
    (clamped : movement.Clamped reserve observed) :
    ¬ movement.Reaches reserve observed :=
  fun reaches => clamped.1 (Movement.fits_of_reaches reaches)

/-- The two checks agree unless the token side is clamped, or the SOL side is
while the token side moved as the trade says. -/
theorem gradesAgree_iff (pre : PoolReserves) (amountIn amountOut : UInt64)
    (solIsInput : Bool) (next : PoolReserves) :
    GradesAgree pre amountIn amountOut solIsInput next ↔
      ¬ (tokMovement amountIn amountOut solIsInput).Clamped pre.tok next.tok ∧
        ¬ ((solMovement amountIn amountOut solIsInput).Clamped pre.sol next.sol ∧
          (tokMovement amountIn amountOut solIsInput).Reaches pre.tok next.tok) := by
  have passIff := @pass_iff_residuals pre next amountIn amountOut solIsInput
  have solIff := @solResidual_eq_zero_iff pre next amountIn amountOut solIsInput
  have tokIff := @tokResidual_eq_zero_iff pre next amountIn amountOut solIsInput
  have gateIff := @checkContinuity_eq_continuous_iff pre next amountIn amountOut
    solIsInput
  constructor
  · intro agree
    constructor
    · intro clamped
      have reaches := gateIff.mp (agree.gate.mpr (tokIff.mpr (.inr clamped)))
      exact not_reaches_of_clamped clamped reaches
    · rintro ⟨clamped, tokReaches⟩
      have passes := passIff.mpr
        ⟨solIff.mpr (.inr clamped), tokIff.mpr (.inl tokReaches)⟩
      exact not_reaches_of_clamped clamped (agree.pass.mp passes).2.1
  · rintro ⟨tokFree, solFree⟩
    have tokExact : (verifyTransition pre amountIn amountOut solIsInput next).2.2 = 0 ↔
        (tokMovement amountIn amountOut solIsInput).Reaches pre.tok next.tok :=
      tokIff.trans (or_iff_left tokFree)
    refine ⟨gateIff.trans tokExact.symm, ?_, fun passes => ?_⟩
    · constructor
      · intro passes
        obtain ⟨solZero, tokZero⟩ := passIff.mp passes
        have tokReaches := tokExact.mp tokZero
        refine ⟨Prod.ext solZero tokZero, ?_, tokReaches⟩
        rcases solIff.mp solZero with reaches | clamped
        · exact reaches
        · exact absurd ⟨clamped, tokReaches⟩ solFree
      · rintro ⟨residuals, -⟩
        exact passIff.mpr ⟨congrArg Prod.fst residuals, congrArg Prod.snd residuals⟩
    · exact gateIff.mpr (tokExact.mp (passIff.mp passes).2)

/-- A sale of more tokens than the pool had is passed and not continuous. -/
theorem oversized_buy_disagrees :
    verifyTransition ⟨1000, 40⟩ 100 50 true ⟨1100, 0⟩ = (.pass, 0, 0) ∧
      checkContinuity ⟨1000, 40⟩ 100 50 true ⟨1100, 0⟩ = .intervened (-50) (-40) ∧
        ¬ GradesAgree ⟨1000, 40⟩ 100 50 true ⟨1100, 0⟩ := by
  have graded : verifyTransition ⟨1000, 40⟩ 100 50 true ⟨1100, 0⟩ = (.pass, 0, 0) := by
    decide
  refine ⟨graded, by decide, fun agree => ?_⟩
  have gate := agree.continuous (congrArg Prod.fst graded)
  revert gate
  decide

end Trades

end SolanaProtocols
