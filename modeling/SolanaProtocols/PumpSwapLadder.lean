import Mathlib.Algebra.Order.Floor.Semifield
import SolanaProtocols.PumpSwapQuotes
import SolanaProtocols.RateLadder

/-!
# The fee ladder of PumpSwap

The total fee of a pool with a creator as the quote reserve grows.  The creator
fee goes by whole SOL and descends from the second band on; the other fees switch
just past 420 SOL, so the pools between 420 and 421 SOL pay the standard rates
with the creator fee of the launch phase.
-/

namespace SolanaProtocols

open MachineArithmetic Pumpfun Swap

namespace PumpSwap

/-- Lamports of one SOL. -/
def lamportsPerSol : Nat := 1000000000

/-- The fee structure of a pool with a creator, by its reserve in lamports. -/
def feesAt (reserves : Nat) : FeeStructure :=
  feeStructure (reserves / lamportsPerSol) true

/-- The total fee in basis points. -/
def bpsAt (reserves : Nat) : Nat :=
  (feesAt reserves).rates.sum

/-- The ladder past the launch phase. -/
def standardLadder : List (Nat × Nat) :=
  creatorLadder.tail.map fun rung => (rung.1, rung.2.toNat)

theorem standardLadder_descending : RateLadder.Descending standardLadder 5 := by
  unfold RateLadder.Descending
  decide

/-- The creator fee past the launch phase. -/
def standardRate (sol : Nat) : Nat :=
  RateLadder.rate standardLadder 5 sol

theorem standardRate_antitone : Antitone standardRate :=
  RateLadder.rate_antitone standardLadder_descending

variable {build : Build} {reserves : Nat}

theorem floor_sol : ⌊(reserves / lamportsPerSol : Rat)⌋.toNat =
    reserves / lamportsPerSol := by
  rw [Int.floor_toNat, Nat.floor_div_eq_div]

theorem sol_le_iff (sol : Nat) :
    (reserves / lamportsPerSol : Rat) ≤ sol ↔ reserves ≤ sol * lamportsPerSol := by
  have positive : (0 : Rat) < lamportsPerSol := by
    norm_num [lamportsPerSol]
  rw [div_le_iff₀ positive]
  norm_cast

/-- The creator fees of the whole ladder. -/
def creatorRate (sol : Nat) : Nat :=
  RateLadder.rate ((420, 30) :: standardLadder) 5 sol

theorem creatorBps_feesAt :
    (feesAt reserves).creatorBps.toNat = creatorRate (reserves / lamportsPerSol) := by
  have whole : (420, 30) :: standardLadder =
      creatorLadder.map fun rung => (rung.1, rung.2.toNat) := rfl
  rw [creatorRate, whole, RateLadder.rate_eq_find?, List.find?_map, feesAt,
    feeStructure, ← @floor_sol reserves]
  have reads (rung : Nat × U64) :
      ((fun rung : Nat × Nat => decide (⌊(reserves / lamportsPerSol : Rat)⌋.toNat ≤
        rung.1)) ∘ fun rung : Nat × U64 => (rung.1, rung.2.toNat)) rung =
          decide (⌊(reserves / lamportsPerSol : Rat)⌋.toNat ≤ rung.1) := rfl
  rw [funext reads]
  cases found : creatorLadder.find?
      (fun rung => ⌊(reserves / lamportsPerSol : Rat)⌋.toNat ≤ rung.1) with
  | none => simp
  | some rung => simp

theorem otherBps_feesAt :
    (feesAt reserves).protocolBps.toNat + (feesAt reserves).lpBps.toNat =
      if reserves ≤ 420 * lamportsPerSol then 95 else 25 := by
  have launch := @sol_le_iff reserves 420
  rw [feesAt, feeStructure]
  simp only [Bool.not_true, Bool.false_eq_true, if_false]
  by_cases within : reserves ≤ 420 * lamportsPerSol
  · rw [if_pos within]
    have rational := launch.mpr within
    norm_num at rational
    simp [rational]
  · rw [if_neg within]
    have rational := mt launch.mp within
    norm_num at rational
    simp [not_le.mpr rational]

/-- The total fee of a depth. -/
theorem bpsAt_eq :
    bpsAt reserves = creatorRate (reserves / lamportsPerSol) +
      if reserves ≤ 420 * lamportsPerSol then 95 else 25 := by
  rw [← creatorBps_feesAt, ← otherBps_feesAt, bpsAt, FeeStructure.rates]
  simp only [List.sum_cons, List.sum_nil, Nat.add_zero]

theorem totalBps_feesAt :
    (feesAt reserves).totalBps build = some (bpsAt reserves) := by
  have small : (feesAt reserves).rates.sum < feeDenominator :=
    FeeStructure.rates_feeStructure_lt _ true
  have sum : bpsAt reserves = (feesAt reserves).creatorBps.toNat +
      (feesAt reserves).protocolBps.toNat + (feesAt reserves).lpBps.toNat := by
    rw [bpsAt, FeeStructure.rates]
    simp only [List.sum_cons, List.sum_nil, Nat.add_zero, Nat.add_assoc]
  rw [← bpsAt, feeDenominator] at small
  have first : (feesAt reserves).creatorBps.toNat +
      (feesAt reserves).protocolBps.toNat < 2 ^ 64 := by omega
  have second : (feesAt reserves).creatorBps.toNat +
      (feesAt reserves).protocolBps.toNat + (feesAt reserves).lpBps.toNat < 2 ^ 64 := by
    omega
  rw [FeeStructure.totalBps, add_eq first, Option.bind_eq_bind, Option.bind_some,
    add_eq second, sum]

theorem creatorRate_of_launch {sol : Nat} (launch : sol ≤ 420) :
    creatorRate sol = 30 := by
  rw [creatorRate, RateLadder.rate, if_pos launch]

theorem creatorRate_of_standard {sol : Nat} (standard : 420 < sol) :
    creatorRate sol = standardRate sol :=
  RateLadder.rate_cons_of_lt standard

theorem standardRate_le (sol : Nat) : standardRate sol ≤ 95 := by
  have first : standardRate 0 = 95 := by decide
  exact first ▸ standardRate_antitone (Nat.zero_le sol)

/-- The creator fee is back at that of the launch phase from 49121 SOL on. -/
theorem standardRate_le_thirty_iff {sol : Nat} :
    standardRate sol ≤ 30 ↔ 49121 ≤ sol := by
  have before : standardRate 49120 = 35 := by decide
  have after : standardRate 49121 = 30 := by decide
  constructor
  · intro low
    by_contra short
    have high := standardRate_antitone (show sol ≤ 49120 by omega)
    omega
  · intro long
    have low := standardRate_antitone long
    omega

/-- Past 420 SOL and before 421. -/
def InGap (reserves : Nat) : Prop :=
  420 * lamportsPerSol < reserves ∧ reserves < 421 * lamportsPerSol

theorem bpsAt_of_launch (launch : reserves ≤ 420 * lamportsPerSol) :
    bpsAt reserves = 125 := by
  have sol : reserves / lamportsPerSol ≤ 420 :=
    Nat.div_le_of_le_mul (by rwa [Nat.mul_comm])
  rw [bpsAt_eq, creatorRate_of_launch sol, if_pos launch]

theorem bpsAt_of_inGap (gap : InGap reserves) : bpsAt reserves = 55 := by
  have sol : reserves / lamportsPerSol < 421 :=
    Nat.div_lt_of_lt_mul (by rw [Nat.mul_comm]; exact gap.2)
  rw [bpsAt_eq, creatorRate_of_launch (Nat.le_of_lt_succ sol),
    if_neg (not_le.mpr gap.1)]

theorem bpsAt_of_standard (standard : 421 * lamportsPerSol ≤ reserves) :
    bpsAt reserves = standardRate (reserves / lamportsPerSol) + 25 := by
  have sol : 421 ≤ reserves / lamportsPerSol :=
    (Nat.le_div_iff_mul_le (by decide)).mpr standard
  have past : ¬ reserves ≤ 420 * lamportsPerSol := by
    unfold lamportsPerSol at standard ⊢
    omega
  rw [bpsAt_eq, creatorRate_of_standard sol, if_neg past]

theorem bpsAt_le (reserves : Nat) : bpsAt reserves ≤ 125 := by
  rcases le_or_gt reserves (420 * lamportsPerSol) with launch | past
  · exact (bpsAt_of_launch launch).le
  rcases lt_or_ge reserves (421 * lamportsPerSol) with before | standard
  · exact (bpsAt_of_inGap ⟨past, before⟩).trans_le (by decide)
  · have rate := standardRate_le (reserves / lamportsPerSol)
    rw [bpsAt_of_standard standard]
    omega

/-- Past the launch phase a pool pays no more than in the gap once the creator
fee is back at its launch rate. -/
theorem bpsAt_le_inGap_iff (standard : 421 * lamportsPerSol ≤ reserves) :
    bpsAt reserves ≤ 55 ↔ 49121 * lamportsPerSol ≤ reserves := by
  rw [← Nat.le_div_iff_mul_le (show 0 < lamportsPerSol by decide),
    ← standardRate_le_thirty_iff, bpsAt_of_standard standard]
  omega

/-- The total fee does not rise with the reserve, except from between 420 and
421 SOL to before 49121 SOL. -/
theorem totalBps_antitone_iff (build : Build) {shallow deep : Nat}
    (le : shallow ≤ deep) :
    (∃ shallowBps deepBps, (feesAt shallow).totalBps build = some shallowBps ∧
      (feesAt deep).totalBps build = some deepBps ∧ deepBps ≤ shallowBps) ↔
      ¬ (InGap shallow ∧ 421 * lamportsPerSol ≤ deep ∧
        deep < 49121 * lamportsPerSol) := by
  have compared : (∃ shallowBps deepBps,
      (feesAt shallow).totalBps build = some shallowBps ∧
        (feesAt deep).totalBps build = some deepBps ∧ deepBps ≤ shallowBps) ↔
      bpsAt deep ≤ bpsAt shallow := by
    simp only [totalBps_feesAt, Option.some.injEq]
    exact ⟨fun ⟨_, _, rfl, rfl, below⟩ => below, fun below => ⟨_, _, rfl, rfl, below⟩⟩
  rw [compared]
  rcases le_or_gt shallow (420 * lamportsPerSol) with launch | past
  · refine iff_of_true ?_ fun rises => absurd launch (not_le.mpr rises.1.1)
    exact (bpsAt_of_launch launch).symm ▸ bpsAt_le deep
  rcases lt_or_ge shallow (421 * lamportsPerSol) with before | standard
  · have gap : InGap shallow := ⟨past, before⟩
    rw [bpsAt_of_inGap gap]
    rcases lt_or_ge deep (421 * lamportsPerSol) with deepBefore | deepStandard
    · refine iff_of_true ?_ fun rises => absurd deepBefore (not_lt.mpr rises.2.1)
      exact (bpsAt_of_inGap ⟨past.trans_le le, deepBefore⟩).le
    · rw [bpsAt_le_inGap_iff deepStandard, ← not_lt]
      exact not_congr ⟨fun short => ⟨gap, deepStandard, short⟩, fun rises => rises.2.2⟩
  · refine iff_of_true ?_ fun rises => absurd rises.1.2 (not_lt.mpr standard)
    rw [bpsAt_of_standard standard, bpsAt_of_standard (standard.trans le)]
    exact Nat.add_le_add_right
      (standardRate_antitone (Nat.div_le_div_right le)) 25

theorem totalBps_antitone_iff_launch :
    420 ≤ 421000000000 ∧ ((∃ shallowBps deepBps,
      (feesAt 420).totalBps Build.debug = some shallowBps ∧
        (feesAt 421000000000).totalBps Build.debug = some deepBps ∧
          deepBps ≤ shallowBps) ↔
      ¬ (InGap 420 ∧ 421 * lamportsPerSol ≤ 421000000000 ∧
        421000000000 < 49121 * lamportsPerSol)) :=
  ⟨by decide, totalBps_antitone_iff Build.debug (by decide)⟩

/-- A pool of 420.5 SOL pays 55 basis points and one of 421 SOL pays 120. -/
theorem totalBps_rises_past_launch :
    (feesAt 420500000000).totalBps Build.release = some 55 ∧
      (feesAt 421000000000).totalBps Build.release = some 120 := by
  have gap : InGap 420500000000 := ⟨by decide, by decide⟩
  have standard : 421 * lamportsPerSol ≤ 421000000000 := by decide
  have rate : standardRate (421000000000 / lamportsPerSol) = 95 := by decide
  rw [totalBps_feesAt, totalBps_feesAt, bpsAt_of_inGap gap,
    bpsAt_of_standard standard, rate]
  exact ⟨rfl, rfl⟩

end PumpSwap

end SolanaProtocols
