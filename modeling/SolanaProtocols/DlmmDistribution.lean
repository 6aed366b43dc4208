import Mathlib.Data.Int.Range
import SolanaProtocols.DlmmFees
import SolanaProtocols.DlmmPosition

/-!
# Uniform liquidity distributions

The distribution helpers deal ten thousand basis points over the bins of a
range, the same number to every bin, and hand what is left to one bin at the
edge.  The rest is below the number of bins when the points are divided by that
number.  The balanced helper divides them by the width of the range for both
sides, of which a side can be a small part.
-/

namespace SolanaProtocols

namespace MeteoraDlmm

/-- Basis points of each amount that go to a bin. -/
structure BinLiquidityDistribution where
  binId : Int
  distributionX : Nat
  distributionY : Nat
deriving DecidableEq, Repr

structure LiquidityParameter where
  amountX : Nat
  amountY : Nat
  binLiquidityDist : List BinLiquidityDistribution
deriving DecidableEq, Repr

/-- `as u16` on a signed integer. -/
def asU16 (x : Int) : Nat :=
  (x % 2 ^ 16).toNat

/-- `(upper - lower + 1) as usize`, with a panic when it overflows. -/
def widthOrPanic (lower upper : Int) : Except Fault Nat :=
  match binWidth lower upper with
  | none => .error .panic
  | some width => .ok (asUsize width)

/-- Basis points for the next bin, at most what is left. -/
def chunk (perBin : Nat) (remainder : Int) : Nat :=
  asU16 (max (min (perBin : Int) remainder) 0)

section Lists

variable {Item Other : Type}

/-- Change the first item that passes a test. -/
def modifyFirst (test : Item → Bool) (change : Item → Item)
    (items : List Item) : List Item :=
  items.modify (items.findIdx test) change

/-- Change the last item that passes a test. -/
def modifyLast (test : Item → Bool) (change : Item → Item)
    (items : List Item) : List Item :=
  (modifyFirst test change items.reverse).reverse

variable [DecidableEq Other] {test : Item → Bool} {change : Item → Item}
variable {make : Other → Item} {edge : Other} {others : List Other}

theorem modifyFirst_map_cons (found : test (make edge) = true)
    (fresh : edge ∉ others) :
    modifyFirst test change ((edge :: others).map make) =
      (edge :: others).map fun other =>
        if other = edge then change (make other) else make other := by
  have rest : others.map make = others.map fun other =>
      if other = edge then change (make other) else make other := by
    apply List.map_congr_left
    intro other isOther
    rw [if_neg (by rintro rfl; exact fresh isOther)]
  rw [modifyFirst, List.map_cons, List.findIdx_cons, found, List.map_cons,
    if_pos rfl, ← rest]
  rfl

theorem modifyLast_map_concat (found : test (make edge) = true)
    (fresh : edge ∉ others) :
    modifyLast test change ((others ++ [edge]).map make) =
      (others ++ [edge]).map fun other =>
        if other = edge then change (make other) else make other := by
  have reversed := @modifyFirst_map_cons _ _ _ test change make edge
    others.reverse found (by simpa using fresh)
  rw [modifyLast, ← List.map_reverse, List.reverse_append, List.reverse_singleton,
    List.singleton_append, reversed, ← List.map_reverse, List.reverse_cons,
    List.reverse_reverse]

end Lists

section Balanced

/-- The loop variables of `spotBalanced`. -/
structure Dealt where
  remainderX : Int
  remainderY : Int
  bins : List BinLiquidityDistribution

def spotBalancedStep (activeId : Int) (perBin : Nat) (dealt : Dealt)
    (binId : Int) : Dealt :=
  let dx := if activeId ≤ binId then chunk perBin dealt.remainderX else 0
  let dy := if binId ≤ activeId then chunk perBin dealt.remainderY else 0
  { remainderX := dealt.remainderX - dx
    remainderY := dealt.remainderY - dy
    bins := dealt.bins ++ [⟨binId, dx, dy⟩] }

/-- Push the remainder onto the last bin at or above the active one. -/
def topUpX (activeId remainder : Int) (bins : List BinLiquidityDistribution) :
    List BinLiquidityDistribution :=
  if 0 < remainder then
    modifyLast (fun bin => activeId ≤ bin.binId)
      (fun bin => { bin with
        distributionX := saturatingAdd 16 bin.distributionX (asU16 remainder) })
      bins
  else bins

/-- Push the remainder onto the first bin at or below the active one. -/
def topUpY (activeId remainder : Int) (bins : List BinLiquidityDistribution) :
    List BinLiquidityDistribution :=
  if 0 < remainder then
    modifyFirst (fun bin => bin.binId ≤ activeId)
      (fun bin => { bin with
        distributionY := saturatingAdd 16 bin.distributionY (asU16 remainder) })
      bins
  else bins

/-- A deposit of both tokens around the active bin. -/
def spotBalanced (amountX amountY : Nat)
    (activeId lowerBinId upperBinId : Int) : Except Fault LiquidityParameter := do
  if activeId < lowerBinId ∨ upperBinId < activeId then
    throw (.err "active_id outside range — use spot_one_side")
  let width ← widthOrPanic lowerBinId upperBinId
  if width = 0 ∨ maxBinPerArray < width then
    throw (.err "range invalid (must be 1..=70 bins)")
  let perBin := asU16 (basisPointMax / width : Nat)
  let dealt := (Int.range lowerBinId (upperBinId + 1)).foldl
    (spotBalancedStep activeId perBin) ⟨basisPointMax, basisPointMax, []⟩
  let bins := topUpX activeId dealt.remainderX dealt.bins
  let bins := topUpY activeId dealt.remainderY bins
  return { amountX := amountX, amountY := amountY, binLiquidityDist := bins }

end Balanced

section OneSide

inductive OneSideShape
  | xAboveActive
  | yBelowActive
deriving DecidableEq, Repr

inductive UniformSide
  | x
  | y
deriving DecidableEq, Repr

def sideToUniform : OneSideShape → UniformSide
  | .xAboveActive => .x
  | .yBelowActive => .y

def uniformStep (side : UniformSide) (perBin : Nat)
    (dealt : Int × List BinLiquidityDistribution) (binId : Int) :
    Int × List BinLiquidityDistribution :=
  let chunk := chunk perBin dealt.1
  let (dx, dy) :=
    match side with
    | .x => (chunk, 0)
    | .y => (0, chunk)
  (dealt.1 - chunk, dealt.2 ++ [⟨binId, dx, dy⟩])

def buildUniformDist (lower upper : Int) (side : UniformSide) :
    Except Fault (List BinLiquidityDistribution) := do
  if upper < lower then
    throw (.err "LBError::InvalidBinId")
  let width ← widthOrPanic lower upper
  if width = 0 ∨ maxBinPerArray < width then
    throw (.err "range invalid (must be 1..=70 bins)")
  let perBin := asU16 (basisPointMax / width : Nat)
  let (remainder, out) := (Int.range lower (upper + 1)).foldl
    (uniformStep side perBin) (basisPointMax, [])
  if 0 < remainder then
    return modifyLast (fun _ => true)
      (fun last =>
        match side with
        | .x => { last with
            distributionX :=
              saturatingAdd 16 last.distributionX (asU16 remainder) }
        | .y => { last with
            distributionY :=
              saturatingAdd 16 last.distributionY (asU16 remainder) })
      out
  else
    return out

/-- A deposit of one token over a range. -/
def spotOneSide (amountX amountY : Nat) (lowerBinId upperBinId : Int)
    (side : OneSideShape) : Except Fault LiquidityParameter := do
  let bins ← buildUniformDist lowerBinId upperBinId (sideToUniform side)
  return { amountX := amountX, amountY := amountY, binLiquidityDist := bins }

end OneSide

section Ranges

variable {lower middle upper active : Int}

theorem range_append (le : lower ≤ middle) (le' : middle ≤ upper) :
    Int.range lower upper = Int.range lower middle ++ Int.range middle upper := by
  obtain ⟨first, rfl⟩ := Int.le.dest le
  obtain ⟨second, rfl⟩ := Int.le.dest le'
  simp only [Int.range]
  rw [show (lower + first + second - lower).toNat = first + second by omega,
    show (lower + first - lower).toNat = first by omega,
    show (lower + first + second - (lower + first)).toNat = second by omega,
    List.range_add, List.map_append, List.map_map]
  congr 1
  apply List.map_congr_left
  intro offset _
  simp only [Function.comp_apply, Nat.cast_add]
  omega

theorem range_singleton (binId : Int) :
    Int.range binId (binId + 1) = [binId] := by
  simp [Int.range]

theorem range_concat (le : lower ≤ upper) :
    Int.range lower (upper + 1) = Int.range lower upper ++ [upper] := by
  rw [range_append le (Int.le_add_one le_rfl), range_singleton]

theorem range_cons (le : lower ≤ upper) :
    Int.range lower (upper + 1) = lower :: Int.range (lower + 1) (upper + 1) := by
  rw [range_append (Int.le_add_one le_rfl) (by omega), range_singleton,
    List.singleton_append]

theorem range_nodup : (Int.range lower upper).Nodup := by
  apply List.nodup_range.map
  intro offset offset' same
  simpa using same

/-- Bin ids from one to another, both included. -/
def binsIn (lower upper : Int) : Nat :=
  (upper + 1 - lower).toNat

theorem binsIn_le {first last : Int} (above : lower ≤ first)
    (below : last ≤ upper) : binsIn first last ≤ binsIn lower upper := by
  rw [binsIn, binsIn]
  omega

theorem length_range : (Int.range lower (upper + 1)).length = binsIn lower upper := by
  simp [Int.range, binsIn]

theorem countP_above (above : lower ≤ active) (below : active ≤ upper) :
    (Int.range lower (upper + 1)).countP (active ≤ ·) = binsIn active upper := by
  rw [range_append above (by omega), List.countP_append,
    List.countP_eq_zero.mpr, List.countP_eq_length.mpr, length_range, zero_add]
  all_goals
    intro binId inRange
    rw [Int.mem_range_iff] at inRange
    simp only [decide_eq_true_eq]
    omega

theorem countP_below (above : lower ≤ active) (below : active ≤ upper) :
    (Int.range lower (upper + 1)).countP (· ≤ active) = binsIn lower active := by
  rw [@range_append lower (active + 1) (upper + 1) (by omega) (by omega),
    List.countP_append, List.countP_eq_length.mpr, List.countP_eq_zero.mpr,
    length_range, add_zero]
  all_goals
    intro binId inRange
    rw [Int.mem_range_iff] at inRange
    simp only [decide_eq_true_eq]
    omega

end Ranges

section Shares

/-- An equal part for the bins of a side, and the rest for the bin at its
edge. -/
def edgeShare (perBin rest : Nat) (carries isEdge : Bool) : Nat :=
  (if carries then perBin else 0) + (if isEdge then rest else 0)

/-- The bins of a side share all basis points, any two of them evenly up to
fewer points than there are bins, and the other bins get none. -/
structure SpreadEvenly (share : BinLiquidityDistribution → Nat)
    (carries : Int → Bool) (bins : List BinLiquidityDistribution) : Prop where
  others : ∀ bin ∈ bins, carries bin.binId = false → share bin = 0
  complete : (bins.map share).sum = basisPointMax
  even : ∀ bin ∈ bins, ∀ bin' ∈ bins, carries bin.binId = true →
    carries bin'.binId = true →
    share bin < share bin' + bins.countP (carries ·.binId)

variable {carries : Int → Bool} {ids : List Int} {edge : Int}
variable {perBin rest : Nat}

theorem sum_edgeShare (ids : List Int) :
    (ids.map fun id => edgeShare perBin rest (carries id) (id = edge)).sum =
      perBin * ids.countP carries + rest * ids.count edge := by
  induction ids with
  | nil => rfl
  | cons id ids ih =>
      rw [List.map_cons, List.sum_cons, ih, List.countP_cons, List.count_cons,
        edgeShare]
      cases carries id <;> by_cases isEdge : id = edge <;>
        simp [isEdge, Nat.mul_add] <;> omega

theorem eq_of_countP_one (one : ids.countP carries = 1) {id id' : Int}
    (isId : id ∈ ids) (isId' : id' ∈ ids) (passes : carries id = true)
    (passes' : carries id' = true) : id = id' := by
  rw [List.countP_eq_length_filter, List.length_eq_one_iff] at one
  obtain ⟨only, filtered⟩ := one
  have isOnly : ∀ id ∈ ids, carries id = true → id = only := by
    intro id isId passes
    have isFiltered := List.mem_filter.mpr ⟨isId, passes⟩
    rw [filtered] at isFiltered
    exact List.mem_singleton.mp isFiltered
  rw [isOnly id isId passes, isOnly id' isId' passes']

/-- Two bins that pass a test differ if more than one does. -/
theorem exists_ne_of_countP (distinct : ids.Nodup) (isEdge : edge ∈ ids)
    (carriesEdge : carries edge = true) (several : ids.countP carries ≠ 1) :
    ∃ id ∈ ids, carries id = true ∧ id ≠ edge := by
  by_contra none
  push Not at none
  have same : ids.countP carries = ids.count edge := by
    apply List.countP_congr
    intro id isId
    rw [beq_iff_eq]
    exact ⟨none id isId, fun same => same ▸ carriesEdge⟩
  exact several (same.trans (List.count_eq_one_of_mem distinct isEdge))

/-- Equal parts and a rest at the edge are spread evenly if there is only one
part or the rest is smaller than the number of parts. -/
theorem spreadEvenly_iff {share : BinLiquidityDistribution → Nat}
    {make : Int → BinLiquidityDistribution} (distinct : ids.Nodup)
    (isEdge : edge ∈ ids) (carriesEdge : carries edge = true)
    (total : perBin * ids.countP carries + rest = basisPointMax)
    (makeId : ∀ id, (make id).binId = id)
    (shareEq : ∀ id, share (make id) =
      edgeShare perBin rest (carries id) (id = edge)) :
    SpreadEvenly share carries (ids.map make) ↔
      ids.countP carries = 1 ∨ rest < ids.countP carries := by
  have count : (ids.map make).countP (carries ·.binId) = ids.countP carries := by
    rw [List.countP_map]
    apply List.countP_congr
    intro id _
    rw [Function.comp_apply, makeId]
  constructor
  · intro spread
    by_cases several : ids.countP carries = 1
    · exact .inl several
    obtain ⟨id, isId, carriesId, different⟩ :=
      exists_ne_of_countP distinct isEdge carriesEdge several
    have even := spread.even _ (List.mem_map_of_mem isEdge) _
      (List.mem_map_of_mem isId) (by rwa [makeId]) (by rwa [makeId])
    rw [count, shareEq, shareEq, carriesEdge, carriesId] at even
    simp only [edgeShare, different, if_true, decide_true, decide_false,
      Bool.false_eq_true, if_false] at even
    omega
  · intro fair
    constructor
    · intro bin isBin notCarries
      obtain ⟨id, isId, rfl⟩ := List.mem_map.mp isBin
      rw [makeId] at notCarries
      have different : id ≠ edge := by
        rintro rfl
        rw [carriesEdge] at notCarries
        cases notCarries
      simp [shareEq, edgeShare, notCarries, different]
    · have sharesEq : (ids.map make).map share = ids.map fun id =>
          edgeShare perBin rest (carries id) (id = edge) := by
        rw [List.map_map]
        exact List.map_congr_left fun id _ => shareEq id
      rw [sharesEq, sum_edgeShare, List.count_eq_one_of_mem distinct isEdge,
        Nat.mul_one, total]
    · intro bin isBin bin' isBin' carriesBin carriesBin'
      obtain ⟨id, isId, rfl⟩ := List.mem_map.mp isBin
      obtain ⟨id', isId', rfl⟩ := List.mem_map.mp isBin'
      rw [makeId] at carriesBin carriesBin'
      rw [count, shareEq, shareEq, carriesBin, carriesBin']
      rcases fair with one | fair
      · rw [eq_of_countP_one one isId isId' carriesBin carriesBin', one]
        exact Nat.lt_succ_self _
      · simp only [edgeShare, if_true]
        split_ifs <;> omega

end Shares

section Steps

variable {activeId lower upper : Int} {perBin : Nat}

theorem asU16_eq {x : Nat} (fits : x < 2 ^ 16) : asU16 x = x := by
  rw [asU16]
  omega

theorem chunk_eq {remainder : Int} (fits : perBin < 2 ^ 16)
    (enough : perBin ≤ remainder) : chunk perBin remainder = perBin := by
  rw [chunk, min_eq_left enough, max_eq_left (Int.natCast_nonneg _),
    asU16_eq fits]

/-- A bin with equal parts of both sides. -/
def evenBin (activeId : Int) (perBin : Nat) (binId : Int) :
    BinLiquidityDistribution :=
  ⟨binId, if activeId ≤ binId then perBin else 0,
    if binId ≤ activeId then perBin else 0⟩

/-- With enough left the loop deals equal parts. -/
theorem foldl_spotBalancedStep {ids : List Int} {dealt : Dealt}
    (fits : perBin < 2 ^ 16) (enoughX : ↑(perBin * ids.length) ≤ dealt.remainderX)
    (enoughY : ↑(perBin * ids.length) ≤ dealt.remainderY) :
    ids.foldl (spotBalancedStep activeId perBin) dealt =
      { remainderX := dealt.remainderX - ↑(perBin * ids.countP (activeId ≤ ·))
        remainderY := dealt.remainderY - ↑(perBin * ids.countP (· ≤ activeId))
        bins := dealt.bins ++ ids.map (evenBin activeId perBin) } := by
  induction ids generalizing dealt with
  | nil => simp
  | cons id ids ih =>
      simp only [List.length_cons, Nat.mul_succ, Nat.cast_add] at enoughX enoughY
      have stepEq : spotBalancedStep activeId perBin dealt id =
          { remainderX :=
              dealt.remainderX - ↑(if activeId ≤ id then perBin else 0)
            remainderY :=
              dealt.remainderY - ↑(if id ≤ activeId then perBin else 0)
            bins := dealt.bins ++ [evenBin activeId perBin id] } := by
        rw [spotBalancedStep, evenBin, chunk_eq fits (by omega),
          chunk_eq fits (by omega)]
      rw [List.foldl_cons, stepEq, ih]
      · simp only [List.countP_cons, List.map_cons, List.append_assoc,
          List.singleton_append, Dealt.mk.injEq, and_true, decide_eq_true_eq]
        constructor <;> split_ifs <;> simp [Nat.mul_add] <;> omega
      · simp only
        split_ifs <;> omega
      · simp only
        split_ifs <;> omega

/-- A bin with a part of one side. -/
def sideBin (side : UniformSide) (share : Nat) (binId : Int) :
    BinLiquidityDistribution :=
  match side with
  | .x => ⟨binId, share, 0⟩
  | .y => ⟨binId, 0, share⟩

theorem foldl_uniformStep {side : UniformSide} {ids : List Int}
    {remainder : Int} {bins : List BinLiquidityDistribution}
    (fits : perBin < 2 ^ 16) (enough : ↑(perBin * ids.length) ≤ remainder) :
    ids.foldl (uniformStep side perBin) (remainder, bins) =
      (remainder - ↑(perBin * ids.length),
        bins ++ ids.map (sideBin side perBin)) := by
  induction ids generalizing remainder bins with
  | nil => simp
  | cons id ids ih =>
      simp only [List.length_cons, Nat.mul_succ, Nat.cast_add] at enough ⊢
      have stepEq : uniformStep side perBin (remainder, bins) id =
          (remainder - perBin, bins ++ [sideBin side perBin id]) := by
        have chunkEq : chunk perBin remainder = perBin :=
          chunk_eq fits (by omega)
        cases side <;> simp only [uniformStep, sideBin, chunkEq]
      rw [List.foldl_cons, stepEq, ih (by omega)]
      simp only [List.map_cons, List.append_assoc, List.singleton_append,
        Prod.mk.injEq, and_true]
      omega

theorem widthOrPanic_eq (le : lower ≤ upper) (narrow : binsIn lower upper ≤ 70) :
    widthOrPanic lower upper = .ok (binsIn lower upper) := by
  rw [binsIn] at narrow
  have fits : WidthFits lower upper := by
    rw [WidthFits]
    omega
  have widthEq : asUsize (upper - lower + 1) = binsIn lower upper := by
    rw [asUsize, binsIn]
    omega
  rw [widthOrPanic, binWidth_eq_some_iff.mpr ⟨fits, rfl⟩, ← widthEq]

end Steps

section Results

variable {amountX amountY : Nat} {activeId lower upper : Int}

/-- Basis points of an equal part. -/
def perBinIn (lower upper : Int) : Nat :=
  basisPointMax / binsIn lower upper

/-- What equal parts for some bins leave of the basis points. -/
def restAfter (lower upper : Int) (bins : Nat) : Nat :=
  basisPointMax - perBinIn lower upper * bins

theorem perBinIn_lt (lower upper : Int) : perBinIn lower upper < 2 ^ 16 :=
  (Nat.div_le_self _ _).trans_lt (by decide)

theorem perBinIn_mul_le {bins : Nat} (le : bins ≤ binsIn lower upper) :
    perBinIn lower upper * bins ≤ basisPointMax :=
  (Nat.mul_le_mul_left _ le).trans (Nat.div_mul_le_self _ _)

/-- The part of a bin grows by what is left, which may be nothing. -/
theorem saturatingAdd_rest {bins part : Nat} (le : bins ≤ binsIn lower upper)
    (partLe : part ≤ perBinIn lower upper) :
    saturatingAdd 16 part (asU16 (basisPointMax -
        ↑(perBinIn lower upper * bins))) =
      part + restAfter lower upper bins := by
  have enough := perBinIn_mul_le le
  have partLe' : part ≤ basisPointMax :=
    partLe.trans (Nat.div_le_self _ _)
  have restEq : (basisPointMax : Int) - ↑(perBinIn lower upper * bins) =
      ↑(restAfter lower upper bins) := by
    rw [restAfter]
    omega
  have restLe : restAfter lower upper bins ≤ basisPointMax := Nat.sub_le _ _
  rw [basisPointMax] at partLe' restLe
  rw [restEq, asU16_eq (by omega), saturatingAdd_eq (by omega)]

/-- The bins of a balanced deposit. -/
def spotBin (activeId lower upper binId : Int) : BinLiquidityDistribution :=
  ⟨binId,
    edgeShare (perBinIn lower upper)
      (restAfter lower upper (binsIn activeId upper)) (activeId ≤ binId)
      (binId = upper),
    edgeShare (perBinIn lower upper)
      (restAfter lower upper (binsIn lower activeId)) (binId ≤ activeId)
      (binId = lower)⟩

theorem spotBin_eq (activeId lower upper id : Int) :
    spotBin activeId lower upper id =
      ⟨id,
        (if activeId ≤ id then perBinIn lower upper else 0) +
          if id = upper then
            restAfter lower upper (binsIn activeId upper) else 0,
        (if id ≤ activeId then perBinIn lower upper else 0) +
          if id = lower then
            restAfter lower upper (binsIn lower activeId) else 0⟩ := by
  simp only [spotBin, edgeShare, decide_eq_true_eq]

theorem restAfter_eq_zero {bins : Nat}
    (none : (basisPointMax : Int) - ↑(perBinIn lower upper * bins) ≤ 0) :
    restAfter lower upper bins = 0 := by
  rw [restAfter]
  omega

theorem map_of_unchanged {make : Int → BinLiquidityDistribution}
    {top : BinLiquidityDistribution → BinLiquidityDistribution} {edge : Int}
    (unchanged : top (make edge) = make edge) (ids : List Int) :
    ids.map make =
      ids.map fun id => if id = edge then top (make id) else make id := by
  apply List.map_congr_left
  intro id _
  split_ifs with isEdge
  · rw [isEdge, unchanged]
  · rfl

/-- The rest of the X side goes to the last bin. -/
theorem topUp_last {make : Int → BinLiquidityDistribution} {rest : Int}
    {top : BinLiquidityDistribution → BinLiquidityDistribution}
    {test : BinLiquidityDistribution → Bool} (le : lower ≤ upper)
    (found : test (make upper) = true)
    (unchanged : rest ≤ 0 → top (make upper) = make upper) :
    (if 0 < rest then
        modifyLast test top ((Int.range lower (upper + 1)).map make)
      else (Int.range lower (upper + 1)).map make) =
      (Int.range lower (upper + 1)).map fun id =>
        if id = upper then top (make id) else make id := by
  have fresh : upper ∉ Int.range lower upper := by
    rw [Int.mem_range_iff]
    omega
  split_ifs with some
  · rw [range_concat le]
    exact modifyLast_map_concat found fresh
  · exact map_of_unchanged (unchanged (not_lt.mp some)) _

theorem topUp_first {make : Int → BinLiquidityDistribution} {rest : Int}
    {top : BinLiquidityDistribution → BinLiquidityDistribution}
    {test : BinLiquidityDistribution → Bool} (le : lower ≤ upper)
    (found : test (make lower) = true)
    (unchanged : rest ≤ 0 → top (make lower) = make lower) :
    (if 0 < rest then
        modifyFirst test top ((Int.range lower (upper + 1)).map make)
      else (Int.range lower (upper + 1)).map make) =
      (Int.range lower (upper + 1)).map fun id =>
        if id = lower then top (make id) else make id := by
  have fresh : lower ∉ Int.range (lower + 1) (upper + 1) := by
    rw [Int.mem_range_iff]
    omega
  split_ifs with some
  · rw [range_cons le]
    exact modifyFirst_map_cons found fresh
  · exact map_of_unchanged (unchanged (not_lt.mp some)) _

variable {partX partY : Int → Nat} {bins : Nat}

theorem topUpX_eq (le : lower ≤ upper) (below : activeId ≤ upper)
    (partLe : partX upper ≤ perBinIn lower upper)
    (binsLe : bins ≤ binsIn lower upper) :
    topUpX activeId (basisPointMax - ↑(perBinIn lower upper * bins))
        ((Int.range lower (upper + 1)).map fun id => ⟨id, partX id, partY id⟩) =
      (Int.range lower (upper + 1)).map fun id =>
        ⟨id, partX id + if id = upper then restAfter lower upper bins else 0,
          partY id⟩ := by
  have added := saturatingAdd_rest binsLe partLe
  rw [topUpX, topUp_last le]
  · apply List.map_congr_left
    intro id _
    split_ifs with isLast
    · rw [isLast, added]
    · rfl
  · exact decide_eq_true below
  · intro none
    rw [added, restAfter_eq_zero none, Nat.add_zero]

theorem topUpY_eq (le : lower ≤ upper) (above : lower ≤ activeId)
    (partLe : partY lower ≤ perBinIn lower upper)
    (binsLe : bins ≤ binsIn lower upper) :
    topUpY activeId (basisPointMax - ↑(perBinIn lower upper * bins))
        ((Int.range lower (upper + 1)).map fun id => ⟨id, partX id, partY id⟩) =
      (Int.range lower (upper + 1)).map fun id =>
        ⟨id, partX id,
          partY id + if id = lower then restAfter lower upper bins else 0⟩ := by
  have added := saturatingAdd_rest binsLe partLe
  rw [topUpY, topUp_first le]
  · apply List.map_congr_left
    intro id _
    split_ifs with isFirst
    · rw [isFirst, added]
    · rfl
  · exact decide_eq_true above
  · intro none
    rw [added, restAfter_eq_zero none, Nat.add_zero]

theorem validWidth (le : lower ≤ upper) (narrow : binsIn lower upper ≤ 70) :
    ¬ (binsIn lower upper = 0 ∨ maxBinPerArray < binsIn lower upper) := by
  rw [binsIn, maxBinPerArray] at *
  omega

theorem asU16_perBin (lower upper : Int) :
    asU16 (basisPointMax / binsIn lower upper : Nat) = perBinIn lower upper :=
  asU16_eq (perBinIn_lt lower upper)

theorem spotBalanced_eq (above : lower ≤ activeId) (below : activeId ≤ upper)
    (narrow : binsIn lower upper ≤ 70) :
    spotBalanced amountX amountY activeId lower upper =
      .ok ⟨amountX, amountY,
        (Int.range lower (upper + 1)).map (spotBin activeId lower upper)⟩ := by
  have le : lower ≤ upper := above.trans below
  have notOutside : ¬ (activeId < lower ∨ upper < activeId) := by omega
  have binsX := binsIn_le above (le_refl upper)
  have binsY := binsIn_le (le_refl lower) below
  have whole := Int.ofNat_le.mpr (@perBinIn_mul_le lower upper _ le_rfl)
  have dealtEq := @foldl_spotBalancedStep activeId (perBinIn lower upper)
    (Int.range lower (upper + 1)) ⟨basisPointMax, basisPointMax, []⟩
    (perBinIn_lt lower upper)
  rw [length_range, countP_above above below, countP_below above below] at dealtEq
  simp only [spotBalanced, notOutside, if_false, widthOrPanic_eq le narrow,
    validWidth le narrow, bind, Except.bind, asU16_perBin, dealtEq whole whole,
    List.nil_append]
  have partLe : ∀ (carries : Prop) [Decidable carries],
      (if carries then perBinIn lower upper else 0) ≤ perBinIn lower upper := by
    intro carries _
    split_ifs
    · exact le_rfl
    · exact Nat.zero_le _
  rw [show evenBin activeId (perBinIn lower upper) = fun id =>
      ⟨id, if activeId ≤ id then perBinIn lower upper else 0,
        if id ≤ activeId then perBinIn lower upper else 0⟩ from rfl,
    topUpX_eq le below (partLe _) binsX, topUpY_eq le above (partLe _) binsY]
  rw [funext (spotBin_eq activeId lower upper)]
  rfl

/-- The bins of a one-sided deposit. -/
def oneSideBin (side : UniformSide) (lower upper binId : Int) :
    BinLiquidityDistribution :=
  sideBin side
    (edgeShare (perBinIn lower upper)
      (restAfter lower upper (binsIn lower upper)) true (binId = upper)) binId

theorem buildUniformDist_eq (le : lower ≤ upper)
    (narrow : binsIn lower upper ≤ 70) (side : UniformSide) :
    buildUniformDist lower upper side =
      .ok ((Int.range lower (upper + 1)).map (oneSideBin side lower upper)) := by
  have whole := Int.ofNat_le.mpr (@perBinIn_mul_le lower upper _ le_rfl)
  have added := @saturatingAdd_rest lower upper _ _ le_rfl le_rfl
  have dealtEq := @foldl_uniformStep (perBinIn lower upper) side
    (Int.range lower (upper + 1)) basisPointMax [] (perBinIn_lt lower upper)
  rw [length_range] at dealtEq
  simp only [buildUniformDist, not_lt.mpr le, if_false, widthOrPanic_eq le narrow,
    validWidth le narrow, bind, Except.bind, asU16_perBin, dealtEq whole,
    List.nil_append]
  refine (apply_ite Except.ok _ _ _).symm.trans (congrArg Except.ok ?_)
  rw [topUp_last le rfl]
  · apply List.map_congr_left
    intro id _
    split_ifs with isLast
    · cases side <;> simp only [oneSideBin, sideBin, edgeShare, added, isLast,
        if_true, decide_true]
    · cases side <;> simp [oneSideBin, sideBin, edgeShare, isLast]
  · intro none
    have noRest := restAfter_eq_zero none
    cases side <;> simp only [sideBin, added, noRest, Nat.add_zero]

/-- What the balanced helper should give: an entry for every bin id in order, X
spread evenly from the active bin up and Y from the active bin down. -/
def BalancedUniform (amountX amountY : Nat) (activeId lower upper : Int) : Prop :=
  ∃ bins, spotBalanced amountX amountY activeId lower upper =
      .ok ⟨amountX, amountY, bins⟩ ∧
    bins.map (·.binId) = Int.range lower (upper + 1) ∧
    SpreadEvenly (·.distributionX) (activeId ≤ ·) bins ∧
    SpreadEvenly (·.distributionY) (· ≤ activeId) bins

def UniformSide.share : UniformSide → BinLiquidityDistribution → Nat
  | .x => (·.distributionX)
  | .y => (·.distributionY)

def UniformSide.other : UniformSide → UniformSide
  | .x => .y
  | .y => .x

/-- What the one-sided helper should give: an entry for every bin id in order,
with one side spread evenly over all of them and nothing of the other. -/
def OneSideUniform (amountX amountY : Nat) (lower upper : Int)
    (side : OneSideShape) : Prop :=
  ∃ bins, spotOneSide amountX amountY lower upper side =
      .ok ⟨amountX, amountY, bins⟩ ∧
    bins.map (·.binId) = Int.range lower (upper + 1) ∧
    SpreadEvenly (sideToUniform side).share (fun _ => true) bins ∧
    ∀ bin ∈ bins, (sideToUniform side).other.share bin = 0

theorem total_of_le {bins : Nat} (le : bins ≤ binsIn lower upper) :
    perBinIn lower upper * bins + restAfter lower upper bins = basisPointMax :=
  Nat.add_sub_cancel' (perBinIn_mul_le le)

theorem binsIn_pos (le : lower ≤ upper) : 0 < binsIn lower upper := by
  rw [binsIn]
  omega

theorem restAfter_all_lt (le : lower ≤ upper) :
    restAfter lower upper (binsIn lower upper) < binsIn lower upper := by
  have divided := Nat.mod_add_div basisPointMax (binsIn lower upper)
  have restLt := Nat.mod_lt basisPointMax (binsIn_pos le)
  rw [restAfter, perBinIn, Nat.mul_comm]
  omega

/-- Equal parts for some but not all bins leave more than one point for
each. -/
theorem le_restAfter {bins : Nat} (narrow : binsIn lower upper ≤ 70)
    (some : bins < binsIn lower upper) : bins ≤ restAfter lower upper bins := by
  have partLe : 142 ≤ perBinIn lower upper := by
    rw [perBinIn, basisPointMax, Nat.le_div_iff_mul_le (by omega)]
    omega
  have next : perBinIn lower upper * (bins + 1) ≤ basisPointMax :=
    perBinIn_mul_le some
  rw [Nat.mul_succ] at next
  rw [restAfter]
  omega

/-- The one-sided helper spreads its side evenly. -/
theorem oneSideUniform (le : lower ≤ upper) (narrow : binsIn lower upper ≤ 70)
    (side : OneSideShape) : OneSideUniform amountX amountY lower upper side := by
  have count : (Int.range lower (upper + 1)).countP (fun _ => true) =
      binsIn lower upper := by
    rw [List.countP_true, length_range]
  have isEdge : upper ∈ Int.range lower (upper + 1) := by
    rw [Int.mem_range_iff]
    omega
  have idEq : ∀ id,
      (oneSideBin (sideToUniform side) lower upper id).binId = id := by
    intro id
    cases side <;> rfl
  refine ⟨(Int.range lower (upper + 1)).map
    (oneSideBin (sideToUniform side) lower upper), ?_, ?_, ?_, ?_⟩
  · rw [spotOneSide, buildUniformDist_eq le narrow]
    rfl
  · rw [List.map_map]
    exact (List.map_congr_left fun id _ => idEq id).trans (List.map_id _)
  · refine (@spreadEvenly_iff _ _ upper (perBinIn lower upper)
      (restAfter lower upper (binsIn lower upper)) _ _ range_nodup isEdge rfl ?_
      idEq ?_).mpr ?_
    · rw [count, total_of_le le_rfl]
    · intro id
      cases side <;> rfl
    · rw [count]
      exact .inr (restAfter_all_lt le)
  · intro bin isBin
    obtain ⟨id, -, rfl⟩ := List.mem_map.mp isBin
    cases side <;> rfl

/-- Both distributions are even exactly when each side has one bin or more bins
than it has basis points left over. -/
theorem balancedUniform_iff_fair (above : lower ≤ activeId) (below : activeId ≤ upper)
    (narrow : binsIn lower upper ≤ 70) :
    BalancedUniform amountX amountY activeId lower upper ↔
      (binsIn activeId upper = 1 ∨
          restAfter lower upper (binsIn activeId upper) < binsIn activeId upper) ∧
        (binsIn lower activeId = 1 ∨
          restAfter lower upper (binsIn lower activeId) <
            binsIn lower activeId) := by
  have le : lower ≤ upper := above.trans below
  have binsX := binsIn_le above (le_refl upper)
  have binsY := binsIn_le (le_refl lower) below
  have isFirst : lower ∈ Int.range lower (upper + 1) := by
    rw [Int.mem_range_iff]
    omega
  have isLast : upper ∈ Int.range lower (upper + 1) := by
    rw [Int.mem_range_iff]
    omega
  have evenX := @spreadEvenly_iff (activeId ≤ ·) _ upper (perBinIn lower upper)
    (restAfter lower upper (binsIn activeId upper)) (·.distributionX)
    (spotBin activeId lower upper) range_nodup isLast (decide_eq_true below)
    (by rw [countP_above above below, total_of_le binsX]) (fun _ => rfl)
    (fun _ => rfl)
  have evenY := @spreadEvenly_iff (· ≤ activeId) _ lower (perBinIn lower upper)
    (restAfter lower upper (binsIn lower activeId)) (·.distributionY)
    (spotBin activeId lower upper) range_nodup isFirst (decide_eq_true above)
    (by rw [countP_below above below, total_of_le binsY]) (fun _ => rfl)
    (fun _ => rfl)
  rw [countP_above above below] at evenX
  rw [countP_below above below] at evenY
  rw [← evenX, ← evenY, BalancedUniform, spotBalanced_eq above below narrow]
  constructor
  · rintro ⟨bins, binsEq, -, spread⟩
    cases binsEq
    exact spread
  · intro spread
    refine ⟨_, rfl, ?_, spread⟩
    rw [List.map_map]
    exact List.map_id _

/-- The balanced helper spreads both sides evenly exactly when each of them has
all bins or one. -/
theorem balancedUniform_iff (above : lower ≤ activeId) (below : activeId ≤ upper)
    (narrow : binsIn lower upper ≤ 70) :
    BalancedUniform amountX amountY activeId lower upper ↔
      activeId = lower ∨ activeId = upper := by
  rw [balancedUniform_iff_fair above below narrow]
  constructor
  · rintro ⟨fairX, -⟩
    by_contra inner
    obtain ⟨notFirst, notLast⟩ := not_or.mp inner
    have some : binsIn activeId upper < binsIn lower upper := by
      simp only [binsIn]
      omega
    have several : binsIn activeId upper ≠ 1 := by
      rw [binsIn]
      omega
    have uneven := le_restAfter narrow some
    omega
  · have allLt := restAfter_all_lt (above.trans below)
    have one : ∀ id, binsIn id id = 1 := by
      intro id
      rw [binsIn]
      omega
    rintro (rfl | rfl)
    · exact ⟨.inr allLt, .inl (one _)⟩
    · exact ⟨.inl (one _), .inr allLt⟩

/-- The uniform helpers are uniform over a range exactly when the active bin is
at an edge of it. -/
theorem distributions_uniform_iff (amountX amountY : Nat)
    (above : lower ≤ activeId) (below : activeId ≤ upper)
    (narrow : upper - lower + 1 ≤ 70) :
    (BalancedUniform amountX amountY activeId lower upper ∧
        ∀ side, OneSideUniform amountX amountY lower upper side) ↔
      activeId = lower ∨ activeId = upper := by
  have narrow' : binsIn lower upper ≤ 70 := by
    rw [binsIn]
    omega
  rw [balancedUniform_iff above below narrow', and_iff_left]
  exact oneSideUniform (above.trans below) narrow'

theorem distributions_uniform_iff_atEdge :
    (BalancedUniform 1000000 1000000 0 0 9 ∧
        ∀ side, OneSideUniform 1000000 1000000 0 9 side) ↔
      (0 : Int) = 0 ∨ (0 : Int) = 9 :=
  distributions_uniform_iff 1000000 1000000 (by decide) (by decide) (by decide)

/-- Around bin 5 of eleven, the last bin gets six times the X of any other. -/
theorem spotBalanced_middle_uneven :
    ¬ (BalancedUniform 1000000 1000000 5 0 10 ∧
      ∀ side, OneSideUniform 1000000 1000000 0 10 side) := by
  rintro ⟨uniform, -⟩
  have atEdge := (balancedUniform_iff (by decide) (by decide) (by decide)).mp
    uniform
  omega

end Results

end MeteoraDlmm

end SolanaProtocols
