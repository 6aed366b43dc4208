import SolanaProtocols.FirstWins
import SolanaProtocols.SolanaTypes

/-!
# Pool graph

The graph remembers an edge for every pool.  The first edge observed is kept;
a later one that names another pair is counted as a disagreement.  Edges that
name the same pair under different protocols count as agreeing, so which
protocol is kept then depends on the order of the observations.
-/

namespace SolanaProtocols

namespace Chain

structure PoolEdge where
  pool : Pubkey
  protocol : Protocol
  tokenA : Pubkey
  tokenB : Pubkey
deriving DecidableEq, Repr

def PoolEdge.samePair (self other : PoolEdge) : Bool :=
  self.tokenA = other.tokenA && self.tokenB = other.tokenB

/-- What observing an edge did to the graph. -/
inductive Observed
  | new
  | agreed
  | disagreed (kept rejected : PoolEdge)
deriving DecidableEq, Repr

structure PoolGraph where
  byPool : Pubkey → Option PoolEdge
  disagreements : Nat

namespace PoolGraph

def new : PoolGraph where
  byPool _ := none
  disagreements := 0

/-- Record an edge. -/
def observe (graph : PoolGraph) (edge : PoolEdge) : PoolGraph × Observed :=
  match graph.byPool edge.pool with
  | none =>
      ({ graph with
        byPool := Function.update graph.byPool edge.pool (some edge) }, .new)
  | some known =>
      if known.samePair edge then (graph, .agreed)
      else ({ graph with disagreements := graph.disagreements + 1 },
        .disagreed known edge)

/-- The edge for a pool, if we have named it. -/
def get (graph : PoolGraph) (pool : Pubkey) : Option PoolEdge :=
  graph.byPool pool

/-- The graph after a sequence of observations. -/
def observeAll (edges : List PoolEdge) : PoolGraph :=
  edges.foldl (fun graph edge => (graph.observe edge).1) new

/-- The graph as a record of edges under their pools. -/
def record (graph : PoolGraph) : FirstWins Pubkey PoolEdge where
  held := graph.byPool
  conflicts := graph.disagreements

theorem record_observe (graph : PoolGraph) (edge : PoolEdge) :
    (graph.observe edge).1.record =
      graph.record.observe PoolEdge.pool PoolEdge.samePair edge := by
  unfold observe FirstWins.observe record
  cases kept : graph.byPool edge.pool with
  | none => simp only [kept]
  | some known =>
      simp only [kept]
      split
      · rfl
      · rfl

theorem record_observeAll (edges : List PoolEdge) :
    (observeAll edges).record =
      FirstWins.empty.observeAll PoolEdge.pool PoolEdge.samePair edges := by
  have foldl (graph : PoolGraph) :
      (edges.foldl (fun graph edge => (graph.observe edge).1) graph).record =
        graph.record.observeAll PoolEdge.pool PoolEdge.samePair edges := by
    induction edges generalizing graph with
    | nil => rfl
    | cons edge edges ih =>
        rw [List.foldl_cons, ih, record_observe]
        rfl
  exact foldl new

variable {edges : List PoolEdge}

theorem samePair_iff {first second : PoolEdge} :
    first.samePair second = true ↔
      first.tokenA = second.tokenA ∧ first.tokenB = second.tokenB := by
  simp [PoolEdge.samePair]

theorem get_observeAll (pool : Pubkey) :
    (observeAll edges).get pool = edges.find? (·.pool = pool) := by
  have heldEq := congrArg (FirstWins.held · pool) (record_observeAll edges)
  simp only [FirstWins.held_observeAll, FirstWins.empty, Option.none_or] at heldEq
  exact heldEq

/-- The disagreements are the observations that name another pair than the edge
held. -/
theorem disagreements_observeAll :
    (observeAll edges).disagreements = edges.countP fun edge =>
      ((observeAll edges).get edge.pool).any (!·.samePair edge) := by
  have conflictsEq := congrArg FirstWins.conflicts (record_observeAll edges)
  rw [FirstWins.conflicts_observeAll (fun edge => samePair_iff.mpr ⟨rfl, rfl⟩),
    FirstWins.empty, Nat.zero_add, ← FirstWins.empty, ← record_observeAll]
    at conflictsEq
  exact conflictsEq

theorem disagreements_eq_zero_iff :
    (observeAll edges).disagreements = 0 ↔
      FirstWins.AllAgree PoolEdge.pool PoolEdge.samePair edges := by
  have conflictsEq := congrArg FirstWins.conflicts (record_observeAll edges)
  rw [show (observeAll edges).disagreements =
    (observeAll edges).record.conflicts from rfl, conflictsEq]
  apply FirstWins.conflicts_eq_zero_iff
  · exact fun edge => samePair_iff.mpr ⟨rfl, rfl⟩
  · intro first second same
    obtain ⟨sameA, sameB⟩ := samePair_iff.mp same
    exact samePair_iff.mpr ⟨sameA.symm, sameB.symm⟩
  · intro first second third same same'
    obtain ⟨sameA, sameB⟩ := samePair_iff.mp same
    obtain ⟨sameA', sameB'⟩ := samePair_iff.mp same'
    exact samePair_iff.mpr ⟨sameA.trans sameA', sameB.trans sameB'⟩

/-- Whatever the order of the observations, if one order ends without a
disagreement then so does any other, and both hold the same edges. -/
def OrderIndependent (observations : Multiset PoolEdge) : Prop :=
  ∀ first second : List PoolEdge, first = observations →
    second = observations → (observeAll first).disagreements = 0 →
      (observeAll second).disagreements = 0 ∧
        ∀ pool, (observeAll second).get pool = (observeAll first).get pool

/-- A run keeps the first edge of every pool and counts the observations that
differ from it. -/
def CountsDiffering (edges : List PoolEdge) : Prop :=
  (∀ pool, (observeAll edges).get pool = edges.find? (·.pool = pool)) ∧
    (observeAll edges).disagreements = edges.countP fun edge =>
      (observeAll edges).get edge.pool ≠ some edge

/-- Observations of one pool that name the same pair name the same protocol. -/
def PairsFixProtocol (observations : Multiset PoolEdge) : Prop :=
  ∀ first ∈ observations, ∀ second ∈ observations, first.pool = second.pool →
    first.samePair second = true → first.protocol = second.protocol

theorem eq_of_samePair {first second : PoolEdge}
    (samePool : first.pool = second.pool)
    (sameProtocol : first.protocol = second.protocol)
    (same : first.samePair second = true) : first = second := by
  obtain ⟨sameA, sameB⟩ := samePair_iff.mp same
  obtain ⟨pool, protocol, tokenA, tokenB⟩ := first
  obtain ⟨pool', protocol', tokenA', tokenB'⟩ := second
  simp only at samePool sameProtocol sameA sameB
  rw [samePool, sameProtocol, sameA, sameB]

theorem exists_held {edge : PoolEdge} (member : edge ∈ edges) :
    ∃ known ∈ edges, known.pool = edge.pool ∧
      (observeAll edges).get edge.pool = some known := by
  obtain ⟨known, knownMem, samePool, search⟩ :=
    FirstWins.find?_of_mem PoolEdge.pool member
  exact ⟨known, knownMem, samePool, (get_observeAll edge.pool).trans search⟩

theorem countsDiffering_of_pairsFixProtocol
    (fixed : PairsFixProtocol (edges : Multiset PoolEdge)) :
    CountsDiffering edges := by
  refine ⟨get_observeAll, ?_⟩
  rw [disagreements_observeAll]
  apply List.countP_congr
  intro edge member
  obtain ⟨known, knownMem, samePool, heldEq⟩ := exists_held member
  rw [heldEq]
  by_cases same : known.samePair edge = true
  · have sameEdge : known = edge := eq_of_samePair samePool
      (fixed known knownMem edge member samePool same) same
    simp [sameEdge, samePair_iff]
  · have different : known ≠ edge := by
      rintro rfl
      exact same (samePair_iff.mpr ⟨rfl, rfl⟩)
    simp [same, different]

theorem orderIndependent_of_pairsFixProtocol {observations : Multiset PoolEdge}
    (fixed : PairsFixProtocol observations) :
    OrderIndependent observations := by
  rintro first second rfl secondEq noDisagreement
  have perm : first.Perm second := (Multiset.coe_eq_coe.mp secondEq).symm
  have allAgree := disagreements_eq_zero_iff.mp noDisagreement
  constructor
  · rw [disagreements_eq_zero_iff, secondEq]
    exact allAgree
  · intro pool
    have single : ∀ one ∈ first, ∀ other ∈ first, one.pool = other.pool →
        one = other := by
      intro one oneMem other otherMem samePool
      have same := allAgree one oneMem other otherMem samePool
      exact eq_of_samePair samePool
        (fixed one oneMem other otherMem samePool same) same
    have heldEq : (FirstWins.empty.observeAll PoolEdge.pool PoolEdge.samePair
        second).held pool = (FirstWins.empty.observeAll PoolEdge.pool
          PoolEdge.samePair first).held pool :=
      FirstWins.held_eq_of_perm perm single pool
    rw [← record_observeAll, ← record_observeAll] at heldEq
    exact heldEq

/-- An observation that differs from the first only in its protocol is not
counted. -/
theorem protocol_of_countsDiffering {first : PoolEdge} {rest : List PoolEdge}
    (counts : CountsDiffering (first :: rest)) {second : PoolEdge}
    (member : second ∈ rest) (samePool : first.pool = second.pool)
    (same : first.samePair second = true) :
    first.protocol = second.protocol := by
  have heldEq : (observeAll (first :: rest)).get second.pool = some first := by
    rw [get_observeAll, List.find?_cons_of_pos (by simpa using samePool)]
  -- What is counted is among what differs, so equal counts make them the same.
  have counted : ((first :: rest).filter fun edge =>
      ((observeAll (first :: rest)).get edge.pool).any (!·.samePair edge)).Sublist
        ((first :: rest).filter fun edge =>
          (observeAll (first :: rest)).get edge.pool ≠ some edge) := by
    apply List.monotone_filter_right
    intro edge differs
    rw [decide_eq_true_eq]
    intro heldEdge
    rw [heldEdge, Option.any_some, samePair_iff.mpr ⟨rfl, rfl⟩] at differs
    cases differs
  have sameCount := disagreements_observeAll.symm.trans counts.2
  rw [List.countP_eq_length_filter, List.countP_eq_length_filter] at sameCount
  have sameEdges := counted.eq_of_length sameCount
  by_contra different
  have differs : second ∈ (first :: rest).filter fun edge =>
      (observeAll (first :: rest)).get edge.pool ≠ some edge := by
    rw [List.mem_filter]
    refine ⟨List.mem_cons_of_mem first member, ?_⟩
    rw [heldEq, decide_eq_true_eq]
    exact fun same => different (congrArg PoolEdge.protocol (Option.some.inj same))
  rw [← sameEdges, List.mem_filter, heldEq, Option.any_some, same] at differs
  cases differs.2

/-- Runs are independent of the order, and count what differs, exactly when the
pair that is named for a pool fixes the protocol that is named. -/
theorem graph_orderIndependent_iff (observations : Multiset PoolEdge) :
    (OrderIndependent observations ∧
      ∀ edges : List PoolEdge, edges = observations → CountsDiffering edges) ↔
      PairsFixProtocol observations := by
  constructor
  · rintro ⟨-, counts⟩ first firstMem second secondMem samePool same
    by_cases sameEdge : second = first
    · rw [sameEdge]
    · obtain ⟨others, rfl⟩ := Multiset.exists_cons_of_mem firstMem
      obtain ⟨rest, rfl⟩ := Quot.exists_rep others
      have secondRest : second ∈ rest :=
        (Multiset.mem_cons.mp secondMem).resolve_left sameEdge
      exact protocol_of_countsDiffering (counts (first :: rest) rfl) secondRest
        samePool same
  · intro fixed
    refine ⟨orderIndependent_of_pairsFixProtocol fixed, ?_⟩
    rintro edges rfl
    exact countsDiffering_of_pairsFixProtocol fixed

/-- Two edges that differ in nothing but their protocols. -/
def twoProtocols : List PoolEdge :=
  [⟨1, .pumpSwap, 2, 3⟩, ⟨1, .pumpfun, 2, 3⟩]

/-- Both orders end without a disagreement, and hold different edges. -/
theorem twoProtocols_orderDependent :
    (observeAll twoProtocols).disagreements = 0 ∧
      (observeAll twoProtocols).get 1 = some ⟨1, .pumpSwap, 2, 3⟩ ∧
      (observeAll twoProtocols.reverse).get 1 = some ⟨1, .pumpfun, 2, 3⟩ ∧
      ¬OrderIndependent (twoProtocols : Multiset PoolEdge) := by
  have noDisagreement : (observeAll twoProtocols).disagreements = 0 := by decide
  have forward : (observeAll twoProtocols).get 1 =
      some ⟨1, .pumpSwap, 2, 3⟩ := by decide
  have backward : (observeAll twoProtocols.reverse).get 1 =
      some ⟨1, .pumpfun, 2, 3⟩ := by decide
  refine ⟨noDisagreement, forward, backward, fun independent => ?_⟩
  have same := (independent twoProtocols twoProtocols.reverse rfl
    (Multiset.coe_eq_coe.mpr (List.reverse_perm _)) noDisagreement).2 1
  rw [forward, backward] at same
  exact absurd same (by decide)

end PoolGraph

end Chain

end SolanaProtocols
