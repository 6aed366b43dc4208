import Mathlib.Algebra.BigOperators.Group.List.Basic
import SolanaProtocols.ConsumedFlags
import SolanaProtocols.SolanaTypes

/-!
# Token balance changes

The metadata of a transaction reports token accounts before and after it.
Pairing the entries of one account gives what the transaction changed; an entry
without a counterpart is an account that was created or closed.
-/

namespace SolanaProtocols

namespace Chain

/-- One side's reported balance for one token account. -/
structure TokenBalanceEntry where
  accountIndex : UInt32
  program : Pubkey
  owner : Pubkey
  mint : Pubkey
  raw : UInt64
  decimals : UInt8
deriving DecidableEq

/-- Pre→post balance of one token account across one transaction.  `none` means
no entry on that side, never zero. -/
structure TokenBalanceChange where
  owner : Pubkey
  mint : Pubkey
  program : Pubkey
  preRaw : Option UInt64
  postRaw : Option UInt64
  decimals : UInt8
deriving DecidableEq

/-- Net raw-unit change, treating a missing side as zero holdings. -/
def TokenBalanceChange.deltaRaw (change : TokenBalanceChange) : Int :=
  (change.postRaw.getD 0).toNat - (change.preRaw.getD 0).toNat

/-- The entries that a change is made from. -/
inductive Link
  | both (pre post : TokenBalanceEntry)
  | closed (pre : TokenBalanceEntry)
  | created (post : TokenBalanceEntry)

namespace Link

def change : Link → TokenBalanceChange
  | .both q p =>
      { owner := p.owner
        mint := p.mint
        program := p.program
        preRaw := some q.raw
        postRaw := some p.raw
        decimals := p.decimals }
  | .closed q =>
      { owner := q.owner
        mint := q.mint
        program := q.program
        preRaw := some q.raw
        postRaw := none
        decimals := q.decimals }
  | .created p =>
      { owner := p.owner
        mint := p.mint
        program := p.program
        preRaw := none
        postRaw := some p.raw
        decimals := p.decimals }

def pre? : Link → Option TokenBalanceEntry
  | .both q _ => some q
  | .closed q => some q
  | .created _ => none

def post? : Link → Option TokenBalanceEntry
  | .both _ p => some p
  | .closed _ => none
  | .created p => some p

end Link

/-- The scan over the post entries.  `emit` is what is pushed. -/
structure PairState (α : Type) where
  consumed : List Bool
  out : List α

section Pairing

variable {α : Type} (emit : Link → α) (pre : List TokenBalanceEntry)

def PairState.step (state : PairState α) (p : TokenBalanceEntry) :
    PairState α :=
  let matched := pre.zipIdx.find? fun (q, i) =>
    !state.consumed.getD i false && q.accountIndex == p.accountIndex
  match matched with
  | some (q, i) =>
      if q.owner = p.owner ∧ q.mint = p.mint then
        { consumed := state.consumed.set i true
          out := state.out ++ [emit (.both q p)] }
      else
        { consumed := state.consumed.set i true
          out := state.out ++ [emit (.closed q), emit (.created p)] }
  | none => { state with out := state.out ++ [emit (.created p)] }

def pairWith (post : List TokenBalanceEntry) : List α :=
  let state := post.foldl (PairState.step emit pre)
    ⟨List.replicate pre.length false, []⟩
  state.out ++ (pre.zipIdx.filter fun (_, i) =>
    !state.consumed.getD i false).map fun (q, _) => emit (.closed q)

end Pairing

/-- Pair pre/post entries by account index. -/
def TokenBalanceChange.pair (pre post : List TokenBalanceEntry) :
    List TokenBalanceChange :=
  pairWith Link.change pre post

/-- The entries that the changes are made from. -/
def links (pre post : List TokenBalanceEntry) : List Link :=
  pairWith id pre post

/-- The entries are of one account. -/
structure SameAccount (q p : TokenBalanceEntry) : Prop where
  index : q.accountIndex = p.accountIndex
  owner : q.owner = p.owner
  mint : q.mint = p.mint

section Scan

open ConsumedFlags

variable {α : Type} {emit : Link → α} {pre processed post : List TokenBalanceEntry}
  {p q : TokenBalanceEntry}

/-- What a post entry makes with the pre entry at its index. -/
def matchLinks (q p : TokenBalanceEntry) : List Link :=
  if q.owner = p.owner ∧ q.mint = p.mint then [.both q p]
  else [.closed q, .created p]

@[simp] theorem filterMap_pre_matchLinks :
    (matchLinks q p).filterMap Link.pre? = [q] := by
  rw [matchLinks]
  split_ifs <;> rfl

@[simp] theorem filterMap_post_matchLinks :
    (matchLinks q p).filterMap Link.post? = [p] := by
  rw [matchLinks]
  split_ifs <;> rfl

theorem both_mem_matchLinks {q' p' : TokenBalanceEntry}
    (index : q.accountIndex = p.accountIndex) :
    .both q' p' ∈ matchLinks q p ↔
      q' = q ∧ p' = p ∧ SameAccount q p := by
  rw [matchLinks]
  split_ifs with same
  · simp only [List.mem_singleton, Link.both.injEq]
    exact ⟨fun ⟨isPre, isPost⟩ => ⟨isPre, isPost, index, same.1, same.2⟩,
      fun ⟨isPre, isPost, _⟩ => ⟨isPre, isPost⟩⟩
  · simp only [List.mem_cons, reduceCtorEq, List.not_mem_nil, or_self,
      false_iff, not_and]
    exact fun _ _ sameAccount => same ⟨sameAccount.owner, sameAccount.mint⟩

/-- A post entry consumes a free pre entry at its index, or there is none. -/
theorem PairState.step_cases (state : PairState α) (p : TokenBalanceEntry) :
    (∃ q i, pre[i]? = some q ∧ state.consumed.getD i false = false ∧
        q.accountIndex = p.accountIndex ∧
        state.step emit pre p =
          { consumed := state.consumed.set i true
            out := state.out ++ (matchLinks q p).map emit }) ∨
      ((∀ q i, pre[i]? = some q → q.accountIndex = p.accountIndex →
          state.consumed.getD i false = true) ∧
        state.step emit pre p =
          { state with out := state.out ++ [emit (.created p)] }) := by
  rw [PairState.step]
  cases found : pre.zipIdx.find? fun (q, i) =>
      !state.consumed.getD i false && q.accountIndex == p.accountIndex with
  | none =>
      refine .inr ⟨fun q i isPre index => ?_, rfl⟩
      have taken := List.find?_eq_none.mp found (q, i)
        (List.mk_mem_zipIdx_iff_getElem?.mpr isPre)
      simpa [index] using taken
  | some entry =>
      obtain ⟨q, i⟩ := entry
      have isPre := List.mk_mem_zipIdx_iff_getElem?.mp
        (List.mem_of_find?_eq_some found)
      have free := List.find?_some found
      simp only [Bool.and_eq_true, Bool.not_eq_true', beq_iff_eq] at free
      refine .inl ⟨q, i, isPre, free.1, free.2, ?_⟩
      rw [matchLinks]
      simp only
      split_ifs <;> rfl

/-- What the scan has done with the post entries it has processed. -/
structure Progress (pre processed : List TokenBalanceEntry)
    (state : PairState Link) : Prop where
  length : state.consumed.length = pre.length
  usesPre : (state.out.filterMap Link.pre?).Perm (consumed state.consumed pre)
  usesPost : state.out.filterMap Link.post? = processed
  agrees : ∀ q p, .both q p ∈ state.out → SameAccount q p
  claimed : ∀ q ∈ consumed state.consumed pre, ∃ p ∈ processed,
    q.accountIndex = p.accountIndex
  pairs : (pre.map TokenBalanceEntry.accountIndex).Nodup →
    (processed.map TokenBalanceEntry.accountIndex).Nodup →
    ∀ q ∈ pre, ∀ p ∈ processed, SameAccount q p → .both q p ∈ state.out

theorem Progress.start (pre : List TokenBalanceEntry) :
    Progress pre [] ⟨List.replicate pre.length false, []⟩ where
  length := List.length_replicate
  usesPre := by
    rw [consumed_replicate]
    exact List.Perm.refl _
  usesPost := rfl
  agrees _ _ isLink := by cases isLink
  claimed q isConsumed := by
    rw [consumed_replicate] at isConsumed
    cases isConsumed
  pairs _ _ _ _ _ isProcessed := by cases isProcessed

theorem Progress.consume {state : PairState Link} {i : Nat}
    (progress : Progress pre processed state) (isPre : pre[i]? = some q)
    (free : state.consumed.getD i false = false)
    (index : q.accountIndex = p.accountIndex) :
    Progress pre (processed ++ [p])
      { consumed := state.consumed.set i true
        out := state.out ++ matchLinks q p } := by
  have inside : i < state.consumed.length := by
    rw [progress.length]
    exact (List.getElem?_eq_some_iff.mp isPre).1
  have uses := consumed_set_perm isPre free inside
  refine ⟨?_, ?_, ?_, fun q' p' isLink => ?_, fun q' isConsumed => ?_,
    fun uniquePre uniquePost q' isPre' p' isProcessed same => ?_⟩
  · rw [List.length_set, progress.length]
  · rw [List.filterMap_append, filterMap_pre_matchLinks]
    exact (List.perm_append_singleton _ _).trans
      ((progress.usesPre.cons q).trans uses.symm)
  · rw [List.filterMap_append, filterMap_post_matchLinks, progress.usesPost]
  · rcases List.mem_append.mp isLink with isOld | isNew
    · exact progress.agrees q' p' isOld
    · obtain ⟨rfl, rfl, same⟩ := (both_mem_matchLinks index).mp isNew
      exact same
  · rcases List.mem_cons.mp (uses.mem_iff.mp isConsumed) with rfl | isOld
    · exact ⟨p, by simp, index⟩
    · obtain ⟨p', isProcessed, same⟩ := progress.claimed q' isOld
      exact ⟨p', List.mem_append_left _ isProcessed, same⟩
  · rw [List.mem_append]
    rcases List.mem_append.mp isProcessed with isOld | isNew
    · rw [List.map_append] at uniquePost
      exact .inl (progress.pairs uniquePre uniquePost.of_append_left q' isPre' p'
        isOld same)
    · cases List.mem_singleton.mp isNew
      have isSame : q' = q := List.inj_on_of_nodup_map uniquePre isPre'
        (List.mem_of_getElem? isPre) (same.index.trans index.symm)
      subst isSame
      exact .inr ((both_mem_matchLinks index).mpr ⟨rfl, rfl, same⟩)

theorem Progress.create {state : PairState Link}
    (progress : Progress pre processed state)
    (taken : ∀ q i, pre[i]? = some q → q.accountIndex = p.accountIndex →
      state.consumed.getD i false = true) :
    Progress pre (processed ++ [p])
      { state with out := state.out ++ [.created p] } := by
  refine ⟨progress.length, ?_, ?_, fun q' p' isLink => ?_,
    fun q' isConsumed => ?_,
    fun uniquePre uniquePost q' isPre' p' isProcessed same => ?_⟩
  · rw [List.filterMap_append, List.filterMap_cons_none rfl, List.filterMap_nil,
      List.append_nil]
    exact progress.usesPre
  · rw [List.filterMap_append, progress.usesPost]
    rfl
  · exact progress.agrees q' p' (by simpa using isLink)
  · obtain ⟨p', isProcessed, same⟩ := progress.claimed q' isConsumed
    exact ⟨p', List.mem_append_left _ isProcessed, same⟩
  · rw [List.map_append] at uniquePost
    rcases List.mem_append.mp isProcessed with isOld | isNew
    · exact List.mem_append_left _ (progress.pairs uniquePre
        uniquePost.of_append_left q' isPre' p' isOld same)
    · -- An earlier post entry consumed the pre entry at this index.
      cases List.mem_singleton.mp isNew
      obtain ⟨i, isPre⟩ := List.mem_iff_getElem?.mp isPre'
      obtain ⟨earlier, isEarlier, index⟩ := progress.claimed q'
        (mem_consumed.mpr ⟨i, isPre, taken q' i isPre same.index⟩)
      have clash := List.disjoint_of_nodup_append uniquePost
        (List.mem_map_of_mem isEarlier)
      rw [← index, same.index] at clash
      exact absurd (List.mem_singleton_self _) clash

theorem Progress.step {state : PairState Link}
    (progress : Progress pre processed state) (p : TokenBalanceEntry) :
    Progress pre (processed ++ [p]) (state.step id pre p) := by
  rcases @PairState.step_cases Link id pre state p with
    ⟨q, i, isPre, free, index, stepEq⟩ | ⟨taken, stepEq⟩
  · rw [stepEq, List.map_id]
    exact progress.consume isPre free index
  · rw [stepEq]
    exact progress.create taken

/-- The scan processes every post entry. -/
theorem progress_scan (pre post : List TokenBalanceEntry) :
    Progress pre post (post.foldl (PairState.step id pre)
      ⟨List.replicate pre.length false, []⟩) := by
  have preserved : ∀ (processed : List TokenBalanceEntry)
      (state : PairState Link), Progress pre processed state →
      Progress pre (processed ++ post)
        (post.foldl (PairState.step id pre) state) := by
    induction post with
    | nil => exact fun _ _ progress => by rwa [List.append_nil]
    | cons p post ih =>
        intro processed state progress
        rw [List.append_cons]
        exact ih _ _ (progress.step p)
  exact preserved [] _ (.start pre)

/-- Emitting changes is emitting links and reading each as its change. -/
theorem map_foldl_step (pre post : List TokenBalanceEntry)
    (state : PairState Link) :
    post.foldl (PairState.step emit pre)
        ⟨state.consumed, state.out.map emit⟩ =
      ⟨(post.foldl (PairState.step id pre) state).consumed,
        (post.foldl (PairState.step id pre) state).out.map emit⟩ := by
  induction post generalizing state with
  | nil => rfl
  | cons p post ih =>
      have stepEq : PairState.step emit pre
          ⟨state.consumed, state.out.map emit⟩ p =
          ⟨(state.step id pre p).consumed,
            (state.step id pre p).out.map emit⟩ := by
        rw [PairState.step, PairState.step]
        simp only
        cases pre.zipIdx.find? fun (q, i) =>
            !state.consumed.getD i false && q.accountIndex == p.accountIndex with
        | none => simp
        | some entry =>
            simp only
            split_ifs <;> simp
      rw [List.foldl_cons, List.foldl_cons, stepEq, ih]

theorem pairWith_eq_map (emit : Link → α) (pre post : List TokenBalanceEntry) :
    pairWith emit pre post = (links pre post).map emit := by
  have same := @map_foldl_step _ emit pre post
    ⟨List.replicate pre.length false, []⟩
  rw [List.map_nil] at same
  rw [links, pairWith, pairWith, same, List.map_append, List.map_map]
  rfl

/-- The links of the scan, then the pre entries that it left. -/
theorem links_eq (pre post : List TokenBalanceEntry) :
    ∃ state, Progress pre post state ∧ links pre post =
      state.out ++ (remaining state.consumed pre).map Link.closed := by
  refine ⟨_, progress_scan pre post, ?_⟩
  rw [links, pairWith, remaining, List.map_map]
  rfl

end Scan

section Conservation

variable {pre post : List TokenBalanceEntry} {owner mint : Pubkey}

/-- The holdings of an owner in a mint. -/
def held (owner mint : Pubkey) (entries : List TokenBalanceEntry) : Int :=
  ((entries.filter fun entry => entry.owner = owner ∧ entry.mint = mint).map
    fun entry => (entry.raw.toNat : Int)).sum

/-- The reported change of an owner's holdings in a mint. -/
def netDelta (owner mint : Pubkey) (changes : List TokenBalanceChange) : Int :=
  ((changes.filter fun change =>
    change.owner = owner ∧ change.mint = mint).map
      TokenBalanceChange.deltaRaw).sum

theorem held_cons (entry : TokenBalanceEntry)
    (entries : List TokenBalanceEntry) :
    held owner mint (entry :: entries) =
      held owner mint [entry] + held owner mint entries := by
  rw [← List.singleton_append, held, List.filter_append, List.map_append,
    List.sum_append]
  rfl

theorem held_filterMap_cons (side : Link → Option TokenBalanceEntry)
    (link : Link) (made : List Link) :
    held owner mint ((link :: made).filterMap side) =
      held owner mint (side link).toList +
        held owner mint (made.filterMap side) := by
  cases isSide : side link with
  | none =>
      rw [List.filterMap_cons_none isSide, Option.toList_none]
      exact (zero_add _).symm
  | some entry =>
      rw [List.filterMap_cons_some isSide, held_cons, Option.toList_some]

theorem held_perm {entries entries' : List TokenBalanceEntry}
    (perm : entries.Perm entries') :
    held owner mint entries = held owner mint entries' :=
  ((perm.filter _).map _).sum_eq

theorem netDelta_cons (change : TokenBalanceChange)
    (changes : List TokenBalanceChange) :
    netDelta owner mint (change :: changes) =
      netDelta owner mint [change] + netDelta owner mint changes := by
  rw [← List.singleton_append, netDelta, List.filter_append, List.map_append,
    List.sum_append]
  rfl

/-- A change moves what its entries say. -/
theorem netDelta_change (link : Link)
    (agrees : ∀ q p, link = .both q p → SameAccount q p) :
    netDelta owner mint [link.change] =
      held owner mint link.post?.toList - held owner mint link.pre?.toList := by
  cases link with
  | both q p =>
      obtain ⟨-, ownerEq, mintEq⟩ := agrees q p rfl
      by_cases mine : p.owner = owner ∧ p.mint = mint <;>
        simp [netDelta, held, Link.change, Link.pre?, Link.post?, ownerEq,
          mintEq, mine, TokenBalanceChange.deltaRaw]
  | closed q =>
      by_cases mine : q.owner = owner ∧ q.mint = mint <;>
        simp [netDelta, held, Link.change, Link.pre?, Link.post?, mine,
          TokenBalanceChange.deltaRaw]
  | created p =>
      by_cases mine : p.owner = owner ∧ p.mint = mint <;>
        simp [netDelta, held, Link.change, Link.pre?, Link.post?, mine,
          TokenBalanceChange.deltaRaw]

theorem netDelta_map_change {made : List Link}
    (agrees : ∀ q p, .both q p ∈ made → SameAccount q p) :
    netDelta owner mint (made.map Link.change) =
      held owner mint (made.filterMap Link.post?) -
        held owner mint (made.filterMap Link.pre?) := by
  induction made with
  | nil => rfl
  | cons link made ih =>
      have own := @netDelta_change owner mint link fun q p isBoth =>
        agrees q p (isBoth ▸ List.mem_cons_self)
      have others := ih fun q p isLink =>
        agrees q p (List.mem_cons_of_mem _ isLink)
      rw [List.map_cons, netDelta_cons, own, others, held_filterMap_cons,
        held_filterMap_cons]
      omega

theorem pair_eq_map (pre post : List TokenBalanceEntry) :
    TokenBalanceChange.pair pre post = (links pre post).map Link.change :=
  pairWith_eq_map _ _ _

theorem usesPre_links (pre post : List TokenBalanceEntry) :
    ((links pre post).filterMap Link.pre?).Perm pre := by
  obtain ⟨state, progress, linksEq⟩ := links_eq pre post
  have closedPre (entries : List TokenBalanceEntry) :
      (entries.map Link.closed).filterMap Link.pre? = entries := by
    rw [List.filterMap_map]
    exact List.filterMap_some
  rw [linksEq, List.filterMap_append, closedPre]
  exact (progress.usesPre.append_right _).trans
    (ConsumedFlags.consumed_append_remaining_perm _ _)

theorem usesPost_links (pre post : List TokenBalanceEntry) :
    (links pre post).filterMap Link.post? = post := by
  obtain ⟨state, progress, linksEq⟩ := links_eq pre post
  have closedPost (entries : List TokenBalanceEntry) :
      (entries.map Link.closed).filterMap Link.post? = [] := by
    simp [List.filterMap_eq_nil_iff, Link.post?]
  rw [linksEq, List.filterMap_append, closedPost, List.append_nil, progress.usesPost]

/-- Linked entries are of one account, and all that are when no account is
reported twice on a side. -/
theorem both_mem_links (pre post : List TokenBalanceEntry) :
    (∀ q p, .both q p ∈ links pre post → SameAccount q p) ∧
      ((pre.map TokenBalanceEntry.accountIndex).Nodup →
        (post.map TokenBalanceEntry.accountIndex).Nodup →
          ∀ q ∈ pre, ∀ p ∈ post, .both q p ∈ links pre post ↔ SameAccount q p) := by
  obtain ⟨state, progress, linksEq⟩ := links_eq pre post
  have isScanned : ∀ q p, .both q p ∈ links pre post ↔ .both q p ∈ state.out := by
    intro q p
    simp [linksEq]
  refine ⟨fun q p isLink => progress.agrees q p ((isScanned q p).mp isLink),
    fun uniquePre uniquePost q isPre p isPost => ?_⟩
  rw [isScanned]
  exact ⟨progress.agrees q p, progress.pairs uniquePre uniquePost q isPre p isPost⟩

theorem netDelta_pair (pre post : List TokenBalanceEntry) (owner mint : Pubkey) :
    netDelta owner mint (TokenBalanceChange.pair pre post) =
      held owner mint post - held owner mint pre := by
  rw [pair_eq_map, netDelta_map_change (both_mem_links pre post).1,
    usesPost_links, held_perm (usesPre_links pre post)]

/-- Pairing uses every entry once, pairs entries of one account only, and keeps
every owner's holdings. -/
structure ConservesHoldings (pre post : List TokenBalanceEntry) : Prop where
  output : TokenBalanceChange.pair pre post = (links pre post).map Link.change
  usesPre : ((links pre post).filterMap Link.pre?).Perm pre
  usesPost : ((links pre post).filterMap Link.post?).Perm post
  agrees : ∀ q p, .both q p ∈ links pre post → SameAccount q p
  deltas : ∀ owner mint, netDelta owner mint (TokenBalanceChange.pair pre post) =
    held owner mint post - held owner mint pre
  paired_iff : (pre.map TokenBalanceEntry.accountIndex).Nodup →
    (post.map TokenBalanceEntry.accountIndex).Nodup →
    ∀ q ∈ pre, ∀ p ∈ post, .both q p ∈ links pre post ↔ SameAccount q p

theorem pair_conservesHoldings (pre post : List TokenBalanceEntry) :
    ConservesHoldings pre post where
  output := pair_eq_map pre post
  usesPre := usesPre_links pre post
  usesPost := List.Perm.of_eq (usesPost_links pre post)
  agrees := (both_mem_links pre post).1
  deltas := netDelta_pair pre post
  paired_iff := (both_mem_links pre post).2

end Conservation

end Chain

end SolanaProtocols
