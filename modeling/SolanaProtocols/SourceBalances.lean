import Mathlib.Algebra.BigOperators.Ring.Finset
import SolanaProtocols.Grouping
import SolanaProtocols.TokenBalances

/-!
# Balance changes of a transaction source

A transaction source reports token balances before and after the transaction and
derives the changes of each owner from them.  Every balance after it is compared
with the amount that a map has for its owner and mint.  The map has the last
balance before it only, and an account that has no balance after it makes no
change, so the changes of an owner add up to the change of the holdings only
where the last balance stands for all of them.
-/

namespace SolanaProtocols

namespace Parsing

open Grouping

/-- Token balance information. -/
structure TokenBalanceChange where
  owner : Pubkey
  mint : Pubkey
  amount : UInt64
  decimals : UInt8
  preAmount : Option UInt64
deriving DecidableEq

/-- The balance change.  `none` means the balance before is not known. -/
def TokenBalanceChange.change (balance : TokenBalanceChange) : Option Int :=
  balance.preAmount.map fun pre => balance.amount.toNat - pre.toNat

/-- Why a source has no answer. -/
inductive SourceError
  | missingMeta
  | invalidSignature (reason : String)
  | invalidPubkey (context value : String)
  | invalidAmount (context value : String)
  | unsupportedFormat (reason : String)
  | decodeError (reason : String)
  | transactionFailed (reason : String)
deriving DecidableEq

/-- What a transaction source reports of token balances. -/
structure TransactionSource where
  preTokenBalances : Except SourceError (List TokenBalanceChange)
  postTokenBalances : Except SourceError (List TokenBalanceChange)

/-- The amounts before the transaction, by owner and mint. -/
def preMap (pre : List TokenBalanceChange) : Pubkey × Pubkey → Option UInt64 :=
  pre.foldl (fun amounts balance =>
    Function.update amounts (balance.owner, balance.mint) (some balance.amount))
    fun _ => none

/-- The token balance changes grouped by owner. -/
def TransactionSource.tokenBalanceChanges (source : TransactionSource) :
    Except SourceError (Groups Pubkey TokenBalanceChange) := do
  let pre ← source.preTokenBalances
  let post ← source.postTokenBalances
  return post.foldl (fun changes balance =>
    let preAmount := (preMap pre (balance.owner, balance.mint)).getD 0
    push changes balance.owner
      { owner := balance.owner
        mint := balance.mint
        amount := balance.amount
        decimals := balance.decimals
        preAmount := some preAmount }) ∅

section Holdings

variable {pre post : List TokenBalanceChange} {owner mint : Pubkey}

/-- The balances of an owner in a mint. -/
def balancesOf (owner mint : Pubkey) (balances : List TokenBalanceChange) :
    List TokenBalanceChange :=
  balances.filter fun balance => balance.owner = owner ∧ balance.mint = mint

/-- The holdings of an owner in a mint. -/
def holdings (owner mint : Pubkey) (balances : List TokenBalanceChange) : Nat :=
  ((balancesOf owner mint balances).map fun balance => balance.amount.toNat).sum

/-- The sum of the changes of an owner in a mint. -/
def netChange (owner mint : Pubkey) (changes : List TokenBalanceChange) : Int :=
  ((balancesOf owner mint changes).filterMap TokenBalanceChange.change).sum

/-- The amount of the last balance of an owner in a mint. -/
def lastAmount (owner mint : Pubkey) (balances : List TokenBalanceChange) : UInt64 :=
  ((balancesOf owner mint balances).getLast?.map TokenBalanceChange.amount).getD 0

/-- The change that a balance makes. -/
def changeFrom (pre : List TokenBalanceChange) (balance : TokenBalanceChange) :
    TokenBalanceChange :=
  { balance with preAmount := some (lastAmount balance.owner balance.mint pre) }

theorem balancesOf_append (first second : List TokenBalanceChange) :
    balancesOf owner mint (first ++ second) =
      balancesOf owner mint first ++ balancesOf owner mint second :=
  List.filter_append ..

theorem preMap_eq : preMap pre (owner, mint) =
    (balancesOf owner mint pre).getLast?.map TokenBalanceChange.amount := by
  induction pre using List.reverseRecOn with
  | nil => rfl
  | append_singleton pre balance ih =>
      rw [preMap, List.foldl_append, List.foldl_cons, List.foldl_nil, ← preMap,
        balancesOf_append]
      by_cases mine : balance.owner = owner ∧ balance.mint = mint
      · obtain ⟨rfl, rfl⟩ := mine
        have last : balancesOf balance.owner balance.mint [balance] = [balance] :=
          List.filter_cons_of_pos (by simp)
        rw [Function.update_self, last, List.getLast?_concat, Option.map_some]
      · have none : balancesOf owner mint [balance] = [] :=
          List.filter_cons_of_neg (by simpa using mine)
        have other : (owner, mint) ≠ (balance.owner, balance.mint) := fun same =>
          mine ⟨(congrArg Prod.fst same).symm, (congrArg Prod.snd same).symm⟩
        rw [Function.update_of_ne other, ih, none, List.append_nil]

theorem tokenBalanceChanges_eq :
    (TransactionSource.mk (.ok pre) (.ok post)).tokenBalanceChanges =
      .ok (group TokenBalanceChange.owner (post.map (changeFrom pre))) := by
  rw [group, List.foldl_map]
  simp only [changeFrom, lastAmount, ← preMap_eq]
  rfl

theorem sum_change_map_changeFrom {balances : List TokenBalanceChange}
    (own : ∀ balance ∈ balances, balance.owner = owner ∧ balance.mint = mint) :
    ((balances.map (changeFrom pre)).filterMap TokenBalanceChange.change).sum =
      ((balances.map fun balance => balance.amount.toNat).sum : Nat) -
        balances.length * ((lastAmount owner mint pre).toNat : Int) := by
  induction balances with
  | nil => simp
  | cons balance balances ih =>
      obtain ⟨ownerEq, mintEq⟩ := own balance List.mem_cons_self
      have here : (changeFrom pre balance).change =
          some ((balance.amount.toNat : Int) - (lastAmount owner mint pre).toNat) := by
        rw [← ownerEq, ← mintEq]
        rfl
      rw [List.map_cons, List.filterMap_cons_some here, List.sum_cons,
        ih fun other member => own other (List.mem_cons_of_mem _ member),
        List.map_cons, List.sum_cons, List.length_cons, Nat.cast_add, Nat.cast_succ,
        add_mul, one_mul]
      omega

theorem netChange_map_changeFrom :
    netChange owner mint (post.map (changeFrom pre)) =
      holdings owner mint post -
        (balancesOf owner mint post).length * (lastAmount owner mint pre).toNat := by
  have mine : balancesOf owner mint (post.map (changeFrom pre)) =
      (balancesOf owner mint post).map (changeFrom pre) := List.filter_map
  rw [netChange, mine, holdings]
  refine sum_change_map_changeFrom fun balance member => ?_
  simpa using (List.mem_filter.mp member).2

theorem netChange_perm {changes changes' : List TokenBalanceChange}
    (perm : changes.Perm changes') :
    netChange owner mint changes = netChange owner mint changes' :=
  ((perm.filter _).filterMap _).sum_eq

/-- The changes are known, are grouped by owner and add up to the change of every
owner's holdings in every mint. -/
structure KeepsHoldings (pre post : List TokenBalanceChange)
    (changes : Groups Pubkey TokenBalanceChange) : Prop where
  known : ∀ entry ∈ values changes, ∃ change, entry.change = some change
  grouped : ∀ owner, ∀ entry ∈ under changes owner, entry.owner = owner
  sums : ∀ owner mint, netChange owner mint (values changes) =
    holdings owner mint post - holdings owner mint pre

/-- For every owner and mint, the last balance before the transaction, once for
each balance after it, makes up all balances before it. -/
def LastStandsForAll (pre post : List TokenBalanceChange) : Prop :=
  ∀ owner mint, (balancesOf owner mint post).length * (lastAmount owner mint pre).toNat =
    holdings owner mint pre

/-- The balance that a source reports for an entry of the metadata. -/
def reported (entry : Chain.TokenBalanceEntry) : TokenBalanceChange where
  owner := entry.owner
  mint := entry.mint
  amount := entry.raw
  decimals := entry.decimals
  preAmount := none

theorem held_eq_holdings (entries : List Chain.TokenBalanceEntry) :
    Chain.held owner mint entries = holdings owner mint (entries.map reported) := by
  have mine : balancesOf owner mint (entries.map reported) =
      (entries.filter fun entry => entry.owner = owner ∧ entry.mint = mint).map
        reported := List.filter_map
  rw [holdings, mine, List.map_map, Chain.held, Nat.cast_list_sum, List.map_map]
  rfl

theorem netChange_values_group (owner mint : Pubkey) :
    netChange owner mint
        (values (group TokenBalanceChange.owner (post.map (changeFrom pre)))) =
      holdings owner mint post -
        (balancesOf owner mint post).length * (lastAmount owner mint pre).toNat :=
  (netChange_perm values_group_perm).trans netChange_map_changeFrom

/-- Every entry is known and under its owner, so only the sums can fail. -/
theorem keepsHoldings_group_iff :
    KeepsHoldings pre post
        (group TokenBalanceChange.owner (post.map (changeFrom pre))) ↔
      LastStandsForAll pre post := by
  constructor
  · intro keeps owner mint
    have same := (netChange_values_group owner mint).symm.trans (keeps.sums owner mint)
    exact_mod_cast sub_right_injective same
  · intro stands
    constructor
    · intro entry member
      obtain ⟨balance, -, rfl⟩ := List.mem_map.mp (values_group_perm.mem_iff.mp member)
      exact ⟨_, rfl⟩
    · intro owner entry member
      rw [under_group] at member
      simpa using (List.mem_filter.mp member).2
    · intro owner mint
      rw [netChange_values_group, ← stands owner mint]
      push_cast
      rfl

/-- The changes of a source keep the holdings exactly where the last balance
stands for all; those of the paired entries always do. -/
theorem tokenBalanceChanges_keepsHoldings_iff (pre post : List TokenBalanceChange) :
    (∃ changes, (TransactionSource.mk (.ok pre) (.ok post)).tokenBalanceChanges =
        .ok changes ∧
      (KeepsHoldings pre post changes ↔ LastStandsForAll pre post)) ∧
    ∀ (preEntries postEntries : List Chain.TokenBalanceEntry) (owner mint : Pubkey),
      Chain.netDelta owner mint (Chain.TokenBalanceChange.pair preEntries postEntries) =
        holdings owner mint (postEntries.map reported) -
          holdings owner mint (preEntries.map reported) := by
  constructor
  · exact ⟨_, tokenBalanceChanges_eq, keepsHoldings_group_iff⟩
  · intro preEntries postEntries owner mint
    rw [Chain.netDelta_pair, held_eq_holdings, held_eq_holdings]

/-- A wallet that had a hundred tokens. -/
def closedBalance : TokenBalanceChange :=
  { owner := 1, mint := 2, amount := 100, decimals := 6, preAmount := none }

/-- Closing the account that held them is no change. -/
theorem closedBalance_unseen :
    ∃ changes, (TransactionSource.mk (.ok [closedBalance]) (.ok [])).tokenBalanceChanges =
        .ok changes ∧ ¬ KeepsHoldings [closedBalance] [] changes := by
  refine ⟨∅, rfl, fun keeps => ?_⟩
  have sums := keeps.sums 1 2
  revert sums
  decide

end Holdings

end Parsing

end SolanaProtocols
