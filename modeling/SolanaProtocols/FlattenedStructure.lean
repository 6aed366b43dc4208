import SolanaProtocols.InstructionFlatten
import SolanaProtocols.NearestBelow

/-!
# What flattening keeps

One instruction comes out for each raw one, and its parent is the last earlier
instruction of a lower stack height.  Accounts keep their positions only as far
as the indices before them resolve, since an index that does not resolve is left
out.
-/

namespace SolanaProtocols

namespace Parsing

open NearestBelow

section LeftOut

variable {α β : Type} {resolve : α → Option β} {items : List α}

/-- What the item at a position resolves to. -/
def resolvedAt (resolve : α → Option β) (items : List α) (position : Nat) :
    Option β :=
  items[position]?.bind resolve

/-- No item that does not resolve stands before one that does. -/
def ResolvesInFront (resolve : α → Option β) (items : List α) : Prop :=
  ∀ earlier later, earlier < later → (resolvedAt resolve items later).isSome →
    (resolvedAt resolve items earlier).isSome

/-- What resolves is at its own position. -/
def KeepsPositions (resolve : α → Option β) (items : List α) : Prop :=
  ∀ position value, resolvedAt resolve items position = some value →
    (items.filterMap resolve)[position]? = some value

theorem resolvesInFront_cons {item : α} :
    ResolvesInFront resolve (item :: items) ↔
      ResolvesInFront resolve items ∧
        (resolve item = none → ∀ position, resolvedAt resolve items position = none) := by
  constructor
  · intro front
    refine ⟨fun earlier later before => front (earlier + 1) (later + 1)
      (Nat.succ_lt_succ before), fun unresolved position => ?_⟩
    by_contra resolves
    have first := front 0 (position + 1) (Nat.succ_pos position)
      (Option.isSome_iff_ne_none.mpr resolves)
    rw [resolvedAt, List.getElem?_cons_zero, Option.bind_some, unresolved] at first
    cases first
  · rintro ⟨front, blocked⟩ earlier later before isSome
    cases later with
    | zero => exact absurd before (Nat.not_lt_zero earlier)
    | succ later =>
        cases earlier with
        | succ earlier => exact front earlier later (Nat.lt_of_succ_lt_succ before) isSome
        | zero =>
            refine Option.isSome_iff_ne_none.mpr fun unresolved => ?_
            have nothing := blocked unresolved later
            change (resolvedAt resolve items later).isSome at isSome
            rw [nothing] at isSome
            cases isSome

theorem keepsPositions_cons_of_some {item : α} {value : β}
    (resolves : resolve item = some value) :
    KeepsPositions resolve (item :: items) ↔ KeepsPositions resolve items := by
  rw [KeepsPositions, List.filterMap_cons_some resolves]
  constructor
  · exact fun keeps position => keeps (position + 1)
  · intro keeps position found here
    cases position with
    | zero => exact resolves.symm.trans here
    | succ position => exact keeps position found here

/-- What resolves ends at the last position that does, or before it. -/
theorem exists_last_of_filterMap (nonempty : items.filterMap resolve ≠ []) :
    ∃ last value, resolvedAt resolve items last = some value ∧
      (items.filterMap resolve).length ≤ last + 1 := by
  induction items using List.reverseRecOn with
  | nil => exact absurd rfl nonempty
  | append_singleton items item ih =>
      cases itemEq : resolve item with
      | none =>
          have dropped : (items ++ [item]).filterMap resolve =
              items.filterMap resolve := by
            rw [List.filterMap_append, List.filterMap_cons_none itemEq,
              List.filterMap_nil, List.append_nil]
          rw [dropped] at nonempty ⊢
          obtain ⟨last, value, here, le⟩ := ih nonempty
          refine ⟨last, value, ?_, le⟩
          have inside : last < items.length := by
            by_contra outside
            rw [resolvedAt, List.getElem?_eq_none (not_lt.mp outside)] at here
            cases here
          rwa [resolvedAt, List.getElem?_append_left inside]
      | some value =>
          refine ⟨items.length, value, ?_, ?_⟩
          · rw [resolvedAt, List.getElem?_append_right le_rfl, Nat.sub_self]
            exact itemEq
          · rw [List.filterMap_append, List.length_append]
            have front := List.length_filterMap_le resolve items
            have back := List.length_filterMap_le resolve [item]
            simp only [List.length_singleton] at back
            omega

theorem not_keepsPositions_of_none {item : α} (unresolved : resolve item = none)
    {position : Nat} (resolves : resolvedAt resolve items position ≠ none) :
    ¬ KeepsPositions resolve (item :: items) := by
  intro keeps
  rw [KeepsPositions, List.filterMap_cons_none unresolved] at keeps
  have nonempty : items.filterMap resolve ≠ [] := by
    intro empty
    obtain ⟨value, valueEq⟩ := Option.ne_none_iff_exists'.mp resolves
    obtain ⟨item, itemEq, resolveEq⟩ := Option.bind_eq_some_iff.mp valueEq
    have none := List.filterMap_eq_nil_iff.mp empty item (List.mem_of_getElem? itemEq)
    rw [resolveEq] at none
    cases none
  obtain ⟨last, value, here, le⟩ := exists_last_of_filterMap nonempty
  have found := keeps (last + 1) value here
  rw [List.getElem?_eq_none le] at found
  cases found

theorem keepsPositions_iff : KeepsPositions resolve items ↔ ResolvesInFront resolve items := by
  induction items with
  | nil =>
      refine iff_of_true ?_ ?_
      · rintro position value ⟨⟩
      · rintro earlier later - ⟨⟩
  | cons item items ih =>
      cases itemEq : resolve item with
      | some value =>
          rw [keepsPositions_cons_of_some itemEq, resolvesInFront_cons, ih]
          refine (and_iff_left ?_).symm
          rw [itemEq]
          exact nofun
      | none =>
          by_cases nothing : ∀ position, resolvedAt resolve items position = none
          · refine iff_of_true ?_ (resolvesInFront_cons.mpr ⟨?_, fun _ => nothing⟩)
            · intro position value here
              cases position with
              | zero => exact absurd (itemEq.symm.trans here) nofun
              | succ position => exact absurd ((nothing position).symm.trans here) nofun
            · intro earlier later before isSome
              rw [nothing later] at isSome
              cases isSome
          · obtain ⟨position, resolves⟩ := not_forall.mp nothing
            refine iff_of_false (not_keepsPositions_of_none itemEq resolves) ?_
            exact fun front => nothing ((resolvesInFront_cons.mp front).2 itemEq)

end LeftOut

section Flattened

variable {accountKeys : List Pubkey} {raws : List RawInstruction}
  {entries : List LogEntry}

/-- The stack height of the instruction at a position. -/
def heightAt (raws : List RawInstruction) (position : Nat) : Nat :=
  (raws[position]?.map RawInstruction.height).getD 0

/-- The account key of an index. -/
def keyAt (accountKeys : List Pubkey) (index : UInt8) : Option Pubkey :=
  accountKeys[index.toNat]?

/-- The instruction is the raw one, its parent is the last earlier instruction
that is lower, and its accounts are those of the indices that resolve. -/
structure Mirrored (accountKeys : List Pubkey) (raws : List RawInstruction)
    (index : Nat) (raw : RawInstruction) (ix : ParsedInstruction) : Prop where
  programId : ix.programId = (keyAt accountKeys raw.programIdIdx).getD 0
  accounts : ix.accounts = raw.accountIndices.filterMap (keyAt accountKeys)
  data : ix.data = raw.data
  stackHeight : ix.stackHeight = raw.height
  instructionIndex : ix.instructionIndex = index
  parent : ix.parentIndex = nearest (heightAt raws) raw.height index

theorem resolveFrom_mirrored {before rest : List RawInstruction} {index : Nat}
    {stack : HeightStack} {raw : RawInstruction} {ix : ParsedInstruction}
    (all : raws = before ++ rest)
    (mirrors : Mirrors (heightAt raws) before.length stack)
    (rawHere : rest[index]? = some raw)
    (here : (resolveFrom accountKeys before.length stack rest)[index]? = some ix) :
    Mirrored accountKeys raws (before.length + index) raw ix := by
  induction rest generalizing before index stack with
  | nil => cases rawHere
  | cons first rest ih =>
      cases index with
      | zero =>
          cases rawHere
          cases here
          exact ⟨rfl, rfl, rfl, rfl, rfl, mirrors.top⟩
      | succ index =>
          have firstHeight : heightAt raws before.length = first.height := by
            rw [heightAt, all, List.getElem?_append_right le_rfl, Nat.sub_self]
            rfl
          have pushed := mirrors.push
          rw [firstHeight] at pushed
          have counted : (before ++ [first]).length = before.length + 1 :=
            List.length_append
          have mirrored := @ih (before ++ [first]) index
            ((before.length, first.height) :: stack.popTo first.height)
            (by rw [all, List.append_assoc]; rfl) (by rw [counted]; exact pushed)
            rawHere (by rw [counted]; exact here)
          rw [counted, Nat.add_right_comm, Nat.add_assoc] at mirrored
          exact mirrored

theorem parseInstructions_mirrored {index : Nat} {raw : RawInstruction}
    {ix : ParsedInstruction} (rawHere : raws[index]? = some raw)
    (here : (parseInstructions accountKeys raws entries)[index]? = some ix) :
    Mirrored accountKeys raws index raw ix := by
  rw [parseInstructions_eq, List.getElem?_mapIdx] at here
  obtain ⟨bare, bareHere, rfl⟩ := Option.map_eq_some_iff.mp here
  have mirrored := @resolveFrom_mirrored accountKeys raws [] raws index [] raw bare
    rfl Mirrors.empty rawHere bareHere
  rw [List.length_nil, Nat.zero_add] at mirrored
  exact ⟨mirrored.programId, mirrored.accounts, mirrored.data, mirrored.stackHeight,
    mirrored.instructionIndex, mirrored.parent⟩

/-- One instruction for each raw one in order, with the parent that the stack
heights give and every account that resolves at its own position. -/
structure KeepsStructure (accountKeys : List Pubkey) (raws : List RawInstruction)
    (all : List ParsedInstruction) : Prop where
  length : all.length = raws.length
  data : ∀ (index : Nat) (raw : RawInstruction) (ix : ParsedInstruction),
    raws[index]? = some raw → all[index]? = some ix →
      ix.instructionIndex = index ∧ ix.data = raw.data ∧ ix.stackHeight = raw.height
  parent : ∀ (index parent : Nat) (raw : RawInstruction) (ix : ParsedInstruction),
    raws[index]? = some raw → all[index]? = some ix →
      (ix.parentIndex = some parent ↔ IsGreatest
        {earlier | earlier < index ∧ heightAt raws earlier < raw.height} parent)
  orphan : ∀ (index : Nat) (raw : RawInstruction) (ix : ParsedInstruction),
    raws[index]? = some raw → all[index]? = some ix →
      (ix.parentIndex = none ↔ ∀ earlier < index, raw.height ≤ heightAt raws earlier)
  accounts : ∀ (index position : Nat) (raw : RawInstruction) (ix : ParsedInstruction)
    (account : UInt8) (key : Pubkey), raws[index]? = some raw → all[index]? = some ix →
      raw.accountIndices[position]? = some account → keyAt accountKeys account = some key →
        ix.accounts[position]? = some key

/-- Flattening keeps everything exactly where no account index that does not
resolve stands before one that does. -/
theorem parseInstructions_keepsStructure_iff (accountKeys : List Pubkey)
    (raws : List RawInstruction) (entries : List LogEntry) :
    KeepsStructure accountKeys raws (parseInstructions accountKeys raws entries) ↔
      ∀ raw ∈ raws, ResolvesInFront (keyAt accountKeys) raw.accountIndices := by
  constructor
  · intro keeps raw member
    obtain ⟨index, inside, rfl⟩ := List.getElem_of_mem member
    have insideAll : index < (parseInstructions accountKeys raws entries).length := by
      rwa [keeps.length]
    have rawHere := List.getElem?_eq_getElem inside
    have here := List.getElem?_eq_getElem insideAll
    refine keepsPositions_iff.mp fun position key found => ?_
    obtain ⟨account, accountHere, resolves⟩ := Option.bind_eq_some_iff.mp found
    rw [← (parseInstructions_mirrored rawHere here).accounts]
    exact keeps.accounts index position _ _ account key rawHere here accountHere resolves
  · intro front
    refine ⟨length_parseInstructions, ?_, ?_, ?_, ?_⟩
    · intro index raw ix rawHere here
      have mirrored := parseInstructions_mirrored rawHere here
      exact ⟨mirrored.instructionIndex, mirrored.data, mirrored.stackHeight⟩
    · intro index parent raw ix rawHere here
      rw [(parseInstructions_mirrored rawHere here).parent]
      exact nearest_eq_some_iff
    · intro index raw ix rawHere here
      rw [(parseInstructions_mirrored rawHere here).parent]
      exact nearest_eq_none_iff
    · intro index position raw ix account key rawHere here accountHere resolves
      rw [(parseInstructions_mirrored rawHere here).accounts]
      refine keepsPositions_iff.mpr (front raw (List.mem_of_getElem? rawHere))
        position key ?_
      rw [resolvedAt, accountHere]
      exact resolves

/-- With the indices 9 and 0 over one key, the account of position 1 is missing
and stands at position 0. -/
theorem unresolved_index_shifts :
    ((parseInstructions [7] [⟨0, [9, 0], [], none⟩] []).map
        ParsedInstruction.accounts = [[7]]) ∧
      ¬ KeepsStructure [7] [⟨0, [9, 0], [], none⟩]
        (parseInstructions [7] [⟨0, [9, 0], [], none⟩] []) := by
  refine ⟨rfl, fun keeps => ?_⟩
  have kept := keeps.accounts 0 1 ⟨0, [9, 0], [], none⟩ _ 0 7 rfl rfl rfl rfl
  cases kept

end Flattened

end Parsing

end SolanaProtocols
