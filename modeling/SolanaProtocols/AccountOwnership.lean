import SolanaProtocols.AccountLayout

/-!
# Account lists are parsed without loss

Every position of a key list belongs to one field: a declared or conditional
slot owns its index, a resolved slot the first copy of its address that is
left, and the remaining list owns the rest.  What the parser reads is what the
fields own, and the accounts built from it are the keys that were parsed.
-/

namespace SolanaProtocols

namespace Parsing

open KeyClaims

/-- A field of an accounts struct. -/
inductive AccountField
  | declared (idx : Nat)
  | appended (idx : Nat)
  | remaining
deriving DecidableEq, Repr

/-- Keys and the fields that own them. -/
abbrev Entries := List (Pubkey × Option AccountField)

/-- Consecutive fields own a position each. -/
def ownPositions (field : Nat → AccountField) :
    Nat → Nat → List Pubkey → Entries
  | _, 0, keys => keys.map fun key => (key, none)
  | _, _ + 1, [] => []
  | idx, count + 1, key :: keys =>
      (key, some (field idx)) :: ownPositions field (idx + 1) count keys

/-- Each resolved slot owns the first copy of its address that is left. -/
def ownResolved (declared : List (Option Pubkey)) :
    List ResolvedSlot → Nat → List Conditional → Entries → Entries
  | [], _, _, entries => entries
  | slot :: slots, idx, earlier, entries =>
      let want := slot.derive declared earlier
      if want ∈ unclaimed entries then
        ownResolved declared slots (idx + 1) (earlier ++ [.present want])
          (claim want (.appended idx) entries)
      else ownResolved declared slots (idx + 1) (earlier ++ [.absent]) entries

namespace AccountLayout

variable (layout : AccountLayout)

/-- The owners of the keys past the declared list, but for the remaining
list. -/
def ownAppended (keys : List Pubkey) : Entries :=
  match layout.appended with
  | .conditional names =>
      ownPositions .appended 0 names.length (keys.drop layout.declared.length)
  | .resolved slots =>
      ownResolved (layout.declaredValues keys) slots 0 []
        ((keys.drop layout.declared.length).map fun key => (key, none))

/-- The owners of the keys past the declared list. -/
def ownPastDeclared (keys : List Pubkey) : Entries :=
  match layout.remaining with
  | some _ => claimRest .remaining (layout.ownAppended keys)
  | none => layout.ownAppended keys

/-- Every key and the field that owns it. -/
def owners (keys : List Pubkey) : Entries :=
  ownPositions .declared 0 layout.declared.length
    (keys.take layout.declared.length) ++ layout.ownPastDeclared keys

end AccountLayout

/-- The keys that a field holds. -/
def Accounts.fieldKeys {layout : AccountLayout} (accounts : Accounts layout) :
    AccountField → List Pubkey
  | .declared idx =>
      (accounts.fields.declared[idx]?).toList.map (·.getD layout.programId)
  | .appended idx => (accounts.fields.appended[idx]?).toList.flatMap Conditional.keys
  | .remaining => accounts.fields.rest

section Positions

variable {field : Nat → AccountField}

theorem map_fst_ownPositions (idx count : Nat) (keys : List Pubkey) :
    (ownPositions field idx count keys).map Prod.fst = keys := by
  induction keys generalizing idx count with
  | nil => cases count <;> rfl
  | cons key keys ih =>
      cases count with
      | zero => simp [ownPositions, Function.comp_def]
      | succ count => simp [ownPositions, ih]

theorem unclaimed_ownPositions (idx count : Nat) (keys : List Pubkey) :
    unclaimed (ownPositions field idx count keys) = keys.drop count := by
  induction keys generalizing idx count with
  | nil => cases count <;> rfl
  | cons key keys ih =>
      cases count with
      | zero =>
          rw [ownPositions, unclaimed_map_none]
          rfl
      | succ count => simp [ownPositions, ih]

theorem claimedBy_ownPositions_other {other : AccountField} {idx : Nat}
    (others : ∀ later, idx ≤ later → field later ≠ other) (count : Nat)
    (keys : List Pubkey) :
    claimedBy other (ownPositions field idx count keys) = [] := by
  induction keys generalizing idx count with
  | nil => cases count <;> simp [ownPositions]
  | cons key keys ih =>
      cases count with
      | zero => simp [ownPositions, claimedBy]
      | succ count =>
          have rest := ih (fun later (from' : idx + 1 ≤ later) =>
            others later (by omega)) count
          simp [ownPositions, rest, others idx (Nat.le_refl idx)]

/-- Each position belongs to its field. -/
theorem claimedBy_ownPositions (injective : Function.Injective field)
    (idx count offset : Nat) (keys : List Pubkey) :
    claimedBy (field (idx + offset)) (ownPositions field idx count keys) =
      ((keys.take count)[offset]?).toList := by
  induction keys generalizing idx count offset with
  | nil => cases count <;> simp [ownPositions]
  | cons key keys ih =>
      cases count with
      | zero => simp [ownPositions, claimedBy]
      | succ count =>
          cases offset with
          | zero =>
              have others := claimedBy_ownPositions_other
                (fun later from' same => by
                  have := injective same
                  omega : ∀ later, idx + 1 ≤ later → field later ≠ field idx)
                count keys
              simp [ownPositions, others]
          | succ offset =>
              have later := ih (idx + 1) count offset
              rw [show idx + 1 + offset = idx + (offset + 1) by omega] at later
              simp [ownPositions, later, injective.eq_iff]

end Positions

/-- Conditionals take the first keys, and all of them are there if any key is
left. -/
theorem readConditionals_spec (names : List String) (cursor : List Pubkey) :
    (AccountLayout.readConditionals names cursor).1.flatMap Conditional.keys =
        cursor.take names.length ∧
      (AccountLayout.readConditionals names cursor).2 = cursor.drop names.length := by
  induction names generalizing cursor with
  | nil => simp [AccountLayout.readConditionals]
  | cons name names ih =>
      cases cursor with
      | nil =>
          have rest := ih []
          simp [AccountLayout.readConditionals, Conditional.keys] at rest ⊢
          exact rest.1
      | cons key cursor =>
          obtain ⟨found, left⟩ := ih cursor
          simp [AccountLayout.readConditionals, Conditional.keys, found, left]

theorem readConditionals_getElem? (names : List String) (cursor : List Pubkey)
    (idx : Nat) :
    ((AccountLayout.readConditionals names cursor).1[idx]?).toList.flatMap
        Conditional.keys =
      ((cursor.take names.length)[idx]?).toList := by
  induction names generalizing cursor idx with
  | nil => simp [AccountLayout.readConditionals]
  | cons name names ih =>
      cases cursor with
      | nil =>
          cases idx with
          | zero => simp [AccountLayout.readConditionals, Conditional.keys]
          | succ idx => simpa [AccountLayout.readConditionals] using ih [] idx
      | cons key cursor =>
          cases idx with
          | zero => simp [AccountLayout.readConditionals, Conditional.keys]
          | succ idx => simpa [AccountLayout.readConditionals] using ih cursor idx

section Resolved

variable {declared : List (Option Pubkey)}

theorem perm_resolve (slots : List ResolvedSlot) (earlier : List Conditional)
    (tail : List Pubkey) :
    ((AccountLayout.resolve declared slots earlier tail).1.flatMap
        Conditional.keys ++
      (AccountLayout.resolve declared slots earlier tail).2).Perm tail := by
  induction slots generalizing earlier tail with
  | nil => exact .refl _
  | cons slot slots ih =>
      simp only [AccountLayout.resolve]
      split
      next found =>
        exact ((ih _ _).cons _).trans (List.perm_cons_erase found).symm
      next => exact ih _ _

theorem resolve_again (slots : List ResolvedSlot) (earlier : List Conditional)
    (tail : List Pubkey) :
    AccountLayout.resolve declared slots earlier
        ((AccountLayout.resolve declared slots earlier tail).1.flatMap
            Conditional.keys ++
          (AccountLayout.resolve declared slots earlier tail).2) =
      AccountLayout.resolve declared slots earlier tail := by
  induction slots generalizing earlier tail with
  | nil => rfl
  | cons slot slots ih =>
      by_cases found : slot.derive declared earlier ∈ tail
      · simp [AccountLayout.resolve, found, Conditional.keys, ih]
      · have absent := found
        rw [← (@perm_resolve declared slots (earlier ++ [.absent])
          tail).mem_iff] at absent
        simp only [AccountLayout.resolve, found, if_false, List.flatMap_cons,
          Conditional.keys, List.nil_append, absent, ih]

theorem map_fst_ownResolved (slots : List ResolvedSlot) (idx : Nat)
    (earlier : List Conditional) (entries : Entries) :
    (ownResolved declared slots idx earlier entries).map Prod.fst =
      entries.map Prod.fst := by
  induction slots generalizing idx earlier entries with
  | nil => rfl
  | cons slot slots ih =>
      simp only [ownResolved]
      split
      · rw [ih, map_fst_claim]
      · exact ih _ _ _

theorem unclaimed_ownResolved (slots : List ResolvedSlot) (idx : Nat)
    (earlier : List Conditional) (entries : Entries) :
    unclaimed (ownResolved declared slots idx earlier entries) =
      (AccountLayout.resolve declared slots earlier (unclaimed entries)).2 := by
  induction slots generalizing idx earlier entries with
  | nil => rfl
  | cons slot slots ih =>
      simp only [ownResolved, AccountLayout.resolve]
      split
      · rw [ih, unclaimed_claim]
      · exact ih _ _ _

theorem claimedBy_ownResolved_other {other : AccountField} {idx : Nat}
    (others : ∀ later, idx ≤ later → AccountField.appended later ≠ other)
    (slots : List ResolvedSlot) (earlier : List Conditional) (entries : Entries) :
    claimedBy other (ownResolved declared slots idx earlier entries) =
      claimedBy other entries := by
  induction slots generalizing idx earlier entries with
  | nil => rfl
  | cons slot slots ih =>
      have rest := fun later (from' : idx + 1 ≤ later) => others later (by omega)
      simp only [ownResolved]
      split
      · rw [ih rest, claimedBy_claim_other (others idx (Nat.le_refl idx)).symm]
      · exact ih rest _ _

/-- What a slot owns is what it was resolved to. -/
theorem claimedBy_ownResolved (slots : List ResolvedSlot) (idx offset : Nat)
    (earlier : List Conditional) {entries : Entries}
    (new : ∀ later, idx ≤ later → claimedBy (.appended later) entries = []) :
    claimedBy (.appended (idx + offset))
        (ownResolved declared slots idx earlier entries) =
      ((AccountLayout.resolve declared slots earlier
        (unclaimed entries)).1[offset]?).toList.flatMap Conditional.keys := by
  induction slots generalizing idx offset earlier entries with
  | nil => simpa [ownResolved, AccountLayout.resolve] using new _ (by omega)
  | cons slot slots ih =>
      have behind : ∀ later, idx + 1 ≤ later →
          AccountField.appended later ≠ .appended idx := by
        intro later from' same
        cases same
        omega
      by_cases found : slot.derive declared earlier ∈ unclaimed entries
      · have still : ∀ later, idx + 1 ≤ later → claimedBy (.appended later)
            (claim (slot.derive declared earlier) (.appended idx) entries) = [] := by
          intro later from'
          rw [claimedBy_claim_other (behind later from')]
          exact new later (by omega)
        cases offset with
        | zero =>
            simp only [ownResolved, found, if_true, Nat.add_zero]
            rw [claimedBy_ownResolved_other behind,
              claimedBy_claim_self found (new idx (Nat.le_refl idx))]
            simp [AccountLayout.resolve, found, Conditional.keys]
        | succ offset =>
            have later := ih (idx + 1) offset
              (earlier ++ [.present (slot.derive declared earlier)]) still
            rw [show idx + 1 + offset = idx + (offset + 1) by omega,
              unclaimed_claim] at later
            simpa [ownResolved, AccountLayout.resolve, found] using later
      · cases offset with
        | zero =>
            simp only [ownResolved, found, if_false, Nat.add_zero]
            rw [claimedBy_ownResolved_other behind, new idx (Nat.le_refl idx)]
            simp [AccountLayout.resolve, found, Conditional.keys]
        | succ offset =>
            have later := ih (idx + 1) offset (earlier ++ [.absent])
              fun later from' => new later (by omega)
            rw [show idx + 1 + offset = idx + (offset + 1) by omega] at later
            simpa [ownResolved, AccountLayout.resolve, found] using later

end Resolved

namespace AccountLayout

variable {layout : AccountLayout} {keys : List Pubkey}

theorem map_fst_ownAppended :
    (layout.ownAppended keys).map Prod.fst = keys.drop layout.declared.length := by
  rw [ownAppended]
  cases layout.appended with
  | conditional names => exact map_fst_ownPositions _ _ _
  | resolved slots =>
      simp only [map_fst_ownResolved, List.map_map, Function.comp_def, List.map_id']

theorem unclaimed_ownAppended :
    unclaimed (layout.ownAppended keys) = (layout.appendedValues keys).2 := by
  rw [ownAppended, appendedValues, readAppended]
  cases layout.appended with
  | conditional names =>
      simp only [unclaimed_ownPositions, readConditionals_spec]
  | resolved slots => simp only [unclaimed_ownResolved, unclaimed_map_none]

/-- An appended slot owns the key that it holds. -/
theorem claimedBy_ownAppended (idx : Nat) :
    claimedBy (.appended idx) (layout.ownAppended keys) =
      ((layout.appendedValues keys).1[idx]?).toList.flatMap Conditional.keys := by
  have injective : Function.Injective AccountField.appended := by
    intro first second same
    cases same
    rfl
  rw [ownAppended, appendedValues, readAppended]
  cases layout.appended with
  | conditional names =>
      have owned := claimedBy_ownPositions injective 0 names.length idx
        (keys.drop layout.declared.length)
      rw [Nat.zero_add] at owned
      simp only [owned, readConditionals_getElem?]
  | resolved slots =>
      have owned := @claimedBy_ownResolved (layout.declaredValues keys)
        slots 0 idx [] _ fun later _ => claimedBy_map_none
          (AccountField.appended later) (keys.drop layout.declared.length)
      rw [Nat.zero_add, unclaimed_map_none] at owned
      exact owned

theorem claimedBy_ownAppended_other {other : AccountField}
    (others : ∀ idx, AccountField.appended idx ≠ other) :
    claimedBy other (layout.ownAppended keys) = [] := by
  rw [ownAppended]
  cases layout.appended with
  | conditional names =>
      exact claimedBy_ownPositions_other (fun later _ => others later) _ _
  | resolved slots =>
      exact (claimedBy_ownResolved_other (fun later _ => others later)
        slots [] _).trans (claimedBy_map_none _ _)

theorem perm_appendedValues :
    ((layout.appendedValues keys).1.flatMap Conditional.keys ++
      (layout.appendedValues keys).2).Perm (keys.drop layout.declared.length) := by
  rw [appendedValues, readAppended]
  cases layout.appended with
  | conditional names =>
      simp only [readConditionals_spec, List.take_append_drop]
      exact .refl _
  | resolved slots => exact perm_resolve slots [] _

theorem appendedValues_eq (positional : layout.appended.Positional) :
    (layout.appendedValues keys).1.flatMap Conditional.keys ++
      (layout.appendedValues keys).2 = keys.drop layout.declared.length := by
  rw [appendedValues, readAppended]
  cases kind : layout.appended with
  | conditional names => simp only [readConditionals_spec, List.take_append_drop]
  | resolved slots =>
      rw [kind] at positional
      cases positional
      rfl

theorem declaredValues_getD {slots : List DeclaredSlot}
    (enough : slots.length ≤ keys.length) :
    (List.zipWith layout.declaredValue slots keys).map (·.getD layout.programId) =
      keys.take slots.length := by
  induction slots generalizing keys with
  | nil => rfl
  | cons slot slots ih =>
      cases keys with
      | nil => simp at enough
      | cons key keys =>
          have held : (layout.declaredValue slot key).getD layout.programId = key := by
            rw [declaredValue]
            split
            next absent => exact absent.2.symm
            next => rfl
          simp [held, ih (by simpa using enough : slots.length ≤ keys.length)]

/-- The slots that exist are built from the keys that they hold. -/
theorem map_pubkey_appended (slots : AppendedSlots) {values : List Conditional}
    (complete : values.length = slots.count) :
    (slots.toAccountMetas values).map AccountMeta.pubkey =
      values.flatMap Conditional.keys := by
  cases slots with
  | conditional names =>
      simp [AppendedSlots.toAccountMetas, Function.comp_def]
  | resolved slots =>
      induction slots generalizing values with
      | nil =>
          rw [List.eq_nil_of_length_eq_zero complete]
          rfl
      | cons slot slots ih =>
          cases values with
          | nil => cases complete
          | cons value values =>
              have rest := ih (Nat.succ.inj complete)
              simp only [AppendedSlots.toAccountMetas] at rest ⊢
              simp [rest, Function.comp_def]

theorem map_pubkey_declared (programId : Pubkey) {slots : List DeclaredSlot}
    {values : List (Option Pubkey)} (complete : values.length = slots.length) :
    (List.zipWith (DeclaredSlot.toAccountMeta programId) slots values).map
        AccountMeta.pubkey =
      values.map (·.getD programId) := by
  induction slots generalizing values with
  | nil =>
      rw [List.eq_nil_of_length_eq_zero complete]
      rfl
  | cons slot slots ih =>
      cases values with
      | nil => cases complete
      | cons value values =>
          cases value <;>
            simp [DeclaredSlot.toAccountMeta, ih (Nat.succ.inj complete)]

end AccountLayout

theorem Accounts.map_pubkey {layout : AccountLayout} (accounts : Accounts layout) :
    accounts.toAccountMetas.map AccountMeta.pubkey =
      accounts.fields.declared.map (·.getD layout.programId) ++
        accounts.fields.appended.flatMap Conditional.keys ++
          accounts.fields.rest := by
  have declared := AccountLayout.map_pubkey_declared layout.programId
    accounts.fit.declared.length_eq.symm
  have appended := AccountLayout.map_pubkey_appended layout.appended
    accounts.fit.appended
  simp [toAccountMetas, declared, appended, Function.comp_def]

/-- A parsed prefix of conditionals has no hole. -/
theorem sequenceChecks_readConditionals (names : List String)
    (cursor : List Pubkey) (earlier : List (String × Conditional))
    (filled : cursor ≠ [] → ∀ slot ∈ earlier, slot.2.isPresent = true) :
    sequenceChecks earlier
      (names.zip (AccountLayout.readConditionals names cursor).1) = none := by
  induction names generalizing cursor earlier with
  | nil => rfl
  | cons name names ih =>
      cases cursor with
      | nil =>
          have rest := ih [] (earlier ++ [(name, .absent)]) (fun some => absurd rfl some)
          have noHole : earlier.find? (fun other =>
              Conditional.absent.isPresent && !other.2.isPresent) = none := by
            simp [Conditional.isPresent]
          simp only [AccountLayout.readConditionals, List.zip_cons_cons,
            sequenceChecks, noHole]
          exact rest
      | cons key cursor =>
          have allPresent := filled (List.cons_ne_nil key cursor)
          have rest := ih cursor (earlier ++ [(name, .present key)]) <| by
            intro _ slot member
            rcases List.mem_append.mp member with old | new
            · exact allPresent slot old
            · rw [List.mem_singleton.mp new]
              rfl
          have noHole : earlier.find? (fun other =>
              (Conditional.present key).isPresent && !other.2.isPresent) = none := by
            rw [List.find?_eq_none]
            intro slot member
            simp [allPresent slot member]
          simp only [AccountLayout.readConditionals, List.zip_cons_cons,
            sequenceChecks, noHole]
          exact rest

theorem isPresent_of_left {names : List String} {cursor : List Pubkey}
    (left : cursor.drop names.length ≠ []) :
    ∀ value ∈ (AccountLayout.readConditionals names cursor).1,
      value.isPresent = true := by
  induction names generalizing cursor with
  | nil => simp [AccountLayout.readConditionals]
  | cons name names ih =>
      cases cursor with
      | nil => simp at left
      | cons key cursor =>
          intro value member
          rcases List.mem_cons.mp member with rfl | later
          · rfl
          · exact ih (by simpa using left) value later

namespace AccountLayout

variable {layout : AccountLayout} {keys : List Pubkey} {accounts : Accounts layout}

/-- What was parsed has no hole. -/
theorem tryToAccountMetas_of_fromPubkeys
    (parsed : layout.fromPubkeys keys = .ok accounts) :
    accounts.tryToAccountMetas = .ok accounts.toAccountMetas := by
  obtain ⟨-, fieldsEq, exhausted⟩ :=
    readFields_eq_ok_iff.mp (fromPubkeys_eq_ok_iff.mp parsed)
  rw [Accounts.tryToAccountMetas]
  cases kind : layout.appended with
  | resolved slots => rfl
  | conditional names =>
      have appendedEq : accounts.fields.appended = (readConditionals names
          (keys.drop layout.declared.length)).1 := by
        rw [fieldsEq, appendedValues, readAppended, kind]
      have restEq : accounts.fields.rest =
          (keys.drop layout.declared.length).drop names.length := by
        rw [fieldsEq, appendedValues, readAppended, kind]
        exact (readConditionals_spec names _).2
      have noHole : sequenceChecks [] (names.zip accounts.fields.appended) = none := by
        rw [appendedEq]
        exact sequenceChecks_readConditionals names _ [] (by simp)
      have noRest : accounts.remainingCheck names = none := by
        rw [Accounts.remainingCheck]
        split
        next slot last _ isLast =>
          rw [if_neg]
          rintro ⟨left, absent⟩
          rw [restEq] at left
          have member := (List.of_mem_zip (List.mem_of_getLast? isLast)).2
          rw [appendedEq] at member
          rw [isPresent_of_left left last.2 member] at absent
          cases absent
        next => rfl
      simp [noHole, noRest]

theorem map_pubkey_of_fromPubkeys (parsed : layout.fromPubkeys keys = .ok accounts) :
    accounts.toAccountMetas.map AccountMeta.pubkey =
      keys.take layout.declared.length ++
        ((layout.appendedValues keys).1.flatMap Conditional.keys ++
          (layout.appendedValues keys).2) := by
  obtain ⟨enough, fieldsEq, -⟩ :=
    readFields_eq_ok_iff.mp (fromPubkeys_eq_ok_iff.mp parsed)
  rw [accounts.map_pubkey, fieldsEq, declaredValues, declaredValues_getD enough,
    List.append_assoc]

theorem zipWith_take {slots : List DeclaredSlot} {keys : List Pubkey} :
    List.zipWith layout.declaredValue slots (keys.take slots.length) =
      List.zipWith layout.declaredValue slots keys := by
  induction slots generalizing keys with
  | nil => rfl
  | cons slot slots ih => cases keys <;> simp [ih]

/-- Reading depends on the declared keys and on what is past them. -/
theorem appendedValues_again (enough : layout.declared.length ≤ keys.length) :
    layout.declaredValues (keys.take layout.declared.length ++
        ((layout.appendedValues keys).1.flatMap Conditional.keys ++
          (layout.appendedValues keys).2)) = layout.declaredValues keys ∧
      layout.appendedValues (keys.take layout.declared.length ++
        ((layout.appendedValues keys).1.flatMap Conditional.keys ++
          (layout.appendedValues keys).2)) = layout.appendedValues keys := by
  have takeLength : (keys.take layout.declared.length).length =
      layout.declared.length := by
    rw [List.length_take, Nat.min_eq_left enough]
  have same : ∀ rest, layout.declaredValues
      (keys.take layout.declared.length ++ rest) = layout.declaredValues keys := by
    intro rest
    rw [declaredValues, ← zipWith_take, List.take_left' takeLength, zipWith_take,
      declaredValues]
  refine ⟨same _, ?_⟩
  rw [appendedValues, same, List.drop_left' takeLength]
  simp only [appendedValues, readAppended]
  cases layout.appended with
  | conditional names => simp only [readConditionals_spec, List.take_append_drop]
  | resolved slots => exact resolve_again slots [] _

/-- The parser refuses a list that is too short, and without a remaining list
one with a key that no field owns. -/
theorem fromPubkeys_error_iff :
    (∃ err, layout.fromPubkeys keys = .error err) ↔
      keys.length < layout.declared.length ∨
        layout.remaining = none ∧ ∃ entry ∈ layout.owners keys, entry.2 = none := by
  have refused : (∃ err, layout.fromPubkeys keys = .error err) ↔
      ¬ ∃ accounts, layout.fromPubkeys keys = .ok accounts := by
    cases layout.fromPubkeys keys <;> simp
  have accepted : (∃ accounts, layout.fromPubkeys keys = .ok accounts) ↔
      layout.declared.length ≤ keys.length ∧
        (layout.remaining = none → (layout.appendedValues keys).2 = []) := by
    constructor
    · rintro ⟨accounts, parsed⟩
      obtain ⟨enough, -, exhausted⟩ :=
        readFields_eq_ok_iff.mp (fromPubkeys_eq_ok_iff.mp parsed)
      exact ⟨enough, exhausted⟩
    · rintro ⟨enough, exhausted⟩
      have read := readFields_eq_ok_iff.mpr ⟨enough, rfl, exhausted⟩
      exact ⟨⟨_, readFields_fit read⟩, fromPubkeys_eq_ok_iff.mpr read⟩
  rw [refused, accepted, ← unclaimed_ownAppended, unclaimed_eq_nil_iff]
  cases remaining : layout.remaining with
  | some slot => simp
  | none =>
      by_cases short : keys.length < layout.declared.length
      · simp [short]
      · have owned : ∀ entry ∈ ownPositions .declared 0 layout.declared.length
            (keys.take layout.declared.length), entry.2 ≠ none := by
          rw [← unclaimed_eq_nil_iff, unclaimed_ownPositions]
          simp
        have rest : (∀ entry ∈ layout.ownAppended keys, entry.2 ≠ none) ↔
            ¬ ∃ entry ∈ layout.owners keys, entry.2 = none := by
          simp only [owners, ownPastDeclared, remaining, List.mem_append,
            not_exists, not_and]
          constructor
          · intro complete entry member
            exact member.elim (owned entry) (complete entry)
          · intro complete entry member
            exact complete entry (.inr member)
        rw [rest]
        simp [short, Nat.le_of_not_lt short]

theorem map_fst_owners : (layout.owners keys).map Prod.fst = keys := by
  rw [owners, List.map_append, map_fst_ownPositions, ownPastDeclared]
  cases layout.remaining with
  | some slot =>
      simp only [map_fst_claimRest, map_fst_ownAppended, List.take_append_drop]
  | none => simp only [map_fst_ownAppended, List.take_append_drop]

theorem owners_complete (parsed : layout.fromPubkeys keys = .ok accounts) :
    ∀ entry ∈ layout.owners keys, entry.2 ≠ none := by
  intro entry member unowned
  cases remaining : layout.remaining with
  | none =>
      obtain ⟨err, refused⟩ := fromPubkeys_error_iff.mpr
        (.inr ⟨remaining, entry, member, unowned⟩)
      rw [parsed] at refused
      cases refused
  | some slot =>
      rw [owners, List.mem_append] at member
      rcases member with declared | past
      · have complete := @unclaimed_ownPositions .declared 0 layout.declared.length
          (keys.take layout.declared.length)
        rw [List.drop_eq_nil_of_le (List.length_take_le _ _)] at complete
        exact unclaimed_eq_nil_iff.mp complete entry declared unowned
      · rw [ownPastDeclared, remaining] at past
        exact unclaimed_eq_nil_iff.mp (unclaimed_claimRest _ _) entry past unowned

theorem claimedBy_ownPastDeclared {field : AccountField}
    (different : field ≠ .remaining) :
    claimedBy field (layout.ownPastDeclared keys) =
      claimedBy field (layout.ownAppended keys) := by
  rw [ownPastDeclared]
  cases layout.remaining with
  | some slot => exact claimedBy_claimRest_other different _
  | none => rfl

theorem claimedBy_owners_declared (enough : layout.declared.length ≤ keys.length)
    (idx : Nat) :
    claimedBy (.declared idx) (layout.owners keys) =
      ((layout.declaredValues keys)[idx]?).toList.map
        (·.getD layout.programId) := by
  have injective : Function.Injective AccountField.declared := by
    intro first second same
    cases same
    rfl
  have owned := claimedBy_ownPositions injective 0 layout.declared.length idx
    (keys.take layout.declared.length)
  rw [Nat.zero_add, List.take_of_length_le (List.length_take_le _ _)] at owned
  have kept := @declaredValues_getD layout _ _ enough
  rw [owners, claimedBy_append, owned, claimedBy_ownPastDeclared (by simp),
    claimedBy_ownAppended_other (by simp), List.append_nil, ← kept,
    List.getElem?_map, declaredValues]
  cases (List.zipWith layout.declaredValue layout.declared keys)[idx]? <;> rfl

theorem claimedBy_owners_appended (idx : Nat) :
    claimedBy (.appended idx) (layout.owners keys) =
      ((layout.appendedValues keys).1[idx]?).toList.flatMap Conditional.keys := by
  rw [owners, claimedBy_append, claimedBy_ownPositions_other (by simp),
    claimedBy_ownPastDeclared (by simp), claimedBy_ownAppended, List.nil_append]

theorem claimedBy_owners_remaining
    (exhausted : layout.remaining = none → (layout.appendedValues keys).2 = []) :
    claimedBy .remaining (layout.owners keys) = (layout.appendedValues keys).2 := by
  have none' : claimedBy .remaining (layout.ownAppended keys) = [] :=
    claimedBy_ownAppended_other (by simp)
  rw [owners, claimedBy_append, claimedBy_ownPositions_other (by simp),
    List.nil_append, ownPastDeclared]
  cases remaining : layout.remaining with
  | none => exact none'.trans (exhausted remaining).symm
  | some slot =>
      rw [← unclaimed_ownAppended]
      apply claimedBy_claimRest_self
      intro entry member same
      have owned : entry.1 ∈ claimedBy .remaining (layout.ownAppended keys) :=
        List.mem_map_of_mem (List.mem_filter.mpr ⟨member, by simpa using same⟩)
      rw [none'] at owned
      cases owned

theorem claimedBy_owners (parsed : layout.fromPubkeys keys = .ok accounts)
    (field : AccountField) :
    claimedBy field (layout.owners keys) = accounts.fieldKeys field := by
  obtain ⟨enough, fieldsEq, exhausted⟩ :=
    readFields_eq_ok_iff.mp (fromPubkeys_eq_ok_iff.mp parsed)
  cases field with
  | declared idx =>
      rw [claimedBy_owners_declared enough, Accounts.fieldKeys, fieldsEq]
  | appended idx => rw [claimedBy_owners_appended, Accounts.fieldKeys, fieldsEq]
  | remaining =>
      rw [claimedBy_owners_remaining exhausted, Accounts.fieldKeys, fieldsEq]

theorem fromPubkeys_again (parsed : layout.fromPubkeys keys = .ok accounts) :
    layout.fromPubkeys (accounts.toAccountMetas.map AccountMeta.pubkey) =
      .ok accounts := by
  have built := map_pubkey_of_fromPubkeys parsed
  obtain ⟨enough, fieldsEq, exhausted⟩ :=
    readFields_eq_ok_iff.mp (fromPubkeys_eq_ok_iff.mp parsed)
  obtain ⟨declared, appended⟩ := appendedValues_again enough
  rw [built, fromPubkeys_eq_ok_iff, readFields_eq_ok_iff, declared, appended]
  refine ⟨?_, fieldsEq, exhausted⟩
  rw [List.length_append, List.length_take, Nat.min_eq_left enough]
  omega

variable (layout keys accounts) in
/-- Nothing is lost: the accounts that are built are the keys, reordered past
the declared list at most; every key belongs to one field, which holds it; and
they are parsed to the same fields. -/
structure Lossless : Prop where
  perm : (accounts.toAccountMetas.map AccountMeta.pubkey).Perm keys
  inPlace : (accounts.toAccountMetas.map AccountMeta.pubkey).take
    layout.declared.length = keys.take layout.declared.length
  positional : layout.appended.Positional →
    accounts.toAccountMetas.map AccountMeta.pubkey = keys
  positions : (layout.owners keys).map Prod.fst = keys
  owned : ∀ entry ∈ layout.owners keys, entry.2 ≠ none
  held : ∀ field, claimedBy field (layout.owners keys) = accounts.fieldKeys field
  builds : accounts.tryToAccountMetas = .ok accounts.toAccountMetas
  again : layout.fromPubkeys (accounts.toAccountMetas.map AccountMeta.pubkey) =
    .ok accounts

theorem lossless_of_fromPubkeys (parsed : layout.fromPubkeys keys = .ok accounts) :
    Lossless layout keys accounts := by
  have built := map_pubkey_of_fromPubkeys parsed
  obtain ⟨enough, -, -⟩ :=
    readFields_eq_ok_iff.mp (fromPubkeys_eq_ok_iff.mp parsed)
  have takeLength : (keys.take layout.declared.length).length =
      layout.declared.length := by
    rw [List.length_take, Nat.min_eq_left enough]
  exact
    { perm := by
        rw [built]
        conv_rhs => rw [← List.take_append_drop layout.declared.length keys]
        exact perm_appendedValues.append_left _
      inPlace := by rw [built, List.take_left' takeLength]
      positional := fun positional => by
        rw [built, appendedValues_eq positional, List.take_append_drop]
      positions := map_fst_owners
      owned := owners_complete parsed
      held := claimedBy_owners parsed
      builds := tryToAccountMetas_of_fromPubkeys parsed
      again := fromPubkeys_again parsed }

/-- A key list is refused if and only if it is too short or, without a
remaining list, has a key that no field owns; otherwise nothing is lost. -/
theorem fromPubkeys_lossless (layout : AccountLayout) (keys : List Pubkey) :
    ((∃ err, layout.fromPubkeys keys = .error err) ↔
      keys.length < layout.declared.length ∨
        layout.remaining = none ∧ ∃ entry ∈ layout.owners keys, entry.2 = none) ∧
      ∀ accounts, layout.fromPubkeys keys = .ok accounts →
        Lossless layout keys accounts :=
  ⟨fromPubkeys_error_iff, fun _ => lossless_of_fromPubkeys⟩

/-- Two declared slots, the second of them optional, and two resolved slots that
may derive the same address. -/
def resolvedLayout : AccountLayout where
  programId := 9
  declared := [⟨true, true, false⟩, ⟨true, false, true⟩]
  appended := .resolved
    [⟨true, false, fun declared _ => (declared[0]?).join.getD 0 + 1⟩,
      ⟨false, false, fun declared _ => (declared[0]?).join.getD 0 + 1⟩]
  remaining := some ⟨"vaults", false⟩

theorem fromPubkeys_lossless_resolved :
    ∃ accounts, resolvedLayout.fromPubkeys [4, 9, 7, 5] = .ok accounts ∧
      accounts.fields = ⟨[some 4, none], [.present 5, .absent], [7]⟩ ∧
        Lossless resolvedLayout [4, 9, 7, 5] accounts := by
  have read : resolvedLayout.readFields [4, 9, 7, 5] =
      .ok ⟨[some 4, none], [.present 5, .absent], [7]⟩ := by decide
  have parsed : resolvedLayout.fromPubkeys [4, 9, 7, 5] =
      .ok ⟨_, readFields_fit read⟩ := fromPubkeys_eq_ok_iff.mpr read
  exact ⟨_, parsed, rfl, (fromPubkeys_lossless _ _).2 _ parsed⟩

end AccountLayout

end Parsing

end SolanaProtocols
