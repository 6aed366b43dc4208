import Mathlib.Data.List.Basic
import SolanaProtocols.CheckedArithmetic

/-!
# Loops over a range that may break off

A `for` loop over the indices below a count updates a state, and a pass may
break off the whole loop with an error.  The loop ends in the states that a
relation reaches pass by pass, and it breaks off exactly where a pass does whose
predecessors went through.  The second part reads a list of items one by one, as
collecting into a `Result` does.
-/

namespace SolanaProtocols

section Errors

variable {Error Other Value Result : Type}

theorem bind_ne_error {error : Error} {first : Except Error Value}
    {rest : Value → Except Error Result} (firstNe : first ≠ .error error)
    (restNe : ∀ value, first = .ok value → rest value ≠ .error error) :
    (first >>= rest) ≠ .error error := by
  cases first with
  | error other =>
      intro same
      exact firstNe (congrArg _ (Except.error.inj same))
  | ok value => exact restNe value rfl

theorem okOr_ne_error {option : Option Value} {message other : String}
    (different : message ≠ other) : okOr option message ≠ .error other := by
  cases option with
  | none => exact fun same => different (Except.error.inj same)
  | some value => exact nofun

theorem mapError_eq_ok_iff {wrap : Error → Other} {result : Except Error Value}
    {value : Value} : result.mapError wrap = .ok value ↔ result = .ok value := by
  cases result <;> simp [Except.mapError]

theorem mapError_ne_error {wrap : Error → Other} {result : Except Error Value}
    {error : Error} (injective : Function.Injective wrap)
    (resultNe : result ≠ .error error) :
    result.mapError wrap ≠ .error (wrap error) := by
  cases result with
  | error other =>
      intro same
      exact resultNe (congrArg _ (injective (Except.error.inj same)))
  | ok value => exact nofun

end Errors

namespace RangeLoop

section Passes

variable {Error State : Type}

/-- Run the body at the indices below a count. -/
def rangeLoop (body : State → Nat → Except Error State) (start : State)
    (count : Nat) : Except Error State :=
  (List.range count).foldlM body start

variable {body : State → Nat → Except Error State} {start reached : State}
variable {count : Nat}

theorem rangeLoop_zero : rangeLoop body start 0 = .ok start :=
  rfl

theorem rangeLoop_succ :
    rangeLoop body start (count + 1) =
      rangeLoop body start count >>= fun reached => body reached count := by
  rw [rangeLoop, List.range_succ, List.foldlM_append]
  simp only [List.foldlM_cons, List.foldlM_nil, bind_pure]
  rfl

/-- A loop ends in the states of a relation that every pass carries on. -/
theorem rangeLoop_eq_ok_iff {reaches : Nat → State → Prop}
    (first : ∀ state, reaches 0 state ↔ state = start)
    (next : ∀ index < count, ∀ after, reaches (index + 1) after ↔
      ∃ state, reaches index state ∧ body state index = .ok after) :
    rangeLoop body start count = .ok reached ↔ reaches count reached := by
  induction count generalizing reached with
  | zero =>
      rw [rangeLoop_zero, first, Except.ok.injEq, eq_comm]
  | succ count ih =>
      have before := fun state => @ih state
        fun index below => next index (Nat.lt_succ_of_lt below)
      rw [rangeLoop_succ, bind_eq_ok_iff, next count (Nat.lt_succ_self count)]
      exact exists_congr fun state => and_congr_left fun _ => before state

/-- A loop breaks off in the first pass that does. -/
theorem rangeLoop_eq_error_iff {error : Error} :
    rangeLoop body start count = .error error ↔
      ∃ index < count, ∃ state, rangeLoop body start index = .ok state ∧
        body state index = .error error := by
  induction count with
  | zero => simp [rangeLoop_zero]
  | succ count ih =>
      rw [rangeLoop_succ]
      cases earlier : rangeLoop body start count with
      | error other =>
          rw [earlier] at ih
          rw [show (Except.error other >>= fun reached => body reached count) =
            .error other from rfl, ih]
          constructor
          · rintro ⟨index, below, broke⟩
            exact ⟨index, Nat.lt_succ_of_lt below, broke⟩
          · rintro ⟨index, below, state, went, broke⟩
            rcases Nat.lt_succ_iff_lt_or_eq.mp below with below | rfl
            · exact ⟨index, below, state, went, broke⟩
            · rw [earlier] at went
              cases went
      | ok state =>
          rw [earlier] at ih
          constructor
          · intro broke
            exact ⟨count, Nat.lt_succ_self count, state, earlier, broke⟩
          · rintro ⟨index, below, other, went, broke⟩
            rcases Nat.lt_succ_iff_lt_or_eq.mp below with below | rfl
            · cases ih.mpr ⟨index, below, other, went, broke⟩
            · rw [earlier] at went
              cases went
              exact broke

end Passes

section Collecting

variable {Key Item : Type} {keys : List Key} {items : List Item}
variable {lookup : Key → Option Item} {message : String}

/-- Collecting succeeds on the items at the keys when each of them is there. -/
theorem mapM_okOr_eq_ok_iff :
    keys.mapM (fun key => okOr (lookup key) message) = .ok items ↔
      keys.map lookup = items.map some := by
  induction keys generalizing items with
  | nil => cases items <;> simp [pure, Except.pure]
  | cons key keys ih =>
      simp only [List.mapM_cons, bind_eq_ok_iff, okOr_eq_ok_iff, ih,
        List.map_cons, pure, Except.pure, Except.ok.injEq]
      constructor
      · rintro ⟨item, found, rest, others, rfl⟩
        rw [found, others, List.map_cons]
      · intro same
        cases items with
        | nil => cases same
        | cons item items =>
            rw [List.map_cons, List.cons.injEq] at same
            exact ⟨item, same.1, items, same.2, rfl⟩

theorem mapM_okOr_ne_error {other : String} (different : message ≠ other) :
    keys.mapM (fun key => okOr (lookup key) message) ≠ .error other := by
  induction keys with
  | nil => exact nofun
  | cons key keys ih =>
      rw [List.mapM_cons]
      exact bind_ne_error (okOr_ne_error different) fun item _ =>
        bind_ne_error ih fun rest _ => nofun

theorem mem_of_map_eq_map_some (same : keys.map lookup = items.map some)
    (item : Item) : item ∈ items ↔ ∃ key ∈ keys, lookup key = some item := by
  rw [← List.mem_map, same, List.mem_map_of_injective (Option.some_injective _)]

theorem exists_map_eq_map_some_iff :
    (∃ items, keys.map lookup = List.map some items) ↔
      ∀ key ∈ keys, (lookup key).isSome := by
  constructor
  · rintro ⟨items, same⟩ key isKey
    have found : lookup key ∈ items.map some :=
      same ▸ List.mem_map_of_mem isKey
    obtain ⟨item, -, found⟩ := List.mem_map.mp found
    rw [← found, Option.isSome_some]
  · intro all
    induction keys with
    | nil => exact ⟨[], rfl⟩
    | cons key keys ih =>
        obtain ⟨item, found⟩ :=
          Option.isSome_iff_exists.mp (all key List.mem_cons_self)
        obtain ⟨items, same⟩ :=
          ih fun other isOther => all other (List.mem_cons_of_mem _ isOther)
        exact ⟨item :: items, by rw [List.map_cons, List.map_cons, found, same]⟩

/-- Reading one more item adds it at the end. -/
theorem map_range_succ_eq_iff {read : Nat → Option Item} {count : Nat} :
    (List.range (count + 1)).map read = items.map some ↔
      ∃ earlier item, items = earlier ++ [item] ∧
        (List.range count).map read = earlier.map some ∧
        read count = some item := by
  rw [List.range_succ, List.map_append, List.append_eq_map_iff]
  constructor
  · rintro ⟨earlier, last, rfl, same, single⟩
    obtain ⟨item, rfl, found⟩ := List.map_eq_singleton_iff.mp single
    exact ⟨earlier, item, rfl, same.symm, found.symm⟩
  · rintro ⟨earlier, item, rfl, same, found⟩
    exact ⟨earlier, [item], rfl, same.symm, by simp [found]⟩

end Collecting

end RangeLoop

end SolanaProtocols
