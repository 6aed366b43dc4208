import SolanaProtocols.CheckedArithmetic
import SolanaProtocols.SwapExtract

/-!
# What the extractors read

An extractor that walks down reads two sources for a swap: the instruction with
its accounts, and the event below it.  A reading is what both say.  A swap is
recorded exactly when there is a reading whose compared facts agree, and it
takes its identity from the accounts and its amounts from the event.
-/

namespace SolanaProtocols

open Parsing Chain Protocols
open Pumpfun (U64)

namespace Chain

/-- An identity fact of a swap. -/
inductive Fact
  | mint
  | pool
  | trader
  | direction
deriving DecidableEq, Repr

/-- What one source says about a swap. -/
structure Identity where
  mint : Option Pubkey
  pool : Option Pubkey
  trader : Option Pubkey
  isBuy : Option Bool
deriving DecidableEq

/-- What both sources say is the same. -/
def Consistent {α : Type} (first second : Option α) : Prop :=
  ∀ one ∈ first, ∀ other ∈ second, one = other

@[simp] theorem consistent_some_iff {α : Type} {one other : α} :
    Consistent (some one) (some other) ↔ one = other := by
  simp [Consistent]

/-- Two sources do not contradict each other on a fact. -/
def Fact.Agrees (first second : Identity) : Fact → Prop
  | mint => Consistent first.mint second.mint
  | pool => Consistent first.pool second.pool
  | trader => Consistent first.trader second.trader
  | direction => Consistent first.isBuy second.isBuy

/-- What an extractor reads for a swap, and the facts it compares. -/
structure SwapReading where
  protocol : Protocol
  compared : List Fact
  accounts : Identity
  event : Identity
  amountIn : U64
  amountOut : U64

namespace SwapReading

/-- The facts that the extractor compares agree. -/
def ComparedAgree (reading : SwapReading) : Prop :=
  ∀ fact ∈ reading.compared, fact.Agrees reading.accounts reading.event

/-- A swap with the identity of the accounts and the amounts of the event. -/
structure Describes (reading : SwapReading) (swap : Swap) : Prop where
  protocol : swap.protocol = reading.protocol
  pool : reading.accounts.pool = some swap.pool
  trader : reading.accounts.trader = some swap.trader
  amountIn : swap.amountIn = reading.amountIn
  amountOut : swap.amountOut = reading.amountOut

/-- The reading of two sources that name the pool and the trader, of which the
pool is compared. -/
def ofPools (protocol : Protocol) (accounts event : Pubkey × Pubkey)
    (amountIn amountOut : U64) : SwapReading where
  protocol := protocol
  compared := [.pool]
  accounts := ⟨none, some accounts.1, some accounts.2, none⟩
  event := ⟨none, some event.1, some event.2, none⟩
  amountIn := amountIn
  amountOut := amountOut

theorem comparedAgree_ofPools {protocol : Protocol}
    {accounts event : Pubkey × Pubkey} {amountIn amountOut : U64} :
    (ofPools protocol accounts event amountIn amountOut).ComparedAgree ↔
      event.1 = accounts.1 := by
  simp only [ComparedAgree, ofPools, List.forall_mem_singleton, Fact.Agrees,
    consistent_some_iff]
  exact eq_comm

/-- A swap is recorded exactly when there is a reading whose compared facts
agree and the extractor goes on, and it is what the reading says. -/
structure Explains (reading : Option SwapReading) (goesOn : Prop)
    (extracted : Option Swap) : Prop where
  sound : ∀ swap, extracted = some swap → goesOn ∧ ∃ read,
    reading = some read ∧ read.ComparedAgree ∧ read.Describes swap
  complete : ∀ read, reading = some read → read.ComparedAgree → goesOn →
    ∃ swap, extracted = some swap

end SwapReading

theorem toOption_eq_some_iff {ε α : Type} {result : Except ε α} {value : α} :
    result.toOption = some value ↔ result = .ok value := by
  cases result <;> simp [Except.toOption]

section Builds

variable {Event : Type} (event : ProtocolEvent Event) (struct : AccountsStruct)
  (read : Accounts struct.layout → Event → SwapReading)

/-- The reading of the event that an instruction produced and of its accounts. -/
def readBoth (ix : ParsedInstruction) (all : List ParsedInstruction)
    (program : Pubkey) : Option SwapReading := do
  let found ← (childEvent event ix all program).toOption
  let accounts ← (struct.fromAccountKeys ix.accounts).toOption
  return read accounts found

/-- A way to build a swap from an event that compares what a reading compares
and records what it says. -/
structure Builds
    (build : Event → ParsedInstruction → Except ExtractError Swap) : Prop where
  sound : ∀ found ix swap, build found ix = .ok swap → ∃ accounts,
    struct.fromAccountKeys ix.accounts = .ok accounts ∧
      (read accounts found).ComparedAgree ∧ (read accounts found).Describes swap
  complete : ∀ found ix accounts,
    struct.fromAccountKeys ix.accounts = .ok accounts →
      (read accounts found).ComparedAgree → ∃ swap, build found ix = .ok swap

variable {event} {struct} {read}
  {build : Event → ParsedInstruction → Except ExtractError Swap}
  {ix : ParsedInstruction} {all : List ParsedInstruction} {program : Pubkey}

theorem readBoth_eq_some_iff {reading : SwapReading} :
    readBoth event struct read ix all program = some reading ↔
      ∃ found accounts, childEvent event ix all program = .ok found ∧
        struct.fromAccountKeys ix.accounts = .ok accounts ∧
          read accounts found = reading := by
  simp only [readBoth, Option.bind_eq_bind, Option.bind_eq_some_iff,
    toOption_eq_some_iff, pure, Option.some.injEq]
  constructor
  · rintro ⟨found, here, accounts, parsed, rfl⟩
    exact ⟨found, accounts, here, parsed, rfl⟩
  · rintro ⟨found, accounts, here, parsed, rfl⟩
    exact ⟨found, here, accounts, parsed, rfl⟩

/-- An extractor that builds from the event it found, and may still fail
afterwards, is explained by the reading. -/
theorem Builds.explains (builds : Builds struct read build) {goesOn : Prop}
    {extracted : Option Swap}
    (sound : ∀ swap, extracted = some swap → goesOn ∧
      ∃ found built completedCurve,
        childEvent event ix all program = .ok found ∧
          build found ix = .ok built ∧
            swap = { built with completedCurve := completedCurve })
    (complete : ∀ found built, childEvent event ix all program = .ok found →
      build found ix = .ok built → goesOn → ∃ swap, extracted = some swap) :
    SwapReading.Explains (readBoth event struct read ix all program) goesOn
      extracted where
  sound swap recorded := by
    obtain ⟨on, found, built, completedCurve, here, builtEq, rfl⟩ :=
      sound swap recorded
    obtain ⟨accounts, parsed, agree, describes⟩ :=
      builds.sound found ix built builtEq
    exact ⟨on, read accounts found,
      readBoth_eq_some_iff.mpr ⟨found, accounts, here, parsed, rfl⟩, agree,
      ⟨describes.protocol, describes.pool, describes.trader,
        describes.amountIn, describes.amountOut⟩⟩
  complete reading readEq agree goesOn := by
    obtain ⟨found, accounts, here, parsed, rfl⟩ :=
      readBoth_eq_some_iff.mp readEq
    obtain ⟨built, builtEq⟩ := builds.complete found ix accounts parsed agree
    exact complete found built here builtEq goesOn

end Builds

theorem SwapReading.explains_none {goesOn : Prop} :
    SwapReading.Explains none goesOn none where
  sound _ recorded := by cases recorded
  complete _ readEq := by cases readEq

end Chain

namespace Pumpfun

/-- The swap instructions. -/
inductive SwapForm
  | buy
  | buyExactSolIn
  | sell
  | buyV2
  | buyExactQuoteInV2
  | sellV2
deriving DecidableEq, Repr

namespace SwapForm

def ofVariant : PumpfunVariant → Option SwapForm
  | .buy => some buy
  | .buyExactSolIn => some buyExactSolIn
  | .sell => some sell
  | .buyV2 => some buyV2
  | .buyExactQuoteInV2 => some buyExactQuoteInV2
  | .sellV2 => some sellV2
  | _ => none

def isBuy : SwapForm → Bool
  | sell | sellV2 => false
  | _ => true

def isSecond : SwapForm → Bool
  | buyV2 | buyExactQuoteInV2 | sellV2 => true
  | _ => false

def accounts (addresses : AddressDerivation) : SwapForm → AccountsStruct
  | buy | buyExactSolIn => BuyAccounts addresses
  | sell => SellAccounts addresses
  | buyV2 | buyExactQuoteInV2 => BuyV2Accounts addresses
  | sellV2 => SellV2Accounts addresses

def mintName (form : SwapForm) : AccountName :=
  if form.isSecond then .baseMint else .mint

/-- The first forms compare the mint only. -/
def compared (form : SwapForm) : List Fact :=
  if form.isSecond then [.mint, .pool, .trader] else [.mint]

/-- What the instruction says. -/
def identity (form : SwapForm) (struct : AccountsStruct)
    (accounts : Accounts struct.layout) : Identity where
  mint := some (struct.account accounts form.mintName)
  pool := some (struct.account accounts .bondingCurve)
  trader := some (struct.account accounts .user)
  isBuy := some form.isBuy

end SwapForm

section Reading

variable (utf8Error : Bytes → String) (addresses : AddressDerivation)

/-- What the event says. -/
def TradeEvent.identity (event : TradeEvent) : Identity where
  mint := some event.mint
  pool := some (deriveBondingCurvePda addresses event.mint)
  trader := some event.user
  isBuy := some event.isBuy

/-- The reading of a form, an account list and an event. -/
def SwapForm.reading (form : SwapForm) (struct : AccountsStruct)
    (accounts : Accounts struct.layout) (event : TradeEvent) : SwapReading where
  protocol := .pumpfun
  compared := form.compared
  accounts := form.identity struct accounts
  event := event.identity addresses
  amountIn := if event.isBuy then event.solAmount else event.tokenAmount
  amountOut := if event.isBuy then event.tokenAmount else event.solAmount

/-- What `PumpfunExtractor` reads for an instruction. -/
def reading (ix : ParsedInstruction) (all : List ParsedInstruction) :
    Option SwapReading :=
  if hasEventTag ix.data then none
  else do
    let parsed ← ((pumpfunInstruction utf8Error).tryFromSlice ix.data).toOption
    let form ← SwapForm.ofVariant parsed.variant
    readBoth (tradeEvent utf8Error) (form.accounts addresses)
      (form.reading addresses _) ix all programId

/-- A `CompleteEvent` below the instruction, if there is one, decodes. -/
def CompletesReadably (ix : ParsedInstruction) (all : List ParsedInstruction) :
    Prop :=
  ∃ completed, optionalChildEvent completeEvent ix all programId = .ok completed

end Reading

section Extract

variable {utf8Error : Bytes → String} {addresses : AddressDerivation}
  {form : SwapForm}
  {build : TradeEvent → ParsedInstruction → Except ExtractError Swap}
  {ix : ParsedInstruction} {all : List ParsedInstruction}

theorem SwapForm.comparedAgree_of_first (first : form.isSecond = false)
    {struct : AccountsStruct} {accounts : Accounts struct.layout}
    {event : TradeEvent} :
    (form.reading addresses struct accounts event).ComparedAgree ↔
      event.mint = struct.account accounts .mint := by
  have compared : form.compared = [.mint] := by
    simp only [SwapForm.compared, first, Bool.false_eq_true, if_false]
  have name : form.mintName = .mint := by
    simp only [mintName, first, Bool.false_eq_true, if_false]
  simp only [SwapReading.ComparedAgree, SwapForm.reading, compared, name,
    List.forall_mem_singleton, Fact.Agrees, identity, TradeEvent.identity,
    consistent_some_iff]
  exact eq_comm

theorem SwapForm.comparedAgree_of_second (second : form.isSecond = true)
    {struct : AccountsStruct} {accounts : Accounts struct.layout}
    {event : TradeEvent} :
    (form.reading addresses struct accounts event).ComparedAgree ↔
      event.mint = struct.account accounts .baseMint ∧
        deriveBondingCurvePda addresses event.mint =
            struct.account accounts .bondingCurve ∧
          event.user = struct.account accounts .user := by
  have compared : form.compared = [.mint, .pool, .trader] := by
    simp only [SwapForm.compared, second, if_true]
  have name : form.mintName = .baseMint := by
    simp only [mintName, second, if_true]
  simp only [SwapReading.ComparedAgree, SwapForm.reading, compared, name,
    List.forall_mem_cons, List.not_mem_nil, false_implies, implies_true,
    and_true, Fact.Agrees, identity, TradeEvent.identity, consistent_some_iff]
  rw [@eq_comm _ (struct.account accounts .baseMint),
    @eq_comm _ (struct.account accounts .bondingCurve),
    @eq_comm _ (struct.account accounts .user)]

theorem SwapForm.describes_swapFrom {struct : AccountsStruct}
    {accounts : Accounts struct.layout} {event : TradeEvent} {mint : Pubkey}
    {trackVolume : OptionBool} :
    (form.reading addresses struct accounts event).Describes
      (swapFrom ⟨mint, struct.account accounts .bondingCurve,
        struct.account accounts .user⟩ event ix trackVolume) where
  protocol := rfl
  pool := rfl
  trader := rfl
  amountIn := rfl
  amountOut := rfl

/-- The first forms read their identity from the accounts and compare the
mint. -/
theorem builds_of_first (first : form.isSecond = false)
    {trackVolume : OptionBool}
    (buildEq : ∀ event ix, build event ix = do
      let identity ← identityFromV1 (form.accounts addresses) ix
      corroborate "mint" event.mint identity.mint
      return swapFrom identity event ix trackVolume) :
    Builds (form.accounts addresses) (form.reading addresses _) build where
  sound event ix swap built := by
    simp only [buildEq, identityFromV1, bind_eq_ok_iff, readAccounts_eq_ok_iff,
      corroborate_eq_ok_iff, pure, Except.pure, Except.ok.injEq] at built
    obtain ⟨_, ⟨accounts, read, rfl⟩, _, mintEq, rfl⟩ := built
    exact ⟨accounts, read, (SwapForm.comparedAgree_of_first first).mpr mintEq,
      SwapForm.describes_swapFrom⟩
  complete event ix accounts read agree := by
    have mintEq := (SwapForm.comparedAgree_of_first first).mp agree
    rw [buildEq]
    simp only [identityFromV1, bind_eq_ok_iff, readAccounts_eq_ok_iff,
      corroborate_eq_ok_iff, pure, Except.pure, Except.ok.injEq]
    exact ⟨_, _, ⟨accounts, read, rfl⟩, (), mintEq, rfl⟩

theorem builds_of_second (second : form.isSecond = true)
    {trackVolume : OptionBool}
    (buildEq : ∀ event ix, build event ix = do
      let accounts ← readAccounts (form.accounts addresses) ix
      let identity ← identityFromV2 addresses _ accounts event
      return swapFrom identity event ix trackVolume) :
    Builds (form.accounts addresses) (form.reading addresses _) build where
  sound event ix swap built := by
    simp only [buildEq, identityFromV2, bind_eq_ok_iff, readAccounts_eq_ok_iff,
      corroborate_eq_ok_iff, pure, Except.pure, Except.ok.injEq] at built
    obtain ⟨accounts, read, _, ⟨_, mintEq, _, traderEq, _, poolEq, rfl⟩, rfl⟩ :=
      built
    exact ⟨accounts, read, (SwapForm.comparedAgree_of_second second).mpr
      ⟨mintEq, poolEq, traderEq⟩, SwapForm.describes_swapFrom⟩
  complete event ix accounts read agree := by
    obtain ⟨mintEq, poolEq, traderEq⟩ :=
      (SwapForm.comparedAgree_of_second second).mp agree
    rw [buildEq]
    simp only [identityFromV2, bind_eq_ok_iff, readAccounts_eq_ok_iff,
      corroborate_eq_ok_iff, pure, Except.pure, Except.ok.injEq]
    exact ⟨_, accounts, read, _, ⟨(), mintEq, (), traderEq, (), poolEq, rfl⟩, rfl⟩

theorem swapVia_eq_some_iff {swap : Swap} :
    swapVia utf8Error build ix all = .ok (some swap) ↔
      ∃ event built completed,
        childEvent (tradeEvent utf8Error) ix all programId = .ok event ∧
          build event ix = .ok built ∧
            optionalChildEvent completeEvent ix all programId = .ok completed ∧
              swap = { built with completedCurve := completed.isSome } := by
  simp only [swapVia, bind_eq_ok_iff, pure, Except.pure, Except.ok.injEq,
    Option.some.injEq]
  constructor
  · rintro ⟨event, found, built, builtEq, completed, completedEq, rfl⟩
    exact ⟨event, built, completed, found, builtEq, completedEq, rfl⟩
  · rintro ⟨event, built, completed, found, builtEq, completedEq, rfl⟩
    exact ⟨event, found, built, builtEq, completed, completedEq, rfl⟩

/-- A swap instruction builds its swap the way of its form. -/
theorem swapOf_of_form {parsed : (pumpfunInstruction utf8Error).Instruction}
    (formEq : SwapForm.ofVariant parsed.variant = some form) :
    ∃ build, Builds (form.accounts addresses) (form.reading addresses _) build ∧
      swapOf utf8Error addresses ix all parsed =
        swapVia utf8Error build ix all := by
  obtain ⟨variant, params⟩ := parsed
  cases variant with
  | buy =>
      cases formEq
      exact ⟨_, builds_of_first rfl fun _ _ => rfl, rfl⟩
  | buyExactSolIn =>
      cases formEq
      exact ⟨_, builds_of_first rfl fun _ _ => rfl, rfl⟩
  | sell =>
      cases formEq
      exact ⟨_, builds_of_first rfl fun _ _ => rfl, rfl⟩
  | buyV2 =>
      cases formEq
      exact ⟨_, builds_of_second rfl fun _ _ => rfl, rfl⟩
  | buyExactQuoteInV2 =>
      cases formEq
      exact ⟨_, builds_of_second rfl fun _ _ => rfl, rfl⟩
  | sellV2 =>
      cases formEq
      exact ⟨_, builds_of_second rfl fun _ _ => rfl, rfl⟩
  | _ => cases formEq

theorem swapOf_of_other {parsed : (pumpfunInstruction utf8Error).Instruction}
    (other : SwapForm.ofVariant parsed.variant = none) :
    swapOf utf8Error addresses ix all parsed = .ok none := by
  obtain ⟨variant, params⟩ := parsed
  cases variant <;>
    first
    | rfl
    | cases other

theorem extract_eq_some_iff {swap : Swap} :
    extract utf8Error addresses ix all = some swap ↔
      tryExtract utf8Error addresses ix all = .ok (some swap) := by
  rw [extract]
  cases tryExtract utf8Error addresses ix all <;> simp

theorem reading_of_form {parsed : (pumpfunInstruction utf8Error).Instruction}
    (untagged : ¬ hasEventTag ix.data = true)
    (decoded : (pumpfunInstruction utf8Error).tryFromSlice ix.data = .ok parsed)
    (formEq : SwapForm.ofVariant parsed.variant = some form) :
    reading utf8Error addresses ix all =
      readBoth (tradeEvent utf8Error) (form.accounts addresses)
        (form.reading addresses _) ix all programId := by
  rw [reading, if_neg untagged, decoded]
  simp only [Except.toOption, Option.bind_eq_bind, Option.bind_some, formEq]

theorem exists_of_reading {read : SwapReading}
    (readEq : reading utf8Error addresses ix all = some read) :
    ∃ parsed form event accounts,
      (pumpfunInstruction utf8Error).tryFromSlice ix.data = .ok parsed ∧
        SwapForm.ofVariant parsed.variant = some form ∧
          childEvent (tradeEvent utf8Error) ix all programId = .ok event ∧
            (form.accounts addresses).fromAccountKeys ix.accounts =
                .ok accounts ∧
              form.reading addresses _ accounts event = read := by
  rw [reading] at readEq
  split_ifs at readEq
  simp only [Option.bind_eq_bind, Option.bind_eq_some_iff, toOption_eq_some_iff,
    readBoth_eq_some_iff] at readEq
  obtain ⟨parsed, decoded, form, formEq, event, accounts, found, read, rfl⟩ :=
    readEq
  exact ⟨parsed, form, event, accounts, decoded, formEq, found, read, rfl⟩

/-- The mint is compared for every form; the trader and the curve for the
second forms only, and the direction for none. -/
theorem explains (utf8Error : Bytes → String) (addresses : AddressDerivation)
    (ix : ParsedInstruction) (all : List ParsedInstruction) :
    SwapReading.Explains (reading utf8Error addresses ix all)
      (CompletesReadably ix all) (extract utf8Error addresses ix all) := by
  have nothing (readEq : reading utf8Error addresses ix all = none)
      (tryEq : tryExtract utf8Error addresses ix all = .ok none) :
      SwapReading.Explains (reading utf8Error addresses ix all)
        (CompletesReadably ix all) (extract utf8Error addresses ix all) := by
    rw [readEq, extract, tryEq]
    exact SwapReading.explains_none
  by_cases tagged : hasEventTag ix.data = true
  · exact nothing (if_pos tagged) (if_pos tagged)
  have readEq : reading utf8Error addresses ix all = _ := if_neg tagged
  have tryEq : tryExtract utf8Error addresses ix all = _ := if_neg tagged
  cases decoded : (pumpfunInstruction utf8Error).tryFromSlice ix.data with
  | error _ =>
      rw [decoded] at readEq tryEq
      exact nothing readEq tryEq
  | ok parsed =>
      rw [decoded] at readEq tryEq
      cases formEq : SwapForm.ofVariant parsed.variant with
      | none =>
          simp only [Except.toOption, Option.bind_eq_bind, Option.bind_some,
            formEq, Option.bind_none] at readEq
          exact nothing readEq (tryEq.trans (swapOf_of_other formEq))
      | some form =>
          obtain ⟨build, builds, swapOfEq⟩ := swapOf_of_form formEq
          have tryVia := tryEq.trans swapOfEq
          rw [reading_of_form tagged decoded formEq]
          refine builds.explains (fun swap recorded => ?_)
            fun found built here builtEq ⟨completed, completedEq⟩ =>
              ⟨_, extract_eq_some_iff.mpr <| tryVia.trans <|
                swapVia_eq_some_iff.mpr
                  ⟨found, built, completed, here, builtEq, completedEq, rfl⟩⟩
          obtain ⟨found, built, completed, here, builtEq, completedEq, swapEq⟩ :=
            swapVia_eq_some_iff.mp
              (tryVia.symm.trans (extract_eq_some_iff.mp recorded))
          exact ⟨⟨completed, completedEq⟩, found, built, _, here, builtEq, swapEq⟩

end Extract

end Pumpfun

namespace PumpSwap

section Reading

variable (utf8Error : Bytes → String) (addresses : AddressDerivation)

/-- What a buy's accounts and its event say. -/
def buyReading (accounts : Accounts (BuyAccounts addresses).layout)
    (event : BuyEvent) : SwapReading :=
  let account := (BuyAccounts addresses).account accounts
  .ofPools .pumpSwap (account .pool, account .user) (event.pool, event.user)
    event.grossQuoteIn event.baseAmountOut

/-- What a sell's accounts and its event say. -/
def sellReading (accounts : Accounts (SellAccounts addresses).layout)
    (event : SellEvent) : SwapReading :=
  let account := (SellAccounts addresses).account accounts
  .ofPools .pumpSwap (account .pool, account .user) (event.pool, event.user)
    event.baseAmountIn event.userQuoteAmountOut

/-- What `PumpSwapExtractor` reads for an instruction. -/
def reading (ix : ParsedInstruction) (all : List ParsedInstruction) :
    Option SwapReading :=
  if hasEventTag ix.data then none
  else do
    let parsed ← (pumpSwapInstruction.tryFromSlice ix.data).toOption
    match parsed.variant with
    | .buy | .buyExactQuoteIn =>
        readBoth (buyEvent utf8Error) (BuyAccounts addresses)
          (buyReading addresses) ix all programId
    | .sell =>
        readBoth sellEvent (SellAccounts addresses) (sellReading addresses) ix
          all programId
    | _ => none

end Reading

section Extract

variable {utf8Error : Bytes → String} {addresses : AddressDerivation}
  {ix : ParsedInstruction} {all : List ParsedInstruction}

theorem builds_buySwap {trackVolume : OptionBool} :
    Builds (BuyAccounts addresses) (buyReading addresses)
      fun event ix => buySwap addresses event ix trackVolume where
  sound event ix swap built := by
    simp only [buySwap, bind_eq_ok_iff, readAccounts_eq_ok_iff,
      corroborate_eq_ok_iff, pure, Except.pure, Except.ok.injEq] at built
    obtain ⟨accounts, parsed, _, poolEq, rfl⟩ := built
    exact ⟨accounts, parsed, SwapReading.comparedAgree_ofPools.mpr poolEq,
      ⟨rfl, rfl, rfl, rfl, rfl⟩⟩
  complete event ix accounts parsed agree := by
    have poolEq := SwapReading.comparedAgree_ofPools.mp agree
    simp only [buySwap, bind_eq_ok_iff, readAccounts_eq_ok_iff,
      corroborate_eq_ok_iff, pure, Except.pure, Except.ok.injEq]
    exact ⟨_, accounts, parsed, (), poolEq, rfl⟩

theorem builds_sell :
    Builds (SellAccounts addresses) (sellReading addresses)
      (SellParams.swap addresses) where
  sound event ix swap built := by
    simp only [SellParams.swap, bind_eq_ok_iff, readAccounts_eq_ok_iff,
      corroborate_eq_ok_iff, pure, Except.pure, Except.ok.injEq] at built
    obtain ⟨accounts, parsed, _, poolEq, rfl⟩ := built
    exact ⟨accounts, parsed, SwapReading.comparedAgree_ofPools.mpr poolEq,
      ⟨rfl, rfl, rfl, rfl, rfl⟩⟩
  complete event ix accounts parsed agree := by
    have poolEq := SwapReading.comparedAgree_ofPools.mp agree
    simp only [SellParams.swap, bind_eq_ok_iff, readAccounts_eq_ok_iff,
      corroborate_eq_ok_iff, pure, Except.pure, Except.ok.injEq]
    exact ⟨_, accounts, parsed, (), poolEq, rfl⟩

theorem extract_eq_some_iff {swap : Swap} :
    extract utf8Error addresses ix all = some swap ↔
      tryExtract utf8Error addresses ix all = .ok (some swap) := by
  rw [extract]
  cases tryExtract utf8Error addresses ix all <;> simp

theorem swapVia_eq_some_iff {Event : Type} {event : ProtocolEvent Event}
    {build : Event → ParsedInstruction → Except ExtractError Swap}
    {swap : Swap} :
    swapVia event build ix all = .ok (some swap) ↔
      ∃ found, childEvent event ix all programId = .ok found ∧
        build found ix = .ok swap := by
  simp only [swapVia, bind_eq_ok_iff, pure, Except.pure, Except.ok.injEq,
    Option.some.injEq, exists_eq_right]

theorem explains_of_swapVia {Event : Type} {event : ProtocolEvent Event}
    {struct : AccountsStruct}
    {read : Accounts struct.layout → Event → SwapReading}
    {build : Event → ParsedInstruction → Except ExtractError Swap}
    (builds : Builds struct read build)
    (tryEq : tryExtract utf8Error addresses ix all =
      swapVia event build ix all) :
    SwapReading.Explains (readBoth event struct read ix all programId) True
      (extract utf8Error addresses ix all) := by
  refine builds.explains (fun swap recorded => ?_)
    fun found built here builtEq _ =>
      ⟨built, extract_eq_some_iff.mpr <| tryEq.trans <|
        swapVia_eq_some_iff.mpr ⟨found, here, builtEq⟩⟩
  obtain ⟨found, here, builtEq⟩ := swapVia_eq_some_iff.mp
    (tryEq.symm.trans (extract_eq_some_iff.mp recorded))
  exact ⟨trivial, found, swap, swap.completedCurve, here, builtEq, rfl⟩

/-- What is read is the event and the accounts of a buy or of a sell. -/
theorem exists_of_reading {read : SwapReading}
    (readEq : reading utf8Error addresses ix all = some read) :
    ∃ parsed, pumpSwapInstruction.tryFromSlice ix.data = .ok parsed ∧
      ((parsed.variant = .buy ∨ parsed.variant = .buyExactQuoteIn) ∧
          (∃ event accounts,
            childEvent (buyEvent utf8Error) ix all programId = .ok event ∧
              (BuyAccounts addresses).fromAccountKeys ix.accounts =
                  .ok accounts ∧
                buyReading addresses accounts event = read) ∨
        parsed.variant = .sell ∧
          ∃ event accounts,
            childEvent sellEvent ix all programId = .ok event ∧
              (SellAccounts addresses).fromAccountKeys ix.accounts =
                  .ok accounts ∧
                sellReading addresses accounts event = read) := by
  rw [reading] at readEq
  split_ifs at readEq
  simp only [Option.bind_eq_bind, Option.bind_eq_some_iff, toOption_eq_some_iff]
    at readEq
  obtain ⟨parsed, decoded, readEq⟩ := readEq
  refine ⟨parsed, decoded, ?_⟩
  split at readEq
  next isBuy =>
    exact .inl ⟨.inl isBuy, readBoth_eq_some_iff.mp readEq⟩
  next isBuy =>
    exact .inl ⟨.inr isBuy, readBoth_eq_some_iff.mp readEq⟩
  next isSell =>
    exact .inr ⟨isSell, readBoth_eq_some_iff.mp readEq⟩
  next => cases readEq

/-- The pool is compared and the trader is not. -/
theorem explains (utf8Error : Bytes → String) (addresses : AddressDerivation)
    (ix : ParsedInstruction) (all : List ParsedInstruction) :
    SwapReading.Explains (reading utf8Error addresses ix all) True
      (extract utf8Error addresses ix all) := by
  have nothing (readEq : reading utf8Error addresses ix all = none)
      (tryEq : tryExtract utf8Error addresses ix all = .ok none) :
      SwapReading.Explains (reading utf8Error addresses ix all) True
        (extract utf8Error addresses ix all) := by
    rw [readEq, extract, tryEq]
    exact SwapReading.explains_none
  by_cases tagged : hasEventTag ix.data = true
  · exact nothing (if_pos tagged) (if_pos tagged)
  have readEq : reading utf8Error addresses ix all = _ := if_neg tagged
  have tryEq : tryExtract utf8Error addresses ix all = _ := if_neg tagged
  cases decoded : pumpSwapInstruction.tryFromSlice ix.data with
  | error _ =>
      rw [decoded] at readEq tryEq
      exact nothing readEq tryEq
  | ok parsed =>
      rw [decoded] at readEq tryEq
      obtain ⟨variant, params⟩ := parsed
      cases variant with
      | buy => exact readEq ▸ explains_of_swapVia builds_buySwap tryEq
      | buyExactQuoteIn =>
          exact readEq ▸ explains_of_swapVia builds_buySwap tryEq
      | sell => exact readEq ▸ explains_of_swapVia builds_sell tryEq
      | _ => exact nothing readEq tryEq

end Extract

end PumpSwap

namespace MeteoraDlmm

section Reading

variable (sdk : Sdk)

/-- What a swap's accounts and its event say. -/
def swapReading (common : SwapCommon) (event : SwapEvent) : SwapReading :=
  .ofPools .meteoraDlmm (common.lbPair, common.user) (event.lbPair, event.sender)
    event.amountIn event.amountOut

/-- What `MeteoraDlmmExtractor` reads for an instruction. -/
def reading (ix : ParsedInstruction) (all : List ParsedInstruction) :
    Option SwapReading :=
  if hasEventTag ix.data then none
  else do
    let (_, common) ← parseSwap sdk ix
    let body ← findEventBody ix all swapEventDiscriminator
    let event ← sdk.swapEvent body
    return swapReading common event

theorem exists_of_reading {ix : ParsedInstruction}
    {all : List ParsedInstruction} {read : SwapReading}
    (readEq : reading sdk ix all = some read) :
    ∃ form common body event, parseSwap sdk ix = some (form, common) ∧
      findEventBody ix all swapEventDiscriminator = some body ∧
        sdk.swapEvent body = some event ∧ swapReading common event = read := by
  rw [reading] at readEq
  split_ifs at readEq
  simp only [Option.bind_eq_bind, Option.bind_eq_some_iff, pure,
    Option.some.injEq] at readEq
  obtain ⟨⟨form, common⟩, parsed, body, found, event, decoded, rfl⟩ := readEq
  exact ⟨form, common, body, event, parsed, found, decoded, rfl⟩

/-- The pair is compared and the trader is not. -/
theorem explains (ix : ParsedInstruction) (all : List ParsedInstruction) :
    SwapReading.Explains (reading sdk ix all) True (extract sdk ix all) := by
  rw [reading, extract]
  split_ifs with tagged
  · exact SwapReading.explains_none
  cases parsed : parseSwap sdk ix with
  | none => exact SwapReading.explains_none
  | some parts =>
      obtain ⟨form, common⟩ := parts
      simp only [Option.bind_eq_bind, Option.bind_some, extractSwap]
      cases findEventBody ix all swapEventDiscriminator with
      | none => exact SwapReading.explains_none
      | some body =>
          simp only [Option.bind_some]
          cases sdk.swapEvent body with
          | none => exact SwapReading.explains_none
          | some event =>
              simp only [Option.bind_some]
              by_cases other : event.lbPair ≠ common.lbPair
              · rw [if_pos other]
                constructor
                · rintro _ ⟨⟩
                · rintro _ ⟨⟩ agree
                  exact absurd (SwapReading.comparedAgree_ofPools.mp agree) other
              · rw [if_neg other]
                refine ⟨?_, fun _ _ _ _ => ⟨_, rfl⟩⟩
                rintro _ ⟨⟩
                exact ⟨trivial, _, rfl,
                  SwapReading.comparedAgree_ofPools.mpr (not_not.mp other),
                  ⟨rfl, rfl, rfl, rfl, rfl⟩⟩

end Reading

end MeteoraDlmm

end SolanaProtocols
