import SolanaProtocols.SwapReading

/-!
# Corroboration

A recorded swap is corroborated when the instruction and the event it was built
from agree on every identity fact that both carry.  The extractors compare some
of these facts and not the others, so a swap is corroborated on exactly the
inputs where the facts that are not compared agree as well.
-/

namespace SolanaProtocols

open Parsing Chain Protocols
open Pumpfun (U64)

/-- What the extractors take from other crates. -/
structure Externals where
  utf8Error : Bytes → String
  addresses : AddressDerivation
  dlmm : MeteoraDlmm.Sdk

/-- The extractors that record a swap at its instruction. -/
inductive SwapExtractor
  | pumpfun
  | pumpSwap
  | meteoraDlmm
deriving DecidableEq, Repr

namespace SwapExtractor

variable (externals : Externals) (extractor : SwapExtractor)
  (ix : ParsedInstruction) (all : List ParsedInstruction)

/-- The swap that the extractor records for an instruction. -/
def extract : Option Swap :=
  match extractor with
  | pumpfun =>
      Pumpfun.extract externals.utf8Error externals.addresses ix all
  | pumpSwap =>
      PumpSwap.extract externals.utf8Error externals.addresses ix all
  | meteoraDlmm => MeteoraDlmm.extract externals.dlmm ix all

/-- What the extractor reads for an instruction. -/
def reading : Option SwapReading :=
  match extractor with
  | pumpfun =>
      Pumpfun.reading externals.utf8Error externals.addresses ix all
  | pumpSwap =>
      PumpSwap.reading externals.utf8Error externals.addresses ix all
  | meteoraDlmm => MeteoraDlmm.reading externals.dlmm ix all

/-- Nothing that is looked up after the identity fails. -/
def GoesOn : Prop :=
  match extractor with
  | pumpfun => Pumpfun.CompletesReadably ix all
  | pumpSwap => True
  | meteoraDlmm => True

theorem explains :
    SwapReading.Explains (extractor.reading externals ix all)
      (extractor.GoesOn ix all) (extractor.extract externals ix all) := by
  cases extractor with
  | pumpfun => exact Pumpfun.explains _ _ ix all
  | pumpSwap => exact PumpSwap.explains _ _ ix all
  | meteoraDlmm => exact MeteoraDlmm.explains _ ix all

/-- A recorded swap is what its two sources say, and they agree on every fact
that both carry. -/
def Corroborated : Prop :=
  ∀ swap, extractor.extract externals ix all = some swap →
    ∃ reading, extractor.reading externals ix all = some reading ∧
      reading.Describes swap ∧
        ∀ fact : Fact, fact.Agrees reading.accounts reading.event

/-- Whenever the compared facts let a swap through, the others agree too. -/
def UncheckedAgree : Prop :=
  ∀ reading, extractor.reading externals ix all = some reading →
    reading.ComparedAgree → extractor.GoesOn ix all →
      ∀ fact ∉ reading.compared,
        Fact.Agrees reading.accounts reading.event fact

variable {externals extractor ix all}

theorem agrees_of_corroborated {reading : SwapReading}
    (corroborated : extractor.Corroborated externals ix all)
    (readEq : extractor.reading externals ix all = some reading)
    (agree : reading.ComparedAgree) (goesOn : extractor.GoesOn ix all)
    (fact : Fact) : fact.Agrees reading.accounts reading.event := by
  obtain ⟨swap, recorded⟩ :=
    (extractor.explains externals ix all).complete reading readEq agree goesOn
  obtain ⟨reading', readEq', -, agrees⟩ := corroborated swap recorded
  cases readEq.symm.trans readEq'
  exact agrees fact

/-- A recorded swap is corroborated on exactly the inputs where the facts that
its extractor does not compare agree. -/
theorem corroborated_iff (externals : Externals) (extractor : SwapExtractor)
    (ix : ParsedInstruction) (all : List ParsedInstruction) :
    extractor.Corroborated externals ix all ↔
      extractor.UncheckedAgree externals ix all := by
  constructor
  · intro corroborated reading readEq agree goesOn fact _
    exact agrees_of_corroborated corroborated readEq agree goesOn fact
  · intro unchecked swap recorded
    obtain ⟨goesOn, reading, readEq, agree, describes⟩ :=
      (extractor.explains externals ix all).sound swap recorded
    refine ⟨reading, readEq, describes, fun fact => ?_⟩
    by_cases compared : fact ∈ reading.compared
    · exact agree fact compared
    · exact unchecked reading readEq agree goesOn fact compared

end SwapExtractor

namespace Pumpfun

/-- Externals of which a first sell uses none. -/
def plainExternals : Externals where
  utf8Error _ := ""
  addresses := ⟨fun _ _ => 0, fun _ _ => 0⟩
  dlmm := ⟨fun _ => Vector.replicate 8 0, fun _ _ => false, fun _ => none⟩

/-- A sell of ten tokens of the mint `2` by the wallet `6`. -/
def plainSell : (pumpfunInstruction plainExternals.utf8Error).Instruction where
  variant := .sell
  params := SellParams.mk 10 0 .none

def sellInstruction : ParsedInstruction where
  programId := programId
  accounts := [0, 1, 2, 3, 4, 5, 6, 7, 8, 9, 10, 11, 12, 13]
  data := plainSell.discriminator.toList ++ plainSell.arguments
  logs := []
  stackHeight := 1
  parentIndex := none
  instructionIndex := 0

/-- The event of a sell of the same mint by the wallet `99`. -/
def otherTraderEvent : TradeEvent where
  mint := 2
  solAmount := 5
  tokenAmount := 10
  isBuy := false
  user := 99
  timestamp := 0
  virtualSolReserves := 1000
  virtualTokenReserves := 1000
  realSolReserves := 500
  realTokenReserves := 500
  feeRecipient := 1
  feeBasisPoints := 0
  fee := 0
  creator := 0
  creatorFeeBasisPoints := 0
  creatorFee := 0
  trackVolume := false
  totalUnclaimedTokens := 0
  totalClaimedTokens := 0
  currentSolVolume := 0
  lastUpdateTimestamp := 0
  ixName := ⟨"sell", by decide⟩
  mayhemMode := false
  cashbackFeeBasisPoints := 0
  cashback := 0
  buybackFeeBasisPoints := 0
  buybackFee := 0
  shareholders := ⟨[], by decide⟩
  quoteMint := wsol
  quoteAmount := 5
  virtualQuoteReserves := 1000
  realQuoteReserves := 500

def otherTraderInstruction : ParsedInstruction where
  programId := programId
  accounts := [10]
  data := eventData (tradeEvent plainExternals.utf8Error).discriminator
    ((TradeEvent.fields plainExternals.utf8Error).encode otherTraderEvent)
  logs := []
  stackHeight := 2
  parentIndex := some 0
  instructionIndex := 1

theorem childrenOn_sellInstruction :
    childrenOn sellInstruction [sellInstruction, otherTraderInstruction]
      programId = [otherTraderInstruction] :=
  rfl

theorem completesReadably_sellInstruction :
    CompletesReadably sellInstruction
      [sellInstruction, otherTraderInstruction] := by
  refine ⟨none, optionalChildEvent_eq_none ?_ rfl⟩
  have other : eventBody otherTraderInstruction.data
      completeEvent.discriminator = none :=
    eventBody_of_ne (by decide)
  rw [childrenOn_sellInstruction, fromChildren,
    ProtocolEvent.fromEventInstruction, other]
  rfl

theorem childEvent_sellInstruction :
    childEvent (tradeEvent plainExternals.utf8Error) sellInstruction
      [sellInstruction, otherTraderInstruction] programId =
        .ok otherTraderEvent := by
  have strict : (tradeEvent plainExternals.utf8Error).tryFromSlice =
      (TradeEvent.fields plainExternals.utf8Error).tryFromSlice := rfl
  refine childEvent_of_children childrenOn_sellInstruction rfl ?_
  rw [ProtocolEvent.fromEventBody_eq_ok_iff, strict,
    PrefixCodec.tryFromSlice_eq_ok_iff]

/-- The sell of one wallet is recorded from the event of another. -/
theorem not_corroborated_sellInstruction :
    ¬ ∀ (externals : Externals) (extractor : SwapExtractor)
      (all : List ParsedInstruction), (all.map (·.instructionIndex)).Nodup →
        ∀ ix ∈ all, extractor.Corroborated externals ix all := by
  intro claimed
  have corroborated := claimed plainExternals .pumpfun
    [sellInstruction, otherTraderInstruction] (by decide) sellInstruction
    List.mem_cons_self
  obtain ⟨accounts, read⟩ : ∃ accounts,
      (SellAccounts plainExternals.addresses).fromAccountKeys
        sellInstruction.accounts = .ok accounts :=
    AccountsStruct.exists_of_length rfl
  have account (name : AccountName)
      (inside : SellAccounts.slots.indexOf name < SellAccounts.slots.length) :
      (SellAccounts plainExternals.addresses).account accounts name =
        sellInstruction.accounts.getD (SellAccounts.slots.indexOf name) 0 :=
    AccountsStruct.account_eq read (by decide) inside
  have decoded : (pumpfunInstruction plainExternals.utf8Error).tryFromSlice
      sellInstruction.data = .ok plainSell :=
    (InstructionEnum.tryFromSlice_eq_ok_iff
      instructionDiscriminator_injective).mpr ⟨rfl, trivial⟩
  have untagged : ¬ hasEventTag sellInstruction.data = true := by decide
  have readEq : SwapExtractor.pumpfun.reading plainExternals sellInstruction
      [sellInstruction, otherTraderInstruction] =
        some (SwapForm.sell.reading plainExternals.addresses _ accounts
          otherTraderEvent) := by
    refine (reading_of_form untagged decoded rfl).trans ?_
    exact readBoth_eq_some_iff.mpr
      ⟨_, accounts, childEvent_sellInstruction, read, rfl⟩
  have mintAgrees : (SwapForm.sell.reading plainExternals.addresses _ accounts
      otherTraderEvent).ComparedAgree := by
    rw [SwapForm.comparedAgree_of_first rfl]
    exact (account .mint (by decide)).symm
  have traderAgrees := SwapExtractor.agrees_of_corroborated corroborated readEq
    mintAgrees completesReadably_sellInstruction .trader
  have same : (SellAccounts plainExternals.addresses).account accounts .user =
      99 :=
    consistent_some_iff.mp traderAgrees
  rw [account .user (by decide)] at same
  exact absurd same (by decide)

end Pumpfun

end SolanaProtocols
