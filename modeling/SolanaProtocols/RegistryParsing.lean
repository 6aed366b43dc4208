import SolanaProtocols.PoolParsers

/-!
# Parsing through the registry

The registry with every parser finds the parser of each program, and what a
parser returns names its own protocol.  A program with fixed accounts has each of
its instructions parsed, and errors say what is wrong with the data first and with
the accounts second.
-/

namespace SolanaProtocols

open Parsing Chain Protocols

namespace Parsing.Registry

namespace ProtocolRegistry

theorem parsers_register {registry : ProtocolRegistry} {parser : ProtocolParser} :
    (registry.register parser).parsers =
      Function.update registry.parsers parser.programId (some parser) :=
  rfl

/-- Registered parsers are found by their programs. -/
theorem parsers_foldl_iff {registry : ProtocolRegistry} {parsers : List ProtocolParser}
    {parser : ProtocolParser} {programId : Pubkey} :
    (parsers.foldl register registry).parsers programId = some parser ↔
      (parser ∈ parsers ∧ parser.programId = programId) ∨
        registry.parsers programId = some parser := by
  induction parsers generalizing registry with
  | nil => simp
  | cons first parsers ih =>
      rw [List.foldl_cons, ih, parsers_register]
      by_cases same : programId = first.programId
      · rw [same, Function.update_self, Option.some.injEq]
        constructor
        · rintro (⟨member, sameProgram⟩ | rfl)
          · exact .inl ⟨.tail _ member, sameProgram⟩
          · exact .inl ⟨.head _, rfl⟩
        · rintro (⟨-, sameProgram⟩ | found)
          · exact .inr (ProtocolParser.programId_injective sameProgram).symm
          · exact .inr (ProtocolParser.programId_injective
              (registry.keyed _ _ found)).symm
      · rw [Function.update_of_ne same, List.mem_cons]
        constructor
        · rintro (⟨member, sameProgram⟩ | found)
          · exact .inl ⟨.inr member, sameProgram⟩
          · exact .inr found
        · rintro (⟨rfl | member, sameProgram⟩ | found)
          · exact absurd sameProgram.symm same
          · exact .inl ⟨member, sameProgram⟩
          · exact .inr found

@[simp]
theorem withAllProtocols_iff {parser : ProtocolParser} {programId : Pubkey} :
    withAllProtocols.parsers programId = some parser ↔ parser.programId = programId := by
  have listed : parser ∈ ([.pumpfun, .pumpSwap, .raydiumV4, .raydiumClmm, .raydiumCpmm,
      .raydiumLaunchpad, .meteoraDlmm, .meteoraDbc] : List ProtocolParser) := by
    cases parser <;> decide
  rw [withAllProtocols, parsers_foldl_iff, and_iff_right listed]
  exact or_iff_left (by rw [new]; exact fun found => by cases found)

end ProtocolRegistry

section Events

variable {utf8Error : Bytes → String} {addresses : AddressDerivation}
  {ix : ParsedInstruction} {event : RegistryEvent}

/-- The parser of pumpfun returns swaps and token creations of pumpfun. -/
theorem pumpfunParse_cases {parsed : Option ProtocolEvent}
    (isParsed : pumpfunParse utf8Error ix = .ok parsed) :
    parsed = none ∨ ∃ event : RegistryEvent, event.protocol = .pumpfun ∧
      parsed = some event.erase ∧ RegistryEvent.ofPumpfun event.erase = some event := by
  rw [pumpfunParse] at isParsed
  split at isParsed
  next => cases isParsed
  next instruction decoded =>
    obtain ⟨variant, params⟩ := instruction
    have ofSwap {variant : Pumpfun.PumpfunVariant}
        (isSwap : pumpfunParseSwap utf8Error ix variant = .ok parsed) :
        parsed = none ∨ ∃ event : RegistryEvent, event.protocol = .pumpfun ∧
          parsed = some event.erase ∧
            RegistryEvent.ofPumpfun event.erase = some event := by
      obtain ⟨mint, curve, user, logData, -, -, -, -, -, rfl⟩ :=
        pumpfunParseSwap_eq_ok_iff.mp isSwap
      exact .inr ⟨.swap _, rfl, rfl, rfl⟩
    cases variant with
    | buy => exact ofSwap isParsed
    | buyExactSolIn => exact ofSwap isParsed
    | sell => exact ofSwap isParsed
    | create =>
        simp only [pumpfunEvent, pumpfunParseCreate, bind_eq_ok_iff] at isParsed
        obtain ⟨mint, -, curve, -, creator, -, made⟩ := isParsed
        cases made
        exact .inr ⟨.tokenCreation _, rfl, rfl, rfl⟩
    | createV2 =>
        simp only [pumpfunEvent, pumpfunParseCreateV2, bind_eq_ok_iff] at isParsed
        obtain ⟨mint, -, curve, -, signer, -, made⟩ := isParsed
        cases made
        exact .inr ⟨.tokenCreation _, rfl, rfl, rfl⟩
    | _ =>
        cases isParsed
        exact .inl rfl

theorem erase_pumpfun :
    (ProtocolParser.parseEvent utf8Error addresses .pumpfun ix).map
        (·.map RegistryEvent.erase) =
      pumpfunParse utf8Error ix := by
  rw [ProtocolParser.parseEvent]
  cases parsed : pumpfunParse utf8Error ix with
  | error err => rfl
  | ok event =>
      rcases pumpfunParse_cases parsed with rfl | ⟨full, -, rfl, widened⟩
      · rfl
      · simp only [Except.map, Option.bind_some, widened, Option.map_some]

/-- The variants of an event parser all name a protocol. -/
def EventParser.Names (parser : EventParser) (protocol : Protocol) : Prop :=
  ∀ variant, ∀ reader ∈ parser.reader variant, ∀ accounts params,
    (reader.event accounts params).protocol = protocol

theorem EventParser.Names.protocol_eq {parser : EventParser} {protocol : Protocol}
    (names : parser.Names protocol) (parsed : parser.parse ix = .ok (some event)) :
    event.protocol = protocol := by
  obtain ⟨instruction, -, reader, found, accounts, -, rfl⟩ :=
    EventParser.parse_eq_ok_some_iff.mp parsed
  exact names _ reader found accounts _

theorem pumpSwapParser_names : (PumpSwap.pumpSwapParser addresses).Names .pumpSwap := by
  intro variant reader found accounts params
  cases variant <;> cases found <;> rfl

theorem raydiumV4_names : RaydiumV4.fixedParser.eventParser.Names .raydiumV4 := by
  intro variant reader found accounts params
  cases variant <;> cases found <;> rfl

theorem raydiumClmm_names : RaydiumClmm.fixedParser.eventParser.Names .raydiumClmm := by
  intro variant reader found accounts params
  cases variant <;> cases found <;> rfl

theorem raydiumCpmm_names : RaydiumCpmm.fixedParser.eventParser.Names .raydiumCpmm := by
  intro variant reader found accounts params
  cases variant <;> cases found <;> rfl

theorem raydiumLaunchpad_names :
    RaydiumLaunchpad.fixedParser.eventParser.Names .raydiumLaunchpad := by
  intro variant reader found accounts params
  cases variant <;> cases found <;> rfl

theorem meteoraDbc_names : MeteoraDbc.fixedParser.eventParser.Names .meteoraDbc := by
  intro variant reader found accounts params
  cases variant <;> cases found <;> rfl

/-- What a parser returns names its protocol. -/
theorem ProtocolParser.protocol_eq {parser : ProtocolParser}
    (parsed : parser.parseEvent utf8Error addresses ix = .ok (some event)) :
    event.protocol = parser.protocol := by
  cases parser with
  | pumpfun =>
      rw [ProtocolParser.parseEvent] at parsed
      cases isParsed : pumpfunParse utf8Error ix with
      | error err => rw [isParsed] at parsed; cases parsed
      | ok protocolEvent =>
          rw [isParsed] at parsed
          rcases pumpfunParse_cases isParsed with rfl | ⟨full, named, rfl, widened⟩
          · cases parsed
          · simp only [Except.map, Option.bind_some, widened, Except.ok.injEq,
              Option.some.injEq] at parsed
            exact parsed ▸ named
  | pumpSwap => exact pumpSwapParser_names.protocol_eq parsed
  | raydiumV4 => exact raydiumV4_names.protocol_eq parsed
  | raydiumClmm => exact raydiumClmm_names.protocol_eq parsed
  | raydiumCpmm => exact raydiumCpmm_names.protocol_eq parsed
  | raydiumLaunchpad => exact raydiumLaunchpad_names.protocol_eq parsed
  | meteoraDlmm => cases parsed
  | meteoraDbc => exact meteoraDbc_names.protocol_eq parsed

end Events

theorem ProtocolRegistry.parseEvent_withAllProtocols {utf8Error : Bytes → String}
    {addresses : AddressDerivation} {ix : ParsedInstruction} {parser : ProtocolParser}
    (program : ix.programId = parser.programId) :
    withAllProtocols.parseEvent utf8Error addresses ix =
      parser.parseEvent utf8Error addresses ix := by
  rw [ProtocolRegistry.parseEvent, withAllProtocols_iff.mpr program.symm]

/-- The parsers of programs with fixed accounts. -/
def ProtocolParser.fixed : ProtocolParser → Option FixedParser
  | raydiumV4 => some RaydiumV4.fixedParser
  | raydiumClmm => some RaydiumClmm.fixedParser
  | raydiumCpmm => some RaydiumCpmm.fixedParser
  | raydiumLaunchpad => some RaydiumLaunchpad.fixedParser
  | meteoraDbc => some MeteoraDbc.fixedParser
  | pumpfun | pumpSwap | meteoraDlmm => none

theorem ProtocolParser.parseEvent_of_fixed {utf8Error : Bytes → String}
    {addresses : AddressDerivation} {parser : ProtocolParser} {fixed : FixedParser}
    (isFixed : parser.fixed = some fixed) :
    parser.parseEvent utf8Error addresses = fixed.eventParser.parse := by
  cases parser <;> cases isFixed <;> rfl

/-- Of an instruction, what is parsed and what is refused, and why. -/
structure FixedParser.ReadsExactly (parser : FixedParser) (ix : ParsedInstruction)
    (parsed : Except ParseError (Option RegistryEvent)) : Prop where
  accepts : ∀ event, parsed = .ok event ↔ ∃ call : parser.Call,
    ix.data = call.instruction.data ∧ ix.accounts = call.keys ∧ event = some call.event
  undecoded : ∀ err, parser.enum.tryFromSlice ix.data = .error err →
    parsed = .error (.instruction err)
  few : ∀ instruction : parser.enum.Instruction, ix.data = instruction.data →
    ix.accounts.length < (parser.struct instruction.variant).slots.length →
      parsed = .error (.instruction (.notEnoughAccounts
        (parser.struct instruction.variant).slots.length ix.accounts.length))
  more : ∀ (call : parser.Call) (first : Pubkey) (rest : List Pubkey),
    ix.data = call.instruction.data → ix.accounts = call.keys ++ first :: rest →
      parsed = .error (.instruction (.unmodelledAccounts
        (parser.struct call.instruction.variant).slots.length ix.accounts.length first))

/-- A program with fixed accounts has just its own instructions parsed, byte for byte
and account for account; no instruction is skipped.  Data that does not decode is
reported before the accounts are looked at, then a count of accounts that is too low,
or the first account past the declared ones. -/
theorem ProtocolRegistry.reads_exactly (utf8Error : Bytes → String)
    (addresses : AddressDerivation) {ix : ParsedInstruction} {parser : ProtocolParser}
    {fixed : FixedParser} (isFixed : parser.fixed = some fixed)
    (program : ix.programId = parser.programId) :
    fixed.ReadsExactly ix (withAllProtocols.parseEvent utf8Error addresses ix) := by
  rw [parseEvent_withAllProtocols program, ProtocolParser.parseEvent_of_fixed isFixed]
  exact
    { accepts := fun _ => FixedParser.parse_eq_ok_iff
      undecoded := fun _ => @EventParser.parse_of_undecoded fixed.eventParser ix _
      few := fun _ => FixedParser.parse_of_few
      more := fun call first rest data accounts => by
        have length : ix.accounts.length =
            (fixed.struct call.instruction.variant).slots.length + (rest.length + 1) := by
          rw [accounts, List.length_append, FixedParser.Call.keys,
            FixedAccounts.length_keys, List.length_cons]
        rw [FixedParser.parse_of_more data accounts, length] }

/-- A withdrawal without accounts. -/
def bareWithdrawal : ParsedInstruction where
  programId := ProtocolParser.raydiumV4.programId
  accounts := []
  data := (RaydiumV4.instructionParams .withdraw).toData (RaydiumV4.WithdrawParams.mk 1)
  logs := []
  stackHeight := 1
  parentIndex := none
  instructionIndex := 0

theorem ProtocolRegistry.reads_exactly_few :
    withAllProtocols.parseEvent (fun _ => "") ⟨fun _ _ => 0, fun _ _ => 0⟩ bareWithdrawal =
      .error (.instruction (.notEnoughAccounts 20 0)) :=
  (@ProtocolRegistry.reads_exactly (fun _ => "") ⟨fun _ _ => 0, fun _ _ => 0⟩
    bareWithdrawal .raydiumV4 _ rfl rfl).few ⟨.withdraw, RaydiumV4.WithdrawParams.mk 1⟩ rfl
      (by decide)

namespace ProtocolRegistry

section Runs

variable {registry : ProtocolRegistry} {utf8Error : Bytes → String}
  {addresses : AddressDerivation} {ix : ParsedInstruction}
  {instructions : List ParsedInstruction}

variable (registry utf8Error addresses) in
/-- What an instruction adds to the results. -/
def resultOf (ix : ParsedInstruction) : Option (Except ParseError RegistryEvent) :=
  match registry.tryParse utf8Error addresses ix with
  | .ok (some event) => some (.ok event)
  | .ok none => none
  | .error err => some (.error err)

/-- The results are those of the instructions, one after another. -/
theorem parseAll_eq :
    registry.parseAll utf8Error addresses instructions =
      instructions.filterMap (registry.resultOf utf8Error addresses) := by
  have collected (events : List (Except ParseError RegistryEvent)) :
      instructions.foldl (fun events ix =>
          match registry.tryParse utf8Error addresses ix with
          | .ok (some event) => events ++ [.ok event]
          | .ok none => events
          | .error err => events ++ [.error err]) events =
        events ++ instructions.filterMap (registry.resultOf utf8Error addresses) := by
    induction instructions generalizing events with
    | nil => exact (List.append_nil events).symm
    | cons ix instructions ih =>
        rw [List.foldl_cons, ih, List.filterMap_cons, resultOf]
        split <;> simp [*]
  exact collected []

theorem resultOf_of_unregistered (unregistered : registry.parsers ix.programId = none) :
    registry.resultOf utf8Error addresses ix = none := by
  rw [resultOf, tryParse, unregistered]

theorem resultOf_of_registered {parser : ProtocolParser}
    (registered : registry.parsers ix.programId = some parser) :
    registry.resultOf utf8Error addresses ix =
      match parser.parseEvent utf8Error addresses ix with
      | .ok (some event) => some (.ok event)
      | .ok none => none
      | .error err => some (.error err) := by
  rw [resultOf, tryParse, registered]

/-- Whatever list of instructions is parsed by the full registry, those of other
programs make no difference, and every result is that of one of the instructions; if
it is an event, the instruction called the program of the event's protocol. -/
theorem parseAll_attributed (utf8Error : Bytes → String) (addresses : AddressDerivation)
    (instructions : List ParsedInstruction) :
    withAllProtocols.parseAll utf8Error addresses (instructions.filter fun ix =>
        (withAllProtocols.parsers ix.programId).isSome) =
      withAllProtocols.parseAll utf8Error addresses instructions ∧
    ∀ result ∈ withAllProtocols.parseAll utf8Error addresses instructions,
      ∃ ix ∈ instructions,
        withAllProtocols.parseAll utf8Error addresses [ix] = [result] ∧
          ∀ event, result = .ok event → ix.programId = event.protocol.programId := by
  simp only [parseAll_eq]
  constructor
  · rw [List.filterMap_filter]
    refine List.filterMap_congr fun ix _ => ?_
    cases registered : withAllProtocols.parsers ix.programId with
    | none => exact (resultOf_of_unregistered registered).symm
    | some parser => rfl
  · intro result isResult
    obtain ⟨ix, member, ofIx⟩ := List.mem_filterMap.mp isResult
    refine ⟨ix, member, List.filterMap_cons_some ofIx, ?_⟩
    rintro event rfl
    cases registered : withAllProtocols.parsers ix.programId with
    | none =>
        rw [resultOf_of_unregistered registered] at ofIx
        cases ofIx
    | some parser =>
        rw [resultOf_of_registered registered] at ofIx
        split at ofIx
        next parsed isParsed =>
          cases ofIx
          rw [ProtocolParser.protocol_eq isParsed]
          exact (withAllProtocols_iff.mp registered).symm
        next => cases ofIx
        next => cases ofIx

variable (registry utf8Error addresses) in
/-- What an instruction adds to the swaps. -/
def swapOf (ix : ParsedInstruction) : Option (Except ParseError SwapEvent) :=
  (registry.resultOf utf8Error addresses ix).bind fun
    | .ok event => event.asSwap.map .ok
    | .error err => some (.error err)

theorem parseSwaps_eq :
    registry.parseSwaps utf8Error addresses instructions =
      instructions.filterMap (registry.swapOf utf8Error addresses) := by
  rw [parseSwaps, parseKind, parseAll_eq, List.filterMap_filterMap]
  rfl

end Runs

end ProtocolRegistry

end Parsing.Registry

end SolanaProtocols
