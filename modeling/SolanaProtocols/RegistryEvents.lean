import SolanaProtocols.PoolAccounts
import SolanaProtocols.PoolInstructions
import SolanaProtocols.PumpInstructions
import SolanaProtocols.RegistrySwap

/-!
# Events of the registry

Each parser of the registry decodes the instruction first and reads the accounts
that its variant has second.  The Raydium programs and the bonding curves of
Meteora have fixed accounts, so their parsers accept the data and the accounts of
each instruction, byte for byte and key for key, and nothing else.
-/

namespace SolanaProtocols

open Parsing Chain Protocols
open Pumpfun (U64)

namespace Parsing.Registry

/-- A pool creation, as it was parsed. -/
structure PoolCreationEvent where
  protocol : Protocol
  pool : Pubkey
  tokenA : Pubkey
  tokenB : Pubkey
  initialAmountA : U64
  initialAmountB : U64
  creator : Option Pubkey := none
  lpMint : Option Pubkey := none
deriving DecidableEq

/-- Liquidity that was added or removed, as it was parsed. -/
structure LiquidityEvent where
  protocol : Protocol
  pool : Pubkey
  user : Pubkey
  tokenA : Pubkey
  tokenB : Pubkey
  amountA : U64
  amountB : U64
  lpAmount : Option U64 := none
  liquidityDelta : Option (BitVec 128) := none
  tickRange : Option (BitVec 32 × BitVec 32) := none
  binRange : Option (BitVec 32 × BitVec 32) := none
deriving DecidableEq

/-- The events of every protocol, with their data. -/
inductive RegistryEvent
  | swap (event : SwapEvent)
  | tokenCreation (event : TokenCreationEvent)
  | poolCreation (event : PoolCreationEvent)
  | liquidityAdd (event : LiquidityEvent)
  | liquidityRemove (event : LiquidityEvent)
deriving DecidableEq

namespace RegistryEvent

/-- The protocol that produced the event. -/
def protocol : RegistryEvent → Protocol
  | swap event => event.protocol
  | tokenCreation event => event.protocol
  | poolCreation event => event.protocol
  | liquidityAdd event => event.protocol
  | liquidityRemove event => event.protocol

def asSwap : RegistryEvent → Option SwapEvent
  | swap event => some event
  | _ => none

def erase : RegistryEvent → ProtocolEvent
  | swap event => .swap event
  | tokenCreation event => .tokenCreation event
  | poolCreation _ => .poolCreation
  | liquidityAdd _ => .liquidityAdd
  | liquidityRemove _ => .liquidityRemove

/-- The events that the parser of pumpfun returns. -/
def ofPumpfun : ProtocolEvent → Option RegistryEvent
  | .swap event => some (.swap event)
  | .tokenCreation event => some (.tokenCreation event)
  | _ => none

end RegistryEvent

/-- How a variant's accounts are read, and the event that they make with its
arguments. -/
structure EventReader (Params : Type) where
  Accounts : Type
  fromAccountKeys : List Pubkey → Except InstructionParseError Accounts
  event : Accounts → Params → RegistryEvent

def EventReader.fixed {Params A : Type} (struct : FixedAccounts A)
    (event : A → Params → RegistryEvent) : EventReader Params where
  Accounts := A
  fromAccountKeys := struct.fromAccountKeys
  event := event

/-- A parser that dispatches on the variants of an instruction enum.  Variants
without a reader have no event. -/
structure EventParser where
  Variant : Type
  enum : InstructionEnum Variant
  reader : (variant : Variant) → Option (EventReader (enum.params variant).Params)

namespace EventParser

variable (parser : EventParser)

/-- The event of a decoded instruction. -/
def eventOf (keys : List Pubkey) (instruction : parser.enum.Instruction) :
    Except InstructionParseError (Option RegistryEvent) :=
  match parser.reader instruction.variant with
  | none => .ok none
  | some reader => (reader.fromAccountKeys keys).map fun accounts =>
      some (reader.event accounts instruction.params)

def parse (ix : ParsedInstruction) : Except ParseError (Option RegistryEvent) :=
  ((parser.enum.tryFromSlice ix.data).bind (parser.eventOf ix.accounts)).mapError
    .instruction

variable {parser} {ix : ParsedInstruction}

/-- An event is made of an instruction that the data decodes to and of the
accounts that its variant reads. -/
theorem parse_eq_ok_some_iff {event : RegistryEvent} :
    parser.parse ix = .ok (some event) ↔
      ∃ instruction, parser.enum.tryFromSlice ix.data = .ok instruction ∧
        ∃ reader, parser.reader instruction.variant = some reader ∧
          ∃ accounts, reader.fromAccountKeys ix.accounts = .ok accounts ∧
            event = reader.event accounts instruction.params := by
  rw [parse]
  cases decoded : parser.enum.tryFromSlice ix.data with
  | error err => simp [Except.bind, Except.mapError]
  | ok instruction =>
      simp only [Except.bind, Except.ok.injEq, exists_eq_left', eventOf]
      cases parser.reader instruction.variant with
      | none => simp [Except.mapError]
      | some reader =>
          simp only [Option.some.injEq, exists_eq_left']
          cases reader.fromAccountKeys ix.accounts with
          | error err => simp [Except.map, Except.mapError]
          | ok accounts => simp [Except.map, Except.mapError, eq_comm]

theorem parse_of_undecoded {err : InstructionParseError}
    (refused : parser.enum.tryFromSlice ix.data = .error err) :
    parser.parse ix = .error (.instruction err) := by
  rw [parse, refused]
  rfl

theorem parse_of_decoded {instruction : parser.enum.Instruction}
    (decoded : parser.enum.tryFromSlice ix.data = .ok instruction) :
    parser.parse ix =
      (parser.eventOf ix.accounts instruction).mapError .instruction := by
  rw [parse, decoded]
  rfl

end EventParser

/-- A parser all of whose variants have fixed accounts. -/
structure FixedParser where
  Variant : Type
  enum : InstructionEnum Variant
  exact : enum.Exact
  Accounts : Variant → Type
  struct : (variant : Variant) → FixedAccounts (Accounts variant)
  event : (variant : Variant) → Accounts variant → (enum.params variant).Params →
    RegistryEvent

namespace FixedParser

variable (parser : FixedParser)

def eventParser : EventParser where
  Variant := parser.Variant
  enum := parser.enum
  reader variant := some (.fixed (parser.struct variant) (parser.event variant))

/-- An instruction with its accounts. -/
structure Call where
  instruction : parser.enum.Instruction
  accounts : parser.Accounts instruction.variant

variable {parser}

namespace Call

variable (call : parser.Call)

def keys : List Pubkey :=
  (parser.struct call.instruction.variant).keys call.accounts

def event : RegistryEvent :=
  parser.event call.instruction.variant call.accounts call.instruction.params

end Call

variable {ix : ParsedInstruction}

theorem parse_of_call {call : parser.Call} (data : ix.data = call.instruction.data)
    (accounts : ix.accounts = call.keys) :
    parser.eventParser.parse ix = .ok (some call.event) := by
  refine EventParser.parse_eq_ok_some_iff.mpr
    ⟨call.instruction, ?_, _, rfl, call.accounts, ?_, rfl⟩
  · exact parser.exact.tryFromSlice_eq_ok_iff.mpr data
  · rw [accounts]
    exact FixedAccounts.fromAccountKeys_keys _

/-- What is parsed is the data of an instruction and just the accounts of its
variant. -/
theorem parse_eq_ok_iff {event : Option RegistryEvent} :
    parser.eventParser.parse ix = .ok event ↔
      ∃ call : parser.Call, ix.data = call.instruction.data ∧
        ix.accounts = call.keys ∧ event = some call.event := by
  constructor
  · intro parsed
    cases event with
    | none =>
        cases decoded : parser.enum.tryFromSlice ix.data with
        | error err =>
            rw [EventParser.parse_of_undecoded decoded] at parsed
            cases parsed
        | ok instruction =>
            rw [EventParser.parse_of_decoded decoded] at parsed
            cases read : (parser.struct instruction.variant).fromAccountKeys
                ix.accounts <;>
              simp [EventParser.eventOf, eventParser, EventReader.fixed, read, Except.map,
                Except.mapError] at parsed
    | some event =>
        obtain ⟨instruction, decoded, reader, found, accounts, read, eventEq⟩ :=
          EventParser.parse_eq_ok_some_iff.mp parsed
        cases found
        exact ⟨⟨instruction, accounts⟩,
          parser.exact.tryFromSlice_eq_ok_iff.mp decoded,
          FixedAccounts.fromAccountKeys_eq_ok_iff.mp read, congrArg some eventEq⟩
  · rintro ⟨call, data, accounts, rfl⟩
    exact parse_of_call data accounts

theorem parse_of_few {instruction : parser.enum.Instruction}
    (data : ix.data = instruction.data)
    (few : ix.accounts.length < (parser.struct instruction.variant).slots.length) :
    parser.eventParser.parse ix = .error (.instruction (.notEnoughAccounts
      (parser.struct instruction.variant).slots.length ix.accounts.length)) := by
  rw [EventParser.parse_of_decoded (parser.exact.tryFromSlice_eq_ok_iff.mpr data)]
  simp only [EventParser.eventOf, eventParser, EventReader.fixed,
    FixedAccounts.fromAccountKeys_of_lt few, Except.map, Except.mapError]

theorem parse_of_more {call : parser.Call} {first : Pubkey} {rest : List Pubkey}
    (data : ix.data = call.instruction.data)
    (more : ix.accounts = call.keys ++ first :: rest) :
    parser.eventParser.parse ix = .error (.instruction (.unmodelledAccounts
      (parser.struct call.instruction.variant).slots.length
      ((parser.struct call.instruction.variant).slots.length + (rest.length + 1))
      first)) := by
  rw [EventParser.parse_of_decoded (parser.exact.tryFromSlice_eq_ok_iff.mpr data)]
  simp only [EventParser.eventOf, eventParser, EventReader.fixed, more, Call.keys,
    FixedAccounts.fromAccountKeys_append, Except.map, Except.mapError]

end FixedParser

end Parsing.Registry

end SolanaProtocols
