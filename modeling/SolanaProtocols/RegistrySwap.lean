import SolanaProtocols.PoolDiscovery

/-!
# The swap parser of the registry

`ProtocolRegistry` looks the parser of an instruction up by its program.  The
pumpfun parser takes the direction of a swap from the instruction and its
amounts from fixed offsets of the trade event in the log.  `PumpfunExtractor`
takes both from the event it decodes, and it looks for that event among the
child instructions first.
-/

namespace SolanaProtocols

open Parsing Chain Protocols
open Pumpfun (U64 PumpfunVariant)
open PrefixCodec (CountedString)

/-- Any of the four buy forms. -/
def Pumpfun.PumpfunVariant.isBuy : PumpfunVariant → Bool
  | buy | buyV2 | buyExactSolIn | buyExactQuoteInV2 => true
  | _ => false

namespace Parsing.Registry

/-- Why the registry refused an instruction. -/
inductive ParseError
  | unknownProgram (programId : Pubkey)
  | missingAccount (index : Nat)
  | logNotFound (log : String)
  | instruction (err : InstructionParseError)
deriving DecidableEq

/-- A swap, as it was parsed. -/
structure SwapEvent where
  protocol : Protocol
  pool : Pubkey
  tokenIn : Pubkey
  tokenOut : Pubkey
  amountIn : U64
  amountOut : U64
  fee : Option U64
  user : Option Pubkey
  isBuy : Option Bool
deriving DecidableEq

namespace SwapEvent

def new (protocol : Protocol) (pool tokenIn tokenOut : Pubkey)
    (amountIn amountOut : U64) : SwapEvent where
  protocol := protocol
  pool := pool
  tokenIn := tokenIn
  tokenOut := tokenOut
  amountIn := amountIn
  amountOut := amountOut
  fee := none
  user := none
  isBuy := none

def withUser (event : SwapEvent) (user : Pubkey) : SwapEvent :=
  { event with user := some user }

def withDirection (event : SwapEvent) (isBuy : Bool) : SwapEvent :=
  { event with isBuy := some isBuy }

end SwapEvent

/-- A token creation, as it was parsed. -/
structure TokenCreationEvent where
  protocol : Protocol
  mint : Pubkey
  pool : Pubkey
  name : CountedString
  symbol : CountedString
  uri : CountedString
  creator : Option Pubkey
deriving DecidableEq

/-- What parsers return.  The last three carry data of other protocols. -/
inductive ProtocolEvent
  | swap (event : SwapEvent)
  | tokenCreation (event : TokenCreationEvent)
  | poolCreation
  | liquidityAdd
  | liquidityRemove
deriving DecidableEq

def requireAccount (ix : ParsedInstruction) (index : Nat) :
    Except ParseError Pubkey :=
  match ix.accounts[index]? with
  | some key => .ok key
  | none => .error (.missingAccount index)

@[simp] theorem requireAccount_eq_ok_iff {ix : ParsedInstruction} {index : Nat}
    {key : Pubkey} :
    requireAccount ix index = .ok key ↔ ix.accounts[index]? = some key := by
  rw [requireAccount]
  cases ix.accounts[index]? <;> simp

/-- The eight bytes at an offset. -/
def wordAt (payload : Bytes) (offset : Nat) : Bytes :=
  (payload.drop offset).take 8

/-- `u64::from_le_bytes` of the bytes at an offset. -/
def u64At (payload : Bytes) (offset : Nat) : U64 :=
  BitVec.ofNat 64 (PrefixCodec.ofLeBytes (wordAt payload offset))

section Words

variable {payload front rest : Bytes} {offset : Nat} {amount : U64}

theorem length_wordAt (inside : offset + 8 ≤ payload.length) :
    (wordAt payload offset).length = 8 := by
  rw [wordAt, List.length_take, List.length_drop]
  omega

theorem wordAt_append (frontLength : front.length = offset) :
    wordAt (front ++ (Pumpfun.u64.encode amount ++ rest)) offset =
      Pumpfun.u64.encode amount := by
  rw [wordAt, List.drop_left' frontLength]
  exact List.take_left' (PrefixCodec.leBytes_length 8 amount.toNat)

/-- Full words are the encodings of their amounts. -/
theorem encode_u64At (inside : offset + 8 ≤ payload.length) :
    Pumpfun.u64.encode (u64At payload offset) = wordAt payload offset := by
  have length := length_wordAt inside
  have small := PrefixCodec.ofLeBytes_lt (wordAt payload offset)
  have digits := PrefixCodec.leBytes_ofLeBytes (wordAt payload offset)
  rw [length] at small digits
  calc
    Pumpfun.u64.encode (u64At payload offset) =
        PrefixCodec.leBytes 8 (u64At payload offset).toNat := rfl
    _ = PrefixCodec.leBytes 8 (PrefixCodec.ofLeBytes (wordAt payload offset)) := by
      rw [u64At, BitVec.toNat_ofNat, Nat.mod_eq_of_lt small]
    _ = wordAt payload offset := digits

theorem encode_u64_injective : Function.Injective Pumpfun.u64.encode := by
  intro first second same
  have decoded := Pumpfun.u64.decode_encode first []
  rw [same, Pumpfun.u64.decode_encode] at decoded
  cases decoded
  rfl

theorem u64At_eq_iff (inside : offset + 8 ≤ payload.length) :
    u64At payload offset = amount ↔
      wordAt payload offset = Pumpfun.u64.encode amount := by
  rw [← encode_u64At inside]
  exact encode_u64_injective.eq_iff.symm

end Words

section Pumpfun

variable (utf8Error : Bytes → String)

def tradeEventDiscriminator : Discriminator :=
  (Pumpfun.tradeEvent utf8Error).discriminator

def requireTradeLog (ix : ParsedInstruction) : Except ParseError Bytes :=
  match ix.findDataLogWithDiscriminator (tradeEventDiscriminator utf8Error) with
  | some logData => .ok logData
  | none =>
      if .truncated ∈ ix.logs then
        .error (.logNotFound "trade event (logs truncated)")
      else .error (.logNotFound "trade event")

/-- The swap of the accounts and of the amounts at their offsets in the log. -/
def swapOfLog (isBuy : Bool) (mint bondingCurve user : Pubkey) (logData : Bytes) :
    Except ParseError (Option ProtocolEvent) :=
  if logData.length < 32 + 8 + 8 then
    .error <| .instruction <| .deserializationFailed
      ("trade event too short: " ++ toString logData.length ++ " bytes")
  else
    let solAmount := u64At logData 32
    let tokenAmount := u64At logData 40
    let (tokenIn, tokenOut, amountIn, amountOut) :=
      if isBuy then (wsol, mint, solAmount, tokenAmount)
      else (mint, wsol, tokenAmount, solAmount)
    let event := SwapEvent.new .pumpfun bondingCurve tokenIn tokenOut amountIn
      amountOut
    .ok <| some <| .swap <| (event.withUser user).withDirection isBuy

/-- The amounts of the log, and everything else from the instruction. -/
def pumpfunParseSwap (ix : ParsedInstruction) (variant : PumpfunVariant) :
    Except ParseError (Option ProtocolEvent) := do
  let mint ← requireAccount ix 2
  let bondingCurve ← requireAccount ix 3
  let user ← requireAccount ix 6
  let logData ← requireTradeLog utf8Error ix
  swapOfLog variant.isBuy mint bondingCurve user logData

def pumpfunParseCreate (ix : ParsedInstruction) (params : Pumpfun.CreateParams) :
    Except ParseError (Option ProtocolEvent) := do
  let mint ← requireAccount ix 0
  let bondingCurve ← requireAccount ix 2
  let creator ← requireAccount ix 7
  return some <| .tokenCreation {
    protocol := .pumpfun
    mint := mint
    pool := bondingCurve
    name := params.name
    symbol := params.symbol
    uri := params.uri
    creator := some creator }

def pumpfunParseCreateV2 (ix : ParsedInstruction)
    (params : Pumpfun.CreateV2Params) :
    Except ParseError (Option ProtocolEvent) := do
  let mint ← requireAccount ix 0
  let bondingCurve ← requireAccount ix 2
  let signer ← requireAccount ix 5
  return some <| .tokenCreation {
    protocol := .pumpfun
    mint := mint
    pool := bondingCurve
    name := params.name
    symbol := params.symbol
    uri := params.uri
    creator := some (if params.creator = 0 then signer else params.creator) }

/-- The event of a decoded instruction.  The second swap forms have other
account indices and are left to the extractor. -/
def pumpfunEvent (ix : ParsedInstruction) :
    (Pumpfun.pumpfunInstruction utf8Error).Instruction →
      Except ParseError (Option ProtocolEvent)
  | ⟨.buy, _⟩ => pumpfunParseSwap utf8Error ix .buy
  | ⟨.buyExactSolIn, _⟩ => pumpfunParseSwap utf8Error ix .buyExactSolIn
  | ⟨.sell, _⟩ => pumpfunParseSwap utf8Error ix .sell
  | ⟨.create, params⟩ => pumpfunParseCreate ix params
  | ⟨.createV2, params⟩ => pumpfunParseCreateV2 ix params
  | _ => .ok none

def pumpfunParse (ix : ParsedInstruction) :
    Except ParseError (Option ProtocolEvent) :=
  match (Pumpfun.pumpfunInstruction utf8Error).tryFromSlice ix.data with
  | .error err => .error (.instruction err)
  | .ok parsed => pumpfunEvent utf8Error ix parsed

/-- What a swap of a curve against SOL is recorded as. -/
def curveSwap (isBuy : Bool) (mint bondingCurve user : Pubkey)
    (solAmount tokenAmount : U64) : SwapEvent where
  protocol := .pumpfun
  pool := bondingCurve
  tokenIn := if isBuy then wsol else mint
  tokenOut := if isBuy then mint else wsol
  amountIn := if isBuy then solAmount else tokenAmount
  amountOut := if isBuy then tokenAmount else solAmount
  fee := none
  user := some user
  isBuy := some isBuy

variable {utf8Error} {ix : ParsedInstruction} {logData : Bytes}

@[simp] theorem requireTradeLog_eq_ok_iff :
    requireTradeLog utf8Error ix = .ok logData ↔
      ix.findDataLogWithDiscriminator (tradeEventDiscriminator utf8Error) =
        some logData := by
  rw [requireTradeLog]
  split
  next found here => simp [here]
  next missing => split_ifs <;> simp [missing]

theorem swapOfLog_eq_ok_iff {isBuy : Bool} {mint bondingCurve user : Pubkey}
    {event : Option ProtocolEvent} :
    swapOfLog isBuy mint bondingCurve user logData = .ok event ↔
      48 ≤ logData.length ∧ event = some (.swap (curveSwap isBuy mint bondingCurve
        user (u64At logData 32) (u64At logData 40))) := by
  rw [swapOfLog]
  by_cases short : logData.length < 32 + 8 + 8
  · simp only [if_pos short, reduceCtorEq, false_iff, not_and]
    omega
  · rw [if_neg short, and_iff_right (by omega)]
    cases isBuy <;> exact (Except.ok.injEq _ _).to_iff.trans eq_comm

/-- A swap is parsed exactly when its accounts are there and the log has a
trade event that is long enough. -/
theorem pumpfunParseSwap_eq_ok_iff {variant : PumpfunVariant}
    {event : Option ProtocolEvent} :
    pumpfunParseSwap utf8Error ix variant = .ok event ↔
      ∃ mint bondingCurve user logData, ix.accounts[2]? = some mint ∧
        ix.accounts[3]? = some bondingCurve ∧ ix.accounts[6]? = some user ∧
          ix.findDataLogWithDiscriminator (tradeEventDiscriminator utf8Error) =
            some logData ∧ 48 ≤ logData.length ∧
              event = some (.swap (curveSwap variant.isBuy mint bondingCurve user
                (u64At logData 32) (u64At logData 40))) := by
  simp only [pumpfunParseSwap, bind_eq_ok_iff, requireAccount_eq_ok_iff,
    requireTradeLog_eq_ok_iff, swapOfLog_eq_ok_iff]
  constructor
  · rintro ⟨mint, mintEq, curve, curveEq, user, userEq, logData, found, rest⟩
    exact ⟨mint, curve, user, logData, mintEq, curveEq, userEq, found, rest⟩
  · rintro ⟨mint, curve, user, logData, mintEq, curveEq, userEq, found, rest⟩
    exact ⟨mint, mintEq, curve, curveEq, user, userEq, logData, found, rest⟩

end Pumpfun

/-- The parsers by protocol. -/
inductive ProtocolParser
  | pumpfun
  | pumpSwap
  | raydiumV4
  | raydiumClmm
  | raydiumCpmm
  | raydiumLaunchpad
  | meteoraDlmm
  | meteoraDbc
deriving DecidableEq, Repr

namespace ProtocolParser

def protocol : ProtocolParser → Protocol
  | pumpfun => .pumpfun
  | pumpSwap => .pumpSwap
  | raydiumV4 => .raydiumV4
  | raydiumClmm => .raydiumClmm
  | raydiumCpmm => .raydiumCpmm
  | raydiumLaunchpad => .raydiumLaunchpad
  | meteoraDlmm => .meteoraDlmm
  | meteoraDbc => .meteoraDbc

def programId (parser : ProtocolParser) : Pubkey :=
  parser.protocol.programId

/-- Parse an instruction, given the parsers of the other protocols. -/
def parse (utf8Error : Bytes → String)
    (others : ProtocolParser → ParsedInstruction →
      Except ParseError (Option ProtocolEvent)) :
    ProtocolParser → ParsedInstruction →
      Except ParseError (Option ProtocolEvent)
  | pumpfun => pumpfunParse utf8Error
  | parser => others parser

theorem programId_injective : Function.Injective programId := by
  intro first second same
  have sameProtocol := Protocol.programId_injective same
  cases first <;> cases second <;>
    first
    | rfl
    | cases sameProtocol

end ProtocolParser

/-- Parsers by program, each under its own. -/
structure ProtocolRegistry where
  parsers : Pubkey → Option ProtocolParser
  keyed : ∀ programId parser,
    parsers programId = some parser → parser.programId = programId

namespace ProtocolRegistry

def new : ProtocolRegistry where
  parsers _ := none
  keyed _ _ found := by cases found

/-- Register a protocol parser, in place of the one of its program. -/
def register (registry : ProtocolRegistry) (parser : ProtocolParser) :
    ProtocolRegistry where
  parsers := Function.update registry.parsers parser.programId (some parser)
  keyed programId found := by
    by_cases same : programId = parser.programId
    · subst same
      rw [Function.update_self]
      rintro ⟨⟩
      rfl
    · rw [Function.update_of_ne same]
      exact registry.keyed programId found

/-- Every built-in parser. -/
def withAllProtocols : ProtocolRegistry :=
  [.pumpfun, .pumpSwap, .raydiumV4, .raydiumClmm, .raydiumCpmm,
    .raydiumLaunchpad, .meteoraDlmm, .meteoraDbc].foldl register new

/-- Parse an instruction into a protocol event. -/
def parse (registry : ProtocolRegistry) (utf8Error : Bytes → String)
    (others : ProtocolParser → ParsedInstruction →
      Except ParseError (Option ProtocolEvent)) (ix : ParsedInstruction) :
    Except ParseError (Option ProtocolEvent) :=
  match registry.parsers ix.programId with
  | some parser => parser.parse utf8Error others ix
  | none => .error (.unknownProgram ix.programId)

variable {registry : ProtocolRegistry} {utf8Error : Bytes → String}
  {others : ProtocolParser → ParsedInstruction →
    Except ParseError (Option ProtocolEvent)}
  {ix : ParsedInstruction} {event : Option ProtocolEvent}

/-- A registry that parses an instruction of a protocol parses it with the
parser of the protocol. -/
theorem parse_eq_ok {parser : ProtocolParser}
    (program : ix.programId = parser.programId)
    (parsed : registry.parse utf8Error others ix = .ok event) :
    parser.parse utf8Error others ix = .ok event := by
  rw [parse] at parsed
  split at parsed
  next found registered =>
    have keyed := registry.keyed _ _ registered
    rw [program] at keyed
    rwa [← ProtocolParser.programId_injective keyed]
  next => cases parsed

end ProtocolRegistry

end Parsing.Registry

end SolanaProtocols
