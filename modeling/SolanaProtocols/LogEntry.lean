import SolanaProtocols.SolanaTypes

/-!
# Log entries

`parse` turns one line of the runtime's log stream into a structured entry.
The five patterns the code keeps as regular expressions are matchers here: each
separates its fields by fixed text that the fields cannot contain, so the match
is unique.  Base64 and base58 decoding come from other crates.
-/

namespace SolanaProtocols

namespace Parsing

/-- Structured log entry from transaction execution. -/
inductive LogEntry
  | invoke (program : Pubkey) (depth : Nat)
  | success (program : Pubkey)
  | data (discriminator : Discriminator) (payload : Bytes)
  | returned (program : Pubkey) (data : Bytes)
  | message (message : Text)
  | consumed (program : Pubkey) (used available : Nat)
  | failed (program : Pubkey) (error : Text)
  | truncated
  | unknown (raw : Text)
deriving DecidableEq, Repr

/-- The decoders of other crates. -/
structure LogDecoders where
  decodeBase64 : Text → Option Bytes
  pubkeyFromStr : Text → Option Pubkey

/-- Characters that are never part of base64. -/
def notBase64Chars : Text :=
  " \t,:;!?\x7b\x7d[]()<>'\"\\~`@#$%^&*|".toList

/-- Whether a string is clearly not valid base64. -/
def isClearlyNotBase64 (data : Text) : Bool :=
  notBase64Chars.any (fun char => data.elem char)

/-- Truncate a string for log output.  `none` is a panic. -/
def truncateForLog (text : Text) (maxLen : Nat) : Option Text :=
  if text.utf8Len ≤ maxLen then some text
  else (text.sliceTo maxLen).map (· ++ "...".toList)

section Patterns

/-- `[1-9A-HJ-NP-Za-km-z]` -/
def isBase58 (char : Char) : Bool :=
  (char.isAlpha || char.isDigit) &&
    !(char == '0' || char == 'I' || char == 'O' || char == 'l')

/-- A base58 group of 32 to 44 characters and the text after it. -/
def takeProgram (text : Text) : Option (Text × Text) :=
  let program := text.takeWhile isBase58
  if 32 ≤ program.length ∧ program.length ≤ 44 then
    some (program, text.dropWhile isBase58)
  else none

/-- A group `\d+` that `parse` reads as an unsigned integer of the given width,
and the text after it.  The digits of other scripts that `\d` matches as well
fail to parse. -/
def takeNumber (bits : Nat) (text : Text) : Option (Nat × Text) :=
  let digits := text.takeWhile Char.isDigit
  let value := digits.foldl
    (fun value digit => value * 10 + (digit.toNat - '0'.toNat)) 0
  if digits ≠ [] ∧ value < 2 ^ bits then
    some (value, text.dropWhile Char.isDigit)
  else none

/-- A group `(.+)$`. -/
def takeRest (text : Text) : Option Text :=
  if text ≠ [] ∧ !text.elem '\n' then some text else none

variable (decoders : LogDecoders)

/-- `Program return: X <base64>` -/
def parseReturn (log : Text) : Option LogEntry := do
  let text ← log.dropPrefix? "Program return: ".toList
  let (programStr, text) ← takeProgram text
  let text ← text.dropPrefix? " ".toList
  let dataStr ← takeRest text
  let program ← decoders.pubkeyFromStr programStr
  return .returned program ((decoders.decodeBase64 dataStr).getD [])

/-- `Program X invoke [N]` -/
def parseInvoke (log : Text) : Option LogEntry := do
  let text ← log.dropPrefix? "Program ".toList
  let (programStr, text) ← takeProgram text
  let text ← text.dropPrefix? " invoke [".toList
  let (depth, text) ← takeNumber 32 text
  if text = "]".toList then
    let program ← decoders.pubkeyFromStr programStr
    return .invoke program depth
  else none

/-- `Program X success` -/
def parseSuccess (log : Text) : Option LogEntry := do
  let text ← log.dropPrefix? "Program ".toList
  let (programStr, text) ← takeProgram text
  if text = " success".toList then
    let program ← decoders.pubkeyFromStr programStr
    return .success program
  else none

/-- `Program X consumed N of M compute units` -/
def parseConsumed (log : Text) : Option LogEntry := do
  let text ← log.dropPrefix? "Program ".toList
  let (programStr, text) ← takeProgram text
  let text ← text.dropPrefix? " consumed ".toList
  let (used, text) ← takeNumber 64 text
  let text ← text.dropPrefix? " of ".toList
  let (available, text) ← takeNumber 64 text
  if text = " compute units".toList then
    let program ← decoders.pubkeyFromStr programStr
    return .consumed program used available
  else none

/-- `Program X failed: <error>` -/
def parseFailed (log : Text) : Option LogEntry := do
  let text ← log.dropPrefix? "Program ".toList
  let (programStr, text) ← takeProgram text
  let text ← text.dropPrefix? " failed: ".toList
  let error ← takeRest text
  let program ← decoders.pubkeyFromStr programStr
  return .failed program error

end Patterns

section Parse

variable (decoders : LogDecoders) (debugEnabled : Bool)

/-- Parse the content of a `Program data:` line.  What does not decode is
reported at debug level when it is clearly plain text, which slices it. -/
def parseDataLog (dataStr : Text) : Option LogEntry :=
  match decoders.decodeBase64 dataStr with
  | some bytes =>
      -- Fewer than eight bytes are padded with zeros.
      some (.data (Vector.ofFn fun idx => bytes.getD idx 0) (bytes.drop 8))
  | none => do
      if debugEnabled && isClearlyNotBase64 dataStr then
        let _ ← truncateForLog dataStr 60
      return .unknown ("Program data: ".toList ++ dataStr)

/-- Parse a single log line.  `none` is a panic. -/
def parse (log : Text) : Option LogEntry :=
  if log.contains "Log truncated".toList then
    some .truncated
  else
    match log.dropPrefix? "Program data: ".toList with
    | some dataStr => parseDataLog decoders debugEnabled dataStr
    | none =>
        match log.dropPrefix? "Program log: ".toList with
        | some message => some (.message message)
        | none =>
            some ((parseReturn decoders log <|> parseInvoke decoders log <|>
              parseSuccess decoders log <|> parseConsumed decoders log <|>
              parseFailed decoders log).getD (.unknown log))

def parseLogs (logs : List Text) : Option (List LogEntry) :=
  logs.mapM (parse decoders debugEnabled)

end Parse

end Parsing

end SolanaProtocols
