import Mathlib.Data.BitVec

/-!
# Values shared by the protocol crates
-/

namespace SolanaProtocols

/-- A 32-byte account address. -/
abbrev Pubkey := BitVec 256

instance : LawfulBEq Pubkey := inferInstanceAs (LawfulBEq (BitVec 256))

abbrev Bytes := List UInt8

/-- The first eight bytes of Anchor instruction, account or event data. -/
abbrev Discriminator := Vector UInt8 8

/-- A string as its characters. -/
abbrev Text := List Char

/-- Bytes a string takes in UTF-8. -/
def Text.utf8Len (text : Text) : Nat :=
  (text.map Char.utf8Size).sum

/-- The first `len` bytes of a string.  `none` when the cut is inside a
character or past the end, where slicing panics. -/
def Text.sliceTo : Text → Nat → Option Text
  | _, 0 => some []
  | [], _ + 1 => none
  | char :: text, len =>
      if char.utf8Size ≤ len then
        (Text.sliceTo text (len - char.utf8Size)).map (char :: ·)
      else none

/-- Whether a string contains another. -/
def Text.contains (text pattern : Text) : Bool :=
  pattern <:+: text

inductive Protocol
  | pumpfun
  | pumpSwap
  | raydiumV4
  | raydiumClmm
  | raydiumCpmm
  | raydiumLaunchpad
  | meteoraDlmm
  | meteoraDbc
  | meteoraDammV2
deriving DecidableEq, Repr

/-- Why an instruction could not be parsed. -/
inductive InstructionParseError
  | unknownDiscriminator (discriminator : Discriminator)
  | dataTooShort
  | deserializationFailed (message : String)
  | unmodelledAccounts (modelled actual : Nat) (first : Pubkey)
  | notEnoughAccounts (expected actual : Nat)
deriving DecidableEq

end SolanaProtocols
