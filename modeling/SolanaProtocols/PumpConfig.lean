import SolanaProtocols.PrefixCodec
import SolanaProtocols.SolanaTypes

/-!
# Configuration accounts of the pump programs

The Global account of pumpfun and the FeeConfig accounts of `pump_fees`, and how
raw account data is read as one of them: the discriminator is checked, the
fields are read off the front of what follows, and padding is left alone.
-/

namespace SolanaProtocols

namespace Pumpfun

open PrefixCodec

/-- `6EF8rrecthR5Dkzon8Nwu78hRvfCKubJ14M5uBEwF6P`, as the little-endian number
of its bytes. -/
def programId : Pubkey :=
  0xb0186dfdb62b5d653bffd2f597cb8951aa5b17bf6815db44cf5a6693f6e05601

/-- `pfeeUxB6jkeY1Hxd7CsFCAjcbHA9rWtchMGdZ6VojVZ`. -/
def pumpFeesProgramId : Pubkey :=
  0x707cc214a46a519c00401fa42cc9f14c27155607bcf7a88d568e5a05a9ff350c

/-- `8Wf5TiAheLUqBrKXeYg2JtAFFMWtKdG2BSFgqUcPVwTt`. -/
def feeConfigPda : Pubkey :=
  0x0f9419f89993c6104fa2e385a4ed435899072cb73f4cc9a9c08d95f1a4b49a6f

/-- `5PHirr8joyTMp9JMm6nW7hNDVyEYdkzDqazxPD7RaTjx`, `FEE_CONFIG` of
PumpSwap. -/
def pumpSwapFeeConfigPda : Pubkey :=
  0xcb10604214b53e6fdf974764073a923799416569a47317e481fe787dcc6e2441

/-- The start of `sha256("account:Global")`. -/
def globalDiscriminator : Discriminator :=
  #v[167, 232, 232, 177, 200, 108, 114, 127]

/-- The start of `sha256("account:FeeConfig")`. -/
def feeConfigDiscriminator : Discriminator :=
  #v[143, 52, 146, 187, 219, 123, 76, 155]

/-- Why raw account bytes could not be read as a type. -/
inductive AccountParseError
  | tooShort (len need : Nat)
  | discriminator
  | malformed (reason : String)
  | truncatedVersion (group : String) (present need : Nat)
deriving DecidableEq, Repr

def AccountParseError.toText : AccountParseError → String
  | .tooShort len need =>
      "account data too short: " ++ toString len ++ " bytes, need at least " ++
        toString need
  | .discriminator => "discriminator mismatch"
  | .malformed reason => "account fields did not decode: " ++ reason
  | .truncatedVersion group present need =>
      "version group `" ++ group ++ "` truncated: " ++ toString present ++ " of " ++
        toString need ++ " bytes"

/-- Check the discriminator and read the fields after it. -/
def fromAccountData {α : Type} (expected : Discriminator)
    (fields : PrefixCodec α) (data : Bytes) : Except AccountParseError α :=
  if data.length < 8 then .error (.tooShort data.length 8)
  else if data.take 8 ≠ expected.toList then .error .discriminator
  else
    match fields.decode (data.drop 8) with
    | .error reason => .error (.malformed reason)
    | .ok (decoded, _) => .ok decoded

/-- Fields behind their discriminator are read back, whatever the padding. -/
theorem fromAccountData_encode {α : Type} (expected : Discriminator)
    (fields : PrefixCodec α) (state : α) (padding : Bytes) :
    fromAccountData expected fields
      (expected.toList ++ (fields.encode state ++ padding)) = .ok state := by
  have eight : expected.toList.length = 8 := expected.length_toList
  have short : ¬ (expected.toList ++ (fields.encode state ++ padding)).length < 8 := by
    rw [List.length_append, eight]
    omega
  have front : (expected.toList ++ (fields.encode state ++ padding)).take 8 =
      expected.toList := List.take_left' eight
  have back : (expected.toList ++ (fields.encode state ++ padding)).drop 8 =
      fields.encode state ++ padding := List.drop_left' eight
  rw [fromAccountData, if_neg short, if_neg (not_not_intro front), back,
    fields.decode_encode]

abbrev U64 := BitVec 64

def u64 : PrefixCodec U64 := littleEndian 8

def u128 : PrefixCodec (BitVec 128) := littleEndian 16

def pubkey : PrefixCodec Pubkey := littleEndian 32

/-- Full layout of the Global account. -/
structure PumpfunGlobal where
  initialized : Bool
  authority : Pubkey
  feeRecipient : Pubkey
  initialVirtualTokenReserves : U64
  initialVirtualSolReserves : U64
  initialRealTokenReserves : U64
  tokenTotalSupply : U64
  feeBasisPoints : U64
  withdrawAuthority : Pubkey
  enableMigrate : Bool
  poolMigrationFee : U64
  creatorFeeBasisPoints : U64
  feeRecipients : Vector Pubkey 7
  setCreatorAuthority : Pubkey
  adminSetCreatorAuthority : Pubkey
  createV2Enabled : Bool
  whitelistPda : Pubkey
  reservedFeeRecipient : Pubkey
  mayhemModeEnabled : Bool
  reservedFeeRecipients : Vector Pubkey 7
  isCashbackEnabled : Bool
deriving DecidableEq

def PumpfunGlobal.fields : PrefixCodec PumpfunGlobal :=
  (bool.pair <| pubkey.pair <| pubkey.pair <| u64.pair <| u64.pair <|
    u64.pair <| u64.pair <| u64.pair <| pubkey.pair <| bool.pair <|
    u64.pair <| u64.pair <| (pubkey.array 7).pair <| pubkey.pair <|
    pubkey.pair <| bool.pair <| pubkey.pair <| pubkey.pair <| bool.pair <|
    (pubkey.array 7).pair bool).equiv
    { toFun := fun (a, b, c, d, e, f, g, h, i, j, k, l, m, n, o, p, q, r, s, t,
          u) => ⟨a, b, c, d, e, f, g, h, i, j, k, l, m, n, o, p, q, r, s, t, u⟩
      invFun := fun ⟨a, b, c, d, e, f, g, h, i, j, k, l, m, n, o, p, q, r, s, t,
          u⟩ => (a, b, c, d, e, f, g, h, i, j, k, l, m, n, o, p, q, r, s, t, u)
      left_inv := fun _ => rfl
      right_inv := fun _ => rfl }

/-- Active fee recipients for regular and mayhem mode curves. -/
structure PumpfunFeeRecipients where
  regular : Pubkey
  mayhem : Pubkey
deriving DecidableEq, Repr

namespace PumpfunFeeRecipients

def fromGlobal (global : PumpfunGlobal) : PumpfunFeeRecipients where
  regular := global.feeRecipients[0]
  mayhem := global.reservedFeeRecipients[0]

def fromAccountData (data : Bytes) :
    Except AccountParseError PumpfunFeeRecipients :=
  (Pumpfun.fromAccountData globalDiscriminator PumpfunGlobal.fields data).map
    fromGlobal

end PumpfunFeeRecipients

/-- Fee rates for a tier, in basis points. -/
structure PumpfunFees where
  lpFeeBps : U64
  protocolFeeBps : U64
  creatorFeeBps : U64
deriving DecidableEq, Repr

def PumpfunFees.fields : PrefixCodec PumpfunFees :=
  (u64.pair (u64.pair u64)).equiv
    { toFun := fun (lp, protocol, creator) => ⟨lp, protocol, creator⟩
      invFun := fun ⟨lp, protocol, creator⟩ => (lp, protocol, creator)
      left_inv := fun _ => rfl
      right_inv := fun _ => rfl }

/-- Fees from a market cap on. -/
structure PumpfunFeeTier where
  marketCapLamportsThreshold : BitVec 128
  fees : PumpfunFees
deriving DecidableEq, Repr

def PumpfunFeeTier.fields : PrefixCodec PumpfunFeeTier :=
  (u128.pair PumpfunFees.fields).equiv
    { toFun := fun (threshold, fees) => ⟨threshold, fees⟩
      invFun := fun ⟨threshold, fees⟩ => (threshold, fees)
      left_inv := fun _ => rfl
      right_inv := fun _ => rfl }

/-- A FeeConfig account of `pump_fees`. -/
structure PumpfunFeeConfig where
  bump : UInt8
  admin : Pubkey
  flatFees : PumpfunFees
  feeTiers : Counted PumpfunFeeTier
deriving DecidableEq, Repr

namespace PumpfunFeeConfig

def fields : PrefixCodec PumpfunFeeConfig :=
  (byte.pair <| pubkey.pair <| PumpfunFees.fields.pair
    PumpfunFeeTier.fields.vec).equiv
    { toFun := fun (bump, admin, flatFees, feeTiers) =>
        ⟨bump, admin, flatFees, feeTiers⟩
      invFun := fun ⟨bump, admin, flatFees, feeTiers⟩ =>
        (bump, admin, flatFees, feeTiers)
      left_inv := fun _ => rfl
      right_inv := fun _ => rfl }

def fromAccountData (data : Bytes) : Except AccountParseError PumpfunFeeConfig :=
  Pumpfun.fromAccountData feeConfigDiscriminator fields data

end PumpfunFeeConfig

/-- PumpSwap's FeeConfig, which has a slot of its own. -/
structure PumpSwapFeeConfig where
  inner : PumpfunFeeConfig
deriving DecidableEq, Repr

end Pumpfun

end SolanaProtocols
