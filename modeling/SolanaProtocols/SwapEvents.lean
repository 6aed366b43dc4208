import SolanaProtocols.AnchorEvents

/-!
# Swap events

The events that swaps are recorded from: the discriminator and the fields in the
order of their bytes.  The DLMM event comes decoded from another crate.
-/

namespace SolanaProtocols

open Parsing Protocols PrefixCodec
open Pumpfun (U64 u64 u128 pubkey)

abbrev I64 := BitVec 64

def i64 : PrefixCodec I64 := littleEndian 8

/-- A share of the creator fee. -/
structure Shareholder where
  address : Pubkey
  shareBps : BitVec 16

def Shareholder.fields : PrefixCodec Shareholder :=
  (pubkey.pair u16).equiv
    { toFun := fun (address, shareBps) => ⟨address, shareBps⟩
      invFun := fun ⟨address, shareBps⟩ => (address, shareBps)
      left_inv := fun _ => rfl
      right_inv := fun _ => rfl }

namespace Pumpfun

/-- Trade event of the pump.fun program. -/
structure TradeEvent where
  mint : Pubkey
  solAmount : U64
  tokenAmount : U64
  isBuy : Bool
  user : Pubkey
  timestamp : I64
  virtualSolReserves : U64
  virtualTokenReserves : U64
  realSolReserves : U64
  realTokenReserves : U64
  feeRecipient : Pubkey
  feeBasisPoints : U64
  fee : U64
  creator : Pubkey
  creatorFeeBasisPoints : U64
  creatorFee : U64
  trackVolume : Bool
  totalUnclaimedTokens : U64
  totalClaimedTokens : U64
  currentSolVolume : U64
  lastUpdateTimestamp : I64
  ixName : CountedString
  mayhemMode : Bool
  cashbackFeeBasisPoints : U64
  cashback : U64
  buybackFeeBasisPoints : U64
  buybackFee : U64
  shareholders : Counted Shareholder
  quoteMint : Pubkey
  quoteAmount : U64
  virtualQuoteReserves : U64
  realQuoteReserves : U64

def TradeEvent.fields (utf8Error : Bytes → String) : PrefixCodec TradeEvent :=
  (pubkey.pair <| u64.pair <| u64.pair <| bool.pair <| pubkey.pair <|
    i64.pair <| u64.pair <| u64.pair <| u64.pair <| u64.pair <| pubkey.pair <|
    u64.pair <| u64.pair <| pubkey.pair <| u64.pair <| u64.pair <|
    bool.pair <| u64.pair <| u64.pair <| u64.pair <| i64.pair <|
    (string utf8Error).pair <| bool.pair <| u64.pair <| u64.pair <|
    u64.pair <| u64.pair <| Shareholder.fields.vec.pair <| pubkey.pair <|
    u64.pair <| u64.pair u64).equiv
    { toFun := fun (a, b, c, d, e, f, g, h, i, j, k, l, m, n, o, p, q, r, s,
        t, u, v, w, x, y, z, a1, b1, c1, d1, e1, f1) =>
        ⟨a, b, c, d, e, f, g, h, i, j, k, l, m, n, o, p, q, r, s, t, u, v, w,
        x, y, z, a1, b1, c1, d1, e1, f1⟩
      invFun := fun ⟨a, b, c, d, e, f, g, h, i, j, k, l, m, n, o, p, q, r, s,
        t, u, v, w, x, y, z, a1, b1, c1, d1, e1, f1⟩ =>
        (a, b, c, d, e, f, g, h, i, j, k, l, m, n, o, p, q, r, s, t, u, v, w,
        x, y, z, a1, b1, c1, d1, e1, f1)
      left_inv := fun _ => rfl
      right_inv := fun _ => rfl }

/-- The start of `sha256("event:TradeEvent")`. -/
def tradeEvent (utf8Error : Bytes → String) : ProtocolEvent TradeEvent where
  discriminator := #v[189, 219, 127, 211, 78, 230, 97, 238]
  name := "TradeEvent"
  tryFromSlice := (TradeEvent.fields utf8Error).tryFromSlice

/-- The bonding curve filling up. -/
structure CompleteEvent where
  user : Pubkey
  mint : Pubkey
  bondingCurve : Pubkey
  timestamp : I64
  quoteMint : Pubkey

def CompleteEvent.fields : PrefixCodec CompleteEvent :=
  (pubkey.pair <| pubkey.pair <| pubkey.pair <| i64.pair pubkey).equiv
    { toFun := fun (a, b, c, d, e) =>
        ⟨a, b, c, d, e⟩
      invFun := fun ⟨a, b, c, d, e⟩ =>
        (a, b, c, d, e)
      left_inv := fun _ => rfl
      right_inv := fun _ => rfl }

/-- The start of `sha256("event:CompleteEvent")`. -/
def completeEvent : ProtocolEvent CompleteEvent where
  discriminator := #v[95, 114, 97, 156, 212, 46, 152, 8]
  name := "CompleteEvent"
  tryFromSlice := CompleteEvent.fields.tryFromSlice

end Pumpfun

namespace PumpSwap

/-- The fields of a `BuyEvent` before its tail. -/
structure BuyEventFields where
  timestamp : I64
  baseAmountOut : U64
  maxQuoteAmountIn : U64
  userBaseTokenReserves : U64
  userQuoteTokenReserves : U64
  poolBaseTokenReserves : U64
  poolQuoteTokenReserves : U64
  quoteAmountIn : U64
  lpFeeBasisPoints : U64
  lpFee : U64
  protocolFeeBasisPoints : U64
  protocolFee : U64
  quoteAmountInWithLpFee : U64
  userQuoteAmountIn : U64
  pool : Pubkey
  user : Pubkey
  userBaseTokenAccount : Pubkey
  userQuoteTokenAccount : Pubkey
  protocolFeeRecipient : Pubkey
  protocolFeeRecipientTokenAccount : Pubkey
  coinCreator : Pubkey
  coinCreatorFeeBasisPoints : U64
  coinCreatorFee : U64
  trackVolume : Bool
  totalUnclaimedTokens : U64
  totalClaimedTokens : U64
  currentSolVolume : U64
  lastUpdateTimestamp : I64
  minBaseAmountOut : U64
  ixName : CountedString
  cashbackFeeBasisPoints : U64
  cashback : U64
  buybackFeeBasisPoints : U64
  buybackFee : U64
  undeclared0 : U64
  undeclared1 : U64
  undeclaredFlag : Bool
  undeclared2 : U64

def BuyEventFields.fields (utf8Error : Bytes → String) :
    PrefixCodec BuyEventFields :=
  (i64.pair <| u64.pair <| u64.pair <| u64.pair <| u64.pair <| u64.pair <|
    u64.pair <| u64.pair <| u64.pair <| u64.pair <| u64.pair <| u64.pair <|
    u64.pair <| u64.pair <| pubkey.pair <| pubkey.pair <| pubkey.pair <|
    pubkey.pair <| pubkey.pair <| pubkey.pair <| pubkey.pair <| u64.pair <|
    u64.pair <| bool.pair <| u64.pair <| u64.pair <| u64.pair <| i64.pair <|
    u64.pair <| (string utf8Error).pair <| u64.pair <| u64.pair <| u64.pair <|
    u64.pair <| u64.pair <| u64.pair <| bool.pair u64).equiv
    { toFun := fun (a, b, c, d, e, f, g, h, i, j, k, l, m, n, o, p, q, r, s,
        t, u, v, w, x, y, z, a1, b1, c1, d1, e1, f1, g1, h1, i1, j1, k1,
        l1) =>
        ⟨a, b, c, d, e, f, g, h, i, j, k, l, m, n, o, p, q, r, s, t, u, v, w,
        x, y, z, a1, b1, c1, d1, e1, f1, g1, h1, i1, j1, k1, l1⟩
      invFun := fun ⟨a, b, c, d, e, f, g, h, i, j, k, l, m, n, o, p, q, r, s,
        t, u, v, w, x, y, z, a1, b1, c1, d1, e1, f1, g1, h1, i1, j1, k1,
        l1⟩ =>
        (a, b, c, d, e, f, g, h, i, j, k, l, m, n, o, p, q, r, s, t, u, v, w,
        x, y, z, a1, b1, c1, d1, e1, f1, g1, h1, i1, j1, k1, l1)
      left_inv := fun _ => rfl
      right_inv := fun _ => rfl }

/-- A completed PumpSwap buy, and the bytes past its fields. -/
structure BuyEvent extends BuyEventFields where
  undeclaredTail : Bytes

/-- The start of `sha256("event:BuyEvent")`. -/
def buyEvent (utf8Error : Bytes → String) : ProtocolEvent BuyEvent where
  discriminator := #v[103, 244, 82, 31, 44, 245, 119, 119]
  name := "BuyEvent"
  tryFromSlice body :=
    ((BuyEventFields.fields utf8Error).decode body).map fun (fields, tail) =>
      ⟨fields, tail⟩

/-- Everything that left the trader. -/
def BuyEvent.grossQuoteIn (event : BuyEvent) : U64 :=
  Chain.saturatingAdd
    (Chain.saturatingAdd event.quoteAmountInWithLpFee event.protocolFee)
    event.coinCreatorFee

/-- The fields of a `SellEvent` before its tail. -/
structure SellEventFields where
  timestamp : I64
  baseAmountIn : U64
  minQuoteAmountOut : U64
  userBaseTokenReserves : U64
  userQuoteTokenReserves : U64
  poolBaseTokenReserves : U64
  poolQuoteTokenReserves : U64
  quoteAmountOut : U64
  lpFeeBasisPoints : U64
  lpFee : U64
  protocolFeeBasisPoints : U64
  protocolFee : U64
  quoteAmountOutWithoutLpFee : U64
  userQuoteAmountOut : U64
  pool : Pubkey
  user : Pubkey
  userBaseTokenAccount : Pubkey
  userQuoteTokenAccount : Pubkey
  protocolFeeRecipient : Pubkey
  protocolFeeRecipientTokenAccount : Pubkey
  coinCreator : Pubkey
  coinCreatorFeeBasisPoints : U64
  coinCreatorFee : U64
  cashbackFeeBasisPoints : U64
  cashback : U64
  buybackFeeBasisPoints : U64
  buybackFee : U64
  undeclared0 : U64
  undeclared1 : U64
  undeclaredFlag : Bool
  undeclared2 : U64

def SellEventFields.fields :
    PrefixCodec SellEventFields :=
  (i64.pair <| u64.pair <| u64.pair <| u64.pair <| u64.pair <| u64.pair <|
    u64.pair <| u64.pair <| u64.pair <| u64.pair <| u64.pair <| u64.pair <|
    u64.pair <| u64.pair <| pubkey.pair <| pubkey.pair <| pubkey.pair <|
    pubkey.pair <| pubkey.pair <| pubkey.pair <| pubkey.pair <| u64.pair <|
    u64.pair <| u64.pair <| u64.pair <| u64.pair <| u64.pair <| u64.pair <|
    u64.pair <| bool.pair u64).equiv
    { toFun := fun (a, b, c, d, e, f, g, h, i, j, k, l, m, n, o, p, q, r, s,
        t, u, v, w, x, y, z, a1, b1, c1, d1, e1) =>
        ⟨a, b, c, d, e, f, g, h, i, j, k, l, m, n, o, p, q, r, s, t, u, v, w,
        x, y, z, a1, b1, c1, d1, e1⟩
      invFun := fun ⟨a, b, c, d, e, f, g, h, i, j, k, l, m, n, o, p, q, r, s,
        t, u, v, w, x, y, z, a1, b1, c1, d1, e1⟩ =>
        (a, b, c, d, e, f, g, h, i, j, k, l, m, n, o, p, q, r, s, t, u, v, w,
        x, y, z, a1, b1, c1, d1, e1)
      left_inv := fun _ => rfl
      right_inv := fun _ => rfl }

/-- A completed PumpSwap sell, and the bytes past its fields. -/
structure SellEvent extends SellEventFields where
  undeclaredTail : Bytes

/-- The start of `sha256("event:SellEvent")`. -/
def sellEvent : ProtocolEvent SellEvent where
  discriminator := #v[62, 47, 55, 10, 165, 3, 220, 42]
  name := "SellEvent"
  tryFromSlice body :=
    (SellEventFields.fields.decode body).map fun (fields, tail) =>
      ⟨fields, tail⟩

end PumpSwap

namespace MeteoraDammV2

/-- Swap parameters of the user. -/
structure SwapParameters2 where
  amount0 : U64
  amount1 : U64
  swapMode : UInt8

def SwapParameters2.fields : PrefixCodec SwapParameters2 :=
  (u64.pair <| u64.pair byte).equiv
    { toFun := fun (a, b, c) =>
        ⟨a, b, c⟩
      invFun := fun ⟨a, b, c⟩ =>
        (a, b, c)
      left_inv := fun _ => rfl
      right_inv := fun _ => rfl }

/-- Result of the swap. -/
structure SwapResult2 where
  includedFeeInputAmount : U64
  excludedFeeInputAmount : U64
  amountLeft : U64
  outputAmount : U64
  nextSqrtPrice : BitVec 128
  tradingFee : U64
  protocolFee : U64
  partnerFee : U64
  referralFee : U64

def SwapResult2.fields : PrefixCodec SwapResult2 :=
  (u64.pair <| u64.pair <| u64.pair <| u64.pair <| u128.pair <| u64.pair <|
    u64.pair <| u64.pair u64).equiv
    { toFun := fun (a, b, c, d, e, f, g, h, i) =>
        ⟨a, b, c, d, e, f, g, h, i⟩
      invFun := fun ⟨a, b, c, d, e, f, g, h, i⟩ =>
        (a, b, c, d, e, f, g, h, i)
      left_inv := fun _ => rfl
      right_inv := fun _ => rfl }

/-- Swap event of cp-amm. -/
structure EvtSwap2 where
  pool : Pubkey
  tradeDirection : UInt8
  collectFeeMode : UInt8
  hasReferral : Bool
  params : SwapParameters2
  swapResult : SwapResult2
  includedTransferFeeAmountIn : U64
  includedTransferFeeAmountOut : U64
  excludedTransferFeeAmountOut : U64
  currentTimestamp : U64
  reserveAAmount : U64
  reserveBAmount : U64

def EvtSwap2.fields : PrefixCodec EvtSwap2 :=
  (pubkey.pair <| byte.pair <| byte.pair <| bool.pair <|
    SwapParameters2.fields.pair <| SwapResult2.fields.pair <| u64.pair <|
    u64.pair <| u64.pair <| u64.pair <| u64.pair u64).equiv
    { toFun := fun (a, b, c, d, e, f, g, h, i, j, k, l) =>
        ⟨a, b, c, d, e, f, g, h, i, j, k, l⟩
      invFun := fun ⟨a, b, c, d, e, f, g, h, i, j, k, l⟩ =>
        (a, b, c, d, e, f, g, h, i, j, k, l)
      left_inv := fun _ => rfl
      right_inv := fun _ => rfl }

/-- The start of `sha256("event:EvtSwap2")`. -/
def evtSwap2Discriminator : Discriminator :=
  #v[0xbd, 0x42, 0x33, 0xa8, 0x26, 0x50, 0x75, 0x99]

namespace EvtSwap2

/-- Whether the user sold token A. -/
def isAToB (event : EvtSwap2) : Bool :=
  event.tradeDirection == 0

/-- What left the user's wallet. -/
def inputAmountGross (event : EvtSwap2) : U64 :=
  event.swapResult.includedFeeInputAmount

/-- What was delivered to the user. -/
def outputAmount (event : EvtSwap2) : U64 :=
  event.swapResult.outputAmount

/-- Parse from the data of the event instruction.  Bytes after the fields are
left alone. -/
def fromSelfCpiData (data : Bytes) : Option EvtSwap2 :=
  if data.length < 16 then none
  else if data.take 8 ≠ anchorEventTag.toList then none
  else if (data.drop 8).take 8 ≠ evtSwap2Discriminator.toList then none
  else
    match fields.decode (data.drop 16) with
    | .ok (event, _) => some event
    | .error _ => none

theorem fromSelfCpiData_eq_some_iff {data : Bytes} {event : EvtSwap2} :
    fromSelfCpiData data = some event ↔ ∃ rest,
      data = eventData evtSwap2Discriminator (fields.encode event ++ rest) := by
  have parsed : fromSelfCpiData data = some event ↔ ∃ body rest,
      eventBody data evtSwap2Discriminator = some body ∧
        fields.decode body = .ok (event, rest) := by
    rw [fromSelfCpiData, eventBody_eq_ite]
    split_ifs
    · simp
    · simp
    · simp
    · cases decoded : fields.decode (data.drop 16) with
      | error message => simp [decoded]
      | ok read => simp [decoded, Prod.ext_iff]
  simp only [parsed, eventBody_eq_some_iff, fields.decode_eq_ok_iff]
  constructor
  · rintro ⟨_, rest, dataEq, rfl⟩
    exact ⟨rest, dataEq⟩
  · rintro ⟨rest, dataEq⟩
    exact ⟨_, rest, dataEq, rfl⟩

end EvtSwap2

end MeteoraDammV2

namespace MeteoraDlmm

/-- `types::Swap` of the program's SDK. -/
structure SwapEvent where
  lbPair : Pubkey
  /-- `from` -/
  sender : Pubkey
  startBinId : BitVec 32
  endBinId : BitVec 32
  amountIn : U64
  amountOut : U64
  swapForY : Bool
  fee : U64
  protocolFee : U64
  feeBps : BitVec 128
  hostFee : U64
deriving DecidableEq

def swapEventDiscriminator : Discriminator :=
  #v[81, 108, 227, 190, 205, 208, 10, 196]

end MeteoraDlmm

end SolanaProtocols
