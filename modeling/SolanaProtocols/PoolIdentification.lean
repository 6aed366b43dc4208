import SolanaProtocols.PoolLayouts
import SolanaProtocols.SwapMath

/-!
# Identifying pool accounts

A pool account is told apart in three ways: the full decoder of a protocol that
is known, the detection of the protocol from the bytes, and a quick check of
size and discriminator.  They agree on the bonding curves of pumpfun, and on
the pools of PumpSwap that are at least as long as the newest ones; the quick
check knows no discriminator for the other protocols.
-/

namespace SolanaProtocols

open PrefixCodec Pumpfun PoolLayouts

namespace Pumpfun.BondingCurve

/-- Read the fields.  The flags are there if there are bytes left for them. -/
def decodeFields (data : Bytes) : Except String BondingCurve :=
  match coreFields.decode data with
  | .error reason => .error reason
  | .ok (core, rest) =>
      match Legacy.decode bool rest with
      | .error reason => .error reason
      | .ok (isMayhemMode, rest) =>
          match Legacy.decode bool rest with
          | .error reason => .error reason
          | .ok (isCashbackCoin, _) => .ok (ofCore core isMayhemMode isCashbackCoin)

/-- How many fields of the cashback upgrade the account has. -/
def cashbackPresent (curve : BondingCurve) : Nat :=
  [curve.isMayhemMode.isPresent, curve.isCashbackCoin.isPresent].count true

/-- Check the discriminator, read the fields, and refuse half of an upgrade. -/
def fromAccountData (data : Bytes) : Except AccountParseError BondingCurve :=
  if data.length < 8 then .error (.tooShort data.length 8)
  else if data.take 8 ≠ bondingCurveDiscriminator.toList then .error .discriminator
  else
    match decodeFields (data.drop 8) with
    | .error reason => .error (.malformed reason)
    | .ok decoded =>
        if decoded.cashbackPresent ≠ 0 ∧ decoded.cashbackPresent ≠ 2 then
          .error (.truncatedVersion "cashback" decoded.cashbackPresent 2)
        else .ok decoded

theorem of_fromAccountData {data : Bytes} {curve : BondingCurve}
    (accepted : fromAccountData data = .ok curve) :
    data.take 8 = bondingCurveDiscriminator.toList ∧ 81 ≤ data.length := by
  rw [fromAccountData] at accepted
  split at accepted
  · cases accepted
  split at accepted
  · cases accepted
  next enough tagged =>
    refine ⟨not_not.mp tagged, ?_⟩
    cases read : coreFields.decode (data.drop 8) with
    | error reason => simp [decodeFields, read] at accepted
    | ok coreRest =>
        obtain ⟨core, rest⟩ := coreRest
        have lengths := congrArg List.length (coreFields.eq_append_of_decode read)
        rw [List.length_append, coreFields_hasWidth, List.length_drop] at lengths
        omega

end Pumpfun.BondingCurve

/-- The SDK's decoder of an LbPair, which reads the discriminator with the
other fields. -/
structure LbPairSdk (LbPair : Type) where
  discriminator : Discriminator
  tryFromSlice : Bytes → Except String LbPair

/-- Why a pool account could not be parsed. -/
inductive Error
  | accountDataTooShort (expected actual : Nat)
  | invalidAccountData (message : String)
  | protocolError (protocol message : String)
deriving DecidableEq, Repr

namespace Error

def parseError (message : String) : Error :=
  .invalidAccountData message

def ofAccountParseError (err : AccountParseError) : Error :=
  match err with
  | .tooShort len need => .accountDataTooShort need len
  | .discriminator | .truncatedVersion .. | .malformed _ =>
      .invalidAccountData err.toText

end Error

/-- Protocol-specific pool states. -/
inductive PoolState (LbPair : Type)
  | pumpfun (curve : BondingCurve)
  | pumpSwap (pool : PumpSwap.PoolWithReserves)
  | raydiumV4 (pool : RaydiumV4.PoolWithReserves)
  | raydiumClmm (pool : ClmmPoolState)
  | raydiumCpmm (pool : CpmmPoolState)
  | raydiumLaunchpad (pool : PoolLayouts.LaunchpadPoolState)
  | meteoraDlmm (pair : LbPair)
  | meteoraDbc (pool : PoolLayouts.VirtualPool)

/-- Bytes as Rust prints them. -/
def debugBytes (bytes : Bytes) : String :=
  "[" ++ ", ".intercalate (bytes.map fun byte => toString byte.toNat) ++ "]"

variable {LbPair : Type}

def LbPairSdk.decodeLbPair (sdk : LbPairSdk LbPair) (data : Bytes) :
    Except Error LbPair :=
  if data.length < 8 then .error (.accountDataTooShort 8 data.length)
  else if data.take 8 ≠ sdk.discriminator.toList then
    .error (.parseError ("LbPair: discriminator mismatch (expected " ++
      debugBytes sdk.discriminator.toList ++ ", got " ++ debugBytes (data.take 8) ++
      ")"))
  else
    (sdk.tryFromSlice data).mapError fun message =>
      .parseError ("LbPair: borsh decode failed: " ++ message)

namespace PoolState

/-- Parse pool state from account data for a known protocol. -/
def fromAccountData (sdk : LbPairSdk LbPair) (protocol : Protocol) (data : Bytes) :
    Except Error (PoolState LbPair) :=
  match protocol with
  | .pumpfun =>
      ((BondingCurve.fromAccountData data).mapError .ofAccountParseError).map .pumpfun
  | .pumpSwap =>
      ((Pumpfun.fromAccountData poolDiscriminator PumpSwap.PumpSwapPool.fields
        data).mapError fun err => .parseError ("PumpSwap pool: " ++ err.toText)).map
          fun pool => .pumpSwap ⟨pool, 0, 0⟩
  | .raydiumV4 =>
      .error (.protocolError "RaydiumV4"
        "LiquidityPool::from_account_data is not yet implemented")
  | .raydiumClmm =>
      ((Pumpfun.fromAccountData clmmPoolStateDiscriminator ClmmPoolState.fields
        data).mapError fun err => .parseError err.toText).map .raydiumClmm
  | .raydiumCpmm =>
      ((Pumpfun.fromAccountData cpmmPoolStateDiscriminator CpmmPoolState.fields
        data).mapError .ofAccountParseError).map .raydiumCpmm
  | .raydiumLaunchpad =>
      ((Pumpfun.fromAccountData launchpadPoolStateDiscriminator
        PoolLayouts.LaunchpadPoolState.fields data).mapError
          .ofAccountParseError).map .raydiumLaunchpad
  | .meteoraDlmm => (sdk.decodeLbPair data).map .meteoraDlmm
  | .meteoraDbc =>
      ((Pumpfun.fromAccountData dbcVirtualPoolDiscriminator
        PoolLayouts.VirtualPool.fields data).mapError
          .ofAccountParseError).map .meteoraDbc
  | .meteoraDammV2 =>
      .error (.parseError "MeteoraDammV2 pool state parsing not implemented")

/-- The size of the newest PumpSwap pools. -/
def poolAccountSize : Nat := 301

/-- Try to parse pool state by detecting the protocol from account data. -/
def detectAndParse (data : Bytes) : Option (Protocol × PoolState LbPair) :=
  if data.length < 8 then none
  else
    (if data.take 8 = bondingCurveDiscriminator.toList then
      (BondingCurve.fromAccountData data).toOption.map fun curve =>
        (.pumpfun, .pumpfun curve)
    else none).or
    (if poolAccountSize ≤ data.length then
      (Pumpfun.fromAccountData poolDiscriminator PumpSwap.PumpSwapPool.fields
        data).toOption.map fun pool => (.pumpSwap, .pumpSwap ⟨pool, 0, 0⟩)
    else none)

/-- The protocol of a pool state. -/
def protocol : PoolState LbPair → Protocol
  | pumpfun _ => .pumpfun
  | pumpSwap _ => .pumpSwap
  | raydiumV4 _ => .raydiumV4
  | raydiumClmm _ => .raydiumClmm
  | raydiumCpmm _ => .raydiumCpmm
  | raydiumLaunchpad _ => .raydiumLaunchpad
  | meteoraDlmm _ => .meteoraDlmm
  | meteoraDbc _ => .meteoraDbc

end PoolState

/-- No discriminator, or none yet. -/
def zeroDiscriminator : Discriminator :=
  #v[0, 0, 0, 0, 0, 0, 0, 0]

/-- The expected discriminator for a protocol's pool state. -/
def protocolDiscriminator : Protocol → Discriminator
  | .pumpfun => bondingCurveDiscriminator
  | .pumpSwap => poolDiscriminator
  | .raydiumV4 => zeroDiscriminator
  | .raydiumClmm | .raydiumCpmm | .raydiumLaunchpad | .meteoraDlmm | .meteoraDbc
  | .meteoraDammV2 => zeroDiscriminator

/-- The fields that every curve has, and the discriminator. -/
def bondingCurveAccountSize : Nat := 8 + 8 + 8 + 8 + 8 + 8 + 1 + 32

/-- The size of a Raydium V4 pool. -/
def poolStateSize : Nat := 752

/-- The expected account size for a protocol's pool state. -/
def protocolAccountSize : Protocol → Nat
  | .pumpfun => bondingCurveAccountSize
  | .pumpSwap => PoolState.poolAccountSize
  | .raydiumV4 => poolStateSize
  | .raydiumClmm | .raydiumCpmm | .raydiumLaunchpad | .meteoraDlmm | .meteoraDbc
  | .meteoraDammV2 => 0

/-- Check if account data could belong to a specific protocol. -/
def isProtocolAccount (protocol : Protocol) (data : Bytes) : Bool :=
  if data.length < protocolAccountSize protocol then false
  else if data.length < 8 then false
  else data.take 8 == (protocolDiscriminator protocol).toList

theorem isProtocolAccount_iff {protocol : Protocol} {data : Bytes} :
    isProtocolAccount protocol data = true ↔
      protocolAccountSize protocol ≤ data.length ∧ 8 ≤ data.length ∧
        data.take 8 = (protocolDiscriminator protocol).toList := by
  rw [isProtocolAccount]
  split
  next short =>
    simp only [Bool.false_eq_true, false_iff, not_and]
    intro enough
    omega
  next enough =>
    split
    next short =>
      simp only [Bool.false_eq_true, false_iff, not_and]
      intro _ enough
      omega
    next enoughEight =>
      rw [beq_iff_eq]
      constructor
      · intro tagged
        exact ⟨Nat.le_of_not_lt enough, Nat.le_of_not_lt enoughEight, tagged⟩
      · rintro ⟨-, -, tagged⟩
        exact tagged

/-- The bytes are an LbPair that the SDK reads. -/
def LbPairSdk.IsAccount (sdk : LbPairSdk LbPair) (data : Bytes) : Prop :=
  8 ≤ data.length ∧ data.take 8 = sdk.discriminator.toList ∧
    ∃ pair, sdk.tryFromSlice data = .ok pair

theorem LbPairSdk.exists_decodeLbPair_iff {sdk : LbPairSdk LbPair} {data : Bytes} :
    (∃ pair, sdk.decodeLbPair data = .ok pair) ↔ sdk.IsAccount data := by
  rw [IsAccount, decodeLbPair]
  split
  next short =>
    constructor
    · rintro ⟨pair, accepted⟩
      cases accepted
    · rintro ⟨enough, -⟩
      omega
  next enough =>
    split
    next untagged =>
      constructor
      · rintro ⟨pair, accepted⟩
        cases accepted
      · rintro ⟨-, tagged, -⟩
        exact absurd tagged untagged
    next tagged =>
      rw [not_not] at tagged
      cases sdk.tryFromSlice data with
      | error message => simp [Except.mapError]
      | ok pair => simp [Except.mapError, tagged, Nat.le_of_not_lt enough]

namespace PoolState

variable {sdk : LbPairSdk LbPair} {data : Bytes}

theorem map_mapError_eq_ok_iff {Err Err' Value State : Type}
    {result : Except Err Value} {convert : Err → Err'} {wrap : Value → State}
    {state : State} :
    (result.mapError convert).map wrap = .ok state ↔
      ∃ value, result = .ok value ∧ wrap value = state := by
  cases result with
  | error err => simp [Except.mapError, Except.map]
  | ok value => simp [Except.mapError, Except.map]

/-- What the decoder of a protocol accepts. -/
def Decodable (sdk : LbPairSdk LbPair) (data : Bytes) : Protocol → Prop
  | .pumpfun => ∃ curve, BondingCurve.fromAccountData data = .ok curve
  | .pumpSwap => poolLayout.IsRecord data
  | .raydiumClmm => clmmLayout.IsRecord data
  | .raydiumCpmm => cpmmLayout.IsRecord data
  | .raydiumLaunchpad => launchpadLayout.IsRecord data
  | .meteoraDlmm => sdk.IsAccount data
  | .meteoraDbc => virtualPoolLayout.IsRecord data
  | .raydiumV4 | .meteoraDammV2 => False

theorem exists_record_iff {State Err : Type} {discriminator : Discriminator}
    {fields : PrefixCodec State} {convert : AccountParseError → Err}
    {wrap : State → PoolState LbPair} :
    (∃ state, ((Pumpfun.fromAccountData discriminator fields data).mapError
      convert).map wrap = .ok state) ↔ (layout discriminator fields).IsRecord data := by
  simp only [map_mapError_eq_ok_iff, fromAccountData_eq_ok_iff]
  constructor
  · rintro ⟨state, value, holds, -⟩
    exact ⟨value, holds⟩
  · rintro ⟨value, holds⟩
    exact ⟨wrap value, value, holds, rfl⟩

theorem exists_fromAccountData_iff {protocol : Protocol} :
    (∃ state, fromAccountData sdk protocol data = .ok state) ↔
      Decodable sdk data protocol := by
  cases protocol with
  | pumpfun =>
      simp only [fromAccountData, map_mapError_eq_ok_iff, Decodable]
      constructor
      · rintro ⟨state, curve, accepted, -⟩
        exact ⟨curve, accepted⟩
      · rintro ⟨curve, accepted⟩
        exact ⟨pumpfun curve, curve, accepted, rfl⟩
  | pumpSwap => exact exists_record_iff
  | raydiumClmm => exact exists_record_iff
  | raydiumCpmm => exact exists_record_iff
  | raydiumLaunchpad => exact exists_record_iff
  | meteoraDbc => exact exists_record_iff
  | meteoraDlmm =>
      rw [Decodable, ← LbPairSdk.exists_decodeLbPair_iff]
      simp only [fromAccountData]
      cases sdk.decodeLbPair data with
      | error err => simp [Except.map]
      | ok pair => simp [Except.map]
  | raydiumV4 => simp [fromAccountData, Decodable]
  | meteoraDammV2 => simp [fromAccountData, Decodable]

theorem protocol_of_fromAccountData {protocol : Protocol} {state : PoolState LbPair}
    (accepted : fromAccountData sdk protocol data = .ok state) :
    state.protocol = protocol := by
  cases protocol with
  | raydiumV4 => cases accepted
  | meteoraDammV2 => cases accepted
  | meteoraDlmm =>
      simp only [fromAccountData] at accepted
      cases read : sdk.decodeLbPair data with
      | error err => simp [read, Except.map] at accepted
      | ok pair =>
          simp only [read, Except.map, Except.ok.injEq] at accepted
          rw [← accepted]
          rfl
  | _ =>
      simp only [fromAccountData, map_mapError_eq_ok_iff] at accepted
      obtain ⟨value, -, rfl⟩ := accepted
      rfl

theorem detectAndParse_of_curve {curve : BondingCurve}
    (accepted : BondingCurve.fromAccountData data = .ok curve) :
    detectAndParse data = some (.pumpfun, (.pumpfun curve : PoolState LbPair)) := by
  obtain ⟨tagged, enough⟩ := BondingCurve.of_fromAccountData accepted
  have notShort : ¬ data.length < 8 := by omega
  rw [detectAndParse, if_neg notShort, if_pos tagged, accepted]
  rfl

/-- Without a curve, a pool is detected if the account is as long as the newest
pools. -/
theorem detectAndParse_of_not_curve
    (refused : ∀ curve, BondingCurve.fromAccountData data ≠ .ok curve) :
    detectAndParse data =
      if poolAccountSize ≤ data.length then
        (Pumpfun.fromAccountData poolDiscriminator PumpSwap.PumpSwapPool.fields
          data).toOption.map fun pool =>
            (.pumpSwap, (.pumpSwap ⟨pool, 0, 0⟩ : PoolState LbPair))
      else none := by
  rw [detectAndParse]
  split
  next short =>
    have noPool : ¬ poolAccountSize ≤ data.length := by
      rw [poolAccountSize]
      omega
    rw [if_neg noPool]
  next =>
    have noCurve : (BondingCurve.fromAccountData data).toOption = none := by
      cases read : BondingCurve.fromAccountData data with
      | error err => rfl
      | ok curve => exact absurd read (refused curve)
    rw [noCurve, Option.map_none, ite_self, Option.none_or]

theorem not_curve_of_isRecord (isPool : poolLayout.IsRecord data) (curve : BondingCurve) :
    BondingCurve.fromAccountData data ≠ .ok curve := by
  intro accepted
  obtain ⟨pool, holds⟩ := isPool
  have curveTag := (BondingCurve.of_fromAccountData accepted).1
  have poolTag : data.take 8 = poolDiscriminator.toList := holds.take_tag
  rw [curveTag] at poolTag
  exact absurd poolTag (by decide)

theorem detectAndParse_pumpfun_iff {state : PoolState LbPair} :
    detectAndParse data = some (.pumpfun, state) ↔
      fromAccountData sdk .pumpfun data = .ok state := by
  simp only [fromAccountData, map_mapError_eq_ok_iff]
  by_cases accepted : ∃ curve, BondingCurve.fromAccountData data = .ok curve
  · obtain ⟨curve, accepted⟩ := accepted
    simp [detectAndParse_of_curve accepted, accepted]
  · rw [not_exists] at accepted
    rw [detectAndParse_of_not_curve accepted]
    constructor
    · intro detected
      split at detected
      · obtain ⟨pool, -, pair⟩ := Option.map_eq_some_iff.mp detected
        cases pair
      · cases detected
    · rintro ⟨curve, isCurve, -⟩
      exact absurd isCurve (accepted curve)

/-- The detection finds the pools that are long enough. -/
theorem detectAndParse_pumpSwap_iff {state : PoolState LbPair} :
    detectAndParse data = some (.pumpSwap, state) ↔
      poolAccountSize ≤ data.length ∧
        fromAccountData sdk .pumpSwap data = .ok state := by
  simp only [fromAccountData, map_mapError_eq_ok_iff]
  by_cases accepted : ∃ curve, BondingCurve.fromAccountData data = .ok curve
  · obtain ⟨curve, accepted⟩ := accepted
    rw [detectAndParse_of_curve accepted]
    constructor
    · intro detected
      cases detected
    · rintro ⟨-, pool, isPool, -⟩
      have record : poolLayout.IsRecord data :=
        ⟨pool, fromAccountData_eq_ok_iff.mp isPool⟩
      exact absurd accepted (not_curve_of_isRecord record curve)
  · rw [not_exists] at accepted
    rw [detectAndParse_of_not_curve accepted]
    by_cases enough : poolAccountSize ≤ data.length
    · rw [if_pos enough]
      cases Pumpfun.fromAccountData poolDiscriminator PumpSwap.PumpSwapPool.fields
          data with
      | error err => simp [Except.toOption]
      | ok pool => simp [Except.toOption, enough]
    · rw [if_neg enough]
      simp [enough]

/-- What the ways of identifying an account owe each other, at one protocol and
one byte string. -/
structure Agrees (sdk : LbPairSdk LbPair) (protocol : Protocol) (data : Bytes) :
    Prop where
  prefilter : ∀ state, fromAccountData sdk protocol data = .ok state →
    isProtocolAccount protocol data = true
  detection : protocol = .pumpfun ∨ protocol = .pumpSwap → ∀ state,
    fromAccountData sdk protocol data = .ok state ↔
      detectAndParse data = some (protocol, state)

/-- The accounts that are missed: a PumpSwap pool shorter than the newest ones,
and any account of a protocol whose discriminator is not declared. -/
def Missed (sdk : LbPairSdk LbPair) (data : Bytes) : Protocol → Prop
  | .pumpSwap => poolLayout.IsRecord data ∧ data.length < poolAccountSize
  | .raydiumClmm => clmmLayout.IsRecord data
  | .raydiumCpmm => cpmmLayout.IsRecord data
  | .raydiumLaunchpad => launchpadLayout.IsRecord data
  | .meteoraDlmm => sdk.IsAccount data ∧ sdk.discriminator ≠ zeroDiscriminator
  | .meteoraDbc => virtualPoolLayout.IsRecord data
  | .pumpfun | .raydiumV4 | .meteoraDammV2 => False

theorem decodable_of_missed {protocol : Protocol} (missed : Missed sdk data protocol) :
    Decodable sdk data protocol := by
  cases protocol with
  | pumpSwap => exact missed.1
  | meteoraDlmm => exact missed.1
  | raydiumClmm | raydiumCpmm | raydiumLaunchpad | meteoraDbc => exact missed
  | pumpfun | raydiumV4 | meteoraDammV2 => exact missed.elim

theorem not_isProtocolAccount_of_record {State : Type} {discriminator : Discriminator}
    {fields : PrefixCodec State} {protocol : Protocol}
    (undeclared : protocolDiscriminator protocol = zeroDiscriminator)
    (nonzero : discriminator ≠ zeroDiscriminator)
    (record : (layout discriminator fields).IsRecord data) :
    ¬ isProtocolAccount protocol data = true := by
  intro quick
  obtain ⟨state, holds⟩ := record
  have tagged := holds.take_tag
  rw [tag_length, (isProtocolAccount_iff.mp quick).2.2, undeclared] at tagged
  exact nonzero (Vector.toList_inj.mp tagged.symm)

/-- The quick check passes an account that decodes unless it is one of those
that are missed. -/
theorem isProtocolAccount_iff_of_decodable {protocol : Protocol}
    (decodable : Decodable sdk data protocol) :
    isProtocolAccount protocol data = true ↔ ¬ Missed sdk data protocol := by
  cases protocol with
  | pumpfun =>
      obtain ⟨curve, accepted⟩ := decodable
      obtain ⟨tagged, enough⟩ := BondingCurve.of_fromAccountData accepted
      simp only [isProtocolAccount_iff, Missed, not_false_eq_true, iff_true]
      exact ⟨enough, by omega, tagged⟩
  | pumpSwap =>
      obtain ⟨pool, holds⟩ := decodable
      have tagged : data.take 8 = poolDiscriminator.toList := holds.take_tag
      rw [isProtocolAccount_iff, Missed, not_and, Nat.not_lt]
      constructor
      · rintro ⟨enough, -⟩ -
        exact enough
      · intro enough
        have long : poolAccountSize ≤ data.length := enough ⟨pool, holds⟩
        refine ⟨long, ?_, tagged⟩
        rw [poolAccountSize] at long
        omega
  | raydiumClmm =>
      exact iff_of_false
        (not_isProtocolAccount_of_record rfl (by decide) decodable)
        (not_not_intro decodable)
  | raydiumCpmm =>
      exact iff_of_false
        (not_isProtocolAccount_of_record rfl (by decide) decodable)
        (not_not_intro decodable)
  | raydiumLaunchpad =>
      exact iff_of_false
        (not_isProtocolAccount_of_record rfl (by decide) decodable)
        (not_not_intro decodable)
  | meteoraDbc =>
      exact iff_of_false
        (not_isProtocolAccount_of_record rfl (by decide) decodable)
        (not_not_intro decodable)
  | meteoraDlmm =>
      obtain ⟨enough, tagged, pair, accepted⟩ := decodable
      have isAccount : sdk.IsAccount data := ⟨enough, tagged, pair, accepted⟩
      rw [isProtocolAccount_iff, tagged, Missed]
      simp only [isAccount, true_and, ne_eq, not_not]
      constructor
      · rintro ⟨-, -, zeros⟩
        exact Vector.toList_inj.mp zeros
      · intro zeros
        exact ⟨Nat.zero_le _, enough, congrArg Vector.toList zeros⟩
  | raydiumV4 => exact decodable.elim
  | meteoraDammV2 => exact decodable.elim

/-- Identification agrees with decoding exactly off the accounts that are
missed. -/
theorem agrees_iff (sdk : LbPairSdk LbPair) (protocol : Protocol) (data : Bytes) :
    Agrees sdk protocol data ↔ ¬ Missed sdk data protocol := by
  constructor
  · intro agrees missed
    have decodable := decodable_of_missed missed
    obtain ⟨state, accepted⟩ := exists_fromAccountData_iff.mpr decodable
    have quick := agrees.prefilter state accepted
    exact (isProtocolAccount_iff_of_decodable decodable).mp quick missed
  · intro notMissed
    refine ⟨?_, ?_⟩
    · intro state accepted
      have decodable : Decodable sdk data protocol :=
        exists_fromAccountData_iff.mp ⟨state, accepted⟩
      exact (isProtocolAccount_iff_of_decodable decodable).mpr notMissed
    · rintro (rfl | rfl) state
      · exact detectAndParse_pumpfun_iff.symm
      · rw [@detectAndParse_pumpSwap_iff LbPair sdk]
        constructor
        · intro accepted
          have record : poolLayout.IsRecord data :=
            exists_fromAccountData_iff.mp ⟨state, accepted⟩
          refine ⟨Nat.le_of_not_lt fun short => ?_, accepted⟩
          exact notMissed ⟨record, short⟩
        · exact And.right

/-- An SDK that reads no pair. -/
def refusingSdk : LbPairSdk Unit where
  discriminator := #v[33, 11, 49, 98, 181, 101, 177, 13]
  tryFromSlice _ := .error "Unexpected length of input"

def firstPool : PumpSwap.PumpSwapPool where
  poolBump := 255
  index := 42
  creator := 0
  baseMint := 0
  quoteMint := 0
  lpMint := 0
  poolBaseTokenAccount := 0
  poolQuoteTokenAccount := 0
  lpSupply := 1000
  coinCreator := 0
  isMayhemMode := false

/-- The pool in an account of the first size. -/
def firstPoolAccount : Bytes :=
  poolDiscriminator.toList ++
    (PumpSwap.PumpSwapPool.fields.encode firstPool ++ List.replicate 17 0)

theorem firstPoolAccount_length : firstPoolAccount.length = 261 := by
  rw [firstPoolAccount, List.length_append, List.length_append,
    pumpSwapPool_hasWidth firstPool]
  rfl

/-- A pool of 261 bytes decodes, and neither the quick check nor the detection
finds it. -/
theorem firstPoolAccount_missed :
    fromAccountData refusingSdk .pumpSwap firstPoolAccount =
        .ok (.pumpSwap ⟨firstPool, 0, 0⟩) ∧
      isProtocolAccount .pumpSwap firstPoolAccount = false ∧
      (detectAndParse firstPoolAccount : Option (Protocol × PoolState Unit)) = none ∧
      ¬ ∀ protocol data, Agrees refusingSdk protocol data := by
  have holds : poolLayout.Holds firstPool firstPoolAccount := ⟨_, rfl⟩
  have record : poolLayout.IsRecord firstPoolAccount := ⟨firstPool, holds⟩
  have short : firstPoolAccount.length < poolAccountSize := by
    rw [firstPoolAccount_length]
    decide
  refine ⟨?_, ?_, ?_, ?_⟩
  · have read : Pumpfun.fromAccountData poolDiscriminator
        PumpSwap.PumpSwapPool.fields firstPoolAccount = .ok firstPool :=
      fromAccountData_eq_ok_iff.mpr holds
    rw [fromAccountData, read]
    rfl
  · have small : firstPoolAccount.length < protocolAccountSize .pumpSwap := short
    rw [isProtocolAccount, if_pos small]
  · rw [detectAndParse_of_not_curve (not_curve_of_isRecord record)]
    exact if_neg (Nat.not_le_of_lt short)
  · intro agrees
    exact (agrees_iff refusingSdk .pumpSwap firstPoolAccount).mp
      (agrees .pumpSwap firstPoolAccount) ⟨record, short⟩

end PoolState

end SolanaProtocols
