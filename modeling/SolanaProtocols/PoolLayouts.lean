import SolanaProtocols.PumpState
import SolanaProtocols.TaggedLayout

/-!
# Layouts of the pool accounts

The pool accounts that are decoded from a field list: the bonding curve and the
pool of the pump programs, and the pools of Raydium CLMM, CPMM and Launchpad
and of Meteora DBC.  A layout is a discriminator and the fields behind it; the
program allocated the account at least that large.
-/

namespace SolanaProtocols

open PrefixCodec Pumpfun

namespace PoolLayouts

abbrev U128 := BitVec 128

/-- The start of `sha256("account:BondingCurve")`. -/
def bondingCurveDiscriminator : Discriminator :=
  #v[23, 183, 248, 55, 96, 216, 172, 96]

/-- The start of `sha256("account:Pool")`. -/
def poolDiscriminator : Discriminator :=
  #v[241, 154, 109, 4, 17, 177, 109, 188]

/-- The start of `sha256("account:PoolState")`, which three programs share. -/
def clmmPoolStateDiscriminator : Discriminator :=
  #v[247, 237, 227, 245, 215, 195, 222, 70]

def cpmmPoolStateDiscriminator : Discriminator :=
  #v[247, 237, 227, 245, 215, 195, 222, 70]

def launchpadPoolStateDiscriminator : Discriminator :=
  #v[247, 237, 227, 245, 215, 195, 222, 70]

/-- The start of `sha256("account:VirtualPool")`. -/
def dbcVirtualPoolDiscriminator : Discriminator :=
  #v[213, 224, 5, 209, 98, 69, 119, 92]

/-- Reward info for a single reward token. -/
structure RewardInfo where
  rewardState : UInt8
  openTime : U64
  endTime : U64
  lastUpdateTime : U64
  emissionsPerSecondX64 : U128
  rewardTotalEmissioned : U64
  rewardClaimed : U64
  tokenMint : Pubkey
  tokenVault : Pubkey
  authority : Pubkey
  rewardGrowthGlobalX64 : U128
deriving DecidableEq

def RewardInfo.fields : PrefixCodec RewardInfo :=
  (byte.pair <| u64.pair <| u64.pair <| u64.pair <| u128.pair <| u64.pair <|
    u64.pair <| pubkey.pair <| pubkey.pair <| pubkey.pair u128).equiv
    { toFun := fun (a, b, c, d, e, f, g, h, i, j, k) =>
        ⟨a, b, c, d, e, f, g, h, i, j, k⟩
      invFun := fun ⟨a, b, c, d, e, f, g, h, i, j, k⟩ =>
        (a, b, c, d, e, f, g, h, i, j, k)
      left_inv := fun _ => rfl
      right_inv := fun _ => rfl }

/-- Raydium CLMM pool state. -/
structure ClmmPoolState where
  bump : Vector UInt8 1
  ammConfig : Pubkey
  owner : Pubkey
  tokenMint0 : Pubkey
  tokenMint1 : Pubkey
  tokenVault0 : Pubkey
  tokenVault1 : Pubkey
  observationKey : Pubkey
  mintDecimals0 : UInt8
  mintDecimals1 : UInt8
  tickSpacing : BitVec 16
  liquidity : U128
  sqrtPriceX64 : U128
  tickCurrent : BitVec 32
  padding3 : BitVec 16
  padding4 : BitVec 16
  feeGrowthGlobal0X64 : U128
  feeGrowthGlobal1X64 : U128
  protocolFeesToken0 : U64
  protocolFeesToken1 : U64
  swapInAmountToken0 : U128
  swapOutAmountToken1 : U128
  swapInAmountToken1 : U128
  swapOutAmountToken0 : U128
  status : UInt8
  padding : Vector UInt8 7
  rewardInfos : Vector RewardInfo 3
  tickArrayBitmap : Vector U64 16
  totalFeesToken0 : U64
  totalFeesClaimedToken0 : U64
  totalFeesToken1 : U64
  totalFeesClaimedToken1 : U64
  fundFeesToken0 : U64
  fundFeesToken1 : U64
  openTime : U64
  recentEpoch : U64
  padding1 : Vector U64 24
  padding2 : Vector U64 32
deriving DecidableEq

def ClmmPoolState.fields : PrefixCodec ClmmPoolState :=
  ((byte.array 1).pair <| pubkey.pair <| pubkey.pair <| pubkey.pair <|
    pubkey.pair <| pubkey.pair <| pubkey.pair <| pubkey.pair <| byte.pair <|
    byte.pair <| (littleEndian 2).pair <| u128.pair <| u128.pair <|
    (littleEndian 4).pair <| (littleEndian 2).pair <| (littleEndian 2).pair <|
    u128.pair <| u128.pair <| u64.pair <| u64.pair <| u128.pair <| u128.pair <|
    u128.pair <| u128.pair <| byte.pair <| (byte.array 7).pair <|
    (RewardInfo.fields.array 3).pair <| (u64.array 16).pair <| u64.pair <|
    u64.pair <| u64.pair <| u64.pair <| u64.pair <| u64.pair <| u64.pair <|
    u64.pair <| (u64.array 24).pair (u64.array 32)).equiv
    { toFun := fun (a, b, c, d, e, f, g, h, i, j, k, l, m, n, o, p, q, r, s, t,
          u, v, w, x, y, z, a', b', c', d', e', f', g', h', i', j', k', l') =>
        ⟨a, b, c, d, e, f, g, h, i, j, k, l, m, n, o, p, q, r, s, t, u, v, w, x,
          y, z, a', b', c', d', e', f', g', h', i', j', k', l'⟩
      invFun := fun ⟨a, b, c, d, e, f, g, h, i, j, k, l, m, n, o, p, q, r, s, t,
          u, v, w, x, y, z, a', b', c', d', e', f', g', h', i', j', k', l'⟩ =>
        (a, b, c, d, e, f, g, h, i, j, k, l, m, n, o, p, q, r, s, t, u, v, w, x,
          y, z, a', b', c', d', e', f', g', h', i', j', k', l')
      left_inv := fun _ => rfl
      right_inv := fun _ => rfl }

/-- Raydium CPMM pool state. -/
structure CpmmPoolState where
  ammConfig : Pubkey
  poolCreator : Pubkey
  token0Vault : Pubkey
  token1Vault : Pubkey
  lpMint : Pubkey
  token0Mint : Pubkey
  token1Mint : Pubkey
  token0Program : Pubkey
  token1Program : Pubkey
  observationKey : Pubkey
  authBump : UInt8
  status : UInt8
  lpMintDecimals : UInt8
  mint0Decimals : UInt8
  mint1Decimals : UInt8
  lpSupply : U64
  protocolFeesToken0 : U64
  protocolFeesToken1 : U64
  fundFeesToken0 : U64
  fundFeesToken1 : U64
  openTime : U64
  recentEpoch : U64
  creatorFeeOn : UInt8
  enableCreatorFee : Bool
  padding1 : Vector UInt8 6
  creatorFeesToken0 : U64
  creatorFeesToken1 : U64
  paddingReserved : Vector U64 28
deriving DecidableEq

def CpmmPoolState.fields : PrefixCodec CpmmPoolState :=
  (pubkey.pair <| pubkey.pair <| pubkey.pair <| pubkey.pair <| pubkey.pair <|
    pubkey.pair <| pubkey.pair <| pubkey.pair <| pubkey.pair <| pubkey.pair <|
    byte.pair <| byte.pair <| byte.pair <| byte.pair <| byte.pair <| u64.pair <|
    u64.pair <| u64.pair <| u64.pair <| u64.pair <| u64.pair <| u64.pair <|
    byte.pair <| bool.pair <| (byte.array 6).pair <| u64.pair <| u64.pair
    (u64.array 28)).equiv
    { toFun := fun (a, b, c, d, e, f, g, h, i, j, k, l, m, n, o, p, q, r, s, t,
          u, v, w, x, y, z, a', b') =>
        ⟨a, b, c, d, e, f, g, h, i, j, k, l, m, n, o, p, q, r, s, t, u, v, w, x,
          y, z, a', b'⟩
      invFun := fun ⟨a, b, c, d, e, f, g, h, i, j, k, l, m, n, o, p, q, r, s, t,
          u, v, w, x, y, z, a', b'⟩ =>
        (a, b, c, d, e, f, g, h, i, j, k, l, m, n, o, p, q, r, s, t, u, v, w, x,
          y, z, a', b')
      left_inv := fun _ => rfl
      right_inv := fun _ => rfl }

/-- Vesting schedule for token unlocks. -/
structure VestingSchedule where
  totalLockedAmount : U64
  cliffPeriod : U64
  unlockPeriod : U64
  startTime : U64
  allocatedShareAmount : U64
deriving DecidableEq

def VestingSchedule.fields : PrefixCodec VestingSchedule :=
  (u64.pair <| u64.pair <| u64.pair <| u64.pair u64).equiv
    { toFun := fun (a, b, c, d, e) => ⟨a, b, c, d, e⟩
      invFun := fun ⟨a, b, c, d, e⟩ => (a, b, c, d, e)
      left_inv := fun _ => rfl
      right_inv := fun _ => rfl }

/-- Raydium Launchpad pool state. -/
structure LaunchpadPoolState where
  epoch : U64
  authBump : UInt8
  status : UInt8
  baseDecimals : UInt8
  quoteDecimals : UInt8
  migrateType : UInt8
  supply : U64
  totalBaseSell : U64
  virtualBase : U64
  virtualQuote : U64
  realBase : U64
  realQuote : U64
  totalQuoteFundRaising : U64
  quoteProtocolFee : U64
  platformFee : U64
  migrateFee : U64
  vestingSchedule : VestingSchedule
  globalConfig : Pubkey
  platformConfig : Pubkey
  baseMint : Pubkey
  quoteMint : Pubkey
  baseVault : Pubkey
  quoteVault : Pubkey
  creator : Pubkey
  tokenProgramFlag : UInt8
  ammCreatorFeeOn : UInt8
deriving DecidableEq

def LaunchpadPoolState.fields : PrefixCodec LaunchpadPoolState :=
  (u64.pair <| byte.pair <| byte.pair <| byte.pair <| byte.pair <| byte.pair <|
    u64.pair <| u64.pair <| u64.pair <| u64.pair <| u64.pair <| u64.pair <|
    u64.pair <| u64.pair <| u64.pair <| u64.pair <|
    VestingSchedule.fields.pair <| pubkey.pair <| pubkey.pair <| pubkey.pair <|
    pubkey.pair <| pubkey.pair <| pubkey.pair <| pubkey.pair <|
    byte.pair byte).equiv
    { toFun := fun (a, b, c, d, e, f, g, h, i, j, k, l, m, n, o, p, q, r, s, t,
          u, v, w, x, y, z) =>
        ⟨a, b, c, d, e, f, g, h, i, j, k, l, m, n, o, p, q, r, s, t, u, v, w, x,
          y, z⟩
      invFun := fun ⟨a, b, c, d, e, f, g, h, i, j, k, l, m, n, o, p, q, r, s, t,
          u, v, w, x, y, z⟩ =>
        (a, b, c, d, e, f, g, h, i, j, k, l, m, n, o, p, q, r, s, t, u, v, w, x,
          y, z)
      left_inv := fun _ => rfl
      right_inv := fun _ => rfl }

/-- Volatility tracker for dynamic fee calculation. -/
structure VolatilityTracker where
  lastUpdateTimestamp : U64
  padding : Vector UInt8 8
  sqrtPriceReference : U128
  volatilityAccumulator : U128
  volatilityReference : U128
deriving DecidableEq

def VolatilityTracker.fields : PrefixCodec VolatilityTracker :=
  (u64.pair <| (byte.array 8).pair <| u128.pair <| u128.pair u128).equiv
    { toFun := fun (a, b, c, d, e) => ⟨a, b, c, d, e⟩
      invFun := fun ⟨a, b, c, d, e⟩ => (a, b, c, d, e)
      left_inv := fun _ => rfl
      right_inv := fun _ => rfl }

/-- Accumulated fee metrics. -/
structure PoolMetrics where
  totalProtocolBaseFee : U64
  totalProtocolQuoteFee : U64
  totalTradingBaseFee : U64
  totalTradingQuoteFee : U64
deriving DecidableEq

def PoolMetrics.fields : PrefixCodec PoolMetrics :=
  (u64.pair <| u64.pair <| u64.pair u64).equiv
    { toFun := fun (a, b, c, d) => ⟨a, b, c, d⟩
      invFun := fun ⟨a, b, c, d⟩ => (a, b, c, d)
      left_inv := fun _ => rfl
      right_inv := fun _ => rfl }

/-- Meteora DBC virtual pool. -/
structure VirtualPool where
  volatilityTracker : VolatilityTracker
  config : Pubkey
  creator : Pubkey
  baseMint : Pubkey
  baseVault : Pubkey
  quoteVault : Pubkey
  baseReserve : U64
  quoteReserve : U64
  protocolBaseFee : U64
  protocolQuoteFee : U64
  partnerBaseFee : U64
  partnerQuoteFee : U64
  sqrtPrice : U128
  activationPoint : U64
  poolType : UInt8
  isMigrated : UInt8
  isPartnerWithdrawSurplus : UInt8
  isProtocolWithdrawSurplus : UInt8
  migrationProgress : UInt8
  isWithdrawLeftover : UInt8
  isCreatorWithdrawSurplus : UInt8
  migrationFeeWithdrawStatus : UInt8
  metrics : PoolMetrics
  finishCurveTimestamp : U64
  creatorBaseFee : U64
  creatorQuoteFee : U64
  legacyCreationFeeBits : UInt8
  creationFeeBits : UInt8
  padding0 : Vector UInt8 6
  padding1 : Vector U64 6
deriving DecidableEq

def VirtualPool.fields : PrefixCodec VirtualPool :=
  (VolatilityTracker.fields.pair <| pubkey.pair <| pubkey.pair <| pubkey.pair <|
    pubkey.pair <| pubkey.pair <| u64.pair <| u64.pair <| u64.pair <| u64.pair <|
    u64.pair <| u64.pair <| u128.pair <| u64.pair <| byte.pair <| byte.pair <|
    byte.pair <| byte.pair <| byte.pair <| byte.pair <| byte.pair <| byte.pair <|
    PoolMetrics.fields.pair <| u64.pair <| u64.pair <| u64.pair <| byte.pair <|
    byte.pair <| (byte.array 6).pair (u64.array 6)).equiv
    { toFun := fun (a, b, c, d, e, f, g, h, i, j, k, l, m, n, o, p, q, r, s, t,
          u, v, w, x, y, z, a', b', c', d') =>
        ⟨a, b, c, d, e, f, g, h, i, j, k, l, m, n, o, p, q, r, s, t, u, v, w, x,
          y, z, a', b', c', d'⟩
      invFun := fun ⟨a, b, c, d, e, f, g, h, i, j, k, l, m, n, o, p, q, r, s, t,
          u, v, w, x, y, z, a', b', c', d'⟩ =>
        (a, b, c, d, e, f, g, h, i, j, k, l, m, n, o, p, q, r, s, t, u, v, w, x,
          y, z, a', b', c', d')
      left_inv := fun _ => rfl
      right_inv := fun _ => rfl }

/-- The layout of an account whose discriminator is declared. -/
def layout {State : Type} (discriminator : Discriminator)
    (fields : PrefixCodec State) : TaggedLayout State :=
  ⟨discriminator.toList, fields⟩

def poolLayout : TaggedLayout PumpSwap.PumpSwapPool :=
  layout poolDiscriminator PumpSwap.PumpSwapPool.fields

def clmmLayout : TaggedLayout ClmmPoolState :=
  layout clmmPoolStateDiscriminator ClmmPoolState.fields

def cpmmLayout : TaggedLayout CpmmPoolState :=
  layout cpmmPoolStateDiscriminator CpmmPoolState.fields

def launchpadLayout : TaggedLayout LaunchpadPoolState :=
  layout launchpadPoolStateDiscriminator LaunchpadPoolState.fields

def virtualPoolLayout : TaggedLayout VirtualPool :=
  layout dbcVirtualPoolDiscriminator VirtualPool.fields

theorem tag_length {State : Type} (discriminator : Discriminator)
    (fields : PrefixCodec State) : (layout discriminator fields).tag.length = 8 :=
  discriminator.length_toList

/-- The decoder accepts the records of the layout. -/
theorem fromAccountData_eq_ok_iff {State : Type} {discriminator : Discriminator}
    {fields : PrefixCodec State} {data : Bytes} {state : State} :
    fromAccountData discriminator fields data = .ok state ↔
      (layout discriminator fields).Holds state data := by
  constructor
  · intro accepted
    rw [TaggedLayout.holds_iff, tag_length]
    rw [fromAccountData] at accepted
    split at accepted
    · cases accepted
    split at accepted
    · cases accepted
    next tagged =>
      split at accepted
      · cases accepted
      next decoded padding read =>
        cases accepted
        exact ⟨not_not.mp tagged, padding, read⟩
  · rintro ⟨padding, rfl⟩
    exact fromAccountData_encode discriminator fields state padding

section Widths

theorem u64_hasWidth : u64.HasWidth 8 := .littleEndian 8

theorem pubkey_hasWidth : pubkey.HasWidth 32 := .littleEndian 32

theorem coreFields_hasWidth : BondingCurve.coreFields.HasWidth 73 :=
  u64_hasWidth.pair <| u64_hasWidth.pair <| u64_hasWidth.pair <|
    u64_hasWidth.pair <| u64_hasWidth.pair <| HasWidth.bool.pair pubkey_hasWidth

theorem pumpSwapPool_hasWidth : PumpSwap.PumpSwapPool.fields.HasWidth 236 :=
  (HasWidth.byte.pair <| (HasWidth.littleEndian 2).pair <| pubkey_hasWidth.pair <|
    pubkey_hasWidth.pair <| pubkey_hasWidth.pair <| pubkey_hasWidth.pair <|
    pubkey_hasWidth.pair <| pubkey_hasWidth.pair <| u64_hasWidth.pair <|
    pubkey_hasWidth.pair HasWidth.bool).equiv _

end Widths

end PoolLayouts

end SolanaProtocols
