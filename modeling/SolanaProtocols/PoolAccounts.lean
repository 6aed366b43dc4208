import SolanaProtocols.FixedAccounts

/-!
# Accounts of the pool programs

The accounts structs that the instruction parsers of the pool programs read.
Every slot is required and none follows the declared ones.
-/

namespace SolanaProtocols

open Parsing Slot Chain

namespace PumpSwap

/-- The accounts of a pool creation. -/
structure CreatePoolAccounts where
  pool : Pubkey
  globalConfig : Pubkey
  creator : Pubkey
  baseMint : Pubkey
  quoteMint : Pubkey
  lpMint : Pubkey
  userBaseTokenAccount : Pubkey
  userQuoteTokenAccount : Pubkey
  userPoolTokenAccount : Pubkey
  poolBaseTokenAccount : Pubkey
  poolQuoteTokenAccount : Pubkey
  systemProgram : Pubkey
  token2022Program : Pubkey
  baseTokenProgram : Pubkey
  quoteTokenProgram : Pubkey
  associatedTokenProgram : Pubkey
  eventAuthority : Pubkey
  program : Pubkey
deriving DecidableEq

def CreatePoolAccounts.struct : FixedAccounts CreatePoolAccounts where
  programId := programId
  slots :=
    [writable, readonly, writableSigner, readonly, readonly, writable,
     writable, writable, writable, writable, writable, readonly, readonly, readonly,
     readonly, readonly, readonly, readonly]
  required := by decide
  tuple :=
    { toFun := fun (a, b, c, d, e, f, g, h, i, j, k, l, m, n, o, p, q, r) =>
        ⟨a, b, c, d, e, f, g, h, i, j, k, l, m, n, o, p, q, r⟩
      invFun := fun ⟨a, b, c, d, e, f, g, h, i, j, k, l, m, n, o, p, q, r⟩ =>
        (a, b, c, d, e, f, g, h, i, j, k, l, m, n, o, p, q, r)
      left_inv := fun _ => rfl
      right_inv := fun _ => rfl }

/-- The accounts of a deposit. -/
structure DepositAccounts where
  pool : Pubkey
  globalConfig : Pubkey
  user : Pubkey
  baseMint : Pubkey
  quoteMint : Pubkey
  lpMint : Pubkey
  userBaseTokenAccount : Pubkey
  userQuoteTokenAccount : Pubkey
  userPoolTokenAccount : Pubkey
  poolBaseTokenAccount : Pubkey
  poolQuoteTokenAccount : Pubkey
  tokenProgram : Pubkey
  token2022Program : Pubkey
  eventAuthority : Pubkey
  program : Pubkey
deriving DecidableEq

def DepositAccounts.struct : FixedAccounts DepositAccounts where
  programId := programId
  slots :=
    [writable, readonly, signer, readonly, readonly, writable, writable,
     writable, writable, writable, writable, readonly, readonly, readonly, readonly]
  required := by decide
  tuple :=
    { toFun := fun (a, b, c, d, e, f, g, h, i, j, k, l, m, n, o) =>
        ⟨a, b, c, d, e, f, g, h, i, j, k, l, m, n, o⟩
      invFun := fun ⟨a, b, c, d, e, f, g, h, i, j, k, l, m, n, o⟩ =>
        (a, b, c, d, e, f, g, h, i, j, k, l, m, n, o)
      left_inv := fun _ => rfl
      right_inv := fun _ => rfl }

/-- The accounts of a withdrawal. -/
structure WithdrawAccounts where
  pool : Pubkey
  globalConfig : Pubkey
  user : Pubkey
  baseMint : Pubkey
  quoteMint : Pubkey
  lpMint : Pubkey
  userBaseTokenAccount : Pubkey
  userQuoteTokenAccount : Pubkey
  userPoolTokenAccount : Pubkey
  poolBaseTokenAccount : Pubkey
  poolQuoteTokenAccount : Pubkey
  tokenProgram : Pubkey
  token2022Program : Pubkey
  eventAuthority : Pubkey
  program : Pubkey
deriving DecidableEq

def WithdrawAccounts.struct : FixedAccounts WithdrawAccounts where
  programId := programId
  slots :=
    [writable, readonly, signer, readonly, readonly, writable, writable,
     writable, writable, writable, writable, readonly, readonly, readonly, readonly]
  required := by decide
  tuple :=
    { toFun := fun (a, b, c, d, e, f, g, h, i, j, k, l, m, n, o) =>
        ⟨a, b, c, d, e, f, g, h, i, j, k, l, m, n, o⟩
      invFun := fun ⟨a, b, c, d, e, f, g, h, i, j, k, l, m, n, o⟩ =>
        (a, b, c, d, e, f, g, h, i, j, k, l, m, n, o)
      left_inv := fun _ => rfl
      right_inv := fun _ => rfl }

end PumpSwap

namespace RaydiumV4

/-- The accounts of a swap, with either amount exact. -/
structure SwapBaseInAccounts where
  tokenProgram : Pubkey
  ammId : Pubkey
  ammAuthority : Pubkey
  ammOpenOrders : Pubkey
  ammTargetOrders : Pubkey
  poolCoinTokenAccount : Pubkey
  poolPcTokenAccount : Pubkey
  serumProgramId : Pubkey
  serumMarket : Pubkey
  serumBids : Pubkey
  serumAsks : Pubkey
  serumEventQueue : Pubkey
  serumCoinVaultAccount : Pubkey
  serumPcVaultAccount : Pubkey
  serumVaultSigner : Pubkey
  userSourceTokenAccount : Pubkey
  userDestinationTokenAccount : Pubkey
  userSourceOwner : Pubkey
deriving DecidableEq

def SwapBaseInAccounts.struct : FixedAccounts SwapBaseInAccounts where
  programId := Protocol.raydiumV4.programId
  slots :=
    [readonly, writable, readonly, writable, writable, writable,
     writable, readonly, writable, writable, writable, writable, writable, writable,
     readonly, writable, writable, signer]
  required := by decide
  tuple :=
    { toFun := fun (a, b, c, d, e, f, g, h, i, j, k, l, m, n, o, p, q, r) =>
        ⟨a, b, c, d, e, f, g, h, i, j, k, l, m, n, o, p, q, r⟩
      invFun := fun ⟨a, b, c, d, e, f, g, h, i, j, k, l, m, n, o, p, q, r⟩ =>
        (a, b, c, d, e, f, g, h, i, j, k, l, m, n, o, p, q, r)
      left_inv := fun _ => rfl
      right_inv := fun _ => rfl }

/-- The accounts of a pool creation. -/
structure Initialize2Accounts where
  tokenProgram : Pubkey
  associatedTokenProgram : Pubkey
  systemProgram : Pubkey
  rent : Pubkey
  ammId : Pubkey
  ammAuthority : Pubkey
  ammOpenOrders : Pubkey
  lpMint : Pubkey
  coinMint : Pubkey
  pcMint : Pubkey
  coinVault : Pubkey
  pcVault : Pubkey
  targetOrders : Pubkey
  ammConfig : Pubkey
  createPoolFeeDestination : Pubkey
  marketProgram : Pubkey
  market : Pubkey
  user : Pubkey
  userCoinTokenAccount : Pubkey
  userPcTokenAccount : Pubkey
  userPoolTokenAccount : Pubkey
deriving DecidableEq

def Initialize2Accounts.struct : FixedAccounts Initialize2Accounts where
  programId := Protocol.raydiumV4.programId
  slots :=
    [readonly, readonly, readonly, readonly, writable, readonly,
     writable, writable, readonly, readonly, writable, writable, writable, readonly,
     readonly, readonly, writable, writableSigner, readonly, readonly, writable]
  required := by decide
  tuple :=
    { toFun := fun
        (a, b, c, d, e, f, g, h, i, j, k, l, m, n, o, p, q, r, s, t, u) =>
          ⟨a, b, c, d, e, f, g, h, i, j, k, l, m, n, o, p, q, r, s, t, u⟩
      invFun := fun
        ⟨a, b, c, d, e, f, g, h, i, j, k, l, m, n, o, p, q, r, s, t, u⟩ =>
          (a, b, c, d, e, f, g, h, i, j, k, l, m, n, o, p, q, r, s, t, u)
      left_inv := fun _ => rfl
      right_inv := fun _ => rfl }

/-- The accounts of a deposit. -/
structure DepositAccounts where
  tokenProgram : Pubkey
  ammId : Pubkey
  ammAuthority : Pubkey
  ammOpenOrders : Pubkey
  targetOrders : Pubkey
  lpMint : Pubkey
  coinVault : Pubkey
  pcVault : Pubkey
  market : Pubkey
  userCoinTokenAccount : Pubkey
  userPcTokenAccount : Pubkey
  userPoolTokenAccount : Pubkey
  user : Pubkey
  marketEventQueue : Pubkey
deriving DecidableEq

def DepositAccounts.struct : FixedAccounts DepositAccounts where
  programId := Protocol.raydiumV4.programId
  slots :=
    [readonly, writable, readonly, readonly, writable, writable,
     writable, writable, readonly, writable, writable, writable, signer, readonly]
  required := by decide
  tuple :=
    { toFun := fun (a, b, c, d, e, f, g, h, i, j, k, l, m, n) =>
        ⟨a, b, c, d, e, f, g, h, i, j, k, l, m, n⟩
      invFun := fun ⟨a, b, c, d, e, f, g, h, i, j, k, l, m, n⟩ =>
        (a, b, c, d, e, f, g, h, i, j, k, l, m, n)
      left_inv := fun _ => rfl
      right_inv := fun _ => rfl }

/-- The accounts of a withdrawal. -/
structure WithdrawAccounts where
  tokenProgram : Pubkey
  ammId : Pubkey
  ammAuthority : Pubkey
  ammOpenOrders : Pubkey
  targetOrders : Pubkey
  lpMint : Pubkey
  coinVault : Pubkey
  pcVault : Pubkey
  marketProgram : Pubkey
  market : Pubkey
  marketCoinVault : Pubkey
  marketPcVault : Pubkey
  vaultSigner : Pubkey
  userPoolTokenAccount : Pubkey
  userCoinTokenAccount : Pubkey
  userPcTokenAccount : Pubkey
  user : Pubkey
  marketEventQueue : Pubkey
  marketBids : Pubkey
  marketAsks : Pubkey
deriving DecidableEq

def WithdrawAccounts.struct : FixedAccounts WithdrawAccounts where
  programId := Protocol.raydiumV4.programId
  slots :=
    [readonly, writable, readonly, writable, writable, writable,
     writable, writable, readonly, writable, writable, writable, readonly, writable,
     writable, writable, signer, writable, writable, writable]
  required := by decide
  tuple :=
    { toFun := fun
        (a, b, c, d, e, f, g, h, i, j, k, l, m, n, o, p, q, r, s, t) =>
          ⟨a, b, c, d, e, f, g, h, i, j, k, l, m, n, o, p, q, r, s, t⟩
      invFun := fun
        ⟨a, b, c, d, e, f, g, h, i, j, k, l, m, n, o, p, q, r, s, t⟩ =>
          (a, b, c, d, e, f, g, h, i, j, k, l, m, n, o, p, q, r, s, t)
      left_inv := fun _ => rfl
      right_inv := fun _ => rfl }

end RaydiumV4

namespace RaydiumClmm

/-- The fixed accounts of a swap. -/
structure SwapAccounts where
  payer : Pubkey
  ammConfig : Pubkey
  poolState : Pubkey
  inputTokenAccount : Pubkey
  outputTokenAccount : Pubkey
  inputVault : Pubkey
  outputVault : Pubkey
  observationState : Pubkey
  tokenProgram : Pubkey
deriving DecidableEq

def SwapAccounts.struct : FixedAccounts SwapAccounts where
  programId := Protocol.raydiumClmm.programId
  slots :=
    [signer, readonly, writable, writable, writable, writable, writable,
     writable, readonly]
  required := by decide
  tuple :=
    { toFun := fun (a, b, c, d, e, f, g, h, i) =>
        ⟨a, b, c, d, e, f, g, h, i⟩
      invFun := fun ⟨a, b, c, d, e, f, g, h, i⟩ =>
        (a, b, c, d, e, f, g, h, i)
      left_inv := fun _ => rfl
      right_inv := fun _ => rfl }

/-- The fixed accounts of the second version. -/
structure SwapV2Accounts where
  payer : Pubkey
  ammConfig : Pubkey
  poolState : Pubkey
  inputTokenAccount : Pubkey
  outputTokenAccount : Pubkey
  inputVault : Pubkey
  outputVault : Pubkey
  observationState : Pubkey
  tokenProgram : Pubkey
  tokenProgram2022 : Pubkey
  memoProgram : Pubkey
  inputVaultMint : Pubkey
  outputVaultMint : Pubkey
deriving DecidableEq

def SwapV2Accounts.struct : FixedAccounts SwapV2Accounts where
  programId := Protocol.raydiumClmm.programId
  slots :=
    [signer, readonly, writable, writable, writable, writable, writable,
     writable, readonly, readonly, readonly, readonly, readonly]
  required := by decide
  tuple :=
    { toFun := fun (a, b, c, d, e, f, g, h, i, j, k, l, m) =>
        ⟨a, b, c, d, e, f, g, h, i, j, k, l, m⟩
      invFun := fun ⟨a, b, c, d, e, f, g, h, i, j, k, l, m⟩ =>
        (a, b, c, d, e, f, g, h, i, j, k, l, m)
      left_inv := fun _ => rfl
      right_inv := fun _ => rfl }

end RaydiumClmm

namespace RaydiumCpmm

/-- The accounts of a swap, with either amount exact. -/
structure SwapAccounts where
  payer : Pubkey
  authority : Pubkey
  ammConfig : Pubkey
  poolState : Pubkey
  inputTokenAccount : Pubkey
  outputTokenAccount : Pubkey
  inputVault : Pubkey
  outputVault : Pubkey
  inputTokenProgram : Pubkey
  outputTokenProgram : Pubkey
  inputTokenMint : Pubkey
  outputTokenMint : Pubkey
  observationState : Pubkey
deriving DecidableEq

def SwapAccounts.struct : FixedAccounts SwapAccounts where
  programId := Protocol.raydiumCpmm.programId
  slots :=
    [writableSigner, readonly, readonly, writable, writable, writable,
     writable, writable, readonly, readonly, readonly, readonly, writable]
  required := by decide
  tuple :=
    { toFun := fun (a, b, c, d, e, f, g, h, i, j, k, l, m) =>
        ⟨a, b, c, d, e, f, g, h, i, j, k, l, m⟩
      invFun := fun ⟨a, b, c, d, e, f, g, h, i, j, k, l, m⟩ =>
        (a, b, c, d, e, f, g, h, i, j, k, l, m)
      left_inv := fun _ => rfl
      right_inv := fun _ => rfl }

end RaydiumCpmm

namespace RaydiumLaunchpad

/-- The accounts of the four swaps. -/
structure SwapAccounts where
  payer : Pubkey
  authority : Pubkey
  globalConfig : Pubkey
  platformConfig : Pubkey
  poolState : Pubkey
  userBaseToken : Pubkey
  userQuoteToken : Pubkey
  baseVault : Pubkey
  quoteVault : Pubkey
  baseTokenMint : Pubkey
  quoteTokenMint : Pubkey
  baseTokenProgram : Pubkey
  quoteTokenProgram : Pubkey
  eventAuthority : Pubkey
  program : Pubkey
deriving DecidableEq

def SwapAccounts.struct : FixedAccounts SwapAccounts where
  programId := Protocol.raydiumLaunchpad.programId
  slots :=
    [writableSigner, readonly, readonly, readonly, writable, writable,
     writable, writable, writable, readonly, readonly, readonly, readonly, readonly,
     readonly]
  required := by decide
  tuple :=
    { toFun := fun (a, b, c, d, e, f, g, h, i, j, k, l, m, n, o) =>
        ⟨a, b, c, d, e, f, g, h, i, j, k, l, m, n, o⟩
      invFun := fun ⟨a, b, c, d, e, f, g, h, i, j, k, l, m, n, o⟩ =>
        (a, b, c, d, e, f, g, h, i, j, k, l, m, n, o)
      left_inv := fun _ => rfl
      right_inv := fun _ => rfl }

end RaydiumLaunchpad

namespace MeteoraDbc

/-- The accounts of both swaps. -/
structure SwapAccounts where
  poolAuthority : Pubkey
  config : Pubkey
  pool : Pubkey
  inputTokenAccount : Pubkey
  outputTokenAccount : Pubkey
  baseVault : Pubkey
  quoteVault : Pubkey
  baseMint : Pubkey
  quoteMint : Pubkey
  payer : Pubkey
  tokenBaseProgram : Pubkey
  tokenQuoteProgram : Pubkey
  referralTokenAccount : Pubkey
  eventAuthority : Pubkey
  program : Pubkey
deriving DecidableEq

def SwapAccounts.struct : FixedAccounts SwapAccounts where
  programId := Protocol.meteoraDbc.programId
  slots :=
    [readonly, readonly, writable, writable, writable, writable,
     writable, readonly, readonly, signer, readonly, readonly, writable, readonly,
     readonly]
  required := by decide
  tuple :=
    { toFun := fun (a, b, c, d, e, f, g, h, i, j, k, l, m, n, o) =>
        ⟨a, b, c, d, e, f, g, h, i, j, k, l, m, n, o⟩
      invFun := fun ⟨a, b, c, d, e, f, g, h, i, j, k, l, m, n, o⟩ =>
        (a, b, c, d, e, f, g, h, i, j, k, l, m, n, o)
      left_inv := fun _ => rfl
      right_inv := fun _ => rfl }

end MeteoraDbc

end SolanaProtocols
