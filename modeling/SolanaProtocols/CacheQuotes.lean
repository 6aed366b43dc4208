import SolanaProtocols.CacheRuns
import SolanaProtocols.QuoteSnapshot

/-!
# Quotes out of the whole cache

A pool handler reports the vaults of its pool, and a quote reads the vaults of the
pool.  Once everything that was reported has been delivered, and the fees, the
pool can be quoted, and the quote is priced from the newest of what was delivered.
-/

namespace SolanaProtocols

namespace Storage

open HandlerRegistry NewestWins QuoteState Pumpfun

section MapStates

variable {K S T : Type*} (part : S → T)

end MapStates

namespace VersionedStateMap

variable {K S T : Type*}

variable [DecidableEq K]

end VersionedStateMap

/-- The quote that is priced from the states of the four accounts. -/
def pumpSwapQuote (root : QuoteState.PumpSwapPool)
    (base vault : QuoteState.TokenAccount) (feeConfig : QuoteState.PumpSwapFeeConfig) :
    Quote PumpSwapQuote.layout where
  lead := []
  root := root
  rest := [⟨.tokenAccount, base⟩, ⟨.tokenAccount, vault⟩, ⟨.pumpSwapFeeConfig, feeConfig⟩,
    ⟨.pumpfunFees, Fees.select feeConfig root.hasCreator vault.balance⟩]

section Quotes

variable {dlmm : DlmmAccounts}

/-- The field of a token account that a quote reads. -/
def quoteVault (account : SolanaProtocols.TokenAccount) : QuoteState.TokenAccount where
  balance := account.balance

/-- A cache that was made with some depths and to which updates were delivered. -/
structure FedCache (dlmm : DlmmAccounts) where
  depths : FieldDepths
  delivered : List AccountUpdate

def FedCache.cache (fed : FedCache dlmm) : CacheData dlmm :=
  fed.delivered.foldl CacheData.write (.withDepths fed.depths)

/-- The state of an account that the cache holds after the deliveries. -/
def FedCache.Newest (fed : FedCache dlmm) (field : CacheField) (key : Pubkey)
    (state : field.Value dlmm) : Prop :=
  ∃ slot, LastNewest StateWithSlot.slot (observations dlmm field key fed.delivered)
    ⟨state, slot⟩

section UpTo

variable {fed : FedCache dlmm} {slot : Nat}
  (upTo : ∀ update ∈ fed.delivered, update.slot ≤ slot)
include upTo

end UpTo

/-- The ingest layer before the first delivery. -/
def FedCache.ingest (fed : FedCache dlmm) : Ingest (CacheData dlmm) where
  cache := .withDepths fed.depths
  queue := []
  depsDropped := 0

end Quotes

section Examples

open PoolLayouts

end Examples

end Storage

end SolanaProtocols
