import Mathlib.Data.Vector.Basic
import SolanaProtocols.CheckedArithmetic
import SolanaProtocols.SolanaTypes

/-!
# Meteora DLMM account state

The parts of the pool, bin-array and bitmap-extension accounts that the quoter
reads, with the constants of the bin space.  Amounts, prices and fee parameters
are natural numbers; bin ids, indices and timestamps are integers; the bitmaps
keep their 64-bit limbs because the searches work on single bits.
-/

namespace SolanaProtocols

namespace MeteoraDlmm

/-- Bins per bin-array account. -/
def maxBinPerArray : Nat := 70

def minBinId : Int := -443636

def maxBinId : Int := 443636

/-- Fee rates are multiples of one over this. -/
def feePrecision : Nat := 1000000000

/-- Hard cap on the total fee rate, in `feePrecision` units. -/
def maxFeeRate : Nat := 100000000

def basisPointMax : Nat := 10000

/-- Half the number of bin arrays the inline bitmap covers, and the number one
extension page covers. -/
def binArrayBitmapSize : Nat := 512

/-- Extension pages on each side of the inline bitmap. -/
def extensionBinArrayBitmapSize : Nat := 12

/-- Fee settings an administrator writes. -/
structure StaticParameters where
  baseFactor : Nat
  filterPeriod : Nat
  decayPeriod : Nat
  reductionFactor : Nat
  variableFeeControl : Nat
  maxVolatilityAccumulator : Nat
  protocolShare : Nat
  baseFeePowerFactor : Nat
deriving DecidableEq, Repr

/-- Volatility tracking, rewritten by every swap. -/
structure VariableParameters where
  volatilityAccumulator : Nat
  volatilityReference : Nat
  indexReference : Int
  lastUpdateTimestamp : Int
deriving DecidableEq, Repr

/-- An inline bitmap that flags array `0` only. -/
def arrayZeroFlagged : Vector UInt64 16 :=
  (Vector.replicate 16 0).set 8 1

/-- A pool. -/
structure LbPair where
  parameters : StaticParameters
  vParameters : VariableParameters
  pairType : Nat
  activeId : Int
  binStep : Nat
  status : Nat
  activationType : Nat
  binArrayBitmap : Vector UInt64 16
  activationPoint : Nat
deriving DecidableEq, Repr

/-- One price level. -/
structure Bin where
  amountX : Nat
  amountY : Nat
  price : Nat
deriving DecidableEq, Repr

/-- Seventy consecutive bins; array `index` starts at bin `70 * index`. -/
structure BinArray where
  index : Int
  bins : Vector Bin maxBinPerArray
deriving DecidableEq, Repr

/-- One 512-bit page of the bitmap extension. -/
abbrev BitmapPage := Vector UInt64 8

/-- Bitmap pages for bin arrays outside the inline bitmap. -/
structure BinArrayBitmapExtension where
  positiveBinArrayBitmap : Vector BitmapPage extensionBinArrayBitmapSize
  negativeBinArrayBitmap : Vector BitmapPage extensionBinArrayBitmapSize
deriving DecidableEq, Repr

/-- The status byte of a pool. -/
inductive PairStatus
  | enabled
  | disabled
deriving DecidableEq, Repr

def PairStatus.fromU8 : Nat → Option PairStatus
  | 0 => some .enabled
  | 1 => some .disabled
  | _ => none

def LbPair.pairStatus (pair : LbPair) : Option PairStatus :=
  PairStatus.fromU8 pair.status

def LbPair.isActive (pair : LbPair) : Bool :=
  pair.pairStatus == some .enabled

end MeteoraDlmm

end SolanaProtocols
