import SolanaProtocols.BitScan
import SolanaProtocols.DlmmMath
import SolanaProtocols.PassLoop

/-!
# Meteora DLMM bitmap traversal

A pool flags the bin arrays that hold liquidity in two layers: an inline bitmap
for the array indices from `-512` to `511`, and extension pages of 512 bits on
either side of it.  `getBinArrayPubkeysForSwap` walks both layers to list the
arrays a swap will traverse.

A page index past the last page panics in the source, so the extension walk
returns a `Fault`.
-/

namespace SolanaProtocols

namespace MeteoraDlmm

open BitScan

/-- An error that is returned, or a panic. -/
inductive Fault
  | err (message : String)
  | panic
deriving DecidableEq, Repr

section Inline

/-- Array indices the inline bitmap covers. -/
def lbPairBitmapRange : Int × Int :=
  (-binArrayBitmapSize, binArrayBitmapSize - 1)

def isOverflowDefaultBinArrayBitmap (binArrayIndex : Int) : Bool :=
  let (minBitmapId, maxBitmapId) := lbPairBitmapRange
  decide (maxBitmapId < binArrayIndex) || decide (binArrayIndex < minBitmapId)

def lbPairOffset (binArrayIndex : Int) : Nat :=
  asUsize (binArrayIndex + binArrayBitmapSize)

/-- The inline bitmap as one 1024-bit number. -/
def LbPair.bitmap (pair : LbPair) : Nat :=
  fromLimbs pair.binArrayBitmap.toList

/-- Next flagged index of the inline bitmap, or the first index past its edge
and `false`. -/
def nextBinArrayIndexWithLiquidityInternal (pair : LbPair) (swapForY : Bool)
    (startArrayIndex : Int) : Except String (Int × Bool) := do
  let bitmap := pair.bitmap
  let arrayOffset := lbPairOffset startArrayIndex
  let (minBitmapId, maxBitmapId) := lbPairBitmapRange
  if swapForY then
    let range ← safeSigned 32 (maxBitmapId - minBitmapId)
    let binMapRange ←
      if 0 ≤ range then pure range.toNat
      else throw "LBError::TypeCastFailed"
    let offsetBitMap := shiftLeft 1024 bitmap (← safeSub binMapRange arrayOffset)
    if offsetBitMap = 0 then
      return (← safeSigned 32 (minBitmapId - 1), false)
    else
      let nextBit := leadingZeros 1024 offsetBitMap
      return (← safeSigned 32 (startArrayIndex - nextBit), true)
  else
    let offsetBitMap := bitmap >>> arrayOffset
    if offsetBitMap = 0 then
      return (← safeSigned 32 (maxBitmapId + 1), false)
    else
      let nextBit := trailingZeros 1024 offsetBitMap
      return (← safeSigned 32 (startArrayIndex + nextBit), true)

end Inline

section Extension

/-- Page number of an index. -/
def extBitmapOffset (binArrayIndex : Int) : Nat :=
  asUsize (if 0 < binArrayIndex then
      binArrayIndex.tdiv binArrayBitmapSize - 1
    else (-(binArrayIndex + 1)).tdiv binArrayBitmapSize - 1)

/-- Bit of an index inside its page. -/
def extBinArrayOffsetInBitmap (binArrayIndex : Int) : Nat :=
  if 0 < binArrayIndex then
    asUsize (binArrayIndex.tmod binArrayBitmapSize)
  else asUsize ((-(binArrayIndex + 1)).tmod binArrayBitmapSize)

def extToBinArrayIndex (offset binArrayOffset : Nat) (isPositive : Bool) : Int :=
  if isPositive then (offset + 1) * binArrayBitmapSize + binArrayOffset
  else -((offset + 1) * binArrayBitmapSize + binArrayOffset) - 1

def extBitmapRange : Int × Int :=
  (-binArrayBitmapSize * (extensionBinArrayBitmapSize + 1),
    binArrayBitmapSize * (extensionBinArrayBitmapSize + 1) - 1)

/-- A page as one 512-bit number; indexing past the last page panics. -/
def page (pages : Vector BitmapPage extensionBinArrayBitmapSize) (i : Nat) :
    Except Fault Nat :=
  if inside : i < extensionBinArrayBitmapSize then
    .ok (fromLimbs pages[i].toList)
  else .error .panic

section Scan

variable (pages : Vector BitmapPage extensionBinArrayBitmapSize)
variable (offset binArrayOffset : Nat) (isPositive : Bool)

/-- The loop over pages that returns the highest flagged bit of the first page
with one, at or below the starting bit on the starting page. -/
def scanPagesDown : List Nat → Except Fault (Option Int)
  | [] => .ok none
  | i :: rest => do
      let bm ← page pages i
      if i = offset then
        let bm := shiftLeft binArrayBitmapSize bm
          (binArrayBitmapSize - binArrayOffset - 1)
        if bm = 0 then
          scanPagesDown rest
        else
          let off := binArrayOffset - leadingZeros binArrayBitmapSize bm
          return some (extToBinArrayIndex i off isPositive)
      else if bm = 0 then
        scanPagesDown rest
      else
        let off :=
          binArrayBitmapSize - leadingZeros binArrayBitmapSize bm - 1
        return some (extToBinArrayIndex i off isPositive)

/-- The loop over pages that returns the lowest flagged bit of the first page
with one, at or above the starting bit on the starting page. -/
def scanPagesUp : List Nat → Except Fault (Option Int)
  | [] => .ok none
  | i :: rest => do
      let bm ← page pages i
      if i = offset then
        let bm := bm >>> binArrayOffset
        if bm = 0 then
          scanPagesUp rest
        else
          let off := binArrayOffset + trailingZeros binArrayBitmapSize bm
          return some (extToBinArrayIndex i off isPositive)
      else if bm = 0 then
        scanPagesUp rest
      else
        let off := trailingZeros binArrayBitmapSize bm
        return some (extToBinArrayIndex i off isPositive)

end Scan

/-- `(0..=offset).rev()` -/
def pagesTowardsZero (offset : Nat) : List Nat :=
  (List.range (offset + 1)).reverse

/-- `offset..EXTENSION_BIN_ARRAY_BITMAP_SIZE` -/
def pagesAwayFromZero (offset : Nat) : List Nat :=
  List.range' offset (extensionBinArrayBitmapSize - offset)

/-- Walk the pages from a start index; the direction is that of the end index.
-/
def extIterBitmap (ext : BinArrayBitmapExtension) (startIndex endIndex : Int) :
    Except Fault (Option Int) :=
  let offset := extBitmapOffset startIndex
  let binArrayOffset := extBinArrayOffsetInBitmap startIndex
  if startIndex < 0 then
    if startIndex ≤ endIndex then
      scanPagesDown ext.negativeBinArrayBitmap offset binArrayOffset false
        (pagesTowardsZero offset)
    else
      scanPagesUp ext.negativeBinArrayBitmap offset binArrayOffset false
        (pagesAwayFromZero offset)
  else if startIndex ≤ endIndex then
    scanPagesUp ext.positiveBinArrayBitmap offset binArrayOffset true
      (pagesAwayFromZero offset)
  else
    scanPagesDown ext.positiveBinArrayBitmap offset binArrayOffset true
      (pagesTowardsZero offset)

/-- Next flagged index of the extension, or the first inline index and `false`
when walking towards the inline bitmap. -/
def nextBinArrayIndexWithLiquidityExtension (ext : BinArrayBitmapExtension)
    (swapForY : Bool) (startIndex : Int) : Except Fault (Int × Bool) := do
  let (minBitmapId, maxBitMapId) := extBitmapRange
  if 0 < startIndex then
    if swapForY then
      match ← extIterBitmap ext startIndex binArrayBitmapSize with
      | some v => return (v, true)
      | none => return (binArrayBitmapSize - 1, false)
    else
      match ← extIterBitmap ext startIndex maxBitMapId with
      | some v => return (v, true)
      | none =>
          throw (.err "LBError::CannotFindNonZeroLiquidityBinArrayId")
  else if swapForY then
    match ← extIterBitmap ext startIndex minBitmapId with
    | some v => return (v, true)
    | none => throw (.err "LBError::CannotFindNonZeroLiquidityBinArrayId")
  else
    match ← extIterBitmap ext startIndex (-binArrayBitmapSize - 1) with
    | some v => return (v, true)
    | none => return (-binArrayBitmapSize, false)

end Extension

section Search

/-- Loop variables of `getBinArrayPubkeysForSwap`. -/
structure SearchState where
  startBinArrayIdx : Int
  indices : List Int
deriving DecidableEq, Repr

/-- One step in the swap direction. -/
def increment (swapForY : Bool) : Int :=
  if swapForY then -1 else 1

variable (pair : LbPair) (bitmapExtension : Option BinArrayBitmapExtension)
variable (swapForY : Bool) (takeCount : Nat)

/-- `let Ok(..) = .. else break`: an error ends the loop, a panic does not. -/
def endOnError {Value : Type} : Except Fault Value → Except Fault (Option Value)
  | .ok value => .ok (some value)
  | .error (.err _) => .ok none
  | .error .panic => .error .panic

/-- Look the start index up in the layer it belongs to; `none` ends the loop.
-/
def nextBinArrayIndexWithLiquidity (startBinArrayIdx : Int) :
    Except Fault (Option (Int × Bool)) :=
  if isOverflowDefaultBinArrayBitmap startBinArrayIdx then
    match bitmapExtension with
    | none => .ok none
    | some ext =>
        endOnError (nextBinArrayIndexWithLiquidityExtension ext swapForY
          startBinArrayIdx)
  else
    endOnError ((nextBinArrayIndexWithLiquidityInternal pair swapForY
      startBinArrayIdx).mapError .err)

/-- What a pass does with the outcome of its lookup. -/
def useLookup (state : SearchState) :
    Except Fault (Option (Int × Bool)) →
      Pass SearchState (Except Fault (List Int))
  | .error fault => .leave (.error fault)
  | .ok none => .leave (.ok state.indices)
  | .ok (some (next, true)) =>
      .next ⟨next + increment swapForY, state.indices ++ [next]⟩
  | .ok (some (next, false)) => .next ⟨next, state.indices⟩

/-- One pass of the search loop. -/
def searchPass (state : SearchState) :
    Option (Pass SearchState (Except Fault (List Int))) :=
  if state.indices.length = takeCount then
    some (.leave (.ok state.indices))
  else
    some (useLookup swapForY state
      (nextBinArrayIndexWithLiquidity pair bitmapExtension swapForY
        state.startBinArrayIdx))

/-- Indices of the bin arrays a swap will traverse. -/
def getBinArrayIndicesForSwap (fuel : Nat) :
    Option (Except Fault (List Int)) :=
  match binIdToBinArrayIndex pair.activeId with
  | .error message => some (.error (.err message))
  | .ok startBinArrayIdx =>
      PassLoop.run (searchPass pair bitmapExtension swapForY takeCount)
        fuel ⟨startBinArrayIdx, []⟩

/-- Addresses of the bin arrays a swap will traverse.  Address derivation is
outside this repository. -/
def getBinArrayPubkeysForSwap
    (deriveBinArrayAddress : Pubkey → Int → Pubkey) (lbPairPubkey : Pubkey)
    (fuel : Nat) : Option (Except Fault (List Pubkey)) :=
  (getBinArrayIndicesForSwap pair bitmapExtension swapForY takeCount fuel).map
    (Except.map (List.map (deriveBinArrayAddress lbPairPubkey)))

end Search

end MeteoraDlmm

end SolanaProtocols
