import Mathlib.Tactic.Ring
import SolanaProtocols.DlmmBitmap

/-!
# Looking up the next flagged bin array

`isFlagged` says what the two bitmap layers record about an array index, and
`flaggedAhead` lists the flagged indices met when walking from an index to the
edge of the bitmap.  The lookups in a layer find the first flagged index of the
layer, or leave it, except at `512` and `-6656`, where the extension walk
towards the inline bitmap or away from it turns round.
-/

namespace SolanaProtocols

namespace MeteoraDlmm

open BitScan

section Pages

variable {pages : Vector BitmapPage extensionBinArrayBitmapSize}
variable {offset binArrayOffset : Nat} {isPositive : Bool}

/-- A bit of the pages, counted from the first bit of the first page. -/
def pagesBit (pages : Vector BitmapPage extensionBinArrayBitmapSize)
    (position : Nat) : Bool :=
  match page pages (position / binArrayBitmapSize) with
  | .ok bits => bits.testBit (position % binArrayBitmapSize)
  | .error _ => false

theorem extToBinArrayIndex_eq (i bit : Nat) :
    extToBinArrayIndex i bit isPositive =
      bitIndex isPositive binArrayBitmapSize (i * binArrayBitmapSize + bit) := by
  cases isPositive <;>
    simp only [extToBinArrayIndex, bitIndex, binArrayBitmapSize, if_true,
      Bool.false_eq_true, if_false] <;>
    push_cast <;> omega

/-- Inside the pages a page is a number of 512 bits. -/
theorem exists_page (pages : Vector BitmapPage extensionBinArrayBitmapSize)
    {i : Nat} (inside : i < extensionBinArrayBitmapSize) :
    ∃ bits, page pages i = .ok bits ∧ bits < 2 ^ binArrayBitmapSize ∧
      ∀ bit < binArrayBitmapSize,
        pagesBit pages (i * binArrayBitmapSize + bit) = bits.testBit bit := by
  have width : binArrayBitmapSize = 64 * pages[i].toList.length := by
    simp [binArrayBitmapSize]
  refine ⟨fromLimbs pages[i].toList, by simp [page, inside], ?_, ?_⟩
  · rw [width]
    exact fromLimbs_lt _
  · intro bit bitLt
    have quotient : (i * binArrayBitmapSize + bit) / binArrayBitmapSize = i := by
      simp only [binArrayBitmapSize] at *
      omega
    have remainder :
        (i * binArrayBitmapSize + bit) % binArrayBitmapSize = bit := by
      simp only [binArrayBitmapSize] at *
      omega
    simp [pagesBit, quotient, remainder, page, inside]

/-- One page of the downward scan: the starting page is searched from the
starting bit, every other page from its top bit. -/
theorem scanPagesDown_cons {i bits top : Nat} {rest : List Nat}
    (pageEq : page pages i = .ok bits)
    (bounded : bits < 2 ^ binArrayBitmapSize)
    (topEq : (if i = offset then binArrayOffset else binArrayBitmapSize - 1) =
      top) :
    scanPagesDown pages offset binArrayOffset isPositive (i :: rest) =
      if shiftLeft binArrayBitmapSize bits
          (binArrayBitmapSize - 1 - top) = 0 then
        scanPagesDown pages offset binArrayOffset isPositive rest
      else
        .ok (some (extToBinArrayIndex i
          (top - leadingZeros binArrayBitmapSize
            (shiftLeft binArrayBitmapSize bits
              (binArrayBitmapSize - 1 - top))) isPositive)) := by
  have whole : shiftLeft binArrayBitmapSize bits 0 = bits := by
    simp [shiftLeft, Nat.mod_eq_of_lt bounded]
  subst topEq
  by_cases first : i = offset
  · subst first
    simp [scanPagesDown, pageEq, Nat.sub_right_comm, bind, Except.bind, pure,
      Except.pure]
  · simp [scanPagesDown, pageEq, first, whole, Nat.sub_right_comm, bind,
      Except.bind, pure, Except.pure]

theorem scanPagesUp_cons {i bits bottom : Nat} {rest : List Nat}
    (pageEq : page pages i = .ok bits)
    (bottomEq : (if i = offset then binArrayOffset else 0) = bottom) :
    scanPagesUp pages offset binArrayOffset isPositive (i :: rest) =
      if bits >>> bottom = 0 then
        scanPagesUp pages offset binArrayOffset isPositive rest
      else
        .ok (some (extToBinArrayIndex i
          (bottom + trailingZeros binArrayBitmapSize (bits >>> bottom))
          isPositive)) := by
  subst bottomEq
  by_cases first : i = offset
  · subst first
    simp [scanPagesUp, pageEq, bind, Except.bind, pure, Except.pure]
  · simp [scanPagesUp, pageEq, first, bind, Except.bind, pure, Except.pure]

variable (pages) in
/-- The downward scan finds the highest flagged bit up to the starting one. -/
theorem scanPagesDown_eq (inside : offset < extensionBinArrayBitmapSize)
    (bitInside : binArrayOffset < binArrayBitmapSize) {count : Nat}
    (countLe : count ≤ offset + 1) :
    ∃ found,
      HighestIn (pagesBit pages) 0
        (min (count * binArrayBitmapSize)
          (offset * binArrayBitmapSize + (binArrayOffset + 1))) found ∧
      scanPagesDown pages offset binArrayOffset isPositive
          (List.range count).reverse =
        .ok (found.map (bitIndex isPositive binArrayBitmapSize)) := by
  induction count with
  | zero => exact ⟨none, fun position _ below => by simp at below, rfl⟩
  | succ count ih =>
      obtain ⟨bits, pageEq, bounded, bitEq⟩ :=
        exists_page pages (show count < extensionBinArrayBitmapSize by omega)
      obtain ⟨top, topEq⟩ : ∃ top, (if count = offset then binArrayOffset
        else binArrayBitmapSize - 1) = top := ⟨_, rfl⟩
      have topLt : top < binArrayBitmapSize := by
        simp only [binArrayBitmapSize] at bitInside topEq ⊢
        split_ifs at topEq <;> omega
      have limitEq : min ((count + 1) * binArrayBitmapSize)
          (offset * binArrayBitmapSize + (binArrayOffset + 1)) =
          count * binArrayBitmapSize + (top + 1) := by
        simp only [binArrayBitmapSize] at bitInside topEq ⊢
        split_ifs at topEq <;> omega
      have lowerEq : min (count * binArrayBitmapSize)
          (offset * binArrayBitmapSize + (binArrayOffset + 1)) =
          count * binArrayBitmapSize := by
        simp only [binArrayBitmapSize] at bitInside ⊢
        omega
      have onPage := (highestIn_window bits topLt).shift (pagesBit pages)
        (count * binArrayBitmapSize)
        (fun bit _ bitLt => bitEq bit (by omega))
      rw [List.range_succ, List.reverse_append, List.reverse_singleton,
        List.singleton_append, scanPagesDown_cons pageEq bounded topEq, limitEq]
      rw [Nat.add_zero] at onPage
      split_ifs at onPage ⊢ with zero
      · obtain ⟨found, highest, scanEq⟩ := ih (by omega)
        rw [lowerEq] at highest
        exact ⟨found, onPage.extend highest (by omega), scanEq⟩
      · refine ⟨_, onPage.widen (Nat.zero_le _), ?_⟩
        rw [extToBinArrayIndex_eq]
        rfl

variable (pages) in
/-- The upward scan finds the lowest flagged bit from the starting one. -/
theorem scanPagesUp_eq (bitInside : binArrayOffset < binArrayBitmapSize)
    {first count : Nat} (offsetLe : offset ≤ first)
    (countEq : first + count = extensionBinArrayBitmapSize) :
    ∃ found,
      LowestIn (pagesBit pages)
        (max (first * binArrayBitmapSize)
          (offset * binArrayBitmapSize + binArrayOffset))
        (extensionBinArrayBitmapSize * binArrayBitmapSize) found ∧
      scanPagesUp pages offset binArrayOffset isPositive
          (List.range' first count) =
        .ok (found.map (bitIndex isPositive binArrayBitmapSize)) := by
  induction count generalizing first with
  | zero =>
      refine ⟨none, fun position start below => ?_, rfl⟩
      rw [← countEq, Nat.add_zero] at below
      omega
  | succ count ih =>
      obtain ⟨bits, pageEq, bounded, bitEq⟩ :=
        exists_page pages (show first < extensionBinArrayBitmapSize by omega)
      obtain ⟨bottom, bottomEq⟩ :
          ∃ bottom, (if first = offset then binArrayOffset else 0) = bottom :=
        ⟨_, rfl⟩
      have startEq : max (first * binArrayBitmapSize)
          (offset * binArrayBitmapSize + binArrayOffset) =
          first * binArrayBitmapSize + bottom := by
        simp only [binArrayBitmapSize] at bitInside ⊢
        split_ifs at bottomEq <;> omega
      have nextEq : max ((first + 1) * binArrayBitmapSize)
          (offset * binArrayBitmapSize + binArrayOffset) =
          first * binArrayBitmapSize + binArrayBitmapSize := by
        simp only [binArrayBitmapSize] at bitInside ⊢
        omega
      have onPage := (lowestIn_window bounded bottom).shift (pagesBit pages)
        (first * binArrayBitmapSize) (fun bit _ bitLt => bitEq bit bitLt)
      rw [List.range'_succ, scanPagesUp_cons pageEq bottomEq, startEq]
      split_ifs at onPage ⊢ with zero
      · obtain ⟨found, lowest, scanEq⟩ := @ih (first + 1) (by omega) (by omega)
        rw [nextEq] at lowest
        refine ⟨found, onPage.extend lowest ?_, scanEq⟩
        split_ifs at bottomEq <;> omega
      · refine ⟨_, onPage.widen ?_, ?_⟩
        · rw [← countEq, Nat.add_mul, Nat.succ_mul]
          omega
        · rw [extToBinArrayIndex_eq]
          rfl

end Pages

section Layers

variable {pair : LbPair} {ext : BinArrayBitmapExtension}
variable {startIndex endIndex : Int}

/-- The bin array has liquidity according to the layer its index belongs to. -/
def isFlagged (pair : LbPair) (ext : BinArrayBitmapExtension)
    (binArrayIndex : Int) : Bool :=
  if isOverflowDefaultBinArrayBitmap binArrayIndex then
    if 0 < binArrayIndex then
      pagesBit ext.positiveBinArrayBitmap
        (binArrayIndex - binArrayBitmapSize).toNat
    else
      pagesBit ext.negativeBinArrayBitmap
        (-binArrayIndex - binArrayBitmapSize - 1).toNat
  else
    pair.bitmap.testBit (binArrayIndex + binArrayBitmapSize).toNat

theorem isOverflow_eq_true_iff :
    isOverflowDefaultBinArrayBitmap startIndex = true ↔
      511 < startIndex ∨ startIndex < -512 := by
  show (decide (((512 : Nat) : Int) - 1 < startIndex) ||
    decide (startIndex < -((512 : Nat) : Int))) = true ↔ _
  rw [Bool.or_eq_true, decide_eq_true_eq, decide_eq_true_eq]
  omega

theorem isFlagged_inline {position : Nat} (inside : position < 1024) :
    isFlagged pair ext (bitIndex true (-512) position) =
      pair.bitmap.testBit position := by
  have inline : isOverflowDefaultBinArrayBitmap
      (bitIndex true (-512) position) = false := by
    rw [← Bool.not_eq_true, isOverflow_eq_true_iff, bitIndex_positive]
    omega
  rw [isFlagged, inline, if_neg Bool.false_ne_true, bitIndex_positive]
  congr 1
  simp only [binArrayBitmapSize]
  omega

theorem isFlagged_positive (position : Nat) :
    isFlagged pair ext (bitIndex true binArrayBitmapSize position) =
      pagesBit ext.positiveBinArrayBitmap position := by
  have overflow : isOverflowDefaultBinArrayBitmap
      (bitIndex true binArrayBitmapSize position) = true := by
    rw [isOverflow_eq_true_iff, bitIndex_positive, binArrayBitmapSize]
    omega
  have positive : 0 < bitIndex true binArrayBitmapSize position := by
    rw [bitIndex_positive, binArrayBitmapSize]
    omega
  rw [isFlagged, if_pos overflow, if_pos positive, bitIndex_positive,
    Int.add_sub_cancel, Int.toNat_natCast]

theorem isFlagged_negative (position : Nat) :
    isFlagged pair ext (bitIndex false binArrayBitmapSize position) =
      pagesBit ext.negativeBinArrayBitmap position := by
  have overflow : isOverflowDefaultBinArrayBitmap
      (bitIndex false binArrayBitmapSize position) = true := by
    rw [isOverflow_eq_true_iff, bitIndex_negative, binArrayBitmapSize]
    omega
  have negative : ¬ 0 < bitIndex false binArrayBitmapSize position := by
    rw [bitIndex_negative, binArrayBitmapSize]
    omega
  have back : -bitIndex false binArrayBitmapSize position -
      binArrayBitmapSize - 1 = (position : Int) := by
    rw [bitIndex_negative]
    omega
  rw [isFlagged, if_pos overflow, if_neg negative, back, Int.toNat_natCast]

/-- Page and bit of an index of the positive pages. -/
theorem extOffsets_positive {position : Nat} (inside : position < 6144) :
    extBitmapOffset (bitIndex true binArrayBitmapSize position) =
        position / binArrayBitmapSize ∧
      extBinArrayOffsetInBitmap (bitIndex true binArrayBitmapSize position) =
        position % binArrayBitmapSize := by
  have positive : 0 < bitIndex true binArrayBitmapSize position := by
    rw [bitIndex_positive, binArrayBitmapSize]
    omega
  simp only [extBitmapOffset, extBinArrayOffsetInBitmap, if_pos positive]
  rw [Int.tdiv_eq_ediv_of_nonneg (by omega),
    Int.tmod_eq_emod_of_nonneg (by omega), bitIndex_positive]
  simp only [asUsize, binArrayBitmapSize]
  omega

theorem extOffsets_negative {position : Nat} (inside : position < 6144) :
    extBitmapOffset (bitIndex false binArrayBitmapSize position) =
        position / binArrayBitmapSize ∧
      extBinArrayOffsetInBitmap (bitIndex false binArrayBitmapSize position) =
        position % binArrayBitmapSize := by
  have negative : ¬ 0 < bitIndex false binArrayBitmapSize position := by
    rw [bitIndex_negative, binArrayBitmapSize]
    omega
  have back : -(bitIndex false binArrayBitmapSize position + 1) =
      (position : Int) + binArrayBitmapSize := by
    rw [bitIndex_negative]
    omega
  simp only [extBitmapOffset, extBinArrayOffsetInBitmap, if_neg negative, back]
  rw [Int.tdiv_eq_ediv_of_nonneg (by omega),
    Int.tmod_eq_emod_of_nonneg (by omega)]
  simp only [asUsize, binArrayBitmapSize]
  omega

variable (pair ext) in
/-- A walk over the pages in the direction of the end index finds the first
flagged index of the layer. -/
theorem extIterBitmap_positive {position : Nat} (inside : position < 6144)
    (endIndex : Int) :
    ∃ found,
      extIterBitmap ext (bitIndex true binArrayBitmapSize position) endIndex =
        .ok found ∧
      (bitIndex true binArrayBitmapSize position ≤ endIndex →
        FirstFlagged (isFlagged pair ext) false
          (bitIndex true binArrayBitmapSize position) 6655 found) ∧
      (endIndex < bitIndex true binArrayBitmapSize position →
        FirstFlagged (isFlagged pair ext) true
          (bitIndex true binArrayBitmapSize position) 512 found) := by
  obtain ⟨offsetEq, bitEq⟩ := extOffsets_positive inside
  have pageLt : position / binArrayBitmapSize < extensionBinArrayBitmapSize := by
    simp only [binArrayBitmapSize, extensionBinArrayBitmapSize]
    omega
  have bitLt : position % binArrayBitmapSize < binArrayBitmapSize :=
    Nat.mod_lt _ (by decide)
  have joined := Nat.div_add_mod' position binArrayBitmapSize
  have notNegative : ¬ bitIndex true binArrayBitmapSize position < 0 := by
    rw [bitIndex_positive]
    omega
  simp only [extIterBitmap, offsetEq, bitEq, if_neg notNegative]
  split_ifs with upwards
  · obtain ⟨found, lowest, scanEq⟩ := scanPagesUp_eq
      ext.positiveBinArrayBitmap bitLt (le_refl _)
      (Nat.add_sub_cancel' pageLt.le)
    refine ⟨_, scanEq, fun _ => ?_, fun down => absurd upwards down.not_ge⟩
    rw [max_eq_right (Nat.le_add_right _ _), joined] at lowest
    show FirstFlagged _ (!true) _ (bitIndex true binArrayBitmapSize 6143) _
    exact lowest.firstFlagged fun position _ _ => isFlagged_positive position
  · obtain ⟨found, highest, scanEq⟩ := scanPagesDown_eq
      ext.positiveBinArrayBitmap pageLt bitLt (le_refl _)
    refine ⟨_, scanEq, fun up => absurd up upwards, fun _ => ?_⟩
    rw [min_eq_right (by rw [Nat.succ_mul]; omega), ← Nat.add_assoc, joined]
      at highest
    show FirstFlagged _ true _ (bitIndex true binArrayBitmapSize 0) _
    exact highest.firstFlagged fun position _ _ => isFlagged_positive position

variable (pair ext) in
theorem extIterBitmap_negative {position : Nat} (inside : position < 6144)
    (endIndex : Int) :
    ∃ found,
      extIterBitmap ext (bitIndex false binArrayBitmapSize position) endIndex =
        .ok found ∧
      (bitIndex false binArrayBitmapSize position ≤ endIndex →
        FirstFlagged (isFlagged pair ext) false
          (bitIndex false binArrayBitmapSize position) (-513) found) ∧
      (endIndex < bitIndex false binArrayBitmapSize position →
        FirstFlagged (isFlagged pair ext) true
          (bitIndex false binArrayBitmapSize position) (-6656) found) := by
  obtain ⟨offsetEq, bitEq⟩ := extOffsets_negative inside
  have pageLt : position / binArrayBitmapSize < extensionBinArrayBitmapSize := by
    simp only [binArrayBitmapSize, extensionBinArrayBitmapSize]
    omega
  have bitLt : position % binArrayBitmapSize < binArrayBitmapSize :=
    Nat.mod_lt _ (by decide)
  have joined := Nat.div_add_mod' position binArrayBitmapSize
  have negative : bitIndex false binArrayBitmapSize position < 0 := by
    rw [bitIndex_negative]
    omega
  simp only [extIterBitmap, offsetEq, bitEq, if_pos negative]
  split_ifs with upwards
  · obtain ⟨found, highest, scanEq⟩ := scanPagesDown_eq
      ext.negativeBinArrayBitmap pageLt bitLt (le_refl _)
    refine ⟨_, scanEq, fun _ => ?_, fun down => absurd upwards down.not_ge⟩
    rw [min_eq_right (by rw [Nat.succ_mul]; omega), ← Nat.add_assoc, joined]
      at highest
    show FirstFlagged _ false _ (bitIndex false binArrayBitmapSize 0) _
    exact highest.firstFlagged fun position _ _ => isFlagged_negative position
  · obtain ⟨found, lowest, scanEq⟩ := scanPagesUp_eq
      ext.negativeBinArrayBitmap bitLt (le_refl _)
      (Nat.add_sub_cancel' pageLt.le)
    refine ⟨_, scanEq, fun up => absurd up upwards, fun _ => ?_⟩
    rw [max_eq_right (Nat.le_add_right _ _), joined] at lowest
    show FirstFlagged _ (!false) _ (bitIndex false binArrayBitmapSize 6143) _
    exact lowest.firstFlagged fun position _ _ => isFlagged_negative position

theorem lbPairOffset_bitIndex {position : Nat} (inside : position < 1024) :
    lbPairOffset (bitIndex true (-512) position) = position := by
  rw [lbPairOffset, asUsize_of_nonneg] <;>
    rw [bitIndex_positive, binArrayBitmapSize] <;> omega

variable (pair ext) in
theorem nextInternal_down {position : Nat} (inside : position < 1024) :
    ∃ found,
      nextBinArrayIndexWithLiquidityInternal pair true
          (bitIndex true (-512) position) =
        .ok (match found with
          | some next => (next, true)
          | none => (-513, false)) ∧
      FirstFlagged (isFlagged pair ext) true (bitIndex true (-512) position)
        (-512) found := by
  have highest := highestIn_window pair.bitmap inside
  have range : safeSigned 32 (lbPairBitmapRange.2 - lbPairBitmapRange.1) =
      .ok 1023 := rfl
  have edge : safeSigned 32 (lbPairBitmapRange.1 - 1) = .ok (-513) := rfl
  have shift : safeSub (1023 : Int).toNat position = .ok (1024 - 1 - position) :=
    safeSub_of_le (by omega)
  refine ⟨_, ?_, HighestIn.firstFlagged highest fun position _ _ =>
    isFlagged_inline (by omega)⟩
  simp only [nextBinArrayIndexWithLiquidityInternal,
    lbPairOffset_bitIndex inside, if_true, range, edge, shift,
    if_pos (show (0 : Int) ≤ 1023 by decide), bind, Except.bind, pure,
    Except.pure]
  split_ifs with zero
  · rfl
  · obtain ⟨zerosLe, -⟩ := leadingZeros_window inside zero
    rw [safeSigned_of_range (by rw [bitIndex_positive]; omega)
      (by rw [bitIndex_positive]; omega)]
    simp only [Option.map_some, bitIndex_positive, Except.ok.injEq,
      Prod.mk.injEq, and_true]
    omega

variable (pair ext) in
theorem nextInternal_up {position : Nat} (inside : position < 1024) :
    ∃ found,
      nextBinArrayIndexWithLiquidityInternal pair false
          (bitIndex true (-512) position) =
        .ok (match found with
          | some next => (next, true)
          | none => (512, false)) ∧
      FirstFlagged (isFlagged pair ext) false
        (bitIndex true (-512) position) 511 found := by
  have width : 1024 = 64 * pair.binArrayBitmap.toList.length := by simp
  have bounded : pair.bitmap < 2 ^ 1024 := by
    rw [width]
    exact fromLimbs_lt _
  have lowest := lowestIn_window bounded position
  have edge : safeSigned 32 (lbPairBitmapRange.2 + 1) = .ok 512 := rfl
  refine ⟨_, ?_, LowestIn.firstFlagged lowest fun position _ _ =>
    isFlagged_inline (by omega)⟩
  simp only [nextBinArrayIndexWithLiquidityInternal,
    lbPairOffset_bitIndex inside, Bool.false_eq_true, if_false, edge, bind,
    Except.bind, pure, Except.pure]
  split_ifs with zero
  · rfl
  · obtain ⟨-, below, -⟩ := trailingZeros_window bounded zero
    rw [safeSigned_of_range (by rw [bitIndex_positive]; omega)
      (by rw [bitIndex_positive]; omega)]
    simp only [Option.map_some, bitIndex_positive, Except.ok.injEq,
      Prod.mk.injEq, and_true]
    omega

variable {swapForY : Bool}

theorem lookup_inline (inside : -512 ≤ startIndex ∧ startIndex ≤ 511) :
    ∃ found,
      nextBinArrayIndexWithLiquidity pair (some ext) swapForY startIndex =
        .ok (match found with
          | some next => some (next, true)
          | none => some (if swapForY then -513 else 512, false)) ∧
      FirstFlagged (isFlagged pair ext) swapForY startIndex
        (if swapForY then -512 else 511) found := by
  obtain ⟨position, positionLt, rfl⟩ :
      ∃ position < 1024, bitIndex true (-512) position = startIndex :=
    ⟨(startIndex + 512).toNat, by omega, by rw [bitIndex_positive]; omega⟩
  have inline : ¬ isOverflowDefaultBinArrayBitmap
      (bitIndex true (-512) position) = true := by
    rw [isOverflow_eq_true_iff]
    omega
  cases swapForY
  · obtain ⟨found, lookupEq, first⟩ := nextInternal_up pair ext positionLt
    refine ⟨found, ?_, first⟩
    rw [nextBinArrayIndexWithLiquidity, if_neg inline, lookupEq]
    cases found <;> rfl
  · obtain ⟨found, lookupEq, first⟩ := nextInternal_down pair ext positionLt
    refine ⟨found, ?_, first⟩
    rw [nextBinArrayIndexWithLiquidity, if_neg inline, lookupEq]
    cases found <;> rfl

/-- At `512` the walk towards the inline bitmap turns round. -/
theorem lookup_positive (inside : 512 ≤ startIndex ∧ startIndex ≤ 6655) :
    ∃ found,
      nextBinArrayIndexWithLiquidity pair (some ext) swapForY startIndex =
        .ok (match found with
          | some next => some (next, true)
          | none => if swapForY then some (511, false) else none) ∧
      (swapForY = false ∨ startIndex = 512 →
        FirstFlagged (isFlagged pair ext) false startIndex 6655 found) ∧
      (swapForY = true → startIndex ≠ 512 →
        FirstFlagged (isFlagged pair ext) true startIndex 512 found) := by
  obtain ⟨position, positionLt, rfl⟩ :
      ∃ position < 6144,
        bitIndex true binArrayBitmapSize position = startIndex :=
    ⟨(startIndex - 512).toNat, by omega, by
      rw [bitIndex_positive, binArrayBitmapSize]; omega⟩
  have overflow : isOverflowDefaultBinArrayBitmap
      (bitIndex true binArrayBitmapSize position) = true := by
    rw [isOverflow_eq_true_iff]
    omega
  have positive : 0 < bitIndex true binArrayBitmapSize position := by omega
  cases swapForY
  · obtain ⟨found, lookupEq, upwards, -⟩ :=
      extIterBitmap_positive pair ext positionLt extBitmapRange.2
    refine ⟨found, ?_, fun _ => upwards inside.2, by simp⟩
    rw [nextBinArrayIndexWithLiquidity, if_pos overflow]
    simp only [nextBinArrayIndexWithLiquidityExtension, if_pos positive,
      Bool.false_eq_true, if_false, lookupEq]
    cases found <;> rfl
  · obtain ⟨found, lookupEq, upwards, downwards⟩ :=
      extIterBitmap_positive pair ext positionLt binArrayBitmapSize
    have sizeEq : ((binArrayBitmapSize : Nat) : Int) = 512 := rfl
    refine ⟨found, ?_, fun edge => upwards ?_, fun _ away => downwards ?_⟩
    · rw [nextBinArrayIndexWithLiquidity, if_pos overflow]
      simp only [nextBinArrayIndexWithLiquidityExtension, if_pos positive,
        if_true, lookupEq]
      cases found <;> rfl
    · rcases edge with up | edge
      · cases up
      · omega
    · omega

/-- At `-6656` the walk away from the inline bitmap turns round. -/
theorem lookup_negative (inside : -6656 ≤ startIndex ∧ startIndex ≤ -513) :
    ∃ found,
      nextBinArrayIndexWithLiquidity pair (some ext) swapForY startIndex =
        .ok (match found with
          | some next => some (next, true)
          | none => if swapForY then none else some (-512, false)) ∧
      (swapForY = false ∨ startIndex = -6656 →
        FirstFlagged (isFlagged pair ext) false startIndex (-513) found) ∧
      (swapForY = true → startIndex ≠ -6656 →
        FirstFlagged (isFlagged pair ext) true startIndex (-6656) found) := by
  obtain ⟨position, positionLt, rfl⟩ :
      ∃ position < 6144,
        bitIndex false binArrayBitmapSize position = startIndex :=
    ⟨(-startIndex - 513).toNat, by omega, by
      rw [bitIndex_negative, binArrayBitmapSize]; omega⟩
  have overflow : isOverflowDefaultBinArrayBitmap
      (bitIndex false binArrayBitmapSize position) = true := by
    rw [isOverflow_eq_true_iff]
    omega
  have negative : ¬ 0 < bitIndex false binArrayBitmapSize position := by omega
  cases swapForY
  · obtain ⟨found, lookupEq, upwards, -⟩ :=
      extIterBitmap_negative pair ext positionLt (-binArrayBitmapSize - 1)
    refine ⟨found, ?_, fun _ => upwards inside.2, by simp⟩
    rw [nextBinArrayIndexWithLiquidity, if_pos overflow]
    simp only [nextBinArrayIndexWithLiquidityExtension, if_neg negative,
      Bool.false_eq_true, if_false, lookupEq]
    cases found <;> rfl
  · obtain ⟨found, lookupEq, upwards, downwards⟩ :=
      extIterBitmap_negative pair ext positionLt extBitmapRange.1
    have rangeEq : extBitmapRange.1 = -6656 := rfl
    refine ⟨found, ?_, fun edge => upwards ?_, fun _ away => downwards ?_⟩
    · rw [nextBinArrayIndexWithLiquidity, if_pos overflow]
      simp only [nextBinArrayIndexWithLiquidityExtension, if_neg negative,
        if_true, lookupEq]
      cases found <;> rfl
    · rcases edge with up | edge
      · cases up
      · omega
    · omega

theorem lookup_pastEnd :
    nextBinArrayIndexWithLiquidity pair (some ext) swapForY
        (if swapForY then -6657 else 6656) =
      .error .panic := by
  cases swapForY <;> rfl

end Layers

section Walk

variable {pair : LbPair} {ext : BinArrayBitmapExtension} {swapForY : Bool}
variable {start next last : Int}

/-- Consecutive indices in the swap direction. -/
def walk (swapForY : Bool) : Nat → Int → List Int
  | 0, _ => []
  | count + 1, start => start :: walk swapForY count (start + increment swapForY)

/-- Number of indices from a start to the edge of the bitmap. -/
def stepsLeft (swapForY : Bool) (start : Int) : Nat :=
  if swapForY then (start + 6657).toNat else (6656 - start).toNat

/-- The flagged indices from a start, inclusive, to the edge of the bitmap, in
the swap direction. -/
def flaggedAhead (pair : LbPair) (ext : BinArrayBitmapExtension)
    (swapForY : Bool) (start : Int) : List Int :=
  (walk swapForY (stepsLeft swapForY start) start).filter (isFlagged pair ext)

/-- Where a walk over the whole bitmap begins. -/
def walkStart (swapForY : Bool) : Int :=
  if swapForY then 6655 else -6656

/-- Where a walk over the whole bitmap ends. -/
def walkEnd (swapForY : Bool) : Int :=
  if swapForY then -6656 else 6655

@[simp] theorem walkStart_down : walkStart true = 6655 := rfl
@[simp] theorem walkStart_up : walkStart false = -6656 := rfl
@[simp] theorem walkEnd_down : walkEnd true = -6656 := rfl
@[simp] theorem walkEnd_up : walkEnd false = 6655 := rfl
@[simp] theorem increment_down : increment true = -1 := rfl
@[simp] theorem increment_up : increment false = 1 := rfl
@[simp] theorem stepsLeft_down : stepsLeft true start = (start + 6657).toNat :=
  rfl
@[simp] theorem stepsLeft_up : stepsLeft false start = (6656 - start).toNat :=
  rfl

theorem ahead_increment : Ahead swapForY start (start + increment swapForY) := by
  cases swapForY <;> simp

theorem ne_of_ahead_increment
    (moved : Ahead swapForY (start + increment swapForY) next) :
    next ≠ start := by
  cases swapForY <;> simp at moved <;> omega

theorem exists_steps (ordered : Ahead swapForY start next) :
    ∃ steps : Nat, start + increment swapForY * steps = next := by
  cases swapForY
  · rw [ahead_up] at ordered
    exact ⟨(next - start).toNat, by rw [increment_up]; omega⟩
  · rw [ahead_down] at ordered
    exact ⟨(start - next).toNat, by rw [increment_down]; omega⟩

theorem mem_walk {count : Nat} :
    next ∈ walk swapForY count start ↔
      ∃ steps < count, start + increment swapForY * (steps : Nat) = next := by
  induction count generalizing start with
  | zero => simp [walk]
  | succ count ih =>
      rw [walk, List.mem_cons, ih]
      constructor
      · rintro (rfl | ⟨steps, stepsLt, rfl⟩)
        · exact ⟨0, by omega, by simp⟩
        · exact ⟨steps + 1, by omega, by push_cast; ring⟩
      · rintro ⟨steps, stepsLt, rfl⟩
        cases steps with
        | zero => simp
        | succ steps => exact .inr ⟨steps, by omega, by push_cast; ring⟩

theorem mem_flaggedAhead :
    next ∈ flaggedAhead pair ext swapForY start ↔
      (Ahead swapForY start next ∧ Ahead swapForY next (walkEnd swapForY)) ∧
        isFlagged pair ext next = true := by
  rw [flaggedAhead, List.mem_filter, mem_walk]
  refine and_congr_left fun _ => ?_
  constructor
  · rintro ⟨steps, stepsLt, rfl⟩
    cases swapForY <;> simp at * <;> omega
  · rintro ⟨ahead, inside⟩
    obtain ⟨steps, rfl⟩ := exists_steps ahead
    refine ⟨steps, ?_, rfl⟩
    cases swapForY <;> simp at * <;> omega

theorem stepsLeft_eq_succ
    (inside : Ahead swapForY start (walkEnd swapForY)) :
    stepsLeft swapForY start =
      stepsLeft swapForY (start + increment swapForY) + 1 := by
  cases swapForY <;> simp at * <;> omega

theorem flaggedAhead_eq (inside : Ahead swapForY start (walkEnd swapForY)) :
    flaggedAhead pair ext swapForY start =
      if isFlagged pair ext start then
        start :: flaggedAhead pair ext swapForY (start + increment swapForY)
      else flaggedAhead pair ext swapForY (start + increment swapForY) := by
  rw [flaggedAhead, stepsLeft_eq_succ inside, walk, List.filter_cons]
  rfl

/-- A stretch without flags can be skipped. -/
theorem flaggedAhead_skip (count : Nat)
    (unflagged : ∀ steps : Nat, steps < count →
      Ahead swapForY (start + increment swapForY * steps) (walkEnd swapForY) ∧
      isFlagged pair ext (start + increment swapForY * steps) = false) :
    flaggedAhead pair ext swapForY start =
      flaggedAhead pair ext swapForY (start + increment swapForY * count) := by
  induction count generalizing start with
  | zero => simp
  | succ count ih =>
      have first := unflagged 0 (by omega)
      simp only [Nat.cast_zero, mul_zero, add_zero] at first
      rw [flaggedAhead_eq first.1, first.2, if_neg Bool.false_ne_true, ih]
      · congr 1
        push_cast
        ring
      · intro steps stepsLt
        have later := unflagged (steps + 1) (by omega)
        have shift : start + increment swapForY * ((steps + 1 : Nat) : Int) =
            start + increment swapForY + increment swapForY * steps := by
          push_cast
          ring
        rwa [shift] at later

theorem flaggedAhead_of_first (lastInside : Ahead swapForY last (walkEnd swapForY))
    (first : FirstFlagged (isFlagged pair ext) swapForY start last (some next)) :
    flaggedAhead pair ext swapForY start =
      next :: flaggedAhead pair ext swapForY (next + increment swapForY) := by
  obtain ⟨⟨fromStart, toLast⟩, isSet, unset⟩ := first
  obtain ⟨count, rfl⟩ := exists_steps fromStart
  have nextInside : Ahead swapForY (start + increment swapForY * count)
      (walkEnd swapForY) := by
    cases swapForY <;> simp at * <;> omega
  rw [flaggedAhead_skip count, flaggedAhead_eq nextInside, isSet, if_pos rfl]
  intro steps stepsLt
  refine ⟨?_, unset _ ?_ ?_ ?_⟩ <;> cases swapForY <;> simp at * <;> omega

/-- A stretch without flags does not contribute to the list. -/
theorem flaggedAhead_of_none (ordered : Ahead swapForY start last)
    (lastInside : Ahead swapForY last (walkEnd swapForY))
    (first : FirstFlagged (isFlagged pair ext) swapForY start last none) :
    flaggedAhead pair ext swapForY start =
      flaggedAhead pair ext swapForY (last + increment swapForY) := by
  obtain ⟨count, rfl⟩ := exists_steps ordered
  have lastEq : start + increment swapForY * count + increment swapForY =
      start + increment swapForY * (count + 1 : Nat) := by
    push_cast
    ring
  rw [flaggedAhead_skip (count + 1), lastEq]
  intro steps stepsLt
  refine ⟨?_, first _ ?_ ?_⟩ <;> cases swapForY <;> simp at * <;> omega

end Walk

end MeteoraDlmm

end SolanaProtocols
