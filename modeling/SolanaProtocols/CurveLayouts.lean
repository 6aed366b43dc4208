import SolanaProtocols.PoolIdentification

/-!
# The layouts of a bonding curve

A bonding curve account has one of two layouts: the fields that every curve has
and nothing behind them, or these fields, the two flags of the cashback upgrade
and padding.  The decoder accepts exactly the encodings of a curve in one of
the layouts, so no account has only one of the flags.
-/

namespace SolanaProtocols

open PrefixCodec PoolLayouts

namespace Pumpfun.BondingCurve

/-- The layouts that accounts were written in. -/
inductive HistoricalLayout
  | original
  | upgraded (isMayhemMode isCashbackCoin : Bool) (padding : Bytes)
deriving DecidableEq

/-- The fields that every curve has. -/
def coreOf (curve : BondingCurve) : Core :=
  (curve.virtualTokenReserves, curve.virtualQuoteReserves, curve.realTokenReserves,
    curve.realQuoteReserves, curve.tokenTotalSupply, curve.complete, curve.creator)

namespace HistoricalLayout

/-- What stands behind the fields that every curve has. -/
def suffix : HistoricalLayout → Bytes
  | original => []
  | upgraded mayhem cashback padding =>
      bool.encode mayhem ++ (bool.encode cashback ++ padding)

/-- The account of a curve in a layout. -/
def encode (layout : HistoricalLayout) (curve : BondingCurve) : Bytes :=
  bondingCurveDiscriminator.toList ++ (coreFields.encode curve.coreOf ++ layout.suffix)

/-- A curve as far as a layout has its fields. -/
def restrict (layout : HistoricalLayout) (curve : BondingCurve) : BondingCurve :=
  match layout with
  | original => { curve with isMayhemMode := .absent, isCashbackCoin := .absent }
  | upgraded mayhem cashback _ =>
      { curve with isMayhemMode := .present mayhem, isCashbackCoin := .present cashback }

theorem length_suffix_upgraded (mayhem cashback : Bool) (padding : Bytes) :
    (upgraded mayhem cashback padding).suffix.length = 2 + padding.length := by
  rw [suffix, List.length_append, List.length_append, HasWidth.bool, HasWidth.bool]
  omega

theorem length_encode (layout : HistoricalLayout) (curve : BondingCurve) :
    (layout.encode curve).length = 81 + layout.suffix.length := by
  rw [encode, List.length_append, List.length_append, coreFields_hasWidth,
    Vector.length_toList]
  omega

@[simp] theorem restrict_coreOf (layout : HistoricalLayout) (curve : BondingCurve) :
    (layout.restrict curve).coreOf = curve.coreOf := by
  cases layout <;> rfl

theorem restrict_original {curve : BondingCurve}
    (mayhem : curve.isMayhemMode = .absent) (cashback : curve.isCashbackCoin = .absent) :
    original.restrict curve = curve := by
  cases curve
  cases mayhem
  cases cashback
  rfl

theorem restrict_upgraded {curve : BondingCurve} {mayhem cashback : Bool} {padding : Bytes}
    (mayhemEq : curve.isMayhemMode = .present mayhem)
    (cashbackEq : curve.isCashbackCoin = .present cashback) :
    (upgraded mayhem cashback padding).restrict curve = curve := by
  cases curve
  cases mayhemEq
  cases cashbackEq
  rfl

end HistoricalLayout

theorem ofCore_coreOf (curve : BondingCurve) :
    ofCore curve.coreOf curve.isMayhemMode curve.isCashbackCoin = curve :=
  rfl

/-- A flag is read from the bytes there are. -/
theorem legacy_decode_bool_iff {data rest : Bytes} {flag : Legacy Bool} :
    Legacy.decode bool data = .ok (flag, rest) ↔
      (flag = .absent ∧ data = [] ∧ rest = []) ∨
        ∃ value, flag = .present value ∧ data = bool.encode value ++ rest := by
  rw [Legacy.decode]
  by_cases empty : data = []
  · rw [if_pos empty]
    constructor
    · rintro ⟨⟩
      exact .inl ⟨rfl, empty, rfl⟩
    · rintro (⟨rfl, -, rfl⟩ | ⟨value, -, split⟩)
      · rfl
      · rw [empty] at split
        cases value <;> cases split
  · rw [if_neg empty]
    constructor
    · intro decoded
      cases read : bool.decode data with
      | error reason =>
          rw [read] at decoded
          cases decoded
      | ok found =>
          rw [read] at decoded
          cases decoded
          exact .inr ⟨found.1, rfl, bool.eq_append_of_decode read⟩
    · rintro (⟨-, isEmpty, -⟩ | ⟨value, rfl, rfl⟩)
      · exact absurd isEmpty empty
      · rw [bool.decode_encode]
        rfl

/-- The fields are read from the core fields and from the flags there are. -/
theorem decodeFields_eq_ok_iff {data : Bytes} {curve : BondingCurve} :
    decodeFields data = .ok curve ↔
      ∃ flags rest padding, data = coreFields.encode curve.coreOf ++ flags ∧
        Legacy.decode bool flags = .ok (curve.isMayhemMode, rest) ∧
          Legacy.decode bool rest = .ok (curve.isCashbackCoin, padding) := by
  rw [decodeFields]
  constructor
  · intro decoded
    cases read : coreFields.decode data with
    | error reason => simp only [read, reduceCtorEq] at decoded
    | ok coreRest =>
        obtain ⟨core, flags⟩ := coreRest
        simp only [read] at decoded
        cases first : Legacy.decode bool flags with
        | error reason => simp only [first, reduceCtorEq] at decoded
        | ok mayhemRest =>
            obtain ⟨mayhem, rest⟩ := mayhemRest
            simp only [first] at decoded
            cases second : Legacy.decode bool rest with
            | error reason => simp only [second, reduceCtorEq] at decoded
            | ok cashbackRest =>
                obtain ⟨cashback, padding⟩ := cashbackRest
                simp only [second, Except.ok.injEq] at decoded
                subst decoded
                exact ⟨flags, rest, padding, coreFields.eq_append_of_decode read,
                  first, second⟩
  · rintro ⟨flags, rest, padding, rfl, first, second⟩
    simp only [coreFields.decode_encode, first, second, ofCore_coreOf]

theorem cashbackPresent_iff {curve : BondingCurve} :
    ¬ (curve.cashbackPresent ≠ 0 ∧ curve.cashbackPresent ≠ 2) ↔
      curve.isMayhemMode.isPresent = curve.isCashbackCoin.isPresent := by
  rw [cashbackPresent]
  cases curve.isMayhemMode <;> cases curve.isCashbackCoin <;> decide +revert

theorem fromAccountData_of_tag {data : Bytes} {curve : BondingCurve}
    (tagged : data.take 8 = bondingCurveDiscriminator.toList) :
    fromAccountData data = .ok curve ↔
      decodeFields (data.drop 8) = .ok curve ∧
        curve.isMayhemMode.isPresent = curve.isCashbackCoin.isPresent := by
  have enough : ¬ data.length < 8 := by
    intro short
    have lengths := congrArg List.length tagged
    rw [List.length_take, Vector.length_toList] at lengths
    omega
  rw [fromAccountData, if_neg enough, if_neg (not_not.mpr tagged)]
  cases decoded : decodeFields (data.drop 8) with
  | error reason => simp only [reduceCtorEq, false_and]
  | ok found =>
      dsimp only
      by_cases half : found.cashbackPresent ≠ 0 ∧ found.cashbackPresent ≠ 2
      · rw [if_pos half]
        simp only [reduceCtorEq, false_iff]
        rintro ⟨same, flags⟩
        rw [Except.ok.injEq] at same
        rw [← same] at flags
        exact cashbackPresent_iff.mpr flags half
      · rw [if_neg half]
        constructor
        · rintro same
          rw [Except.ok.injEq] at same
          exact ⟨congrArg Except.ok same, same ▸ cashbackPresent_iff.mp half⟩
        · rintro ⟨same, -⟩
          rw [Except.ok.injEq] at same ⊢
          exact same

/-- An account is accepted exactly when it is a curve in one of the layouts. -/
theorem fromAccountData_eq_ok_iff {data : Bytes} {curve : BondingCurve} :
    fromAccountData data = .ok curve ↔
      ∃ layout : HistoricalLayout,
        data = layout.encode curve ∧ layout.restrict curve = curve := by
  constructor
  · intro accepted
    have tagged := (of_fromAccountData accepted).1
    obtain ⟨decoded, flags⟩ := (fromAccountData_of_tag tagged).mp accepted
    obtain ⟨suffix, rest, padding, split, first, second⟩ :=
      decodeFields_eq_ok_iff.mp decoded
    have whole : data = bondingCurveDiscriminator.toList ++
        (coreFields.encode curve.coreOf ++ suffix) := by
      rw [← split, ← tagged, List.take_append_drop]
    rcases legacy_decode_bool_iff.mp first with
      ⟨mayhem, rfl, rfl⟩ | ⟨mayhemValue, mayhem, rfl⟩ <;>
    rcases legacy_decode_bool_iff.mp second with
      ⟨cashback, empty, rfl⟩ | ⟨cashbackValue, cashback, more⟩
    · exact ⟨.original, whole, HistoricalLayout.restrict_original mayhem cashback⟩
    · rw [mayhem, cashback] at flags
      cases flags
    · rw [mayhem, cashback] at flags
      cases flags
    · refine ⟨.upgraded mayhemValue cashbackValue padding, ?_,
        HistoricalLayout.restrict_upgraded mayhem cashback⟩
      rw [whole, more]
      rfl
  · rintro ⟨layout, rfl, kept⟩
    have tagged : (layout.encode curve).take 8 =
        bondingCurveDiscriminator.toList := List.take_left' Vector.length_toList
    have fields : (layout.encode curve).drop 8 =
        coreFields.encode curve.coreOf ++ layout.suffix :=
      List.drop_left' Vector.length_toList
    rw [fromAccountData_of_tag tagged, decodeFields_eq_ok_iff, fields, ← kept,
      HistoricalLayout.restrict_coreOf]
    cases layout with
    | original =>
        exact ⟨⟨[], [], [], rfl, rfl, rfl⟩, rfl⟩
    | upgraded mayhem cashback padding =>
        refine ⟨⟨_, bool.encode cashback ++ padding, padding, rfl, ?_, ?_⟩, rfl⟩
        · exact legacy_decode_bool_iff.mpr (.inr ⟨mayhem, rfl, rfl⟩)
        · exact legacy_decode_bool_iff.mpr (.inr ⟨cashback, rfl, rfl⟩)

theorem restrict_restrict (layout : HistoricalLayout) (curve : BondingCurve) :
    layout.restrict (layout.restrict curve) = layout.restrict curve := by
  cases layout <;> rfl

theorem encode_restrict (layout : HistoricalLayout) (curve : BondingCurve) :
    layout.encode (layout.restrict curve) = layout.encode curve := by
  rw [HistoricalLayout.encode, HistoricalLayout.restrict_coreOf,
    ← HistoricalLayout.encode]

/-- Every layout of a curve is decoded to the curve with the flags the layout
has.  Accounts of another discriminator, shorter than 81 bytes or of 82 bytes
are refused, and no account has one of the flags only. -/
theorem layouts_decode_exactly :
    (∀ (layout : HistoricalLayout) (curve : BondingCurve),
      fromAccountData (layout.encode curve) = .ok (layout.restrict curve)) ∧
    (∀ curve : BondingCurve, (HistoricalLayout.original.encode curve).length = 81) ∧
    (∀ (mayhem cashback : Bool) (padding : Bytes) (curve : BondingCurve),
      ((HistoricalLayout.upgraded mayhem cashback padding).encode curve).length =
        83 + padding.length) ∧
    (∀ data : Bytes, data.take 8 ≠ bondingCurveDiscriminator.toList ∨
      data.length < 81 ∨ data.length = 82 →
        ∃ error, fromAccountData data = .error error) ∧
    ∀ (data : Bytes) (curve : BondingCurve), fromAccountData data = .ok curve →
      curve.isMayhemMode.isPresent = curve.isCashbackCoin.isPresent := by
  refine ⟨fun layout curve => ?_, fun curve => ?_, fun mayhem cashback padding curve => ?_,
    fun data unfit => ?_, fun data curve accepted => ?_⟩
  · exact fromAccountData_eq_ok_iff.mpr
      ⟨layout, (encode_restrict layout curve).symm, restrict_restrict layout curve⟩
  · exact HistoricalLayout.length_encode .original curve
  · rw [HistoricalLayout.length_encode, HistoricalLayout.length_suffix_upgraded]
    omega
  · cases read : fromAccountData data with
    | error error => exact ⟨error, rfl⟩
    | ok curve =>
        obtain ⟨tagged, enough⟩ := of_fromAccountData read
        obtain ⟨layout, rfl, -⟩ := fromAccountData_eq_ok_iff.mp read
        rw [HistoricalLayout.length_encode] at unfit enough
        rcases unfit with other | short | inside
        · exact absurd tagged other
        · omega
        · cases layout with
          | original => cases inside
          | upgraded mayhem cashback padding =>
              rw [HistoricalLayout.length_suffix_upgraded] at inside
              omega
  · have tagged := (of_fromAccountData accepted).1
    exact ((fromAccountData_of_tag tagged).mp accepted).2

end Pumpfun.BondingCurve

end SolanaProtocols
