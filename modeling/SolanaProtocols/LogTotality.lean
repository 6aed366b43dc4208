import SolanaProtocols.LogNoninterference

/-!
# Which log lines are parsed

Parsing a line stops the program in one place: a data line that does not decode
is cut for a debug message, and the cut may fall inside a character.  Every
other line is parsed, and an undecodable data line is kept as it is unless it
contains the truncation notice.
-/

namespace SolanaProtocols

namespace Text

@[simp] theorem utf8Len_nil : Text.utf8Len [] = 0 :=
  rfl

@[simp] theorem utf8Len_cons (char : Char) (text : Text) :
    Text.utf8Len (char :: text) = char.utf8Size + Text.utf8Len text := by
  simp [Text.utf8Len]

theorem utf8Len_eq_zero_iff {text : Text} : text.utf8Len = 0 ↔ text = [] := by
  cases text with
  | nil => simp
  | cons char text =>
      have wide := char.utf8Size_pos
      simp only [utf8Len_cons, List.cons_ne_nil, iff_false]
      omega

theorem sliceTo_zero (text : Text) : text.sliceTo 0 = some [] := by
  cases text <;> rfl

theorem sliceTo_nil {len : Nat} (positive : len ≠ 0) : Text.sliceTo [] len = none := by
  obtain ⟨less, rfl⟩ := Nat.exists_eq_succ_of_ne_zero positive
  rfl

theorem sliceTo_cons {char : Char} {text : Text} {len : Nat} (positive : len ≠ 0) :
    Text.sliceTo (char :: text) len =
      if char.utf8Size ≤ len then
        (Text.sliceTo text (len - char.utf8Size)).map (char :: ·)
      else none := by
  obtain ⟨less, rfl⟩ := Nat.exists_eq_succ_of_ne_zero positive
  simp [Text.sliceTo]

theorem sliceTo_zero_eq_some_iff {text front : Text} :
    text.sliceTo 0 = some front ↔
      ∃ back, text = front ++ back ∧ front.utf8Len = 0 := by
  rw [sliceTo_zero, Option.some.injEq]
  constructor
  · rintro rfl
    exact ⟨text, rfl, rfl⟩
  · rintro ⟨back, -, short⟩
    exact (utf8Len_eq_zero_iff.mp short).symm

/-- Slicing stops where a beginning of the text has the length. -/
theorem sliceTo_eq_some_iff {text front : Text} {len : Nat} :
    text.sliceTo len = some front ↔
      ∃ back, text = front ++ back ∧ front.utf8Len = len := by
  induction text generalizing len front with
  | nil =>
      by_cases zero : len = 0
      · rw [zero]
        exact sliceTo_zero_eq_some_iff
      simp only [sliceTo_nil zero, reduceCtorEq, false_iff]
      rintro ⟨back, empty, long⟩
      rw [(List.append_eq_nil_iff.mp empty.symm).1] at long
      exact zero long.symm
  | cons char text ih =>
      by_cases zero : len = 0
      · rw [zero]
        exact sliceTo_zero_eq_some_iff
      rw [sliceTo_cons zero]
      constructor
      · intro sliced
        split at sliced
        next fits =>
          obtain ⟨rest, restEq, rfl⟩ := Option.map_eq_some_iff.mp sliced
          obtain ⟨back, rfl, lenEq⟩ := ih.mp restEq
          refine ⟨back, rfl, ?_⟩
          rw [utf8Len_cons, lenEq]
          omega
        next => cases sliced
      · rintro ⟨back, split, lenEq⟩
        cases front with
        | nil => exact absurd lenEq.symm zero
        | cons first front =>
            obtain ⟨rfl, rfl⟩ := List.cons.inj split
            rw [utf8Len_cons] at lenEq
            rw [if_pos (by omega), ih.mpr ⟨back, rfl, by omega⟩]
            rfl

/-- A byte position where a character ends. -/
def IsCharBoundary (text : Text) (len : Nat) : Prop :=
  ∃ front back, text = front ++ back ∧ front.utf8Len = len

theorem sliceTo_eq_none_iff {text : Text} {len : Nat} :
    text.sliceTo len = none ↔ ¬ text.IsCharBoundary len := by
  rw [Option.eq_none_iff_forall_ne_some, IsCharBoundary, not_exists]
  exact forall_congr' fun front => not_congr sliceTo_eq_some_iff

end Text

namespace Parsing

variable {decoders : LogDecoders} {debugEnabled : Bool}

/-- The line that carries data. -/
def dataLine (dataStr : Text) : Text :=
  "Program data: ".toList ++ dataStr

/-- Text that the debug message cuts inside a character. -/
def CutsCharacter (dataStr : Text) : Prop :=
  isClearlyNotBase64 dataStr = true ∧ 60 < dataStr.utf8Len ∧
    ¬ dataStr.IsCharBoundary 60

theorem truncateForLog_eq_none_iff {text : Text} {maxLen : Nat} :
    truncateForLog text maxLen = none ↔
      maxLen < text.utf8Len ∧ ¬ text.IsCharBoundary maxLen := by
  rw [truncateForLog]
  split
  next short => exact iff_of_false nofun fun long => absurd short (not_le.mpr long.1)
  next long =>
    rw [Option.map_eq_none_iff, Text.sliceTo_eq_none_iff,
      and_iff_right (not_le.mp long)]

theorem parseDataLog_of_decoded {dataStr : Text} {bytes : Bytes}
    (decoded : decoders.decodeBase64 dataStr = some bytes) :
    ∃ disc payload,
      parseDataLog decoders debugEnabled dataStr = some (.data disc payload) := by
  rw [parseDataLog, decoded]
  exact ⟨_, _, rfl⟩

/-- Data that does not decode is kept, or the program stops. -/
theorem parseDataLog_of_undecoded {dataStr : Text}
    (undecoded : decoders.decodeBase64 dataStr = none) :
    (debugEnabled = true ∧ CutsCharacter dataStr ∧
        parseDataLog decoders debugEnabled dataStr = none) ∨
      (¬ (debugEnabled = true ∧ CutsCharacter dataStr) ∧
        parseDataLog decoders debugEnabled dataStr =
          some (.unknown (dataLine dataStr))) := by
  rw [parseDataLog, undecoded]
  dsimp only
  by_cases reported : (debugEnabled && isClearlyNotBase64 dataStr) = true
  · obtain ⟨enabled, plain⟩ := Bool.and_eq_true_iff.mp reported
    rw [if_pos reported]
    cases cut : truncateForLog dataStr 60 with
    | none => exact .inl ⟨enabled, ⟨plain, truncateForLog_eq_none_iff.mp cut⟩, rfl⟩
    | some shown =>
        refine .inr ⟨fun stops => ?_, rfl⟩
        have none := truncateForLog_eq_none_iff.mpr stops.2.2
        rw [cut] at none
        cases none
  · rw [if_neg reported]
    refine .inr ⟨fun stops => ?_, rfl⟩
    exact reported (Bool.and_eq_true_iff.mpr ⟨stops.1, stops.2.1⟩)

theorem dropPrefix?_dataLine (dataStr : Text) :
    (dataLine dataStr).dropPrefix? "Program data: ".toList = some dataStr := by
  unfold dataLine
  exact List.dropPrefix?_append_of_beq _ (by simp)

theorem parse_dataLine {dataStr : Text}
    (whole : (dataLine dataStr).contains truncationNotice = false) :
    parse decoders debugEnabled (dataLine dataStr) =
      parseDataLog decoders debugEnabled dataStr := by
  have uncut : ¬ (dataLine dataStr).contains truncationNotice = true := by
    rw [whole]
    exact Bool.false_ne_true
  rw [parse, dropPrefix?_dataLine]
  exact if_neg uncut

theorem parse_of_notice {log : Text}
    (notice : log.contains truncationNotice = true) :
    parse decoders debugEnabled log = some .truncated := by
  rw [parse]
  exact if_pos notice

/-- Only data lines may stop the program. -/
theorem exists_parse_of_other {log : Text}
    (other : ∀ dataStr, log ≠ dataLine dataStr) :
    ∃ entry, parse decoders debugEnabled log = some entry := by
  cases notice : log.contains truncationNotice with
  | true => exact ⟨.truncated, parse_of_notice notice⟩
  | false =>
      have notData : log.dropPrefix? "Program data: ".toList = none := by
        cases dropped : log.dropPrefix? "Program data: ".toList with
        | none => rfl
        | some dataStr =>
            obtain ⟨start, split, same⟩ := List.dropPrefix?_eq_some_iff.mp dropped
            rw [beq_iff_eq] at same
            rw [same] at split
            exact absurd split (other dataStr)
      have uncut : ¬ log.contains "Log truncated".toList = true :=
        Bool.not_eq_true _ ▸ notice
      rw [parse, if_neg uncut, notData]
      dsimp only
      cases log.dropPrefix? "Program log: ".toList with
      | none => exact ⟨_, rfl⟩
      | some message => exact ⟨_, rfl⟩

/-- What may go wrong with a data line that does not decode: it is taken for the
truncation notice, or the debug message cuts a character. -/
def Mishandled (debugEnabled : Bool) (dataStr : Text) : Prop :=
  (dataLine dataStr).contains truncationNotice = true ∨
    (debugEnabled = true ∧ CutsCharacter dataStr)

theorem exists_parse_of_decoded {dataStr : Text} {bytes : Bytes}
    (decoded : decoders.decodeBase64 dataStr = some bytes) :
    ∃ entry, parse decoders debugEnabled (dataLine dataStr) = some entry := by
  cases notice : (dataLine dataStr).contains truncationNotice with
  | true => exact ⟨_, parse_of_notice notice⟩
  | false =>
      rw [parse_dataLine notice]
      obtain ⟨disc, payload, parsed⟩ :=
        @parseDataLog_of_decoded decoders debugEnabled _ _ decoded
      exact ⟨_, parsed⟩

/-- A data line that does not decode is kept exactly when nothing goes wrong. -/
theorem parse_undecoded_iff {dataStr : Text}
    (undecoded : decoders.decodeBase64 dataStr = none) :
    parse decoders debugEnabled (dataLine dataStr) =
        some (.unknown (dataLine dataStr)) ↔
      ¬ Mishandled debugEnabled dataStr := by
  cases notice : (dataLine dataStr).contains truncationNotice with
  | true =>
      rw [parse_of_notice notice]
      exact iff_of_false nofun (not_not.mpr (.inl notice))
  | false =>
      have untaken : ¬ (dataLine dataStr).contains truncationNotice = true :=
        Bool.eq_false_iff.mp notice
      rw [parse_dataLine notice, Mishandled, or_iff_right untaken]
      rcases @parseDataLog_of_undecoded decoders debugEnabled dataStr undecoded with
        ⟨enabled, cuts, panics⟩ | ⟨fine, kept⟩
      · rw [panics]
        exact iff_of_false nofun (not_not.mpr ⟨enabled, cuts⟩)
      · exact iff_of_true kept fine

/-- A line is parsed, and kept as it is where its data does not decode. -/
structure ParsesTotally (decoders : LogDecoders) (debugEnabled : Bool)
    (log : Text) : Prop where
  returns : ∃ entry, parse decoders debugEnabled log = some entry
  keeps : ∀ dataStr, log = dataLine dataStr →
    decoders.decodeBase64 dataStr = none →
      parse decoders debugEnabled log = some (.unknown log)

theorem parsesTotally_iff (decoders : LogDecoders) (debugEnabled : Bool)
    (log : Text) :
    ParsesTotally decoders debugEnabled log ↔
      ∀ dataStr, log = dataLine dataStr → decoders.decodeBase64 dataStr = none →
        ¬ Mishandled debugEnabled dataStr := by
  constructor
  · rintro total dataStr rfl undecoded
    exact (parse_undecoded_iff undecoded).mp (total.keeps dataStr rfl undecoded)
  · intro handled
    have keeps : ∀ dataStr, log = dataLine dataStr →
        decoders.decodeBase64 dataStr = none →
          parse decoders debugEnabled log = some (.unknown log) := by
      rintro dataStr rfl undecoded
      exact (parse_undecoded_iff undecoded).mpr (handled dataStr rfl undecoded)
    refine ⟨?_, keeps⟩
    by_cases isData : ∃ dataStr, log = dataLine dataStr
    · obtain ⟨dataStr, rfl⟩ := isData
      cases decoded : decoders.decodeBase64 dataStr with
      | some bytes => exact exists_parse_of_decoded decoded
      | none => exact ⟨_, keeps dataStr rfl decoded⟩
    · exact exists_parse_of_other (not_exists.mp isData)

/-- Fifty-nine bytes of plain text and a character of two bytes. -/
def plainOutput : Text :=
  "Synopsis: ".toList ++ List.replicate 49 'a' ++ ['é']

/-- With debug messages on, the line stops the program. -/
theorem plainOutput_panics :
    parse ⟨fun _ => none, fun _ => none⟩ true (dataLine plainOutput) = none ∧
      ¬ ParsesTotally ⟨fun _ => none, fun _ => none⟩ true (dataLine plainOutput) := by
  have panics : parse ⟨fun _ => none, fun _ => none⟩ true (dataLine plainOutput) =
      none := by
    decide +kernel
  refine ⟨panics, fun total => ?_⟩
  obtain ⟨entry, parsed⟩ := total.returns
  rw [panics] at parsed
  cases parsed

/-- A log is parsed unless one of its lines stops the program. -/
theorem parseLogs_eq_none_iff {logs : List Text} :
    parseLogs decoders debugEnabled logs = none ↔
      ∃ log ∈ logs, parse decoders debugEnabled log = none := by
  rw [parseLogs]
  induction logs with
  | nil => simp
  | cons log logs ih =>
      rw [List.mapM_cons, List.exists_mem_cons_iff, ← ih]
      cases parse decoders debugEnabled log with
      | none => simp
      | some entry =>
          cases logs.mapM (parse decoders debugEnabled) with
          | none => simp
          | some entries => simp

end Parsing

end SolanaProtocols
