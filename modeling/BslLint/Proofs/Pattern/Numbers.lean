import BslLint.Pattern.Reader
import BslLint.Proofs.Pattern.Parts
import BslLint.Proofs.Source.Tokens

/-! The pattern for numbers: digits between boundaries, and perhaps a point and more digits. Searches for it find what
a scan for numbers finds. It prefers a fraction to none, and without the boundary behind a fraction it ends at the
point. -/

set_option autoImplicit false

namespace BslLint.Source

open Pattern (IsMatch Preferred FindsAll)

def digitsPattern : Pattern :=
  .repeated (.charIn .digits) 1 none true

def fractionPattern : Pattern :=
  .repeated (.sequence (.mark '.') digitsPattern) 0 (some 1) true

def boundaryPattern : Pattern :=
  .assertion (.boundary .any false)

def numberPattern : Pattern :=
  .inTurn boundaryPattern [digitsPattern, fractionPattern, boundaryPattern]

theorem ofText?_numberPattern : Pattern.ofText? "\\b\\d+(?:\\.\\d+)?\\b".toList = some numberPattern := by
  decide +kernel

section

variable {before chars after : List Char}

theorem isMatch_digits : IsMatch digitsPattern ⟨before, chars, after⟩ ↔ Digits chars := by
  rw [digitsPattern, Pattern.isMatch_repeated, Digits, Nat.succ_le_iff, List.length_pos_iff]
  rfl

theorem isMatch_fraction : IsMatch fractionPattern ⟨before, chars, after⟩ ↔
    chars = [] ∨ ∃ decimals, Digits decimals ∧ chars = '.' :: decimals := by
  simp [fractionPattern, Pattern.isMatch_optional, Pattern.isMatch_sequence, Pattern.isMatch_mark, isMatch_digits]

end

theorem head?_ends_digits {before chars after : List Char} {offset : Nat} {mark : Option Span} (digits : Digits chars)
    (stops : ∀ char ∈ after.head?, Text.isDigit char = false) :
    (Pattern.ends digitsPattern ⟨offset, before, chars ++ after, mark⟩).head? =
      some ⟨offset + chars.length, chars.reverse ++ before, after, mark⟩ :=
  Pattern.head?_ends_repeated_one digits.1 digits.2 stops

variable {line : List Char} {number run : Span}

theorem isMatch_numberPattern_iff : IsMatch numberPattern number ↔ Numeral number.chars ∧
    (∀ char ∈ number.before.head?, Text.isWord char = false) ∧
    ∀ char ∈ number.after.head?, Text.isWord char = false := by
  obtain ⟨before, chars, after⟩ := number
  have starts {chars : List Char} (numeral : Numeral chars) (rest : List Char) :
      (Pattern.Assertion.boundary .any false).holds before (chars ++ rest) = true ↔
        ∀ char ∈ before.head?, Text.isWord char = false := by
    obtain ⟨char, first, isDigit⟩ := numeral.head?
    exact Pattern.holds_boundary_iff (by simp [List.head?_append, first]) (Text.isWord_of_isDigit isDigit)
  have ends {chars : List Char} (numeral : Numeral chars) :
      (Pattern.Assertion.boundary .any false).holds (chars.reverse ++ before) after = true ↔
        ∀ char ∈ after.head?, Text.isWord char = false := by
    obtain ⟨char, last, isDigit⟩ := numeral.getLast?
    rw [Pattern.holds_boundary_comm]
    exact Pattern.holds_boundary_iff (by simp [List.head?_append, last]) (Text.isWord_of_isDigit isDigit)
  let holds := (Pattern.Assertion.boundary .any false).holds
  have divided : IsMatch numberPattern ⟨before, chars, after⟩ ↔ ∃ whole rest,
      holds before (whole ++ (rest ++ after)) = true ∧
      (Digits whole ∧ (holds (whole.reverse ++ before) after = true ∧ rest = [] ∨ ∃ decimals, Digits decimals ∧
        holds (decimals.reverse ++ '.' :: (whole.reverse ++ before)) after = true ∧ rest = '.' :: decimals)) ∧
      chars = whole ++ rest := by
    simp [holds, numberPattern, boundaryPattern, Pattern.isMatch_inTurn, Pattern.MatchInTurn,
      Pattern.isMatch_assertion, isMatch_digits, isMatch_fraction]
  rw [divided]
  constructor
  · rintro ⟨whole, rest, opens, ⟨digits, ⟨closes, rfl⟩ | ⟨decimals, isDecimals, closes, rfl⟩⟩, rfl⟩
    · rw [List.nil_append] at opens
      have numeral : Numeral (whole ++ []) := by simpa using Numeral.whole digits
      exact ⟨numeral, (starts (.whole digits) after).mp opens, (ends (.whole digits)).mp closes⟩
    · have numeral := Numeral.fraction digits isDecimals
      exact ⟨numeral, (starts numeral after).mp (by simpa using opens), (ends numeral).mp (by simpa using closes)⟩
  · rintro ⟨numeral, opens, closes⟩
    have opens := (starts numeral after).mpr opens
    have closes := (ends numeral).mpr closes
    cases numeral with
    | whole digits => exact ⟨chars, [], opens, ⟨digits, .inl ⟨closes, rfl⟩⟩, (List.append_nil _).symm⟩
    | @fraction whole decimals digits isDecimals =>
      exact ⟨whole, _, by simpa using opens, ⟨digits, .inr ⟨decimals, isDecimals, by simpa using closes, rfl⟩⟩, rfl⟩

theorem DigitRun.isMatch (isRun : DigitRun line run) : IsMatch numberPattern run :=
  isMatch_numberPattern_iff.mpr ⟨.whole ⟨isRun.nonempty, isRun.digits⟩, isRun.before, isRun.after⟩

theorem digitRun_of_isMatch (matched : IsMatch numberPattern number) : DigitRun number.line number ∨
    ∃ whole fraction, DigitRun number.line whole ∧ DigitRun number.line fraction ∧ Joined whole fraction ∧
      number = ⟨whole.before, whole.chars ++ '.' :: fraction.chars, fraction.after⟩ := by
  obtain ⟨before, chars, after⟩ := number
  obtain ⟨numeral, starts, ends⟩ := isMatch_numberPattern_iff.mp matched
  have word {digits : List Char} (isDigits : Digits digits) : ∀ char ∈ digits, Text.isWord char = true :=
    fun char mem => Text.isWord_of_isDigit (isDigits.2 char mem)
  dsimp only at numeral starts ends
  cases numeral with
  | whole digits => exact .inl ⟨⟨rfl, digits.1, word digits, starts, ends⟩, digits.2⟩
  | @fraction whole decimals digits isDecimals =>
    have point : Text.isWord '.' = false := by decide
    refine .inr ⟨⟨before, whole, '.' :: (decimals ++ after)⟩, ⟨'.' :: (whole.reverse ++ before), decimals, after⟩,
      ⟨⟨?_, digits.1, word digits, starts, ?_⟩, digits.2⟩,
      ⟨⟨?_, isDecimals.1, word isDecimals, ?_, ends⟩, isDecimals.2⟩, ⟨rfl, ?_⟩, rfl⟩
    · simp [Span.line]
    · simpa using point
    · simp [Span.line]
    · simpa using point
    · simp [Span.start, Span.stop, Nat.add_comm]

/-- Where a run of digits starts that a point joins to the next one, the match goes on to the end of both. -/
theorem preferred_joined {whole fraction : Span} (isWhole : DigitRun line whole) (isFraction : DigitRun line fraction)
    (joined : Joined whole fraction) :
    Preferred numberPattern ⟨whole.before, whole.chars ++ '.' :: fraction.chars, fraction.after⟩ := by
  obtain ⟨before, chars, _⟩ := whole
  obtain ⟨passed, decimals, after⟩ := fraction
  have isDigits : Digits chars := ⟨isWhole.nonempty, isWhole.digits⟩
  have isDecimals : Digits decimals := ⟨isFraction.nonempty, isFraction.digits⟩
  have point : ∀ char ∈ ('.' :: (decimals ++ after)).head?, Text.isDigit char = false := by
    rintro _ ⟨⟩
    decide
  have stops : ∀ char ∈ after.head?, Text.isDigit char = false := by
    intro char first
    cases digit : Text.isDigit char with
    | false => rfl
    | true => simpa [Text.isWord_of_isDigit digit] using isFraction.after char first
  have opens : (Pattern.Assertion.boundary .any false).holds before (chars ++ '.' :: (decimals ++ after)) = true := by
    obtain ⟨digit, first, isDigit⟩ := isDigits.head?
    exact (Pattern.holds_boundary_iff (by simp [first]) (Text.isWord_of_isDigit isDigit)).mpr isWhole.before
  have closes : (Pattern.Assertion.boundary .any false).holds
      (decimals.reverse ++ '.' :: (chars.reverse ++ before)) after = true := by
    obtain ⟨digit, last, isDigit⟩ := isDecimals.getLast?
    rw [Pattern.holds_boundary_comm]
    exact (Pattern.holds_boundary_iff (by simp [last]) (Text.isWord_of_isDigit isDigit)).mpr isFraction.after
  have mark : (Pattern.ends (.mark '.')
      ⟨before.length + chars.length, chars.reverse ++ before, '.' :: (decimals ++ after), none⟩).head? =
      some ⟨before.length + chars.length + 1, '.' :: (chars.reverse ++ before), decimals ++ after, none⟩ := by
    simp [Pattern.mark, Pattern.ends, Pattern.Place.next?, Pattern.CharSet.contains]
  have start : (Pattern.ends boundaryPattern
      ⟨before.length, before, chars ++ '.' :: (decimals ++ after), none⟩).head? = some _ :=
    Pattern.head?_ends_assertion opens
  have whole := Pattern.head?_ends_sequence start (head?_ends_digits isDigits point)
  have fraction := Pattern.head?_ends_sequence mark (head?_ends_digits isDecimals stops)
  have both := Pattern.head?_ends_sequence whole (Pattern.head?_ends_optional fraction)
  have found : (Pattern.ends numberPattern
      ⟨before.length, before, chars ++ '.' :: (decimals ++ after), none⟩).head? = some _ :=
    Pattern.head?_ends_sequence both (Pattern.head?_ends_assertion closes)
  have split : chars ++ '.' :: decimals ++ after = chars ++ '.' :: (decimals ++ after) := by simp
  rw [Preferred, Span.start, split, found]
  simp [Span.stop]
  omega

theorem preferred_alone (isRun : DigitRun line run)
    (alone : ∀ fraction, DigitRun line fraction → ¬Joined run fraction) : Preferred numberPattern run := by
  refine Pattern.preferred_of_unique isRun.isMatch fun other own starts matched => ?_
  rw [isRun.part] at own
  have cases := digitRun_of_isMatch matched
  rw [own] at cases
  rcases cases with isOther | ⟨whole, fraction, isWhole, isFraction, joined, rfl⟩
  · rw [isOther.toWordRun.eq_of_start isRun.toWordRun starts]
  · obtain rfl := isWhole.toWordRun.eq_of_start isRun.toWordRun starts
    exact absurd joined (alone fraction isFraction)

theorem preferred_of_scans {column : Nat} {numbers : List Span} (scans : Scans line column numbers) :
    ∀ number ∈ numbers, Preferred numberPattern number := by
  induction scans with
  | done none => simp
  | joined first follows joined _ ih =>
    exact List.forall_mem_cons.mpr ⟨preferred_joined first.toDigitRun follows joined, ih⟩
  | single first alone _ ih => exact List.forall_mem_cons.mpr ⟨preferred_alone first.toDigitRun alone, ih⟩

-- The numbers of a line are all that searches for them find.
theorem findsAll_numbers_iff {numbers : List Span} :
    FindsAll numberPattern (.first line) numbers ↔ Scans line 0 numbers := by
  have scans : Scans line 0 (numbersOf (words line)) := scans_iff.mpr rfl
  have finds : FindsAll numberPattern (.first line) (numbersOf (words line)) := by
    refine FindsAll.of_placed (numbersOf_placed (words_placed line)) (preferred_of_scans scans) ?_ (Nat.zero_le _) none
    intro other own _ matched
    -- the match starts with a run of digits, which the scan does not miss
    obtain ⟨run, isRun, starts⟩ : ∃ run, DigitRun line run ∧ run.start = other.start := by
      rcases own ▸ digitRun_of_isMatch matched with isRun | ⟨whole, fraction, isWhole, _, _, same⟩
      · exact ⟨other, isRun, rfl⟩
      · exact ⟨whole, isWhole, by rw [same, Span.start, Span.start]⟩
    obtain ⟨number, mem, before, after⟩ := scans.covers isRun (Nat.zero_le _)
    have wide := isRun.start_lt_stop
    exact ⟨number, mem, by omega, by omega⟩
  constructor
  · intro found
    exact found.unique finds ▸ scans
  · intro found
    exact found.unique scans ▸ finds

end BslLint.Source
