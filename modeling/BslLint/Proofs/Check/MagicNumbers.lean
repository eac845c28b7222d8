import BslLint.Proofs.Check.Extent
import BslLint.Proofs.Pattern.Names
import BslLint.Proofs.Pattern.Numbers
import Mathlib.Data.List.Forall2

/-! Every number of a line is considered once. What counts is the code of the line without its literals: where it is an
assignment of a number to a name nothing is reported, otherwise a scan finds the numbers. -/

set_option autoImplicit false

namespace BslLint

namespace MagicNumber

open Source Text

def Ends (text : List Char) : Prop :=
  ∃ gap semicolon trailing, isBlank gap = true ∧ (semicolon = [] ∨ semicolon = [';']) ∧ isBlank trailing = true ∧
    text = gap ++ (semicolon ++ trailing)

def EndsWithNumber (text : List Char) : Prop :=
  ∃ gap number rest, isBlank gap = true ∧ Numeral number ∧ Ends rest ∧ text = gap ++ (number ++ rest)

/-- Code that only gives a number a name. A point separates the parts of a name, and a minus may stand before the
number. -/
def Assigns (code : List Char) : Prop :=
  ∃ indent first others before after sign value, isBlank indent = true ∧ isNameStart first = true ∧
    (∀ char ∈ others, isWord char = true ∨ char = '.') ∧ isBlank before = true ∧ isBlank after = true ∧
    (sign = [] ∨ sign = ['-']) ∧ EndsWithNumber value ∧
    code = indent ++ first :: (others ++ (before ++ '=' :: (after ++ (sign ++ value))))

theorem afterMark?_eq_some_iff {mark : Char} {text rest : List Char} (visible : isSpace mark = false) :
    afterMark? mark text = some rest ↔ Leads text mark rest := by
  rw [leads_iff, afterMark?]
  cases read : trimStart text with
  | nil => simp
  | cons char others =>
    by_cases same : char = mark
    · subst same
      simp
    · simp [same]

theorem afterDigits?_eq_some_iff {text rest : List Char} :
    afterDigits? text = some rest ↔ ∃ digits, Digits digits ∧ (∀ char ∈ rest.head?, isDigit char = false) ∧
      text = digits ++ rest := by
  constructor
  · intro read
    cases text with
    | nil => cases read
    | cons first others =>
      rw [afterDigits?] at read
      split at read
      · rename_i digit
        cases read
        refine ⟨first :: others.takeWhile isDigit, ⟨by simp, ?_⟩, head?_dropWhile others, by simp⟩
        intro char mem
        rcases List.mem_cons.mp mem with rfl | mem
        · exact digit
        · exact List.mem_takeWhile_imp mem
      · cases read
  · rintro ⟨digits, ⟨nonempty, all⟩, stops, rfl⟩
    cases digits with
    | nil => exact absurd rfl nonempty
    | cons first others =>
      have inside (char : Char) (mem : char ∈ others) := all char (List.mem_cons_of_mem _ mem)
      simp [afterDigits?, all first, List.dropWhile_append_of_pos inside, dropWhile_of_head? stops]

theorem ends_iff {text : List Char} : isBlank ((afterMark? ';' text).getD text) = true ↔ Ends text := by
  have visible : isSpace ';' = false := by decide
  constructor
  · intro blank
    cases read : afterMark? ';' text with
    | none =>
      rw [read] at blank
      exact ⟨text, [], [], blank, .inl rfl, rfl, by simp⟩
    | some rest =>
      obtain ⟨_, gap, space, rfl⟩ := (afterMark?_eq_some_iff visible).mp read
      rw [read] at blank
      exact ⟨gap, [';'], rest, space, .inr rfl, blank, rfl⟩
  · rintro ⟨gap, semicolon, trailing, space, rfl | rfl, blank, rfl⟩
    · have all : isBlank (gap ++ ([] ++ trailing)) = true := by
        rw [List.nil_append, isBlank_append_blank blank]
        exact space
      rw [afterMark?, (trimStart_eq_nil_iff _).mpr all]
      exact all
    · have read : afterMark? ';' (gap ++ ([';'] ++ trailing)) = some trailing :=
        (afterMark?_eq_some_iff visible).mpr ⟨visible, gap, space, rfl⟩
      rw [read]
      exact blank

theorem Ends.plain {rest : List Char} (ends : Ends rest) :
    (∀ char ∈ rest.head?, isDigit char = false) ∧ rest.head? ≠ some '.' := by
  have starts (char : Char) (first : char ∈ rest.head?) : isSpace char = true ∨ char = ';' := by
    obtain ⟨gap, semicolon, trailing, space, rfl | rfl, blank, rfl⟩ := ends
    · left
      rcases List.mem_append.mp (List.mem_of_mem_head? first) with mem | mem
      · exact isSpace_of_mem_blank space mem
      · exact isSpace_of_mem_blank blank mem
    · exact isSpace_or_eq_of_head? space first
  constructor
  · intro char first
    rcases starts char first with space | rfl
    · exact isDigit_of_isSpace space
    · decide
  · intro first
    exact absurd (starts '.' first) (by decide)

theorem trimStart_numeral {number : List Char} (numeral : Numeral number) (rest : List Char) :
    trimStart (number ++ rest) = number ++ rest := by
  obtain ⟨digit, first, isDigit⟩ := numeral.head?
  apply dropWhile_of_head?
  intro char starts
  rw [List.head?_append, first, Option.some_or] at starts
  cases starts
  cases space : isSpace digit with
  | false => rfl
  | true => exact absurd isDigit (by simp [isDigit_of_isSpace space])

theorem endsWithNumber_iff {text : List Char} : endsWithNumber text = true ↔ EndsWithNumber text := by
  constructor
  · intro ends
    have split : text.takeWhile isSpace ++ trimStart text = text := List.takeWhile_append_dropWhile
    unfold endsWithNumber at ends
    split at ends
    · cases ends
    · rename_i rest read
      obtain ⟨digits, isDigits, -, number⟩ := afterDigits?_eq_some_iff.mp read
      rw [number] at split
      split at ends
      · rename_i fraction
        cases readFraction : afterDigits? fraction with
        | none =>
          rw [readFraction] at ends
          exact ⟨_, digits, _, isBlank_takeWhile text, .whole isDigits, ends_iff.mp ends, split.symm⟩
        | some rest =>
          rw [readFraction] at ends
          obtain ⟨decimals, areDecimals, _, rfl⟩ := afterDigits?_eq_some_iff.mp readFraction
          refine ⟨_, digits ++ '.' :: decimals, rest, isBlank_takeWhile text, .fraction isDigits areDecimals,
            ends_iff.mp ends, ?_⟩
          rw [List.append_assoc]
          exact split.symm
      · exact ⟨_, digits, rest, isBlank_takeWhile text, .whole isDigits, ends_iff.mp ends, split.symm⟩
  · rintro ⟨gap, number, rest, blank, numeral, ends, rfl⟩
    obtain ⟨stops, noPoint⟩ := ends.plain
    have trimmed : trimStart (gap ++ (number ++ rest)) = number ++ rest := by
      rw [trimStart_blank_append blank, trimStart_numeral numeral]
    rw [endsWithNumber, trimmed]
    cases numeral with
    | whole digits =>
      have read := afterDigits?_eq_some_iff.mpr ⟨number, digits, stops, rfl⟩
      rw [read]
      dsimp only
      split
      · exact absurd rfl noPoint
      · exact ends_iff.mpr ends
    | @fraction whole decimals digits areDecimals =>
      have point : ∀ char ∈ ('.' :: (decimals ++ rest)).head?, isDigit char = false := by
        rintro _ ⟨⟩
        decide
      have read : afterDigits? ((whole ++ '.' :: decimals) ++ rest) = some ('.' :: (decimals ++ rest)) :=
        afterDigits?_eq_some_iff.mpr ⟨whole, digits, point, by simp⟩
      have readFraction := afterDigits?_eq_some_iff.mpr ⟨decimals, areDecimals, stops, rfl⟩
      rw [read]
      show isBlank ((afterMark? ';' ((afterDigits? (decimals ++ rest)).getD _)).getD
        ((afterDigits? (decimals ++ rest)).getD _)) = true
      rw [readFraction]
      exact ends_iff.mpr ends

/-- A number at the end of an assignment, perhaps with a minus in front of it. -/
theorem signedEnd_iff {value : List Char} : endsWithNumber ((afterMark? '-' value).getD value) = true ↔
    ∃ gap sign number, isBlank gap = true ∧ (sign = [] ∨ sign = ['-']) ∧ EndsWithNumber number ∧
      value = gap ++ (sign ++ number) := by
  have visible : isSpace '-' = false := by decide
  constructor
  · intro ends
    cases signed : afterMark? '-' value with
    | none =>
      rw [signed] at ends
      exact ⟨[], [], value, rfl, .inl rfl, endsWithNumber_iff.mp ends, rfl⟩
    | some number =>
      obtain ⟨_, gap, blank, rfl⟩ := (afterMark?_eq_some_iff visible).mp signed
      rw [signed] at ends
      exact ⟨gap, ['-'], number, blank, .inr rfl, endsWithNumber_iff.mp ends, rfl⟩
  · rintro ⟨gap, sign, number, blank, rfl | rfl, ends, rfl⟩
    · -- The white space in front of the sign runs on into the white space in front of the number.
      obtain ⟨inner, numeral, rest, blankInner, isNumeral, follows, rfl⟩ := ends
      have blankAll : isBlank (gap ++ inner) = true := by
        rw [isBlank_append_blank blankInner]
        exact blank
      have unsigned : afterMark? '-' (gap ++ ([] ++ (inner ++ (numeral ++ rest)))) = none := by
        obtain ⟨digit, first, isDigit⟩ := isNumeral.head?
        obtain ⟨_, rfl⟩ := List.head?_eq_some_iff.mp first
        rw [afterMark?, trimStart_blank_append blank, List.nil_append, trimStart_blank_append blankInner,
          trimStart_numeral isNumeral]
        apply if_neg
        rintro rfl
        exact absurd isDigit (by decide)
      rw [unsigned]
      exact endsWithNumber_iff.mpr ⟨_, numeral, rest, blankAll, isNumeral, follows, by simp⟩
    · have read : afterMark? '-' (gap ++ (['-'] ++ number)) = some number :=
        (afterMark?_eq_some_iff visible).mpr ⟨visible, gap, blank, rfl⟩
      rw [read]
      exact endsWithNumber_iff.mpr ends

theorem isAssignment_iff {code : List Char} : isAssignment code = true ↔ Assigns code := by
  have read {text value : List Char} : afterMark? '=' (text.dropWhile fun char => isWord char || char == '.') =
      some value ↔ ∃ others before, (∀ char ∈ others, isWord char = true ∨ char = '.') ∧ isBlank before = true ∧
        text = others ++ (before ++ '=' :: value) := by
    rw [afterMark?_eq_some_iff (by decide), leads_members_iff (by decide) (by decide)]
  constructor
  · intro assigns
    have split : code.takeWhile isSpace ++ trimStart code = code := List.takeWhile_append_dropWhile
    unfold isAssignment at assigns
    split at assigns
    · cases assigns
    · rename_i first rest trimmed
      rw [trimmed] at split
      split at assigns
      · rename_i starts
        split at assigns
        · rename_i value found
          obtain ⟨others, before, name, blank, rfl⟩ := read.mp found
          obtain ⟨after, sign, number, blankAfter, signed, ends, rfl⟩ := signedEnd_iff.mp assigns
          exact ⟨_, first, others, before, after, sign, number, isBlank_takeWhile code, starts, name, blank, blankAfter,
            signed, ends, split.symm⟩
        · cases assigns
      · cases assigns
  · rintro ⟨indent, first, others, before, after, sign, value, blank, starts, name, blankBefore, blankAfter, signed, ends,
      rfl⟩
    unfold isAssignment
    rw [trimStart_blank_append blank, trimStart_cons (isSpace_of_isNameStart starts)]
    dsimp only
    rw [if_pos starts, read.mpr ⟨others, before, name, blankBefore, rfl⟩]
    exact signedEnd_iff.mpr ⟨after, sign, value, blankAfter, signed, ends, rfl⟩

-- The pattern for assignments, which is anchored at both ends of the code.
def endPatterns : List Pattern :=
  [.blanks, .optionalMark ';', .blanks, .assertion .textEnd]

def endingNumberPatterns : List Pattern :=
  .blanks :: digitsPattern :: fractionPattern :: endPatterns

def assignmentPattern : Pattern :=
  .inTurn (.assertion .textStart) (.blanks :: .charIn nameStarts ::
    .repeated (.charIn memberChars) 0 none true :: .blanks :: .mark '=' :: .blanks ::
    .optionalMark '-' :: endingNumberPatterns)

theorem ofText?_assignmentPattern : Pattern.ofText?
    "^\\s*[\\p{L}_][\\w.]*\\s*=\\s*-?\\s*\\d+(?:\\.\\d+)?\\s*;?\\s*$".toList = some assignmentPattern := by
  decide +kernel

section

variable {before chars after : List Char}

theorem matchInTurn_end_iff : Pattern.MatchInTurn endPatterns ⟨before, chars, after⟩ ↔ Ends chars ∧ after = [] := by
  have divided : Pattern.MatchInTurn endPatterns ⟨before, chars, after⟩ ↔ ∃ gap, isBlank gap = true ∧ ∃ rest,
      (isBlank rest = true ∧ after = [] ∨ ∃ trailing, (isBlank trailing = true ∧ after = []) ∧ rest = ';' :: trailing) ∧
        chars = gap ++ rest := by
    simp [endPatterns, Pattern.MatchInTurn, Pattern.isMatch_blanks, Pattern.isMatch_optionalMark,
      Pattern.isMatch_assertion, Pattern.Assertion.holds]
  rw [divided]
  constructor
  · rintro ⟨gap, space, trailing, ⟨blank, last⟩ | ⟨trailing, ⟨blank, last⟩, rfl⟩, split⟩
    · exact ⟨⟨gap, [], trailing, space, .inl rfl, blank, split⟩, last⟩
    · exact ⟨⟨gap, [';'], trailing, space, .inr rfl, blank, split⟩, last⟩
  · rintro ⟨⟨gap, semicolon, trailing, space, rfl | rfl, blank, split⟩, last⟩
    · exact ⟨gap, space, trailing, .inl ⟨blank, last⟩, split⟩
    · exact ⟨gap, space, ';' :: trailing, .inr ⟨trailing, ⟨blank, last⟩, rfl⟩, split⟩

theorem matchInTurn_endingNumber_iff :
    Pattern.MatchInTurn endingNumberPatterns ⟨before, chars, after⟩ ↔ EndsWithNumber chars ∧ after = [] := by
  have divided : Pattern.MatchInTurn endingNumberPatterns ⟨before, chars, after⟩ ↔ ∃ gap, isBlank gap = true ∧
      ∃ whole rest, (Digits whole ∧ (Ends rest ∧ after = [] ∨ ∃ decimals, Digits decimals ∧ ∃ ending,
        (Ends ending ∧ after = []) ∧ rest = '.' :: (decimals ++ ending))) ∧ chars = gap ++ (whole ++ rest) := by
    simp [endingNumberPatterns, Pattern.MatchInTurn, Pattern.isMatch_blanks, isMatch_digits, isMatch_fraction,
      matchInTurn_end_iff]
  rw [divided]
  constructor
  · rintro ⟨gap, blank, whole, _, ⟨digits, ⟨ends, last⟩ | ⟨decimals, isDecimals, ending, ⟨ends, last⟩, rfl⟩⟩, split⟩
    · exact ⟨⟨gap, whole, _, blank, .whole digits, ends, split⟩, last⟩
    · exact ⟨⟨gap, whole ++ '.' :: decimals, ending, blank, .fraction digits isDecimals, ends, by simp [split]⟩, last⟩
  · rintro ⟨⟨gap, number, rest, blank, numeral, ends, split⟩, last⟩
    cases numeral with
    | whole digits => exact ⟨gap, blank, number, rest, ⟨digits, .inl ⟨ends, last⟩⟩, split⟩
    | @fraction whole decimals digits isDecimals =>
      exact ⟨gap, blank, whole, _, ⟨digits, .inr ⟨decimals, isDecimals, rest, ⟨ends, last⟩, rfl⟩⟩, by simp [split]⟩

end

theorem occurs_assignmentPattern_iff {code : List Char} : Pattern.Occurs code assignmentPattern ↔ Assigns code := by
  have divided : Pattern.Occurs code assignmentPattern ↔ ∃ part : Span, part.line = code ∧ part.before = [] ∧
      ∃ indent first others before after rest, (isBlank indent = true ∧ isNameStart first = true ∧
        (∀ char ∈ others, isWord char = true ∨ char = '.') ∧ isBlank before = true ∧ isBlank after = true ∧
        (EndsWithNumber rest ∧ part.after = [] ∨
          ∃ value, (EndsWithNumber value ∧ part.after = []) ∧ rest = '-' :: value)) ∧
        part.chars = indent ++ first :: (others ++ (before ++ '=' :: (after ++ rest))) := by
    simp [Pattern.occurs_iff, assignmentPattern, Pattern.isMatch_inTurn, Pattern.MatchInTurn,
      Pattern.isMatch_assertion, Pattern.isMatch_blanks, Pattern.isMatch_charIn, Pattern.isMatch_repeated,
      Pattern.isMatch_mark, Pattern.isMatch_optionalMark, matchInTurn_endingNumber_iff, contains_nameStarts,
      contains_memberChars, Pattern.Assertion.holds]
  rw [divided]
  constructor
  · rintro ⟨part, rfl, opens, indent, first, others, before, after, rest, ⟨blank, starts, name, blankBefore, blankAfter,
      value⟩, split⟩
    rcases value with ⟨ends, closes⟩ | ⟨value, ⟨ends, closes⟩, rfl⟩
    · exact ⟨indent, first, others, before, after, [], rest, blank, starts, name, blankBefore, blankAfter, .inl rfl, ends,
        by simp [Span.line, opens, closes, split]⟩
    · exact ⟨indent, first, others, before, after, ['-'], value, blank, starts, name, blankBefore, blankAfter, .inr rfl,
        ends, by simp [Span.line, opens, closes, split]⟩
  · rintro ⟨indent, first, others, before, after, sign, value, blank, starts, name, blankBefore, blankAfter, signed, ends,
      rfl⟩
    refine ⟨⟨[], _, []⟩, by simp [Span.line], rfl, indent, first, others, before, after, sign ++ value,
      ⟨blank, starts, name, blankBefore, blankAfter, ?_⟩, rfl⟩
    rcases signed with rfl | rfl
    · exact .inl ⟨ends, rfl⟩
    · exact .inr ⟨value, ⟨ends, rfl⟩, rfl⟩

def OperandEnds (before : List Char) : Prop :=
  ∃ char rest, Leads before char rest ∧ (isAlphanumeric char = true ∨ char ∈ ['_', ')', ']'])

/-- A number from its sign on, if it has one. A minus in front of the number is its sign unless an operand ends there. -/
inductive Signed (number : Span) : Span → Prop where
  | minus {gap earlier : List Char} : isBlank gap = true → number.before = gap ++ '-' :: earlier →
      ¬OperandEnds earlier → Signed number ⟨earlier, '-' :: (gap.reverse ++ number.chars), number.after⟩
  | plain : (∀ earlier, Leads number.before '-' earlier → OperandEnds earlier) → Signed number number

-- Brackets enclose the number up to white space.
def Enclosed (number : Span) : Prop :=
  (∃ rest, Leads number.before '[' rest) ∧ ∃ rest, Leads number.after ']' rest

theorem operandEnds_iff {before : List Char} : endsOperand before = true ↔ OperandEnds before := by
  simp only [OperandEnds, leads_iff, endsOperand]
  cases trimStart before with
  | nil => simp
  | cons char rest => simp [or_assoc]

theorem isIndex_iff {number : Span} : isIndex number = true ↔ Enclosed number := by
  simp only [Enclosed, leads_iff, isIndex, Bool.and_eq_true, beq_iff_eq, List.head?_eq_some_iff]

theorem signed_withSign (number : Span) : Signed number (withSign number) := by
  have split : number.before.takeWhile isSpace ++ trimStart number.before = number.before :=
    List.takeWhile_append_dropWhile
  unfold withSign
  split
  · rename_i earlier sign
    split
    · rename_i operand
      refine .plain fun other leads => ?_
      rw [leads_iff, sign] at leads
      cases leads
      exact operandEnds_iff.mp operand
    · rename_i operand
      rw [sign] at split
      exact .minus (isBlank_takeWhile _) split.symm fun ends => operand (operandEnds_iff.mpr ends)
  · rename_i other
    exact .plain fun earlier leads => absurd (leads_iff.mp leads) (other earlier)

theorem Signed.unique {number signed other : Span} (first : Signed number signed) (second : Signed number other) :
    signed = other := by
  have minus : isSpace '-' = false := by decide
  cases first with
  | @minus gap earlier blank split operand =>
    cases second with
    | @minus gapToo earlierToo blankToo splitToo _ =>
      have left := leads_iff.mp ⟨minus, gap, blank, split⟩
      have right := leads_iff.mp ⟨minus, gapToo, blankToo, splitToo⟩
      cases left.symm.trans right
      cases List.append_cancel_right (split.symm.trans splitToo)
      rfl
    | plain none => exact absurd (none earlier ⟨minus, gap, blank, split⟩) operand
  | plain none =>
    cases second with
    | minus blank split operand => exact absurd (none _ ⟨minus, _, blank, split⟩) operand
    | plain => rfl

theorem signed_iff {number signed : Span} : Signed number signed ↔ signed = withSign number := by
  constructor
  · intro found
    exact found.unique (signed_withSign number)
  · rintro rfl
    exact signed_withSign number

def Authorizes (rule : MagicNumber) (number : Span) : Prop :=
  ∃ value ∈ rule.authorized, Number.Double.ofText? (numberText number) = some value

def Allows (rule : MagicNumber) (number : Span) : Prop :=
  Authorizes rule number ∨ rule.allowIndexes = true ∧ Enclosed number

/-- What the rule reports of the numbers on a line: each of them that it does not allow, with its sign. -/
inductive ReportsNumbers (rule : MagicNumber) (number : Nat) : List Span → List Finding → Prop where
  | none : ReportsNumbers rule number [] []
  | allowed {plain signed : Span} {rest : List Span} {findings : List Finding} : Signed plain signed →
      Allows rule signed → ReportsNumbers rule number rest findings →
      ReportsNumbers rule number (plain :: rest) findings
  | reported {plain signed : Span} {rest : List Span} {findings : List Finding} : Signed plain signed →
      ¬Allows rule signed → ReportsNumbers rule number rest findings →
      ReportsNumbers rule number (plain :: rest)
        (signed.finding number [String.ofList (numberText signed)] :: findings)

/-- What the rule reports on a line: nothing on an assignment, and otherwise of the numbers that a scan finds. -/
inductive ReportsLine (rule : MagicNumber) (number : Nat) (line : List Char) : List Finding → Prop where
  | assignment : Assigns (maskedCode line) → ReportsLine rule number line []
  | scanned {numbers : List Span} {findings : List Finding} : ¬Assigns (maskedCode line) →
      Scans (maskedCode line) 0 numbers → ReportsNumbers rule number numbers findings →
      ReportsLine rule number line findings

/-- What the rule reports in a document: line by line. -/
def Reports (rule : MagicNumber) (document : Document) (findings : List Finding) : Prop :=
  ∃ groups, List.Forall₂ (fun numbered group => ReportsLine rule numbered.1 numbered.2 group) document.numberedLines groups ∧
    findings = groups.flatten

variable {rule : MagicNumber}

theorem isAuthorized_iff {number : Span} : rule.isAuthorized number = true ↔ Authorizes rule number := by
  unfold isAuthorized Authorizes
  cases Number.Double.ofText? (numberText number) <;> simp

theorem isMagic_iff {number : Span} : rule.isMagic number = true ↔ ¬Allows rule number := by
  rw [Allows, ← isAuthorized_iff, ← isIndex_iff, isMagic]
  cases rule.isAuthorized number <;> cases rule.allowIndexes <;> simp

theorem reportsNumbers_iff {number : Nat} {numbers : List Span} {findings : List Finding} :
    ReportsNumbers rule number numbers findings ↔
      findings = ((numbers.map withSign).filter rule.isMagic).map fun span =>
        span.finding number [String.ofList (numberText span)] := by
  constructor
  · intro reports
    induction reports with
    | none => rfl
    | allowed signed allows _ ih =>
      cases signed_iff.mp signed
      rw [ih, List.map_cons, List.filter_cons_of_neg (isMagic_iff.not.mpr (not_not.mpr allows))]
    | reported signed other _ ih =>
      cases signed_iff.mp signed
      rw [ih, List.map_cons, List.filter_cons_of_pos (isMagic_iff.mpr other), List.map_cons]
  · rintro rfl
    induction numbers with
    | nil => exact .none
    | cons plain rest ih =>
      by_cases allows : Allows rule (withSign plain)
      · rw [List.map_cons, List.filter_cons_of_neg (isMagic_iff.not.mpr (not_not.mpr allows))]
        exact .allowed (signed_withSign plain) allows ih
      · rw [List.map_cons, List.filter_cons_of_pos (isMagic_iff.mpr allows), List.map_cons]
        exact .reported (signed_withSign plain) allows ih

theorem reportsLine_iff {number : Nat} {line : List Char} {findings : List Finding} :
    ReportsLine rule number line findings ↔ findings = rule.checkLine number line := by
  unfold checkLine
  by_cases assigns : Assigns (maskedCode line)
  · rw [if_pos (isAssignment_iff.mpr assigns)]
    constructor
    · intro reports
      cases reports with
      | assignment => rfl
      | scanned other => exact absurd assigns other
    · rintro rfl
      exact .assignment assigns
  · rw [if_neg (isAssignment_iff.not.mpr assigns)]
    constructor
    · intro reports
      cases reports with
      | assignment assigned => exact absurd assigned assigns
      | scanned _ scans reports =>
        cases scans_iff.mp scans
        exact reportsNumbers_iff.mp reports
    · rintro rfl
      exact .scanned assigns (scans_iff.mpr rfl) (reportsNumbers_iff.mpr rfl)

theorem reports_iff {document : Document} {findings : List Finding} :
    Reports rule document findings ↔ findings = Rule.check rule document := by
  have lines (groups : List (List Finding)) : List.Forall₂ (fun numbered group =>
      ReportsLine rule numbered.1 numbered.2 group) document.numberedLines groups ↔
        document.numberedLines.map (fun numbered => rule.checkLine numbered.1 numbered.2) = groups := by
    rw [← List.forall₂_eq_eq_eq, List.forall₂_map_left_iff]
    simp only [reportsLine_iff, eq_comm]
  simp only [Reports, lines, exists_eq_left']
  rfl

/-- The rule considers every number once. Assignments are the lines in whose code the pattern for assignments occurs, and
the numbers of a line are what searches with the pattern for numbers find. -/
theorem check_considers_numbers (rule : MagicNumber) (document : Document) :
    (∀ findings, Reports rule document findings ↔ findings = Rule.check rule document) ∧
      ((Rule.check rule document).Pairwise fun earlier later => earlier.range.Precedes later.range) ∧
      ∃ assignment number : Pattern,
        Pattern.ofText? "^\\s*[\\p{L}_][\\w.]*\\s*=\\s*-?\\s*\\d+(?:\\.\\d+)?\\s*;?\\s*$".toList = some assignment ∧
        Pattern.ofText? "\\b\\d+(?:\\.\\d+)?\\b".toList = some number ∧ ∀ line ∈ document.lines,
          (Assigns (maskedCode line) ↔ (Pattern.search assignment (maskedCode line)).isSome = true) ∧
          ∀ numbers, Scans (maskedCode line) 0 numbers ↔
            Pattern.FindsAll number (.first (maskedCode line)) numbers := by
  refine ⟨fun _ => reports_iff, (checkLines_along document rule.checkLine_along).ordered, assignmentPattern,
    numberPattern, ofText?_assignmentPattern, ofText?_numberPattern, fun line _ => ⟨?_, fun numbers => ?_⟩⟩
  · rw [Pattern.search_isSome_iff, occurs_assignmentPattern_iff]
  · exact findsAll_numbers_iff.symm

end MagicNumber

end BslLint
