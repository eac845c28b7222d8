import BslLint.Proofs.Check.MagicNumbers

/-! When a minus belongs to the number that follows it. It does unless an operand ends in front of it; an operand that is
a string or a date does not count. -/

set_option autoImplicit false

namespace BslLint

namespace Source

/-- In front of a place, up to white space, a literal of the line ends with its quote. -/
def LiteralEnds (line before : List Char) : Prop :=
  ∃ quote rest passed behind, Text.Leads before quote rest ∧ line = passed ++ quote :: behind ∧
    passed.length = rest.length ∧ ((Literal.atLineStart line).past passed).delimiter? = some quote

/-- A number together with a minus, and the white space between them. -/
def Span.withMinus (number : Span) (gap earlier : List Char) : Span :=
  ⟨earlier, '-' :: (gap.reverse ++ number.chars), number.after⟩

theorem Literal.isDelimiter_of_delimiter? {literal : Literal} {quote : Char} (delimits : literal.delimiter? = some quote) :
    isDelimiter quote = true := by
  cases literal <;> cases delimits <;> rfl

end Source

namespace MagicNumber

open Source Text

variable {rule : MagicNumber} {document : Document}

theorem mem_check_iff {finding : Finding} : finding ∈ Rule.check rule document ↔
    ∃ index line number, document.lines[index]? = some line ∧ ¬Assigns (maskedCode line) ∧
      number ∈ numbersOf (words (maskedCode line)) ∧ ¬Allows rule (withSign number) ∧
        finding = (withSign number).finding index [String.ofList (numberText (withSign number))] := by
  have opened : Rule.check rule document = checkLines document rule.checkLine := rfl
  rw [opened, mem_checkLines]
  constructor
  · rintro ⟨index, line, there, known⟩
    unfold checkLine at known
    simp only at known
    split at known
    · cases known
    · rename_i assigns
      obtain ⟨signed, kept, rfl⟩ := List.mem_map.mp known
      obtain ⟨among, magic⟩ := List.mem_filter.mp kept
      obtain ⟨number, mem, rfl⟩ := List.mem_map.mp among
      exact ⟨index, line, number, there, isAssignment_iff.not.mp assigns, mem, isMagic_iff.mp magic, rfl⟩
  · rintro ⟨index, line, number, there, other, known, magic, rfl⟩
    refine ⟨index, line, there, ?_⟩
    unfold checkLine
    simp only
    rw [if_neg (isAssignment_iff.not.mpr other)]
    exact List.mem_map_of_mem (List.mem_filter.mpr ⟨List.mem_map_of_mem known, isMagic_iff.mpr magic⟩)

section

variable {index : Nat} {line : List Char} {numbers : List Span} {number : Span}
  (there : document.lines[index]? = some line) (other : ¬Assigns (maskedCode line))
  (scans : Scans (maskedCode line) 0 numbers) (mem : number ∈ numbers)
include there other scans mem

/-- A finding ends where a number does only if it reports that number. -/
theorem reported_iff {signed : Span} (signs : Signed number signed) (rule : MagicNumber) (finding : Finding) :
    finding ∈ Rule.check rule document ∧ finding.range.stop = ⟨index, number.stop⟩ ↔
      ¬Allows rule signed ∧ finding = signed.finding index [String.ofList (numberText signed)] := by
  cases signed_iff.mp signs
  cases scans_iff.mp scans
  rw [mem_check_iff]
  constructor
  · rintro ⟨⟨found, foundLine, foundNumber, foundThere, _, known, magic, rfl⟩, stop⟩
    obtain ⟨rfl, column⟩ := Position.mk.inj stop
    cases there.symm.trans foundThere
    -- A sign moves only the start, and no two numbers of a line stop in one column.
    have stops : foundNumber.stop = number.stop := (stop_withSign foundNumber).symm.trans column
    cases (numbersOf_placed (words_placed _)).eq_of_column known mem (.inr stops)
    exact ⟨magic, rfl⟩
  · rintro ⟨magic, rfl⟩
    refine ⟨⟨index, line, number, there, other, mem, magic, rfl⟩, ?_⟩
    exact congrArg (Position.mk index) (stop_withSign number)

end

/-- An operand of an expression ends in front of a place of a line: a name, a number, an enclosed expression, an element
of a collection, or a literal. -/
def OperandBefore (line before : List Char) : Prop :=
  OperandEnds before ∨ LiteralEnds line before

theorem not_operandEnds_of_literalEnds {line before : List Char} (ends : LiteralEnds line before) :
    ¬OperandEnds before := by
  obtain ⟨quote, rest, _, _, leads, _, _, delimits⟩ := ends
  rintro ⟨char, others, leadsToo, operand⟩
  -- Up to white space, only one character stands in front of a place.
  cases (leads_iff.mp leads).symm.trans (leads_iff.mp leadsToo)
  have plain : isAlphanumeric quote = false ∧ quote ∉ ['_', ')', ']'] := by
    have quoted : quote = '"' ∨ quote = '\'' := by
      simpa [isDelimiter] using Literal.isDelimiter_of_delimiter? delimits
    rcases quoted with rfl | rfl <;> decide +kernel
  rcases operand with letter | mark
  · rw [plain.1] at letter
    cases letter
  · exact plain.2 mark

theorem operandEnds_iff_operandBefore {line before : List Char} :
    OperandEnds before ↔ OperandBefore line before ∧ ¬LiteralEnds line before := by
  constructor
  · intro operand
    exact ⟨.inl operand, fun literal => not_operandEnds_of_literalEnds literal operand⟩
  · rintro ⟨operand | literal, other⟩
    · exact operand
    · exact absurd literal other

theorem Span.withMinus_ne {number : Span} {gap earlier : List Char} (minus : number.before = gap ++ '-' :: earlier) :
    number.withMinus gap earlier ≠ number := by
  intro same
  have before : earlier = gap ++ '-' :: earlier := (congrArg Span.before same).trans minus
  have length := congrArg List.length before
  rw [List.length_append, List.length_cons] at length
  omega

/-- The span that is taken for a number has the minus in front of the number exactly if no operand ends in front of the
minus, or the operand is a literal. What is taken is what is compared with the numbers that may stand anywhere, and what
is reported, with its text and its range. -/
theorem minus_belongs_iff {index : Nat} {line : List Char} {numbers : List Span} {number : Span}
    {gap earlier : List Char} (there : document.lines[index]? = some line) (other : ¬Assigns (maskedCode line))
    (scans : Scans (maskedCode line) 0 numbers) (mem : number ∈ numbers) (blank : isBlank gap = true)
    (minus : number.before = gap ++ '-' :: earlier) :
    ∃ taken, (∀ (rule : MagicNumber) finding,
        finding ∈ Rule.check rule document ∧ finding.range.stop = ⟨index, number.stop⟩ ↔
          ¬Allows rule taken ∧ finding = taken.finding index [String.ofList (numberText taken)]) ∧
      (taken = number.withMinus gap earlier ↔ ¬OperandBefore line earlier ∨ LiteralEnds line earlier) ∧
      (taken = number ↔ OperandBefore line earlier ∧ ¬LiteralEnds line earlier) := by
  have ends : OperandEnds earlier ↔ OperandBefore line earlier ∧ ¬LiteralEnds line earlier :=
    operandEnds_iff_operandBefore
  have belongs : (¬OperandBefore line earlier ∨ LiteralEnds line earlier) ↔ ¬OperandEnds earlier := by
    rw [ends, not_and_or, not_not]
  rw [belongs, ← ends]
  by_cases operand : OperandEnds earlier
  · have signs : Signed number number := by
      refine .plain fun others leads => ?_
      cases (leads_iff.mp leads).symm.trans (leads_iff.mp ⟨by decide, gap, blank, minus⟩)
      exact operand
    refine ⟨number, reported_iff there other scans mem signs, ?_, ?_⟩
    · exact iff_of_false (Span.withMinus_ne minus).symm (not_not.mpr operand)
    · exact iff_of_true rfl operand
  · refine ⟨number.withMinus gap earlier, reported_iff there other scans mem (.minus blank minus operand), ?_, ?_⟩
    · exact iff_of_true rfl operand
    · exact iff_of_false (Span.withMinus_ne minus) operand

/-- A minus in front of an argument. -/
theorem minus_belongs_iff_argument :
    let line := "Сдвиг(- 7, Б)".toList
    let document : Document := ⟨⟨"m.bsl"⟩, .bsl, line⟩
    let number : Span := ⟨" -(гивдС".toList, ['7'], ", Б)".toList⟩
    let earlier := "(гивдС".toList
    document.lines[0]? = some line ∧ ¬Assigns (maskedCode line) ∧ Scans (maskedCode line) 0 [number] ∧
      isBlank [' '] = true ∧ number.before = [' '] ++ '-' :: earlier ∧
      ∃ taken, (∀ (rule : MagicNumber) finding,
          finding ∈ Rule.check rule document ∧ finding.range.stop = ⟨0, number.stop⟩ ↔
            ¬Allows rule taken ∧ finding = taken.finding 0 [String.ofList (numberText taken)]) ∧
        (taken = number.withMinus [' '] earlier ↔ ¬OperandBefore line earlier ∨ LiteralEnds line earlier) ∧
        (taken = number ↔ OperandBefore line earlier ∧ ¬LiteralEnds line earlier) := by
  intro line document number earlier
  have there : document.lines[0]? = some line := by decide
  have other : ¬Assigns (maskedCode line) := isAssignment_iff.not.mp (by decide +kernel)
  have scans : Scans (maskedCode line) 0 [number] := scans_iff.mpr (by decide +kernel)
  have blank : isBlank [' '] = true := by decide
  exact ⟨there, other, scans, blank, rfl,
    minus_belongs_iff there other scans (List.mem_singleton_self number) blank rfl⟩

/-- A number is taken off a date, and the minus is reported with the number although an operand ends in front of it. -/
theorem minus_belongs_after_date :
    let line := "Итог = '20240101' - 86400;".toList
    let document : Document := ⟨⟨"m.bsl"⟩, .bsl, line⟩
    let number : Span := ⟨" - '        ' = готИ".toList, "86400".toList, [';']⟩
    let earlier := " '        ' = готИ".toList
    document.lines[0]? = some line ∧ ¬Assigns (maskedCode line) ∧ Scans (maskedCode line) 0 [number] ∧
      number.before = [' '] ++ '-' :: earlier ∧ OperandBefore line earlier ∧
      Rule.check standard document = [⟨.onLine 0 18 25, ["-86400"]⟩] := by
  intro line document number earlier
  have ends : LiteralEnds line earlier :=
    ⟨'\'', "        ' = готИ".toList, "Итог = '20240101".toList, " - 86400;".toList,
      leads_iff.mpr (by decide +kernel), by decide +kernel, by decide +kernel, by decide +kernel⟩
  exact ⟨by decide, isAssignment_iff.not.mp (by decide +kernel), scans_iff.mpr (by decide +kernel), by decide,
    .inr ends, by decide +kernel⟩

end MagicNumber

end BslLint
