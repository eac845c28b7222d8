import BslLint.Check.CommentedCode
import BslLint.Proofs.Pattern.Names
import BslLint.Proofs.Pattern.Parts

/-! Texts that look like code. An expression describes assignments, calls, annotations and the headers of blocks; besides
those, texts count that end with a semicolon or start with a keyword. -/

set_option autoImplicit false

namespace BslLint.CommentedCode

open Pattern (Occurs)
open Source Text

-- The expression. White space and comments in it count for nothing.
def statementText : List Char :=
  "(?x)\n            ^[\\p{L}_][\\w.]*\\s*=\\s*\\S         # assignment\n".toList ++
  "            | ^[\\p{L}_][\\w.]*\\s*\\(.*\\)\\s*;?$  # call\n".toList ++
  "            | ^[&\\#][\\p{L}]                   # annotation or preprocessor\n".toList ++
  "            | (?i:\\b(тогда|цикл|then|do))$    # block header\n            ".toList

def assignmentPattern : Pattern :=
  .inTurn .empty [.assertion .textStart, .charIn nameStarts, .repeated (.charIn memberChars) 0 none true, .blanks,
    .mark '=', .blanks, .charIn (.complement .spaces)]

def callPattern : Pattern :=
  .inTurn (.assertion .textStart) [.charIn nameStarts, .repeated (.charIn memberChars) 0 none true, .blanks, .mark '(',
    .repeated (.charIn (.complement (.among ['\n']))) 0 none true, .mark ')', .blanks, .optionalMark ';',
    .assertion .textEnd]

def directivePattern : Pattern :=
  .inTurn (.assertion .textStart) [.charIn (.union (.among ['&']) (.union (.among ['#']) .none)),
    .charIn (.union (.bounds letterBounds) .none)]

def headerPattern : Pattern :=
  .inTurn (.assertion (.boundary .any false)) [.marked (.either (Pattern.wordOf "тогда".toList)
    (.either (Pattern.wordOf "цикл".toList) (.either (Pattern.wordOf "then".toList) (Pattern.wordOf "do".toList)))),
    .assertion .textEnd]

def statementPattern : Pattern :=
  .either assignmentPattern (.either callPattern (.either directivePattern headerPattern))

theorem ofText?_statementPattern : Pattern.ofText? statementText = some statementPattern := by
  decide +kernel

/-- A name with its members, a mark behind it, perhaps after white space, and the rest. -/
def NameThen (mark : Char) (text rest : List Char) : Prop :=
  ∃ first members gap, isNameStart first = true ∧ (∀ char ∈ members, isWord char = true ∨ char = '.') ∧
    isBlank gap = true ∧ text = first :: (members ++ (gap ++ mark :: rest))

variable {text rest : List Char} {mark : Char}

theorem afterName?_eq_some_iff (visible : isSpace mark = false) (apart : (isWord mark || mark == '.') = false) :
    afterName? text = some (mark :: rest) ↔ NameThen mark text rest := by
  unfold NameThen
  cases text with
  | nil => simp [afterName?]
  | cons first others =>
    rw [afterName?]
    split
    · rename_i starts
      rw [Option.some.injEq, ← leads_iff, leads_members_iff visible apart]
      simp [starts]
    · rename_i other
      simp [other]

theorem isAssignment_iff : isAssignment text = true ↔ ∃ value, NameThen '=' text value ∧ isBlank value = false := by
  have visible : isSpace '=' = false := by decide
  have apart : (isWord '=' || '=' == '.') = false := by decide
  simp only [← afterName?_eq_some_iff visible apart]
  unfold isAssignment
  split
  · rename_i value read
    simp [read]
  · rename_i other
    simpa using fun value read => absurd read (other value)

theorem isCall_iff : isCall text = true ↔ ∃ inside, NameThen '(' text (inside ++ [')']) := by
  have visible : isSpace '(' = false := by decide
  have apart : (isWord '(' || '(' == '.') = false := by decide
  simp only [← afterName?_eq_some_iff visible apart]
  unfold isCall
  split
  · rename_i rest read
    simp [read, List.getLast?_eq_some_iff]
  · rename_i other
    simpa using fun inside read => absurd read (other _)

theorem occurs_assignment_iff :
    Occurs text assignmentPattern ↔ ∃ value, NameThen '=' text value ∧ isBlank value = false := by
  have divided : Occurs text assignmentPattern ↔ ∃ part : Span, part.line = text ∧ ∃ first members gap behind last,
      (part.before = [] ∧ isNameStart first = true ∧ (∀ char ∈ members, isWord char = true ∨ char = '.') ∧
        isBlank gap = true ∧ isBlank behind = true ∧ isSpace last = false) ∧
      part.chars = first :: (members ++ (gap ++ '=' :: (behind ++ [last]))) := by
    simp [Pattern.occurs_iff, assignmentPattern, Pattern.isMatch_inTurn, Pattern.MatchInTurn, Pattern.isMatch_empty,
      Pattern.isMatch_assertion, Pattern.isMatch_blanks, Pattern.isMatch_charIn, Pattern.isMatch_repeated,
      Pattern.isMatch_mark, contains_nameStarts, contains_memberChars, Pattern.Assertion.holds,
      Pattern.CharSet.contains, ← Pattern.CharSet.contains_spaces]
  simp only [divided, isBlank_eq_false_iff]
  constructor
  · rintro ⟨part, rfl, first, members, gap, behind, last, ⟨opens, starts, all, blank, blankToo, visible⟩, chars⟩
    exact ⟨behind ++ last :: part.after, ⟨first, members, gap, starts, all, blank, by simp [Span.line, opens, chars]⟩,
      last, part.after, visible, behind, blankToo, rfl⟩
  · rintro ⟨_, ⟨first, members, gap, starts, all, blank, rfl⟩, last, rest, visible, behind, blankToo, rfl⟩
    exact ⟨⟨[], _, rest⟩, by simp [Span.line], first, members, gap, behind, last,
      ⟨rfl, starts, all, blank, blankToo, visible⟩, rfl⟩

theorem occurs_call_iff : Occurs text callPattern ↔ ∃ inside gap semicolon, '\n' ∉ inside ∧ isBlank gap = true ∧
    (semicolon = [] ∨ semicolon = [';']) ∧ NameThen '(' text (inside ++ ')' :: (gap ++ semicolon)) := by
  have divided : Occurs text callPattern ↔ ∃ part : Span, part.line = text ∧ part.before = [] ∧
      ∃ first members gap inside behind semicolon,
        (isNameStart first = true ∧ (∀ char ∈ members, isWord char = true ∨ char = '.') ∧ isBlank gap = true ∧
          (∀ char ∈ inside, ¬char = '\n') ∧ isBlank behind = true ∧
          (part.after = [] ∧ semicolon = [] ∨ part.after = [] ∧ semicolon = [';'])) ∧
        part.chars = first :: (members ++ (gap ++ '(' :: (inside ++ ')' :: (behind ++ semicolon)))) := by
    simp [Pattern.occurs_iff, callPattern, Pattern.isMatch_inTurn, Pattern.MatchInTurn, Pattern.isMatch_assertion,
      Pattern.isMatch_blanks, Pattern.isMatch_charIn, Pattern.isMatch_repeated, Pattern.isMatch_mark,
      Pattern.isMatch_optionalMark, contains_nameStarts, contains_memberChars, Pattern.Assertion.holds,
      Pattern.CharSet.contains]
  rw [divided]
  constructor
  · rintro ⟨part, rfl, opens, first, members, gap, inside, behind, semicolon,
      ⟨starts, all, blank, plain, blankToo, ends⟩, chars⟩
    rw [← and_or_left] at ends
    exact ⟨inside, behind, semicolon, fun feed => plain _ feed rfl, blankToo, ends.2, first, members, gap, starts, all,
      blank, by simp [Span.line, opens, chars, ends.1]⟩
  · rintro ⟨inside, behind, semicolon, plain, blankToo, ends, first, members, gap, starts, all, blank, rfl⟩
    refine ⟨⟨[], _, []⟩, by simp [Span.line], rfl, first, members, gap, inside, behind, semicolon,
      ⟨starts, all, blank, fun char mem feed => plain (feed ▸ mem), blankToo, ?_⟩, rfl⟩
    rw [← and_or_left]
    exact ⟨rfl, ends⟩

/-- What ends with a semicolon aside, a call ends with its parenthesis. -/
theorem isCall_or_iff (ends : ∀ char ∈ text.getLast?, isSpace char = false) (plain : '\n' ∉ text) :
    text.getLast? = some ';' ∨ isCall text = true ↔ text.getLast? = some ';' ∨ Occurs text callPattern := by
  rw [isCall_iff, occurs_call_iff]
  constructor
  · rintro (semicolon | ⟨inside, call⟩)
    · exact .inl semicolon
    · refine .inr ⟨inside, [], [], fun feed => plain ?_, rfl, .inl rfl, call⟩
      obtain ⟨first, members, gap, _, _, _, rfl⟩ := call
      simp [feed]
  · rintro (semicolon | ⟨inside, gap, semicolon, _, blank, isSemicolon, call⟩)
    · exact .inl semicolon
    · obtain ⟨first, members, before, starts, all, blankToo, rfl⟩ := call
      rcases isSemicolon with rfl | rfl
      · right
        rcases List.eq_nil_or_concat gap with rfl | ⟨earlier, last, rfl⟩
        · exact ⟨inside, first, members, before, starts, all, blankToo, by simp⟩
        · -- the text would end with white space
          have space : isSpace last = true := isSpace_of_mem_blank blank (by simp)
          have visible := ends last (by simp [List.getLast?_cons, List.getLast?_append])
          rw [space] at visible
          cases visible
      · left
        simp [List.getLast?_cons, List.getLast?_append]

theorem occurs_directive_iff : Occurs text directivePattern ↔ isDirective text = true := by
  have divided : Occurs text directivePattern ↔ ∃ part : Span, part.line = text ∧ part.before = [] ∧
      ((∃ char, within letterBounds char.toNat = true ∧ part.chars = ['&', char]) ∨
        ∃ char, within letterBounds char.toNat = true ∧ part.chars = ['#', char]) := by
    simp [Pattern.occurs_iff, directivePattern, Pattern.isMatch_inTurn, Pattern.MatchInTurn,
      Pattern.isMatch_assertion, Pattern.isMatch_charIn, Pattern.Assertion.holds, Pattern.CharSet.contains,
      Pattern.CharSet.none]
  have opened : isDirective text = true ↔
      ∃ mark letter rest, text = mark :: letter :: rest ∧ (mark = '&' ∨ mark = '#') ∧ isLetter letter = true := by
    unfold isDirective
    split
    · simp
    · rename_i short
      simpa using fun mark letter rest split => absurd split (short mark letter rest)
  rw [divided, opened]
  constructor
  · rintro ⟨part, rfl, opens, ⟨char, letter, chars⟩ | ⟨char, letter, chars⟩⟩
    · exact ⟨'&', char, part.after, by simp [Span.line, opens, chars], .inl rfl, letter⟩
    · exact ⟨'#', char, part.after, by simp [Span.line, opens, chars], .inr rfl, letter⟩
  · rintro ⟨_, letter, rest, rfl, rfl | rfl, isLetter⟩
    · exact ⟨⟨[], ['&', letter], rest⟩, rfl, rfl, .inl ⟨letter, isLetter, rfl⟩⟩
    · exact ⟨⟨[], ['#', letter], rest⟩, rfl, rfl, .inr ⟨letter, isLetter, rfl⟩⟩

theorem endsWithWord_iff {word : String} : endsWithWord text word = true ↔ ∃ before written : List Char,
    text = before.reverse ++ written ∧ written.map fold = word.toList.map fold ∧
      ∀ char ∈ before.head?, isWord char = false := by
  have edge (before : List Char) :
      (!before.head?.any isWord) = true ↔ ∀ char ∈ before.head?, isWord char = false := by
    cases before <;> simp
  unfold endsWithWord
  simp only [Bool.and_eq_true, foldEq, beq_iff_eq, List.map_reverse, edge]
  constructor
  · rintro ⟨same, apart⟩
    refine ⟨_, (text.reverse.take word.toList.reverse.length).reverse, ?_, ?_, apart⟩
    · rw [← List.reverse_append, List.take_append_drop, List.reverse_reverse]
    · rw [List.map_reverse, same, List.reverse_reverse]
  · rintro ⟨before, written, rfl, same, apart⟩
    have counted : word.toList.reverse.length = written.reverse.length := by
      simpa using (congrArg List.length same).symm
    rw [counted, List.reverse_append, List.reverse_reverse, List.take_left, List.drop_left, List.map_reverse, same]
    exact ⟨rfl, apart⟩

theorem letters_of_mem_headerEnds : ∀ word ∈ headerEnds, word.toList ≠ [] ∧ word.toList.all isWord = true := by
  decide +kernel

theorem occurs_header_iff : Occurs text headerPattern ↔ headerEnds.any (endsWithWord text) = true := by
  have divided : Occurs text headerPattern ↔ ∃ part : Span, part.line = text ∧
      (Pattern.Assertion.boundary .any false).holds part.before (part.chars ++ part.after) = true ∧
      (∃ word ∈ headerEnds, part.chars.map fold = word.toList.map fold) ∧ part.after = [] := by
    simp [Pattern.occurs_iff, headerPattern, Pattern.isMatch_inTurn, Pattern.MatchInTurn, Pattern.isMatch_marked,
      Pattern.isMatch_either, Pattern.isMatch_wordOf, Pattern.isMatch_assertion, headerEnds, Pattern.Assertion.holds]
  have boundary {word : String} (known : word ∈ headerEnds) {before written : List Char}
      (same : written.map fold = word.toList.map fold) : (Pattern.Assertion.boundary .any false).holds before written = true ↔
        ∀ char ∈ before.head?, isWord char = false := by
    obtain ⟨nonempty, letters⟩ := letters_of_mem_headerEnds word known
    obtain ⟨some, isWord⟩ := isWord_of_fold_eq nonempty letters same
    obtain ⟨first, rest, rfl⟩ := List.exists_cons_of_ne_nil some
    exact Pattern.holds_boundary_iff rfl (isWord first List.mem_cons_self)
  simp only [divided, List.any_eq_true, endsWithWord_iff]
  constructor
  · rintro ⟨part, rfl, opens, ⟨word, known, same⟩, closes⟩
    rw [closes, List.append_nil] at opens
    exact ⟨word, known, part.before, part.chars, by simp [Span.line, closes], same, (boundary known same).mp opens⟩
  · rintro ⟨word, known, before, written, rfl, same, apart⟩
    refine ⟨⟨before, written, []⟩, by simp [Span.line], ?_, ⟨word, known, same⟩, rfl⟩
    rw [List.append_nil]
    exact (boundary known same).mpr apart

/-- Besides the semicolon and the keywords, the expression decides which texts look like code. -/
theorem looksLikeCode_iff (ends : ∀ char ∈ text.getLast?, isSpace char = false) (plain : '\n' ∉ text) :
    looksLikeCode text = true ↔ text.getLast? = some ';' ∨ (statementPattern.search text).isSome = true ∨
      keywords.contains (firstWord text) = true := by
  have found : (statementPattern.search text).isSome = true ↔ isAssignment text = true ∨ Occurs text callPattern ∨
      isDirective text = true ∨ headerEnds.any (endsWithWord text) = true := by
    rw [Pattern.search_isSome_iff, isAssignment_iff, ← occurs_assignment_iff, ← occurs_directive_iff, ← occurs_header_iff]
    simp only [statementPattern, Pattern.occurs_iff, Pattern.isMatch_either, and_or_left, exists_or]
  have call := isCall_or_iff ends plain
  rw [looksLikeCode, found]
  by_cases semicolon : text.getLast? = some ';'
  · simp [semicolon]
  · simp only [semicolon, false_or] at call
    simp [semicolon, call, or_assoc]

end BslLint.CommentedCode
