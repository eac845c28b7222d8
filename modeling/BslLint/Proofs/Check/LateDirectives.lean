import BslLint.Pattern.Reader
import BslLint.Proofs.Check.EmptyLines
import BslLint.Proofs.Check.Extent
import BslLint.Proofs.Pattern.Words
import BslLint.Proofs.Source.Comments

/-! Directives that come too late. A line is blank, a directive or other code by what precedes its comment, and a
directive is late as soon as any line before it is other code. -/

set_option autoImplicit false

namespace BslLint.DirectivePosition

open Source Document

def Blank (line : List Char) : Prop :=
  ∀ char ∈ codeOf line, Text.isSpace char = true

inductive IsComment : List Char → Prop where
  | comment {gap text : List Char} : Text.isBlank gap = true → IsComment (gap ++ '/' :: '/' :: text)

/-- A text that loads a library: after the mark comes one of the words, in any case, and a word ends there. -/
inductive Loads : List Char → Prop where
  | word {word : String} {written rest : List Char} : word ∈ useWords →
      written.map Text.fold = word.toList.map Text.fold →
      (Pattern.Assertion.boundary .any false).holds written.reverse rest = true → Loads ('#' :: (written ++ rest))

structure IsDirective (line : List Char) (directive : Span) : Prop where
  part : directive.line = line
  code : ∃ trailing, Text.isBlank trailing = true ∧
    codeOf line = directive.before.reverse ++ (directive.chars ++ trailing)
  indented : Text.isBlank directive.before = true
  trimmed : ∀ char ∈ directive.chars.getLast?, Text.isSpace char = false
  loads : Loads directive.chars

structure OtherCode (line : List Char) : Prop where
  filled : ¬Blank line
  plain : ∀ directive, ¬IsDirective line directive

variable {line : List Char} {directive : Span}

theorem IsComment.blank (isComment : IsComment line) : Blank line := by
  obtain @⟨gap, text, blank⟩ := isComment
  have starts : Literal.atLineStart (gap ++ '/' :: '/' :: text) = .none := by
    rw [Literal.atLineStart, Text.trimStart_blank_append blank, Text.trimStart_cons (by decide)]
    rfl
  have outside : Literal.none.past gap = .none := by
    have plain : ∀ char ∈ gap, isDelimiter char = false := fun char mem => by
      have space := List.all_eq_true.mp blank char mem
      have differs {other : Char} (visible : Text.isSpace other = false) : char ≠ other := by
        rintro rfl
        rw [visible] at space
        cases space
      rw [isDelimiter, Bool.or_eq_false_iff, beq_eq_false_iff_ne, beq_eq_false_iff_ne]
      exact ⟨differs (by decide), differs (by decide)⟩
    clear blank starts
    induction gap with
    | nil => rfl
    | cons char rest ih =>
      obtain ⟨own, plain⟩ := List.forall_mem_cons.mp plain
      rw [Literal.past, List.foldl_cons, step_none own]
      exact ih plain
  rw [← starts] at outside
  obtain ⟨code, comment, split, short⟩ := exists_comment_of_marks ⟨rfl, outside.trans starts⟩
  have own : codeOf (gap ++ '/' :: '/' :: text) = code := congrArg Prod.fst split
  have part : code <+: gap := by
    rw [← own] at short ⊢
    exact List.prefix_of_prefix_length_le (codeOf_prefix_line _) (List.prefix_append _ _) short
  intro char mem
  rw [own] at mem
  exact List.all_eq_true.mp blank char (part.subset mem)

theorem letters_of_mem_useWords {word : String} (known : word ∈ useWords) :
    word.toList ≠ [] ∧ word.toList.all Text.isWord = true := by
  rcases List.mem_pair.mp known with rfl | rfl
  · exact ⟨by decide, by decide +kernel⟩
  · exact ⟨by decide, by decide +kernel⟩

theorem isWord_of_fold_eq {word : String} (known : word ∈ useWords) {written : List Char}
    (same : written.map Text.fold = word.toList.map Text.fold) :
    written ≠ [] ∧ ∀ char ∈ written, Text.isWord char = true := by
  obtain ⟨nonempty, letters⟩ := letters_of_mem_useWords known
  exact Text.isWord_of_fold_eq nonempty letters same

/-- Behind a word character a boundary is where no word character follows. -/
theorem boundary_holds_iff {written rest : List Char} (nonempty : written ≠ [])
    (word : ∀ char ∈ written, Text.isWord char = true) :
    (Pattern.Assertion.boundary .any false).holds written.reverse rest = true ↔ rest.head?.any Text.isWord = false := by
  have last : written.reverse.head?.any Text.isWord = true := by
    rw [List.head?_reverse, List.getLast?_eq_some_getLast nonempty, Option.any_some]
    exact word _ (List.getLast_mem nonempty)
  unfold Pattern.Assertion.holds
  simp only [Pattern.Boundary.holds, Bool.false_eq_true, if_false, last]
  cases rest.head?.any Text.isWord <;> decide

theorem beginsWithWord_iff {text : List Char} {word : String} (known : word ∈ useWords) :
    beginsWithWord text word = true ↔ ∃ written rest, text = written ++ rest ∧
      written.map Text.fold = word.toList.map Text.fold ∧
      (Pattern.Assertion.boundary .any false).holds written.reverse rest = true := by
  rw [beginsWithWord, Bool.and_eq_true, Bool.not_eq_true', Text.foldEq, beq_iff_eq]
  constructor
  · rintro ⟨same, ends⟩
    obtain ⟨nonempty, letters⟩ := isWord_of_fold_eq known same
    exact ⟨_, _, (List.take_append_drop _ _).symm, same, (boundary_holds_iff nonempty letters).mpr ends⟩
  · rintro ⟨written, rest, rfl, same, ends⟩
    obtain ⟨nonempty, letters⟩ := isWord_of_fold_eq known same
    have counted : written.length = word.length := by
      simpa only [List.length_map, String.length_toList] using congrArg List.length same
    rw [← counted, List.take_left, List.drop_left]
    exact ⟨same, (boundary_holds_iff nonempty letters).mp ends⟩

theorem loads_iff {text : List Char} : Loads ('#' :: text) ↔ useWords.any (beginsWithWord text) = true := by
  rw [List.any_eq_true]
  constructor
  · intro loads
    cases loads with
    | word known same ends => exact ⟨_, known, (beginsWithWord_iff known).mpr ⟨_, _, rfl, same, ends⟩⟩
  · rintro ⟨word, known, begins⟩
    obtain ⟨written, rest, rfl, same, ends⟩ := (beginsWithWord_iff known).mp begins
    exact .word known same ends

theorem blank_iff_trim : Blank line ↔ Text.trim (codeOf line) = [] := by
  rw [Text.trim_eq_nil_iff, Text.isBlank, List.all_eq_true, Blank]

theorem takeWhile_indent {gap inner trailing : List Char} (blank : Text.isBlank gap = true)
    (starts : ∃ first rest, inner = first :: rest ∧ Text.isSpace first = false) :
    (gap ++ (inner ++ trailing)).takeWhile Text.isSpace = gap := by
  obtain ⟨first, rest, rfl, visible⟩ := starts
  have stops : ∀ char ∈ (first :: rest ++ trailing).head?, Text.isSpace char = false := by
    rintro _ ⟨⟩
    exact visible
  rw [List.takeWhile_append_of_pos (List.all_eq_true.mp blank), Text.takeWhile_of_head? stops, List.append_nil]

theorem Loads.starts {text : List Char} (loads : Loads text) :
    ∃ first rest, text = first :: rest ∧ Text.isSpace first = false := by
  cases loads with
  | word => exact ⟨'#', _, rfl, by decide⟩

/-- A line holds a directive if its code, without the white space around it, loads a library. -/
theorem isDirective_iff : IsDirective line directive ↔ Loads (Text.trim (codeOf line)) ∧
    directive = ⟨((codeOf line).takeWhile Text.isSpace).reverse, Text.trim (codeOf line),
      line.drop (((codeOf line).takeWhile Text.isSpace).length + (Text.trim (codeOf line)).length)⟩ := by
  constructor
  · rintro ⟨part, ⟨trailing, blank, code⟩, indented, trimmed, loads⟩
    have indent : Text.isBlank directive.before.reverse = true := by rwa [Text.isBlank, List.all_reverse]
    have chars : Text.trim (codeOf line) = directive.chars := by
      refine Text.trim_eq_iff.mpr ⟨⟨_, trailing, indent, blank, code⟩, ?_, trimmed⟩
      obtain ⟨first, rest, whole, visible⟩ := loads.starts
      rw [whole]
      rintro _ ⟨⟩
      exact visible
    have after : directive.after = line.drop directive.stop := part ▸ directive.after_eq
    rw [chars, code, takeWhile_indent indent loads.starts, List.reverse_reverse, List.length_reverse]
    exact ⟨loads, by rw [← Span.stop, ← after]⟩
  · rintro ⟨loads, rfl⟩
    obtain ⟨⟨gap, trailing, indent, blank, code⟩, _, trimmed⟩ := Text.trim_eq_iff.mp (rfl : Text.trim (codeOf line) = _)
    have written : (codeOf line).takeWhile Text.isSpace = gap := by
      rw [code]
      exact takeWhile_indent indent loads.starts
    refine ⟨?_, ⟨trailing, blank, ?_⟩, ?_, trimmed, loads⟩
    · have split := List.prefix_iff_eq_append.mp (indent_append_trim_prefix_line line)
      rw [List.length_append] at split
      rw [Span.line, List.reverse_reverse]
      exact split
    · rw [written, List.reverse_reverse]
      exact code
    · rw [written, Text.isBlank, List.all_reverse]
      exact indent

theorem IsDirective.unique {other : Span} (isDirective : IsDirective line directive)
    (isOther : IsDirective line other) : directive = other :=
  (isDirective_iff.mp isDirective).2.trans (isDirective_iff.mp isOther).2.symm

theorem IsDirective.not_blank (isDirective : IsDirective line directive) : ¬Blank line := by
  rw [blank_iff_trim]
  intro none
  obtain ⟨_, _, some, _⟩ := (isDirective_iff.mp isDirective).1.starts
  cases none.symm.trans some

theorem kindOf_cases (line : List Char) : (Blank line ∧ kindOf line = .blank) ∨
    (∃ directive, IsDirective line directive ∧ kindOf line = .directive directive) ∨
      (OtherCode line ∧ kindOf line = .statement) := by
  have other (first : Char) (rest : List Char) (trimmed : Text.trim (codeOf line) = first :: rest)
      (none : ¬Loads (first :: rest)) : OtherCode line := by
    refine ⟨fun blank => ?_, fun directive isDirective => none ?_⟩
    · cases trimmed.symm.trans (blank_iff_trim.mp blank)
    · exact trimmed ▸ (isDirective_iff.mp isDirective).1
  unfold kindOf
  simp only
  split
  · rename_i none
    exact .inl ⟨blank_iff_trim.mpr none, rfl⟩
  · rename_i rest trimmed
    split
    · rename_i loads
      refine .inr (.inl ⟨_, isDirective_iff.mpr ⟨trimmed ▸ loads_iff.mpr loads, ?_⟩, rfl⟩)
      rw [trimmed, List.length_cons, Nat.add_assoc]
    · rename_i none
      exact .inr (.inr ⟨other _ _ trimmed fun loads => none (loads_iff.mp loads), rfl⟩)
  · rename_i first rest differs trimmed
    refine .inr (.inr ⟨other _ _ trimmed fun loads => ?_, rfl⟩)
    cases loads with
    | word => exact differs rfl

theorem kindOf_eq_directive_iff : kindOf line = .directive directive ↔ IsDirective line directive := by
  rcases kindOf_cases line with ⟨blank, kind⟩ | ⟨own, isDirective, kind⟩ | ⟨other, kind⟩
  · exact iff_of_false (by rw [kind]; nofun) fun isDirective => isDirective.not_blank blank
  · rw [kind, LineKind.directive.injEq]
    exact ⟨fun same => same ▸ isDirective, fun isOther => isDirective.unique isOther⟩
  · exact iff_of_false (by rw [kind]; nofun) (other.plain directive)

theorem kindOf_eq_statement_iff : kindOf line = .statement ↔ OtherCode line := by
  rcases kindOf_cases line with ⟨blank, kind⟩ | ⟨own, isDirective, kind⟩ | ⟨other, kind⟩
  · exact iff_of_false (by rw [kind]; nofun) fun other => other.filled blank
  · exact iff_of_false (by rw [kind]; nofun) fun other => other.plain own isDirective
  · exact iff_of_true kind other

/-- White space at the start of a text, the mark, and one of the words up to a boundary. -/
def directivePattern : Pattern :=
  .sequence (.sequence (.sequence (.sequence (.sequence .empty (.assertion .textStart))
    (.repeated (.charIn .spaces) 0 none true)) (.charIn (.among (Text.caseVariants '#'))))
    (.marked (.either (Pattern.wordOf "использовать".toList) (Pattern.wordOf "use".toList))))
    (.assertion (.boundary .any false))

theorem ofText?_directivePattern :
    Pattern.ofText? "(?i)^\\s*#(использовать|use)\\b".toList = some directivePattern := by
  decide +kernel

theorem matches_words_iff {text : List Char} {start stop : Nat} : Pattern.Matches text
      (.marked (.either (Pattern.wordOf "использовать".toList) (Pattern.wordOf "use".toList))) start stop ↔
    ∃ word ∈ useWords, ∃ written, written.map Text.fold = word.toList.map Text.fold ∧ written <+: text.drop start ∧
      stop = start + written.length := by
  simp only [Pattern.Matches, Pattern.matches_wordOf_iff, useWords, List.mem_cons, List.not_mem_nil, or_false,
    exists_eq_or_imp, exists_eq_left]

theorem boundary_holds_at {ahead written rest : List Char} {stop : Nat} (nonempty : written ≠ [])
    (counted : stop = (ahead ++ written).length) :
    (Pattern.Assertion.boundary .any false).holds ((ahead ++ written ++ rest).take stop).reverse
        ((ahead ++ written ++ rest).drop stop) =
      (Pattern.Assertion.boundary .any false).holds written.reverse rest := by
  rw [counted, List.take_left, List.drop_left]
  unfold Pattern.Assertion.holds
  simp only [List.head?_reverse, List.getLast?_append_of_ne_nil _ nonempty]

-- The pattern occurs at the start of a text or nowhere.
theorem occurs_directivePattern_iff {text : List Char} : Pattern.Occurs text directivePattern ↔
    ∃ gap directive, text = gap ++ directive ∧ Text.isBlank gap = true ∧ Loads directive := by
  have marks (char : Char) : (Pattern.CharSet.among (Text.caseVariants '#')).contains char = true ↔ char = '#' := by
    rw [show Text.caseVariants '#' = ['#'] by decide +kernel]
    exact List.contains_iff_mem.trans List.mem_singleton
  have length (gap written : List Char) : 0 + gap.length + 1 + written.length = (gap ++ ['#'] ++ written).length := by
    simp only [List.length_append, List.length_singleton, Nat.zero_add]
  have parts (gap written text : List Char) : gap ++ ['#'] ++ written <+: text ↔
      gap <+: text.drop 0 ∧ ['#'] <+: text.drop (0 + gap.length) ∧ written <+: text.drop (0 + gap.length + 1) := by
    have whole : gap ++ ['#'] ++ written <+: text ↔ gap ++ (['#'] ++ written) <+: text.drop 0 := by
      rw [List.append_assoc, List.drop_zero]
    rw [whole, Pattern.append_prefix_drop_iff, Pattern.append_prefix_drop_iff, List.length_singleton]
  constructor
  · rintro ⟨start, _, inside, stop, ⟨middle, ⟨_, ⟨_, ⟨_, rfl, rfl, starts⟩, spaces⟩, mark⟩, words⟩, rfl, ends⟩
    obtain rfl : start = 0 := by
      have none : text.take start = [] := by simpa [Pattern.Assertion.holds] using starts
      rcases List.take_eq_nil_iff.mp none with zero | rfl
      · exact zero
      · exact Nat.le_zero.mp inside
    obtain ⟨gap, _, blank, here, rfl⟩ := Pattern.matches_repeated_iff.mp spaces
    obtain ⟨char, isMark, next, rfl⟩ := Pattern.matches_charIn_iff.mp mark
    obtain ⟨word, known, written, same, last, rfl⟩ := matches_words_iff.mp words
    obtain rfl := (marks char).mp isMark
    obtain ⟨rest, rfl⟩ := (parts gap written text).mpr ⟨here, next, last⟩
    rw [boundary_holds_at (isWord_of_fold_eq known same).1 (length gap written)] at ends
    exact ⟨gap, '#' :: (written ++ rest), by simp, List.all_eq_true.mpr blank, .word known same ends⟩
  · rintro ⟨gap, _, rfl, blank, loads⟩
    cases loads with
    | @word word written rest known same ends =>
      have split : gap ++ '#' :: (written ++ rest) = gap ++ ['#'] ++ written ++ rest := by simp
      rw [split]
      obtain ⟨here, next, last⟩ := (parts gap written _).mp (List.prefix_append _ rest)
      have spaces : Pattern.Matches _ (.repeated (.charIn .spaces) 0 none true) 0 _ :=
        Pattern.matches_repeated_iff.mpr ⟨gap, Nat.zero_le _, List.all_eq_true.mp blank, here, rfl⟩
      have mark := Pattern.matches_charIn_iff.mpr ⟨'#', (marks '#').mpr rfl, next, rfl⟩
      have words := matches_words_iff.mpr ⟨word, known, written, same, last, rfl⟩
      refine ⟨0, _, Nat.zero_le _, _, ⟨_, ⟨_, ⟨0, ⟨0, rfl, rfl, rfl⟩, spaces⟩, mark⟩, words⟩, rfl, ?_⟩
      rw [boundary_holds_at (isWord_of_fold_eq known same).1 (length gap written)]
      exact ends

/-- On the code of a line the pattern occurs exactly if the line holds a directive. -/
theorem search_directivePattern_iff :
    (Pattern.search directivePattern (Text.trimEnd (codeOf line))).isSome = true ↔
      ∃ directive, IsDirective line directive := by
  simp only [isDirective_iff, exists_and_left, exists_eq, and_true]
  rw [Pattern.search_isSome_iff, occurs_directivePattern_iff, ← Text.trimStart_trimEnd]
  constructor
  · rintro ⟨gap, directive, split, blank, loads⟩
    obtain ⟨first, rest, rfl, visible⟩ := loads.starts
    rwa [split, Text.trimStart_blank_append blank, Text.trimStart_cons visible]
  · intro loads
    exact ⟨_, _, List.takeWhile_append_dropWhile.symm, Text.isBlank_takeWhile _, loads⟩

/-- The first of some lines is reported if code has been seen, and counts as code for those behind it. -/
theorem checkFrom_cons (seen : Bool) (number : Nat) (line : List Char) (rest : List (Nat × List Char)) :
    checkFrom seen ((number, line) :: rest) =
      (if seen then checkLine number line else []) ++ checkFrom (seen || isStatement line) rest := by
  rw [← List.singleton_append, checkFrom_append, List.any_cons, List.any_nil, Bool.or_false]
  congr 1
  cases kind : kindOf line <;> cases seen <;> simp [checkFrom, checkLine, kind]

theorem mem_checkLine_iff {number : Nat} {finding : Finding} : finding ∈ checkLine number line ↔
    ∃ directive, kindOf line = .directive directive ∧ finding = directive.finding number [directive.text] := by
  cases kind : kindOf line <;> simp [checkLine, kind]

theorem mem_checkFrom_iff {lines : List (Nat × List Char)} {seen : Bool} {finding : Finding} :
    finding ∈ checkFrom seen lines ↔ ∃ earlier number line later, lines = earlier ++ (number, line) :: later ∧
      (seen || earlier.any fun numbered => isStatement numbered.2) = true ∧ finding ∈ checkLine number line := by
  constructor
  · intro mem
    induction lines generalizing seen with
    | nil => cases mem
    | cons numbered rest ih =>
      obtain ⟨number, line⟩ := numbered
      rw [checkFrom_cons, List.mem_append] at mem
      rcases mem with here | behind
      · split at here
        · rename_i code
          exact ⟨[], number, line, rest, rfl, by rw [code, Bool.true_or], here⟩
        · cases here
      · obtain ⟨earlier, other, text, later, rfl, code, found⟩ := ih behind
        refine ⟨(number, line) :: earlier, other, text, later, rfl, ?_, found⟩
        rwa [List.any_cons, ← Bool.or_assoc]
  · rintro ⟨earlier, number, line, later, rfl, code, found⟩
    rw [checkFrom_append, code, checkFrom_cons, if_pos rfl, List.mem_append, List.mem_append]
    exact .inr (.inl found)

/-- Of the numbered lines, those in front of one are the lines with a smaller number. -/
theorem mem_earlier_iff {document : Document} {earlier later : List (Nat × List Char)} {number index : Nat}
    {line other : List Char} (split : document.numberedLines = earlier ++ (number, line) :: later) :
    (index, other) ∈ earlier ↔ index < number ∧ document.lines[index]? = some other := by
  have apart := document.numberedLines_pairwise
  rw [split, List.pairwise_append, List.pairwise_cons] at apart
  obtain ⟨-, ⟨behind, -⟩, ahead⟩ := apart
  rw [← mem_numberedLines, split, List.mem_append, List.mem_cons]
  constructor
  · exact fun mem => ⟨ahead _ mem _ List.mem_cons_self, .inl mem⟩
  · rintro ⟨below, mem | same | mem⟩
    · exact mem
    · cases same
      exact absurd below (Nat.lt_irrefl _)
    · exact absurd below (Nat.lt_asymm (behind _ mem))

theorem mem_check_iff {rule : DirectivePosition} {document : Document} {finding : Finding} :
    finding ∈ Rule.check rule document ↔ ∃ number line directive, document.lines[number]? = some line ∧
      IsDirective line directive ∧
      (∃ earlier < number, ∃ other, document.lines[earlier]? = some other ∧ OtherCode other) ∧
      finding = directive.finding number [directive.text] := by
  have opened : Rule.check rule document = checkFrom false document.numberedLines := rfl
  rw [opened, mem_checkFrom_iff]
  simp only [mem_checkLine_iff, kindOf_eq_directive_iff, Bool.false_or, List.any_eq_true, isStatement, beq_iff_eq,
    kindOf_eq_statement_iff, Prod.exists]
  constructor
  · rintro ⟨earlier, number, line, later, split, ⟨index, other, mem, code⟩, directive, isDirective, rfl⟩
    obtain ⟨below, there⟩ := (mem_earlier_iff split).mp mem
    have own := mem_numberedLines.mp (split ▸ List.mem_append_right _ List.mem_cons_self)
    exact ⟨number, line, directive, own, isDirective, ⟨index, below, other, there, code⟩, rfl⟩
  · rintro ⟨number, line, directive, there, isDirective, ⟨index, below, other, thereToo, code⟩, rfl⟩
    obtain ⟨earlier, later, split⟩ := List.append_of_mem (mem_numberedLines.mpr there)
    exact ⟨earlier, number, line, later, split, ⟨index, other, (mem_earlier_iff split).mpr ⟨below, thereToo⟩, code⟩,
      directive, isDirective, rfl⟩

/-- Each line has one finding at most, so that findings in the order of the lines are on different lines. -/
theorem check_pairwise (rule : DirectivePosition) (document : Document) :
    (Rule.check rule document).Pairwise fun earlier later => earlier.range.start.line < later.range.start.line := by
  refine List.Pairwise.sublist (checkFrom_sublist false document.numberedLines) (List.pairwise_flatMap.mpr ⟨?_, ?_⟩)
  · intro numbered _
    rw [checkLine]
    split
    · exact List.pairwise_singleton _ _
    · exact .nil
  · refine document.numberedLines_pairwise.imp fun {earlier later} below first memFirst second memSecond => ?_
    obtain ⟨_, _, rfl⟩ := mem_checkLine_iff.mp memFirst
    obtain ⟨_, _, rfl⟩ := mem_checkLine_iff.mp memSecond
    exact below

/-- Findings that report the late directives of a document, line by line. -/
structure ReportsLate (document : Document) (findings : List Finding) : Prop where
  late : ∀ finding, finding ∈ findings ↔ ∃ number line directive, document.lines[number]? = some line ∧
    IsDirective line directive ∧
    (∃ earlier < number, ∃ other, document.lines[earlier]? = some other ∧ OtherCode other) ∧
    finding = directive.finding number [directive.text]
  ordered : findings.Pairwise fun earlier later => earlier.range.start.line < later.range.start.line
  /-- Comments, blank lines and directives alone cause no finding. -/
  silent : (∀ line ∈ document.lines, IsComment line ∨ Blank line ∨ ∃ directive, IsDirective line directive) →
    findings = []
  /-- The lines with a directive are those in whose code the pattern for directives occurs. -/
  searched : ∃ pattern, Pattern.ofText? "(?i)^\\s*#(использовать|use)\\b".toList = some pattern ∧
    ∀ line ∈ document.lines, (∃ directive, IsDirective line directive) ↔
      (Pattern.search pattern (Text.trimEnd (codeOf line))).isSome = true

theorem check_reports_late (rule : DirectivePosition) (document : Document) :
    ReportsLate document (Rule.check rule document) where
  late _ := mem_check_iff
  ordered := check_pairwise rule document
  silent known := by
    rw [List.eq_nil_iff_forall_not_mem]
    intro finding mem
    obtain ⟨_, _, _, _, _, ⟨earlier, _, other, there, code⟩, _⟩ := mem_check_iff.mp mem
    rcases known other (List.mem_of_getElem? there) with isComment | blank | ⟨directive, isDirective⟩
    · exact code.filled isComment.blank
    · exact code.filled blank
    · exact code.plain directive isDirective
  searched := ⟨directivePattern, ofText?_directivePattern, fun _ _ => search_directivePattern_iff.symm⟩

end BslLint.DirectivePosition
