import BslLint.Proofs.Source.Masking

/-! White space at the end of a line. The line has the same words, names and numbers with it as without, in the
same columns; only what follows them is longer. Its masked code, too, has more white space at its end at most. -/

set_option autoImplicit false

namespace BslLint.Source

def Span.followed (more : List Char) (span : Span) : Span :=
  { span with after := span.after ++ more }

section

variable {blank : List Char} (spaces : Text.isBlank blank = true)
include spaces

theorem stops_of_isBlank {test : Char → Bool} (dense : ∀ char, Text.isSpace char = true → test char = false) :
    ∀ char ∈ blank, test char = false :=
  fun char mem => dense char (Text.isSpace_of_mem_blank spaces mem)

theorem wordsFrom_blank (before : List Char) : wordsFrom before blank = [] := by
  have stops := stops_of_isBlank spaces fun char => Text.isWord_of_isSpace
  clear spaces
  induction blank generalizing before with
  | nil => simp [wordsFrom]
  | cons char rest ih =>
    rw [wordsFrom, if_neg (by simp [stops char List.mem_cons_self])]
    exact ih _ fun char mem => stops char (List.mem_cons_of_mem _ mem)

theorem wordsFrom_append_blank (before line : List Char) :
    wordsFrom before (line ++ blank) = (wordsFrom before line).map (.followed blank) := by
  have stops := stops_of_isBlank spaces fun char => Text.isWord_of_isSpace
  induction before, line using wordsFrom.induct with
  | case1 before => simp [wordsFrom, wordsFrom_blank spaces]
  | case2 before char rest word _ ih =>
    rw [List.cons_append, wordsFrom, wordsFrom, if_pos word, if_pos word]
    rw [Text.dropWhile_append_of_stops stops, Text.takeWhile_append_of_stops stops, ih]
    rfl
  | case3 before char rest other ih =>
    rw [List.cons_append, wordsFrom, wordsFrom, if_neg other, if_neg other]
    exact ih

theorem words_append_blank (line : List Char) : words (line ++ blank) = (words line).map (.followed blank) :=
  wordsFrom_append_blank spaces [] line

omit spaces in
theorem name?_followed (word : Span) : name? (word.followed blank) = (name? word).map (.followed blank) := by
  unfold name? Span.followed
  simp only
  cases word.chars.dropWhile fun char => !isNameStart char <;> rfl

theorem names_append_blank (line : List Char) : names (line ++ blank) = (names line).map (.followed blank) := by
  rw [names, names, words_append_blank spaces, List.filterMap_map, List.map_filterMap]
  congr 1
  funext word
  exact name?_followed word

theorem numbersOf_followed (words : List Span) :
    numbersOf (words.map (.followed blank)) = (numbersOf words).map (.followed blank) := by
  have numeric_iff (word : Span) : isNumeric (word.followed blank) = isNumeric word := rfl
  -- White space after a word is no point.
  have point (word : Span) : (word.after ++ blank).head? = some '.' ↔ word.after.head? = some '.' :=
    Text.head?_append_blank spaces rfl word.after
  have joins_iff (word next : Span) :
      (isNumeric (next.followed blank) ∧ (word.followed blank).after.head? = some '.' ∧
        (next.followed blank).start = (word.followed blank).stop + 1) ↔
      (isNumeric next ∧ word.after.head? = some '.' ∧ next.start = word.stop + 1) := by
    rw [numeric_iff, Span.followed, point]
    rfl
  induction words using numbersOf.induct with
  | case1 => rfl
  | case2 word numeric =>
    rw [List.map_singleton, numbersOf, numbersOf, numeric_iff, if_pos numeric, if_pos numeric]
    rfl
  | case3 word other =>
    rw [List.map_singleton, numbersOf, numbersOf, numeric_iff, if_neg other, if_neg other]
    rfl
  | case4 word next rest numeric joins ih =>
    rw [List.map_cons, List.map_cons, numbersOf, numbersOf, numeric_iff, if_pos numeric, if_pos numeric,
      if_pos ((joins_iff word next).mpr joins), if_pos joins, ih]
    rfl
  | case5 word next rest numeric apart ih =>
    rw [List.map_cons, List.map_cons, numbersOf, numbersOf, numeric_iff, if_pos numeric, if_pos numeric,
      if_neg ((joins_iff word next).not.mpr apart), if_neg apart, ← List.map_cons, ih]
    rfl
  | case6 word next rest other ih =>
    rw [List.map_cons, List.map_cons, numbersOf, numbersOf, numeric_iff, if_neg other, if_neg other,
      ← List.map_cons, ih]

omit spaces in
theorem withSign_followed (number : Span) : withSign (number.followed blank) = (withSign number).followed blank := by
  unfold withSign Span.followed
  simp only
  split
  · split <;> rfl
  · rfl

theorem signedNumbers_append_blank (line : List Char) :
    signedNumbers (line ++ blank) = (signedNumbers line).map (.followed blank) := by
  rw [signedNumbers, signedNumbers, words_append_blank spaces, numbersOf_followed spaces, List.map_map, List.map_map]
  congr 1
  funext number
  exact withSign_followed number

theorem isBlank_maskedFrom (literal : Literal) : Text.isBlank (maskedFrom literal blank) = true := by
  induction blank generalizing literal with
  | nil => rfl
  | cons char rest ih =>
    have space := Text.isSpace_of_mem_blank spaces List.mem_cons_self
    have spacesRest : Text.isBlank rest = true :=
      List.all_eq_true.mpr fun char mem => Text.isSpace_of_mem_blank spaces (List.mem_cons_of_mem _ mem)
    have goesOn : ¬BeginsComment literal char rest := by
      rintro ⟨_, _, rfl, _⟩
      exact absurd space (by decide)
    rw [maskedFrom_cons goesOn, Text.isBlank, List.all_cons, ← Text.isBlank, ih spacesRest, Bool.and_true]
    split
    · exact space
    · rfl

theorem maskedFrom_append_blank (literal : Literal) (line : List Char) : ∃ more, Text.isBlank more = true ∧
    maskedFrom literal (line ++ blank) = maskedFrom literal line ++ more := by
  induction line generalizing literal with
  | nil => exact ⟨_, isBlank_maskedFrom spaces literal, rfl⟩
  | cons char rest ih =>
    have begins_iff : BeginsComment literal char (rest ++ blank) ↔ BeginsComment literal char rest := by
      rw [BeginsComment, BeginsComment, Text.head?_append_blank spaces rfl]
    rw [List.cons_append]
    by_cases begins : BeginsComment literal char rest
    · refine ⟨[], rfl, ?_⟩
      rw [maskedFrom_of_beginsComment begins, maskedFrom_of_beginsComment (begins_iff.mpr begins)]
      rfl
    · obtain ⟨more, blank, same⟩ := ih (literal.step char).1
      refine ⟨more, blank, ?_⟩
      rw [maskedFrom_cons begins, maskedFrom_cons (begins_iff.not.mpr begins), same]
      rfl

theorem maskedCode_append_blank (line : List Char) : ∃ more, Text.isBlank more = true ∧
    maskedCode (line ++ blank) = maskedCode line ++ more := by
  rw [maskedCode_eq, maskedCode_eq, atLineStart_eq, atLineStart_eq, Text.head?_trimStart_append_blank spaces]
  exact maskedFrom_append_blank spaces _ line

end

end BslLint.Source
