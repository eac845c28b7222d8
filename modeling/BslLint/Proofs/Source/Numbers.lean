import BslLint.Proofs.Source.Words
import BslLint.Proofs.Text.Space
import Mathlib.Data.List.Basic

/-! What the numbers of a line look like, and where they stand. A sign takes up white space and a minus, which
no number before it can reach into. -/

set_option autoImplicit false

namespace BslLint.Source

def Digits (text : List Char) : Prop :=
  text ≠ [] ∧ ∀ char ∈ text, Text.isDigit char = true

inductive Numeral : List Char → Prop where
  | whole {digits : List Char} : Digits digits → Numeral digits
  | fraction {digits decimals : List Char} : Digits digits → Digits decimals →
      Numeral (digits ++ '.' :: decimals)

theorem Digits.of_isNumeric {word : Span} (some : word.chars ≠ []) (numeric : isNumeric word = true) :
    Digits word.chars :=
  ⟨some, List.all_eq_true.mp numeric⟩

theorem Digits.head? {text : List Char} (digits : Digits text) :
    ∃ char, text.head? = some char ∧ Text.isDigit char = true := by
  obtain ⟨some, all⟩ := digits
  cases text with
  | nil => exact absurd rfl some
  | cons first rest => exact ⟨first, rfl, all first List.mem_cons_self⟩

theorem Digits.getLast? {text : List Char} (digits : Digits text) :
    ∃ char, text.getLast? = some char ∧ Text.isDigit char = true :=
  ⟨text.getLast digits.1, List.getLast?_eq_some_getLast digits.1, digits.2 _ (List.getLast_mem digits.1)⟩

namespace Numeral

variable {text : List Char}

theorem head? (numeral : Numeral text) : ∃ char, text.head? = some char ∧ Text.isDigit char = true := by
  cases numeral with
  | whole digits => exact digits.head?
  | fraction digits _ =>
    obtain ⟨char, starts, isDigit⟩ := digits.head?
    exact ⟨char, by rw [List.head?_append, starts, Option.some_or], isDigit⟩

theorem getLast? (numeral : Numeral text) : ∃ char, text.getLast? = some char ∧ Text.isDigit char = true := by
  cases numeral with
  | whole digits => exact digits.getLast?
  | fraction _ decimals =>
    rw [List.append_cons, List.getLast?_append_of_ne_nil _ decimals.1]
    exact decimals.getLast?

theorem of_mem (numeral : Numeral text) {char : Char} (mem : char ∈ text) :
    Text.isDigit char = true ∨ char = '.' := by
  cases numeral with
  | whole digits => exact .inl (digits.2 char mem)
  | fraction digits decimals =>
    rcases List.mem_append.mp mem with inWhole | after
    · exact .inl (digits.2 char inWhole)
    · rcases List.mem_cons.mp after with point | inFraction
      · exact .inr point
      · exact .inl (decimals.2 char inFraction)

end Numeral

-- A number with a fraction takes the place of its two words.
theorem line_of_joined {word next : Span} (same : next.line = word.line) (point : word.after.head? = some '.')
    (adjacent : next.start = word.stop + 1) :
    (Span.mk word.before (word.chars ++ '.' :: next.chars) next.after).line = word.line := by
  obtain ⟨before, chars, after⟩ := word
  cases after with
  | nil => cases point
  | cons first after =>
    cases point
    have halves : (next.before.reverse : List Char) ++ (next.chars ++ next.after) =
        (before.reverse ++ chars ++ ['.']) ++ after := by
      simpa [Span.line] using same
    have lengths : next.before.reverse.length = (before.reverse ++ chars ++ ['.']).length := by
      simpa [Span.start, Span.stop, Nat.add_assoc] using adjacent
    obtain ⟨_, rest⟩ := List.append_inj halves lengths
    simp [Span.line, ← rest]

theorem numbersOf_placed {line : List Char} {column : Nat} {words : List Span}
    (placed : Placed line column words) : Placed line column (numbersOf words) := by
  induction words using numbersOf.induct generalizing column with
  | case1 => exact .nil column
  | case2 word numeric =>
    rw [numbersOf, if_pos numeric]
    exact placed
  | case3 word other =>
    rw [numbersOf, if_neg other]
    exact .nil column
  | case4 word next rest numeric joins ih =>
    rw [numbersOf, if_pos numeric, if_pos joins]
    cases placed with
    | cons own some after placed =>
      cases placed with
      | cons ownNext someNext afterNext placed =>
        obtain ⟨_, point, adjacent⟩ := joins
        have joined := line_of_joined (ownNext.trans own.symm) point adjacent
        refine .cons (joined.trans own) (by simp) after ?_
        -- The joined number ends where its second word does.
        convert ih placed using 1
        simp only [Span.stop, Span.start, List.length_append, List.length_cons] at adjacent ⊢
        omega
  | case5 word next rest numeric apart ih =>
    rw [numbersOf, if_pos numeric, if_neg apart]
    cases placed with
    | cons own some after placed => exact .cons own some after (ih placed)
  | case6 word next rest other ih =>
    rw [numbersOf, if_neg other]
    cases placed with
    | cons own some after placed => exact (ih placed).weaken (Nat.le_trans after word.start_le_stop)

theorem numeral_of_mem_numbersOf {words : List Span} (some : ∀ word ∈ words, word.chars ≠ []) {number : Span}
    (mem : number ∈ numbersOf words) : Numeral number.chars := by
  induction words using numbersOf.induct with
  | case1 => cases mem
  | case2 word numeric =>
    rw [numbersOf, if_pos numeric, List.mem_singleton] at mem
    subst mem
    exact .whole (.of_isNumeric (some _ List.mem_cons_self) numeric)
  | case3 word other =>
    rw [numbersOf, if_neg other] at mem
    cases mem
  | case4 word next rest numeric joins ih =>
    rw [numbersOf, if_pos numeric, if_pos joins] at mem
    rcases List.mem_cons.mp mem with rfl | later
    · exact .fraction (.of_isNumeric (some word (by simp)) numeric) (.of_isNumeric (some next (by simp)) joins.1)
    · exact ih (fun word known => some word (by simp [known])) later
  | case5 word next rest numeric apart ih =>
    rw [numbersOf, if_pos numeric, if_neg apart] at mem
    rcases List.mem_cons.mp mem with rfl | later
    · exact .whole (.of_isNumeric (some _ List.mem_cons_self) numeric)
    · exact ih (fun word known => some word (List.mem_cons_of_mem _ known)) later
  | case6 word next rest other ih =>
    rw [numbersOf, if_neg other] at mem
    exact ih (fun word known => some word (List.mem_cons_of_mem _ known)) mem

theorem withSign_cases (number : Span) : withSign number = number ∨ ∃ gap earlier,
    number.before = gap ++ '-' :: earlier ∧ (∀ char ∈ gap, Text.isSpace char = true) ∧
      withSign number = ⟨earlier, '-' :: (gap.reverse ++ number.chars), number.after⟩ := by
  have split := List.takeWhile_append_dropWhile (p := Text.isSpace) (l := number.before)
  unfold withSign
  split
  · rename_i earlier minus
    split
    · exact .inl rfl
    · refine .inr ⟨number.before.takeWhile Text.isSpace, earlier, ?_, ?_, rfl⟩
      · rw [← minus]
        exact split.symm
      · intro char mem
        exact List.mem_takeWhile_imp mem
  · exact .inl rfl

theorem line_withSign (number : Span) : (withSign number).line = number.line := by
  rcases withSign_cases number with same | ⟨gap, earlier, before, _, signed⟩
  · rw [same]
  · rw [signed, Span.line, Span.line, before]
    simp

theorem stop_withSign (number : Span) : (withSign number).stop = number.stop := by
  rcases withSign_cases number with same | ⟨gap, earlier, before, _, signed⟩
  · rw [same]
  · rw [signed, Span.stop, Span.stop, before]
    simp only [List.length_cons, List.length_append, List.length_reverse]
    omega

-- The sign of a number does not reach back over a digit.
theorem lt_start_withSign {number : Span} {index : Nat} (before : index < number.start) {digit : Char}
    (there : number.line[index]? = some digit) (isDigit : Text.isDigit digit = true) :
    index < (withSign number).start := by
  rcases withSign_cases number with same | ⟨gap, earlier, split, spaces, signed⟩
  · rwa [same]
  · have start : (withSign number).start = earlier.length := by rw [signed, Span.start]
    have chars : (withSign number).chars = '-' :: (gap.reverse ++ number.chars) := by rw [signed]
    rw [start]
    -- A digit that the sign reached back over would be its minus or stand in the white space after it.
    by_contra reached
    rw [Span.start, split, List.length_append, List.length_cons] at before
    obtain ⟨offset, rfl⟩ := Nat.exists_eq_add_of_le (Nat.le_of_not_lt reached)
    have inside : offset < (withSign number).chars.length := by
      rw [chars, List.length_cons, List.length_append, List.length_reverse]
      omega
    have found := (withSign number).getElem?_line inside
    rw [line_withSign, start, there, chars] at found
    cases offset with
    | zero =>
      cases found
      exact absurd isDigit (by decide)
    | succ offset =>
      rw [List.getElem?_cons_succ, List.getElem?_append_left (by rw [List.length_reverse]; omega)] at found
      have space := spaces digit (List.mem_reverse.mp (List.mem_of_getElem? found.symm))
      exact absurd isDigit (by simp [Text.isDigit_of_isSpace space])

theorem withSign_placed {text : List Char} {column : Nat} {numbers : List Span}
    (placed : Placed text column numbers) (numerals : ∀ number ∈ numbers, Numeral number.chars)
    (digit : ∀ index, index + 1 = column → ∃ char, text[index]? = some char ∧ Text.isDigit char = true) :
    Placed text column (numbers.map withSign) := by
  -- Each number ends in a digit, so what the induction carries is that one stands right before the column.
  induction placed with
  | nil column => exact .nil column
  | @cons column number rest own some after _ ih =>
    have numeral := numerals number List.mem_cons_self
    refine .cons ((line_withSign number).trans own) ?_ ?_ ?_
    · rcases withSign_cases number with same | ⟨_, _, _, _, signed⟩
      · rwa [same]
      · simp [signed]
    · cases column with
      | zero => exact Nat.zero_le _
      | succ index =>
        obtain ⟨char, there, isDigit⟩ := digit index rfl
        exact lt_start_withSign after (own ▸ there) isDigit
    · rw [stop_withSign]
      refine ih (fun other mem => numerals other (List.mem_cons_of_mem _ mem)) ?_
      intro index last
      obtain ⟨char, ends, isDigit⟩ := numeral.getLast?
      refine ⟨char, ?_, isDigit⟩
      have positive := List.length_pos_iff.mpr some
      rw [Span.stop] at last
      have inside : number.chars.length - 1 < number.chars.length := by omega
      have found := number.getElem?_line inside
      rw [List.getLast?_eq_getElem?] at ends
      rw [← own, ← ends, ← found]
      congr 1
      simp only [Span.start]
      omega

theorem signedNumbers_placed (line : List Char) : Placed line 0 (signedNumbers line) := by
  refine withSign_placed (numbersOf_placed (words_placed line)) ?_ nofun
  intro number mem
  exact numeral_of_mem_numbersOf (fun word known => ((words_placed line).of_mem known).2.1) mem

/-- A signed number is a numeral, perhaps after a minus and white space. -/
theorem chars_of_mem_signedNumbers {line : List Char} {number : Span} (mem : number ∈ signedNumbers line) :
    ∃ sign numeral, number.chars = sign ++ numeral ∧ Numeral numeral ∧
      (sign = [] ∨ ∃ gap, sign = '-' :: gap ∧ ∀ char ∈ gap, Text.isSpace char = true) := by
  obtain ⟨plain, known, rfl⟩ := List.mem_map.mp mem
  have numeral := numeral_of_mem_numbersOf (fun word known => ((words_placed line).of_mem known).2.1) known
  rcases withSign_cases plain with same | ⟨gap, earlier, _, spaces, signed⟩
  · exact ⟨[], plain.chars, by rw [same, List.nil_append], numeral, .inl rfl⟩
  · refine ⟨'-' :: gap.reverse, plain.chars, by rw [signed, List.cons_append], numeral, .inr ⟨_, rfl, ?_⟩⟩
    intro char mem
    exact spaces char (List.mem_reverse.mp mem)

end BslLint.Source
