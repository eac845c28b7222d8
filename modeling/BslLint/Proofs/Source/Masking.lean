import BslLint.Source.Literal
import BslLint.Proofs.Source.Numbers

/-! What the masked code of a line says about the line itself. A part of it that neither starts with a blank nor
holds a delimiter is outside of all literals, so the line has the same characters in the same columns. -/

set_option autoImplicit false

namespace BslLint.Source

def isDelimiter (char : Char) : Bool :=
  char == '"' || char == '\''

theorem isDelimiter_of_step {literal : Literal} {char : Char} (delimits : (literal.step char).2 = true) :
    isDelimiter char = true := by
  unfold Literal.step at delimits
  split at delimits
  · split at delimits
    · simp [isDelimiter, *]
    · split at delimits
      · simp [isDelimiter, *]
      · cases delimits
  all_goals
    split at delimits
    · simp [isDelimiter, *]
    · cases delimits

theorem step_none {char : Char} (plain : isDelimiter char = false) : Literal.none.step char = (.none, false) := by
  simp [isDelimiter] at plain
  simp [Literal.step, plain]

/-- Outside of literals masking changes nothing up to the next delimiter. -/
theorem prefix_of_maskFrom_none {code chars after : List Char} (masked : maskFrom .none code = chars ++ after)
    (plain : ∀ char ∈ chars, isDelimiter char = false) : chars <+: code := by
  induction chars generalizing code with
  | nil => exact List.nil_prefix
  | cons first chars ih =>
    cases code with
    | nil => cases masked
    | cons char code =>
      cases delimits : isDelimiter char with
      | true =>
        -- A delimiter is kept, and there is none among the characters.
        have kept : char = first := by
          simp only [isDelimiter, Bool.or_eq_true, beq_iff_eq] at delimits
          rcases delimits with rfl | rfl <;> simp [maskFrom, Literal.step] at masked <;> exact masked.1
        exact absurd delimits (by simp [kept, plain first List.mem_cons_self])
      | false =>
        simp only [maskFrom, step_none delimits, List.cons_append, List.cons.injEq] at masked
        obtain ⟨same, rest⟩ := masked
        have same : char = first := by simpa using same
        rw [same, List.prefix_cons_inj]
        exact ih rest fun char mem => plain char (List.mem_cons_of_mem _ mem)

theorem step_of_visible {literal : Literal} {char first : Char}
    (shown : (if (literal.step char).2 || (literal.step char).1 == .none then char else ' ') = first)
    (visible : first ≠ ' ') (plain : isDelimiter first = false) :
    char = first ∧ (literal.step char).1 = .none := by
  split at shown
  · rename_i outside
    subst shown
    have undelimited : (literal.step char).2 = false := by
      cases delimits : (literal.step char).2 with
      | false => rfl
      | true => exact absurd (isDelimiter_of_step delimits) (by simp [plain])
    simpa [undelimited] using outside
  · exact absurd shown.symm visible

theorem prefix_of_maskFrom {literal : Literal} {code before chars after : List Char} {first : Char}
    (masked : maskFrom literal code = before ++ first :: (chars ++ after)) (visible : first ≠ ' ')
    (plain : ∀ char ∈ first :: chars, isDelimiter char = false) :
    ∃ start, start.length = before.length ∧ start ++ first :: chars <+: code := by
  induction before generalizing literal code with
  | nil =>
    cases code with
    | nil => cases masked
    | cons char code =>
      simp only [maskFrom, List.nil_append, List.cons.injEq] at masked
      obtain ⟨shown, rest⟩ := masked
      obtain ⟨rfl, outside⟩ := step_of_visible shown visible (plain _ List.mem_cons_self)
      rw [outside] at rest
      refine ⟨[], rfl, ?_⟩
      rw [List.nil_append, List.prefix_cons_inj]
      exact prefix_of_maskFrom_none rest fun char mem => plain char (List.mem_cons_of_mem _ mem)
  | cons other before ih =>
    cases code with
    | nil => cases masked
    | cons char code =>
      simp only [maskFrom, List.cons_append, List.cons.injEq] at masked
      obtain ⟨start, length, found⟩ := ih masked.2
      refine ⟨char :: start, by rw [List.length_cons, List.length_cons, length], ?_⟩
      rwa [List.cons_append, List.prefix_cons_inj]

theorem codeOf_prefix_line (line : List Char) : codeOf line <+: line :=
  ⟨_, (splitFrom_append (.atLineStart line) line).symm⟩

theorem mem_of_mem_commentOf {line text : List Char} (commented : commentOf line = some text) {char : Char}
    (mem : char ∈ text) : char ∈ line := by
  have whole : line = codeOf line ++ ((commentOf line).map fun comment => '/' :: '/' :: comment).getD [] :=
    splitFrom_append (.atLineStart line) line
  rw [whole, commented]
  simp [mem]

theorem length_maskedCode_le (line : List Char) : (maskedCode line).length ≤ line.length := by
  rw [maskedCode, length_maskLiterals]
  exact (codeOf_prefix_line line).length_le

/-- A visible part of the masked code is what the line has in its columns. -/
theorem Span.drop_take_of_masked {line : List Char} {span : Span} (own : span.line = maskedCode line)
    {first : Char} {rest : List Char} (chars : span.chars = first :: rest) (visible : first ≠ ' ')
    (plain : ∀ char ∈ span.chars, isDelimiter char = false) :
    (line.take span.stop).drop span.start = span.chars := by
  rw [chars] at plain
  have masked : maskFrom (.atLineStart (codeOf line)) (codeOf line) =
      span.before.reverse ++ first :: (rest ++ span.after) := by
    rw [← List.cons_append, ← chars, ← List.append_assoc]
    exact own.symm
  obtain ⟨start, length, found⟩ := prefix_of_maskFrom masked visible plain
  obtain ⟨tail, rfl⟩ := found.trans (codeOf_prefix_line line)
  rw [List.length_reverse] at length
  have stop : span.stop = (start ++ first :: rest).length := by
    rw [Span.stop, chars, List.length_append, length]
  rw [stop, List.take_left, Span.start, ← length, List.drop_left, chars]

def Literal.delimiter? : Literal → Option Char
  | .none => Option.none
  | .string => some '"'
  | .date => some '\''

namespace Literal

def past (literal : Literal) (passed : List Char) : Literal :=
  passed.foldl (fun literal char => (literal.step char).1) literal

section

variable {literal : Literal} {mark : Char} (delimits : literal.delimiter? = some mark)
include delimits

theorem step_opens : Literal.none.step mark = (literal, true) := by
  cases literal <;> cases delimits <;> rfl

theorem step_closes : literal.step mark = (.none, true) := by
  cases literal <;> cases delimits <;> rfl

theorem step_inside {char : Char} (inside : char ≠ mark) : literal.step char = (literal, false) := by
  cases literal <;> cases delimits <;> exact if_neg inside

theorem ne_none : literal ≠ .none := by
  rintro rfl
  cases delimits

end

end Literal

def maskedFrom (literal : Literal) (line : List Char) : List Char :=
  maskFrom literal (splitFrom literal line).1

-- Whether a comment begins with a character that is read in a literal or outside.
def BeginsComment (literal : Literal) (char : Char) (rest : List Char) : Prop :=
  (literal.step char).2 = false ∧ (literal.step char).1 = .none ∧ char = '/' ∧ rest.head? = some '/'

theorem splitFrom_of_beginsComment {literal : Literal} {char : Char} {rest : List Char}
    (begins : BeginsComment literal char rest) : splitFrom literal (char :: rest) = ([], some rest.tail) := by
  rw [BeginsComment] at begins
  simp only [splitFrom]
  rw [if_pos begins]

theorem splitFrom_cons {literal : Literal} {char : Char} {rest : List Char}
    (goesOn : ¬BeginsComment literal char rest) : splitFrom literal (char :: rest) =
      (char :: (splitFrom (literal.step char).1 rest).1, (splitFrom (literal.step char).1 rest).2) := by
  rw [BeginsComment] at goesOn
  simp only [splitFrom]
  rw [if_neg goesOn]

theorem maskedFrom_of_beginsComment {literal : Literal} {char : Char} {rest : List Char}
    (begins : BeginsComment literal char rest) : maskedFrom literal (char :: rest) = [] := by
  rw [maskedFrom, splitFrom_of_beginsComment begins]
  rfl

theorem maskedFrom_cons {literal : Literal} {char : Char} {rest : List Char}
    (goesOn : ¬BeginsComment literal char rest) :
    maskedFrom literal (char :: rest) =
      (if (literal.step char).2 || (literal.step char).1 == .none then char else ' ') ::
        maskedFrom (literal.step char).1 rest := by
  rw [maskedFrom, splitFrom_cons goesOn]
  rfl

theorem maskedFrom_code {char : Char} {rest : List Char} (plain : isDelimiter char = false)
    (goesOn : char = '/' → rest.head? ≠ some '/') :
    maskedFrom .none (char :: rest) = char :: maskedFrom .none rest := by
  rw [maskedFrom_cons fun begins => goesOn begins.2.2.1 begins.2.2.2, step_none plain]
  rfl

section

variable {literal : Literal} {mark : Char} (delimits : literal.delimiter? = some mark) (rest : List Char)
include delimits

theorem maskedFrom_opens : maskedFrom .none (mark :: rest) = mark :: maskedFrom literal rest := by
  cases literal <;> cases delimits <;> rfl

theorem maskedFrom_closes : maskedFrom literal (mark :: rest) = mark :: maskedFrom .none rest := by
  cases literal <;> cases delimits <;> rfl

theorem maskedFrom_inside {char : Char} (inside : char ≠ mark) :
    maskedFrom literal (char :: rest) = ' ' :: maskedFrom literal rest := by
  have step := Literal.step_inside delimits inside
  have within := Literal.ne_none delimits
  rw [maskedFrom_cons fun begins => within (by simpa [step] using begins.2.1), step]
  simp [within]

theorem maskedFrom_inside_append {text : List Char} (inside : ∀ char ∈ text, char ≠ mark) :
    maskedFrom literal (text ++ rest) = text.map (fun _ => ' ') ++ maskedFrom literal rest := by
  induction text with
  | nil => rfl
  | cons char text ih =>
    rw [List.cons_append, maskedFrom_inside delimits _ (inside char List.mem_cons_self),
      ih fun char mem => inside char (List.mem_cons_of_mem _ mem)]
    rfl

end

theorem atLineStart_eq (line : List Char) :
    Literal.atLineStart line = if (Text.trimStart line).head? = some '|' then .string else .none := by
  unfold Literal.atLineStart
  split
  · rename_i rest trimmed
    rw [trimmed, List.head?_cons, if_pos rfl]
  · rename_i other
    rw [if_neg]
    intro starts
    obtain ⟨rest, trimmed⟩ := List.head?_eq_some_iff.mp starts
    exact other rest trimmed

theorem atLineStart_append_slash (code rest : List Char) :
    Literal.atLineStart (code ++ '/' :: rest) = .atLineStart code := by
  rw [atLineStart_eq, atLineStart_eq]
  cases trimmed : Text.trimStart code with
  | cons first others => rw [Text.trimStart_append_of_cons trimmed, List.head?_cons, List.head?_cons]
  | nil =>
    rw [Text.trimStart_eq_nil_iff] at trimmed
    rw [Text.trimStart_blank_append trimmed]
    rfl

theorem atLineStart_codeOf (line : List Char) : Literal.atLineStart (codeOf line) = .atLineStart line := by
  have whole : line = codeOf line ++ _ := splitFrom_append (.atLineStart line) line
  cases comment : (splitFrom (.atLineStart line) line).2 with
  | none =>
    rw [comment] at whole
    conv_rhs => rw [whole]
    simp
  | some text =>
    rw [comment] at whole
    conv_rhs => rw [whole]
    exact (atLineStart_append_slash _ _).symm

theorem maskedCode_eq (line : List Char) : maskedCode line = maskedFrom (.atLineStart line) line := by
  rw [maskedCode, maskLiterals, atLineStart_codeOf]
  rfl

/-- A character that passes a test which both delimiters fail is none of them. -/
theorem isDelimiter_of_passes {test : Char → Bool} (fails : test '"' = false ∧ test '\'' = false) {char : Char}
    (passes : test char = true) : isDelimiter char = false := by
  cases delimits : isDelimiter char with
  | false => rfl
  | true =>
    simp only [isDelimiter, Bool.or_eq_true, beq_iff_eq] at delimits
    rcases delimits with rfl | rfl
    · exact absurd passes (Bool.eq_false_iff.mp fails.1)
    · exact absurd passes (Bool.eq_false_iff.mp fails.2)

theorem isDelimiter_of_isWord {char : Char} (word : Text.isWord char = true) : isDelimiter char = false :=
  isDelimiter_of_passes (by decide +kernel) word

theorem isDelimiter_of_isSpace {char : Char} (space : Text.isSpace char = true) : isDelimiter char = false :=
  isDelimiter_of_passes (by decide +kernel) space

theorem drop_take_of_mem_names {line : List Char} {name : Span} (mem : name ∈ names (maskedCode line)) :
    (line.take name.stop).drop name.start = name.chars := by
  obtain ⟨own, some, _⟩ := (names_placed _).of_mem mem
  have words (char : Char) (inside : char ∈ name.chars) := isWord_of_mem_names mem inside
  cases chars : name.chars with
  | nil => exact absurd chars some
  | cons first rest =>
    rw [← chars]
    refine Span.drop_take_of_masked own chars ?_ fun char inside => isDelimiter_of_isWord (words char inside)
    rintro rfl
    exact absurd (words ' ' (chars ▸ List.mem_cons_self)) (by decide +kernel)

theorem isDelimiter_of_numeral {text : List Char} (numeral : Numeral text) {char : Char} (mem : char ∈ text) :
    isDelimiter char = false := by
  rcases numeral.of_mem mem with digit | rfl
  · exact isDelimiter_of_isWord (Text.isWord_of_isDigit digit)
  · rfl

theorem drop_take_of_mem_signedNumbers {line : List Char} {number : Span}
    (mem : number ∈ signedNumbers (maskedCode line)) :
    (line.take number.stop).drop number.start = number.chars := by
  have own := ((signedNumbers_placed _).of_mem mem).1
  obtain ⟨sign, text, chars, numeral, rfl | ⟨gap, rfl, spaces⟩⟩ := chars_of_mem_signedNumbers mem
  · obtain ⟨digit, starts, isDigit⟩ := numeral.head?
    obtain ⟨rest, rfl⟩ := List.head?_eq_some_iff.mp starts
    refine Span.drop_take_of_masked own chars ?_ ?_
    · rintro rfl
      exact absurd isDigit (by decide)
    · rw [chars]
      exact fun char inside => isDelimiter_of_numeral numeral inside
  · refine Span.drop_take_of_masked own chars (by decide) ?_
    rw [chars]
    intro char inside
    rcases List.mem_cons.mp inside with rfl | inside
    · rfl
    · rcases List.mem_append.mp inside with inGap | inText
      · exact isDelimiter_of_isSpace (spaces char inGap)
      · exact isDelimiter_of_numeral numeral inText

end BslLint.Source
