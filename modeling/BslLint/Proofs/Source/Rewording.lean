import BslLint.Proofs.Source.Masking
import BslLint.Proofs.Source.Segments

/-! Lines with other words in their literals and comments. What a literal or a comment says is up to the author
as long as it ends where it did; the masked code does not tell. -/

set_option autoImplicit false

namespace BslLint.Source

/-- The rest of a line, read in a literal or outside, and the same with other characters inside literals and
another comment. -/
inductive Reworded : Literal → List Char → List Char → Prop where
  | done (literal : Literal) : Reworded literal [] []
  | code {char : Char} {rest other : List Char} : char ≠ '"' → char ≠ '\'' → (char = '/' → rest.head? ≠ some '/') →
      Reworded .none rest other → Reworded .none (char :: rest) (char :: other)
  | comment {text other : List Char} : '\n' ∉ other → Reworded .none ('/' :: '/' :: text) ('/' :: '/' :: other)
  | opens {literal : Literal} {mark : Char} {rest other : List Char} : literal.delimiter? = some mark →
      Reworded literal rest other → Reworded .none (mark :: rest) (mark :: other)
  | closes {literal : Literal} {mark : Char} {rest other : List Char} : literal.delimiter? = some mark →
      Reworded .none rest other → Reworded literal (mark :: rest) (mark :: other)
  | inside {literal : Literal} {mark char new : Char} {rest other : List Char} : literal.delimiter? = some mark →
      char ≠ mark → new ≠ mark → new ≠ '\n' → Reworded literal rest other →
      Reworded literal (char :: rest) (new :: other)

/-- A line with other words. A line that begins with a bar goes on with a string, in which only what follows
the bar may change. -/
inductive RewordedLine : List Char → List Char → Prop where
  | ordinary {line other : List Char} : (Text.trimStart line).head? ≠ some '|' → Reworded .none line other →
      RewordedLine line other
  | continued {indent rest other : List Char} : Text.isBlank indent = true → Reworded .string rest other →
      RewordedLine (indent ++ '|' :: rest) (indent ++ '|' :: other)

theorem Reworded.head? {line other : List Char} (reworded : Reworded .none line other) :
    other.head? = line.head? := by
  cases reworded with
  | inside delimits => cases delimits
  | _ => rfl

theorem Reworded.maskedFrom {literal : Literal} {line other : List Char} (reworded : Reworded literal line other) :
    maskedFrom literal other = maskedFrom literal line := by
  induction reworded with
  | done literal => rfl
  | @code char rest other notString notDate unmarked reworded ih =>
    have plain : isDelimiter char = false := by simp [isDelimiter, notString, notDate]
    rw [maskedFrom_code plain unmarked, maskedFrom_code plain, ih]
    rwa [reworded.head?]
  | comment => rfl
  | opens delimits _ ih => rw [maskedFrom_opens delimits, maskedFrom_opens delimits, ih]
  | closes delimits _ ih => rw [maskedFrom_closes delimits, maskedFrom_closes delimits, ih]
  | inside delimits other new _ _ ih =>
    rw [maskedFrom_inside delimits _ other, maskedFrom_inside delimits _ new, ih]

theorem Reworded.head?_trimStart {line other : List Char} (reworded : Reworded .none line other) :
    (Text.trimStart other).head? = (Text.trimStart line).head? := by
  induction line generalizing other with
  | nil => cases reworded; rfl
  | cons char rest ih =>
    cases reworded with
    | code _ _ _ reworded =>
      unfold Text.trimStart
      rw [List.dropWhile_cons, List.dropWhile_cons]
      split
      · exact ih reworded
      · rfl
    | comment => rfl
    | @opens literal _ _ _ delimits => cases literal <;> cases delimits <;> rfl
    | closes delimits => cases delimits
    | inside delimits => cases delimits

theorem RewordedLine.maskedCode {line other : List Char} (reworded : RewordedLine line other) :
    maskedCode other = maskedCode line := by
  rw [maskedCode_eq, maskedCode_eq]
  cases reworded with
  | ordinary plain reworded =>
    rw [atLineStart_eq, atLineStart_eq, reworded.head?_trimStart, if_neg plain]
    exact reworded.maskedFrom
  | @continued indent rest other blank reworded =>
    have start (after : List Char) : Literal.atLineStart (indent ++ '|' :: after) = .string := by
      rw [atLineStart_eq, Text.trimStart, List.dropWhile_append_of_pos fun char => Text.isSpace_of_mem_blank blank]
      rfl
    have indented : ∀ char ∈ indent ++ ['|'], char ≠ '"' := by
      rintro char mem rfl
      rcases List.mem_append.mp mem with inside | last
      · exact absurd (Text.isSpace_of_mem_blank blank inside) (by decide)
      · exact absurd (List.mem_singleton.mp last) (by decide)
    have masked (after : List Char) : maskedFrom .string (indent ++ '|' :: after) =
        (indent ++ ['|']).map (fun _ => ' ') ++ maskedFrom .string after := by
      rw [List.append_cons]
      exact maskedFrom_inside_append rfl after indented
    rw [start, start, masked, masked, reworded.maskedFrom]

theorem Reworded.fits {literal : Literal} {line other : List Char} (reworded : Reworded literal line other) :
    Document.Fits line other := by
  induction reworded with
  | done literal => exact ⟨id, id⟩
  | comment plain =>
    refine ⟨fun newline => absurd newline ?_, nofun⟩
    simpa using plain
  | code _ _ _ _ ih | opens _ _ ih | closes _ _ ih =>
    refine ⟨fun newline => ?_, nofun⟩
    rw [List.mem_cons] at newline ⊢
    exact newline.imp_right ih.newline
  | inside _ _ _ new _ ih =>
    refine ⟨fun newline => ?_, nofun⟩
    rw [List.mem_cons] at newline ⊢
    exact .inr (ih.newline (newline.resolve_left new.symm))

theorem RewordedLine.fits {line other : List Char} (reworded : RewordedLine line other) :
    Document.Fits line other := by
  cases reworded with
  | ordinary _ reworded => exact reworded.fits
  | continued _ reworded =>
    refine ⟨fun newline => ?_, fun empty => absurd empty (by simp)⟩
    rw [List.mem_append, List.mem_cons] at newline ⊢
    exact newline.imp_right (Or.imp_right reworded.fits.newline)

-- Whether two texts differ in literals and comments alone can be computed.
def rewords (literal : Literal) : List Char → List Char → Bool
  | [], [] => true
  | char :: rest, new :: other =>
    match literal.delimiter? with
    | some mark =>
      if char = mark then new == mark && rewords .none rest other
      else new != mark && new != '\n' && rewords literal rest other
    | none =>
      if char = '"' then new == '"' && rewords .string rest other
      else if char = '\'' then new == '\'' && rewords .date rest other
      else if char = '/' ∧ rest.head? = some '/' then
        new == '/' && other.head? == some '/' && !other.tail.contains '\n'
      else new == char && rewords .none rest other
  | _, _ => false

theorem reworded_of_rewords {literal : Literal} {line other : List Char} (same : rewords literal line other = true) :
    Reworded literal line other := by
  induction line generalizing literal other with
  | nil =>
    cases other with
    | nil => exact .done literal
    | cons => cases same
  | cons char rest ih =>
    cases other with
    | nil => cases same
    | cons new other =>
      unfold rewords at same
      split at same
      · rename_i mark delimits
        split at same
        · rename_i closes
          simp only [Bool.and_eq_true, beq_iff_eq] at same
          rw [closes, same.1]
          exact .closes delimits (ih same.2)
        · rename_i inside
          simp only [Bool.and_eq_true, bne_iff_ne] at same
          exact .inside delimits inside same.1.1 same.1.2 (ih same.2)
      · rename_i outside
        cases literal with
        | string | date => cases outside
        | none =>
          split at same
          · rename_i string
            simp only [Bool.and_eq_true, beq_iff_eq] at same
            rw [string, same.1]
            exact .opens rfl (ih same.2)
          · rename_i notString
            split at same
            · rename_i date
              simp only [Bool.and_eq_true, beq_iff_eq] at same
              rw [date, same.1]
              exact .opens rfl (ih same.2)
            · rename_i notDate
              split at same
              · rename_i begins
                simp only [Bool.and_eq_true, beq_iff_eq, Bool.not_eq_true'] at same
                obtain ⟨rfl, second⟩ := begins
                obtain ⟨text, rfl⟩ := List.head?_eq_some_iff.mp second
                obtain ⟨⟨rfl, secondToo⟩, plain⟩ := same
                obtain ⟨newText, rfl⟩ := List.head?_eq_some_iff.mp secondToo
                exact .comment (by simpa using plain)
              · rename_i goesOn
                simp only [Bool.and_eq_true, beq_iff_eq] at same
                rw [same.1]
                exact .code notString notDate (fun slash second => goesOn ⟨slash, second⟩) (ih same.2)

theorem rewords_of_reworded {literal : Literal} {line other : List Char} (reworded : Reworded literal line other) :
    rewords literal line other = true := by
  induction reworded with
  | done literal => cases literal <;> rfl
  | @code char rest _ notString notDate goesOn _ ih =>
    have noComment : ¬(char = '/' ∧ rest.head? = some '/') := fun begins => goesOn begins.1 begins.2
    simp [rewords, Literal.delimiter?, notString, notDate, noComment, ih]
  | comment plain => simpa [rewords, Literal.delimiter?] using plain
  | @opens literal _ _ _ delimits _ ih => cases literal <;> cases delimits <;> exact ih
  | closes delimits _ ih => simp [rewords, delimits, ih]
  | inside delimits other new newline _ ih => simp [rewords, delimits, other, new, newline, ih]

instance (literal : Literal) (line other : List Char) : Decidable (Reworded literal line other) :=
  decidable_of_iff (rewords literal line other = true) ⟨reworded_of_rewords, rewords_of_reworded⟩

theorem Reworded.refl (literal : Literal) {line : List Char} (plain : '\n' ∉ line) :
    Reworded literal line line := by
  induction line generalizing literal with
  | nil => exact .done literal
  | cons char rest ih =>
    rw [List.mem_cons, not_or] at plain
    have ih (literal : Literal) := ih literal plain.2
    have within {literal : Literal} {mark : Char} (delimits : literal.delimiter? = some mark) :
        Reworded literal (char :: rest) (char :: rest) := by
      by_cases closes : char = mark
      · exact closes ▸ .closes delimits (ih .none)
      · exact .inside delimits closes closes (Ne.symm plain.1) (ih literal)
    have opens {literal : Literal} (delimits : literal.delimiter? = some char) :
        Reworded .none (char :: rest) (char :: rest) := .opens delimits (ih literal)
    cases literal with
    | string => exact within rfl
    | date => exact within rfl
    | none =>
      by_cases string : char = '"'
      · exact @opens .string (string ▸ rfl)
      by_cases date : char = '\''
      · exact @opens .date (date ▸ rfl)
      by_cases comment : char = '/' ∧ rest.head? = some '/'
      · obtain ⟨rfl, second⟩ := comment
        obtain ⟨text, rfl⟩ := List.head?_eq_some_iff.mp second
        exact .comment (not_or.mp (List.mem_cons.not.mp plain.2)).2
      · exact .code string date (fun slash second => comment ⟨slash, second⟩) (ih .none)

theorem RewordedLine.refl {line : List Char} (plain : '\n' ∉ line) : RewordedLine line line := by
  by_cases bar : (Text.trimStart line).head? = some '|'
  · obtain ⟨rest, trimmed⟩ := List.head?_eq_some_iff.mp bar
    have split := List.takeWhile_append_dropWhile (p := Text.isSpace) (l := line)
    rw [← Text.trimStart, trimmed] at split
    rw [← split]
    refine .continued (List.all_eq_true.mpr fun char mem => List.mem_takeWhile_imp mem) (.refl .string ?_)
    intro newline
    exact plain (split ▸ by simp [newline])
  · exact .ordinary bar (.refl .none plain)

end BslLint.Source
