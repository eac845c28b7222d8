import BslLint.Proofs.Source.Masking
import Mathlib.Data.List.Induction

/-! Which literals a line has, where its comment begins, and what is blanked out in it. The comment begins at the first
two slashes outside of all literals, so that its text decides nothing about the code, and the code is masked as it is in
the line. -/

set_option autoImplicit false

namespace BslLint.Source

/-- What a line is in behind its first characters: a literal, or none. A line that begins with a bar goes on with a
string. -/
inductive Within (line : List Char) : List Char → Literal → Prop where
  | continued {rest : List Char} : Text.Leads line '|' rest → Within line [] .string
  | fresh : (∀ rest, ¬Text.Leads line '|' rest) → Within line [] .none
  | code {before : List Char} {char : Char} : Within line before .none → isDelimiter char = false →
      Within line (before ++ [char]) .none
  | opens {before : List Char} {literal : Literal} {mark : Char} : Within line before .none →
      literal.delimiter? = some mark → Within line (before ++ [mark]) literal
  | inside {before : List Char} {literal : Literal} {mark char : Char} : Within line before literal →
      literal.delimiter? = some mark → char ≠ mark → Within line (before ++ [char]) literal
  | closes {before : List Char} {literal : Literal} {mark : Char} : Within line before literal →
      literal.delimiter? = some mark → Within line (before ++ [mark]) .none

theorem Literal.past_append (literal : Literal) (first second : List Char) :
    literal.past (first ++ second) = (literal.past first).past second :=
  List.foldl_append

theorem Literal.past_concat (literal : Literal) (passed : List Char) (char : Char) :
    literal.past (passed ++ [char]) = ((literal.past passed).step char).1 :=
  literal.past_append passed [char]

theorem Literal.exists_delimits {char : Char} (delimits : isDelimiter char = true) :
    ∃ literal : Literal, literal.delimiter? = some char := by
  simp only [isDelimiter, Bool.or_eq_true, beq_iff_eq] at delimits
  rcases delimits with rfl | rfl
  · exact ⟨.string, rfl⟩
  · exact ⟨.date, rfl⟩

theorem Within.past_eq {line before : List Char} {literal : Literal} (within : Within line before literal) :
    (Literal.atLineStart line).past before = literal := by
  induction within with
  | continued leads =>
    rw [atLineStart_eq, Text.leads_iff.mp leads]
    rfl
  | fresh plain =>
    rw [atLineStart_eq, if_neg]
    · rfl
    · intro starts
      obtain ⟨rest, trimmed⟩ := List.head?_eq_some_iff.mp starts
      exact plain rest (Text.leads_iff.mpr trimmed)
  | code _ plain ih => rw [Literal.past_concat, ih, step_none plain]
  | opens _ delimits ih => rw [Literal.past_concat, ih, Literal.step_opens delimits]
  | inside _ delimits other ih => rw [Literal.past_concat, ih, Literal.step_inside delimits other]
  | closes _ delimits ih => rw [Literal.past_concat, ih, Literal.step_closes delimits]

theorem Within.step {line before : List Char} {literal : Literal} (within : Within line before literal) (char : Char) :
    Within line (before ++ [char]) (literal.step char).1 := by
  cases delimiter : literal.delimiter? with
  | some mark =>
    by_cases closes : char = mark
    · rw [closes, Literal.step_closes delimiter]
      exact within.closes delimiter
    · rw [Literal.step_inside delimiter closes]
      exact within.inside delimiter closes
  | none =>
    cases literal with
    | string | date => cases delimiter
    | none =>
      cases delimits : isDelimiter char with
      | false =>
        rw [step_none delimits]
        exact within.code delimits
      | true =>
        obtain ⟨literal, opens⟩ := Literal.exists_delimits delimits
        rw [Literal.step_opens opens]
        exact within.opens opens

theorem within_past (line before : List Char) : Within line before ((Literal.atLineStart line).past before) := by
  induction before using List.reverseRecOn with
  | nil =>
    rw [atLineStart_eq]
    split
    · rename_i starts
      obtain ⟨rest, trimmed⟩ := List.head?_eq_some_iff.mp starts
      exact .continued (Text.leads_iff.mpr trimmed)
    · rename_i plain
      exact .fresh fun rest leads => plain (by rw [Text.leads_iff.mp leads, List.head?_cons])
  | append_singleton before char ih =>
    rw [Literal.past_concat]
    exact ih.step char

/-- Behind each of its beginnings a line is in exactly one literal, or in none. -/
theorem within_iff {line before : List Char} {literal : Literal} :
    Within line before literal ↔ (Literal.atLineStart line).past before = literal := by
  constructor
  · exact Within.past_eq
  · rintro rfl
    exact within_past line before

/-- In a text that is read in a literal or outside, two slashes outside of all literals, and what stands before and
after them. -/
def Marks (literal : Literal) (line before after : List Char) : Prop :=
  line = before ++ '/' :: '/' :: after ∧ literal.past before = .none

theorem beginsComment_iff {literal : Literal} {char : Char} {rest : List Char} :
    BeginsComment literal char rest ↔ literal = .none ∧ char = '/' ∧ ∃ text, rest = '/' :: text := by
  rw [BeginsComment, List.head?_eq_some_iff]
  constructor
  · rintro ⟨_, outside, rfl, text, rfl⟩
    refine ⟨?_, rfl, text, rfl⟩
    cases literal with
    | none => rfl
    | string | date => cases outside
  · rintro ⟨rfl, rfl, text, rfl⟩
    exact ⟨rfl, rfl, rfl, text, rfl⟩

theorem marks_of_splitFrom {literal : Literal} {line code text : List Char}
    (split : splitFrom literal line = (code, some text)) : Marks literal line code text := by
  induction line generalizing literal code with
  | nil => cases split
  | cons char rest ih =>
    by_cases begins : BeginsComment literal char rest
    · rw [splitFrom_of_beginsComment begins] at split
      obtain ⟨rfl, rfl, behind, rfl⟩ := beginsComment_iff.mp begins
      cases split
      exact ⟨rfl, rfl⟩
    · rw [splitFrom_cons begins, Prod.mk.injEq] at split
      obtain ⟨rfl, comment⟩ := split
      obtain ⟨whole, outside⟩ := ih (Prod.ext rfl comment)
      exact ⟨congrArg (char :: ·) whole, outside⟩

/-- Where two slashes stand outside of all literals, a comment has begun. -/
theorem exists_comment_of_marks {literal : Literal} {line before after : List Char}
    (marks : Marks literal line before after) :
    ∃ code text, splitFrom literal line = (code, some text) ∧ code.length ≤ before.length := by
  induction before generalizing literal line with
  | nil =>
    obtain ⟨rfl, outside⟩ := marks
    have begins : BeginsComment literal '/' ('/' :: after) := beginsComment_iff.mpr ⟨outside, rfl, after, rfl⟩
    exact ⟨[], after, splitFrom_of_beginsComment begins, Nat.le_refl 0⟩
  | cons char before ih =>
    obtain ⟨rfl, outside⟩ := marks
    -- An earlier comment may take the two slashes in, but it begins no later than they do.
    by_cases begins : BeginsComment literal char (before ++ '/' :: '/' :: after)
    · exact ⟨[], _, splitFrom_of_beginsComment begins, Nat.zero_le _⟩
    · obtain ⟨code, text, split, le⟩ := ih ⟨rfl, outside⟩
      exact ⟨char :: code, text, by rw [List.cons_append, splitFrom_cons begins, split], Nat.succ_le_succ le⟩

/-- A comment begins at the first two slashes outside of all literals. -/
theorem splitFrom_eq_some_iff {literal : Literal} {line code text : List Char} :
    splitFrom literal line = (code, some text) ↔
      Marks literal line code text ∧ ∀ before after, Marks literal line before after → code.length ≤ before.length := by
  constructor
  · intro split
    refine ⟨marks_of_splitFrom split, fun before after marks => ?_⟩
    obtain ⟨_, _, same, le⟩ := exists_comment_of_marks marks
    cases split.symm.trans same
    exact le
  · rintro ⟨marks, first⟩
    obtain ⟨found, comment, split, le⟩ := exists_comment_of_marks marks
    have other := marks_of_splitFrom split
    obtain ⟨same, rest⟩ := List.append_inj (other.1.symm.trans marks.1) (le.antisymm (first _ _ other))
    rw [split, same, (List.cons.inj (List.cons.inj rest).2).2]

theorem splitFrom_eq_none_iff {literal : Literal} {line code : List Char} :
    splitFrom literal line = (code, none) ↔ code = line ∧ ∀ before after, ¬Marks literal line before after := by
  have whole := splitFrom_append literal line
  constructor
  · intro split
    rw [split] at whole
    refine ⟨by simpa using whole.symm, fun before after marks => ?_⟩
    obtain ⟨_, _, other, _⟩ := exists_comment_of_marks marks
    cases split.symm.trans other
  · rintro ⟨rfl, unmarked⟩
    cases split : splitFrom literal code with
    | mk found comment =>
      cases comment with
      | some text => exact absurd (marks_of_splitFrom split) (unmarked _ _)
      | none =>
        rw [split] at whole
        rw [Prod.mk.injEq]
        exact ⟨by simpa using whole.symm, rfl⟩

theorem splitFrom_code (literal : Literal) (line : List Char) :
    splitFrom literal (splitFrom literal line).1 = ((splitFrom literal line).1, none) := by
  refine splitFrom_eq_none_iff.mpr ⟨rfl, fun before after ⟨shape, outside⟩ => ?_⟩
  -- Two slashes in the code would stand before the comment of the line.
  have whole := splitFrom_append literal line
  rw [shape, List.append_assoc] at whole
  obtain ⟨code, text, split, le⟩ := exists_comment_of_marks ⟨whole, outside⟩
  rw [split] at shape
  have length : code.length = _ := congrArg List.length shape
  rw [List.length_append, List.length_cons] at length
  omega

/-- What stands behind the second slash does not decide what stands before the first one. -/
theorem Marks.transfer {literal : Literal} {code text before after : List Char}
    (marks : Marks literal (code ++ '/' :: '/' :: text) before after) (earlier : before.length < code.length)
    (other : List Char) : ∃ behind, Marks literal (code ++ '/' :: '/' :: other) before behind := by
  obtain ⟨shape, outside⟩ := marks
  obtain ⟨between, rfl⟩ : before <+: code :=
    List.prefix_of_prefix_length_le ⟨_, shape.symm⟩ (List.prefix_append code _) earlier.le
  rw [List.append_assoc, List.append_cancel_left_eq] at shape
  cases between with
  | nil => simp at earlier
  | cons char between =>
    obtain rfl := (List.cons.inj shape).1
    cases between with
    | nil => exact ⟨'/' :: other, by simp, outside⟩
    | cons char between =>
      obtain ⟨rfl, _⟩ := List.cons.inj (List.cons.inj shape).2
      exact ⟨between ++ '/' :: '/' :: other, by simp, outside⟩

theorem splitFrom_other {literal : Literal} {line code text : List Char}
    (split : splitFrom literal line = (code, some text)) (other : List Char) :
    splitFrom literal (code ++ '/' :: '/' :: other) = (code, some other) := by
  obtain ⟨⟨rfl, outside⟩, first⟩ := splitFrom_eq_some_iff.mp split
  refine splitFrom_eq_some_iff.mpr ⟨⟨rfl, outside⟩, fun before after marks => ?_⟩
  by_contra earlier
  obtain ⟨behind, there⟩ := marks.transfer (Nat.lt_of_not_le earlier) text
  exact earlier (first before behind there)

theorem maskFrom_append (literal : Literal) (first second : List Char) :
    maskFrom literal (first ++ second) = maskFrom literal first ++ maskFrom (literal.past first) second := by
  induction first generalizing literal with
  | nil => rfl
  | cons char first ih => exact congrArg (_ :: ·) (ih (literal.step char).1)

theorem getElem?_maskFrom (literal : Literal) (before after : List Char) (char : Char) :
    (maskFrom literal (before ++ char :: after))[before.length]? =
      some (if ((literal.past before).step char).2 || ((literal.past before).step char).1 == .none then char else ' ') := by
  rw [maskFrom_append, List.getElem?_append_right (length_maskFrom _ _).le, length_maskFrom, Nat.sub_self]
  rfl

/-- A character that stands inside a literal, between its delimiters. -/
def InLiteral (line before : List Char) (char : Char) : Prop :=
  ∃ literal mark, Within line before literal ∧ literal.delimiter? = some mark ∧ char ≠ mark

theorem InLiteral.getElem?_maskLiterals {before after : List Char} {char : Char}
    (inside : InLiteral (before ++ char :: after) before char) :
    (maskLiterals (before ++ char :: after))[before.length]? = some ' ' := by
  obtain ⟨literal, mark, within, delimits, other⟩ := inside
  rw [maskLiterals, getElem?_maskFrom, within.past_eq, Literal.step_inside delimits other]
  simp [Literal.ne_none delimits]

theorem getElem?_maskLiterals_of_not_inLiteral {before after : List Char} {char : Char}
    (outside : ¬InLiteral (before ++ char :: after) before char) :
    (maskLiterals (before ++ char :: after))[before.length]? = some char := by
  rw [maskLiterals, getElem?_maskFrom]
  have within := within_past (before ++ char :: after) before
  generalize (Literal.atLineStart (before ++ char :: after)).past before = literal at within
  cases delimiter : literal.delimiter? with
  | some mark =>
    have closes : char = mark := by
      by_contra other
      exact outside ⟨literal, mark, within, delimiter, other⟩
    rw [closes, Literal.step_closes delimiter]
    rfl
  | none =>
    cases literal with
    | string | date => cases delimiter
    | none =>
      cases delimits : isDelimiter char with
      | false =>
        rw [step_none delimits]
        rfl
      | true =>
        obtain ⟨literal, opens⟩ := Literal.exists_delimits delimits
        rw [Literal.step_opens opens]
        rfl

theorem maskLiterals_codeOf (line : List Char) :
    maskLiterals (codeOf line) = (maskLiterals line).take (codeOf line).length := by
  have whole : line = codeOf line ++ _ := splitFrom_append (.atLineStart line) line
  have masked := congrArg (maskFrom (.atLineStart line)) whole
  rw [maskFrom_append] at masked
  rw [maskLiterals, atLineStart_codeOf, maskLiterals, masked]
  exact (List.take_left' (length_maskFrom _ _)).symm

/-- Two slashes outside of all literals of a line, and what stands before and after them. -/
def CommentMark (line before after : List Char) : Prop :=
  line = before ++ '/' :: '/' :: after ∧ Within line before .none

theorem commentMark_iff {line before after : List Char} :
    CommentMark line before after ↔ Marks (.atLineStart line) line before after := by
  rw [CommentMark, Marks, within_iff]

/-- A line is its code, or its code and a comment behind the first two slashes outside of all literals. Another comment
leaves the code as it is, and without the comment there is none. Masking blanks out what stands inside literals, keeps
all other characters, and does so in the code as in the whole line. -/
theorem splitComment_agrees_maskLiterals (line : List Char) :
    (commentOf line = none ∧ codeOf line = line ∧ (∀ before after, ¬CommentMark line before after) ∨
      ∃ comment, commentOf line = some comment ∧ CommentMark line (codeOf line) comment ∧
        (∀ before after, CommentMark line before after → (codeOf line).length ≤ before.length) ∧
        ∀ other, splitComment (codeOf line ++ '/' :: '/' :: other) = (codeOf line, some other)) ∧
    splitComment (codeOf line) = (codeOf line, none) ∧
    (maskLiterals line).length = line.length ∧
    (∀ before char after, line = before ++ char :: after →
      (InLiteral line before char → (maskLiterals line)[before.length]? = some ' ') ∧
      (¬InLiteral line before char → (maskLiterals line)[before.length]? = some char)) ∧
    maskLiterals (codeOf line) = (maskLiterals line).take (codeOf line).length := by
  refine ⟨?_, ?_, length_maskLiterals line, ?_, maskLiterals_codeOf line⟩
  · simp only [commentMark_iff]
    cases split : splitFrom (.atLineStart line) line with
    | mk code comment =>
      have known : codeOf line = code := congrArg Prod.fst split
      cases comment with
      | none =>
        obtain ⟨rfl, unmarked⟩ := splitFrom_eq_none_iff.mp split
        exact .inl ⟨congrArg Prod.snd split, known, unmarked⟩
      | some text =>
        obtain ⟨marks, first⟩ := splitFrom_eq_some_iff.mp split
        rw [known]
        refine .inr ⟨text, congrArg Prod.snd split, marks, first, fun other => ?_⟩
        have start := atLineStart_append_slash code ('/' :: text)
        rw [← marks.1] at start
        rw [splitComment, atLineStart_append_slash, ← start]
        exact splitFrom_other split other
  · rw [splitComment, atLineStart_codeOf]
    exact splitFrom_code (.atLineStart line) line
  · rintro before char after rfl
    exact ⟨InLiteral.getElem?_maskLiterals, getElem?_maskLiterals_of_not_inLiteral⟩

/-- Slashes inside a string, a doubled quote and a date do not begin a comment. -/
example : splitComment "t = \"a \"\"//\"\" b\" + '//'; // c".toList =
    ("t = \"a \"\"//\"\" b\" + '//'; ".toList, some " c".toList) := by decide

end BslLint.Source
