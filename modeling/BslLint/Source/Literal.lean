import BslLint.Text.Space

/-! Literals and comments of a source line. A string stands in double quotes, a date in single quotes, and
a comment follows two slashes outside both. A line that begins with a bar continues a string. -/

set_option autoImplicit false

namespace BslLint.Source

inductive Literal where
  | none
  | string
  | date
  deriving DecidableEq, Repr

namespace Literal

def atLineStart (line : List Char) : Literal :=
  match Text.trimStart line with
  | '|' :: _ => .string
  | _ => .none

/-- The literal after a character, and whether the character delimits a literal. -/
def step (literal : Literal) (char : Char) : Literal × Bool :=
  match literal with
  | .none => if char = '"' then (.string, true) else if char = '\'' then (.date, true) else (.none, false)
  | .string => if char = '"' then (.none, true) else (.string, false)
  | .date => if char = '\'' then (.none, true) else (.date, false)

end Literal

/-- The code of a line that starts in `literal`, and the text of the comment after it. -/
def splitFrom (literal : Literal) : List Char → List Char × Option (List Char)
  | [] => ([], none)
  | char :: rest =>
    let (next, delimiter) := literal.step char
    if delimiter = false ∧ next = .none ∧ char = '/' ∧ rest.head? = some '/' then
      ([], some rest.tail)
    else
      let (code, comment) := splitFrom next rest
      (char :: code, comment)

def splitComment (line : List Char) : List Char × Option (List Char) :=
  splitFrom (.atLineStart line) line

def codeOf (line : List Char) : List Char :=
  (splitComment line).1

def commentOf (line : List Char) : Option (List Char) :=
  (splitComment line).2

def maskFrom (literal : Literal) : List Char → List Char
  | [] => []
  | char :: rest =>
    let (next, delimiter) := literal.step char
    (if delimiter || next == .none then char else ' ') :: maskFrom next rest

/-- Blanks out what stands inside literals. Delimiters and columns stay. -/
def maskLiterals (code : List Char) : List Char :=
  maskFrom (.atLineStart code) code

def maskedCode (line : List Char) : List Char :=
  maskLiterals (codeOf line)

theorem length_maskFrom (literal : Literal) (code : List Char) :
    (maskFrom literal code).length = code.length := by
  induction code generalizing literal with
  | nil => rfl
  | cons char rest ih => simp [maskFrom, ih]

theorem length_maskLiterals (code : List Char) : (maskLiterals code).length = code.length :=
  length_maskFrom _ code

/-- A line is its code, followed by the comment mark and the comment if there is one. -/
theorem splitFrom_append (literal : Literal) (line : List Char) :
    line = (splitFrom literal line).1 ++
      ((splitFrom literal line).2.map fun comment => '/' :: '/' :: comment).getD [] := by
  induction line generalizing literal with
  | nil => simp [splitFrom]
  | cons char rest ih =>
    by_cases mark : (literal.step char).2 = false ∧ (literal.step char).1 = .none ∧ char = '/' ∧
        rest.head? = some '/'
    · obtain ⟨_, _, slash, second⟩ := mark
      cases rest with
      | nil => simp at second
      | cons next tail =>
        simp at second
        subst slash second
        simp_all [splitFrom]
    · have step := ih (literal.step char).1
      have unfolded : splitFrom literal (char :: rest) =
          (char :: (splitFrom (literal.step char).1 rest).1, (splitFrom (literal.step char).1 rest).2) := by
        simp only [splitFrom]
        rw [if_neg mark]
      rw [unfolded]
      simpa using step

end BslLint.Source
