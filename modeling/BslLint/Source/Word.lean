import BslLint.Source.Span
import BslLint.Text.Space
import BslLint.Text.Word

/-! The words of a line, its longest runs of word characters; and the names and numbers in them. -/

set_option autoImplicit false

namespace BslLint.Source

/-- The words of a line, where `before` has been passed, right to left. -/
def wordsFrom (before line : List Char) : List Span :=
  match line with
  | [] => []
  | char :: rest =>
    if Text.isWord char then
      have : (rest.dropWhile Text.isWord).length ≤ rest.length := (List.dropWhile_suffix _).length_le
      ⟨before, char :: rest.takeWhile Text.isWord, rest.dropWhile Text.isWord⟩ ::
        wordsFrom ((rest.takeWhile Text.isWord).reverse ++ char :: before) (rest.dropWhile Text.isWord)
    else wordsFrom (char :: before) rest
termination_by line.length

def words (line : List Char) : List Span :=
  wordsFrom [] line

def isNameStart (char : Char) : Bool :=
  Text.isLetter char || char == '_'

def name? (word : Span) : Option Span :=
  let skipped := word.chars.takeWhile fun char => !isNameStart char
  match word.chars.dropWhile fun char => !isNameStart char with
  | [] => none
  | chars => some ⟨skipped.reverse ++ word.before, chars, word.after⟩

def names (line : List Char) : List Span :=
  (words line).filterMap name?

-- A number is a word of digits, with a point and a second such word if they follow directly; a minus before it belongs
-- to it when no operand ends there.
def isNumeric (word : Span) : Bool :=
  word.chars.all Text.isDigit

def numbersOf : List Span → List Span
  | [] => []
  | [word] => if isNumeric word then [word] else []
  | word :: next :: rest =>
    if isNumeric word then
      if isNumeric next ∧ word.after.head? = some '.' ∧ next.start = word.stop + 1 then
        ⟨word.before, word.chars ++ '.' :: next.chars, next.after⟩ :: numbersOf rest
      else word :: numbersOf (next :: rest)
    else numbersOf (next :: rest)

/-- Whether an operand ends where what precedes is `before`, right to left. -/
def endsOperand (before : List Char) : Bool :=
  match Text.trimStart before with
  | char :: _ => Text.isAlphanumeric char || char == '_' || char == ')' || char == ']'
  | [] => false

def withSign (number : Span) : Span :=
  match Text.trimStart number.before with
  | '-' :: earlier =>
    if endsOperand earlier then number
    else
      let gap := number.before.takeWhile Text.isSpace
      ⟨earlier, '-' :: (gap.reverse ++ number.chars), number.after⟩
  | _ => number

def signedNumbers (line : List Char) : List Span :=
  (numbersOf (words line)).map withSign

end BslLint.Source
