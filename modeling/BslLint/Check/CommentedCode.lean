import BslLint.Number.Double
import BslLint.Rule.Basic
import BslLint.Source.Literal
import BslLint.Source.Word
import BslLint.Text.Case

/-! Blocks of comment lines that look like code. -/

set_option autoImplicit false

namespace BslLint

structure CommentedCode where
  /-- The share of code from which on a block is reported, a number in single precision. -/
  threshold : Rat
  deriving DecidableEq, Repr

namespace CommentedCode

open Number

def single (value : Rat) : Rat :=
  (binary32.round value).getD 0

def standard : CommentedCode :=
  ⟨single (mkRat 9 10)⟩

def thresholdKey : String := "threshold"

def single? (value : FiniteDouble) : Option Rat :=
  (binary32.round value.magnitude).map fun magnitude => if value.negative then -magnitude else magnitude

def asDouble? : Json → Option FiniteDouble
  | .number (.integer value) => some ⟨decide (value < 0), (value.natAbs : Rat)⟩
  | .number (.double value) => some value
  | _ => none

def thresholdOf (value : FiniteDouble) : Except ParameterError Rat :=
  match single? value with
  | some threshold =>
    if 0 ≤ threshold ∧ threshold ≤ 1 then .ok threshold
    else .error (.value thresholdKey "must be between 0 and 1")
  | none => .error (.value thresholdKey "must be between 0 and 1")

def keywords : List String :=
  ["если", "иначеесли", "иначе", "конецесли", "для", "пока", "конеццикла", "процедура",
   "конецпроцедуры", "функция", "конецфункции", "возврат", "попытка", "исключение",
   "конецпопытки", "перем", "прервать", "продолжить", "if", "elsif", "else", "endif", "for",
   "while", "enddo", "procedure", "endprocedure", "function", "endfunction", "return", "try",
   "except", "endtry", "var", "break", "continue"]

def headerEnds : List String :=
  ["тогда", "цикл", "then", "do"]

def afterName? (text : List Char) : Option (List Char) :=
  match text with
  | first :: rest =>
    if Source.isNameStart first then
      some (Text.trimStart (rest.dropWhile fun char => Text.isWord char || char == '.'))
    else none
  | [] => none

def isAssignment (text : List Char) : Bool :=
  match afterName? text with
  | some ('=' :: value) => !Text.isBlank value
  | _ => false

def isCall (text : List Char) : Bool :=
  match afterName? text with
  | some ('(' :: rest) => rest.getLast? == some ')'
  | _ => false

def isDirective (text : List Char) : Bool :=
  match text with
  | mark :: next :: _ => (mark == '&' || mark == '#') && Text.isLetter next
  | _ => false

def endsWithWord (text : List Char) (word : String) : Bool :=
  let reversed := text.reverse
  let expected := word.toList.reverse
  Text.foldEq (reversed.take expected.length) expected &&
    !((reversed.drop expected.length).head?.any Text.isWord)

def firstWord (text : List Char) : String :=
  String.ofList (Text.lowercase (text.takeWhile fun char => Text.isAlphanumeric char || char == '_'))

def looksLikeCode (text : List Char) : Bool :=
  text.getLast? == some ';' || isAssignment text || isCall text || isDirective text ||
    headerEnds.any (endsWithWord text) || keywords.contains (firstWord text)

structure CommentLine where
  number : Nat
  /-- The column of the comment mark. -/
  column : Nat
  length : Nat
  text : List Char
  deriving DecidableEq, Repr

def commentLine? (number : Nat) (line : List Char) : Option CommentLine :=
  let (code, comment) := Source.splitComment line
  match comment with
  | some comment =>
    if Text.isBlank code then some ⟨number, code.length, line.length, Text.trim comment⟩ else none
  | none => none

def runs {Item : Type} : List (Option Item) → List (List Item)
  | [] => []
  | none :: rest => runs rest
  | some item :: rest =>
    match rest, runs rest with
    | some _ :: _, run :: others => (item :: run) :: others
    | _, others => [item] :: others

def blocks (document : Document) : List (List CommentLine) :=
  runs (document.numberedLines.map fun (number, line) => commentLine? number line)

def writtenTexts (block : List CommentLine) : List (List Char) :=
  (block.map CommentLine.text).filter fun text => text != []

def share (part whole : Nat) : Rat :=
  single (single (part : Rat) / single (whole : Rat))

def isCode (rule : CommentedCode) (block : List CommentLine) : Bool :=
  let texts := writtenTexts block
  !texts.isEmpty && decide (rule.threshold ≤ share (texts.countP looksLikeCode) texts.length)

def blockRange? (block : List CommentLine) : Option Source.Range :=
  match block.head?, block.getLast? with
  | some first, some last => some ⟨⟨first.number, first.column⟩, ⟨last.number, last.length⟩⟩
  | _, _ => none

instance : Rule CommentedCode where
  configure parameters := do
    MonadExcept.ofExcept (parameters.onlyKnown [thresholdKey])
    let value ← MonadExcept.ofExcept (parameters.nullable? thresholdKey asDouble?)
    if let some value := value then
      let threshold ← MonadExcept.ofExcept (thresholdOf value)
      modify fun rule => { rule with threshold }
  check rule document :=
    ((blocks document).filter rule.isCode).filterMap fun block =>
      (blockRange? block).map fun range => ⟨range, []⟩

end CommentedCode

end BslLint
