import BslLint.Rule.Basic
import BslLint.Source.Literal
import BslLint.Source.Span
import BslLint.Text.Case
import BslLint.Text.Word

/-! Directives that load a library and do not precede all code. -/

set_option autoImplicit false

namespace BslLint

structure DirectivePosition where
  deriving DecidableEq, Repr

namespace DirectivePosition

def useWords : List String :=
  ["использовать", "use"]

inductive LineKind where
  | blank
  | directive (span : Source.Span)
  | statement
  deriving DecidableEq, Repr

def beginsWithWord (text : List Char) (word : String) : Bool :=
  Text.foldEq (text.take word.length) word.toList && !((text.drop word.length).head?.any Text.isWord)

/-- The kind of a line by its code. The span of a directive ends before white space at the end. -/
def kindOf (line : List Char) : LineKind :=
  let code := Source.codeOf line
  let indent := code.takeWhile Text.isSpace
  match Text.trim code with
  | [] => .blank
  | '#' :: rest =>
    if useWords.any (beginsWithWord rest) then
      .directive ⟨indent.reverse, '#' :: rest, line.drop (indent.length + rest.length + 1)⟩
    else .statement
  | _ :: _ => .statement

/-- The findings of lines, where `seen` tells whether a statement precedes them. -/
def checkFrom (seen : Bool) : List (Nat × List Char) → List Source.Finding
  | [] => []
  | (number, line) :: rest =>
    match kindOf line with
    | .blank => checkFrom seen rest
    | .statement => checkFrom true rest
    | .directive span =>
      if seen then span.finding number [span.text] :: checkFrom seen rest else checkFrom seen rest

instance : Rule DirectivePosition where
  check _ document := checkFrom false document.numberedLines

end DirectivePosition

end BslLint
