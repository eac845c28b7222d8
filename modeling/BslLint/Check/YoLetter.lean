import BslLint.Rule.Basic
import BslLint.Source.Literal
import BslLint.Source.Word

/-! Names with the letter Ё. -/

set_option autoImplicit false

namespace BslLint

structure YoLetter where
  deriving DecidableEq, Repr

namespace YoLetter

def hasYo (name : Source.Span) : Bool :=
  name.chars.any fun char => char == 'ё' || char == 'Ё'

def checkLine (number : Nat) (line : List Char) : List Source.Finding :=
  ((Source.names (Source.maskedCode line)).filter hasYo).map fun name => name.finding number [name.text]

instance : Rule YoLetter where
  check _ document := Source.checkLines document checkLine

end YoLetter

end BslLint
