import BslLint.Json.Reader
import BslLint.Toml.Basic

/-! TOML numbers. Underscores may stand between digits. -/

set_option autoImplicit false

namespace BslLint.Toml

def readDigits? (isDigit : Char → Bool) : List Char → Option (List Char × List Char)
  | [] => none
  | [char] => if isDigit char then some ([char], []) else none
  | char :: '_' :: rest =>
    if isDigit char then (readDigits? isDigit rest).map fun (digits, rest) => (char :: digits, rest) else none
  | char :: next :: rest =>
    if isDigit char then
      if isDigit next then (readDigits? isDigit (next :: rest)).map fun (digits, rest) => (char :: digits, rest)
      else some ([char], next :: rest)
    else none

-- Decimal digits; a zero in front stands alone.
def readWhole? (text : List Char) : Option (List Char × List Char) :=
  match text with
  | '0' :: rest => some (['0'], rest)
  | _ => readDigits? Text.isAsciiDigit text

def hexDigitsValue (digits : List Char) (base : Nat) : Nat :=
  digits.foldl (fun value digit => value * base + (JsonForm.hexValue? digit).getD 0) 0

def integerBound : Nat := 0x8000000000000000

def readBased (base : Nat) (text : List Char) : Option (Toml × List Char) := do
  let isDigit (char : Char) : Bool := match JsonForm.hexValue? char with
    | some value => value < base
    | none => false
  let (digits, rest) ← readDigits? isDigit text
  let value := hexDigitsValue digits base
  if value < integerBound then return (.integer value, rest) else none

/-- A fraction of digits, if a point comes next; a point needs digits after it. -/
def readFraction (text : List Char) : Option (Option (List Char) × List Char) :=
  match text with
  | '.' :: rest => (readDigits? Text.isAsciiDigit rest).map fun (digits, rest) => (some digits, rest)
  | _ => some (none, text)

/-- An exponent, if its mark comes next; a mark needs digits after it. -/
def readExponent (text : List Char) : Option (Option (Bool × List Char) × List Char) :=
  match text with
  | mark :: rest =>
    if mark = 'e' ∨ mark = 'E' then
      let (negative, digits) := Number.takeSign rest
      (readDigits? Text.isAsciiDigit digits).map fun (digits, rest) => (some (negative, digits), rest)
    else some (none, text)
  | [] => some (none, [])

/-- The value of a decimal number: an integer when it has neither fraction nor exponent. Integers beyond
64 bits and positive floats beyond the range of a double have none. -/
def decimalValue? (negative : Bool) (whole : List Char) (fraction : Option (List Char))
    (exponent : Option (Bool × List Char)) : Option Toml :=
  match fraction, exponent with
  | none, none => do
    let value ← Text.digitsValue? whole
    if negative then
      if value ≤ integerBound then some (.integer (-(value : Int))) else none
    else if value < integerBound then some (.integer value) else none
  | _, _ => do
    let places := fraction.getD []
    let significand ← Text.digitsValue? (whole ++ places)
    let power : Int ← match exponent with
      | none => some 0
      | some (below, digits) =>
        (Text.digitsValue? digits).map fun value => if below then -(value : Int) else value
    let value := Number.Double.ofDecimal negative significand (power - places.length)
    if value = .infinite false then none else some (.float value)

def readNumber (text : List Char) : Option (Toml × List Char) :=
  match text with
  | '0' :: 'x' :: rest => readBased 16 rest
  | '0' :: 'o' :: rest => readBased 8 rest
  | '0' :: 'b' :: rest => readBased 2 rest
  | _ =>
    let (negative, unsigned) := Number.takeSign text
    match unsigned with
    | 'i' :: 'n' :: 'f' :: rest => some (.float (.infinite negative), rest)
    | 'n' :: 'a' :: 'n' :: rest => some (.float .notANumber, rest)
    | _ => do
      let (whole, rest) ← readWhole? unsigned
      let (fraction, rest) ← readFraction rest
      let (exponent, rest) ← readExponent rest
      return (← decimalValue? negative whole fraction exponent, rest)

end BslLint.Toml
