import BslLint.Json.Number

/-! Reading JSON texts. A text is first read for its form alone. The form has a value when its escapes
denote Unicode text, its numbers are in range, and arrays and objects nest less deep than a limit, so a
part whose value nobody asks for may break these three rules. -/

set_option autoImplicit false

namespace BslLint

/-- The form of a JSON text. Numbers and texts without a value are none. -/
inductive JsonForm where
  | null
  | bool (value : Bool)
  | number (value : Option JsonNumber)
  | string (value : Option String)
  | array (items : List JsonForm)
  | object (fields : List (Option String × JsonForm))
  deriving Repr

namespace JsonForm

instance : Inhabited JsonForm := ⟨.null⟩

def isBlank (char : Char) : Bool :=
  char == ' ' || char == '\t' || char == '\n' || char == '\r'

def skipBlanks (text : List Char) : List Char :=
  text.dropWhile isBlank

-- What a text literal is made of: characters, and code units given by number.
inductive Piece where
  | char (value : Char)
  | unit (value : Nat)
  deriving DecidableEq, Repr

def hexValue? (char : Char) : Option Nat :=
  if '0' ≤ char ∧ char ≤ '9' then some (char.toNat - '0'.toNat)
  else if 'a' ≤ char ∧ char ≤ 'f' then some (char.toNat - 'a'.toNat + 10)
  else if 'A' ≤ char ∧ char ≤ 'F' then some (char.toNat - 'A'.toNat + 10)
  else none

def hexDigits? (digits : List Char) : Option Nat :=
  digits.foldl (fun value char => do return (← value) * 16 + (← hexValue? char)) (some 0)

def escapedChar? (char : Char) : Option Char :=
  match char with
  | '"' => some '"'
  | '\\' => some '\\'
  | '/' => some '/'
  | 'b' => some '\x08'
  | 'f' => some '\x0c'
  | 'n' => some '\n'
  | 'r' => some '\r'
  | 't' => some '\t'
  | _ => none

def readPieces : List Char → Option (List Piece × List Char)
  | [] => none
  | '"' :: rest => some ([], rest)
  | '\\' :: 'u' :: a :: b :: c :: d :: rest => do
    let value ← hexDigits? [a, b, c, d]
    let (pieces, rest) ← readPieces rest
    return (.unit value :: pieces, rest)
  | '\\' :: mark :: rest => do
    let char ← escapedChar? mark
    let (pieces, rest) ← readPieces rest
    return (.char char :: pieces, rest)
  | char :: rest =>
    if char = '\\' ∨ char.toNat < 0x20 then none
    else do
      let (pieces, rest) ← readPieces rest
      return (.char char :: pieces, rest)

/-- The text that pieces denote. A code unit of the upper half of a pair needs the lower half after it,
and no lower half stands alone. -/
def decodePieces : List Piece → Option (List Char)
  | [] => some []
  | .char char :: rest => (decodePieces rest).map (char :: ·)
  | .unit high :: .unit low :: rest =>
    if 0xD800 ≤ high ∧ high < 0xDC00 then
      if 0xDC00 ≤ low ∧ low < 0xE000 then
        (decodePieces rest).map (Char.ofNat (0x10000 + (high - 0xD800) * 0x400 + (low - 0xDC00)) :: ·)
      else none
    else if 0xDC00 ≤ high ∧ high < 0xE000 then none
    else (decodePieces (.unit low :: rest)).map (Char.ofNat high :: ·)
  | .unit value :: rest =>
    if 0xD800 ≤ value ∧ value < 0xE000 then none
    else (decodePieces rest).map (Char.ofNat value :: ·)

def readString (text : List Char) : Option (Option String × List Char) := do
  let (pieces, rest) ← readPieces text
  return ((decodePieces pieces).map String.ofList, rest)

def digitsOf (text : List Char) : List Nat :=
  (text.takeWhile Text.isAsciiDigit).filterMap Text.digitValue?

def afterDigits (text : List Char) : List Char :=
  text.dropWhile Text.isAsciiDigit

def readFraction : List Char → Option (List Nat × List Char)
  | '.' :: rest => if digitsOf rest = [] then none else some (digitsOf rest, afterDigits rest)
  | text => some ([], text)

/-- An exponent mark, an optional sign and one or more digits, or nothing. -/
def readExponent : List Char → Option (Option (Bool × List Nat) × List Char)
  | mark :: rest =>
    if mark = 'e' ∨ mark = 'E' then
      let (negative, digits) := Number.takeSign rest
      if digitsOf digits = [] then none
      else some (some (negative, digitsOf digits), afterDigits digits)
    else some (none, mark :: rest)
  | [] => some (none, [])

def readNumeral (text : List Char) : Option (JsonNumeral × List Char) := do
  let (negative, unsigned) := match text with
    | '-' :: rest => (true, rest)
    | _ => (false, text)
  let integer := digitsOf unsigned
  if integer = [] ∨ (integer.head? = some 0 ∧ integer.length ≠ 1) then none
  else
    let (fraction, rest) ← readFraction (afterDigits unsigned)
    let (exponent, rest) ← readExponent rest
    return (⟨negative, integer, fraction, exponent⟩, rest)

mutual

/-- One value; each step into an array or object takes fuel. -/
def readValue (fuel : Nat) (text : List Char) : Option (JsonForm × List Char) :=
  match fuel with
  | 0 => none
  | fuel + 1 =>
    match skipBlanks text with
    | 'n' :: 'u' :: 'l' :: 'l' :: rest => some (.null, rest)
    | 't' :: 'r' :: 'u' :: 'e' :: rest => some (.bool true, rest)
    | 'f' :: 'a' :: 'l' :: 's' :: 'e' :: rest => some (.bool false, rest)
    | '"' :: rest => (readString rest).map fun (value, rest) => (.string value, rest)
    | '[' :: rest =>
      match skipBlanks rest with
      | ']' :: rest => some (.array [], rest)
      | _ => (readItems fuel rest).map fun (items, rest) => (.array items, rest)
    | '{' :: rest =>
      match skipBlanks rest with
      | '}' :: rest => some (.object [], rest)
      | _ => (readFields fuel rest).map fun (fields, rest) => (.object fields, rest)
    | text => (readNumeral text).map fun (numeral, rest) => (.number numeral.value?, rest)

/-- The items of an array that is not empty, and the rest after its bracket. -/
def readItems (fuel : Nat) (text : List Char) : Option (List JsonForm × List Char) :=
  match fuel with
  | 0 => none
  | fuel + 1 => do
    let (item, rest) ← readValue fuel text
    match skipBlanks rest with
    | ',' :: rest => do
      let (items, rest) ← readItems fuel rest
      return (item :: items, rest)
    | ']' :: rest => return ([item], rest)
    | _ => none

/-- The fields of an object that is not empty, and the rest after its brace. -/
def readFields (fuel : Nat) (text : List Char) : Option (List (Option String × JsonForm) × List Char) :=
  match fuel with
  | 0 => none
  | fuel + 1 => do
    let (key, rest) ← match skipBlanks text with
      | '"' :: rest => readString rest
      | _ => none
    let (value, rest) ← match skipBlanks rest with
      | ':' :: rest => readValue fuel rest
      | _ => none
    match skipBlanks rest with
    | ',' :: rest => do
      let (fields, rest) ← readFields fuel rest
      return ((key, value) :: fields, rest)
    | '}' :: rest => return ([(key, value)], rest)
    | _ => none

end

def ofText? (text : List Char) : Option JsonForm :=
  match readValue (2 * text.length + 2) text with
  | some (form, rest) => if skipBlanks rest = [] then some form else none
  | none => none

mutual

/-- The value of a form in which at most `depth` arrays and objects are open at once. A key given twice
keeps its last value. -/
def value? (depth : Nat) : JsonForm → Option Json
  | .null => some .null
  | .bool value => some (.bool value)
  | .number value => value.map .number
  | .string value => value.map .string
  | .array items =>
    match depth with
    | 0 => none
    | depth + 1 => (itemValues? depth items).map .array
  | .object fields =>
    match depth with
    | 0 => none
    | depth + 1 => (fieldValues? depth fields).map fun pairs => .object (Dictionary.ofList pairs)

def itemValues? (depth : Nat) : List JsonForm → Option (List Json)
  | [] => some []
  | item :: rest => do return (← value? depth item) :: (← itemValues? depth rest)

def fieldValues? (depth : Nat) : List (Option String × JsonForm) → Option (List (String × Json))
  | [] => some []
  | (key, value) :: rest => do return ((← key), (← value? depth value)) :: (← fieldValues? depth rest)

end

end JsonForm

def Json.depthLimit : Nat := 127

def Json.ofText? (text : List Char) : Option Json :=
  (JsonForm.ofText? text).bind (JsonForm.value? Json.depthLimit)

end BslLint
