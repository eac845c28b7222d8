import BslLint.Json.Reader
import BslLint.Toml.Trivia

/-! TOML text literals. Basic texts stand in double quotes and know escapes, literal texts stand in single
quotes and do not; three quotes open a text over several lines. -/

set_option autoImplicit false

namespace BslLint.Toml

def scalar? (value : Nat) : Option Char :=
  if value < 0xD800 ∨ (0xE000 ≤ value ∧ value < 0x110000) then some (Char.ofNat value) else none

def readEscape? : List Char → Option (Char × List Char)
  | 'b' :: rest => some ('\x08', rest)
  | 't' :: rest => some ('\t', rest)
  | 'n' :: rest => some ('\n', rest)
  | 'f' :: rest => some ('\x0c', rest)
  | 'r' :: rest => some ('\r', rest)
  | '"' :: rest => some ('"', rest)
  | '\\' :: rest => some ('\\', rest)
  | 'u' :: rest => escaped rest 4
  | 'U' :: rest => escaped rest 8
  | _ => none
where
  escaped (rest : List Char) (count : Nat) : Option (Char × List Char) :=
    if (rest.take count).length = count then do
      let value ← JsonForm.hexDigits? (rest.take count)
      return (← scalar? value, rest.drop count)
    else none

def readBasic (fuel : Nat) (text : List Char) : Option (List Char × List Char) :=
  match fuel with
  | 0 => none
  | fuel + 1 =>
    match text with
    | [] => none
    | '"' :: rest => some ([], rest)
    | '\\' :: rest => do
      let (char, rest) ← readEscape? rest
      let (chars, rest) ← readBasic fuel rest
      return (char :: chars, rest)
    | char :: rest =>
      if isPlain char then do
        let (chars, rest) ← readBasic fuel rest
        return (char :: chars, rest)
      else none

def readLiteral : List Char → Option (List Char × List Char)
  | [] => none
  | '\'' :: rest => some ([], rest)
  | char :: rest =>
    if isPlain char then do
      let (chars, rest) ← readLiteral rest
      return (char :: chars, rest)
    else none

/-- Three to five quotes close a text over several lines; those beyond three belong to it. -/
def closing? (quote : Char) (text : List Char) : Option (List Char × List Char) :=
  let count := (text.takeWhile (· == quote)).length
  if 3 ≤ count then
    let taken := min count 5
    some (List.replicate (taken - 3) quote, text.drop taken)
  else none

/-- A basic text over several lines, after its opening quotes. A backslash at the end of a line joins the
lines. -/
def readBasicLines (fuel : Nat) (text : List Char) : Option (List Char × List Char) :=
  match fuel with
  | 0 => none
  | fuel + 1 =>
    match closing? '"' text with
    | some closed => some closed
    | none =>
      match afterNewline? text with
      | some rest => (readBasicLines fuel rest).map fun (chars, rest) => ('\n' :: chars, rest)
      | none =>
        match text with
        | [] => none
        | '\\' :: rest =>
          match afterNewline? (skipBlanks rest) with
          | some rest => readBasicLines fuel (skipBlankLines fuel rest)
          | none => do
            let (char, rest) ← readEscape? rest
            let (chars, rest) ← readBasicLines fuel rest
            return (char :: chars, rest)
        | char :: rest =>
          if isPlain char then do
            let (chars, rest) ← readBasicLines fuel rest
            return (char :: chars, rest)
          else none

def readLiteralLines (fuel : Nat) (text : List Char) : Option (List Char × List Char) :=
  match fuel with
  | 0 => none
  | fuel + 1 =>
    match closing? '\'' text with
    | some closed => some closed
    | none =>
      match afterNewline? text with
      | some rest => (readLiteralLines fuel rest).map fun (chars, rest) => ('\n' :: chars, rest)
      | none =>
        match text with
        | [] => none
        | char :: rest =>
          if isPlain char then do
            let (chars, rest) ← readLiteralLines fuel rest
            return (char :: chars, rest)
          else none

/-- A line end right after the opening quotes does not belong to the text. -/
def dropFirstNewline (text : List Char) : List Char :=
  (afterNewline? text).getD text

def readString (text : List Char) : Option (List Char × List Char) :=
  match text with
  | '"' :: '"' :: '"' :: rest => readBasicLines (rest.length + 1) (dropFirstNewline rest)
  | '\'' :: '\'' :: '\'' :: rest => readLiteralLines (rest.length + 1) (dropFirstNewline rest)
  | '"' :: rest => readBasic (rest.length + 1) rest
  | '\'' :: rest => readLiteral rest
  | _ => none

end BslLint.Toml
