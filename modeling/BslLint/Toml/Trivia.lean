/-! What separates the parts of a TOML text: blanks, line ends and comments. -/

set_option autoImplicit false

namespace BslLint.Toml

def isBlank (char : Char) : Bool :=
  char == ' ' || char == '\t'

def skipBlanks (text : List Char) : List Char :=
  text.dropWhile isBlank

/-- The rest after a line end: a line feed, perhaps after a carriage return. -/
def afterNewline? : List Char → Option (List Char)
  | '\n' :: rest => some rest
  | '\r' :: '\n' :: rest => some rest
  | _ => none

/-- A character that a comment or a text on one line may hold: no control character but the tab. -/
def isPlain (char : Char) : Bool :=
  char == '\t' || (decide (0x20 ≤ char.toNat) && char.toNat != 0x7F)

def skipComment : List Char → List Char
  | '#' :: rest => rest.dropWhile isPlain
  | text => text

/-- The rest of a text after blanks, perhaps a comment, and a line end or the end of the text. -/
def afterLine? (text : List Char) : Option (List Char) :=
  match skipComment (skipBlanks text) with
  | [] => some []
  | rest => afterNewline? rest

def skipTrivia (fuel : Nat) (text : List Char) : List Char :=
  match fuel with
  | 0 => text
  | fuel + 1 =>
    let rest := skipComment (skipBlanks text)
    match afterNewline? rest with
    | some rest => skipTrivia fuel rest
    | none => rest

def skipBlankLines (fuel : Nat) (text : List Char) : List Char :=
  match fuel with
  | 0 => text
  | fuel + 1 =>
    match afterNewline? (skipBlanks text) with
    | some rest => skipBlankLines fuel rest
    | none => skipBlanks text

end BslLint.Toml
