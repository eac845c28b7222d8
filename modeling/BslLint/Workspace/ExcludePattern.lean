/-! Patterns of paths to leave out. A question mark stands for one character and an asterisk for any text,
slashes included; two asterisks are a whole component and stand for any directories; brackets hold a set of
characters. -/

set_option autoImplicit false

namespace BslLint

inductive SetItem where
  | single (char : Char)
  | between (first last : Char)
  deriving DecidableEq, Repr

def SetItem.accepts (item : SetItem) (char : Char) : Bool :=
  match item with
  | .single expected => char == expected
  | .between first last => decide (first ≤ char) && decide (char ≤ last)

inductive ExcludePiece where
  | char (char : Char)
  | any
  | among (items : List SetItem)
  | except (items : List SetItem)
  | run
  | directories
  deriving DecidableEq, Repr

structure ExcludePattern where
  pieces : List ExcludePiece
  deriving DecidableEq, Repr

structure InvalidExclude where
  text : String
  deriving DecidableEq, Repr

namespace ExcludePattern

def suffixes : List Char → List (List Char)
  | [] => [[]]
  | char :: rest => (char :: rest) :: suffixes rest

def afterSlashes : List Char → List (List Char)
  | [] => [[]]
  | char :: rest => if char = '/' then rest :: afterSlashes rest else afterSlashes rest

def accepts (piece : ExcludePiece) (char : Char) : Bool :=
  match piece with
  | .char expected => char == expected
  | .any => true
  | .among items => items.any fun item => item.accepts char
  | .except items => !items.any fun item => item.accepts char
  | .run | .directories => false

def matchesFrom : List ExcludePiece → List Char → Bool
  | [], text => text.isEmpty
  | .run :: pieces, text => (suffixes text).any (matchesFrom pieces)
  | .directories :: pieces, text => (text :: afterSlashes text).any (matchesFrom pieces)
  | _ :: _, [] => false
  | piece :: pieces, char :: text => accepts piece char && matchesFrom pieces text

def excludes (pattern : ExcludePattern) (relative : List Char) : Bool :=
  matchesFrom pattern.pieces relative

/-- The items of a set: three characters with a hyphen in the middle are a range. -/
def setItems : List Char → List SetItem
  | first :: '-' :: last :: rest => .between first last :: setItems rest
  | char :: rest => .single char :: setItems rest
  | [] => []

/-- A set after its opening bracket, and the rest after the closing one. The first character belongs to the
set whatever it is. -/
def readSet? (text : List Char) : Option (List SetItem × List Char) :=
  match text with
  | [] => none
  | first :: rest =>
    match rest.dropWhile (· != ']') with
    | [] => none
    | _ :: after => some (setItems (first :: rest.takeWhile (· != ']')), after)

/-- Adds whole directories, once where two follow each other after other pieces. -/
def addDirectories (pieces : List ExcludePiece) : List ExcludePiece :=
  if 1 < pieces.length ∧ pieces.head? = some .directories then pieces else .directories :: pieces

/-- Two asterisks after `before`, the character in front of them. They have to be a whole component. -/
def readDirectories? (before : Option Char) (rest : List Char) : Option (List Char) :=
  if before = none ∨ before = some '/' then
    match rest with
    | [] => some []
    | '/' :: rest => some rest
    | _ => none
  else none

/-- Reads pieces onto those already read, which are in reverse; `before` is the character in front. -/
def readPieces? (fuel : Nat) (before : Option Char) (pieces : List ExcludePiece) (text : List Char) :
    Option (List ExcludePiece) :=
  match fuel with
  | 0 => none
  | fuel + 1 =>
    match text with
    | [] => some pieces.reverse
    | '?' :: rest => readPieces? fuel (some '?') (.any :: pieces) rest
    | '*' :: '*' :: '*' :: _ => none
    | '*' :: '*' :: rest => do
      let after ← readDirectories? before rest
      readPieces? fuel (some (if rest.isEmpty then '*' else '/')) (addDirectories pieces) after
    | '*' :: rest => readPieces? fuel (some '*') (.run :: pieces) rest
    | '[' :: '!' :: rest => do
      let (items, after) ← readSet? rest
      readPieces? fuel (some ']') (.except items :: pieces) after
    | '[' :: rest => do
      let (items, after) ← readSet? rest
      readPieces? fuel (some ']') (.among items :: pieces) after
    | char :: rest => readPieces? fuel (some char) (.char char :: pieces) rest

def ofText? (text : String) : Option ExcludePattern :=
  (readPieces? (text.length + 1) none [] text.toList).map ExcludePattern.mk

def parse (text : String) : Except InvalidExclude ExcludePattern :=
  match ofText? text with
  | some pattern => .ok pattern
  | none => .error ⟨text⟩

end ExcludePattern

end BslLint
