import BslLint.Number.Double
import BslLint.Rule.Basic
import BslLint.Source.Literal
import BslLint.Source.Word

/-! Numbers without a name. A number that a line assigns to a name has one. -/

set_option autoImplicit false

namespace BslLint

structure MagicNumber where
  /-- Numbers that may stand anywhere. -/
  authorized : List Number.Double
  /-- Whether a number may stand as an index. -/
  allowIndexes : Bool
  deriving DecidableEq, Repr

namespace MagicNumber

def authorizedKey : String := "authorizedNumbers"

def indexesKey : String := "allowMagicIndexes"

def numberOf (item : List Char) : Except ParameterError Number.Double :=
  match Number.Double.ofText? item with
  | some value => .ok value
  | none => .error (.value authorizedKey ("`" ++ String.ofList item ++ "` is not a number"))

/-- The items of a list that commas separate; blank items do not count. -/
def listItems (list : List Char) : List (List Char) :=
  ((Text.splitOn ',' list).map Text.trim).filter fun item => item != []

def authorizedOf (list : String) : Except ParameterError (List Number.Double) :=
  (listItems list.toList).mapM numberOf

def standardAuthorized : String := "-1,0,1"

def standard : MagicNumber :=
  ⟨(authorizedOf standardAuthorized).toOption.getD [], true⟩

-- White space at the start of a text, then a character that is expected.
def afterMark? (mark : Char) (text : List Char) : Option (List Char) :=
  match Text.trimStart text with
  | char :: rest => if char = mark then some rest else none
  | [] => none

def afterDigits? (text : List Char) : Option (List Char) :=
  match text with
  | char :: rest => if Text.isDigit char then some (rest.dropWhile Text.isDigit) else none
  | [] => none

/-- Whether a text is a number, with a fraction or without, and perhaps a semicolon after it. -/
def endsWithNumber (text : List Char) : Bool :=
  match afterDigits? (Text.trimStart text) with
  | none => false
  | some rest =>
    let rest := match rest with
      | '.' :: fraction => (afterDigits? fraction).getD rest
      | _ => rest
    Text.isBlank ((afterMark? ';' rest).getD rest)

/-- Whether a line of code gives a number a name: a name, an equals sign, and a number with an optional
minus. -/
def isAssignment (code : List Char) : Bool :=
  match Text.trimStart code with
  | [] => false
  | first :: rest =>
    if Source.isNameStart first then
      match afterMark? '=' (rest.dropWhile fun char => Text.isWord char || char == '.') with
      | some value => endsWithNumber ((afterMark? '-' value).getD value)
      | none => false
    else false

def numberText (number : Source.Span) : List Char :=
  number.chars.filter fun char => !Text.isSpace char

def isIndex (number : Source.Span) : Bool :=
  (Text.trimStart number.before).head? == some '[' && (Text.trimStart number.after).head? == some ']'

def isAuthorized (rule : MagicNumber) (number : Source.Span) : Bool :=
  match Number.Double.ofText? (numberText number) with
  | some value => rule.authorized.contains value
  | none => false

def isMagic (rule : MagicNumber) (number : Source.Span) : Bool :=
  !rule.isAuthorized number && !(rule.allowIndexes && isIndex number)

def checkLine (rule : MagicNumber) (number : Nat) (line : List Char) : List Source.Finding :=
  let code := Source.maskedCode line
  if isAssignment code then []
  else ((Source.signedNumbers code).filter rule.isMagic).map fun span =>
    span.finding number [String.ofList (numberText span)]

instance : Rule MagicNumber where
  configure parameters := do
    MonadExcept.ofExcept (parameters.onlyKnown [authorizedKey, indexesKey])
    let list ← MonadExcept.ofExcept (parameters.nullable? authorizedKey Json.asString?)
    let allowIndexes ← MonadExcept.ofExcept (parameters.nullable? indexesKey Json.asBool?)
    if let some list := list then
      let authorized ← MonadExcept.ofExcept (authorizedOf list)
      modify fun rule => { rule with authorized }
    if let some allowIndexes := allowIndexes then
      modify fun rule => { rule with allowIndexes }
  check rule document := Source.checkLines document rule.checkLine

end MagicNumber

end BslLint
