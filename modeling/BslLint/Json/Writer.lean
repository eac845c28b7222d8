import BslLint.Json.Basic

/-! Writing JSON, on one line or indented by two blanks a level. -/

set_option autoImplicit false

namespace BslLint.Json

def hexDigit (value : Nat) : Char :=
  if value < 10 then Char.ofNat ('0'.toNat + value) else Char.ofNat ('a'.toNat + (value - 10))

/-- A character inside quotes. Only the quote, the backslash and control characters are escaped. -/
def escapeChar (char : Char) : List Char :=
  if char = '"' then ['\\', '"']
  else if char = '\\' then ['\\', '\\']
  else if char = '\x08' then ['\\', 'b']
  else if char = '\x0c' then ['\\', 'f']
  else if char = '\n' then ['\\', 'n']
  else if char = '\r' then ['\\', 'r']
  else if char = '\t' then ['\\', 't']
  else if char.toNat < 0x20 then
    ['\\', 'u', '0', '0', hexDigit (char.toNat / 16), hexDigit (char.toNat % 16)]
  else [char]

def quote (text : String) : List Char :=
  '"' :: (text.toList.flatMap escapeChar ++ ['"'])

def numberText : JsonNumber → List Char
  | .integer value =>
    if value < 0 then '-' :: Nat.toDigits 10 value.natAbs else Nat.toDigits 10 value.natAbs
  | .double value => value.toText

mutual

def compactChars : Json → List Char
  | .null => ['n', 'u', 'l', 'l']
  | .bool true => ['t', 'r', 'u', 'e']
  | .bool false => ['f', 'a', 'l', 's', 'e']
  | .number value => numberText value
  | .string value => quote value
  | .array items => '[' :: (compactItems items ++ [']'])
  | .object fields => '{' :: (compactFields fields ++ ['}'])

def compactItems : List Json → List Char
  | [] => []
  | [item] => compactChars item
  | item :: rest => compactChars item ++ ',' :: compactItems rest

def compactFields : List (String × Json) → List Char
  | [] => []
  | [(key, value)] => quote key ++ ':' :: compactChars value
  | (key, value) :: rest => quote key ++ ':' :: (compactChars value ++ ',' :: compactFields rest)

end

def lineStart (level : Nat) : List Char :=
  '\n' :: List.replicate (2 * level) ' '

mutual

def prettyChars (level : Nat) : Json → List Char
  | .null => ['n', 'u', 'l', 'l']
  | .bool true => ['t', 'r', 'u', 'e']
  | .bool false => ['f', 'a', 'l', 's', 'e']
  | .number value => numberText value
  | .string value => quote value
  | .array [] => ['[', ']']
  | .array (item :: rest) => '[' :: (prettyItems (level + 1) (item :: rest) ++ lineStart level ++ [']'])
  | .object [] => ['{', '}']
  | .object (field :: rest) => '{' :: (prettyFields (level + 1) (field :: rest) ++ lineStart level ++ ['}'])

def prettyItems (level : Nat) : List Json → List Char
  | [] => []
  | [item] => lineStart level ++ prettyChars level item
  | item :: rest => lineStart level ++ prettyChars level item ++ ',' :: prettyItems level rest

def prettyFields (level : Nat) : List (String × Json) → List Char
  | [] => []
  | [(key, value)] => lineStart level ++ quote key ++ [':', ' '] ++ prettyChars level value
  | (key, value) :: rest =>
    lineStart level ++ quote key ++ [':', ' '] ++ prettyChars level value ++ ',' :: prettyFields level rest

end

def compact (value : Json) : String :=
  String.ofList (compactChars value)

def pretty (value : Json) : String :=
  String.ofList (prettyChars 0 value)

end BslLint.Json
