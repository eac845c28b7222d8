import BslLint.Json.Reader
import BslLint.Xml.Basic

/-! Reading XML documents. A document type makes a document invalid, so the only entities are the five that
every document has. -/

set_option autoImplicit false

namespace BslLint.Xml

def skipSpaces (text : List Char) : List Char :=
  text.dropWhile isSpace

def after? (expected : String) (text : List Char) : Option (List Char) :=
  Text.stripPrefix? expected.toList text

/-- The text before a mark and what follows the mark. Every character before it may stand in a document. -/
def upTo? (mark : List Char) : List Char → Option (List Char × List Char)
  | [] => none
  | char :: rest =>
    match Text.stripPrefix? mark (char :: rest) with
    | some after => some ([], after)
    | none =>
      if isChar char then (upTo? mark rest).map fun (before, after) => (char :: before, after) else none

def holds (mark : List Char) : List Char → Bool
  | [] => mark.isEmpty
  | char :: rest => (Text.stripPrefix? mark (char :: rest)).isSome || holds mark rest

def readName? (text : List Char) : Option (Name × List Char) :=
  let isPart (char : Char) : Bool := isNameChar char || char == ':'
  let rest := text.dropWhile isPart
  match Text.splitOn ':' (text.takeWhile isPart) with
  | [base] => if base.head?.any isNameStart then some (⟨[], base⟩, rest) else none
  | [label, base] =>
    if label.head?.all isNameStart && base.head?.any isNameStart then some (⟨label, base⟩, rest) else none
  | _ => none

-- Carriage returns end lines like line feeds, alone or together with one.
def endLines : List Char → List Char
  | [] => []
  | '\r' :: '\n' :: rest => '\n' :: endLines rest
  | '\r' :: rest => '\n' :: endLines rest
  | char :: rest => char :: endLines rest

def entity? (name : List Char) : Option Char :=
  match String.ofList name with
  | "lt" => some '<'
  | "gt" => some '>'
  | "amp" => some '&'
  | "apos" => some '\''
  | "quot" => some '"'
  | _ => none

def scalarBound : Nat := 0x100000000

/-- The character of a number; the replacement character where the number is none of a character. -/
def numbered? (value : Option Nat) : Option Char :=
  match value with
  | none => none
  | some value =>
    let char :=
      if value < 0xD800 ∨ (0xE000 ≤ value ∧ value < 0x110000) then Char.ofNat value else '\uFFFD'
    if value < scalarBound ∧ isChar char then some char else none

def reference? (text : List Char) : Option (Char × List Char) := do
  let body := text.takeWhile (· != ';')
  let rest ← (text.dropWhile (· != ';')).tail?
  let char ← match body with
    | '#' :: 'x' :: digits => if digits.isEmpty then none else numbered? (JsonForm.hexDigits? digits)
    | '#' :: digits => numbered? (Text.digitsValue? digits)
    | _ => entity? body
  return (char, rest)

/-- The characters that a text denotes, with references replaced. Line ends are already single characters,
and those given by number stay as they are. -/
def decode? (fuel : Nat) (text : List Char) : Option (List Char) :=
  match fuel with
  | 0 => none
  | fuel + 1 =>
    match text with
    | [] => some []
    | '&' :: rest => do
      let (char, rest) ← reference? rest
      return char :: (← decode? fuel rest)
    | char :: rest => do return char :: (← decode? fuel rest)

def readValue? (text : List Char) : Option (List Char × List Char) := do
  let quote ← text.head?
  if quote ≠ '"' ∧ quote ≠ '\'' then none
  else
    let (value, rest) ← upTo? [quote] text.tail
    if value.contains '<' then none
    else return (← decode? (value.length + 1) (endLines value), rest)

def readAttribute? (text : List Char) : Option (Attribute × List Char) := do
  let (name, rest) ← readName? text
  let rest ← after? "=" (skipSpaces rest)
  let (value, rest) ← readValue? (skipSpaces rest)
  return (⟨name, value⟩, rest)

/-- The attributes of a tag, each after white space, and whether the tag is empty. -/
def readAttributes? (fuel : Nat) (text : List Char) : Option (List Attribute × Bool × List Char) :=
  match fuel with
  | 0 => none
  | fuel + 1 =>
    match skipSpaces text with
    | '/' :: '>' :: rest => some ([], true, rest)
    | '>' :: rest => some ([], false, rest)
    | start => do
      if (text.head?.any isSpace) then
        let (first, rest) ← readAttribute? start
        let (attributes, isEmpty, rest) ← readAttributes? fuel rest
        return (first :: attributes, isEmpty, rest)
      else none

/-- The rest after a comment, whose opening mark was passed. Two hyphens stand only at its end. -/
def afterComment? (text : List Char) : Option (List Char) := do
  let (body, rest) ← upTo? "-->".toList text
  if holds ['-', '-'] body ∨ body.getLast? = some '-' then none else return rest

def afterInstruction? (text : List Char) : Option (List Char) := do
  if (after? "xml " text).isSome then none
  else
    let isPart (char : Char) : Bool := isNameChar char || char == ':'
    match text.head? with
    | some first =>
      if isNameStart first || first == ':' then
        let (_, rest) ← upTo? "?>".toList (text.dropWhile isPart)
        return rest
      else none
    | none => none

/-- Adds text in front of nodes; adjacent texts are one. -/
def addText (chars : List Char) (nodes : List Node) : List Node :=
  match nodes with
  | .text rest :: nodes => .text (chars ++ rest) :: nodes
  | _ => .text chars :: nodes

mutual

def readElement? (fuel : Nat) (text : List Char) : Option (Node × List Char) :=
  match fuel with
  | 0 => none
  | fuel + 1 => do
    let (name, rest) ← readName? text
    let (attributes, isEmpty, rest) ← readAttributes? (rest.length + 1) rest
    if isEmpty then return (.element name attributes [], rest)
    else
      let (children, rest) ← readContent? fuel name rest
      return (.element name attributes children, rest)

/-- The content of an element and its end tag, which has the name of the element. -/
def readContent? (fuel : Nat) (name : Name) (text : List Char) : Option (List Node × List Char) :=
  match fuel with
  | 0 => none
  | fuel + 1 =>
    match text with
    | [] => none
    | '<' :: '/' :: rest => do
      let (closing, rest) ← readName? rest
      let rest ← after? ">" (skipSpaces rest)
      if closing = name then return ([], rest) else none
    | '<' :: '!' :: '-' :: '-' :: rest => do
      let (nodes, rest) ← readContent? fuel name (← afterComment? rest)
      return (.comment :: nodes, rest)
    | '<' :: '!' :: '[' :: 'C' :: 'D' :: 'A' :: 'T' :: 'A' :: '[' :: rest => do
      let (chars, rest) ← upTo? "]]>".toList rest
      let (nodes, rest) ← readContent? fuel name rest
      return (addText (endLines chars) nodes, rest)
    | '<' :: '!' :: _ => none
    | '<' :: '?' :: rest => do
      let (nodes, rest) ← readContent? fuel name (← afterInstruction? rest)
      return (.instruction :: nodes, rest)
    | '<' :: rest => do
      let (child, rest) ← readElement? fuel rest
      let (nodes, rest) ← readContent? fuel name rest
      return (child :: nodes, rest)
    | _ => do
      let chars := text.takeWhile (· != '<')
      if !chars.all isChar ∨ holds "]]>".toList chars then none
      else
        let decoded ← decode? (chars.length + 1) (endLines chars)
        let (nodes, rest) ← readContent? fuel name (text.dropWhile (· != '<'))
        return (addText decoded nodes, rest)

end

-- The rest after white space, or nothing where the declaration ends.
def declarationSpace? (text : List Char) : Option (List Char) :=
  if text.head?.any isSpace then some (skipSpaces text)
  else if text.isEmpty ∨ (after? "?>" text).isSome then some text
  else none

-- An attribute of the declaration, if the text goes on as it begins.
def declarationPart? (beginning : String) (text : List Char) : Option (List Char) :=
  if (after? beginning text).isSome then (readAttribute? text).map Prod.snd else some text

def afterDeclaration? (text : List Char) : Option (List Char) :=
  match after? "<?xml " text with
  | none => some text
  | some rest => do
    let rest := skipSpaces rest
    if (after? "version" rest).isNone then none
    else
      let rest ← declarationSpace? (← declarationPart? "version" rest)
      let beforeEncoding := rest
      let rest ← declarationPart? "encoding" rest
      let rest ← if (after? "encoding" beforeEncoding).isSome then declarationSpace? rest else some rest
      let rest ← declarationPart? "standalone" rest
      after? "?>" (skipSpaces rest)

def afterMisc? (fuel : Nat) (text : List Char) : Option (List Char) :=
  match fuel with
  | 0 => none
  | fuel + 1 =>
    match skipSpaces text with
    | '<' :: '!' :: '-' :: '-' :: rest => do afterMisc? fuel (← afterComment? rest)
    | '<' :: '?' :: rest => do afterMisc? fuel (← afterInstruction? rest)
    | rest => some rest

/-- Reads a document as its one element. A byte order mark in front is no part of it. -/
def readDocument? (text : List Char) : Option Node := do
  let body := match text with
    | '\uFEFF' :: rest => rest
    | _ => text
  let start ← afterMisc? (body.length + 1) (← afterDeclaration? body)
  match start with
  | '<' :: rest => do
    let (root, rest) ← readElement? (2 * rest.length + 2) rest
    let rest ← afterMisc? (rest.length + 1) rest
    if rest.isEmpty then return root else none
  | _ => none

end BslLint.Xml
