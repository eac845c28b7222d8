import BslLint.Toml.Draft
import BslLint.Toml.Moment
import BslLint.Toml.Number
import BslLint.Toml.Text

/-! Reading TOML documents. -/

set_option autoImplicit false

namespace BslLint.Toml

-- A dotted key has fewer parts, and arrays and inline tables nest less deep.
def depthLimit : Nat := 80

def isKeyChar (char : Char) : Bool :=
  char.isAlphanum || char == '-' || char == '_'

def readKeyPart (text : List Char) : Option (String × List Char) :=
  match text with
  | '"' :: rest => (readBasic (rest.length + 1) rest).map fun (chars, rest) => (String.ofList chars, rest)
  | '\'' :: rest => (readLiteral rest).map fun (chars, rest) => (String.ofList chars, rest)
  | _ =>
    if text.takeWhile isKeyChar = [] then none
    else some (String.ofList (text.takeWhile isKeyChar), text.dropWhile isKeyChar)

def readKeyParts (fuel : Nat) (text : List Char) : Option (List String × List Char) :=
  match fuel with
  | 0 => none
  | fuel + 1 => do
    let (part, rest) ← readKeyPart (skipBlanks text)
    match skipBlanks rest with
    | '.' :: rest => do
      let (parts, rest) ← readKeyParts fuel rest
      return (part :: parts, rest)
    | rest => return ([part], rest)

def readKey (text : List Char) : Option ((List String × String) × List Char) := do
  let (parts, rest) ← readKeyParts (depthLimit - 1) text
  return ((parts.dropLast, ← parts.getLast?), rest)

mutual

/-- A value, with `depth` levels of nesting left; each step takes fuel. -/
def readValue (fuel depth : Nat) (text : List Char) : Option (Toml × List Char) :=
  match fuel with
  | 0 => none
  | fuel + 1 =>
    match text with
    | '[' :: rest =>
      match depth with
      | 0 => none
      | depth + 1 => (readItems fuel depth rest).map fun (items, rest) => (.array items, rest)
    | '{' :: rest =>
      match depth with
      | 0 => none
      | depth + 1 =>
        match skipBlanks rest with
        | '}' :: rest => some (.table [], rest)
        | _ => (readInline fuel depth [] rest).map fun (entries, rest) =>
          (.table (Draft.entriesToToml entries), rest)
    | 't' :: 'r' :: 'u' :: 'e' :: rest => some (.boolean true, rest)
    | 'f' :: 'a' :: 'l' :: 's' :: 'e' :: rest => some (.boolean false, rest)
    | '"' :: _ | '\'' :: _ => (readString text).map fun (chars, rest) => (.string (String.ofList chars), rest)
    | _ => if beginsDate text || beginsTime text then readMoment text else readNumber text

/-- The items of an array after its bracket, and the rest after the closing one. -/
def readItems (fuel depth : Nat) (text : List Char) : Option (List Toml × List Char) :=
  match fuel with
  | 0 => none
  | fuel + 1 =>
    match skipTrivia (text.length + 1) text with
    | ']' :: rest => some ([], rest)
    | start => do
      let (item, rest) ← readValue fuel depth start
      match skipTrivia (rest.length + 1) rest with
      | ',' :: rest => do
        let (items, rest) ← readItems fuel depth rest
        return (item :: items, rest)
      | ']' :: rest => return ([item], rest)
      | _ => none

/-- The entries of an inline table that is not empty, and the rest after its brace. -/
def readInline (fuel depth : Nat) (entries : Draft.Entries) (text : List Char) :
    Option (Draft.Entries × List Char) :=
  match fuel with
  | 0 => none
  | fuel + 1 => do
    let ((path, key), rest) ← readKey text
    let (value, rest) ← match rest with
      | '=' :: rest => readValue fuel depth (skipBlanks rest)
      | _ => none
    let entries ← Draft.addValue entries path key value
    match skipBlanks rest with
    | ',' :: rest => readInline fuel depth entries rest
    | '}' :: rest => return (entries, rest)
    | _ => none

end

/-- A document while it is read: the finished tables, the open one, and the header that opened it. -/
structure Reading where
  finished : Draft.Entries
  current : Draft.Entries
  header : Option (List String × String)

namespace Reading

def start : Reading :=
  ⟨[], [], none⟩

def close (reading : Reading) : Option Draft.Entries :=
  match reading.header with
  | none => some reading.current
  | some (path, key) => Draft.closeTable reading.finished path key reading.current

def openTable (reading : Reading) (path : List String) (key : String) : Option Reading := do
  let (finished, current) ← Draft.openTable (← reading.close) path key
  return ⟨finished, current, some (path, key)⟩

def openElement (reading : Reading) (path : List String) (key : String) : Option Reading := do
  return ⟨← Draft.openTables (← reading.close) path key, [], some (path, key)⟩

def addValue (reading : Reading) (path : List String) (key : String) (value : Toml) : Option Reading := do
  return { reading with current := ← Draft.addValue reading.current path key value }

end Reading

def readLine (reading : Reading) (text : List Char) : Option (Reading × List Char) :=
  match text with
  | '[' :: '[' :: rest => do
    let ((path, key), rest) ← readKey rest
    match rest with
    | ']' :: ']' :: rest => return (← reading.openElement path key, ← afterLine? rest)
    | _ => none
  | '[' :: rest => do
    let ((path, key), rest) ← readKey rest
    match rest with
    | ']' :: rest => return (← reading.openTable path key, ← afterLine? rest)
    | _ => none
  | _ => do
    let ((path, key), rest) ← readKey text
    match rest with
    | '=' :: rest => do
      let (value, rest) ← readValue (rest.length + 1) (depthLimit - 1) (skipBlanks rest)
      return (← reading.addValue path key value, ← afterLine? rest)
    | _ => none

def readLines (fuel : Nat) (reading : Reading) (text : List Char) : Option Reading :=
  match fuel with
  | 0 => none
  | fuel + 1 =>
    match skipTrivia (text.length + 1) text with
    | [] => some reading
    | start => do
      let (reading, rest) ← readLine reading start
      readLines fuel reading rest

/-- Reads a document. A byte order mark in front is no part of it. -/
def ofText? (text : List Char) : Option Toml := do
  let body := match text with
    | '\uFEFF' :: rest => rest
    | _ => text
  let reading ← readLines (body.length + 1) .start body
  return .table (Draft.entriesToToml (← reading.close))

end BslLint.Toml
