/-! Patterns of ignore files. They are matched byte by byte against paths relative to the directory of the
file. A question mark stands for one byte and an asterisk for bytes within a name; two asterisks between
slashes stand for any directories; brackets hold a set of bytes, and braces hold alternatives. -/

set_option autoImplicit false

namespace BslLint

structure ByteRange where
  first : UInt8
  last : UInt8
  deriving DecidableEq, Repr

inductive IgnorePiece where
  | literal (value : UInt8)
  | any
  | run
  | among (negated : Bool) (ranges : List ByteRange)
  /-- Directories before the rest, or none. -/
  | leading
  /-- A slash, and perhaps directories after it. -/
  | between
  /-- A slash, and everything below it. -/
  | trailing
  | choice (alternatives : List (List IgnorePiece))
  deriving Repr

structure IgnorePattern where
  pieces : List IgnorePiece
  deriving Repr

def slash : UInt8 := 47

namespace IgnorePiece

def afterEachSlash : List UInt8 → List (List UInt8)
  | [] => []
  | byte :: rest => if byte = slash then rest :: afterEachSlash rest else afterEachSlash rest

def remainders : List UInt8 → List (List UInt8)
  | [] => [[]]
  | byte :: rest => (byte :: rest) :: remainders rest

def withinName : List UInt8 → List (List UInt8)
  | [] => [[]]
  | byte :: rest => if byte = slash then [byte :: rest] else (byte :: rest) :: withinName rest

def inRanges (ranges : List ByteRange) (byte : UInt8) : Bool :=
  ranges.any fun range => decide (range.first ≤ byte) && decide (byte ≤ range.last)

def afterByte (accepts : UInt8 → Bool) : List UInt8 → List (List UInt8)
  | [] => []
  | byte :: rest => if accepts byte then [rest] else []

def afterSlash (remaining : List UInt8 → List (List UInt8)) : List UInt8 → List (List UInt8)
  | [] => []
  | byte :: rest => if byte = slash then remaining rest else []

mutual

def rests : IgnorePiece → List UInt8 → List (List UInt8)
  | .literal value, path => afterByte (· == value) path
  | .any, path => afterByte (· != slash) path
  | .run, path => withinName path
  | .among negated ranges, path => afterByte (fun byte => inRanges ranges byte != negated) path
  | .leading, path => path :: afterEachSlash path
  | .between, path => afterSlash (fun rest => rest :: afterEachSlash rest) path
  | .trailing, path => afterSlash remainders path
  | .choice [], path => [path]
  | .choice (first :: others), path => (restsOfAll first path ++ restsOfAny others path).eraseDups

def restsOfAll : List IgnorePiece → List UInt8 → List (List UInt8)
  | [], path => [path]
  | piece :: pieces, path => ((rests piece path).flatMap (restsOfAll pieces)).eraseDups

def restsOfAny : List (List IgnorePiece) → List UInt8 → List (List UInt8)
  | [], _ => []
  | alternative :: others, path => restsOfAll alternative path ++ restsOfAny others path

end

end IgnorePiece

namespace IgnorePattern

/-- Whether a path fits. Two asterisks alone fit every path. -/
def fits (pattern : IgnorePattern) (path : List UInt8) : Bool :=
  match pattern.pieces with
  | [.leading] => true
  | pieces => (IgnorePiece.restsOfAll pieces path).contains []

def charBytes (char : Char) : List IgnorePiece :=
  (String.utf8EncodeChar char).map IgnorePiece.literal

/-- The bytes of a set member: those of a character, or those of two with a range between the last byte of
the one and the first of the other. -/
def memberRanges (first last : Char) : List ByteRange :=
  let single (byte : UInt8) : ByteRange := ⟨byte, byte⟩
  let low := String.utf8EncodeChar first
  if first = last then low.map single
  else
    match low.reverse, String.utf8EncodeChar last with
    | end1 :: before, start :: after => before.reverse.map single ++ ⟨end1, start⟩ :: after.map single
    | _, _ => []

/-- The members of a set while it is read, last first, and whether a hyphen waits for the end of a range. -/
structure SetDraft where
  members : List (Char × Char)
  waiting : Bool

/-- What comes of a set: it is complete, it never closes, or a range runs backwards. -/
inductive SetOutcome where
  | complete (members : List (Char × Char)) (after : List Char)
  | unclosed
  | backwards

def SetDraft.add? (draft : SetDraft) (char : Char) : Option SetDraft :=
  match draft.waiting, draft.members with
  | true, (first, _) :: others => if char < first then none else some ⟨(first, char) :: others, false⟩
  | _, members => some ⟨(char, char) :: members, false⟩

def SetDraft.finished (draft : SetDraft) : List (Char × Char) :=
  (if draft.waiting then ('-', '-') :: draft.members else draft.members).reverse

/-- Reads a set after its opening bracket. The first character belongs to it whatever it is. -/
def readSet (draft : SetDraft) : List Char → SetOutcome
  | [] => .unclosed
  | char :: rest =>
    if char = ']' ∧ draft.members ≠ [] then .complete draft.finished rest
    else if char = '-' ∧ draft.members ≠ [] ∧ !draft.waiting then readSet { draft with waiting := true } rest
    else
      match draft.add? char with
      | some draft => readSet draft rest
      | none => .backwards

/-- Braces that are open: the pieces before them, last first, and the alternatives that are complete. -/
structure OpenChoice where
  before : List IgnorePiece
  alternatives : List (List IgnorePiece)

/-- A pattern while it is read: the open braces, innermost first; the pieces since, last first; the character
in front; and whether brackets have lost their meaning because one never closes. -/
structure Draft where
  choices : List OpenChoice
  pieces : List IgnorePiece
  before : Option Char
  plainBrackets : Bool

namespace Draft

def start : Draft :=
  ⟨[], [], none, false⟩

def push (draft : Draft) (before : Char) (pieces : List IgnorePiece) : Draft :=
  { draft with pieces := pieces.reverse ++ draft.pieces, before := some before }

def isVoid (pieces : List IgnorePiece) : Bool :=
  pieces.all fun
    | .choice [] => true
    | _ => false

/-- Ends the innermost braces; there have to be some. Alternatives without content do not count. -/
def close? (draft : Draft) : Option Draft :=
  match draft.choices with
  | [] => none
  | choice :: others =>
    let alternatives := (choice.alternatives ++ [draft.pieces.reverse]).filter fun pieces => !isVoid pieces
    some { draft with
      choices := others, pieces := .choice alternatives :: choice.before, before := some '\x7d' }

/-- Ends an alternative; outside of braces a comma stands for itself. -/
def comma (draft : Draft) : Draft :=
  match draft.choices with
  | [] => draft.push ',' (charBytes ',')
  | choice :: others =>
    { draft with
      choices := { choice with alternatives := choice.alternatives ++ [draft.pieces.reverse] } :: others
      pieces := []
      before := some ',' }

def openChoice (draft : Draft) : Draft :=
  { draft with choices := ⟨draft.pieces, []⟩ :: draft.choices, pieces := [], before := some '\x7b' }

def twoRuns (draft : Draft) : Draft :=
  draft.push '*' [.run, .run]

/-- Puts directories in the place of the slash before them; leading directories already cover more. -/
def directories (draft : Draft) (before : Char) (piece : IgnorePiece) : Draft :=
  match draft.pieces with
  | .leading :: _ => { draft with before := some before }
  | pieces => { draft with pieces := piece :: pieces.tail, before := some before }

-- Two asterisks before `rest`: the draft after them, and what is left.
def doubleAsterisk (draft : Draft) (rest : List Char) : Draft × List Char :=
  if draft.pieces.isEmpty then
    match rest with
    | [] => (draft.push '*' [.leading], [])
    | '/' :: after => (draft.push '/' [.leading], after)
    | _ => (draft.twoRuns, rest)
  else if draft.before ≠ some '/' then (draft.twoRuns, rest)
  else
    match rest with
    | [] => (draft.directories '*' .trailing, [])
    | '/' :: after => (draft.directories '/' .between, after)
    | char :: _ =>
      if (char = ',' ∨ char = '\x7d') ∧ draft.choices ≠ [] then (draft.directories '*' .trailing, rest)
      else (draft.twoRuns, rest)

end Draft

def readNegation : List Char → Bool × List Char
  | '!' :: rest => (true, rest)
  | '^' :: rest => (true, rest)
  | text => (false, text)

def readPieces? (fuel : Nat) (draft : Draft) (text : List Char) : Option Draft :=
  match fuel with
  | 0 => none
  | fuel + 1 =>
    match text with
    | [] => some draft
    | '?' :: rest => readPieces? fuel (draft.push '?' [.any]) rest
    | '*' :: '*' :: rest =>
      let (draft, after) := draft.doubleAsterisk rest
      readPieces? fuel draft after
    | '*' :: rest => readPieces? fuel (draft.push '*' [.run]) rest
    | '\x7b' :: rest => readPieces? fuel draft.openChoice rest
    | '\x7d' :: rest => draft.close?.bind fun draft => readPieces? fuel draft rest
    | ',' :: rest => readPieces? fuel draft.comma rest
    | '\\' :: char :: rest => readPieces? fuel (draft.push char (charBytes char)) rest
    | ['\\'] => none
    | '[' :: rest =>
      if draft.plainBrackets then readPieces? fuel (draft.push '[' (charBytes '[')) rest
      else
        let (negated, members) := readNegation rest
        match readSet ⟨[], false⟩ members with
        | .complete members after =>
          let ranges := members.flatMap fun (first, last) => memberRanges first last
          readPieces? fuel (draft.push ']' [.among negated ranges]) after
        | .unclosed =>
          readPieces? fuel { draft.push '[' (charBytes '[') with plainBrackets := true } rest
        | .backwards => none
    | char :: rest => readPieces? fuel (draft.push char (charBytes char)) rest

-- A pattern by its text; its braces have to match.
def ofText? (text : List Char) : Option IgnorePattern := do
  let draft ← readPieces? (text.length + 1) Draft.start text
  if draft.choices.isEmpty then return ⟨draft.pieces.reverse⟩ else none

end IgnorePattern

end BslLint
