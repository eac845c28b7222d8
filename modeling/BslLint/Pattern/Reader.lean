import BslLint.Json.Reader
import BslLint.Pattern.Basic
import BslLint.Text.Natural

/-! Reading patterns. The first group that captures becomes the marked part. -/

set_option autoImplicit false

namespace BslLint.Pattern

structure Flags where
  anyCase : Bool
  multiLine : Bool
  dotAll : Bool
  swapGreed : Bool
  unicode : Bool
  returns : Bool
  /-- White space and comments between the parts of a pattern do not count. -/
  spaced : Bool
  deriving DecidableEq, Repr

namespace Flags

def standard : Flags where
  anyCase := false
  multiLine := false
  dotAll := false
  swapGreed := false
  unicode := true
  returns := false
  spaced := false

def set? (flags : Flags) (letter : Char) (value : Bool) : Option Flags :=
  match letter with
  | 'i' => some { flags with anyCase := value }
  | 'm' => some { flags with multiLine := value }
  | 's' => some { flags with dotAll := value }
  | 'U' => some { flags with swapGreed := value }
  | 'u' => some { flags with unicode := value }
  | 'R' => some { flags with returns := value }
  | 'x' => some { flags with spaced := value }
  | _ => none

def inCase (flags : Flags) (set : CharSet) : CharSet :=
  if flags.anyCase then if flags.unicode then .anyCase set else .anyAsciiCase set else set

end Flags

/-- A pattern while it is read: the rest of the text, the flags in force, the names given to groups, and
whether a group has captured. -/
structure Reading where
  text : List Char
  flags : Flags
  names : List (List Char)
  captured : Bool

abbrev Reader := StateT Reading Option

namespace Reader

def fail {Value : Type} : Reader Value :=
  fun _ => none

def peek? : Reader (Option Char) := do
  return (← get).text.head?

def peek : Reader Char := do
  match ← peek? with
  | some char => return char
  | none => fail

def flags : Reader Flags := do
  return (← get).flags

def setFlags (flags : Flags) : Reader Unit :=
  modify fun reading => { reading with flags }

def setText (text : List Char) : Reader Unit :=
  modify fun reading => { reading with text }

def pass : Reader Unit :=
  modify fun reading => { reading with text := reading.text.tail }

def afterSpace (fuel : Nat) (text : List Char) : List Char :=
  match fuel with
  | 0 => text
  | fuel + 1 =>
    match Text.trimStart text with
    | '#' :: rest => afterSpace fuel ((rest.dropWhile (· != '\n')).drop 1)
    | rest => rest

def passSpace : Reader Unit := do
  if (← flags).spaced then
    let text := (← get).text
    setText (afterSpace (text.length + 1) text)

def passWithSpace : Reader Unit := do
  pass
  passSpace

def passText? (expected : String) : Reader Bool := do
  match Text.stripPrefix? expected.toList (← get).text with
  | some rest => do
    setText rest
    return true
  | none => return false

def expect (expected : Char) : Reader Unit := do
  if (← peek) = expected then pass else fail

/-- The next character after one more, over white space where it does not count. -/
def peekBeyond? : Reader (Option Char) := do
  let text := (← get).text.tail
  if (← flags).spaced then return (afterSpace (text.length + 1) text).head? else return text.head?

end Reader

open Reader

inductive Atom where
  | literal (char : Char) (byte : Bool)
  | set (set : CharSet)
  | assertion (condition : Assertion)

def isHexDigit (char : Char) : Bool :=
  (JsonForm.hexValue? char).isSome

def scalar? (digits : List Char) : Option Char := do
  let value ← JsonForm.hexDigits? digits
  if value < 0xD800 ∨ (0xE000 ≤ value ∧ value < 0x110000) then some (Char.ofNat value) else none

def readFixedDigits : Nat → Reader (List Char)
  | 0 => return []
  | count + 1 => do
    let digit ← peek
    if isHexDigit digit then
      passWithSpace
      return digit :: (← readFixedDigits count)
    else fail

def readBracedDigits (fuel : Nat) : Reader (List Char) :=
  match fuel with
  | 0 => fail
  | fuel + 1 => do
    let digit ← peek
    if digit = '}' then
      passWithSpace
      return []
    else if isHexDigit digit then
      passWithSpace
      return digit :: (← readBracedDigits fuel)
    else fail

def readNumbered (count : Nat) : Reader Atom := do
  passWithSpace
  if (← peek) = '{' then
    passWithSpace
    let digits ← readBracedDigits ((← get).text.length + 1)
    if digits.isEmpty then fail
    match scalar? digits with
    | some char => return .literal char false
    | none => fail
  else
    match scalar? (← readFixedDigits count) with
    | some char => return .literal char (count == 2)
    | none => fail

/-- The characters up to a closing brace, without white space where it does not count. -/
def readBracedName (fuel : Nat) : Reader (List Char) :=
  match fuel with
  | 0 => fail
  | fuel + 1 => do
    let char ← peek
    if char = '}' then
      pass
      return []
    else
      passWithSpace
      return char :: (← readBracedName fuel)

def cutName? (separator : List Char) (name : List Char) : Option (List Char × List Char) :=
  match name with
  | [] => none
  | char :: rest =>
    match Text.stripPrefix? separator (char :: rest) with
    | some value => some ([], value)
    | none => (cutName? separator rest).map fun (key, value) => (char :: key, value)

/-- The set of a property, written as one letter, as a name, or as a name with a value. -/
def propertySet? (name : List Char) : Option CharSet :=
  let valued (key value : List Char) : Option CharSet :=
    if ["gc", "generalcategory", "sc", "script", "scx", "scriptextensions"].contains (CharSet.propertyKey key)
    then CharSet.property? value else none
  match cutName? ['!', '='] name with
  | some (key, value) => (valued key value).map .complement
  | none =>
    match cutName? [':'] name with
    | some (key, value) => valued key value
    | none =>
      match cutName? ['='] name with
      | some (key, value) => valued key value
      | none => CharSet.property? name

-- A set in the case that the flags ask for, complemented if it is negated.
def foldedSet (negated : Bool) (set : CharSet) : Reader CharSet := do
  let flags ← flags
  if negated then
    if flags.unicode then return .complement (flags.inCase set) else fail
  else return flags.inCase set

def readProperty (negated : Bool) : Reader Atom := do
  passWithSpace
  let first ← peek
  let name ← if first = '{' then do
      passWithSpace
      readBracedName ((← get).text.length + 1)
    else if first = '\\' then fail
    else do
      passWithSpace
      pure [first]
  if !(← flags).unicode then fail
  match propertySet? name with
  | some set => return .set (← foldedSet negated set)
  | none => fail

def classSet (letter : Char) : Reader CharSet := do
  let negated := letter.isUpper
  let set ← match letter.toLower with
    | 'd' => pure (CharSet.digits, CharSet.asciiDigits)
    | 's' => pure (CharSet.spaces, CharSet.asciiSpaces)
    | 'w' => pure (CharSet.words, CharSet.asciiWords)
    | _ => fail
  if (← flags).unicode then return if negated then .complement set.1 else set.1
  else if negated then fail
  else return set.2

def boundary (kind : Boundary) : Reader Atom := do
  return .assertion (.boundary kind (!(← flags).unicode))

def isBoundaryNameChar (char : Char) : Bool :=
  char.isAlpha || char == '-'

def readBoundaryName (fuel : Nat) : Reader (List Char) :=
  match fuel with
  | 0 => fail
  | fuel + 1 => do
    match ← peek? with
    | some char =>
      if isBoundaryNameChar char then
        passWithSpace
        return char :: (← readBoundaryName fuel)
      else return []
    | none => return []

/-- What follows the letter of a word boundary: perhaps a name in braces. Braces that hold no name belong
to a repetition. -/
def readBoundary : Reader Atom := do
  if (← peek?) ≠ some '{' then boundary .any
  else
    let start := (← get).text
    passWithSpace
    if !isBoundaryNameChar (← peek) then
      setText start
      boundary .any
    else
      let name ← readBoundaryName ((← get).text.length + 1)
      expect '}'
      match String.ofList name with
      | "start" => boundary .start
      | "end" => boundary .stop
      | "start-half" => boundary .startHalf
      | "end-half" => boundary .stopHalf
      | _ => fail

def isEscapable (char : Char) : Bool :=
  decide (char.toNat < 0x80) && !char.isAlphanum && char != '<' && char != '>'

def literalAtom (char : Char) : Reader Atom :=
  return .literal char false

def readEscape : Reader Atom := do
  pass
  let mark ← peek
  match mark with
  | 'x' => readNumbered 2
  | 'u' => readNumbered 4
  | 'U' => readNumbered 8
  | 'p' => readProperty false
  | 'P' => readProperty true
  | _ =>
    pass
    if ['d', 's', 'w', 'D', 'S', 'W'].contains mark then return .set (← classSet mark)
    else if isEscapable mark then literalAtom mark
    else match mark with
      | 'a' => literalAtom '\x07'
      | 'f' => literalAtom '\x0c'
      | 't' => literalAtom '\t'
      | 'n' => literalAtom '\n'
      | 'r' => literalAtom '\r'
      | 'v' => literalAtom '\x0b'
      | 'A' => return .assertion .textStart
      | 'z' => return .assertion .textEnd
      | 'b' => readBoundary
      | 'B' => boundary .inside
      | '<' => boundary .start
      | '>' => boundary .stop
      | _ => fail

def literalSet (char : Char) (byte : Bool) : Reader CharSet := do
  let flags ← flags
  if !flags.unicode ∧ byte ∧ 0x80 ≤ char.toNat then fail
  else if !flags.anyCase then return .among [char]
  else if flags.unicode then return .among (Text.caseVariants char)
  else return .among [char, char.toLower, char.toUpper]

structure SizedSet where
  set : CharSet
  depth : Nat

/-- The set of a bracket while it is read: its members so far, an operation that waits for its right side,
and the depth. -/
structure Members where
  sets : List CharSet
  waiting : Option ((CharSet → CharSet → CharSet) × CharSet)
  depth : Nat

namespace Members

def start : Members :=
  ⟨[], none, 0⟩

def add (members : Members) (set : CharSet) (depth : Nat) : Members :=
  { members with sets := set :: members.sets, depth := max members.depth depth }

def toSet (members : Members) (flags : Flags) : CharSet :=
  let right := members.sets.foldl (fun whole set => CharSet.union set whole) CharSet.none
  match members.waiting with
  | none => right
  | some (operation, left) => operation (flags.inCase left) (flags.inCase right)

/-- How deep the members nest. Two or more members count as one level. -/
def nesting (members : Members) : Nat :=
  let union := if 2 ≤ members.sets.length then 1 else 0
  let operation := if members.waiting.isSome then 1 else 0
  members.depth + union + operation

def operate (members : Members) (operation : CharSet → CharSet → CharSet) (flags : Flags) : Members :=
  ⟨[], some (operation, members.toSet flags), members.nesting⟩

end Members

def rangeEnd (atom : Atom) : Reader Char := do
  match atom with
  | .literal char _ => if !(← flags).unicode ∧ 0x80 ≤ char.toNat then fail else return char
  | _ => fail

/-- A member of a bracket that is no bracket itself: a character or an escape. -/
def readMember : Reader Atom := do
  let char ← peek
  if char = '\\' then readEscape
  else
    pass
    literalAtom char

def readRange : Reader CharSet := do
  let first ← readMember
  passSpace
  let next ← peek
  let beyond ← peekBeyond?
  if next ≠ '-' ∨ beyond = some ']' ∨ beyond = some '-' then
    match first with
    | .literal _ _ => do
      let char ← rangeEnd first
      return .among [char]
    | .set set => return set
    | .assertion _ => fail
  else
    passWithSpace
    let last ← readMember
    let first ← rangeEnd first
    let last ← rangeEnd last
    if first.toNat ≤ last.toNat then return .bounds [first.toNat, last.toNat + 1] else fail

/-- A class by its name, in brackets and colons; `none` where the text is no such class. -/
def asciiClass? (text : List Char) : Option (Bool × CharSet × List Char) := do
  let rest ← Text.stripPrefix? ['[', ':'] text
  let (negated, rest) := match rest with
    | '^' :: rest => (true, rest)
    | _ => (false, rest)
  let set ← CharSet.asciiClass? (String.ofList (rest.takeWhile (· != ':')))
  let rest ← Text.stripPrefix? [':', ']'] (rest.dropWhile (· != ':'))
  return (negated, set, rest)

def readHyphens (fuel : Nat) (members : Members) : Reader Members :=
  match fuel with
  | 0 => return members
  | fuel + 1 => do
    if (← peek) = '-' then
      passWithSpace
      readHyphens fuel (members.add (.among ['-']) 0)
    else return members

/-- The start of a bracket: whether it is negated, and members that count as literals only there. -/
def readOpening : Reader (Bool × Members) := do
  passWithSpace
  let negated := (← peek) = '^'
  if negated then passWithSpace
  let members ← readHyphens ((← get).text.length + 1) .start
  if members.sets.isEmpty ∧ (← peek) = ']' then
    passWithSpace
    discard peek
    return (negated, members.add (.among [']']) 0)
  else
    discard peek
    return (negated, members)

mutual

def readBracket (fuel : Nat) : Reader SizedSet :=
  match fuel with
  | 0 => fail
  | fuel + 1 => do
    let (negated, members) ← readOpening
    let members ← readMembers fuel members
    return ⟨← foldedSet negated (members.toSet (← flags)), members.nesting + 1⟩

def readMembers (fuel : Nat) (members : Members) : Reader Members :=
  match fuel with
  | 0 => fail
  | fuel + 1 => do
    passSpace
    let flags ← flags
    match (← get).text with
    | [] => fail
    | ']' :: _ =>
      pass
      return members
    | '&' :: '&' :: rest =>
      setText rest
      readMembers fuel (members.operate .intersection flags)
    | '-' :: '-' :: rest =>
      setText rest
      readMembers fuel (members.operate .difference flags)
    | '~' :: '~' :: rest =>
      setText rest
      readMembers fuel (members.operate .symmetricDifference flags)
    | '[' :: _ =>
      match asciiClass? (← get).text with
      | some (negated, set, rest) =>
        setText rest
        readMembers fuel (members.add (← foldedSet negated set) 0)
      | none =>
        let nested ← readBracket fuel
        readMembers fuel (members.add nested.set nested.depth)
    | _ =>
      let set ← readRange
      readMembers fuel (members.add set 0)

end

structure Sized where
  pattern : Pattern
  depth : Nat

/-- A part of a sequence. Flags that are set inside a sequence are a part without a pattern. -/
inductive Part where
  | flags
  | pattern (part : Sized)

namespace Part

def toPattern : Part → Pattern
  | .flags => .empty
  | .pattern part => part.pattern

def depth : Part → Nat
  | .flags => 0
  | .pattern part => part.depth

end Part

def sequenceOf (parts : List Part) : Sized :=
  let pattern := match parts with
    | [] => Pattern.empty
    | first :: rest => rest.foldl (fun whole part => .sequence whole part.toPattern) first.toPattern
  let depth := (parts.map Part.depth).foldl max 0
  ⟨pattern, if 2 ≤ parts.length then depth + 1 else depth⟩

def anyOf : List Pattern → Pattern
  | [] => .empty
  | [branch] => branch
  | branch :: rest => .either branch (anyOf rest)

def alternativesOf (branches : List Sized) : Sized :=
  let depth := (branches.map Sized.depth).foldl max 0
  ⟨anyOf (branches.map Sized.pattern), if 2 ≤ branches.length then depth + 1 else depth⟩

/-- A repetition. What matches only the empty text is not repeated. -/
def repeatedOf (part : Sized) (least : Nat) (most : Option Nat) (greedy : Bool) : Sized :=
  let pattern :=
    if part.pattern.canConsume then .repeated part.pattern least most greedy
    else .repeated part.pattern (min least 1) (some (min (most.getD 1) 1)) greedy
  ⟨pattern, part.depth + 1⟩

def repeatLast (parts : List Part) (least : Nat) (most : Option Nat) (lazy : Bool) : Reader (List Part) := do
  match parts with
  | .pattern part :: rest =>
    let greedy := lazy == (← flags).swapGreed
    return .pattern (repeatedOf part least most greedy) :: rest
  | _ => fail

def passLazy : Reader Bool := do
  if (← peek?) = some '?' then
    pass
    return true
  else return false

def numberBound : Nat := 0x100000000

-- The digits of a number, with white space where it does not count.
def readDigits (fuel : Nat) : Reader (List Char) :=
  match fuel with
  | 0 => fail
  | fuel + 1 => do
    match ← peek? with
    | some char =>
      if Text.isAsciiDigit char then
        passWithSpace
        return char :: (← readDigits fuel)
      else return []
    | none => return []

def passBlanks : Reader Unit :=
  modify fun reading => { reading with text := Text.trimStart reading.text }

/-- A number of a repetition, with white space around it. No digits are none. -/
def readCount : Reader (Option Nat) := do
  passBlanks
  let digits ← readDigits ((← get).text.length + 1)
  passBlanks
  passSpace
  match Text.digitsValue? digits with
  | none => return none
  | some value => if value < numberBound then return some value else fail

def required (count : Option Nat) : Reader Nat :=
  match count with
  | some count => return count
  | none => fail

def readCounts : Reader (Nat × Option Nat) := do
  passWithSpace
  discard peek
  let least ← readCount
  if (← peek) = ',' then
    passWithSpace
    if (← peek) = '}' then return (← required least, none)
    else
      let least ← required least
      let most ← required (← readCount)
      return (least, some most)
  else
    let least ← required least
    return (least, some least)

def readCounted (parts : List Part) : Reader (List Part) := do
  match parts with
  | .pattern _ :: _ =>
    let (least, most) ← readCounts
    expect '}'
    passSpace
    let lazy ← passLazy
    if most.any (· < least) then fail
    repeatLast parts least most lazy
  | _ => fail

/-- Flag letters up to a colon or a closing parenthesis, which is left. Flags after a hyphen are cleared,
no letter stands twice, and a hyphen does not come last. -/
def readFlags (fuel : Nat) (seen : List Char) (value : Bool) (flags : Flags) : Reader (List Char × Flags) :=
  match fuel with
  | 0 => fail
  | fuel + 1 => do
    let letter ← peek
    if letter = ':' ∨ letter = ')' then
      if seen.head? = some '-' then fail else return (seen, flags)
    else if seen.contains letter then fail
    else if letter = '-' then
      pass
      readFlags fuel (letter :: seen) false flags
    else
      match flags.set? letter value with
      | some flags =>
        pass
        readFlags fuel (letter :: seen) value flags
      | none => fail

def readGroupName : Reader Unit := do
  let reading ← get
  let name := reading.text.takeWhile (· != '>')
  let isStart (char : Char) : Bool := char == '_' || Text.isAlphabetic char
  let isPart (char : Char) : Bool :=
    char == '_' || char == '.' || char == '[' || char == ']' || Text.isAlphanumeric char
  match name with
  | [] => fail
  | first :: rest =>
    if isStart first && rest.all isPart && !reading.names.contains name then
      set { reading with text := reading.text.drop name.length, names := name :: reading.names }
      expect '>'
    else fail

/-- What the opening of a group says: its flags are set for what follows, or a group begins, which may be
the marked one. -/
inductive Opening where
  | flags (flags : Flags)
  | group (flags : Flags) (first : Bool)

-- A group that captures; the first one is marked.
def capture : Reader Opening := do
  let reading ← get
  set { reading with captured := true }
  return .group reading.flags (!reading.captured)

def readGroupOpening : Reader Opening := do
  passWithSpace
  for lookaround in ["?=", "?!", "?<=", "?<!"] do
    if ← passText? lookaround then fail
  if (← passText? "?P<") || (← passText? "?<") then
    readGroupName
    capture
  else if ← passText? "?" then
    let (seen, flags) ← readFlags ((← get).text.length + 1) [] true (← flags)
    if (← peek) = ')' then
      pass
      if seen.isEmpty then fail
      return .flags flags
    else
      pass
      return .group flags false
  else capture

def readSingle : Reader Sized := do
  let flags ← flags
  let atom ← match ← peek with
    | '\\' => readEscape
    | '.' =>
      pass
      if !flags.unicode then fail
      else if flags.dotAll then pure (.set (.complement .none))
      else if flags.returns then pure (.set (.complement (.among ['\n', '\r'])))
      else pure (.set (.complement (.among ['\n'])))
    | '^' =>
      pass
      pure (.assertion (if flags.multiLine then .lineStart flags.returns else .textStart))
    | '$' =>
      pass
      pure (.assertion (if flags.multiLine then .lineEnd flags.returns else .textEnd))
    | char =>
      pass
      literalAtom char
  match atom with
  | .literal char byte => return ⟨.charIn (← literalSet char byte), 0⟩
  | .set set => return ⟨.charIn set, 0⟩
  | .assertion condition => return ⟨.assertion condition, 0⟩

mutual

def readAlternatives (fuel : Nat) : Reader (List Sized) :=
  match fuel with
  | 0 => fail
  | fuel + 1 => do
    let branch := sequenceOf (← readParts fuel []).reverse
    if (← peek?) = some '|' then
      pass
      return branch :: (← readAlternatives fuel)
    else return [branch]

def readParts (fuel : Nat) (parts : List Part) : Reader (List Part) :=
  match fuel with
  | 0 => fail
  | fuel + 1 => do
    passSpace
    match ← peek? with
    | none | some '|' | some ')' => return parts
    | some '(' =>
      let before ← flags
      match ← readGroupOpening with
      | .flags flags =>
        setFlags flags
        readParts fuel (.flags :: parts)
      | .group flags first =>
        setFlags flags
        let inner := alternativesOf (← readAlternatives fuel)
        setFlags before
        expect ')'
        let pattern := if first then .marked inner.pattern else inner.pattern
        readParts fuel (.pattern ⟨pattern, inner.depth + 1⟩ :: parts)
    | some '[' =>
      let bracket ← readBracket fuel
      readParts fuel (.pattern ⟨.charIn bracket.set, bracket.depth⟩ :: parts)
    | some '?' =>
      pass
      readParts fuel (← repeatLast parts 0 (some 1) (← passLazy))
    | some '*' =>
      pass
      readParts fuel (← repeatLast parts 0 none (← passLazy))
    | some '+' =>
      pass
      readParts fuel (← repeatLast parts 1 none (← passLazy))
    | some '{' => do readParts fuel (← readCounted parts)
    | some _ => do readParts fuel (.pattern (← readSingle) :: parts)

end

def depthLimit : Nat := 250

def ofText? (text : List Char) : Option Pattern := do
  let start : Reading := ⟨text, .standard, [], false⟩
  let (branches, rest) ← (readAlternatives (2 * text.length + 2)).run start
  let whole := alternativesOf branches
  if rest.text.isEmpty ∧ whole.depth ≤ depthLimit ∧ whole.pattern.size ≤ sizeLimit then some whole.pattern
  else none

end BslLint.Pattern
