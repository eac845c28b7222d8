/-! XML documents as trees, and the characters they are written with. -/

set_option autoImplicit false

namespace BslLint.Xml

structure Name where
  label : List Char
  base : List Char
  deriving DecidableEq, Repr

structure Attribute where
  name : Name
  value : List Char
  deriving DecidableEq, Repr

inductive Node where
  | element (name : Name) (attributes : List Attribute) (children : List Node)
  | text (chars : List Char)
  | comment
  | instruction
  deriving Repr

namespace Node

def firstText? : List Node → Option (List Char)
  | .text chars :: _ => some chars
  | _ => none

mutual

/-- The first element in document order whose name without prefix is as asked for, given by its children. -/
def findElement? (wanted : List Char → Bool) : Node → Option (List Node)
  | .element name _ children => if wanted name.base then some children else findAmong? wanted children
  | .text _ | .comment | .instruction => none

def findAmong? (wanted : List Char → Bool) : List Node → Option (List Node)
  | [] => none
  | node :: rest =>
    match findElement? wanted node with
    | some children => some children
    | none => findAmong? wanted rest

end

end Node

def isSpace (char : Char) : Bool :=
  char == ' ' || char == '\t' || char == '\n' || char == '\r'

def isChar (char : Char) : Bool :=
  if char.toNat < 0x20 then char == '\t' || char == '\n' || char == '\r'
  else char.toNat != 0xFFFE && char.toNat != 0xFFFF

def nameStartBounds : List (Nat × Nat) :=
  [(0x41, 0x5A), (0x5F, 0x5F), (0x61, 0x7A), (0xC0, 0xD6), (0xD8, 0xF6), (0xF8, 0x2FF), (0x370, 0x37D),
   (0x37F, 0x1FFF), (0x200C, 0x200D), (0x2070, 0x218F), (0x2C00, 0x2FEF), (0x3001, 0xD7FF),
   (0xF900, 0xFDCF), (0xFDF0, 0xFFFD), (0x10000, 0xEFFFF)]

def namePartBounds : List (Nat × Nat) :=
  [(0x2D, 0x2E), (0x30, 0x39), (0xB7, 0xB7), (0x300, 0x36F), (0x203F, 0x2040)]

def inRuns (runs : List (Nat × Nat)) (char : Char) : Bool :=
  runs.any fun run => decide (run.1 ≤ char.toNat) && decide (char.toNat ≤ run.2)

def isNameStart (char : Char) : Bool :=
  inRuns nameStartBounds char

def isNameChar (char : Char) : Bool :=
  isNameStart char || inRuns namePartBounds char

end BslLint.Xml
