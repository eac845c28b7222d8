import BslLint.Text.Case
import BslLint.Text.Property

/-! Sets of characters, as a pattern describes them. -/

set_option autoImplicit false

namespace BslLint.Pattern

inductive CharSet where
  | among (chars : List Char)
  | bounds (limits : List Nat)
  | union (left right : CharSet)
  | intersection (left right : CharSet)
  | complement (set : CharSet)
  /-- The characters of a set in every case. -/
  | anyCase (set : CharSet)
  /-- The characters of a set with ASCII letters in both cases. -/
  | anyAsciiCase (set : CharSet)
  deriving DecidableEq, Repr

namespace CharSet

def contains : CharSet → Char → Bool
  | .among chars, char => chars.contains char
  | .bounds limits, char => Text.within limits char.toNat
  | .union left right, char => left.contains char || right.contains char
  | .intersection left right, char => left.contains char && right.contains char
  | .complement set, char => !set.contains char
  | .anyCase set, char => set.contains char || (Text.caseVariants char).any set.contains
  | .anyAsciiCase set, char => set.contains char || set.contains char.toLower || set.contains char.toUpper

def none : CharSet :=
  .among []

def difference (left right : CharSet) : CharSet :=
  .intersection left (.complement right)

def symmetricDifference (left right : CharSet) : CharSet :=
  .union (left.difference right) (right.difference left)

def digits : CharSet :=
  .bounds Text.decimalDigitBounds

def spaces : CharSet :=
  .bounds Text.spaceBounds

def alphabetic : CharSet :=
  .union (.bounds Text.letterBounds) (.bounds Text.alphabeticSignBounds)

def words : CharSet :=
  .union (.union alphabetic digits) (.bounds Text.wordSignBounds)

theorem contains_spaces (char : Char) : spaces.contains char = Text.isSpace char := rfl

theorem contains_words (char : Char) : words.contains char = Text.isWord char := rfl

def asciiDigits : CharSet :=
  .bounds [0x30, 0x3A]

def asciiSpaces : CharSet :=
  .bounds [0x09, 0x0E, 0x20, 0x21]

def asciiWords : CharSet :=
  .bounds [0x30, 0x3A, 0x41, 0x5B, 0x5F, 0x60, 0x61, 0x7B]

def asciiClass? (name : String) : Option CharSet :=
  match name with
  | "alnum" => some (.bounds [0x30, 0x3A, 0x41, 0x5B, 0x61, 0x7B])
  | "alpha" => some (.bounds [0x41, 0x5B, 0x61, 0x7B])
  | "ascii" => some (.bounds [0x00, 0x80])
  | "blank" => some (.bounds [0x09, 0x0A, 0x20, 0x21])
  | "cntrl" => some (.bounds [0x00, 0x20, 0x7F, 0x80])
  | "digit" => some asciiDigits
  | "graph" => some (.bounds [0x21, 0x7F])
  | "lower" => some (.bounds [0x61, 0x7B])
  | "print" => some (.bounds [0x20, 0x7F])
  | "punct" => some (.bounds [0x21, 0x30, 0x3A, 0x41, 0x5B, 0x61, 0x7B, 0x7F])
  | "space" => some asciiSpaces
  | "upper" => some (.bounds [0x41, 0x5B])
  | "word" => some asciiWords
  | "xdigit" => some (.bounds [0x30, 0x3A, 0x41, 0x47, 0x61, 0x67])
  | _ => Option.none

/-- A property name without what does not count in it: case, blanks, hyphens, underscores, and a leading
`is`. -/
def propertyKey (name : List Char) : String :=
  let lower := name.map Char.toLower
  let (isPart, rest) := match lower with
    | 'i' :: 's' :: rest => (true, rest)
    | _ => (false, lower)
  let key := rest.filter fun char => char != ' ' && char != '_' && char != '-' && decide (char.toNat < 0x80)
  if isPart && key == ['c'] then "isc" else String.ofList key

def otherCategory : CharSet :=
  .complement (.union (.bounds Text.letterBounds) (.union (.bounds Text.markBounds)
    (.union (.bounds Text.numberBounds) (.union (.bounds Text.punctuationBounds)
      (.union (.bounds Text.symbolBounds) (.bounds Text.separatorBounds))))))

def property? (name : List Char) : Option CharSet :=
  let key := propertyKey name
  if key = "c" ∨ key = "other" then some otherCategory
  else if key = "alphabetic" ∨ key = "alpha" then some alphabetic
  else (Text.propertyBounds? key).map .bounds

def size : CharSet → Nat
  | .among chars => 32 + chars.foldl (fun size char => size + 32 * char.utf8Size) 0
  | .bounds limits => 64 + 40 * limits.length
  | .union left right => left.size + right.size
  | .intersection left right => left.size + right.size
  | .complement set => set.size + 500
  | .anyCase set => set.size
  | .anyAsciiCase set => set.size

end CharSet

end BslLint.Pattern
