import BslLint.Json.Reader
import Mathlib.Data.List.Basic

/-! The grammar of JSON texts. A text is a value between blanks; arrays and objects hold values between blanks, with
commas in between. The relations say which texts write which forms, by the rules of the format alone. -/

set_option autoImplicit false

namespace BslLint

namespace JsonNumeral

def IsDigits (digits : List Nat) : Prop :=
  digits ≠ [] ∧ ∀ digit ∈ digits, digit < 10

def digitChars (digits : List Nat) : List Char :=
  digits.map Nat.digitChar

inductive FractionWritten : List Nat → List Char → Prop where
  | none : FractionWritten [] []
  | digits {digits : List Nat} : IsDigits digits → FractionWritten digits ('.' :: digitChars digits)

/-- The sign of an exponent; only the minus sign must be there. -/
inductive SignWritten : Bool → List Char → Prop where
  | none : SignWritten false []
  | plus : SignWritten false ['+']
  | minus : SignWritten true ['-']

inductive ExponentWritten : Option (Bool × List Nat) → List Char → Prop where
  | none : ExponentWritten none []
  | digits {mark : Char} {negative : Bool} {sign : List Char} {digits : List Nat} : mark ∈ ['e', 'E'] →
      SignWritten negative sign → IsDigits digits →
      ExponentWritten (some (negative, digits)) (mark :: (sign ++ digitChars digits))

/-- A minus sign or none, digits of which the first is zero only when it is the only one, a fraction and an
exponent. -/
inductive Written (numeral : JsonNumeral) : List Char → Prop where
  | parts {fraction exponent : List Char} : IsDigits numeral.integer →
      (numeral.integer.head? = some 0 → numeral.integer = [0]) → FractionWritten numeral.fraction fraction →
      ExponentWritten numeral.exponent exponent → Written numeral
        ((if numeral.negative then ['-'] else []) ++ (digitChars numeral.integer ++ (fraction ++ exponent)))

end JsonNumeral

namespace JsonForm

def Blank (text : List Char) : Prop :=
  ∀ char ∈ text, char ∈ [' ', '\t', '\n', '\r']

def escapes : List (Char × Char) :=
  [('"', '"'), ('\\', '\\'), ('/', '/'), ('b', '\x08'), ('f', '\x0c'), ('n', '\n'), ('r', '\r'), ('t', '\t')]

/-- A piece of a text literal is a character that stands for itself, a character after a backslash, or the four
hexadecimal digits of a code unit. -/
inductive Piece.Written : Piece → List Char → Prop where
  | plain {char : Char} : 0x20 ≤ char.toNat → char ≠ '"' → char ≠ '\\' → Written (.char char) [char]
  | escaped {mark char : Char} : (mark, char) ∈ escapes → Written (.char char) ['\\', mark]
  | unit {first second third fourth : Char} {a b c d : Nat} : hexValue? first = some a → hexValue? second = some b →
      hexValue? third = some c → hexValue? fourth = some d →
      Written (.unit (((a * 16 + b) * 16 + c) * 16 + d)) ['\\', 'u', first, second, third, fourth]

inductive PiecesWritten : List Piece → List Char → Prop where
  | nil : PiecesWritten [] []
  | cons {piece : Piece} {pieces : List Piece} {first rest : List Char} : piece.Written first →
      PiecesWritten pieces rest → PiecesWritten (piece :: pieces) (first ++ rest)

def textOf? (pieces : List Piece) : Option String :=
  (decodePieces pieces).map String.ofList

inductive KeyWritten : Option String → List Char → Prop where
  | quoted {before text after : List Char} {pieces : List Piece} : Blank before → PiecesWritten pieces text →
      Blank after → KeyWritten (textOf? pieces) (before ++ ('"' :: (text ++ '"' :: after)))

mutual

inductive Written : JsonForm → List Char → Prop where
  | null : Written .null ['n', 'u', 'l', 'l']
  | truth : Written (.bool true) ['t', 'r', 'u', 'e']
  | falsehood : Written (.bool false) ['f', 'a', 'l', 's', 'e']
  | number {numeral : JsonNumeral} {text : List Char} : numeral.Written text → Written (.number numeral.value?) text
  | string {pieces : List Piece} {text : List Char} : PiecesWritten pieces text →
      Written (.string (textOf? pieces)) ('"' :: (text ++ ['"']))
  | noItems {blanks : List Char} : Blank blanks → Written (.array []) ('[' :: (blanks ++ [']']))
  | items {items : List JsonForm} {text : List Char} : ItemsWritten items text →
      Written (.array items) ('[' :: (text ++ [']']))
  | noFields {blanks : List Char} : Blank blanks → Written (.object []) ('{' :: (blanks ++ ['}']))
  | fields {fields : List (Option String × JsonForm)} {text : List Char} : FieldsWritten fields text →
      Written (.object fields) ('{' :: (text ++ ['}']))

/-- A value between blanks. A whole text is one. -/
inductive Padded : JsonForm → List Char → Prop where
  | blanks {form : JsonForm} {before text after : List Char} : Blank before → Written form text → Blank after →
      Padded form (before ++ (text ++ after))

inductive ItemsWritten : List JsonForm → List Char → Prop where
  | last {item : JsonForm} {text : List Char} : Padded item text → ItemsWritten [item] text
  | more {item : JsonForm} {items : List JsonForm} {text others : List Char} : Padded item text →
      ItemsWritten items others → ItemsWritten (item :: items) (text ++ ',' :: others)

inductive FieldsWritten : List (Option String × JsonForm) → List Char → Prop where
  | last {key : Option String} {value : JsonForm} {name text : List Char} : KeyWritten key name →
      Padded value text → FieldsWritten [(key, value)] (name ++ ':' :: text)
  | more {key : Option String} {value : JsonForm} {fields : List (Option String × JsonForm)}
      {name text others : List Char} : KeyWritten key name → Padded value text → FieldsWritten fields others →
      FieldsWritten ((key, value) :: fields) (name ++ ':' :: (text ++ ',' :: others))

end

end JsonForm

end BslLint
