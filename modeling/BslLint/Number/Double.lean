import BslLint.Number.Rounding
import BslLint.Text.Natural
import BslLint.Text.Split

/-! Double-precision numbers: exact values, the decimal texts that denote them, and the shortest text
that reads back. -/

set_option autoImplicit false

namespace BslLint.Number

structure FiniteDouble where
  negative : Bool
  magnitude : Rat
  deriving DecidableEq, Repr

inductive Double where
  | notANumber
  | infinite (negative : Bool)
  | finite (value : FiniteDouble)
  deriving DecidableEq, Repr

def FiniteDouble.toRat (value : FiniteDouble) : Rat :=
  if value.negative then -value.magnitude else value.magnitude

/-- `significand * 10 ^ exponent` with a sign, rounded; out of range it is infinite. Exponents far
beyond the range are decided without computing the power. -/
def Double.ofDecimal (negative : Bool) (significand : Nat) (exponent : Int) : Double :=
  if significand = 0 then .finite ⟨negative, 0⟩
  else if exponent > 400 then .infinite negative
  else if exponent + (significand.log2 : Int) < -1200 then .finite ⟨negative, 0⟩
  else
    let magnitude : Rat :=
      if 0 ≤ exponent then ((significand * Nat.pow 10 exponent.toNat : Nat) : Rat)
      else mkRat significand (Nat.pow 10 (-exponent).toNat)
    match binary64.round magnitude with
    | some rounded => .finite ⟨negative, rounded⟩
    | none => .infinite negative

def takeSign : List Char → Bool × List Char
  | '-' :: rest => (true, rest)
  | '+' :: rest => (false, rest)
  | text => (false, text)

/-- The exponent part of a decimal text: nothing, or `e`, an optional sign and digits. -/
def exponentPart? : List Char → Option Int
  | [] => some 0
  | mark :: rest =>
    if mark = 'e' ∨ mark = 'E' then
      let (negative, digits) := takeSign rest
      (Text.digitsValue? digits).map fun value => if negative then -(value : Int) else value
    else none

/-- Digits with an optional point before, among or after them, and an optional exponent. -/
def unsignedDecimal? (negative : Bool) (text : List Char) : Option Double :=
  let whole := text.takeWhile Text.isAsciiDigit
  let rest := text.dropWhile Text.isAsciiDigit
  let (fraction, rest) := match rest with
    | '.' :: after => (after.takeWhile Text.isAsciiDigit, after.dropWhile Text.isAsciiDigit)
    | _ => ([], rest)
  match Text.digitsValue? (whole ++ fraction), exponentPart? rest with
  | some significand, some exponent =>
    some (Double.ofDecimal negative significand (exponent - fraction.length))
  | _, _ => none

/-- Reads a decimal text, `inf`, `infinity` or `nan` in any case, each with an optional sign. -/
def Double.ofText? (text : List Char) : Option Double :=
  let (negative, body) := takeSign text
  if Text.eqIgnoringAsciiCase body "inf".toList || Text.eqIgnoringAsciiCase body "infinity".toList then
    some (.infinite negative)
  else if Text.eqIgnoringAsciiCase body "nan".toList then some .notANumber
  else unsignedDecimal? negative body

/-- The decimals with `digits` significant digits next to a positive magnitude, below and above, as
significands of `10 ^ exponent`. -/
def neighbours (magnitude : Rat) (digits : Nat) (leading : Int) : List (Nat × Int) :=
  let exponent := leading - (digits : Int) + 1
  let below : Nat :=
    if 0 ≤ exponent then magnitude.num.toNat / (magnitude.den * Nat.pow 10 exponent.toNat)
    else magnitude.num.toNat * Nat.pow 10 (-exponent).toNat / magnitude.den
  [(below, exponent), (below + 1, exponent)]

/-- The greatest power of ten, as an exponent, that does not exceed a positive magnitude. -/
def leadingExponent (magnitude : Rat) : Int :=
  let numerator := magnitude.num.toNat
  let guess := ((Nat.toDigits 10 numerator).length : Int) - ((Nat.toDigits 10 magnitude.den).length : Int)
  let reached :=
    if 0 ≤ guess then magnitude.den * Nat.pow 10 guess.toNat ≤ numerator
    else magnitude.den ≤ numerator * Nat.pow 10 (-guess).toNat
  if reached then guess else guess - 1

def decimalDistance (magnitude : Rat) (candidate : Nat × Int) : Rat :=
  let value : Rat :=
    if 0 ≤ candidate.2 then ((candidate.1 * Nat.pow 10 candidate.2.toNat : Nat) : Rat)
    else mkRat candidate.1 (Nat.pow 10 (-candidate.2).toNat)
  if value < magnitude then magnitude - value else value - magnitude

def readsBack (magnitude : Rat) (candidate : Nat × Int) : Bool :=
  Double.ofDecimal false candidate.1 candidate.2 == .finite ⟨false, magnitude⟩

/-- The shortest decimal that reads back as a positive double, the nearer of two. -/
def shortestDecimal (magnitude : Rat) : Nat × Int :=
  let leading := leadingExponent magnitude
  let hits := (List.range 17).findSome? fun digits =>
    match (neighbours magnitude (digits + 1) leading).filter (readsBack magnitude) with
    | [] => none
    | [only] => some only
    | first :: second :: _ =>
      some (if decimalDistance magnitude second < decimalDistance magnitude first then second else first)
  hits.getD (0, 0)

/-- Digits with a point after the first `position`, padded with zeros where digits lack; far from the
point an exponent is written instead. -/
def placePoint (digits : List Char) (position : Int) : List Char :=
  let count : Int := digits.length
  if count ≤ position ∧ position ≤ 16 then
    digits ++ List.replicate (position - count).toNat '0' ++ ['.', '0']
  else if 0 < position ∧ position ≤ 16 then
    digits.take position.toNat ++ ['.'] ++ digits.drop position.toNat
  else if -5 < position ∧ position ≤ 0 then
    ['0', '.'] ++ List.replicate (-position).toNat '0' ++ digits
  else
    let exponent := (toString (position - 1)).toList
    match digits with
    | [first] => [first, 'e'] ++ exponent
    | first :: rest => [first, '.'] ++ rest ++ ['e'] ++ exponent
    | [] => []

/-- The text of a finite double: the shortest digits that read back, with a point or an exponent. -/
def FiniteDouble.toText (value : FiniteDouble) : List Char :=
  let sign := if value.negative then ['-'] else []
  if value.magnitude = 0 then sign ++ ['0', '.', '0']
  else
    let (significand, exponent) := shortestDecimal value.magnitude
    let digits := Nat.toDigits 10 significand
    let trimmed := (digits.reverse.dropWhile (· == '0')).reverse
    sign ++ placePoint trimmed ((digits.length : Int) + exponent)

end BslLint.Number
