import BslLint.Json.Basic

/-! The value of a JSON number. Whole numbers in range are exact; any other number is a double, made
from at most twenty leading digits by one multiplication or division with a power of ten. -/

set_option autoImplicit false

namespace BslLint

open Number

structure JsonNumeral where
  negative : Bool
  integer : List Nat
  fraction : List Nat
  exponent : Option (Bool × List Nat)
  deriving DecidableEq, Repr

namespace JsonNumeral

def wordBound : Nat := 0x10000000000000000

/-- Takes digits while the significand fits in a word. Returns the significand and the digits left. -/
def accumulate : Nat → List Nat → Nat × List Nat
  | significand, [] => (significand, [])
  | significand, digit :: rest =>
    if significand * 10 + digit < wordBound then accumulate (significand * 10 + digit) rest
    else (significand, digit :: rest)

def powerOfTen (exponent : Nat) : Rat :=
  (binary64.round (Nat.pow 10 exponent : Rat)).getD 0

/-- Multiplies or divides by a power of ten, rounding each time; powers beyond 308 are divided out in
steps. Too large a result is none. -/
def applyExponent (magnitude : Rat) (exponent : Int) : Option Rat :=
  if 308 < exponent then if magnitude = 0 then some 0 else none
  else if 0 ≤ exponent then binary64.round (magnitude * powerOfTen exponent.toNat)
  else if -308 ≤ exponent then binary64.round (magnitude / powerOfTen (-exponent).toNat)
  else if magnitude = 0 then some 0
  else match binary64.round (magnitude / powerOfTen 308) with
    | some smaller => applyExponent smaller (exponent + 308)
    | none => none
termination_by (-exponent).toNat

def doubleOfParts (negative : Bool) (significand : Nat) (exponent : Int) : Option JsonNumber :=
  match binary64.round (significand : Rat) with
  | some magnitude => (applyExponent magnitude exponent).map fun value => .double ⟨negative, value⟩
  | none => none

def exponentValue? (digits : List Nat) : Option Nat :=
  let value := digits.foldl (fun value digit => value * 10 + digit) 0
  if value < 0x80000000 then some value else none

def value? (numeral : JsonNumeral) : Option JsonNumber :=
  let (whole, dropped) := accumulate 0 numeral.integer
  if numeral.fraction = [] ∧ numeral.exponent = none ∧ dropped = [] then
    if !numeral.negative then some (.integer whole)
    else if whole = 0 ∨ 0x8000000000000000 < whole then doubleOfParts true whole 0
    else some (.integer (-(whole : Int)))
  else
    let (significand, unused) := accumulate whole numeral.fraction
    let shift : Int := (dropped.length : Int) - ((numeral.fraction.length - unused.length : Nat) : Int)
    match numeral.exponent with
    | none => doubleOfParts numeral.negative significand shift
    | some (below, digits) =>
      match exponentValue? digits with
      | some exponent =>
        doubleOfParts numeral.negative significand (if below then shift - exponent else shift + exponent)
      | none =>
        if significand = 0 ∨ below then some (.double ⟨numeral.negative, 0⟩) else none

end JsonNumeral

end BslLint
