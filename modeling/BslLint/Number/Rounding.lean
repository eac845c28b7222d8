/-! Rounding of quotients to natural numbers and to binary floating point. Ties go to the even neighbour. -/

set_option autoImplicit false

namespace BslLint.Number

def roundHalfEven (numerator denominator : Nat) : Nat :=
  let quotient := numerator / denominator
  let remainder := numerator % denominator
  if 2 * remainder < denominator then quotient
  else if denominator < 2 * remainder then quotient + 1
  else quotient + quotient % 2

/-- The greatest power of two, as an exponent, that does not exceed a positive quotient. -/
def floorLog (numerator denominator : Nat) : Int :=
  let guess := (numerator.log2 : Int) - (denominator.log2 : Int)
  let reached :=
    if 0 ≤ guess then denominator * Nat.pow 2 guess.toNat ≤ numerator
    else denominator ≤ numerator * Nat.pow 2 (-guess).toNat
  if reached then guess else guess - 1

/-- A binary format: digits of the significand, exponent of the least positive value, and the
exponent that every value stays below. -/
structure Format where
  precision : Nat
  leastExponent : Int
  bound : Nat
  deriving DecidableEq, Repr

def binary64 : Format := ⟨53, -1074, 1024⟩

def binary32 : Format := ⟨24, -149, 128⟩

def scale (value : Nat) (exponent : Int) : Rat :=
  if 0 ≤ exponent then ((value * Nat.pow 2 exponent.toNat : Nat) : Rat)
  else mkRat value (Nat.pow 2 (-exponent).toNat)

-- The value of the format nearest to a magnitude, `none` beyond its range.
def Format.round (format : Format) (magnitude : Rat) : Option Rat :=
  let numerator := magnitude.num.toNat
  let denominator := magnitude.den
  if numerator = 0 then some 0
  else
    let exponent := max (floorLog numerator denominator - (format.precision - 1 : Nat)) format.leastExponent
    let significand :=
      if 0 ≤ exponent then roundHalfEven numerator (denominator * Nat.pow 2 exponent.toNat)
      else roundHalfEven (numerator * Nat.pow 2 (-exponent).toNat) denominator
    let value := scale significand exponent
    if value < scale 1 format.bound then some value else none

theorem Format.round_zero (format : Format) : format.round 0 = some 0 := rfl

end BslLint.Number
