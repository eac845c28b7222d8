/-! Natural numbers in decimal ASCII digits. -/

set_option autoImplicit false

namespace BslLint.Text

def digitValue? (char : Char) : Option Nat :=
  if '0' ≤ char ∧ char ≤ '9' then some (char.toNat - '0'.toNat) else none

def isAsciiDigit (char : Char) : Bool :=
  decide ('0' ≤ char) && decide (char ≤ '9')

def digitsValueFrom : Nat → List Char → Option Nat
  | value, [] => some value
  | value, char :: rest =>
    match digitValue? char with
    | some digit => digitsValueFrom (10 * value + digit) rest
    | none => none

def digitsValue? : List Char → Option Nat
  | [] => none
  | text => digitsValueFrom 0 text

/-- One or more digits, perhaps after a plus sign, with a value below a bound. -/
def boundedNatural? (bound : Nat) (text : List Char) : Option Nat :=
  let digits := match text with
    | '+' :: rest => rest
    | _ => text
  match digitsValue? digits with
  | some value => if value < bound then some value else none
  | none => none

def decimal (value : Nat) : String :=
  String.ofList (Nat.toDigits 10 value)

end BslLint.Text
