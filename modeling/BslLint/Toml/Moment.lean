import BslLint.Text.Natural
import BslLint.Toml.Basic

/-! TOML dates and times. A value is kept as its normal form: date, `T`, time with the fraction of a second
shortened to at most nine digits, and offset. -/

set_option autoImplicit false

namespace BslLint.Toml

def fixedDigits? (count : Nat) (text : List Char) : Option (Nat × List Char) :=
  let digits := text.take count
  if digits.length = count then (Text.digitsValue? digits).map fun value => (value, text.drop count) else none

def twoDigits? (least most : Nat) (text : List Char) : Option (Nat × List Char) := do
  let (value, rest) ← fixedDigits? 2 text
  if least ≤ value ∧ value ≤ most then return (value, rest) else none

def after? (expected : Char) : List Char → Option (List Char)
  | char :: rest => if char = expected then some rest else none
  | [] => none

def padded (width value : Nat) : List Char :=
  let digits := Nat.toDigits 10 value
  List.replicate (width - digits.length) '0' ++ digits

def isLeapYear (year : Nat) : Bool :=
  year % 4 == 0 && (year % 100 != 0 || year % 400 == 0)

def daysIn (year month : Nat) : Nat :=
  if month = 2 then if isLeapYear year then 29 else 28
  else if month = 4 ∨ month = 6 ∨ month = 9 ∨ month = 11 then 30
  else 31

-- Whether a text begins like a date, so that it can be nothing else.
def beginsDate (text : List Char) : Bool :=
  match fixedDigits? 4 text with
  | some (_, '-' :: _) => true
  | _ => false

def beginsTime (text : List Char) : Bool :=
  match twoDigits? 0 23 text with
  | some (_, ':' :: _) => true
  | _ => false

def readDate? (text : List Char) : Option (List Char × List Char) := do
  let (year, rest) ← fixedDigits? 4 text
  let (month, rest) ← twoDigits? 1 12 (← after? '-' rest)
  let (day, rest) ← twoDigits? 1 31 (← after? '-' rest)
  if day ≤ daysIn year month then
    return (padded 4 year ++ '-' :: (padded 2 month ++ '-' :: padded 2 day), rest)
  else none

/-- The fraction of a second, shortened to nine digits and without zeros at its end. -/
def readSecondFraction? (text : List Char) : Option (List Char × List Char) :=
  match text with
  | '.' :: rest =>
    let digits := rest.takeWhile Text.isAsciiDigit
    let kept := ((digits.take 9).reverse.dropWhile (· == '0')).reverse
    if digits = [] then none
    else some (if kept = [] then [] else '.' :: kept, rest.dropWhile Text.isAsciiDigit)
  | _ => some ([], text)

def readTime? (text : List Char) : Option (List Char × List Char) := do
  let (hour, rest) ← twoDigits? 0 23 text
  let (minute, rest) ← twoDigits? 0 59 (← after? ':' rest)
  let (second, rest) ← twoDigits? 0 60 (← after? ':' rest)
  let (fraction, rest) ← readSecondFraction? rest
  return (padded 2 hour ++ ':' :: (padded 2 minute ++ ':' :: (padded 2 second ++ fraction)), rest)

def readOffset? (text : List Char) : Option (List Char × List Char) :=
  match text with
  | [] => some ([], [])
  | sign :: rest =>
    if sign = 'Z' ∨ sign = 'z' then some (['Z'], rest)
    else if sign = '+' ∨ sign = '-' then do
      let (hour, rest) ← twoDigits? 0 23 rest
      let (minute, rest) ← twoDigits? 0 59 (← after? ':' rest)
      let shown := if hour = 0 ∧ minute = 0 then '+' else sign
      return (shown :: (padded 2 hour ++ ':' :: padded 2 minute), rest)
    else some ([], text)

def readMoment (text : List Char) : Option (Toml × List Char) :=
  if beginsDate text then do
    let (date, rest) ← readDate? text
    match rest with
    | delimiter :: after =>
      if (delimiter = 'T' ∨ delimiter = 't' ∨ delimiter = ' ') ∧ beginsTime after then do
        let (time, rest) ← readTime? after
        let (offset, rest) ← readOffset? rest
        return (.moment (String.ofList (date ++ 'T' :: (time ++ offset))), rest)
      else return (.moment (String.ofList date), rest)
    | [] => return (.moment (String.ofList date), [])
  else do
    let (time, rest) ← readTime? text
    return (.moment (String.ofList time), rest)

end BslLint.Toml
