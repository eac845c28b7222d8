/-! Cutting texts at separators, and simple questions about their ends. -/

set_option autoImplicit false

namespace BslLint.Text

/-- The pieces between the separators of a text; a text without separator is its only piece. -/
def splitOn (separator : Char) : List Char → List (List Char)
  | [] => [[]]
  | char :: rest =>
    if char = separator then [] :: splitOn separator rest
    else match splitOn separator rest with
      | piece :: pieces => (char :: piece) :: pieces
      | [] => [[char]]

theorem splitOn_ne_nil (separator : Char) (text : List Char) : splitOn separator text ≠ [] := by
  cases text with
  | nil => simp [splitOn]
  | cons char rest =>
    unfold splitOn
    split
    · simp
    · split <;> simp

def stripPrefix? : List Char → List Char → Option (List Char)
  | [], text => some text
  | _ :: _, [] => none
  | expected :: beginning, char :: text =>
    if expected = char then stripPrefix? beginning text else none

theorem stripPrefix?_eq_some_iff (beginning text rest : List Char) :
    stripPrefix? beginning text = some rest ↔ text = beginning ++ rest := by
  induction beginning generalizing text with
  | nil => simp [stripPrefix?]
  | cons expected beginning ih =>
    cases text with
    | nil => simp [stripPrefix?]
    | cons char text =>
      by_cases same : expected = char
      · simp [stripPrefix?, same, ih]
      · simp [stripPrefix?, same, Ne.symm same]

def eqIgnoringAsciiCase (left right : List Char) : Bool :=
  left.map Char.toLower == right.map Char.toLower

end BslLint.Text
