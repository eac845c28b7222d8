/-! Sets of code points; white space, and texts without the white space at their ends. -/

set_option autoImplicit false

namespace BslLint.Text

/-- Membership in the runs that ascending bounds describe: the first bound opens a run, the second closes it before
itself, the third opens the next run. -/
def within : List Nat → Nat → Bool
  | first :: stop :: rest, point => decide (first ≤ point) && (decide (point < stop) || within rest point)
  | _, _ => false

theorem within_nil (point : Nat) : within [] point = false := rfl

theorem within_cons (first stop : Nat) (rest : List Nat) (point : Nat) :
    within (first :: stop :: rest) point =
      (decide (first ≤ point) && (decide (point < stop) || within rest point)) := rfl

def spaceBounds : List Nat :=
  [0x9, 0xE, 0x20, 0x21, 0x85, 0x86, 0xA0, 0xA1, 0x1680, 0x1681, 0x2000, 0x200B, 0x2028, 0x202A,
   0x202F, 0x2030, 0x205F, 0x2060, 0x3000, 0x3001]

def isSpace (char : Char) : Bool :=
  within spaceBounds char.toNat

def trimStart (text : List Char) : List Char :=
  text.dropWhile isSpace

def trimEnd (text : List Char) : List Char :=
  (text.reverse.dropWhile isSpace).reverse

def trim (text : List Char) : List Char :=
  trimEnd (trimStart text)

def isBlank (text : List Char) : Bool :=
  text.all isSpace

theorem trimStart_eq_nil_iff (text : List Char) : trimStart text = [] ↔ isBlank text = true := by
  induction text with
  | nil => simp [trimStart, isBlank]
  | cons char rest ih =>
    by_cases space : isSpace char = true
    · have blank : isBlank (char :: rest) = isBlank rest := by simp [isBlank, space]
      rw [blank, trimStart, List.dropWhile_cons_of_pos space]
      exact ih
    · simp [trimStart, isBlank, space]

end BslLint.Text
