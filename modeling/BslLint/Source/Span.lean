import BslLint.Source.Document
import BslLint.Source.Position

/-! Findings, the parts of a line that they are about, and the columns of those. -/

set_option autoImplicit false

namespace BslLint.Source

/-- Where a check found a problem, and what fills the placeholders of its message. -/
structure Finding where
  range : Range
  arguments : List String
  deriving DecidableEq, Repr

def checkLines (document : Document) (check : Nat → List Char → List Finding) : List Finding :=
  document.numberedLines.flatMap fun (number, line) => check number line

/-- A part of a line. `before` lists what precedes it from right to left. -/
structure Span where
  before : List Char
  chars : List Char
  after : List Char
  deriving DecidableEq, Repr

namespace Span

def start (span : Span) : Nat :=
  span.before.length

def stop (span : Span) : Nat :=
  span.before.length + span.chars.length

def line (span : Span) : List Char :=
  span.before.reverse ++ span.chars ++ span.after

def text (span : Span) : String :=
  String.ofList span.chars

def finding (span : Span) (number : Nat) (arguments : List String) : Finding :=
  ⟨.onLine number span.start span.stop, arguments⟩

end Span

-- Columns count characters; offsets count bytes of the UTF-8 form.

/-- The number of characters that take up exactly `offset` bytes, `none` if no number does. -/
def charactersIn? : List Char → Nat → Option Nat
  | _, 0 => some 0
  | [], _ + 1 => none
  | char :: rest, offset + 1 =>
    if char.utf8Size ≤ offset + 1 then
      (charactersIn? rest (offset + 1 - char.utf8Size)).map (· + 1)
    else none

/-- The column at a byte offset; zero where no character begins or ends. -/
def columnAt (line : List Char) (offset : Nat) : Nat :=
  (charactersIn? line offset).getD 0

end BslLint.Source
