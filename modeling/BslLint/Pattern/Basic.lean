import BslLint.Pattern.CharSet
import BslLint.Text.Word

/-! Search patterns. A pattern marks at most one of its parts, whose match can be asked for. -/

set_option autoImplicit false

namespace BslLint

namespace Pattern

inductive Boundary where
  | any
  | inside
  | start
  | stop
  | startHalf
  | stopHalf
  deriving DecidableEq, Repr

/-- A condition on a place. Lines end at line feeds, or also at carriage returns. -/
inductive Assertion where
  | textStart
  | textEnd
  | lineStart (returns : Bool)
  | lineEnd (returns : Bool)
  | boundary (kind : Boundary) (ascii : Bool)
  deriving DecidableEq, Repr

namespace Boundary

/-- Whether the condition holds between characters that are word characters or not. -/
def holds (kind : Boundary) (before after : Bool) : Bool :=
  match kind with
  | .any => before != after
  | .inside => before == after
  | .start => !before && after
  | .stop => before && !after
  | .startHalf => !before
  | .stopHalf => !after

end Boundary

/-- Whether the condition holds where `before`, from right to left, precedes and `after` follows. -/
def Assertion.holds (assertion : Assertion) (before after : List Char) : Bool :=
  match assertion with
  | .textStart => before.isEmpty
  | .textEnd => after.isEmpty
  | .lineStart false => before.isEmpty || before.head? == some '\n'
  | .lineEnd false => after.isEmpty || after.head? == some '\n'
  | .lineStart true =>
    before.isEmpty || before.head? == some '\n' || (before.head? == some '\r' && after.head? != some '\n')
  | .lineEnd true =>
    after.isEmpty || after.head? == some '\r' || (after.head? == some '\n' && before.head? != some '\r')
  | .boundary kind ascii =>
    let isWord := if ascii then CharSet.asciiWords.contains else Text.isWord
    kind.holds (before.head?.any isWord) (after.head?.any isWord)

end Pattern

inductive Pattern where
  | empty
  | charIn (set : Pattern.CharSet)
  | assertion (condition : Pattern.Assertion)
  | sequence (first second : Pattern)
  | either (first second : Pattern)
  /-- At least `least` times, and at most `most` times if that is stated. A greedy part is repeated as often
  as possible, another one as seldom as possible. -/
  | repeated (body : Pattern) (least : Nat) (most : Option Nat) (greedy : Bool)
  | marked (body : Pattern)
  deriving DecidableEq, Repr

namespace Pattern

def canConsume : Pattern → Bool
  | .empty | .assertion _ => false
  | .charIn _ => true
  | .sequence first second | .either first second => first.canConsume || second.canConsume
  | .repeated body _ most _ => body.canConsume && most != some 0
  | .marked body => body.canConsume

/-- How much room the compiled pattern takes up, in bytes. Repeated parts count as often as they are
written out. -/
def size : Pattern → Nat
  | .empty => 32
  | .charIn set => set.size
  | .assertion _ => 32
  | .sequence first second => first.size + second.size
  | .either first second => first.size + second.size + 64
  | .repeated body least most _ =>
    if body.canConsume then (body.size + 32) * (max least 1 + (most.getD least - least)) else body.size
  | .marked body => body.size + 64

def sizeLimit : Nat := 10 * 0x100000

end Pattern

end BslLint
