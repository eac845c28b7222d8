import BslLint.Pattern.Basic
import BslLint.Source.Span

/-! Searching for patterns. Of all ways to match from a place, an earlier alternative is preferred to a
later one, and going on with a greedy repetition to ending it; the match that begins first wins. -/

set_option autoImplicit false

namespace BslLint.Pattern

open Source

/-- A place in a line: how many characters precede it, those characters from right to left, and the rest;
and the marked part that was matched on the way. -/
structure Place where
  offset : Nat
  before : List Char
  after : List Char
  mark : Option Span
  deriving DecidableEq, Repr

namespace Place

def first (line : List Char) : Place :=
  ⟨0, [], line, none⟩

def next? (place : Place) : Option Place :=
  match place.after with
  | [] => none
  | char :: rest => some { place with offset := place.offset + 1, before := char :: place.before, after := rest }

def spanTo (start stop : Place) : Span :=
  ⟨start.before, start.after.take (stop.offset - start.offset), stop.after⟩

end Place

def distinct : List Place → List Place
  | [] => []
  | place :: rest => place :: (distinct rest).filter fun other => other.offset != place.offset

/-- A place that a repetition has reached, and whether the repetition goes on from it. -/
structure Reached where
  place : Place
  goesOn : Bool
  deriving DecidableEq, Repr

/-- Of reached places that agree in offset and in whether they go on, only the first is kept. -/
def distinctReached : List Reached → List Reached
  | [] => []
  | reached :: rest =>
    reached :: (distinctReached rest).filter fun other =>
      other.place.offset != reached.place.offset || other.goesOn != reached.goesOn

/-- How a repetition goes on: whether it may end where it is, whether ending comes last, and whether a
turn without progress ends it. -/
structure Turn where
  mayEnd : Bool
  greedy : Bool
  progress : Bool

/-- One more turn of a repetition from every place where it goes on. The order of places is the order of preference. -/
def turn (rule : Turn) (step : Place → List Place) (reached : List Reached) : List Reached :=
  distinctReached <| reached.flatMap fun entry =>
    if entry.goesOn then
      let further := (step entry.place).map fun place =>
        ⟨place, !(rule.progress && place.offset == entry.place.offset)⟩
      let ended := if rule.mayEnd then [⟨entry.place, false⟩] else []
      if rule.greedy then further ++ ended else ended ++ further
    else [entry]

def turns (count : Nat) (rule : Turn) (step : Place → List Place) (reached : List Reached) : List Reached :=
  match count with
  | 0 => reached
  | count + 1 =>
    if reached.any Reached.goesOn then turns count rule step (turn rule step reached) else reached

/-- The places where repetitions of a step from a place end, in the order of preference. Without a greatest
number there are no more turns with progress than characters left. -/
def repeatFrom (step : Place → List Place) (least : Nat) (most : Option Nat) (greedy : Bool) (place : Place) :
    List Place :=
  let start : List Reached := [⟨place, true⟩]
  let last := match most with
    | some most =>
      turns (most - least) ⟨true, greedy, false⟩ step (turns least ⟨false, greedy, false⟩ step start)
    | none =>
      let needed := turns (least - 1) ⟨false, greedy, false⟩ step start
      let looped := if least = 0 then needed else turn ⟨false, greedy, true⟩ step needed
      turns (place.after.length + 1) ⟨true, greedy, true⟩ step looped
  distinct (last.map Reached.place)

-- The places where matches from a place end, in the order of preference.
def ends : Pattern → Place → List Place
  | .empty, place => [place]
  | .charIn set, place =>
    if place.after.head?.any set.contains then place.next?.toList else []
  | .assertion condition, place => if condition.holds place.before place.after then [place] else []
  | .sequence first second, place => distinct ((ends first place).flatMap (ends second))
  | .either first second, place => distinct (ends first place ++ ends second place)
  | .repeated body least most greedy, place => repeatFrom (ends body) least most greedy place
  | .marked body, place =>
    (ends body place).map fun stop => { stop with mark := some (place.spanTo stop) }

def searchFrom (pattern : Pattern) (before after : List Char) (offset : Nat) : Option Place :=
  match ends pattern ⟨offset, before, after, none⟩ with
  | stop :: _ => some stop
  | [] =>
    match after with
    | [] => none
    | char :: rest => searchFrom pattern (char :: before) rest (offset + 1)

def search (pattern : Pattern) (line : List Char) : Option Place :=
  searchFrom pattern [] line 0

def findMarked? (pattern : Pattern) (line : List Char) : Option Span :=
  (search pattern line).bind Place.mark

end BslLint.Pattern
