import BslLint.Json.Basic

/-! Positions and ranges in a document. Lines and characters count from zero. -/

set_option autoImplicit false

namespace BslLint.Source

/-- A line or a column as it is shown: counted from one, in a machine word. -/
def shown (index : Nat) : Nat :=
  (index + 1) % 0x10000000000000000

structure Position where
  line : Nat
  character : Nat
  deriving DecidableEq, Repr

structure Range where
  start : Position
  stop : Position
  deriving DecidableEq, Repr

namespace Position

def le (left right : Position) : Bool :=
  if left.line = right.line then decide (left.character ≤ right.character) else decide (left.line < right.line)

theorem le_iff (left right : Position) :
    left.le right = true ↔
      left.line < right.line ∨ left.line = right.line ∧ left.character ≤ right.character := by
  unfold le
  split
  · rename_i same
    simp [same]
  · rename_i differs
    simp [differs]

theorem le_trans {first second third : Position} (left : first.le second = true)
    (right : second.le third = true) : first.le third = true := by
  rw [le_iff] at *
  omega

theorem le_total (left right : Position) : left.le right = true ∨ right.le left = true := by
  simp only [le_iff]
  omega

theorem le_antisymm {left right : Position} (forth : left.le right = true)
    (back : right.le left = true) : left = right := by
  rw [le_iff] at *
  obtain ⟨line, character⟩ := left
  obtain ⟨otherLine, otherCharacter⟩ := right
  simp only [mk.injEq]
  simp only at forth back
  omega

def toJson (position : Position) : Json :=
  .object [("line", .ofNat position.line), ("character", .ofNat position.character)]

def ofJson? (value : Json) : Option Position := do
  match ← value.structure? ["line", "character"] with
  | [some line, some character] => return ⟨← line.asNat?, ← character.asNat?⟩
  | _ => none

end Position

namespace Range

def onLine (line start stop : Nat) : Range :=
  ⟨⟨line, start⟩, ⟨line, stop⟩⟩

def le (left right : Range) : Bool :=
  if left.start = right.start then left.stop.le right.stop else left.start.le right.start

theorem le_iff (left right : Range) :
    left.le right = true ↔ left.start.le right.start = true ∧
      (left.start = right.start → left.stop.le right.stop = true) := by
  unfold le
  split
  · rename_i same
    have start : left.start.le right.start = true := by
      rw [same, Position.le_iff]
      omega
    simp [same, ← start]
  · rename_i differs
    simp [differs]

theorem le_trans {first second third : Range} (left : first.le second = true)
    (right : second.le third = true) : first.le third = true := by
  rw [le_iff] at *
  obtain ⟨leftStart, leftStop⟩ := left
  obtain ⟨rightStart, rightStop⟩ := right
  refine ⟨Position.le_trans leftStart rightStart, fun same => ?_⟩
  -- The middle range starts between two equal starts, so it starts there too.
  have joined : first.start = second.start :=
    Position.le_antisymm leftStart (same ▸ rightStart)
  exact Position.le_trans (leftStop joined) (rightStop (joined ▸ same))

theorem le_total (left right : Range) : left.le right = true ∨ right.le left = true := by
  by_cases same : left.start = right.start
  · simpa [le, same] using Position.le_total left.stop right.stop
  · simpa [le, same, Ne.symm same] using Position.le_total left.start right.start

theorem le_refl (range : Range) : range.le range = true := by
  simpa using le_total range range

theorem le_antisymm {left right : Range} (forth : left.le right = true) (back : right.le left = true) :
    left = right := by
  rw [le_iff] at forth back
  have start : left.start = right.start := Position.le_antisymm forth.1 back.1
  have stop : left.stop = right.stop := Position.le_antisymm (forth.2 start) (back.2 start.symm)
  cases left
  cases right
  rw [mk.injEq]
  exact ⟨start, stop⟩

def toJson (range : Range) : Json :=
  .object [("start", range.start.toJson), ("end", range.stop.toJson)]

def ofJson? (value : Json) : Option Range := do
  match ← value.structure? ["start", "end"] with
  | [some start, some stop] => return ⟨← Position.ofJson? start, ← Position.ofJson? stop⟩
  | _ => none

end Range

end BslLint.Source
