import BslLint.Proofs.Source.Words
import BslLint.Source.Span

/-! Where findings point to. Checks that look at the lines one by one point into the document and in its order
as soon as they do so on each line. -/

set_option autoImplicit false

namespace BslLint

namespace Source

def Position.On (position : Position) (document : Document) : Prop :=
  ∃ line, document.lines[position.line]? = some line ∧ position.character ≤ line.length

structure Range.Within (range : Range) (document : Document) : Prop where
  ordered : range.start.le range.stop = true
  start : range.start.On document
  stop : range.stop.On document

/-- The one range ends before the other starts; they do not both start there either. -/
def Range.Precedes (left right : Range) : Prop :=
  left.stop.le right.start = true ∧ left.start ≠ right.start

theorem Range.precedes_of_line_lt {left right : Range} (ordered : left.start.le left.stop = true)
    (later : left.stop.line < right.start.line) : left.Precedes right := by
  refine ⟨(Position.le_iff _ _).mpr (.inl later), fun same => ?_⟩
  rw [Position.le_iff, same] at ordered
  omega

-- Columns. A match stands at byte offsets of a line, a finding at the columns that belong to them.

def bytesOf : List Char → Nat
  | [] => 0
  | char :: rest => char.utf8Size + bytesOf rest

@[simp] theorem bytesOf_append (first second : List Char) :
    bytesOf (first ++ second) = bytesOf first + bytesOf second := by
  induction first with
  | nil => simp [bytesOf]
  | cons char rest ih => simp [bytesOf, ih, Nat.add_assoc]

@[simp] theorem bytesOf_reverse (chars : List Char) : bytesOf chars.reverse = bytesOf chars := by
  induction chars with
  | nil => rfl
  | cons char rest ih => simp [bytesOf, ih, Nat.add_comm]

theorem charactersIn?_append (before after : List Char) :
    charactersIn? (before ++ after) (bytesOf before) = some before.length := by
  induction before with
  | nil => simp [bytesOf, charactersIn?]
  | cons char rest ih =>
    have positive := char.utf8Size_pos
    obtain ⟨offset, successor⟩ : ∃ offset, bytesOf (char :: rest) = offset + 1 :=
      Nat.exists_eq_succ_of_ne_zero (by simp only [bytesOf]; omega)
    have size : bytesOf (char :: rest) = char.utf8Size + bytesOf rest := rfl
    have fits : char.utf8Size ≤ offset + 1 := by omega
    have left : offset + 1 - char.utf8Size = bytesOf rest := by omega
    simp [successor, charactersIn?, fits, left, ih]

theorem Span.range_finding (span : Span) (number : Nat) (arguments : List String) :
    (span.finding number arguments).range = .onLine number (columnAt span.line (bytesOf span.before))
      (columnAt span.line (bytesOf span.before + bytesOf span.chars)) := by
  have start := charactersIn?_append span.before.reverse (span.chars ++ span.after)
  have stop := charactersIn?_append (span.before.reverse ++ span.chars) span.after
  rw [← List.append_assoc, bytesOf_reverse] at start
  rw [bytesOf_append, bytesOf_reverse] at stop
  simp [finding, columnAt, line, Span.start, Span.stop, start, stop, -List.append_assoc]

end Source

namespace Document

def covered? (document : Document) (range : Source.Range) : Option (List Char) :=
  if range.start.line = range.stop.line then
    document.lines[range.start.line]?.map fun line =>
      (line.take range.stop.character).drop range.start.character
  else none

theorem covered?_onLine {document : Document} {number : Nat} {line : List Char}
    (there : document.lines[number]? = some line) (start stop : Nat) :
    document.covered? (.onLine number start stop) = some ((line.take stop).drop start) := by
  simp [covered?, Source.Range.onLine, there]

theorem mem_number {first index : Nat} {lines : List (List Char)} {line : List Char} :
    (index, line) ∈ number first lines ↔ first ≤ index ∧ lines[index - first]? = some line := by
  induction lines generalizing first with
  | nil => simp [number]
  | cons head rest ih =>
    rw [number, List.mem_cons, ih, Prod.mk.injEq]
    constructor
    · rintro (⟨rfl, rfl⟩ | ⟨le, there⟩)
      · simp
      · refine ⟨Nat.le_of_succ_le le, ?_⟩
        rw [show index - first = (index - (first + 1)) + 1 by omega, List.getElem?_cons_succ]
        exact there
    · rintro ⟨le, there⟩
      rcases Nat.eq_or_lt_of_le le with rfl | lt
      · rw [Nat.sub_self, List.getElem?_cons_zero, Option.some.injEq] at there
        exact .inl ⟨rfl, there.symm⟩
      · refine .inr ⟨lt, ?_⟩
        rwa [show index - first = (index - (first + 1)) + 1 by omega, List.getElem?_cons_succ] at there

theorem mem_numberedLines {document : Document} {index : Nat} {line : List Char} :
    (index, line) ∈ document.numberedLines ↔ document.lines[index]? = some line := by
  rw [numberedLines, mem_number, Nat.sub_zero]
  simp

theorem number_pairwise (first : Nat) (lines : List (List Char)) :
    (number first lines).Pairwise fun left right => left.1 < right.1 := by
  induction lines generalizing first with
  | nil => exact .nil
  | cons line rest ih =>
    refine List.pairwise_cons.mpr ⟨?_, ih (first + 1)⟩
    rintro ⟨index, other⟩ mem
    exact (mem_number.mp mem).1

theorem numberedLines_pairwise (document : Document) :
    document.numberedLines.Pairwise fun left right => left.1 < right.1 :=
  number_pairwise 0 document.lines

end Document

namespace Source

structure AlongLine (number : Nat) (line : List Char) (findings : List Finding) : Prop where
  columns : ∀ finding ∈ findings, ∃ start stop,
    finding.range = .onLine number start stop ∧ start ≤ stop ∧ stop ≤ line.length
  ordered : findings.Pairwise fun left right => left.range.Precedes right.range

theorem AlongLine.nil (number : Nat) (line : List Char) : AlongLine number line [] where
  columns _ mem := nomatch mem
  ordered := .nil

theorem AlongLine.singleton {number start stop : Nat} {line : List Char} {finding : Finding}
    (range : finding.range = .onLine number start stop) (le : start ≤ stop) (inside : stop ≤ line.length) :
    AlongLine number line [finding] where
  columns other mem := by
    cases List.mem_singleton.mp mem
    exact ⟨start, stop, range, le, inside⟩
  ordered := List.pairwise_singleton _ _

structure Along (document : Document) (findings : List Finding) : Prop where
  within : ∀ finding ∈ findings, finding.range.Within document
  ordered : findings.Pairwise fun left right => left.range.Precedes right.range

theorem Along.sublist {document : Document} {some all : List Finding} (along : Along document all)
    (sublist : some.Sublist all) : Along document some where
  within finding mem := along.within finding (sublist.subset mem)
  ordered := along.ordered.sublist sublist

theorem onLine_precedes {number start stop nextStart nextStop : Nat} (ends : stop ≤ nextStart)
    (lt : start < nextStart) :
    (Range.onLine number start stop).Precedes (.onLine number nextStart nextStop) := by
  refine ⟨?_, ?_⟩
  · simpa [Range.onLine, Position.le_iff] using ends
  · simp only [Range.onLine, ne_eq, Position.mk.injEq, true_and]
    omega

theorem onLine_within {document : Document} {number start stop : Nat} {line : List Char}
    (there : document.lines[number]? = some line) (le : start ≤ stop) (inside : stop ≤ line.length) :
    (Range.onLine number start stop).Within document where
  ordered := by simpa [Range.onLine, Position.le_iff] using le
  start := ⟨line, there, Nat.le_trans le inside⟩
  stop := ⟨line, there, inside⟩

theorem mem_checkLines {document : Document} {check : Nat → List Char → List Finding} {finding : Finding} :
    finding ∈ checkLines document check ↔
      ∃ number line, document.lines[number]? = some line ∧ finding ∈ check number line := by
  simp only [checkLines, List.mem_flatMap, Prod.exists, Document.mem_numberedLines]

theorem checkLines_along (document : Document) {check : Nat → List Char → List Finding}
    (each : ∀ number line, AlongLine number line (check number line)) :
    Along document (checkLines document check) where
  within finding mem := by
    obtain ⟨number, line, there, mem⟩ := mem_checkLines.mp mem
    obtain ⟨start, stop, range, le, inside⟩ := (each number line).columns finding mem
    rw [range]
    exact onLine_within there le inside
  ordered := by
    refine List.pairwise_flatMap.mpr ⟨fun numbered _ => (each numbered.1 numbered.2).ordered, ?_⟩
    refine document.numberedLines_pairwise.imp ?_
    intro earlier later lt left memLeft right memRight
    obtain ⟨start, stop, range, le, _⟩ := (each earlier.1 earlier.2).columns left memLeft
    obtain ⟨nextStart, nextStop, nextRange, _⟩ := (each later.1 later.2).columns right memRight
    rw [range, nextRange]
    refine Range.precedes_of_line_lt ?_ lt
    simpa [Range.onLine, Position.le_iff] using le

theorem AlongLine.filter_line {number : Nat} {line : List Char} {findings : List Finding}
    (along : AlongLine number line findings) (other : Nat) :
    findings.filter (fun finding => finding.range.start.line = other) = if number = other then findings else [] := by
  have places : ∀ finding ∈ findings, finding.range.start.line = number := fun finding mem => by
    obtain ⟨_, _, range, _⟩ := along.columns finding mem
    rw [range, Range.onLine]
  split
  · rename_i same
    exact List.filter_eq_self.mpr fun finding mem => decide_eq_true ((places finding mem).trans same)
  · rename_i differs
    refine List.filter_eq_nil_iff.mpr fun finding mem => ?_
    rw [decide_eq_true_eq, places finding mem]
    exact differs

/-- Of checks that look at the lines one by one, the findings on a line are what is found there. -/
theorem filter_checkLines {document : Document} {check : Nat → List Char → List Finding}
    (each : ∀ number line, AlongLine number line (check number line)) {number : Nat} {line : List Char}
    (there : document.lines[number]? = some line) :
    (checkLines document check).filter (fun finding => finding.range.start.line = number) = check number line := by
  obtain ⟨before, after, split⟩ := List.append_of_mem (Document.mem_numberedLines.mpr there)
  have apart := document.numberedLines_pairwise
  rw [split, List.pairwise_append, List.pairwise_cons] at apart
  obtain ⟨-, ⟨behind, -⟩, ahead⟩ := apart
  have none {others : List (Nat × List Char)} (differ : ∀ other ∈ others, other.1 ≠ number) :
      (others.flatMap fun other => if other.1 = number then check other.1 other.2 else []) = [] :=
    List.flatMap_eq_nil_iff.mpr fun other mem => if_neg (differ other mem)
  rw [checkLines, List.filter_flatMap]
  simp only [(each _ _).filter_line]
  rw [split, List.flatMap_append, List.flatMap_cons, if_pos rfl,
    none fun other mem => (ahead other mem _ List.mem_cons_self).ne, none fun other mem => (behind other mem).ne',
    List.nil_append, List.append_nil]

-- A finding at each of some parts of a line that are in order.
theorem Placed.alongLine {text line : List Char} {column : Nat} {spans : List Span}
    (placed : Placed text column spans) (short : text.length ≤ line.length) (number : Nat)
    {report : Span → Option Finding}
    (points : ∀ span finding, report span = some finding → finding.range = .onLine number span.start span.stop) :
    AlongLine number line (spans.filterMap report) where
  columns finding mem := by
    obtain ⟨span, known, reported⟩ := List.mem_filterMap.mp mem
    have inside := span.stop_le_length
    rw [(placed.of_mem known).1] at inside
    exact ⟨_, _, points span finding reported, span.start_le_stop, Nat.le_trans inside short⟩
  ordered := by
    refine placed.pairwise.filterMap report ?_
    rintro left right ⟨ends, lt⟩ first reported second reportedToo
    rw [points left first reported, points right second reportedToo]
    exact onLine_precedes ends lt

end Source

end BslLint
