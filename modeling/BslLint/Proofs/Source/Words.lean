import BslLint.Proofs.Text.Space
import BslLint.Source.Word
import Mathlib.Data.List.Pairwise

/-! Where the words, names and numbers of a line stand. Each of them is a part of the line that is not empty,
and they follow one another from left to right without overlap, numbers also together with their signs. -/

set_option autoImplicit false

namespace BslLint.Source

namespace Span

theorem start_le_stop (span : Span) : span.start ≤ span.stop :=
  Nat.le_add_right _ _

theorem stop_le_length (span : Span) : span.stop ≤ span.line.length := by
  simp only [stop, line, List.length_append, List.length_reverse]
  omega

theorem drop_take_line (span : Span) : (span.line.take span.stop).drop span.start = span.chars := by
  have upTo : span.line.take span.stop = span.before.reverse ++ span.chars := by
    rw [line, stop, ← List.length_reverse, ← List.length_append, List.take_left]
  rw [upTo, start, ← List.length_reverse, List.drop_left]

theorem before_eq (span : Span) : span.before = (span.line.take span.start).reverse := by
  rw [line, start, List.append_assoc, ← List.length_reverse, List.take_left, List.reverse_reverse]

theorem after_eq (span : Span) : span.after = span.line.drop span.stop := by
  rw [line, stop, ← List.length_reverse, ← List.length_append, List.drop_left]

theorem drop_start_line (span : Span) : span.line.drop span.start = span.chars ++ span.after := by
  rw [line, start, List.append_assoc, ← List.length_reverse, List.drop_left]

theorem getElem?_line (span : Span) {index : Nat} (inside : index < span.chars.length) :
    span.line[span.start + index]? = span.chars[index]? := by
  simp [line, start, List.getElem?_append, inside]

end Span

/-- Parts of a line that are not empty and follow one another, from a column on. -/
inductive Placed (line : List Char) : Nat → List Span → Prop where
  | nil (column : Nat) : Placed line column []
  | cons {column : Nat} {span : Span} {rest : List Span} : span.line = line → span.chars ≠ [] →
      column ≤ span.start → Placed line span.stop rest → Placed line column (span :: rest)

namespace Placed

variable {line : List Char} {column : Nat} {spans : List Span}

theorem of_pairwise (parts : ∀ span ∈ spans, span.line = line ∧ span.chars ≠ [] ∧ column ≤ span.start)
    (ordered : spans.Pairwise fun left right => left.stop ≤ right.start) : Placed line column spans := by
  induction spans generalizing column with
  | nil => exact .nil column
  | cons span rest ih =>
    obtain ⟨⟨own, some, after⟩, parts⟩ := List.forall_mem_cons.mp parts
    obtain ⟨first, ordered⟩ := List.pairwise_cons.mp ordered
    refine .cons own some after (ih (fun other mem => ?_) ordered)
    exact ⟨(parts other mem).1, (parts other mem).2.1, first other mem⟩

theorem weaken (placed : Placed line column spans) {earlier : Nat} (le : earlier ≤ column) :
    Placed line earlier spans := by
  cases placed with
  | nil => exact .nil earlier
  | cons own some after rest => exact .cons own some (Nat.le_trans le after) rest

theorem of_mem (placed : Placed line column spans) {span : Span} (mem : span ∈ spans) :
    span.line = line ∧ span.chars ≠ [] ∧ column ≤ span.start := by
  induction placed with
  | nil => cases mem
  | cons own some after _ ih =>
    rcases List.mem_cons.mp mem with rfl | later
    · exact ⟨own, some, after⟩
    · obtain ⟨own, some, further⟩ := ih later
      exact ⟨own, some, Nat.le_trans after (Nat.le_trans (Span.start_le_stop _) further)⟩

theorem pairwise (placed : Placed line column spans) :
    spans.Pairwise fun left right => left.stop ≤ right.start ∧ left.start < right.start := by
  induction placed with
  | nil => exact .nil
  | @cons _ span _ _ some _ rest ih =>
    refine List.pairwise_cons.mpr ⟨?_, ih⟩
    intro other mem
    have further := (rest.of_mem mem).2.2
    have wide : span.start < span.stop := Nat.lt_add_of_pos_right (List.length_pos_iff.mpr some)
    exact ⟨further, by omega⟩

theorem apart (placed : Placed line column spans) {span other : Span} (mem : span ∈ spans) (memOther : other ∈ spans)
    (distinct : span ≠ other) : span.stop ≤ other.start ∨ other.stop ≤ span.start := by
  have symmetric : Std.Symm fun left right : Span => left.stop ≤ right.start ∨ right.stop ≤ left.start :=
    ⟨fun _ _ => Or.symm⟩
  have ordered : spans.Pairwise fun left right => left.stop ≤ right.start ∨ right.stop ≤ left.start :=
    placed.pairwise.imp fun ordered => .inl ordered.1
  exact ordered.forall mem memOther distinct

/-- Where a part starts and where it ends each tell which part it is. -/
theorem eq_of_column (placed : Placed line column spans) {span other : Span} (mem : span ∈ spans)
    (memOther : other ∈ spans) (same : span.start = other.start ∨ span.stop = other.stop) : span = other := by
  have wide {span : Span} (mem : span ∈ spans) : span.start < span.stop :=
    Nat.lt_add_of_pos_right (List.length_pos_iff.mpr (placed.of_mem mem).2.1)
  have wideSpan := wide mem
  have wideOther := wide memOther
  by_contra distinct
  rcases placed.apart mem memOther distinct with before | behind <;> omega

-- Some of the parts, each of them perhaps without its beginning.
theorem narrow (placed : Placed line column spans) {part : Span → Option Span}
    (within : ∀ span ∈ spans, ∀ other, part span = some other →
      other.line = span.line ∧ other.chars ≠ [] ∧ span.start ≤ other.start ∧ other.stop = span.stop) :
    Placed line column (spans.filterMap part) := by
  induction placed with
  | nil column => exact .nil column
  | @cons column span rest own _ after _ ih =>
    have ih := ih fun span mem => within span (List.mem_cons_of_mem _ mem)
    cases found : part span with
    | none =>
      rw [List.filterMap_cons_none found]
      exact ih.weaken (Nat.le_trans after span.start_le_stop)
    | some other =>
      obtain ⟨same, some, inside, ends⟩ := within span List.mem_cons_self other found
      rw [List.filterMap_cons_some found]
      exact .cons (same.trans own) some (Nat.le_trans after inside) (ends ▸ ih)

theorem filter (placed : Placed line column spans) (test : Span → Bool) :
    Placed line column (spans.filter test) := by
  rw [← List.filterMap_eq_filter]
  refine placed.narrow fun span mem other kept => ?_
  obtain ⟨rfl, _⟩ := Option.guard_eq_some_iff.mp kept
  exact ⟨rfl, (placed.of_mem mem).2.1, Nat.le_refl _, rfl⟩

end Placed

theorem wordsFrom_placed (before line : List Char) :
    Placed (before.reverse ++ line) before.length (wordsFrom before line) := by
  induction before, line using wordsFrom.induct with
  | case1 before => simp only [wordsFrom]; exact .nil _
  | case2 before char rest word _ ih =>
    unfold wordsFrom
    rw [if_pos word]
    have split : before.reverse ++ char :: rest =
        ((rest.takeWhile Text.isWord).reverse ++ char :: before).reverse ++ rest.dropWhile Text.isWord := by
      simp [List.takeWhile_append_dropWhile]
    refine .cons (by simp [Span.line, List.takeWhile_append_dropWhile]) (by simp) (Nat.le_refl _) ?_
    rw [split]
    convert ih using 1
    simp [Span.stop]
    omega
  | case3 before char rest other ih =>
    unfold wordsFrom
    rw [if_neg other]
    have placed := ih.weaken (Nat.le_succ before.length)
    simpa using placed

theorem words_placed (line : List Char) : Placed line 0 (words line) :=
  wordsFrom_placed [] line

theorem isWord_of_mem_wordsFrom {before line : List Char} {word : Span} (mem : word ∈ wordsFrom before line)
    {char : Char} (inside : char ∈ word.chars) : Text.isWord char = true := by
  induction before, line using wordsFrom.induct with
  | case1 before => simp [wordsFrom] at mem
  | case2 before first rest isWord _ ih =>
    unfold wordsFrom at mem
    rw [if_pos isWord] at mem
    rcases List.mem_cons.mp mem with rfl | later
    · rcases List.mem_cons.mp inside with rfl | further
      · exact isWord
      · exact List.mem_takeWhile_imp further
    · exact ih later
  | case3 before first rest other ih =>
    unfold wordsFrom at mem
    rw [if_neg other] at mem
    exact ih mem

-- What a run of word characters holds from its first letter or underscore on.
structure NameOf (run name : Span) : Prop where
  starts : ∃ first, name.chars.head? = some first ∧ isNameStart first = true
  skips : ∃ skipped, (∀ char ∈ skipped, isNameStart char = false) ∧ run.chars = skipped ++ name.chars ∧
    name.before = skipped.reverse ++ run.before
  after : name.after = run.after

theorem name?_eq_some_iff {run name : Span} : name? run = some name ↔ NameOf run name := by
  have split := List.takeWhile_append_dropWhile (p := fun char => !isNameStart char) (l := run.chars)
  constructor
  · intro found
    unfold name? at found
    cases kept : run.chars.dropWhile fun char => !isNameStart char with
    | nil => simp [kept] at found
    | cons first rest =>
      rw [kept] at split
      simp only [kept, Option.some.injEq] at found
      subst found
      refine ⟨⟨first, rfl, ?_⟩, ⟨_, ?_, split.symm, rfl⟩, rfl⟩
      · have stops : (!isNameStart first) = false := Text.head?_dropWhile run.chars first (by rw [kept]; rfl)
        rwa [Bool.not_eq_false'] at stops
      · intro char mem
        simpa using List.mem_takeWhile_imp mem
  · rintro ⟨⟨first, head, letter⟩, ⟨skipped, digits, whole, before⟩, after⟩
    obtain ⟨rest, chars⟩ := List.head?_eq_some_iff.mp head
    have passed (char : Char) (mem : char ∈ skipped) : (!isNameStart char) = true := by simp [digits char mem]
    have stops : ∀ char ∈ name.chars.head?, (!isNameStart char) = false := by
      rw [head]
      rintro _ ⟨⟩
      simp [letter]
    have taken : (run.chars.takeWhile fun char => !isNameStart char) = skipped := by
      rw [whole, List.takeWhile_append_of_pos passed, Text.takeWhile_of_head? stops, List.append_nil]
    have kept : (run.chars.dropWhile fun char => !isNameStart char) = name.chars := by
      rw [whole, List.dropWhile_append_of_pos passed, Text.dropWhile_of_head? stops]
    simp only [name?, taken, kept, chars]
    rw [← before, ← after, ← chars]

theorem NameOf.within {run name : Span} (isName : NameOf run name) : name.line = run.line ∧ name.chars ≠ [] ∧
    run.start ≤ name.start ∧ name.stop = run.stop ∧ name.chars <:+ run.chars := by
  obtain ⟨⟨first, head, _⟩, ⟨skipped, _, whole, before⟩, after⟩ := isName
  refine ⟨?_, ?_, ?_, ?_, ⟨skipped, whole.symm⟩⟩
  · simp [Span.line, whole, before, after]
  · rintro none
    rw [none] at head
    cases head
  · simp [Span.start, before]
  · simp only [Span.stop, whole, before, List.length_append, List.length_reverse]
    omega

theorem names_placed (line : List Char) : Placed line 0 (names line) := by
  refine (words_placed line).narrow fun word _ name found => ?_
  obtain ⟨own, some, inside, ends, _⟩ := (name?_eq_some_iff.mp found).within
  exact ⟨own, some, inside, ends⟩

theorem isWord_of_mem_names {line : List Char} {name : Span} (mem : name ∈ names line) {char : Char}
    (inside : char ∈ name.chars) : Text.isWord char = true := by
  obtain ⟨word, known, found⟩ := List.mem_filterMap.mp mem
  obtain ⟨_, _, _, _, part⟩ := (name?_eq_some_iff.mp found).within
  exact isWord_of_mem_wordsFrom known (part.subset inside)

end BslLint.Source
