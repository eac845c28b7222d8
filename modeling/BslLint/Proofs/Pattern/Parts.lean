import BslLint.Proofs.Pattern.Scanning
import BslLint.Proofs.Pattern.Words

/-! The parts of a line that a pattern matches where they stand, for one kind of pattern after another, and what
searches one after another find: parts that are the preferred matches where they start, as long as no match starts
between them. -/

set_option autoImplicit false

namespace BslLint.Pattern

open Source

def IsMatch (pattern : Pattern) (part : Span) : Prop :=
  Matches part.line pattern part.start part.stop

section

variable {before chars after : List Char} {set : CharSet} {least : Nat} {greedy : Bool} {first second body : Pattern}

theorem isMatch_empty : IsMatch .empty ⟨before, chars, after⟩ ↔ chars = [] := by
  simp [IsMatch, Matches, Span.start, Span.stop]

theorem isMatch_charIn :
    IsMatch (.charIn set) ⟨before, chars, after⟩ ↔ ∃ char, set.contains char = true ∧ chars = [char] := by
  cases chars with
  | nil => simp [IsMatch, Matches, Span.start, Span.stop]
  | cons char rest => simp [IsMatch, Matches, Span.start, Span.stop, Span.line, and_comm]

theorem isMatch_assertion {condition : Assertion} : IsMatch (.assertion condition) ⟨before, chars, after⟩ ↔
    chars = [] ∧ condition.holds before after = true := by
  cases chars with
  | nil => simp [IsMatch, Matches, Span.start, Span.stop, Span.line]
  | cons char rest => simp [IsMatch, Matches, Span.start, Span.stop]

theorem isMatch_sequence : IsMatch (.sequence first second) ⟨before, chars, after⟩ ↔ ∃ front back,
    IsMatch first ⟨before, front, back ++ after⟩ ∧ IsMatch second ⟨front.reverse ++ before, back, after⟩ ∧
      chars = front ++ back := by
  have line (front back : List Char) : (Span.mk before front (back ++ after)).line =
      (Span.mk before (front ++ back) after).line ∧ (Span.mk (front.reverse ++ before) back after).line =
      (Span.mk before (front ++ back) after).line := by simp [Span.line]
  have middle (front : List Char) : before.length + front.length = (front.reverse ++ before).length := by
    simp [Nat.add_comm]
  constructor
  · rintro ⟨middle, earlier, later⟩
    have climbs (pattern : Pattern) :=
      (finds_ends (Span.mk before chars after).line pattern).climbs (ends_leadsOn _ pattern)
    have up := climbs first _ _ (Nat.le_trans (Span.start_le_stop _) (Span.stop_le_length _)) earlier
    have further := climbs second _ _ up.2 later
    simp only [Span.start, Span.stop] at up further earlier later
    have split : chars.take (middle - before.length) ++ chars.drop (middle - before.length) = chars :=
      List.take_append_drop _ _
    have length : (chars.take (middle - before.length)).length = middle - before.length := by
      rw [List.length_take]
      omega
    have both := line (chars.take (middle - before.length)) (chars.drop (middle - before.length))
    rw [split] at both
    refine ⟨_, _, ?_, ?_, split.symm⟩
    · rw [IsMatch, both.1]
      simp only [Span.start, Span.stop, length]
      rwa [Nat.add_sub_cancel' up.1]
    · rw [IsMatch, both.2]
      simp only [Span.start, Span.stop, List.length_append, List.length_reverse, List.length_drop, length]
      have ends : middle + (chars.length - (middle - before.length)) = before.length + chars.length := by omega
      rwa [Nat.sub_add_cancel up.1, ends]
  · rintro ⟨front, back, earlier, later, rfl⟩
    rw [IsMatch, (line front back).1] at earlier
    rw [IsMatch, (line front back).2] at later
    refine ⟨before.length + front.length, earlier, ?_⟩
    simpa [Span.start, Span.stop, Nat.add_comm, Nat.add_left_comm, Nat.add_assoc] using later

theorem isMatch_either {part : Span} : IsMatch (.either first second) part ↔ IsMatch first part ∨ IsMatch second part :=
  Iff.rfl

theorem isMatch_marked {part : Span} : IsMatch (.marked body) part ↔ IsMatch body part :=
  Iff.rfl

/-- What a text at the start of a part must be to end where the part does. -/
theorem eq_chars_iff {part : Span} {written : List Char} :
    written <+: part.line.drop part.start ∧ part.stop = part.start + written.length ↔ written = part.chars := by
  rw [Span.drop_start_line, Span.start, Span.stop, Nat.add_left_cancel_iff]
  constructor
  · rintro ⟨starts, length⟩
    rw [List.prefix_iff_eq_take.mp starts, ← length, List.take_left]
  · rintro rfl
    exact ⟨List.prefix_append _ _, rfl⟩

theorem isMatch_repeated {part : Span} : IsMatch (.repeated (.charIn set) least none greedy) part ↔
    least ≤ part.chars.length ∧ ∀ char ∈ part.chars, set.contains char = true := by
  simp [IsMatch, matches_repeated_iff, eq_chars_iff]

theorem isMatch_wordOf {letters : List Char} {part : Span} :
    IsMatch (wordOf letters) part ↔ part.chars.map Text.fold = letters.map Text.fold := by
  simp [IsMatch, matches_wordOf_iff, eq_chars_iff]

theorem isMatch_optional {part : Span} :
    IsMatch (.repeated body 0 (some 1) greedy) part ↔ part.chars = [] ∨ IsMatch body part := by
  constructor
  · rintro ⟨count, _, few, steps⟩
    rcases Nat.le_one_iff_eq_zero_or_eq_one.mp (few 1 rfl) with rfl | rfl
    · left
      simpa [Span.start, Span.stop] using Times.zero_iff.mp steps
    · right
      obtain ⟨_, none, only⟩ := Times.succ_iff.mp steps
      cases none
      exact only
  · rintro (none | matched)
    · refine ⟨0, Nat.le_refl 0, fun _ _ => Nat.zero_le _, Times.zero_iff.mpr ?_⟩
      simp [Span.start, Span.stop, none]
    · exact ⟨1, Nat.zero_le 1, by rintro _ ⟨⟩; exact Nat.le_refl 1, .more (.none _) matched⟩

end

def blanks : Pattern :=
  .repeated (.charIn .spaces) 0 none true

def mark (char : Char) : Pattern :=
  .charIn (.among [char])

def optionalMark (char : Char) : Pattern :=
  .repeated (mark char) 0 (some 1) true

section

variable {before chars after : List Char} {char : Char}

theorem isMatch_blanks : IsMatch blanks ⟨before, chars, after⟩ ↔ Text.isBlank chars = true := by
  simp [blanks, isMatch_repeated, Text.isBlank, CharSet.contains_spaces]

theorem isMatch_mark : IsMatch (mark char) ⟨before, chars, after⟩ ↔ chars = [char] := by
  simp [mark, isMatch_charIn, CharSet.contains]

theorem isMatch_optionalMark :
    IsMatch (optionalMark char) ⟨before, chars, after⟩ ↔ chars = [] ∨ chars = [char] := by
  rw [optionalMark, isMatch_optional, isMatch_mark]

end

theorem holds_boundary_iff {before after : List Char} {char : Char} (first : after.head? = some char)
    (isWord : Text.isWord char = true) : (Assertion.boundary .any false).holds before after = true ↔
      ∀ char ∈ before.head?, Text.isWord char = false := by
  cases before with
  | nil => simp [Assertion.holds, Boundary.holds, first, isWord]
  | cons other rest => simp [Assertion.holds, Boundary.holds, first, isWord]

theorem holds_boundary_comm (before after : List Char) : (Assertion.boundary .any false).holds before after =
    (Assertion.boundary .any false).holds after before := by
  simp [Assertion.holds, Boundary.holds, bne_comm]

def inTurn (first : Pattern) (others : List Pattern) : Pattern :=
  others.foldl .sequence first

def MatchInTurn : List Pattern → Span → Prop
  | [], part => part.chars = []
  | pattern :: others, part => ∃ front back, IsMatch pattern ⟨part.before, front, back ++ part.after⟩ ∧
      MatchInTurn others ⟨front.reverse ++ part.before, back, part.after⟩ ∧ part.chars = front ++ back

theorem isMatch_inTurn {first : Pattern} {others : List Pattern} {part : Span} :
    IsMatch (inTurn first others) part ↔ MatchInTurn (first :: others) part := by
  obtain ⟨before, chars, after⟩ := part
  induction others generalizing first with
  | nil => simp [inTurn, MatchInTurn]
  | cons second others ih =>
    rw [inTurn, List.foldl_cons, ← inTurn, ih]
    simp only [MatchInTurn, isMatch_sequence]
    constructor
    · rintro ⟨_, back, ⟨front, middle, first, second, rfl⟩, rest, rfl⟩
      refine ⟨front, middle ++ back, by simpa using first, ⟨middle, back, second, ?_, rfl⟩, by simp⟩
      simpa using rest
    · rintro ⟨front, _, first, ⟨middle, back, second, rest, rfl⟩, rfl⟩
      refine ⟨front ++ middle, back, ⟨front, middle, by simpa using first, second, rfl⟩, ?_, by simp⟩
      simpa using rest

theorem matches_iff {line : List Char} {pattern : Pattern} {start stop : Nat} (inside : start ≤ line.length) :
    Matches line pattern start stop ↔
      ∃ part : Span, part.line = line ∧ part.start = start ∧ part.stop = stop ∧ IsMatch pattern part := by
  constructor
  · intro matched
    obtain ⟨up, within⟩ := (finds_ends line pattern).climbs (ends_leadsOn line pattern) start stop inside matched
    have front : line.take start = (line.take stop).take start := by rw [List.take_take, Nat.min_eq_left up]
    let part : Span := ⟨(line.take start).reverse, (line.take stop).drop start, line.drop stop⟩
    have own : part.line = line := by
      simp only [part, Span.line, List.reverse_reverse]
      rw [front, List.take_append_drop, List.take_append_drop]
    have starts : part.start = start := by simp [part, Span.start, inside]
    have stops : part.stop = stop := by
      simp only [part, Span.stop, List.length_reverse, List.length_take, List.length_drop]
      omega
    exact ⟨part, own, starts, stops, by rwa [IsMatch, own, starts, stops]⟩
  · rintro ⟨part, rfl, rfl, rfl, matched⟩
    exact matched

theorem occurs_iff {line : List Char} {pattern : Pattern} :
    Occurs line pattern ↔ ∃ part : Span, part.line = line ∧ IsMatch pattern part := by
  constructor
  · rintro ⟨start, stop, inside, matched⟩
    obtain ⟨part, own, _, _, matched⟩ := (matches_iff inside).mp matched
    exact ⟨part, own, matched⟩
  · rintro ⟨part, rfl, matched⟩
    exact ⟨_, _, Nat.le_trans part.start_le_stop part.stop_le_length, matched⟩

theorem ofOffset_start (part : Span) :
    Place.ofOffset part.line part.start = ⟨part.start, part.before, part.chars ++ part.after, none⟩ := by
  rw [Place.ofOffset, ← part.before_eq, part.drop_start_line]

-- Of the matches that start where the part does, it is the one that is preferred.
def Preferred (pattern : Pattern) (part : Span) : Prop :=
  (ends pattern ⟨part.start, part.before, part.chars ++ part.after, none⟩).head?.map Place.offset = some part.stop

theorem preferred_of_unique {pattern : Pattern} {part : Span} (matched : IsMatch pattern part)
    (only : ∀ other : Span, other.line = part.line → other.start = part.start → IsMatch pattern other →
      other.stop = part.stop) : Preferred pattern part := by
  have inside := Nat.le_trans part.start_le_stop part.stop_le_length
  have reaches := finds_ends part.line pattern _ (Place.ofOffset_on inside)
  rw [Preferred, ← ofOffset_start]
  cases found : ends pattern (.ofOffset part.line part.start) with
  | nil =>
    obtain ⟨place, mem, _⟩ := (reaches part.stop).mpr matched
    simp [found] at mem
  | cons place rest =>
    have mem : place ∈ ends pattern (.ofOffset part.line part.start) := by simp [found]
    obtain ⟨other, own, starts, stops, found⟩ := (matches_iff inside).mp ((reaches _).mp ⟨place, mem, rfl⟩)
    simp [← stops, only other own starts found]

variable {line : List Char} {pattern : Pattern} {column : Nat} {part : Span}

theorem ends_ofOffset_eq_nil (inside : column ≤ line.length)
    (none : ∀ other : Span, other.line = line → other.start = column → ¬IsMatch pattern other) :
    ends pattern (.ofOffset line column) = [] := by
  rw [List.eq_nil_iff_forall_not_mem]
  intro place mem
  have matched := (finds_ends line pattern _ (Place.ofOffset_on inside) _).mp ⟨place, mem, rfl⟩
  obtain ⟨other, own, starts, _, matched⟩ := (matches_iff inside).mp matched
  exact none other own starts matched

-- Where no match starts, a search goes on to the next column.
theorem searchFrom_succ (inside : column < line.length)
    (none : ∀ other : Span, other.line = line → other.start = column → ¬IsMatch pattern other) :
    searchFrom (.marked pattern) (line.take column).reverse (line.drop column) column =
      searchFrom (.marked pattern) (line.take (column + 1)).reverse (line.drop (column + 1)) (column + 1) := by
  have nowhere := ends_ofOffset_eq_nil (Nat.le_of_lt inside) none
  obtain ⟨char, passed, reversed⟩ : ∃ char, line.drop column = char :: line.drop (column + 1) ∧
      (line.take (column + 1)).reverse = char :: (line.take column).reverse := by
    refine ⟨_, List.drop_eq_getElem_cons inside, ?_⟩
    rw [List.take_succ_eq_append_getElem inside, List.reverse_concat]
  rw [Place.ofOffset, passed] at nowhere
  rw [passed, searchFrom, ends, nowhere, reversed]
  rfl

theorem searchFrom_none (inside : column ≤ line.length)
    (none : ∀ other : Span, other.line = line → column ≤ other.start → ¬IsMatch pattern other) :
    searchFrom (.marked pattern) (line.take column).reverse (line.drop column) column = .none := by
  obtain ⟨more, length⟩ := Nat.exists_eq_add_of_le inside
  induction more generalizing column with
  | zero =>
    have nowhere := ends_ofOffset_eq_nil inside fun other own starts => none other own (by omega)
    have last : line.drop column = [] := List.drop_eq_nil_of_le (by omega)
    rw [Place.ofOffset, last] at nowhere
    rw [last, searchFrom, ends, nowhere]
    rfl
  | succ more ih =>
    rw [searchFrom_succ (by omega) fun other own starts => none other own (by omega)]
    exact ih (by omega) (fun other own later => none other own (by omega)) (by omega)

theorem searchFrom_part (preferred : Preferred pattern part) :
    searchFrom (.marked pattern) part.before (part.chars ++ part.after) part.start =
      some ⟨part.stop, (part.line.take part.stop).reverse, part.line.drop part.stop, some part⟩ := by
  have inside := Nat.le_trans part.start_le_stop part.stop_le_length
  have begins : (Place.ofOffset part.line part.start).On part.line := Place.ofOffset_on inside
  rw [ofOffset_start] at begins
  unfold Preferred at preferred
  cases found : ends pattern ⟨part.start, part.before, part.chars ++ part.after, none⟩ with
  | nil => simp [found] at preferred
  | cons place rest =>
    have stops : place.offset = part.stop := by simpa [found] using preferred
    have on := (ends_leadsOn part.line pattern _ begins place (by simp [found])).1
    have after : place.after = part.after := by rw [on.after_eq, stops, ← part.after_eq]
    have spans : (Place.mk part.start part.before (part.chars ++ part.after) none).spanTo place = part := by
      simp [Place.spanTo, after, stops, Span.stop, Span.start]
    rw [searchFrom.eq_def, ends, found, List.map_cons, spans, on.before_eq, on.after_eq, stops]

/-- A search from a column on finds the preferred match where the first one starts. -/
theorem searchFrom_of_preferred (own : part.line = line) (preferred : Preferred pattern part)
    (reached : column ≤ part.start)
    (first : ∀ other : Span, other.line = line → column ≤ other.start → other.start < part.start →
      ¬IsMatch pattern other) :
    searchFrom (.marked pattern) (line.take column).reverse (line.drop column) column =
      some ⟨part.stop, (line.take part.stop).reverse, line.drop part.stop, some part⟩ := by
  subst own
  obtain ⟨more, ahead⟩ := Nat.exists_eq_add_of_le reached
  induction more generalizing column with
  | zero =>
    obtain rfl : part.start = column := ahead
    rw [← part.before_eq, part.drop_start_line]
    exact searchFrom_part preferred
  | succ more ih =>
    have inside := Nat.le_trans part.start_le_stop part.stop_le_length
    rw [searchFrom_succ (by omega) fun other own starts => first other own (by omega) (by omega)]
    exact ih (by omega) (fun other own later => first other own (by omega)) (by omega)

/-- Parts that follow one another are all that searches find, if they are preferred matches and no match starts
outside of them. -/
theorem FindsAll.of_placed {spans : List Span} (placed : Placed line column spans)
    (preferred : ∀ span ∈ spans, Preferred pattern span)
    (covered : ∀ other : Span, other.line = line → column ≤ other.start → IsMatch pattern other →
      ∃ span ∈ spans, span.start ≤ other.start ∧ other.start < span.stop) (inside : column ≤ line.length)
    (mark : Option Span) : FindsAll pattern { Place.ofOffset line column with mark } spans := by
  induction placed generalizing mark with
  | nil column =>
    refine .done (searchFrom_none inside fun other own later matched => ?_)
    obtain ⟨span, mem, _⟩ := covered other own later matched
    cases mem
  | @cons column span rest own some reached behind ih =>
    have ordered : ∀ other ∈ rest, span.stop ≤ other.start := fun other mem => (behind.of_mem mem).2.2
    have found := searchFrom_of_preferred own (preferred span List.mem_cons_self) reached
      fun other ownToo later before matched => by
        obtain ⟨cover, mem, starts, _⟩ := covered other ownToo later matched
        have wide := span.start_le_stop
        rcases List.mem_cons.mp mem with rfl | mem
        · omega
        · have := ordered cover mem
          omega
    refine .next found rfl (ih (fun other mem => preferred other (List.mem_cons_of_mem _ mem)) ?_ ?_ _)
    · intro other ownToo later matched
      obtain ⟨cover, mem, within⟩ := covered other ownToo (by have := span.start_le_stop; omega) matched
      rcases List.mem_cons.mp mem with rfl | mem
      · omega
      · exact ⟨cover, mem, within⟩
    · exact own ▸ span.stop_le_length

/-- Parts that follow one another are all that searches find, if every match starts in one of them and ends with it. -/
theorem FindsAll.of_covering {spans : List Span} (placed : Placed line 0 spans)
    (matched : ∀ span ∈ spans, IsMatch pattern span)
    (covered : ∀ other : Span, other.line = line → IsMatch pattern other →
      ∃ span ∈ spans, span.start ≤ other.start ∧ other.start < span.stop ∧ other.stop = span.stop) :
    FindsAll pattern (.first line) spans := by
  refine .of_placed placed (fun span mem => preferred_of_unique (matched span mem) ?_) ?_ (Nat.zero_le _) none
  · intro other own starts isMatch
    have within := placed.of_mem mem
    obtain ⟨cover, memCover, before, inside, ends⟩ := covered other (own.trans within.1) isMatch
    have wide : span.start < span.stop := Nat.lt_add_of_pos_right (List.length_pos_iff.mpr within.2.1)
    by_cases same : cover = span
    · rw [ends, same]
    · have := placed.apart memCover mem same
      omega
  · intro other own _ isMatch
    obtain ⟨cover, mem, before, inside, _⟩ := covered other own isMatch
    exact ⟨cover, mem, before, inside⟩

end BslLint.Pattern
