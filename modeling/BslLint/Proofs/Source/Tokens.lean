import BslLint.Proofs.Source.Numbers

/-! The words, names and numbers of a line, apart from how they are computed. Words are the maximal runs of word
characters, and names are what words hold from their first letter on. Numbers are what a scan from left to right finds: a
run of digits that no word character adjoins starts a number, and a point joins the next run to it. -/

set_option autoImplicit false

namespace BslLint.Source

structure WordRun (line : List Char) (run : Span) : Prop where
  part : run.line = line
  nonempty : run.chars ≠ []
  word : ∀ char ∈ run.chars, Text.isWord char = true
  before : ∀ char ∈ run.before.head?, Text.isWord char = false
  after : ∀ char ∈ run.after.head?, Text.isWord char = false

theorem mem_wordsFrom {before line skipped chars after : List Char} (split : line = skipped ++ (chars ++ after))
    (nonempty : chars ≠ []) (word : ∀ char ∈ chars, Text.isWord char = true)
    (starts : ∀ char ∈ (skipped.reverse ++ before).head?, Text.isWord char = false)
    (ends : ∀ char ∈ after.head?, Text.isWord char = false) :
    ⟨skipped.reverse ++ before, chars, after⟩ ∈ wordsFrom before line := by
  induction before, line using wordsFrom.induct generalizing skipped with
  | case1 before => simp [nonempty] at split
  | case2 before char rest isWord _ ih =>
    unfold wordsFrom
    rw [if_pos isWord]
    cases skipped with
    | nil =>
      -- the word at the start is the run, since both are as long as can be
      obtain ⟨first, chars, rfl⟩ := List.exists_cons_of_ne_nil nonempty
      simp only [List.nil_append, List.cons_append, List.cons.injEq] at split
      obtain ⟨rfl, rfl⟩ := split
      have inside (char : Char) (mem : char ∈ chars) := word char (List.mem_cons_of_mem _ mem)
      rw [List.takeWhile_append_of_pos inside, List.dropWhile_append_of_pos inside, Text.dropWhile_of_head? ends,
        Text.takeWhile_of_head? ends, List.append_nil]
      exact List.mem_cons_self
    | cons first skipped =>
      simp only [List.cons_append, List.cons.injEq] at split
      obtain ⟨rfl, rfl⟩ := split
      -- the word at the start ends in front of the run, since the character there is in no word
      have apart : skipped.dropWhile Text.isWord ≠ [] := by
        intro none
        have all := List.dropWhile_eq_nil_iff.mp none
        have inside : ∀ other ∈ char :: skipped, Text.isWord other = true := by simpa [isWord] using all
        have last : ((char :: skipped).reverse ++ before).head? = some ((char :: skipped).getLast (by simp)) := by
          rw [List.head?_append, List.head?_reverse, List.getLast?_eq_some_getLast (by simp), Option.some_or]
        have ends := starts _ last
        rw [inside _ (List.getLast_mem _)] at ends
        cases ends
      apply List.mem_cons_of_mem
      have same : (char :: skipped).reverse ++ before = (skipped.dropWhile Text.isWord).reverse ++
          ((skipped.takeWhile Text.isWord).reverse ++ char :: before) := by
        rw [← List.append_assoc, ← List.reverse_append, List.takeWhile_append_dropWhile]
        simp
      rw [same] at starts ⊢
      rw [Text.takeWhile_append_of_ends apart] at ih ⊢
      exact ih (Text.dropWhile_append_of_ends apart _) starts
  | case3 before char rest other ih =>
    unfold wordsFrom
    rw [if_neg other]
    cases skipped with
    | nil =>
      obtain ⟨first, chars, rfl⟩ := List.exists_cons_of_ne_nil nonempty
      obtain ⟨rfl, _⟩ := List.cons.inj split
      exact absurd (word char List.mem_cons_self) other
    | cons first skipped =>
      obtain ⟨rfl, rfl⟩ := List.cons.inj split
      simpa using ih rfl (by simpa using starts)

theorem edges_of_mem_wordsFrom {before line : List Char} {word : Span} (mem : word ∈ wordsFrom before line)
    (edge : (∀ char ∈ before.head?, Text.isWord char = false) ∨ ∀ char ∈ line.head?, Text.isWord char = false) :
    (∀ char ∈ word.before.head?, Text.isWord char = false) ∧ ∀ char ∈ word.after.head?, Text.isWord char = false := by
  induction before, line using wordsFrom.induct with
  | case1 before => simp [wordsFrom] at mem
  | case2 before first rest isWord _ ih =>
    unfold wordsFrom at mem
    rw [if_pos isWord] at mem
    rcases List.mem_cons.mp mem with rfl | later
    · refine ⟨edge.resolve_right fun other => ?_, Text.head?_dropWhile rest⟩
      rw [other first rfl] at isWord
      cases isWord
    · exact ih later (.inr (Text.head?_dropWhile rest))
  | case3 before first rest other ih =>
    unfold wordsFrom at mem
    rw [if_neg other] at mem
    apply ih mem
    left
    rintro _ ⟨⟩
    simpa using other

theorem mem_words_iff {line : List Char} {run : Span} : run ∈ words line ↔ WordRun line run := by
  constructor
  · intro mem
    obtain ⟨own, some, _⟩ := (words_placed line).of_mem mem
    obtain ⟨before, after⟩ := edges_of_mem_wordsFrom mem (.inl nofun)
    exact ⟨own, some, fun _ inside => isWord_of_mem_wordsFrom mem inside, before, after⟩
  · intro isRun
    have split : line = run.before.reverse ++ (run.chars ++ run.after) := by
      rw [← isRun.part, Span.line, List.append_assoc]
    have starts : ∀ char ∈ (run.before.reverse.reverse ++ []).head?, Text.isWord char = false := by
      simpa using isRun.before
    have mem := mem_wordsFrom split isRun.nonempty isRun.word starts isRun.after
    rwa [List.reverse_reverse, List.append_nil] at mem

theorem mem_names_iff {line : List Char} {name : Span} :
    name ∈ names line ↔ ∃ run, WordRun line run ∧ NameOf run name := by
  simp only [names, List.mem_filterMap, mem_words_iff, name?_eq_some_iff]

structure DigitRun (line : List Char) (run : Span) : Prop extends WordRun line run where
  digits : ∀ char ∈ run.chars, Text.isDigit char = true

theorem digitRun_iff {line : List Char} {run : Span} : DigitRun line run ↔ run ∈ words line ∧ isNumeric run = true := by
  rw [mem_words_iff, isNumeric, List.all_eq_true]
  exact ⟨fun run => ⟨run.toWordRun, run.digits⟩, fun ⟨run, digits⟩ => ⟨run, digits⟩⟩

structure FirstRun (line : List Char) (column : Nat) (run : Span) : Prop extends DigitRun line run where
  reached : column ≤ run.start
  leftmost : ∀ {other : Span}, DigitRun line other → column ≤ other.start → run.start ≤ other.start

structure Joined (whole fraction : Span) : Prop where
  point : whole.after.head? = some '.'
  follows : fraction.start = whole.stop + 1

/-- The numbers that a scan of a line finds from a column on. A run that a point joins to the next one is a single number
with it, and the scan goes on behind both. -/
inductive Scans (line : List Char) : Nat → List Span → Prop where
  | done {column : Nat} : (∀ run, DigitRun line run → run.start < column) → Scans line column []
  | joined {column : Nat} {whole fraction : Span} {rest : List Span} : FirstRun line column whole →
      DigitRun line fraction → Joined whole fraction → Scans line fraction.stop rest →
      Scans line column (⟨whole.before, whole.chars ++ '.' :: fraction.chars, fraction.after⟩ :: rest)
  | single {column : Nat} {run : Span} {rest : List Span} : FirstRun line column run →
      (∀ fraction, DigitRun line fraction → ¬Joined run fraction) → Scans line run.stop rest →
      Scans line column (run :: rest)

variable {line : List Char}

theorem WordRun.start_lt_stop {run : Span} (isRun : WordRun line run) : run.start < run.stop :=
  Nat.lt_add_of_pos_right (List.length_pos_iff.mpr isRun.nonempty)

theorem WordRun.apart {run other : Span} (isRun : WordRun line run) (isOther : WordRun line other)
    (distinct : run ≠ other) : run.stop ≤ other.start ∨ other.stop ≤ run.start :=
  (words_placed line).apart (mem_words_iff.mpr isRun) (mem_words_iff.mpr isOther) distinct

theorem WordRun.eq_of_start {run other : Span} (isRun : WordRun line run) (isOther : WordRun line other)
    (same : run.start = other.start) : run = other :=
  (words_placed line).eq_of_column (mem_words_iff.mpr isRun) (mem_words_iff.mpr isOther) (.inl same)

theorem WordRun.stop_ne_start {run other : Span} (isRun : WordRun line run) (isOther : WordRun line other) :
    other.start ≠ run.stop := by
  intro adjoins
  obtain ⟨first, chars, split⟩ := List.exists_cons_of_ne_nil isOther.nonempty
  have follows : run.after.head? = some first := by
    rw [run.after_eq, isRun.part, ← isOther.part, ← adjoins, other.drop_start_line, split]
    rfl
  have plain := isRun.after first follows
  rw [isOther.word first (by simp [split])] at plain
  cases plain

theorem Scans.unique {column : Nat} {numbers others : List Span} (scans : Scans line column numbers)
    (again : Scans line column others) : numbers = others := by
  have same {column : Nat} {run other : Span} (first : FirstRun line column run) (second : FirstRun line column other) :
      run = other :=
    first.toWordRun.eq_of_start second.toWordRun
      (Nat.le_antisymm (first.leftmost second.toDigitRun second.reached) (second.leftmost first.toDigitRun first.reached))
  induction scans generalizing others with
  | done none =>
    cases again with
    | done => rfl
    | joined first => exact absurd (none _ first.toDigitRun) (Nat.not_lt_of_le first.reached)
    | single first => exact absurd (none _ first.toDigitRun) (Nat.not_lt_of_le first.reached)
  | @joined _ _ fraction _ first follows joined _ ih =>
    cases again with
    | done none => exact absurd (none _ first.toDigitRun) (Nat.not_lt_of_le first.reached)
    | @joined _ _ other _ second followsToo joinedToo scans =>
      cases same first second
      obtain rfl : fraction = other :=
        follows.toWordRun.eq_of_start followsToo.toWordRun (joined.follows.trans joinedToo.follows.symm)
      rw [ih scans]
    | single second alone =>
      cases same first second
      exact absurd joined (alone _ follows)
  | single first alone _ ih =>
    cases again with
    | done none => exact absurd (none _ first.toDigitRun) (Nat.not_lt_of_le first.reached)
    | joined second follows joined =>
      cases same first second
      exact absurd joined (alone _ follows)
    | single second _ scans =>
      cases same first second
      rw [ih scans]

theorem Scans.covers {column : Nat} {numbers : List Span} (scans : Scans line column numbers) {run : Span}
    (isRun : DigitRun line run) (ahead : column ≤ run.start) :
    ∃ number ∈ numbers, number.start ≤ run.start ∧ run.stop ≤ number.stop := by
  induction scans with
  | done none => exact absurd (none run isRun) (Nat.not_lt_of_le ahead)
  | @joined _ whole fraction rest first isFraction joined _ ih =>
    have spans : (Span.mk whole.before (whole.chars ++ '.' :: fraction.chars) fraction.after).stop = fraction.stop := by
      have follows := joined.follows
      simp only [Span.stop, Span.start, List.length_append, List.length_cons] at follows ⊢
      omega
    have wide := isRun.start_lt_stop
    have reached := first.leftmost isRun ahead
    by_cases behind : fraction.stop ≤ run.start
    · obtain ⟨number, mem, within⟩ := ih behind
      exact ⟨number, List.mem_cons_of_mem _ mem, within⟩
    · refine ⟨_, List.mem_cons_self, reached, ?_⟩
      rw [spans]
      -- the run is one of the two, since nothing but the point is between them
      by_cases same : run = fraction
      · exact same ▸ Nat.le_refl _
      · have before := (isRun.toWordRun.apart isFraction.toWordRun same).resolve_right behind
        exact Nat.le_trans before fraction.start_le_stop
  | @single _ other rest first _ _ ih =>
    by_cases same : run = other
    · subst same
      exact ⟨run, List.mem_cons_self, Nat.le_refl _, Nat.le_refl _⟩
    · have wide := isRun.start_lt_stop
      have reached := first.leftmost isRun ahead
      have behind : other.stop ≤ run.start := by
        rcases isRun.toWordRun.apart first.toWordRun same with before | behind
        · omega
        · exact behind
      obtain ⟨number, mem, within⟩ := ih behind
      exact ⟨number, List.mem_cons_of_mem _ mem, within⟩

structure Remaining (line : List Char) (column : Nat) (remaining : List Span) : Prop where
  placed : Placed line column remaining
  known : ∀ word ∈ remaining, word ∈ words line
  all : ∀ {run : Span}, DigitRun line run → column ≤ run.start → run ∈ remaining

namespace Remaining

variable {column : Nat} {word next : Span} {rest : List Span}

theorem lt_of_nil (left : Remaining line column []) {run : Span} (isRun : DigitRun line run) : run.start < column := by
  apply Nat.lt_of_not_le
  intro behind
  exact List.not_mem_nil (left.all isRun behind)

theorem of_words (line : List Char) : Remaining line 0 (words line) where
  placed := words_placed line
  known _ mem := mem
  all run _ := (digitRun_iff.mp run).1

theorem digitRun (remaining : Remaining line column (word :: rest)) (numeric : isNumeric word = true) :
    DigitRun line word :=
  digitRun_iff.mpr ⟨remaining.known word List.mem_cons_self, numeric⟩

theorem tail (remaining : Remaining line column (word :: rest)) : Remaining line word.stop rest := by
  obtain ⟨placed, known, all⟩ := remaining
  cases placed with
  | cons own some after placed =>
    refine ⟨placed, fun other mem => known other (List.mem_cons_of_mem _ mem), ?_⟩
    intro run isRun behind
    have wide : word.start < word.stop := Nat.lt_add_of_pos_right (List.length_pos_iff.mpr some)
    rcases List.mem_cons.mp (all isRun (by omega)) with rfl | mem
    · omega
    · exact mem

-- A word that is no number may as well be ahead still.
theorem skip (remaining : Remaining line column (word :: rest)) (other : isNumeric word ≠ true) :
    Remaining line column rest := by
  obtain ⟨placed, known, _⟩ := remaining.tail
  cases remaining.placed with
  | cons own some after _ =>
    refine ⟨placed.weaken (Nat.le_trans after word.start_le_stop), known, ?_⟩
    intro run isRun behind
    rcases List.mem_cons.mp (remaining.all isRun behind) with rfl | mem
    · exact absurd (digitRun_iff.mp isRun).2 other
    · exact mem

theorem firstRun (remaining : Remaining line column (word :: rest)) (numeric : isNumeric word = true) :
    FirstRun line column word := by
  refine ⟨remaining.digitRun numeric, ?_, ?_⟩
  · cases remaining.placed with
    | cons _ _ after _ => exact after
  · intro other isRun behind
    rcases List.mem_cons.mp (remaining.all isRun behind) with rfl | mem
    · exact Nat.le_refl _
    · exact Nat.le_trans word.start_le_stop (remaining.tail.placed.of_mem mem).2.2

-- A run that a point joins to a word is the word after it.
theorem joined (remaining : Remaining line column (word :: rest)) {fraction : Span} (isRun : DigitRun line fraction)
    (joined : Joined word fraction) : ∃ others, rest = fraction :: others := by
  have mem := remaining.tail.all isRun (by rw [joined.follows]; omega)
  have behind := remaining.tail.placed
  cases behind with
  | nil => cases mem
  | @cons _ next others own some after placed =>
    rcases List.mem_cons.mp mem with rfl | later
    · exact ⟨others, rfl⟩
    · -- a word in between would start where the point stands
      have first := mem_words_iff.mp (remaining.known word List.mem_cons_self)
      have second := mem_words_iff.mp (remaining.tail.known next List.mem_cons_self)
      have wide := second.start_lt_stop
      have further := (placed.of_mem later).2.2
      rw [joined.follows] at further
      exact absurd (by omega) (first.stop_ne_start second)

end Remaining

theorem numbersOf_scans {column : Nat} {remaining : List Span} (left : Remaining line column remaining) :
    Scans line column (numbersOf remaining) := by
  induction remaining using numbersOf.induct generalizing column with
  | case1 => exact .done fun run isRun => left.lt_of_nil isRun
  | case2 word numeric =>
    rw [numbersOf, if_pos numeric]
    refine .single (left.firstRun numeric) ?_ ?_
    · intro fraction isRun joined
      obtain ⟨_, none⟩ := left.joined isRun joined
      cases none
    · exact .done fun run isRun => left.tail.lt_of_nil isRun
  | case3 word other =>
    rw [numbersOf, if_neg other]
    exact .done fun run isRun => (left.skip other).lt_of_nil isRun
  | case4 word next rest numeric joins ih =>
    rw [numbersOf, if_pos numeric, if_pos joins]
    exact .joined (left.firstRun numeric) (left.tail.digitRun joins.1) ⟨joins.2.1, joins.2.2⟩ (ih left.tail.tail)
  | case5 word next rest numeric apart ih =>
    rw [numbersOf, if_pos numeric, if_neg apart]
    refine .single (left.firstRun numeric) ?_ (ih left.tail)
    intro fraction isRun joined
    obtain ⟨_, same⟩ := left.joined isRun joined
    cases same
    exact apart ⟨(digitRun_iff.mp isRun).2, joined.point, joined.follows⟩
  | case6 word next rest other ih =>
    rw [numbersOf, if_neg other]
    exact ih (left.skip other)

/-- The numbers of a line are those that a scan from its start finds. -/
theorem scans_iff {numbers : List Span} : Scans line 0 numbers ↔ numbers = numbersOf (words line) := by
  have scans := numbersOf_scans (.of_words line)
  constructor
  · intro found
    exact found.unique scans
  · rintro rfl
    exact scans

end BslLint.Source
