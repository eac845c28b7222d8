import BslLint.Pattern.Reader
import BslLint.Proofs.Pattern.Scanning
import BslLint.Proofs.Source.Tokens

/-! The pattern for names. What it finds in a line, wherever its matches begin, is the end of each word from its first
letter or underscore on. -/

set_option autoImplicit false

namespace BslLint.Source

open Pattern (runOf FindsAll)

def nameStarts : Pattern.CharSet :=
  .union (.bounds Text.letterBounds) (.union (.among ['_']) .none)

/-- The pattern for names: a letter or an underscore, and as many word characters as follow. -/
def namePattern : Pattern :=
  runOf nameStarts .words

theorem ofText?_namePattern : Pattern.ofText? "[\\p{L}_]\\w*".toList = some namePattern := by
  decide +kernel

theorem contains_nameStarts (char : Char) : nameStarts.contains char = isNameStart char := by
  simp [nameStarts, Pattern.CharSet.contains, Pattern.CharSet.none, isNameStart, Text.isLetter, Bool.beq_eq_decide_eq]

def memberChars : Pattern.CharSet :=
  .union .words (.union (.among ['.']) .none)

theorem contains_memberChars (char : Char) : memberChars.contains char = (Text.isWord char || char == '.') := by
  simp [memberChars, Pattern.CharSet.contains, Pattern.CharSet.none, ← Pattern.CharSet.contains_words,
    Bool.beq_eq_decide_eq]

/-- What stands between a name with its members and a mark behind it. -/
theorem leads_members_iff {mark : Char} (visible : Text.isSpace mark = false)
    (apart : (Text.isWord mark || mark == '.') = false) {text rest : List Char} :
    Text.Leads (text.dropWhile fun char => Text.isWord char || char == '.') mark rest ↔ ∃ members gap,
      (∀ char ∈ members, Text.isWord char = true ∨ char = '.') ∧ Text.isBlank gap = true ∧
        text = members ++ (gap ++ mark :: rest) := by
  have spaces (char : Char) (space : Text.isSpace char = true) : (Text.isWord char || char == '.') = false := by
    rw [Text.isWord_of_isSpace space, Bool.false_or, beq_eq_false_iff_ne]
    rintro rfl
    exact absurd space (by decide)
  simp [Text.leads_dropWhile_iff spaces visible apart]

theorem isWord_of_isNameStart {char : Char} (starts : isNameStart char = true) : Text.isWord char = true := by
  rcases (Bool.or_eq_true _ _).mp starts with letter | underscore
  · simp [Text.isWord, Text.isAlphabetic, letter]
  · cases beq_iff_eq.mp underscore
    decide +kernel

theorem isSpace_of_isNameStart {char : Char} (starts : isNameStart char = true) : Text.isSpace char = false := by
  cases space : Text.isSpace char with
  | false => rfl
  | true =>
    have other := Text.isWord_of_isSpace space
    rw [isWord_of_isNameStart starts] at other
    cases other

theorem name?_eq_none_iff {word : Span} : name? word = none ↔ ∀ char ∈ word.chars, isNameStart char = false := by
  have all : (word.chars.dropWhile fun char => !isNameStart char) = [] ↔
      ∀ char ∈ word.chars, isNameStart char = false := by
    simp only [List.dropWhile_eq_nil_iff, Bool.not_eq_true']
  rw [← all]
  unfold name?
  split
  · exact iff_of_true rfl ‹_›
  · exact iff_of_false nofun ‹_›

-- Word characters that none follows are the end of a word.
theorem exists_wordRun {line : List Char} {part : Span} (own : part.line = line) (nonempty : part.chars ≠ [])
    (word : ∀ char ∈ part.chars, Text.isWord char = true) (stops : ∀ char ∈ part.after.head?, Text.isWord char = false) :
    ∃ inside outer, part.before = inside ++ outer ∧ (∀ char ∈ inside, Text.isWord char = true) ∧
      WordRun line ⟨outer, inside.reverse ++ part.chars, part.after⟩ := by
  obtain ⟨before, chars, after⟩ := part
  obtain ⟨inside, outer, rfl, all, edge⟩ : ∃ inside outer, before = inside ++ outer ∧
      (∀ char ∈ inside, Text.isWord char = true) ∧ ∀ char ∈ outer.head?, Text.isWord char = false :=
    ⟨_, _, List.takeWhile_append_dropWhile.symm, fun _ => List.mem_takeWhile_imp, Text.head?_dropWhile before⟩
  refine ⟨inside, outer, rfl, all, by simpa [Span.line] using own, by simp [nonempty], ?_, edge, stops⟩
  intro char mem
  rcases List.mem_append.mp mem with earlier | later
  · exact all char (List.mem_reverse.mp earlier)
  · exact word char later

/-- Word characters that begin like a name, and that none follows, end a name. It may begin before them. -/
theorem exists_name {line : List Char} {part : Span} (own : part.line = line)
    (starts : ∃ first, part.chars.head? = some first ∧ isNameStart first = true)
    (word : ∀ char ∈ part.chars, Text.isWord char = true)
    (stops : ∀ char ∈ part.after.head?, Text.isWord char = false) :
    ∃ name ∈ names line, name.after = part.after ∧ name.start ≤ part.start ∧
      (name = part ∨ ∃ char ∈ part.before.head?, Text.isWord char = true) := by
  obtain ⟨before, chars, after⟩ := part
  obtain ⟨first, head, begins⟩ := starts
  obtain ⟨rest, rfl⟩ := List.head?_eq_some_iff.mp head
  obtain ⟨inside, outer, rfl, all, isRun⟩ := exists_wordRun own (List.cons_ne_nil _ _) word stops
  cases found : name? ⟨outer, inside.reverse ++ first :: rest, after⟩ with
  | none =>
    have other := name?_eq_none_iff.mp found first (by simp)
    rw [begins] at other
    cases other
  | some name =>
    have isName := name?_eq_some_iff.mp found
    refine ⟨name, mem_names_iff.mpr ⟨_, isRun, isName⟩, isName.after, ?_, ?_⟩
    · -- what is skipped of the word does not reach beyond its first letter or underscore
      obtain ⟨skipped, none, whole, ahead⟩ := isName.skips
      have short : skipped.length ≤ inside.length := by
        by_contra long
        have there : skipped[inside.length]? = some first := by
          rw [← List.getElem?_append_left (Nat.lt_of_not_le long), ← whole]
          simp
        rw [none first (List.mem_of_getElem? there)] at begins
        cases begins
      simpa [Span.start, ahead] using short
    · cases inside with
      | nil =>
        left
        have same : NameOf ⟨outer, first :: rest, after⟩ ⟨outer, first :: rest, after⟩ :=
          ⟨⟨first, rfl, begins⟩, ⟨[], by simp, rfl, rfl⟩, rfl⟩
        exact Option.some.inj (found.symm.trans (name?_eq_some_iff.mpr same))
      | cons char _ => exact .inr ⟨char, rfl, all char List.mem_cons_self⟩

/-- What a scan skips of a word starts no name, and what it finds there is the rest of the word. -/
theorem findsAll_wordsFrom (before line : List Char) (offset : Nat) (mark : Option Span) :
    FindsAll namePattern ⟨offset, before, line, mark⟩ ((wordsFrom before line).filterMap name?) := by
  induction before, line using wordsFrom.induct generalizing offset mark with
  | case1 before =>
    rw [wordsFrom]
    exact .done Pattern.searchFrom_runOf_nil
  | case2 before char rest isWord _ ih =>
    have split : char :: rest = char :: rest.takeWhile Text.isWord ++ rest.dropWhile Text.isWord := by
      rw [List.cons_append, List.takeWhile_append_dropWhile]
    have word : ∀ inside ∈ char :: rest.takeWhile Text.isWord, Text.isWord inside = true :=
      List.forall_mem_cons.mpr ⟨isWord, fun _ => List.mem_takeWhile_imp⟩
    have stops : ∀ behind ∈ (rest.dropWhile Text.isWord).head?, Text.isWord behind = false := Text.head?_dropWhile rest
    rw [wordsFrom, if_pos isWord, split]
    generalize rest.takeWhile Text.isWord = inside, rest.dropWhile Text.isWord = after at *
    have passed : inside.reverse ++ char :: before = (char :: inside).reverse ++ before := by
      rw [List.reverse_cons, List.append_assoc, List.singleton_append]
    rw [passed] at ih ⊢
    cases found : name? ⟨before, char :: inside, after⟩ with
    | none =>
      rw [List.filterMap_cons_none found]
      refine .skip (fun passed mem => ?_) (ih _)
      rw [contains_nameStarts, name?_eq_none_iff.mp found passed mem]
    | some name =>
      rw [List.filterMap_cons_some found]
      obtain ⟨⟨first, head, starts⟩, ⟨skipped, none, whole, passed⟩, ends⟩ := name?_eq_some_iff.mp found
      obtain ⟨ahead, chars, behind⟩ := name
      obtain ⟨rest, rfl⟩ := List.head?_eq_some_iff.mp head
      dsimp only at whole passed ends
      subst passed ends
      have passed : (skipped ++ first :: rest).reverse ++ before =
          (first :: rest).reverse ++ (skipped.reverse ++ before) := by
        rw [List.reverse_append, List.append_assoc]
      rw [whole] at ih word ⊢
      rw [passed] at ih ⊢
      rw [List.append_assoc]
      have skips : ∀ passed ∈ skipped, nameStarts.contains passed = false := fun passed mem => by
        rw [contains_nameStarts, none passed mem]
      have goesOn : ∀ inside ∈ rest, Pattern.CharSet.words.contains inside = true := fun inside mem =>
        word inside (List.mem_append_right _ (List.mem_cons_of_mem first mem))
      refine .skip skips fun _ => .longest ((contains_nameStarts first).trans starts) goesOn stops (ih _)
  | case3 before char rest other ih =>
    rw [wordsFrom, if_neg other]
    have stops : ∀ passed ∈ [char], nameStarts.contains passed = false := by
      rw [List.forall_mem_singleton, contains_nameStarts, Bool.eq_false_iff]
      exact fun starts => other (isWord_of_isNameStart starts)
    exact .skip stops (ih _)

-- The names of a line are all that searches for them find.
theorem findsAll_names_iff {line : List Char} {spans : List Span} :
    FindsAll namePattern (.first line) spans ↔ spans = names line := by
  have finds : FindsAll namePattern (.first line) (names line) := findsAll_wordsFrom [] line 0 none
  constructor
  · exact fun findsToo => findsToo.unique finds
  · rintro rfl
    exact finds

end BslLint.Source
