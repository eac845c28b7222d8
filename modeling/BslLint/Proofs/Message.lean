import BslLint.Message
import BslLint.Proofs.Items
import BslLint.Proofs.Text.Digits
import BslLint.Proofs.Text.Space
import Mathlib.Data.List.Basic

/-! What becomes of a message template. It divides into literal text and placeholders in one way only, which the number
of arguments decides; each placeholder gives way to its argument, and the literal text stays. -/

set_option autoImplicit false

namespace BslLint.Message

/-- What may stand in braces to name one of several arguments: its number, which is a machine word. No list has more
arguments than such words can number. -/
structure Names (count : Nat) (written : List Char) (index : Nat) : Prop where
  writes : Text.WritesNatural written index
  listed : index < count
  word : index < wordBound

theorem Names.not_mem {count index : Nat} {written : List Char} (names : Names count written index) {char : Char}
    (brace : char = '{' ∨ char = '}') : char ∉ written := by
  rcases brace with rfl | rfl
  · exact names.writes.not_mem (by decide) (by decide)
  · exact names.writes.not_mem (by decide) (by decide)

theorem Names.unique {count first second : Nat} {written : List Char} (left : Names count written first)
    (right : Names count written second) : first = second := by
  have read := Text.boundedNatural?_eq_some_iff.mpr ⟨left.writes, left.word⟩
  exact Option.some.inj (read.symm.trans (Text.boundedNatural?_eq_some_iff.mpr ⟨right.writes, right.word⟩))

def argumentAt (arguments : List String) (index : Nat) : List Char :=
  (arguments[index]?.getD "").toList

theorem Names.argumentAt_eq {arguments : List String} {written : List Char} {index : Nat}
    (names : Names arguments.length written index) :
    argumentAt arguments index = (arguments.get ⟨index, names.listed⟩).toList := by
  rw [argumentAt, List.getElem?_eq_getElem names.listed]
  rfl

theorem placeholder?_eq_some_iff {arguments : List String} {text argument rest : List Char} :
    placeholder? arguments text = some (argument, rest) ↔
      ∃ written index, text = written ++ '}' :: rest ∧ Names arguments.length written index ∧
        argument = argumentAt arguments index := by
  constructor
  · intro found
    unfold placeholder? at found
    split at found
    · cases found
    · rename_i closing after closes
      split at found
      · rename_i index read
        obtain ⟨value, known, same⟩ := Option.map_eq_some_iff.mp found
        cases same
        obtain ⟨writes, word⟩ := Text.boundedNatural?_eq_some_iff.mp read
        have brace : closing = '}' := by
          have stops := Text.head?_dropWhile text closing (by rw [closes]; rfl)
          simpa using stops
        have whole := List.takeWhile_append_dropWhile (p := (· != '}')) (l := text)
        rw [closes, brace] at whole
        have named : value.toList = argumentAt arguments index := by
          rw [argumentAt, known]
          rfl
        exact ⟨_, index, whole.symm, ⟨writes, (List.getElem?_eq_some_iff.mp known).1, word⟩, named⟩
      · cases found
  · rintro ⟨written, index, rfl, names, rfl⟩
    have inside : ∀ char ∈ written, (char != '}') = true := by
      intro char mem
      rw [bne_iff_ne]
      rintro rfl
      exact names.not_mem (.inr rfl) mem
    have closes : ('}' :: rest).dropWhile (· != '}') = '}' :: rest := rfl
    have read := Text.boundedNatural?_eq_some_iff.mpr ⟨names.writes, names.word⟩
    have taken : (written ++ '}' :: rest).takeWhile (· != '}') = written := by
      rw [List.takeWhile_append_of_pos inside]
      exact List.append_nil written
    unfold placeholder?
    rw [List.dropWhile_append_of_pos inside, closes, taken]
    simp only [read, List.getElem?_eq_getElem names.listed, Option.map_some, names.argumentAt_eq, List.get_eq_getElem]

section

variable {arguments : List String} {text argument rest : List Char}

theorem formatChars_of_some (found : placeholder? arguments text = some (argument, rest)) :
    formatChars arguments ('{' :: text) = argument ++ formatChars arguments rest := by
  rw [formatChars, if_pos rfl]
  split
  · rename_i same
    cases same.symm.trans found
    rfl
  · rename_i missing
    cases missing.symm.trans found

theorem formatChars_of_none (missing : placeholder? arguments text = none) :
    formatChars arguments ('{' :: text) = '{' :: formatChars arguments text := by
  rw [formatChars, if_pos rfl]
  split
  · rename_i found
    cases found.symm.trans missing
  · rfl

end

def Opens (count : Nat) (text : List Char) : Prop :=
  ∃ written index rest, text = '{' :: (written ++ '}' :: rest) ∧ Names count written index

def Plain (count : Nat) (text : List Char) : Prop :=
  ∀ rest, rest <:+ text → ¬Opens count rest

theorem Opens.append {count : Nat} {text : List Char} (opens : Opens count text) (more : List Char) :
    Opens count (text ++ more) := by
  obtain ⟨written, index, rest, rfl, names⟩ := opens
  exact ⟨written, index, rest ++ more, by simp, names⟩

theorem plain_nil (count : Nat) : Plain count [] := by
  rintro rest suffix ⟨written, index, behind, rfl, _⟩
  cases List.suffix_nil.mp suffix

theorem plain_cons_iff {count : Nat} {char : Char} {text : List Char} :
    Plain count (char :: text) ↔ ¬Opens count (char :: text) ∧ Plain count text := by
  simp only [Plain, List.suffix_cons_iff, or_imp, forall_and, forall_eq]

/-- What holds of the empty text, and goes over from the rest of a text to the text if either a placeholder or another
character stands in front of the rest, holds of all texts. -/
theorem template_induction (count : Nat) {motive : List Char → Prop} (nil : motive [])
    (placeholder : ∀ written index rest, Names count written index → motive rest →
      motive ('{' :: (written ++ '}' :: rest)))
    (literal : ∀ char text, ¬Opens count (char :: text) → motive text → motive (char :: text)) (text : List Char) :
    motive text := by
  -- Behind a placeholder the text is shorter by more than one character.
  induction length : text.length using Nat.strongRecOn generalizing text with
  | ind size ih =>
    cases text with
    | nil => exact nil
    | cons char text =>
      by_cases opens : Opens count (char :: text)
      · obtain ⟨written, index, rest, shape, names⟩ := opens
        rw [shape] at length ⊢
        refine placeholder written index rest names (ih _ ?_ rest rfl)
        rw [← length, List.length_cons, List.length_append, List.length_cons]
        omega
      · refine literal char text opens (ih _ ?_ text rfl)
        rw [← length, List.length_cons]
        omega

theorem formatChars_placeholder {arguments : List String} {written : List Char} {index : Nat}
    (names : Names arguments.length written index) (rest : List Char) :
    formatChars arguments ('{' :: (written ++ '}' :: rest)) = argumentAt arguments index ++ formatChars arguments rest :=
  formatChars_of_some (placeholder?_eq_some_iff.mpr ⟨written, index, rfl, names, rfl⟩)

theorem formatChars_literal {arguments : List String} {char : Char} {text : List Char}
    (unopened : ¬Opens arguments.length (char :: text)) :
    formatChars arguments (char :: text) = char :: formatChars arguments text := by
  by_cases brace : char = '{'
  · subst brace
    apply formatChars_of_none
    cases found : placeholder? arguments text with
    | none => rfl
    | some result =>
      obtain ⟨written, index, shape, names, _⟩ := placeholder?_eq_some_iff.mp found
      exact absurd ⟨written, index, _, congrArg ('{' :: ·) shape, names⟩ unopened
  · rw [formatChars, if_neg brace]

structure Slot where
  written : List Char
  index : Nat
  after : List Char

/-- The literal text in front of the first placeholder, and the placeholders. -/
structure Parts where
  first : List Char
  slots : List Slot

namespace Parts

def literals (parts : Parts) : List (List Char) :=
  parts.first :: parts.slots.map Slot.after

def template (parts : Parts) : List Char :=
  parts.first ++ parts.slots.flatMap fun slot => '{' :: (slot.written ++ '}' :: slot.after)

/-- The template with each placeholder replaced by the argument that it names. -/
def filled (parts : Parts) (arguments : List String) : List Char :=
  parts.first ++ parts.slots.flatMap fun slot => argumentAt arguments slot.index ++ slot.after

/-- A template in its parts: every placeholder names one of so many arguments, and no literal text has such a
placeholder in it. -/
structure Divide (count : Nat) (text : List Char) (parts : Parts) : Prop where
  whole : text = parts.template
  names : ∀ slot ∈ parts.slots, Names count slot.written slot.index
  literal : ∀ piece ∈ parts.literals, Plain count piece

def push (char : Char) (parts : Parts) : Parts :=
  { parts with first := char :: parts.first }

def behind (written : List Char) (index : Nat) (parts : Parts) : Parts :=
  ⟨[], ⟨written, index, parts.first⟩ :: parts.slots⟩

theorem filled_push (char : Char) (parts : Parts) (arguments : List String) :
    (parts.push char).filled arguments = char :: parts.filled arguments :=
  rfl

theorem filled_behind (written : List Char) (index : Nat) (parts : Parts) (arguments : List String) :
    (parts.behind written index).filled arguments = argumentAt arguments index ++ parts.filled arguments := by
  simp [behind, filled]

variable {count : Nat} {parts : Parts}

theorem divide_nil : Divide count [] parts ↔ parts = ⟨[], []⟩ := by
  constructor
  · rintro ⟨whole, _, _⟩
    obtain ⟨first, slots⟩ := parts
    cases slots with
    | nil => simpa [template, eq_comm] using whole
    | cons slot slots => simp [template] at whole
  · rintro rfl
    exact ⟨rfl, List.forall_mem_nil _, List.forall_mem_singleton.mpr (plain_nil count)⟩

theorem divide_literal {char : Char} {text : List Char} (unopened : ¬Opens count (char :: text)) :
    Divide count (char :: text) parts ↔ ∃ later, Divide count text later ∧ parts = later.push char := by
  constructor
  · rintro ⟨whole, names, literal⟩
    obtain ⟨first, slots⟩ := parts
    cases first with
    | nil =>
      cases slots with
      | nil => cases whole
      | cons slot slots =>
        have opens : Opens count (template ⟨[], slot :: slots⟩) :=
          ⟨slot.written, slot.index, template ⟨slot.after, slots⟩, by simp [template], names slot List.mem_cons_self⟩
        exact absurd (whole ▸ opens) unopened
    | cons initial first =>
      obtain ⟨rfl, whole⟩ := List.cons.inj whole
      obtain ⟨plain, others⟩ := List.forall_mem_cons.mp literal
      exact ⟨⟨first, slots⟩, ⟨whole, names, List.forall_mem_cons.mpr ⟨(plain_cons_iff.mp plain).2, others⟩⟩, rfl⟩
  · rintro ⟨later, ⟨rfl, names, literal⟩, rfl⟩
    obtain ⟨plain, others⟩ := List.forall_mem_cons.mp literal
    refine ⟨rfl, names, List.forall_mem_cons.mpr ⟨plain_cons_iff.mpr ⟨fun opens => unopened ?_, plain⟩, others⟩⟩
    exact opens.append _

/-- What follows a literal text begins with a brace, so no placeholder begins in the literal text and ends behind it. -/
theorem first_eq_nil {written rest : List Char} {index : Nat} (names : Names count written index)
    (divides : Divide count ('{' :: (written ++ '}' :: rest)) parts) : parts.first = [] := by
  obtain ⟨whole, _, literal⟩ := divides
  obtain ⟨first, slots⟩ := parts
  cases first with
  | nil => rfl
  | cons initial first =>
    obtain ⟨rfl, whole⟩ := List.cons.inj whole
    have unopened := (plain_cons_iff.mp (literal _ List.mem_cons_self)).1
    have follows {char : Char} {more : List Char}
        (shape : (slots.flatMap fun slot => '{' :: (slot.written ++ '}' :: slot.after)) = char :: more) :
        char = '{' := by
      cases slots with
      | nil => cases shape
      | cons slot slots => exact (List.cons.inj shape).1.symm
    rcases List.append_eq_append_iff.mp whole with ⟨between, rfl, shape⟩ | ⟨between, rfl, shape⟩
    · cases between with
      | nil => exact absurd (follows shape.symm) (by decide)
      | cons closing between =>
        obtain rfl := (List.cons.inj shape).1
        exact absurd ⟨written, index, between, rfl, names⟩ unopened
    · cases between with
      | nil => exact absurd (follows shape) (by decide)
      | cons opening between =>
        obtain rfl := follows shape
        exact absurd (List.mem_append_right _ List.mem_cons_self) (names.not_mem (.inl rfl))

theorem divide_placeholder {written rest : List Char} {index : Nat} (names : Names count written index) :
    Divide count ('{' :: (written ++ '}' :: rest)) parts ↔
      ∃ later, Divide count rest later ∧ parts = later.behind written index := by
  constructor
  · intro divides
    have none := first_eq_nil names divides
    obtain ⟨whole, named, literal⟩ := divides
    obtain ⟨first, slots⟩ := parts
    obtain rfl : first = [] := none
    cases slots with
    | nil => cases whole
    | cons slot slots =>
      obtain ⟨own, others⟩ := List.forall_mem_cons.mp named
      have shape : written ++ '}' :: rest = slot.written ++ '}' :: (⟨slot.after, slots⟩ : Parts).template := by
        simpa [template] using whole
      obtain ⟨rfl, rfl⟩ := separated_inj (names.not_mem (.inr rfl)) (own.not_mem (.inr rfl)) shape
      obtain rfl := names.unique own
      exact ⟨⟨slot.after, slots⟩, ⟨rfl, others, fun piece mem => literal piece (List.mem_cons_of_mem _ mem)⟩, rfl⟩
  · rintro ⟨later, ⟨rfl, named, literal⟩, rfl⟩
    refine ⟨?_, List.forall_mem_cons.mpr ⟨names, named⟩, List.forall_mem_cons.mpr ⟨plain_nil count, literal⟩⟩
    simp [template, behind]

end Parts

/-- A template has exactly one division into literal text and placeholders for a number of arguments. -/
theorem exists_divide (count : Nat) (text : List Char) :
    ∃ parts, Parts.Divide count text parts ∧ ∀ other, Parts.Divide count text other → other = parts := by
  induction text using template_induction count with
  | nil => exact ⟨⟨[], []⟩, Parts.divide_nil.mpr rfl, fun other => Parts.divide_nil.mp⟩
  | placeholder written index rest names ih =>
    obtain ⟨later, divides, unique⟩ := ih
    refine ⟨later.behind written index, (Parts.divide_placeholder names).mpr ⟨later, divides, rfl⟩, fun other same => ?_⟩
    obtain ⟨others, divides, rfl⟩ := (Parts.divide_placeholder names).mp same
    rw [unique others divides]
  | literal char text unopened ih =>
    obtain ⟨later, divides, unique⟩ := ih
    refine ⟨later.push char, (Parts.divide_literal unopened).mpr ⟨later, divides, rfl⟩, fun other same => ?_⟩
    obtain ⟨others, divides, rfl⟩ := (Parts.divide_literal unopened).mp same
    rw [unique others divides]

theorem Parts.Divide.formatChars_eq {arguments : List String} {text : List Char} {parts : Parts}
    (divides : parts.Divide arguments.length text) : formatChars arguments text = parts.filled arguments := by
  induction text using template_induction arguments.length generalizing parts with
  | nil =>
    obtain rfl := divide_nil.mp divides
    rw [formatChars]
    rfl
  | placeholder written index rest names ih =>
    obtain ⟨later, rest, rfl⟩ := (divide_placeholder names).mp divides
    rw [formatChars_placeholder names, filled_behind, ih rest]
  | literal char text unopened ih =>
    obtain ⟨later, rest, rfl⟩ := (divide_literal unopened).mp divides
    rw [formatChars_literal unopened, filled_push, ih rest]

/-- For a number of arguments, a template divides in one way into literal text and placeholders for these arguments.
Whatever the arguments are, each of them comes in place of its placeholders, and all else stays as it is; without
arguments everything does. -/
theorem format_fills (template : String) :
    (∀ count, ∃ parts : Parts, parts.Divide count template.toList ∧
      (∀ other : Parts, other.Divide count template.toList → other = parts) ∧
      ∀ arguments : List String, arguments.length = count →
        (format template arguments).toList = parts.filled arguments) ∧
    format template [] = template := by
  have fills {count : Nat} {parts : Parts} (divides : parts.Divide count template.toList) (arguments : List String)
      (length : arguments.length = count) : (format template arguments).toList = parts.filled arguments := by
    subst length
    rw [format, String.toList_ofList, divides.formatChars_eq]
  refine ⟨fun count => ?_, ?_⟩
  · obtain ⟨parts, divides, unique⟩ := exists_divide count template.toList
    exact ⟨parts, divides, unique, fills divides⟩
  · -- No argument can be named, so that the whole template is one literal text.
    have plain : Parts.Divide 0 template.toList ⟨template.toList, []⟩ := by
      refine ⟨(List.append_nil _).symm, List.forall_mem_nil _, List.forall_mem_singleton.mpr ?_⟩
      rintro rest _ ⟨written, index, _, _, names⟩
      exact absurd names.listed (Nat.not_lt_zero index)
    rw [← String.toList_inj, fills plain [] rfl]
    exact List.append_nil _

end BslLint.Message
