import BslLint.Text.Space
import BslLint.Text.Word
import Mathlib.Data.List.TakeWhile

/-! White space is no part of words, and white space at the end of a text stays apart from what is read
before it. -/

set_option autoImplicit false

namespace BslLint.Text

def spaceCodes : List Nat :=
  [0x9, 0xA, 0xB, 0xC, 0xD, 0x20, 0x85, 0xA0, 0x1680, 0x2000, 0x2001, 0x2002, 0x2003, 0x2004, 0x2005, 0x2006, 0x2007,
   0x2008, 0x2009, 0x200A, 0x2028, 0x2029, 0x202F, 0x205F, 0x3000]

theorem mem_spaceCodes {char : Char} (space : isSpace char = true) : char.toNat ∈ spaceCodes := by
  simp only [isSpace, spaceBounds, within_cons, within_nil, Bool.or_false, Bool.or_eq_true, Bool.and_eq_true,
    decide_eq_true_eq] at space
  simp only [spaceCodes, List.mem_cons, List.not_mem_nil, or_false]
  omega

theorem isWord_of_isSpace {char : Char} (space : isSpace char = true) : isWord char = false := by
  have all : ∀ code ∈ spaceCodes, (within letterBounds code || within alphabeticSignBounds code ||
      within decimalDigitBounds code || within wordSignBounds code) = false := by decide +kernel
  exact all _ (mem_spaceCodes space)

theorem isDigit_of_isSpace {char : Char} (space : isSpace char = true) : isDigit char = false := by
  cases digit : isDigit char with
  | false => rfl
  | true => exact absurd (isWord_of_isDigit digit) (by simp [isWord_of_isSpace space])

theorem trimEnd_prefix (text : List Char) : trimEnd text <+: text := by
  rw [trimEnd, ← List.reverse_suffix, List.reverse_reverse]
  exact List.dropWhile_suffix _

theorem dropWhile_of_head? {test : Char → Bool} {text : List Char} (stops : ∀ char ∈ text.head?, test char = false) :
    text.dropWhile test = text := by
  cases text with
  | nil => rfl
  | cons first rest => exact List.dropWhile_cons_of_neg (by simp [stops first rfl])

theorem takeWhile_of_head? {test : Char → Bool} {text : List Char} (stops : ∀ char ∈ text.head?, test char = false) :
    text.takeWhile test = [] := by
  cases text with
  | nil => rfl
  | cons first rest => exact List.takeWhile_cons_of_neg (by simp [stops first rfl])

theorem head?_dropWhile {test : Char → Bool} (text : List Char) :
    ∀ char ∈ (text.dropWhile test).head?, test char = false := by
  intro char starts
  have fails := List.head?_dropWhile_not test text
  rw [starts] at fails
  simpa using fails

section Ends

variable {test : Char → Bool} {text : List Char} (ends : text.dropWhile test ≠ []) (more : List Char)
include ends

theorem takeWhile_append_of_ends : (text ++ more).takeWhile test = text.takeWhile test := by
  have split := congrArg List.length (List.takeWhile_append_dropWhile (p := test) (l := text))
  have left := List.length_pos_iff.mpr ends
  rw [List.length_append] at split
  rw [List.takeWhile_append, if_neg (by omega)]

theorem dropWhile_append_of_ends : (text ++ more).dropWhile test = text.dropWhile test ++ more := by
  rw [List.dropWhile_append, if_neg (by simpa using ends)]

end Ends

-- A scan that stops at every character of a text does not go on into it.

section Stops

variable {test : Char → Bool} {more : List Char} (stops : ∀ char ∈ more, test char = false) (text : List Char)
include stops

theorem dropWhile_append_of_stops : (text ++ more).dropWhile test = text.dropWhile test ++ more := by
  have kept : more.dropWhile test = more := by
    cases more with
    | nil => rfl
    | cons first rest => rw [List.dropWhile_cons_of_neg (by simp [stops first List.mem_cons_self])]
  rw [List.dropWhile_append, kept]
  split
  · rename_i all
    rw [List.isEmpty_iff.mp all, List.nil_append]
  · rfl

theorem takeWhile_append_of_stops : (text ++ more).takeWhile test = text.takeWhile test := by
  have none : more.takeWhile test = [] := by
    cases more with
    | nil => rfl
    | cons first rest => rw [List.takeWhile_cons_of_neg (by simp [stops first List.mem_cons_self])]
  rw [List.takeWhile_append, none, List.append_nil]
  split
  · rename_i all
    exact ((List.takeWhile_prefix test).eq_of_length all).symm
  · rfl

end Stops

theorem trimStart_append_of_cons {text rest : List Char} {first : Char} (trimmed : trimStart text = first :: rest)
    (more : List Char) : trimStart (text ++ more) = first :: (rest ++ more) := by
  rw [trimStart] at trimmed ⊢
  rw [List.dropWhile_append, trimmed]
  rfl

section Blank

variable {blank : List Char} (spaces : isBlank blank = true)
include spaces

theorem isSpace_of_mem_blank {char : Char} (mem : char ∈ blank) : isSpace char = true :=
  List.all_eq_true.mp spaces char mem

theorem head?_append_blank {mark : Char} (dense : isSpace mark = false) (text : List Char) :
    (text ++ blank).head? = some mark ↔ text.head? = some mark := by
  cases text with
  | cons first rest => rfl
  | nil =>
    constructor
    · intro starts
      have space := isSpace_of_mem_blank spaces (List.mem_of_mem_head? starts)
      exact absurd space (by simp [dense])
    · intro starts
      cases starts

theorem isBlank_append_blank (text : List Char) : isBlank (text ++ blank) = isBlank text := by
  rw [isBlank, List.all_append, ← isBlank, ← isBlank, spaces, Bool.and_true]

theorem trimStart_append_blank_of_nil {text : List Char} (trimmed : trimStart text = []) :
    trimStart (text ++ blank) = [] := by
  rw [trimStart_eq_nil_iff] at trimmed ⊢
  rwa [isBlank_append_blank spaces]

theorem head?_trimStart_append_blank (text : List Char) :
    (trimStart (text ++ blank)).head? = (trimStart text).head? := by
  cases trimmed : trimStart text with
  | nil => rw [trimStart_append_blank_of_nil spaces trimmed]
  | cons first rest => rw [trimStart_append_of_cons trimmed, List.head?_cons, List.head?_cons]

end Blank

def Leads (text : List Char) (char : Char) (rest : List Char) : Prop :=
  isSpace char = false ∧ ∃ gap, isBlank gap = true ∧ text = gap ++ char :: rest

theorem trimStart_blank_append {gap : List Char} (blank : isBlank gap = true) (text : List Char) :
    trimStart (gap ++ text) = trimStart text :=
  List.dropWhile_append_of_pos fun _ mem => isSpace_of_mem_blank blank mem

theorem trimStart_cons {char : Char} (visible : isSpace char = false) (rest : List Char) :
    trimStart (char :: rest) = char :: rest :=
  List.dropWhile_cons_of_neg (by simp [visible])

theorem isSpace_or_eq_of_head? {gap rest : List Char} {mark char : Char} (blank : isBlank gap = true)
    (first : char ∈ (gap ++ mark :: rest).head?) : isSpace char = true ∨ char = mark := by
  cases gap with
  | nil =>
    cases first
    exact .inr rfl
  | cons space others =>
    cases first
    exact .inl (isSpace_of_mem_blank blank List.mem_cons_self)

theorem isBlank_takeWhile (text : List Char) : isBlank (text.takeWhile isSpace) = true :=
  List.all_takeWhile

theorem leads_iff {text rest : List Char} {char : Char} : Leads text char rest ↔ trimStart text = char :: rest := by
  constructor
  · rintro ⟨visible, gap, blank, rfl⟩
    rw [trimStart_blank_append blank, trimStart_cons visible]
  · intro trimmed
    have split : text.takeWhile isSpace ++ trimStart text = text := List.takeWhile_append_dropWhile
    rw [trimmed] at split
    refine ⟨?_, _, isBlank_takeWhile text, split.symm⟩
    exact head?_dropWhile text char (by rw [← trimStart, trimmed]; rfl)

theorem isBlank_eq_false_iff {text : List Char} : isBlank text = false ↔ ∃ char rest, Leads text char rest := by
  simp only [leads_iff, ← List.ne_nil_iff_exists_cons, ne_eq, trimStart_eq_nil_iff, Bool.not_eq_true]

/-- Behind characters of a kind, which neither white space nor the mark is. -/
theorem leads_dropWhile_iff {test : Char → Bool} (spaces : ∀ char, isSpace char = true → test char = false)
    {mark : Char} (visible : isSpace mark = false) (apart : test mark = false) {text rest : List Char} :
    Leads (text.dropWhile test) mark rest ↔ ∃ inside gap, (∀ char ∈ inside, test char = true) ∧
      isBlank gap = true ∧ text = inside ++ (gap ++ mark :: rest) := by
  constructor
  · rintro ⟨_, gap, blank, split⟩
    refine ⟨text.takeWhile test, gap, fun char => List.mem_takeWhile_imp, blank, ?_⟩
    rw [← split, List.takeWhile_append_dropWhile]
  · rintro ⟨inside, gap, all, blank, rfl⟩
    have stops : ∀ char ∈ (gap ++ mark :: rest).head?, test char = false := by
      intro char first
      rcases isSpace_or_eq_of_head? blank first with space | rfl
      · exact spaces char space
      · exact apart
    rw [List.dropWhile_append_of_pos all, dropWhile_of_head? stops]
    exact ⟨visible, gap, blank, rfl⟩

theorem Leads.unique {text rest other : List Char} {char : Char} (leads : Leads text char rest)
    (leadsToo : Leads text char other) : rest = other :=
  (List.cons.inj ((leads_iff.mp leads).symm.trans (leads_iff.mp leadsToo))).2

/-- Trimming takes away the white space at both ends, all of it and nothing else. -/
theorem trim_eq_iff {text inner : List Char} : trim text = inner ↔
    (∃ gap trailing, isBlank gap = true ∧ isBlank trailing = true ∧ text = gap ++ (inner ++ trailing)) ∧
      (∀ char ∈ inner.head?, isSpace char = false) ∧ ∀ char ∈ inner.getLast?, isSpace char = false := by
  constructor
  · rintro rfl
    have front : text.takeWhile isSpace ++ trimStart text = text := List.takeWhile_append_dropWhile
    have back := congrArg List.reverse
      (List.takeWhile_append_dropWhile (p := isSpace) (l := (trimStart text).reverse))
    rw [List.reverse_append, List.reverse_reverse] at back
    have blank : isBlank ((trimStart text).reverse.takeWhile isSpace).reverse = true := by
      rw [isBlank, List.all_reverse]
      exact isBlank_takeWhile _
    refine ⟨⟨_, _, isBlank_takeWhile text, blank, ?_⟩, ?_, ?_⟩
    · rw [trim, trimEnd, back, front]
    · intro char starts
      obtain ⟨rest, whole⟩ := trimEnd_prefix (trimStart text)
      refine head?_dropWhile text char ?_
      rw [← trimStart, ← whole, List.head?_append, ← trim, Option.mem_def.mp starts]
      rfl
    · intro char ends
      rw [trim, trimEnd, List.getLast?_reverse] at ends
      exact head?_dropWhile _ char ends
  · rintro ⟨⟨gap, trailing, blank, blankToo, rfl⟩, starts, ends⟩
    rw [trim, trimStart_blank_append blank]
    cases inner with
    | nil =>
      rw [List.nil_append, (trimStart_eq_nil_iff trailing).mpr blankToo]
      rfl
    | cons first rest =>
      have back : isBlank trailing.reverse = true := by rwa [isBlank, List.all_reverse]
      rw [List.cons_append, trimStart_cons (starts first rfl), ← List.cons_append, trimEnd, List.reverse_append,
        ← trimStart, trimStart_blank_append back, trimStart, dropWhile_of_head?, List.reverse_reverse]
      rw [List.head?_reverse]
      exact ends

-- White space may as well be taken away at the end first.
theorem trimStart_trimEnd (text : List Char) : trimStart (trimEnd text) = trim text := by
  have front : (trimEnd text).takeWhile isSpace ++ trimStart (trimEnd text) = trimEnd text :=
    List.takeWhile_append_dropWhile
  have back : trimEnd text ++ (text.reverse.takeWhile isSpace).reverse = text := by
    rw [trimEnd, ← List.reverse_append, List.takeWhile_append_dropWhile, List.reverse_reverse]
  have blank : isBlank (text.reverse.takeWhile isSpace).reverse = true := by
    rw [isBlank, List.all_reverse]
    exact isBlank_takeWhile _
  symm
  refine trim_eq_iff.mpr ⟨⟨_, _, isBlank_takeWhile (trimEnd text), blank, ?_⟩, head?_dropWhile _, ?_⟩
  · rw [← List.append_assoc, front, back]
  · intro char ends
    have last : char ∈ (trimEnd text).getLast? := by
      rw [← front, List.getLast?_append, Option.mem_def.mp ends]
      rfl
    rw [trimEnd, List.getLast?_reverse] at last
    exact head?_dropWhile _ char last

theorem trim_eq_nil_iff (text : List Char) : trim text = [] ↔ isBlank text = true := by
  rw [trim_eq_iff]
  constructor
  · rintro ⟨⟨gap, trailing, blank, blankToo, rfl⟩, _⟩
    rwa [List.nil_append, isBlank_append_blank blankToo]
  · intro blank
    exact ⟨⟨text, [], blank, rfl, by simp⟩, nofun, nofun⟩

end BslLint.Text
