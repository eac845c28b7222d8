import BslLint.Proofs.Json.Grammar
import BslLint.Proofs.Text.Digits
import Mathlib.Data.List.TakeWhile

/-! Reading of text literals and numbers. The readers of the parts of a JSON text find what the grammar writes, as
far as it goes, and take nothing else for it. -/

set_option autoImplicit false

namespace BslLint.JsonForm

open JsonNumeral (IsDigits digitChars FractionWritten SignWritten ExponentWritten)
open Text (digit_cases exists_digit)

theorem isBlank_iff {char : Char} : isBlank char = true ↔ char ∈ [' ', '\t', '\n', '\r'] := by
  simp [isBlank, or_assoc]

theorem blank_nil : Blank [] :=
  nofun

theorem skipBlanks_append {blanks : List Char} (blank : Blank blanks) (text : List Char) :
    skipBlanks (blanks ++ text) = skipBlanks text := by
  induction blanks with
  | nil => rfl
  | cons char rest ih =>
    have found : isBlank char = true := isBlank_iff.mpr (blank char List.mem_cons_self)
    rw [List.cons_append, skipBlanks, List.dropWhile_cons_of_pos found]
    exact ih fun other member => blank other (List.mem_cons_of_mem char member)

theorem skipBlanks_cons {char : Char} (visible : isBlank char = false) (rest : List Char) :
    skipBlanks (char :: rest) = char :: rest :=
  List.dropWhile_cons_of_neg (by simp [visible])

theorem skipBlanks_eq {blanks : List Char} (blank : Blank blanks) {char : Char} (visible : isBlank char = false)
    (rest : List Char) : skipBlanks (blanks ++ char :: rest) = char :: rest := by
  rw [skipBlanks_append blank, skipBlanks_cons visible]

-- A text is its blanks at the front and what stands behind them.
theorem exists_blanks (text : List Char) : ∃ blanks, Blank blanks ∧ text = blanks ++ skipBlanks text := by
  refine ⟨text.takeWhile isBlank, ?_, (List.takeWhile_append_dropWhile).symm⟩
  intro char member
  exact isBlank_iff.mp (List.mem_takeWhile_imp member)

theorem skipBlanks_eq_nil_iff {text : List Char} : skipBlanks text = [] ↔ Blank text := by
  rw [skipBlanks, List.dropWhile_eq_nil_iff]
  exact forall₂_congr fun char _ => isBlank_iff

def NoDigit (text : List Char) : Prop :=
  ∀ char ∈ text.head?, Text.isAsciiDigit char = false

theorem digitsOf_append {digits : List Nat} (bounded : ∀ digit ∈ digits, digit < 10) {rest : List Char}
    (ends : NoDigit rest) : digitsOf (digitChars digits ++ rest) = digits := by
  induction digits with
  | nil =>
    cases rest with
    | nil => rfl
    | cons char rest =>
      have stop : Text.isAsciiDigit char = false := ends char rfl
      simp [digitChars, digitsOf, stop]
  | cons digit digits ih =>
    obtain ⟨found, value⟩ := digit_cases (bounded digit List.mem_cons_self)
    have others := ih fun other member => bounded other (List.mem_cons_of_mem digit member)
    unfold digitsOf digitChars at *
    rw [List.map_cons, List.cons_append, List.takeWhile_cons_of_pos found, List.filterMap_cons_some value, others]

theorem afterDigits_append {digits : List Nat} (bounded : ∀ digit ∈ digits, digit < 10) {rest : List Char}
    (ends : NoDigit rest) : afterDigits (digitChars digits ++ rest) = rest := by
  unfold afterDigits
  rw [List.dropWhile_append_of_pos]
  · cases rest with
    | nil => rfl
    | cons char rest => rw [List.dropWhile_cons_of_neg (by simp [ends char rfl])]
  · intro char member
    obtain ⟨digit, held, rfl⟩ := List.mem_map.mp member
    exact (digit_cases (bounded digit held)).1

theorem digitsOf_bounded (text : List Char) : ∀ digit ∈ digitsOf text, digit < 10 := by
  intro digit member
  obtain ⟨char, held, value⟩ := List.mem_filterMap.mp member
  obtain ⟨found, bounded, rfl⟩ := exists_digit (List.mem_takeWhile_imp held)
  rw [(digit_cases bounded).2, Option.some.injEq] at value
  exact value ▸ bounded

theorem digitChars_digitsOf (text : List Char) : digitChars (digitsOf text) ++ afterDigits text = text := by
  have front (front : List Char) (all : ∀ char ∈ front, Text.isAsciiDigit char = true) :
      digitChars (front.filterMap Text.digitValue?) = front := by
    induction front with
    | nil => rfl
    | cons char rest ih =>
      obtain ⟨digit, bounded, rfl⟩ := exists_digit (all char List.mem_cons_self)
      rw [List.filterMap_cons_some (digit_cases bounded).2, digitChars, List.map_cons]
      exact congrArg _ (ih fun other member => all other (List.mem_cons_of_mem _ member))
  rw [digitsOf, front _ fun char member => List.mem_takeWhile_imp member]
  exact List.takeWhile_append_dropWhile

theorem escapedChar?_eq_some_iff {mark char : Char} : escapedChar? mark = some char ↔ (mark, char) ∈ escapes := by
  unfold escapedChar? escapes
  constructor
  · intro found
    split at found <;> cases found <;> decide
  · intro member
    simp only [List.mem_cons, Prod.mk.injEq, List.not_mem_nil, or_false] at member
    rcases member with ⟨rfl, rfl⟩ | ⟨rfl, rfl⟩ | ⟨rfl, rfl⟩ | ⟨rfl, rfl⟩ | ⟨rfl, rfl⟩ | ⟨rfl, rfl⟩ | ⟨rfl, rfl⟩ |
      ⟨rfl, rfl⟩ <;> rfl

theorem hexDigits?_eq_some_iff {first second third fourth : Char} {value : Nat} :
    hexDigits? [first, second, third, fourth] = some value ↔ ∃ a b c d, hexValue? first = some a ∧
      hexValue? second = some b ∧ hexValue? third = some c ∧ hexValue? fourth = some d ∧
      value = ((a * 16 + b) * 16 + c) * 16 + d := by
  unfold hexDigits?
  simp only [List.foldl_cons, List.foldl_nil, bind, Option.bind_eq_some_iff, pure, Option.some.injEq]
  constructor
  · rintro ⟨_, ⟨_, ⟨_, ⟨_, rfl, a, first, rfl⟩, b, second, rfl⟩, c, third, rfl⟩, d, fourth, rfl⟩
    exact ⟨a, b, c, d, first, second, third, fourth, by omega⟩
  · rintro ⟨a, b, c, d, first, second, third, fourth, rfl⟩
    exact ⟨_, ⟨_, ⟨_, ⟨0, rfl, a, first, rfl⟩, b, second, rfl⟩, c, third, rfl⟩, d, fourth, by omega⟩

theorem readPieces_of_piece {piece : Piece} {first : List Char} (written : piece.Written first) (text : List Char) :
    readPieces (first ++ text) = (readPieces text).map fun read => (piece :: read.1, read.2) := by
  cases written with
  | plain visible notQuote notEscape =>
    -- The branches before ask for a quote or a backslash, which the character is not.
    rename_i char
    rw [List.singleton_append, readPieces, if_neg]
    · cases readPieces text <;> rfl
    · exact fun either => either.elim notEscape (Nat.not_lt.mpr visible)
    · exact notQuote
    · intros; exact notEscape ‹_›
    · intros; exact notEscape ‹_›
  | escaped known =>
    have mark := escapedChar?_eq_some_iff.mpr known
    rw [List.cons_append, List.singleton_append, readPieces, mark]
    · cases readPieces text <;> rfl
    · rintro _ _ _ _ _ rfl _
      cases mark
  | unit a b c d =>
    have value := hexDigits?_eq_some_iff.mpr ⟨_, _, _, _, a, b, c, d, rfl⟩
    simp only [List.cons_append, List.nil_append]
    rw [readPieces, value]
    cases readPieces text <;> rfl

theorem readPieces_written {pieces : List Piece} {text : List Char} (written : PiecesWritten pieces text)
    (rest : List Char) : readPieces (text ++ '"' :: rest) = some (pieces, rest) := by
  induction written with
  | nil => rfl
  | cons first _ ih => rw [List.append_assoc, readPieces_of_piece first, ih, Option.map_some]

theorem exists_written_cons {piece : Piece} {pieces : List Piece} {first text rest : List Char}
    (written : piece.Written first) (others : ∃ used, PiecesWritten pieces used ∧ text = used ++ '"' :: rest) :
    ∃ used, PiecesWritten (piece :: pieces) used ∧ first ++ text = used ++ '"' :: rest := by
  obtain ⟨used, others, rfl⟩ := others
  exact ⟨first ++ used, .cons written others, (List.append_assoc _ _ _).symm⟩

theorem exists_written_of_readPieces {text rest : List Char} {pieces : List Piece}
    (read : readPieces text = some (pieces, rest)) :
    ∃ used, PiecesWritten pieces used ∧ text = used ++ '"' :: rest := by
  fun_induction readPieces text generalizing pieces rest with
  | case1 => cases read
  | case2 =>
    cases read
    exact ⟨[], .nil, rfl⟩
  | case3 first second third fourth text ih =>
    simp only [bind, pure, Option.bind_eq_some_iff, Option.some.injEq, Prod.mk.injEq, Prod.exists] at read
    obtain ⟨value, known, others, rest, found, rfl, rfl⟩ := read
    obtain ⟨a, b, c, d, hexA, hexB, hexC, hexD, rfl⟩ := hexDigits?_eq_some_iff.mp known
    exact exists_written_cons (.unit hexA hexB hexC hexD) (ih found)
  | case4 mark text _ ih =>
    simp only [bind, pure, Option.bind_eq_some_iff, Option.some.injEq, Prod.mk.injEq, Prod.exists] at read
    obtain ⟨char, known, others, rest, found, rfl, rfl⟩ := read
    exact exists_written_cons (.escaped (escapedChar?_eq_some_iff.mp known)) (ih found)
  | case5 => cases read
  | case6 char text notQuote _ _ visible ih =>
    simp only [bind, pure, Option.bind_eq_some_iff, Option.some.injEq, Prod.mk.injEq, Prod.exists] at read
    obtain ⟨others, rest, found, rfl, rfl⟩ := read
    rw [not_or, Nat.not_lt] at visible
    exact exists_written_cons (.plain visible.2 notQuote visible.1) (ih found)

theorem readString_written {pieces : List Piece} {text : List Char} (written : PiecesWritten pieces text)
    (rest : List Char) : readString (text ++ '"' :: rest) = some (textOf? pieces, rest) := by
  rw [readString, readPieces_written written]
  rfl

theorem exists_written_of_readString {text rest : List Char} {value : Option String}
    (read : readString text = some (value, rest)) :
    ∃ pieces used, PiecesWritten pieces used ∧ value = textOf? pieces ∧ text = used ++ '"' :: rest := by
  simp only [readString, bind, pure, Option.bind_eq_some_iff, Option.some.injEq, Prod.mk.injEq, Prod.exists] at read
  obtain ⟨pieces, rest, found, rfl, rfl⟩ := read
  obtain ⟨used, written, rfl⟩ := exists_written_of_readPieces found
  exact ⟨pieces, used, written, rfl, rfl⟩

def Ends (text : List Char) : Prop :=
  ∀ char ∈ text.head?, Text.isAsciiDigit char = false ∧ char ∉ ['.', 'e', 'E']

theorem Ends.noDigit {text : List Char} (ends : Ends text) : NoDigit text :=
  fun char first => (ends char first).1

theorem readFraction_written {digits : List Nat} {text rest : List Char} (written : FractionWritten digits text)
    (ends : NoDigit rest) (noPoint : '.' ∉ rest.head?) : readFraction (text ++ rest) = some (digits, rest) := by
  cases written with
  | none =>
    rw [List.nil_append, readFraction]
    rintro others rfl
    exact noPoint rfl
  | digits isDigits =>
    rw [List.cons_append, readFraction, digitsOf_append isDigits.2 ends, afterDigits_append isDigits.2 ends,
      if_neg isDigits.1]

theorem exists_written_of_readFraction {text rest : List Char} {digits : List Nat}
    (read : readFraction text = some (digits, rest)) : ∃ used, FractionWritten digits used ∧ text = used ++ rest := by
  unfold readFraction at read
  split at read
  · rename_i text
    split at read
    · cases read
    · rename_i given
      cases read
      refine ⟨_, .digits ⟨given, digitsOf_bounded text⟩, ?_⟩
      rw [List.cons_append, digitChars_digitsOf]
  · cases read
    exact ⟨[], .none, rfl⟩

theorem exists_digit_cons {digits : List Nat} (isDigits : IsDigits digits) (rest : List Char) :
    ∃ first others, digitChars digits ++ rest = first :: others ∧ Text.isAsciiDigit first = true := by
  cases digits with
  | nil => cases isDigits.1 rfl
  | cons digit digits => exact ⟨_, _, rfl, (digit_cases (isDigits.2 digit List.mem_cons_self)).1⟩

theorem takeSign_written {negative : Bool} {sign : List Char} (written : SignWritten negative sign)
    {digits : List Nat} (isDigits : IsDigits digits) (rest : List Char) :
    Number.takeSign (sign ++ (digitChars digits ++ rest)) = (negative, digitChars digits ++ rest) := by
  cases written with
  | none =>
    obtain ⟨first, others, same, found⟩ := exists_digit_cons isDigits rest
    rw [List.nil_append, same, Number.takeSign]
    · rintro _ ⟨⟩
      cases found
    · rintro _ ⟨⟩
      cases found
  | plus => rfl
  | minus => rfl

theorem exists_written_of_takeSign {text rest : List Char} {negative : Bool}
    (read : Number.takeSign text = (negative, rest)) : ∃ sign, SignWritten negative sign ∧ text = sign ++ rest := by
  unfold Number.takeSign at read
  split at read
  · cases read
    exact ⟨_, .minus, rfl⟩
  · cases read
    exact ⟨_, .plus, rfl⟩
  · cases read
    exact ⟨_, .none, rfl⟩

theorem readExponent_written {exponent : Option (Bool × List Nat)} {text rest : List Char}
    (written : ExponentWritten exponent text) (ends : Ends rest) :
    readExponent (text ++ rest) = some (exponent, rest) := by
  cases written with
  | none =>
    cases rest with
    | nil => rfl
    | cons char rest =>
      have stop := (ends char rfl).2
      rw [List.nil_append, readExponent, if_neg]
      rintro (rfl | rfl) <;> simp at stop
  | digits mark sign isDigits =>
    rw [List.cons_append, List.append_assoc, readExponent, if_pos (by simpa using mark)]
    simp only [takeSign_written sign isDigits, digitsOf_append isDigits.2 ends.noDigit,
      afterDigits_append isDigits.2 ends.noDigit, if_neg isDigits.1]

theorem exists_written_of_readExponent {text rest : List Char} {exponent : Option (Bool × List Nat)}
    (read : readExponent text = some (exponent, rest)) :
    ∃ used, ExponentWritten exponent used ∧ text = used ++ rest := by
  unfold readExponent at read
  split at read
  · rename_i mark text
    split at read
    · rename_i marked
      cases signed : Number.takeSign text with
      | mk negative digits =>
        simp only [signed] at read
        split at read
        · cases read
        · rename_i given
          cases read
          obtain ⟨sign, written, rfl⟩ := exists_written_of_takeSign signed
          refine ⟨_, .digits (by simpa using marked) written ⟨given, digitsOf_bounded digits⟩, ?_⟩
          rw [List.cons_append, List.append_assoc, digitChars_digitsOf]
    · cases read
      exact ⟨[], .none, rfl⟩
  · cases read
    exact ⟨[], .none, rfl⟩

theorem stops_of_exponentWritten {exponent : Option (Bool × List Nat)} {text rest : List Char}
    (written : ExponentWritten exponent text) (ends : Ends rest) :
    NoDigit (text ++ rest) ∧ '.' ∉ (text ++ rest).head? := by
  cases written with
  | none =>
    refine ⟨ends.noDigit, fun point => ?_⟩
    have other := (ends _ point).2
    simp at other
  | digits mark _ _ =>
    have kinds : ∀ mark ∈ ['e', 'E'], Text.isAsciiDigit mark = false ∧ mark ≠ '.' := by
      simp [Text.isAsciiDigit]
    obtain ⟨notDigit, notPoint⟩ := kinds _ mark
    refine ⟨?_, by simpa using notPoint⟩
    rintro char ⟨⟩
    exact notDigit

theorem noDigit_of_fractionWritten {digits : List Nat} {text rest : List Char} (written : FractionWritten digits text)
    (ends : NoDigit rest) : NoDigit (text ++ rest) := by
  cases written with
  | none => exact ends
  | digits _ =>
    rintro char ⟨⟩
    rfl

def readUnsigned (negative : Bool) (text : List Char) : Option (JsonNumeral × List Char) :=
  if digitsOf text = [] ∨ ((digitsOf text).head? = some 0 ∧ (digitsOf text).length ≠ 1) then none
  else do
    let (fraction, rest) ← readFraction (afterDigits text)
    let (exponent, rest) ← readExponent rest
    return (⟨negative, digitsOf text, fraction, exponent⟩, rest)

theorem readNumeral_negative (text : List Char) : readNumeral ('-' :: text) = readUnsigned true text := rfl

theorem readNumeral_unsigned {text : List Char} (unsigned : '-' ∉ text.head?) :
    readNumeral text = readUnsigned false text := by
  unfold readNumeral
  split
  rename_i negative digits found
  split at found
  · exact absurd rfl unsigned
  · cases found
    rfl

theorem readNumeral_written {numeral : JsonNumeral} {text rest : List Char} (written : numeral.Written text)
    (ends : Ends rest) : readNumeral (text ++ rest) = some (numeral, rest) := by
  obtain ⟨negative, integer, fraction, exponent⟩ := numeral
  obtain @⟨fractionText, exponentText, isDigits, lead, fractional, exponential⟩ := written
  dsimp only at *
  -- Each part ends where the next one begins, or else the number itself ends there.
  obtain ⟨noDigit, noPoint⟩ := stops_of_exponentWritten exponential ends
  have stop := noDigit_of_fractionWritten fractional noDigit
  have proper : ¬(integer = [] ∨ integer.head? = some 0 ∧ integer.length ≠ 1) := by
    rintro (empty | ⟨zero, longer⟩)
    · exact isDigits.1 empty
    · rw [lead zero] at longer
      exact longer rfl
  have unsigned : readUnsigned negative (digitChars integer ++ (fractionText ++ (exponentText ++ rest))) =
      some (⟨negative, integer, fraction, exponent⟩, rest) := by
    rw [readUnsigned, digitsOf_append isDigits.2 stop, afterDigits_append isDigits.2 stop, if_neg proper,
      readFraction_written fractional noDigit noPoint]
    simp only [bind, Option.bind_some, readExponent_written exponential ends, pure]
  simp only [List.append_assoc]
  cases negative with
  | true => exact (readNumeral_negative _).trans unsigned
  | false =>
    obtain ⟨first, others, same, found⟩ :=
      exists_digit_cons isDigits (fractionText ++ (exponentText ++ rest))
    refine (readNumeral_unsigned ?_).trans unsigned
    rw [if_neg Bool.false_ne_true, List.nil_append, same]
    rintro ⟨⟩
    cases found

theorem exists_written_of_readUnsigned {negative : Bool} {text rest : List Char} {numeral : JsonNumeral}
    (read : readUnsigned negative text = some (numeral, rest)) :
    ∃ used, numeral.Written ((if negative then ['-'] else []) ++ used) ∧ text = used ++ rest := by
  unfold readUnsigned at read
  split at read
  · cases read
  · rename_i proper
    rw [not_or, not_and, not_not] at proper
    simp only [bind, pure, Option.bind_eq_some_iff, Option.some.injEq, Prod.mk.injEq, Prod.exists] at read
    obtain ⟨fraction, behind, fractional, exponent, rest, exponential, rfl, rfl⟩ := read
    obtain ⟨fractionText, fractionWritten, split⟩ := exists_written_of_readFraction fractional
    obtain ⟨exponentText, exponentWritten, rfl⟩ := exists_written_of_readExponent exponential
    refine ⟨_, .parts ⟨proper.1, digitsOf_bounded text⟩ ?_ fractionWritten exponentWritten, ?_⟩
    · intro zero
      obtain ⟨digit, single⟩ := List.length_eq_one_iff.mp (proper.2 zero)
      rw [single, List.head?_cons, Option.some.injEq] at zero
      rw [single, zero]
    · rw [List.append_assoc, List.append_assoc, ← split, digitChars_digitsOf]

theorem exists_written_of_readNumeral {text rest : List Char} {numeral : JsonNumeral}
    (read : readNumeral text = some (numeral, rest)) : ∃ used, numeral.Written used ∧ text = used ++ rest := by
  by_cases minus : '-' ∈ text.head?
  · obtain ⟨text, rfl⟩ := List.head?_eq_some_iff.mp minus
    obtain ⟨used, written, rfl⟩ := exists_written_of_readUnsigned read
    exact ⟨_, written, rfl⟩
  · rw [readNumeral_unsigned minus] at read
    obtain ⟨used, written, rfl⟩ := exists_written_of_readUnsigned read
    exact ⟨_, written, rfl⟩

end BslLint.JsonForm
