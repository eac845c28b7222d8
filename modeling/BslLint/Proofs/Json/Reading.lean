import BslLint.Proofs.Json.Literals

/-! Reading of JSON texts. The reader finds the form that a text writes by the grammar, and every form that it finds is
written by the text. Its fuel is enough for every text, since each step takes at least one character for two units. -/

set_option autoImplicit false

namespace BslLint.JsonForm

theorem Ends.append {blanks : List Char} (blank : Blank blanks) {text : List Char} (ends : Ends text) :
    Ends (blanks ++ text) := by
  cases blanks with
  | nil => exact ends
  | cons char rest =>
    have kinds : ∀ char ∈ [' ', '\t', '\n', '\r'], Text.isAsciiDigit char = false ∧ char ∉ ['.', 'e', 'E'] := by
      simp [Text.isAsciiDigit]
    rintro char ⟨⟩
    exact kinds char (blank char List.mem_cons_self)

theorem ends_cons {char : Char} (delimiter : char ∈ [',', ']', '}']) (rest : List Char) : Ends (char :: rest) := by
  have kinds : ∀ char ∈ [',', ']', '}'], Text.isAsciiDigit char = false ∧ char ∉ ['.', 'e', 'E'] := by
    simp [Text.isAsciiDigit]
  rintro char ⟨⟩
  exact kinds char delimiter

def BeginsNumber (char : Char) : Prop :=
  char = '-' ∨ Text.isAsciiDigit char = true

instance (char : Char) : Decidable (BeginsNumber char) :=
  inferInstanceAs (Decidable (_ ∨ _))

theorem not_isBlank_of_beginsNumber {char : Char} (begins : BeginsNumber char) : isBlank char = false := by
  rcases begins with rfl | found
  · decide
  · have kinds : ∀ digit < 10, isBlank digit.digitChar = false := by decide
    obtain ⟨digit, bounded, rfl⟩ := Text.exists_digit found
    exact kinds digit bounded

theorem exists_cons_of_numeral {numeral : JsonNumeral} {text : List Char} (written : numeral.Written text) :
    ∃ first rest, text = first :: rest ∧ BeginsNumber first := by
  obtain ⟨negative, integer, _, _⟩ := numeral
  obtain @⟨fraction, exponent, isDigits, _, _, _⟩ := written
  cases negative with
  | true => exact ⟨_, _, rfl, .inl rfl⟩
  | false =>
    obtain ⟨first, rest, same, found⟩ := exists_digit_cons isDigits (fraction ++ exponent)
    exact ⟨first, rest, same, .inr found⟩

/-- A value begins neither with a blank nor with the end of an array. -/
theorem Written.exists_cons {form : JsonForm} {text : List Char} (written : Written form text) :
    ∃ first rest, text = first :: rest ∧ isBlank first = false ∧ first ≠ ']' := by
  cases written with
  | number numeral =>
    obtain ⟨first, rest, rfl, begins⟩ := exists_cons_of_numeral numeral
    refine ⟨first, rest, rfl, not_isBlank_of_beginsNumber begins, ?_⟩
    rintro rfl
    exact absurd begins (by decide)
  | _ => exact ⟨_, _, rfl, by decide, by decide⟩

-- Where a number begins, the reader takes the rest for a number.
theorem readValue_of_beginsNumber {first : Char} (begins : BeginsNumber first) (rest : List Char) (fuel : Nat) :
    readValue (fuel + 1) (first :: rest) =
      (readNumeral (first :: rest)).map fun (numeral, rest) => (.number numeral.value?, rest) := by
  have kinds : ∀ char ∈ ['n', 't', 'f', '"', '[', '{'], ¬BeginsNumber char := by
    simp [BeginsNumber, Text.isAsciiDigit]
  have other {char : Char} {others : List Char} (same : first :: rest = char :: others)
      (kind : char ∈ ['n', 't', 'f', '"', '[', '{']) : False :=
    kinds char kind ((List.cons.inj same).1 ▸ begins)
  rw [readValue, skipBlanks_cons (not_isBlank_of_beginsNumber begins)]
  -- All branches but the last one ask for another first character.
  split
  · exact (other ‹_› (by decide)).elim
  · exact (other ‹_› (by decide)).elim
  · exact (other ‹_› (by decide)).elim
  · exact (other ‹_› (by decide)).elim
  · exact (other ‹_› (by decide)).elim
  · exact (other ‹_› (by decide)).elim
  · rfl

theorem readValue_append {blanks : List Char} (blank : Blank blanks) (fuel : Nat) (text : List Char) :
    readValue fuel (blanks ++ text) = readValue fuel text := by
  cases fuel with
  | zero => rfl
  | succ fuel => rw [readValue, readValue, skipBlanks_append blank]

theorem readKey_written {key : Option String} {name : List Char} (written : KeyWritten key name) (rest : List Char) :
    ∃ text after, Blank after ∧ skipBlanks (name ++ rest) = '"' :: text ∧
      readString text = some (key, after ++ rest) := by
  obtain @⟨before, text, after, pieces, blank, literal, behind⟩ := written
  refine ⟨text ++ '"' :: (after ++ rest), after, behind, ?_, readString_written literal _⟩
  rw [List.append_assoc, List.cons_append, List.append_assoc, List.cons_append, skipBlanks_eq blank (by decide)]

-- Something stands before the end of an array that has items.
theorem ItemsWritten.exists_cons {items : List JsonForm} {text : List Char} (written : ItemsWritten items text)
    (rest : List Char) : ∃ first others, skipBlanks (text ++ rest) = first :: others ∧ first ≠ ']' := by
  have padded {item : JsonForm} {text : List Char} (padded : Padded item text) (rest : List Char) :
      ∃ first others, skipBlanks (text ++ rest) = first :: others ∧ first ≠ ']' := by
    obtain ⟨blank, written, _⟩ := padded
    obtain ⟨first, others, rfl, visible, notEnd⟩ := written.exists_cons
    rw [List.append_assoc, List.cons_append, List.cons_append, skipBlanks_eq blank visible]
    exact ⟨first, _, rfl, notEnd⟩
  cases written with
  | last item => exact padded item rest
  | more item _ =>
    rw [List.append_assoc]
    exact padded item _

theorem FieldsWritten.exists_cons {fields : List (Option String × JsonForm)} {text : List Char}
    (written : FieldsWritten fields text) (rest : List Char) : ∃ others, skipBlanks (text ++ rest) = '"' :: others := by
  cases written with
  | last key _ =>
    rw [List.append_assoc]
    obtain ⟨others, _, _, found, _⟩ := readKey_written key _
    exact ⟨others, found⟩
  | more key _ _ =>
    rw [List.append_assoc]
    obtain ⟨others, _, _, found, _⟩ := readKey_written key _
    exact ⟨others, found⟩

mutual

theorem readValue_written {form : JsonForm} {text : List Char} (written : Written form text) {rest : List Char}
    (ends : Ends rest) {fuel : Nat} (enough : 2 * text.length < fuel) :
    readValue fuel (text ++ rest) = some (form, rest) := by
  obtain _ | fuel := fuel
  · cases enough
  match written with
  | .null => rfl
  | .truth => rfl
  | .falsehood => rfl
  | .number numeral =>
    obtain ⟨first, others, rfl, begins⟩ := exists_cons_of_numeral numeral
    rw [List.cons_append, readValue_of_beginsNumber begins, ← List.cons_append, readNumeral_written numeral ends]
    rfl
  | .string literal =>
    rw [List.cons_append, List.append_assoc, readValue, skipBlanks_cons (by decide)]
    simp only [List.cons_append, List.nil_append, readString_written literal, Option.map_some]
  | .noItems blank =>
    rw [List.cons_append, List.append_assoc, readValue, skipBlanks_cons (by decide)]
    simp (disch := decide) only [List.cons_append, List.nil_append, skipBlanks_eq blank]
  | .items items =>
    rw [List.length_cons, List.length_append, List.length_singleton] at enough
    rw [List.cons_append, List.append_assoc, readValue, skipBlanks_cons (by decide)]
    simp only [List.cons_append, List.nil_append]
    -- The reader looks for the end of an empty array first, and an item begins otherwise.
    obtain ⟨first, others, found, notEnd⟩ := items.exists_cons (']' :: rest)
    split
    · rename_i ends
      rw [found] at ends
      exact absurd (List.cons.inj ends).1 notEnd
    · rw [readItems_written items rest fuel (by omega)]
      rfl
  | .noFields blank =>
    rw [List.cons_append, List.append_assoc, readValue, skipBlanks_cons (by decide)]
    simp (disch := decide) only [List.cons_append, List.nil_append, skipBlanks_eq blank]
  | .fields fields =>
    rw [List.length_cons, List.length_append, List.length_singleton] at enough
    rw [List.cons_append, List.append_assoc, readValue, skipBlanks_cons (by decide)]
    simp only [List.cons_append, List.nil_append]
    obtain ⟨others, found⟩ := fields.exists_cons ('}' :: rest)
    split
    · rename_i ends
      rw [found] at ends
      cases ends
    · rw [readFields_written fields rest fuel (by omega)]
      rfl

theorem readValue_padded {form : JsonForm} {text : List Char} (padded : Padded form text) (rest : List Char)
    (ends : Ends rest) (fuel : Nat) (enough : 2 * text.length < fuel) :
    ∃ after, Blank after ∧ readValue fuel (text ++ rest) = some (form, after ++ rest) := by
  match padded with
  | @Padded.blanks _ before inner after blank written behind =>
    rw [List.length_append, List.length_append] at enough
    refine ⟨after, behind, ?_⟩
    rw [List.append_assoc, List.append_assoc, readValue_append blank]
    exact readValue_written written (ends.append behind) (by omega)

theorem readItems_written {items : List JsonForm} {text : List Char} (written : ItemsWritten items text)
    (rest : List Char) (fuel : Nat) (enough : 2 * text.length + 1 < fuel) :
    readItems fuel (text ++ ']' :: rest) = some (items, rest) := by
  obtain _ | fuel := fuel
  · cases enough
  match written with
  | .last item =>
    -- The list takes a unit of fuel before its item takes any.
    obtain ⟨after, blank, read⟩ :=
      readValue_padded item (']' :: rest) (ends_cons (by decide) rest) fuel (by omega)
    simp (disch := decide) only [readItems, read, bind, Option.bind_some, skipBlanks_eq blank, pure]
  | @ItemsWritten.more _ _ text others item items =>
    rw [List.length_append, List.length_cons] at enough
    rw [List.append_assoc, List.cons_append]
    obtain ⟨after, blank, read⟩ :=
      readValue_padded item (',' :: (others ++ ']' :: rest)) (ends_cons (by decide) _) fuel (by omega)
    simp (disch := decide) only [readItems, read, bind, Option.bind_some, skipBlanks_eq blank,
      readItems_written items rest fuel (by omega), pure]

theorem readFields_written {fields : List (Option String × JsonForm)} {text : List Char}
    (written : FieldsWritten fields text) (rest : List Char) (fuel : Nat) (enough : 2 * text.length + 1 < fuel) :
    readFields fuel (text ++ '}' :: rest) = some (fields, rest) := by
  obtain _ | fuel := fuel
  · cases enough
  match written with
  | @FieldsWritten.last _ _ name text key value =>
    rw [List.length_append, List.length_cons] at enough
    rw [List.append_assoc, List.cons_append]
    obtain ⟨literal, spaces, spaced, found, named⟩ := readKey_written key (':' :: (text ++ '}' :: rest))
    obtain ⟨after, blank, read⟩ :=
      readValue_padded value ('}' :: rest) (ends_cons (by decide) rest) fuel (by omega)
    simp (disch := decide) only [readFields, found, named, bind, Option.bind_some, skipBlanks_eq spaced, read,
      skipBlanks_eq blank, pure]
  | @FieldsWritten.more _ _ _ name text others key value fields =>
    rw [List.length_append, List.length_cons, List.length_append, List.length_cons] at enough
    rw [List.append_assoc, List.cons_append, List.append_assoc, List.cons_append]
    obtain ⟨literal, spaces, spaced, found, named⟩ :=
      readKey_written key (':' :: (text ++ ',' :: (others ++ '}' :: rest)))
    obtain ⟨after, blank, read⟩ :=
      readValue_padded value (',' :: (others ++ '}' :: rest)) (ends_cons (by decide) _) fuel (by omega)
    simp (disch := decide) only [readFields, found, named, bind, Option.bind_some, skipBlanks_eq spaced, read,
      skipBlanks_eq blank, readFields_written fields rest fuel (by omega), pure]

end

mutual

theorem exists_written_of_readValue {fuel : Nat} {text rest : List Char} {form : JsonForm}
    (read : readValue fuel text = some (form, rest)) :
    ∃ before used, Blank before ∧ Written form used ∧ text = before ++ (used ++ rest) := by
  match fuel with
  | 0 => cases read
  | fuel + 1 =>
    obtain ⟨before, blank, split⟩ := exists_blanks text
    rw [split]
    -- The blanks in front belong to no value; each case gives what stands behind them.
    suffices found : ∃ used, Written form used ∧ skipBlanks text = used ++ rest by
      obtain ⟨used, written, same⟩ := found
      exact ⟨before, used, blank, written, by rw [same]⟩
    unfold readValue at read
    split at read
    · rename_i same
      cases read
      exact ⟨_, .null, same⟩
    · rename_i same
      cases read
      exact ⟨_, .truth, same⟩
    · rename_i same
      cases read
      exact ⟨_, .falsehood, same⟩
    · rename_i literal same
      simp only [Option.map_eq_some_iff, Prod.mk.injEq, Prod.exists] at read
      obtain ⟨value, rest, found, rfl, rfl⟩ := read
      obtain ⟨pieces, used, written, rfl, rfl⟩ := exists_written_of_readString found
      refine ⟨_, .string written, ?_⟩
      rw [same, List.cons_append, List.append_assoc, List.singleton_append]
    · rename_i inner same
      split at read
      · rename_i rest ends
        cases read
        obtain ⟨blanks, blank, split⟩ := exists_blanks inner
        refine ⟨_, .noItems blank, ?_⟩
        rw [same, List.cons_append, List.append_assoc, List.singleton_append, ← ends, ← split]
      · simp only [Option.map_eq_some_iff, Prod.mk.injEq, Prod.exists] at read
        obtain ⟨items, rest, found, rfl, rfl⟩ := read
        obtain ⟨used, written, rfl⟩ := exists_written_of_readItems found
        refine ⟨_, .items written, ?_⟩
        rw [same, List.cons_append, List.append_assoc, List.singleton_append]
    · rename_i inner same
      split at read
      · rename_i rest ends
        cases read
        obtain ⟨blanks, blank, split⟩ := exists_blanks inner
        refine ⟨_, .noFields blank, ?_⟩
        rw [same, List.cons_append, List.append_assoc, List.singleton_append, ← ends, ← split]
      · simp only [Option.map_eq_some_iff, Prod.mk.injEq, Prod.exists] at read
        obtain ⟨fields, rest, found, rfl, rfl⟩ := read
        obtain ⟨used, written, rfl⟩ := exists_written_of_readFields found
        refine ⟨_, .fields written, ?_⟩
        rw [same, List.cons_append, List.append_assoc, List.singleton_append]
    · simp only [Option.map_eq_some_iff, Prod.mk.injEq, Prod.exists] at read
      obtain ⟨numeral, rest, found, rfl, rfl⟩ := read
      obtain ⟨used, written, same⟩ := exists_written_of_readNumeral found
      exact ⟨used, .number written, same⟩

theorem exists_written_of_readItems {fuel : Nat} {text rest : List Char} {items : List JsonForm}
    (read : readItems fuel text = some (items, rest)) :
    ∃ used, ItemsWritten items used ∧ text = used ++ ']' :: rest := by
  match fuel with
  | 0 => cases read
  | fuel + 1 =>
    simp only [readItems, bind, Option.bind_eq_some_iff, Prod.exists] at read
    obtain ⟨item, behind, found, read⟩ := read
    obtain ⟨before, used, blank, written, rfl⟩ := exists_written_of_readValue found
    obtain ⟨after, spaced, split⟩ := exists_blanks behind
    have padded := Padded.blanks blank written spaced
    split at read
    · rename_i others same
      simp only [Option.bind_eq_some_iff, Prod.exists, pure, Option.some.injEq, Prod.mk.injEq] at read
      obtain ⟨items, rest, found, rfl, rfl⟩ := read
      obtain ⟨used, written, rfl⟩ := exists_written_of_readItems found
      refine ⟨_, .more padded written, ?_⟩
      rw [split, same]
      simp only [List.append_assoc, List.cons_append]
    · rename_i others same
      cases read
      refine ⟨_, .last padded, ?_⟩
      rw [split, same]
      simp only [List.append_assoc]
    · cases read

theorem exists_written_of_readFields {fuel : Nat} {text rest : List Char} {fields : List (Option String × JsonForm)}
    (read : readFields fuel text = some (fields, rest)) :
    ∃ used, FieldsWritten fields used ∧ text = used ++ '}' :: rest := by
  match fuel with
  | 0 => cases read
  | fuel + 1 =>
    simp only [readFields, bind] at read
    obtain ⟨before, blank, split⟩ := exists_blanks text
    split at read
    · rename_i literal quoted
      simp only [Option.bind_eq_some_iff, Prod.exists] at read
      obtain ⟨key, behind, named, read⟩ := read
      obtain ⟨pieces, name, written, rfl, rfl⟩ := exists_written_of_readString named
      obtain ⟨spaces, spaced, splitBehind⟩ := exists_blanks behind
      have keyed := KeyWritten.quoted blank written spaced
      split at read
      · rename_i valued colon
        simp only [Option.bind_eq_some_iff, Prod.exists] at read
        obtain ⟨value, behind, found, read⟩ := read
        obtain ⟨front, used, blank, written, rfl⟩ := exists_written_of_readValue found
        obtain ⟨after, spaced, splitAfter⟩ := exists_blanks behind
        have padded := Padded.blanks blank written spaced
        split at read
        · rename_i others same
          simp only [Option.bind_eq_some_iff, Prod.exists, pure, Option.some.injEq, Prod.mk.injEq] at read
          obtain ⟨fields, rest, found, rfl, rfl⟩ := read
          obtain ⟨used, written, rfl⟩ := exists_written_of_readFields found
          refine ⟨_, .more keyed padded written, ?_⟩
          rw [split, quoted, splitBehind, colon, splitAfter, same]
          simp only [List.append_assoc, List.cons_append]
        · rename_i others same
          cases read
          refine ⟨_, .last keyed padded, ?_⟩
          rw [split, quoted, splitBehind, colon, splitAfter, same]
          simp only [List.append_assoc, List.cons_append]
        · cases read
      · cases read
    · cases read

end

theorem ofText?_eq_some_iff {text : List Char} {form : JsonForm} : ofText? text = some form ↔ Padded form text := by
  constructor
  · intro read
    unfold ofText? at read
    split at read
    · rename_i found
      split at read
      · rename_i blank
        cases read
        obtain ⟨before, used, spaced, written, rfl⟩ := exists_written_of_readValue found
        exact .blanks spaced written (skipBlanks_eq_nil_iff.mp blank)
      · cases read
    · cases read
  · intro padded
    obtain ⟨after, blank, read⟩ := readValue_padded padded [] nofun (2 * text.length + 2) (by omega)
    rw [List.append_nil, List.append_nil] at read
    rw [ofText?, read]
    exact if_pos (skipBlanks_eq_nil_iff.mpr blank)

end BslLint.JsonForm
