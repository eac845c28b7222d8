import BslLint.Compatibility
import BslLint.Proofs.Rule.Platform
import BslLint.Proofs.Text.Casing
import BslLint.Proofs.Text.Digits
import BslLint.Proofs.Text.Space
import BslLint.Proofs.Text.Split

/-! How compatibility modes are spelled. A mode is read from its spellings with white space around them, and from no
other text. -/

set_option autoImplicit false

namespace BslLint.CompatibilityMode

open Text

/-- Two or three numbers with a separator between them, and the mode with these numbers. A third number that is not
given is zero. -/
inductive Numbers (separator : Char) : List Char → CompatibilityMode → Prop where
  | two {first second : List Char} {major minor : UInt32} : WritesNatural first major.toNat →
      WritesNatural second minor.toNat → Numbers separator (first ++ separator :: second) ⟨major, minor, 0⟩
  | three {first second third : List Char} {major minor version : UInt32} : WritesNatural first major.toNat →
      WritesNatural second minor.toNat → WritesNatural third version.toNat →
      Numbers separator (first ++ separator :: (second ++ separator :: third)) ⟨major, minor, version⟩

@[mk_iff] inductive Spells : List Char → CompatibilityMode → Prop where
  | unrestricted {text : List Char} : InAnyCase text "dontuse".toList → Spells text .unrestricted
  | dotted {text : List Char} {mode : CompatibilityMode} : Numbers '.' text mode → Spells text mode
  | designer {text : List Char} {mode : CompatibilityMode} : Numbers '_' text mode →
      Spells ("Version".toList ++ text) mode

def Writes (written : List Char) (mode : CompatibilityMode) : Prop :=
  ∃ gap text trailing, isBlank gap = true ∧ isBlank trailing = true ∧ written = gap ++ (text ++ trailing) ∧
    Spells text mode

variable {text : List Char} {mode : CompatibilityMode}

def WritesWord (piece : List Char) (value : Nat) : Prop :=
  ∃ number : UInt32, WritesNatural piece number.toNat ∧ value = number.toNat

theorem boundedNatural?_eq_some_iff_writesWord {piece : List Char} {value : Nat} :
    boundedNatural? numberBound piece = some value ↔ WritesWord piece value := by
  rw [boundedNatural?_eq_some_iff]
  constructor
  · rintro ⟨writes, bounded⟩
    have same : (UInt32.ofNat value).toNat = value := UInt32.toNat_ofNat_of_lt' bounded
    exact ⟨UInt32.ofNat value, same.symm ▸ writes, same.symm⟩
  · rintro ⟨number, writes, rfl⟩
    exact ⟨writes, number.toNat_lt⟩

/-- Pieces that are two or three numbers are the numbers of the whole text. -/
theorem numbers_of_writesWord {separator : Char} {values : List Nat}
    (written : List.Forall₂ WritesWord (splitOn separator text) values) (counted : ofNumbers? values = some mode) :
    Numbers separator text mode := by
  unfold ofNumbers? at counted
  split at counted
  · obtain ⟨first, _, ⟨major, writesMajor, rfl⟩, others, pieces⟩ := List.forall₂_cons_right_iff.mp written
    obtain ⟨second, _, ⟨minor, writesMinor, rfl⟩, ends, rfl⟩ := List.forall₂_cons_right_iff.mp others
    cases ends
    cases counted
    have whole := (splitOn_eq_iff.mp pieces).2.1
    have numbers : Numbers separator _ _ := .two writesMajor writesMinor
    rw [whole, UInt32.ofNat_toNat, UInt32.ofNat_toNat]
    simpa using numbers
  · obtain ⟨first, _, ⟨major, writesMajor, rfl⟩, others, pieces⟩ := List.forall₂_cons_right_iff.mp written
    obtain ⟨second, _, ⟨minor, writesMinor, rfl⟩, last, rfl⟩ := List.forall₂_cons_right_iff.mp others
    obtain ⟨third, _, ⟨version, writesVersion, rfl⟩, ends, rfl⟩ := List.forall₂_cons_right_iff.mp last
    cases ends
    cases counted
    have whole := (splitOn_eq_iff.mp pieces).2.1
    have numbers : Numbers separator _ _ := .three writesMajor writesMinor writesVersion
    rw [whole, UInt32.ofNat_toNat, UInt32.ofNat_toNat, UInt32.ofNat_toNat]
    simpa using numbers
  · cases counted

section

variable {separator : Char} (apart : separator ≠ '+') (noDigit : isAsciiDigit separator = false)
include apart noDigit

/-- No number has the separator in it, so that the pieces are the numbers. -/
theorem Numbers.writesWord (numbers : Numbers separator text mode) :
    ∃ values, List.Forall₂ WritesWord (splitOn separator text) values ∧ ofNumbers? values = some mode := by
  cases numbers with
  | @two first second major minor writesMajor writesMinor =>
    have pieces : splitOn separator (first ++ separator :: second) = [first, second] := by
      refine splitOn_eq_iff.mpr ⟨by simp, by simp, ?_⟩
      simp [writesMajor.not_mem apart noDigit, writesMinor.not_mem apart noDigit]
    refine ⟨[major.toNat, minor.toNat], ?_, ?_⟩
    · rw [pieces]
      exact .cons ⟨major, writesMajor, rfl⟩ (.cons ⟨minor, writesMinor, rfl⟩ .nil)
    · rw [ofNumbers?, UInt32.ofNat_toNat, UInt32.ofNat_toNat]
  | @three first second third major minor version writesMajor writesMinor writesVersion =>
    have pieces : splitOn separator (first ++ separator :: (second ++ separator :: third)) =
        [first, second, third] := by
      refine splitOn_eq_iff.mpr ⟨by simp, by simp, ?_⟩
      simp [writesMajor.not_mem apart noDigit, writesMinor.not_mem apart noDigit, writesVersion.not_mem apart noDigit]
    refine ⟨[major.toNat, minor.toNat, version.toNat], ?_, ?_⟩
    · rw [pieces]
      refine .cons ⟨major, writesMajor, rfl⟩ (.cons ⟨minor, writesMinor, rfl⟩ ?_)
      exact .cons ⟨version, writesVersion, rfl⟩ .nil
    · rw [ofNumbers?, UInt32.ofNat_toNat, UInt32.ofNat_toNat, UInt32.ofNat_toNat]

theorem numbers_iff : ((splitOn separator text).mapM (boundedNatural? numberBound)).bind ofNumbers? = some mode ↔
    Numbers separator text mode := by
  rw [Option.bind_eq_some_iff]
  simp only [mapM_eq_some_iff, boundedNatural?_eq_some_iff_writesWord]
  constructor
  · rintro ⟨values, written, counted⟩
    exact numbers_of_writesWord written counted
  · exact Numbers.writesWord apart noDigit

end

theorem Numbers.head? {separator : Char} (numbers : Numbers separator text mode) :
    ∃ first rest, text = first :: rest ∧ (first = '+' ∨ isAsciiDigit first = true) := by
  cases numbers with
  | two writes _ | three writes _ _ =>
    obtain ⟨first, rest, rfl, starts⟩ := writes.head?
    exact ⟨first, _, rfl, starts⟩

theorem Numbers.of_mem {separator : Char} (numbers : Numbers separator text mode) {char : Char} (mem : char ∈ text) :
    char = separator ∨ char = '+' ∨ isAsciiDigit char = true := by
  cases numbers with
  | two first second =>
    rcases List.mem_append.mp mem with mem | mem
    · exact .inr (first.of_mem mem)
    · exact (List.mem_cons.mp mem).imp_right second.of_mem
  | three first second third =>
    rcases List.mem_append.mp mem with mem | mem
    · exact .inr (first.of_mem mem)
    · rcases List.mem_cons.mp mem with same | mem
      · exact .inl same
      · rcases List.mem_append.mp mem with mem | mem
        · exact .inr (second.of_mem mem)
        · exact (List.mem_cons.mp mem).imp_right third.of_mem

-- Spellings. The way in which a mode is spelled shows in the first character.
theorem not_numbers_of_head? {separator first : Char} {rest : List Char} (plus : first ≠ '+')
    (noDigit : isAsciiDigit first = false) : ¬Numbers separator (first :: rest) mode := by
  intro numbers
  obtain ⟨_, _, same, starts⟩ := numbers.head?
  cases same
  rcases starts with sign | digit
  · exact plus sign
  · rw [noDigit] at digit
    cases digit

theorem eq_unrestricted_of_inAnyCase (any : InAnyCase text "dontuse".toList) (spells : Spells text mode) :
    mode = unrestricted := by
  have letters : "dontuse".toList = 'd' :: "ontuse".toList := by decide
  obtain ⟨first, rest, rfl, starts⟩ := (letters ▸ any).head?
  have apart : first ≠ '+' ∧ first ≠ 'V' ∧ isAsciiDigit first = false := by
    rcases starts with rfl | rfl <;> decide
  rcases (spells_iff _ _).mp spells with ⟨_, same⟩ | numbers | ⟨numbers, _, same⟩
  · exact same
  · exact absurd numbers (not_numbers_of_head? apart.1 apart.2.2)
  · have marked : "Version".toList = 'V' :: "ersion".toList := by decide
    rw [marked] at same
    exact absurd (List.cons.inj same).1 apart.2.1

theorem ofChars?_eq_some_iff {written : List Char} : ofChars? written = some mode ↔ Spells (trim written) mode := by
  unfold ofChars?
  extract_lets text
  show _ ↔ Spells text mode
  clear_value text
  by_cases any : eqIgnoringAsciiCase text "dontuse".toList = true
  · rw [if_pos any, Option.some.injEq]
    rw [eqIgnoringAsciiCase_iff] at any
    constructor
    · rintro rfl
      exact .unrestricted any
    · intro spells
      exact (eq_unrestricted_of_inAnyCase any spells).symm
  · rw [if_neg any, body]
    rw [eqIgnoringAsciiCase_iff] at any
    cases stripped : stripPrefix? "Version".toList text with
    | none =>
      refine (numbers_iff (by decide) (by decide)).trans ⟨.dotted, fun spells => ?_⟩
      rcases (spells_iff _ _).mp spells with ⟨spelled, _⟩ | numbers | ⟨rest, _, rfl⟩
      · exact absurd spelled any
      · exact numbers
      · rw [(stripPrefix?_eq_some_iff _ _ _).mpr rfl] at stripped
        cases stripped
    | some rest =>
      obtain rfl := (stripPrefix?_eq_some_iff _ _ _).mp stripped
      refine (numbers_iff (by decide) (by decide)).trans ⟨.designer, fun spells => ?_⟩
      rcases (spells_iff _ _).mp spells with ⟨spelled, _⟩ | numbers | ⟨other, numbers, same⟩
      · exact absurd spelled any
      · exact absurd numbers (not_numbers_of_head? (by decide) (by decide))
      · rwa [List.append_cancel_left same]

theorem Numbers.dense {separator : Char} (numbers : Numbers separator text mode) (apart : isSpace separator = false) :
    text.all (!isSpace ·) = true := by
  have digits : ∀ digit < 10, isSpace (Nat.digitChar digit) = false := by decide
  rw [List.all_eq_true]
  intro char mem
  rw [Bool.not_eq_true']
  rcases numbers.of_mem mem with rfl | rfl | digit
  · exact apart
  · decide
  · obtain ⟨value, bounded, rfl⟩ := exists_digit digit
    exact digits value bounded

theorem Spells.dense (spells : Spells text mode) : ∀ char ∈ text, isSpace char = false := by
  suffices text.all (!isSpace ·) = true by simpa using this
  cases spells with
  | unrestricted any => exact any.all (by decide)
  | dotted dotted => exact dotted.dense (by decide)
  | designer designer =>
    rw [List.all_append, designer.dense (by decide), Bool.and_true]
    decide

theorem spells_trim_iff {written : List Char} : Spells (trim written) mode ↔ Writes written mode := by
  constructor
  · intro spells
    obtain ⟨⟨gap, trailing, blank, blankToo, whole⟩, _⟩ := trim_eq_iff.mp (rfl : trim written = trim written)
    exact ⟨gap, trim written, trailing, blank, blankToo, whole, spells⟩
  · rintro ⟨gap, text, trailing, blank, blankToo, whole, spells⟩
    have trimmed : trim written = text := by
      refine trim_eq_iff.mpr ⟨⟨gap, trailing, blank, blankToo, whole⟩, fun char starts => ?_, fun char ends => ?_⟩
      · exact spells.dense char (List.mem_of_mem_head? starts)
      · exact spells.dense char (List.mem_of_getLast? ends)
    rwa [trimmed]

theorem parse_eq_ok_iff_writes {written : String} : parse written = .ok mode ↔ Writes written.toList mode := by
  rw [← spells_trim_iff, ← ofChars?_eq_some_iff, parse]
  cases ofChars? written.toList <;> simp

/-- A mode is read from a text if the text spells it between white space: the unrestricted mode, which is newer than all
others, by its name, and any mode by its numbers. All other texts are refused with an error that quotes them. -/
theorem parse_reads_spellings (written : String) :
    (∀ mode, parse written = .ok mode ↔ Writes written.toList mode) ∧
    ((∀ mode, ¬Writes written.toList mode) → ∃ error, parse written = .error error ∧ error.message =
      "invalid compatibility mode `" ++ written ++ "`, expected `8.3.10`, `Version8_3_10` or `DontUse`") ∧
    ∀ mode : CompatibilityMode, mode ≠ .unrestricted → mode ≤ .unrestricted ∧ ¬.unrestricted ≤ mode := by
  refine ⟨fun mode => parse_eq_ok_iff_writes, fun unwritten => ?_, fun mode restricted => ?_⟩
  · cases read : parse written with
    | ok mode => exact absurd (parse_eq_ok_iff_writes.mp read) (unwritten mode)
    | error error =>
      refine ⟨error, rfl, ?_⟩
      unfold parse at read
      split at read
      · cases read
      · cases read
        rfl
  · have below := le_unrestricted mode
    exact ⟨below, fun above => restricted (le_antisymm below above)⟩

end BslLint.CompatibilityMode
