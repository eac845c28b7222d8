import BslLint.Text.Natural
import Mathlib.Data.Nat.Digits.Defs
import Mathlib.Tactic.Ring

/-! Decimal digits, and the numbers that rows of them stand for. -/

set_option autoImplicit false

namespace BslLint.Text

theorem digit_cases {digit : Nat} (bounded : digit < 10) :
    isAsciiDigit digit.digitChar = true ∧ digitValue? digit.digitChar = some digit := by
  have all : ∀ digit < 10, isAsciiDigit digit.digitChar = true ∧
      digitValue? digit.digitChar = some digit := by decide
  exact all digit bounded

theorem exists_digit {char : Char} (found : isAsciiDigit char = true) : ∃ digit < 10, char = digit.digitChar := by
  simp only [isAsciiDigit, Bool.and_eq_true, decide_eq_true_eq, Char.le_def, UInt32.le_iff_toNat_le] at found
  have bounds : 48 ≤ char.toNat ∧ char.toNat ≤ 57 := found
  refine ⟨char.toNat - 48, by omega, Char.toNat_inj.mp ?_⟩
  rw [Nat.toNat_digitChar_of_lt_ten (by omega)]
  omega

def AsciiDigits (text : List Char) : Prop :=
  text ≠ [] ∧ ∀ char ∈ text, isAsciiDigit char = true

instance (text : List Char) : Decidable (AsciiDigits text) :=
  decidable_of_iff (text ≠ [] ∧ text.all isAsciiDigit = true) (by rw [AsciiDigits, List.all_eq_true])

def natural (digits : List Char) : Nat :=
  Nat.ofDigits 10 (digits.reverse.map fun char => char.toNat - '0'.toNat)

theorem natural_cons (char : Char) (digits : List Char) :
    natural (char :: digits) = (char.toNat - '0'.toNat) * 10 ^ digits.length + natural digits := by
  simp only [natural, List.reverse_cons, List.map_append, List.map_cons, List.map_nil, Nat.ofDigits_append,
    Nat.ofDigits_singleton, List.length_map, List.length_reverse]
  ring

theorem natural_append (digits more : List Char) :
    natural (digits ++ more) = natural digits * 10 ^ more.length + natural more := by
  simp only [natural, List.reverse_append, List.map_append, Nat.ofDigits_append, List.length_map, List.length_reverse]
  ring

theorem digitsValueFrom_eq {digits : List Char} (all : ∀ char ∈ digits, isAsciiDigit char = true) (value : Nat) :
    digitsValueFrom value digits = some (value * 10 ^ digits.length + natural digits) := by
  induction digits generalizing value with
  | nil => simp [digitsValueFrom, natural]
  | cons char rest ih =>
    have digit : '0' ≤ char ∧ char ≤ '9' := by simpa [isAsciiDigit] using all char List.mem_cons_self
    rw [digitsValueFrom, digitValue?, if_pos digit]
    dsimp only
    rw [ih (fun other mem => all other (List.mem_cons_of_mem _ mem)), natural_cons, List.length_cons]
    congr 1
    ring

theorem AsciiDigits.digitsValue?_eq {digits : List Char} (isDigits : AsciiDigits digits) :
    digitsValue? digits = some (natural digits) := by
  have value := digitsValueFrom_eq isDigits.2 0
  rw [Nat.zero_mul, Nat.zero_add] at value
  cases digits with
  | nil => exact absurd rfl isDigits.1
  | cons char rest => exact value

theorem isAsciiDigit_of_digitsValueFrom {digits : List Char} {value total : Nat}
    (read : digitsValueFrom value digits = some total) : ∀ char ∈ digits, isAsciiDigit char = true := by
  induction digits generalizing value with
  | nil => exact List.forall_mem_nil _
  | cons char rest ih =>
    unfold digitsValueFrom at read
    split at read
    · rename_i digit known
      unfold digitValue? at known
      split at known
      · rename_i bounds
        exact List.forall_mem_cons.mpr ⟨by simpa [isAsciiDigit] using bounds, ih read⟩
      · cases known
    · cases read

theorem digitsValue?_eq_some_iff {digits : List Char} {value : Nat} :
    digitsValue? digits = some value ↔ AsciiDigits digits ∧ natural digits = value := by
  constructor
  · intro read
    have isDigits : AsciiDigits digits := by
      cases digits with
      | nil => cases read
      | cons char rest => exact ⟨List.cons_ne_nil char rest, isAsciiDigit_of_digitsValueFrom read⟩
    exact ⟨isDigits, Option.some.inj (isDigits.digitsValue?_eq.symm.trans read)⟩
  · rintro ⟨isDigits, rfl⟩
    exact isDigits.digitsValue?_eq

theorem AsciiDigits.append {digits more : List Char} (first : AsciiDigits digits) (second : AsciiDigits more) :
    AsciiDigits (digits ++ more) := by
  refine ⟨by simp [first.1], fun char mem => ?_⟩
  rcases List.mem_append.mp mem with mem | mem
  · exact first.2 char mem
  · exact second.2 char mem

/-- Digits, perhaps after a plus sign, and the number that they stand for. -/
inductive WritesNatural : List Char → Nat → Prop where
  | unsigned {digits : List Char} : AsciiDigits digits → WritesNatural digits (natural digits)
  | signed {digits : List Char} : AsciiDigits digits → WritesNatural ('+' :: digits) (natural digits)

theorem WritesNatural.of_mem {text : List Char} {value : Nat} (writes : WritesNatural text value) {char : Char}
    (mem : char ∈ text) : char = '+' ∨ isAsciiDigit char = true := by
  cases writes with
  | unsigned digits => exact .inr (digits.2 char mem)
  | signed digits => exact (List.mem_cons.mp mem).imp_right (digits.2 char)

theorem WritesNatural.not_mem {text : List Char} {value : Nat} (writes : WritesNatural text value) {char : Char}
    (apart : char ≠ '+') (noDigit : isAsciiDigit char = false) : char ∉ text := by
  intro mem
  rcases writes.of_mem mem with plus | digit
  · exact apart plus
  · rw [noDigit] at digit
    cases digit

theorem WritesNatural.head? {text : List Char} {value : Nat} (writes : WritesNatural text value) :
    ∃ first rest, text = first :: rest ∧ (first = '+' ∨ isAsciiDigit first = true) := by
  cases writes with
  | signed _ => exact ⟨'+', _, rfl, .inl rfl⟩
  | unsigned digits =>
    obtain ⟨first, rest, rfl⟩ := List.exists_cons_of_ne_nil digits.1
    exact ⟨first, rest, rfl, .inr (digits.2 first List.mem_cons_self)⟩

theorem boundedNatural?_signed (bound : Nat) (digits : List Char) :
    boundedNatural? bound ('+' :: digits) = (digitsValue? digits).filter (· < bound) := by
  simp only [boundedNatural?]
  cases digitsValue? digits <;> simp [Option.filter]

theorem boundedNatural?_unsigned (bound : Nat) {text : List Char} (unsigned : text.head? ≠ some '+') :
    boundedNatural? bound text = (digitsValue? text).filter (· < bound) := by
  unfold boundedNatural?
  extract_lets digits
  have whole : digits = text := by
    unfold digits
    split
    · exact absurd rfl unsigned
    · rfl
  rw [whole]
  cases digitsValue? text <;> simp [Option.filter]

theorem boundedNatural?_eq_some_iff {bound value : Nat} {text : List Char} :
    boundedNatural? bound text = some value ↔ WritesNatural text value ∧ value < bound := by
  have read (digits : List Char) : (digitsValue? digits).filter (· < bound) = some value ↔
      (AsciiDigits digits ∧ natural digits = value) ∧ value < bound := by
    rw [Option.filter_eq_some_iff, digitsValue?_eq_some_iff, decide_eq_true_eq]
  by_cases plus : text.head? = some '+'
  · obtain ⟨digits, rfl⟩ := List.head?_eq_some_iff.mp plus
    rw [boundedNatural?_signed, read]
    refine and_congr_left fun _ => ⟨?_, ?_⟩
    · rintro ⟨isDigits, rfl⟩
      exact .signed isDigits
    · rintro (isDigits | isDigits)
      · exact absurd (isDigits.2 '+' List.mem_cons_self) (by decide)
      · exact ⟨isDigits, rfl⟩
  · rw [boundedNatural?_unsigned bound plus, read]
    refine and_congr_left fun _ => ⟨?_, ?_⟩
    · rintro ⟨isDigits, rfl⟩
      exact .unsigned isDigits
    · rintro (isDigits | isDigits)
      · exact ⟨isDigits, rfl⟩
      · exact absurd rfl plus

theorem AsciiDigits.digitChar {digit : Nat} (bounded : digit < 10) : AsciiDigits [digit.digitChar] :=
  ⟨List.cons_ne_nil _ _, List.forall_mem_singleton.mpr (digit_cases bounded).1⟩

theorem natural_digitChar {digit : Nat} (bounded : digit < 10) : natural [digit.digitChar] = digit := by
  have value := Nat.toNat_digitChar_of_lt_ten bounded
  simp [natural, value]

theorem writesNatural_toDigits (value : Nat) : WritesNatural (Nat.toDigits 10 value) value := by
  suffices AsciiDigits (Nat.toDigits 10 value) ∧ natural (Nat.toDigits 10 value) = value by
    obtain ⟨digits, same⟩ := this
    have writes := WritesNatural.unsigned digits
    rwa [same] at writes
  induction value using Nat.strongRecOn with
  | ind value ih =>
    by_cases single : value < 10
    · rw [Nat.toDigits_of_lt_base single]
      exact ⟨.digitChar single, natural_digitChar single⟩
    · have last : value % 10 < 10 := Nat.mod_lt value (by decide)
      obtain ⟨front, before⟩ := ih (value / 10) (by omega)
      rw [Nat.toDigits_of_base_le (by decide) (Nat.not_lt.mp single)]
      refine ⟨front.append (.digitChar last), ?_⟩
      rw [natural_append, natural_digitChar last, before, List.length_singleton]
      omega

end BslLint.Text
