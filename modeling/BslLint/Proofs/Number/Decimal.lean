import BslLint.Number.Double
import BslLint.Proofs.Number.Rounding
import BslLint.Proofs.Text.Digits
import BslLint.Proofs.Text.Space

/-! What decimal texts denote. However a number is spelled in plain notation, it is read as its value, rounded once. -/

set_option autoImplicit false

namespace BslLint

namespace Number

open Text

-- Less than half of the least positive value is rounded to zero.
theorem Format.round_eq_zero (format : Format) {magnitude : Rat} (positive : 0 < magnitude)
    (tiny : magnitude * 2 < 2 ^ format.leastExponent) : format.round magnitude = some 0 := by
  have numerator : 0 < magnitude.num.toNat := by
    have := Rat.num_pos.mpr positive
    omega
  have unit : format.unit magnitude = format.leastExponent := by
    have leading := zpow_floorLog_le numerator magnitude.den_pos
    rw [← eq_num_div_den positive] at leading
    have below : (2 : ℚ) ^ floorLog magnitude.num.toNat magnitude.den < 2 ^ format.leastExponent := by linarith
    rw [zpow_lt_zpow_iff_right₀ (by norm_num)] at below
    unfold Format.unit
    omega
  -- A multiple of the least value that is nearest to less than half of it is the zeroth.
  obtain ⟨digits, value⟩ : ∃ digits : Nat, format.nearest magnitude = digits * 2 ^ format.leastExponent :=
    ⟨_, by rw [Format.nearest, scale_eq, unit]⟩
  have near := (abs_le.mp (format.abs_nearest_sub_le positive)).2
  rw [unit, value] at near
  have step : (0 : ℚ) < 2 ^ format.leastExponent := by positivity
  have none : digits = 0 := by
    have small : (digits : ℚ) * 2 ^ format.leastExponent < 1 * 2 ^ format.leastExponent := by linarith
    have small : (digits : ℚ) < 1 := lt_of_mul_lt_mul_right small step.le
    exact Nat.lt_one_iff.mp (by exact_mod_cast small)
  have bound : (0 : ℚ) < scale 1 format.bound := by
    rw [scale_eq]
    positivity
  rw [Format.round_of_pos _ positive, value, none, Nat.cast_zero, zero_mul, if_pos bound]

def Double.rounded (negative : Bool) (magnitude : ℚ) : Double :=
  match binary64.round magnitude with
  | some value => .finite ⟨negative, value⟩
  | none => .infinite negative

/-- Where the power of ten is decided without being computed, the quotient is too small for a double. -/
theorem quotient_tiny {significand places : Nat} (tiny : -(places : Int) + (significand.log2 : Int) < -1200) :
    (significand / 10 ^ places : ℚ) * 2 < 2 ^ binary64.leastExponent := by
  have numerator : (significand : ℚ) < 2 ^ ((significand.log2 : Int) + 1) := by
    exact_mod_cast @Nat.lt_log2_self significand
  have denominator : (2 : ℚ) ^ (places : Int) ≤ 10 ^ places := by
    rw [zpow_natCast]
    exact pow_le_pow_left₀ (by norm_num) (by norm_num) places
  have power : (0 : ℚ) < 2 ^ (places : Int) := by positivity
  calc (significand / 10 ^ places : ℚ) * 2
      < 2 ^ ((significand.log2 : Int) + 1) / 2 ^ (places : Int) * 2 := by
        refine mul_lt_mul_of_pos_right ?_ (by norm_num)
        exact (div_le_div_of_nonneg_left (Nat.cast_nonneg _) power denominator).trans_lt
          (div_lt_div_of_pos_right numerator power)
    _ = 2 ^ ((significand.log2 : Int) + 1 - places + 1) := by
        rw [← zpow_sub₀ (by norm_num), zpow_add_one₀ (by norm_num) (_ - _)]
    _ ≤ 2 ^ binary64.leastExponent := by
        refine zpow_le_zpow_right₀ (by norm_num) ?_
        show _ ≤ (-1074 : Int)
        omega

theorem Double.ofDecimal_eq_rounded (negative : Bool) (significand places : Nat) :
    ofDecimal negative significand (-(places : Int)) = rounded negative (significand / 10 ^ places) := by
  unfold ofDecimal
  split_ifs with zero great tiny whole
  · rw [rounded, zero, Nat.cast_zero, zero_div, Format.round_zero]
  · omega
  · have positive : (0 : ℚ) < significand / 10 ^ places :=
      div_pos (Nat.cast_pos.mpr (Nat.pos_of_ne_zero zero)) (by positivity)
    rw [rounded, Format.round_eq_zero _ positive (quotient_tiny tiny)]
  · obtain rfl : places = 0 := by omega
    have value : ((significand * Nat.pow 10 (-((0 : Nat) : Int)).toNat : Nat) : ℚ) = significand / 10 ^ 0 := by simp
    exact congrArg (rounded negative) value
  · have value : mkRat significand (Nat.pow 10 (-(-(places : Int))).toNat) = (significand / 10 ^ places : ℚ) := by
      simp [Rat.mkRat_eq_div]
    exact congrArg (rounded negative) value

-- Digits, and perhaps a point and more digits, with what they denote.
inductive Unsigned : List Char → ℚ → Prop where
  | whole {digits : List Char} : AsciiDigits digits → Unsigned digits (natural digits)
  | fraction {digits decimals : List Char} : AsciiDigits digits → AsciiDigits decimals →
      Unsigned (digits ++ '.' :: decimals) (natural digits + natural decimals / 10 ^ decimals.length)

/-- A number in plain notation, perhaps with a minus in front of it, by its sign and its magnitude. -/
inductive Plain : List Char → Bool → ℚ → Prop where
  | unsigned {text : List Char} {magnitude : ℚ} : Unsigned text magnitude → Plain text false magnitude
  | minus {text : List Char} {magnitude : ℚ} : Unsigned text magnitude → Plain ('-' :: text) true magnitude

variable {text : List Char} {negative : Bool} {magnitude : ℚ}

theorem Unsigned.head? (unsigned : Unsigned text magnitude) :
    ∃ first, text.head? = some first ∧ isAsciiDigit first = true := by
  have first {digits : List Char} (isDigits : AsciiDigits digits) (rest : List Char) :
      ∃ first, (digits ++ rest).head? = some first ∧ isAsciiDigit first = true := by
    obtain ⟨first, others, rfl⟩ := List.exists_cons_of_ne_nil isDigits.1
    exact ⟨first, rfl, isDigits.2 first List.mem_cons_self⟩
  cases unsigned with
  | whole digits => simpa using first digits []
  | fraction digits _ => exact first digits _

theorem Unsigned.unsignedDecimal?_eq (unsigned : Unsigned text magnitude) (negative : Bool) :
    unsignedDecimal? negative text = some (Double.rounded negative magnitude) := by
  cases unsigned with
  | whole digits =>
    have taken : text.takeWhile isAsciiDigit = text := List.takeWhile_eq_self_iff.mpr digits.2
    have left : text.dropWhile isAsciiDigit = [] := List.dropWhile_eq_nil_iff.mpr digits.2
    have value := Double.ofDecimal_eq_rounded negative (natural text) 0
    rw [pow_zero, div_one] at value
    simp only [unsignedDecimal?, taken, left, List.append_nil, digits.digitsValue?_eq, exponentPart?,
      List.length_nil, Int.zero_sub, value]
  | @fraction digits decimals isDigits areDecimals =>
    have stops : ∀ char ∈ ('.' :: decimals).head?, isAsciiDigit char = false := by
      rintro _ ⟨⟩
      decide
    have taken : (digits ++ '.' :: decimals).takeWhile isAsciiDigit = digits := by
      rw [List.takeWhile_append_of_pos isDigits.2, takeWhile_of_head? stops, List.append_nil]
    have left : (digits ++ '.' :: decimals).dropWhile isAsciiDigit = '.' :: decimals := by
      rw [List.dropWhile_append_of_pos isDigits.2, dropWhile_of_head? stops]
    have takenToo : decimals.takeWhile isAsciiDigit = decimals := List.takeWhile_eq_self_iff.mpr areDecimals.2
    have leftToo : decimals.dropWhile isAsciiDigit = [] := List.dropWhile_eq_nil_iff.mpr areDecimals.2
    have value := Double.ofDecimal_eq_rounded negative (natural (digits ++ decimals)) decimals.length
    have same : (natural (digits ++ decimals) / 10 ^ decimals.length : ℚ) =
        natural digits + natural decimals / 10 ^ decimals.length := by
      rw [natural_append]
      push_cast
      field_simp
    rw [same] at value
    simp only [unsignedDecimal?, taken, left, takenToo, leftToo, (isDigits.append areDecimals).digitsValue?_eq,
      exponentPart?, Int.zero_sub, value]

-- No word that a letter starts is read where a digit starts.
theorem eqIgnoringAsciiCase_of_digit {first letter : Char} (digit : isAsciiDigit first = true)
    (apart : ∀ digit < 10, digit.digitChar.toLower ≠ letter.toLower) (rest word : List Char) :
    eqIgnoringAsciiCase (first :: rest) (letter :: word) = false := by
  obtain ⟨value, bounded, rfl⟩ := exists_digit digit
  simp [eqIgnoringAsciiCase, apart value bounded]

theorem Unsigned.takeSign_eq (unsigned : Unsigned text magnitude) : takeSign text = (false, text) := by
  obtain ⟨first, starts, digit⟩ := unsigned.head?
  obtain ⟨rest, rfl⟩ := List.head?_eq_some_iff.mp starts
  unfold takeSign
  split
  · rename_i same
    cases same
    exact absurd digit (by decide)
  · rename_i same
    cases same
    exact absurd digit (by decide)
  · rfl

theorem Plain.ofText?_eq (plain : Plain text negative magnitude) :
    Double.ofText? text = some (Double.rounded negative magnitude) := by
  have read {body : List Char} (unsigned : Unsigned body magnitude) (sign : takeSign text = (negative, body)) :
      Double.ofText? text = some (Double.rounded negative magnitude) := by
    have value := unsigned.unsignedDecimal?_eq negative
    obtain ⟨first, starts, digit⟩ := unsigned.head?
    obtain ⟨rest, rfl⟩ := List.head?_eq_some_iff.mp starts
    have infinite (word : List Char) : eqIgnoringAsciiCase (first :: rest) ('i' :: word) = false :=
      eqIgnoringAsciiCase_of_digit digit (by decide) rest word
    have undefined (word : List Char) : eqIgnoringAsciiCase (first :: rest) ('n' :: word) = false :=
      eqIgnoringAsciiCase_of_digit digit (by decide) rest word
    have words : "inf".toList = ['i', 'n', 'f'] ∧ "infinity".toList = 'i' :: "nfinity".toList ∧
      "nan".toList = ['n', 'a', 'n'] := by decide
    simp only [Double.ofText?, sign, words, infinite, undefined, value]
    rfl
  cases plain with
  | unsigned unsigned => exact read unsigned unsigned.takeSign_eq
  | minus unsigned => exact read unsigned rfl

end Number

end BslLint
