import BslLint.Proofs.Json.Writing
import BslLint.Proofs.Number.Rounding

/-! Numbers that have a value. The value of a number is made of its leading digits and a power of ten, with a rounding
at each of three steps, so that numbers up to three units of the last digit below the greatest double stay in range. -/

set_option autoImplicit false

namespace BslLint.JsonNumeral

open Number

theorem cast_powerOfTen (count : Nat) : ((Nat.pow 10 count : Nat) : ℚ) = 10 ^ count := by
  have power : Nat.pow 10 count = 10 ^ count := rfl
  rw [power, Nat.cast_pow, Nat.cast_ofNat]

theorem tenPower_lt {count : Nat} (small : count ≤ 308) : (10 : ℚ) ^ count * (1 + 1 / 2 ^ 53) < 2 ^ 1024 := by
  have greatest : 10 ^ 308 * (2 ^ 53 + 1) < 2 ^ 1024 * 2 ^ 53 := by decide +kernel
  have greatest : (10 : ℚ) ^ 308 * (2 ^ 53 + 1) < 2 ^ 1024 * 2 ^ 53 := by exact_mod_cast greatest
  have power : (10 : ℚ) ^ count ≤ 10 ^ 308 := pow_le_pow_right₀ (by norm_num) small
  have factor : (1 : ℚ) + 1 / 2 ^ 53 = (2 ^ 53 + 1) / 2 ^ 53 := by norm_num
  rw [factor, ← mul_div_assoc, div_lt_iff₀ (by norm_num)]
  exact (mul_le_mul_of_nonneg_right power (by norm_num)).trans_lt greatest

theorem abs_powerOfTen_sub_le {count : Nat} (small : count ≤ 308) :
    |powerOfTen count - 10 ^ count| ≤ 10 ^ count / 2 ^ 53 := by
  obtain ⟨value, rounded, near⟩ := round_of_one_le (one_le_pow₀ (by norm_num)) (tenPower_lt small)
  rw [powerOfTen, cast_powerOfTen, rounded]
  exact near

theorem half_tenPower_le {count : Nat} (small : count ≤ 308) : (10 : ℚ) ^ count / 2 ≤ powerOfTen count := by
  have near := (abs_le.mp (abs_powerOfTen_sub_le small)).1
  have positive : (0 : ℚ) < 10 ^ count := by positivity
  have part : (10 : ℚ) ^ count / 2 ^ 53 ≤ 10 ^ count / 2 :=
    div_le_div_of_nonneg_left positive.le (by norm_num) (by norm_num)
  linarith

theorem applyExponent_zero (exponent : Int) : applyExponent 0 exponent ≠ none := by
  rw [applyExponent, if_pos rfl, if_pos rfl, zero_mul, zero_div, Format.round_zero]
  split_ifs <;> exact Option.some_ne_none _

theorem round_div_powerOfTen {magnitude : Rat} (nonneg : 0 ≤ magnitude) (low : magnitude ≤ 2 ^ 100) {count : Nat}
    (small : count ≤ 308) : ∃ value, binary64.round (magnitude / powerOfTen count) = some value ∧ 0 ≤ value ∧
      value ≤ 4 * magnitude / 10 ^ count + 1 := by
  have power := half_tenPower_le small
  have half : (0 : ℚ) < 10 ^ count / 2 := by positivity
  have quotient : magnitude / powerOfTen count ≤ 2 * magnitude / 10 ^ count := by
    refine (div_le_div_of_nonneg_left nonneg half power).trans (le_of_eq ?_)
    field_simp
  have bounded : 2 * magnitude / 10 ^ count ≤ 2 ^ 200 := by
    refine (div_le_self (by linarith) (one_le_pow₀ (by norm_num))).trans ?_
    linarith
  obtain ⟨value, rounded, above, below⟩ :=
    round_of_le (div_nonneg nonneg (half.le.trans power)) (quotient.trans bounded)
  refine ⟨value, rounded, above, below.trans ?_⟩
  have double : 2 * (2 * magnitude / 10 ^ count) = 4 * magnitude / 10 ^ count := by ring
  linarith

-- Division by powers of ten does not leave the range.
theorem applyExponent_of_neg {magnitude : Rat} {exponent : Int} (nonneg : 0 ≤ magnitude)
    (low : magnitude ≤ 2 ^ 100) (below : exponent < 0) : applyExponent magnitude exponent ≠ none := by
  induction steps : (-exponent).toNat using Nat.strongRecOn generalizing magnitude exponent with
  | ind steps ih =>
    rw [applyExponent, if_neg (by omega), if_neg (by omega)]
    split_ifs with near zero
    · obtain ⟨value, rounded, _⟩ := round_div_powerOfTen nonneg low (show (-exponent).toNat ≤ 308 by omega)
      rw [rounded]
      exact Option.some_ne_none value
    · exact Option.some_ne_none 0
    · obtain ⟨value, rounded, above, upper⟩ := round_div_powerOfTen nonneg low (le_refl 308)
      rw [rounded]
      have smaller : value ≤ 2 ^ 100 := by
        have tens : (10 : ℚ) ≤ 10 ^ 308 := le_self_pow₀ (by norm_num) (by norm_num)
        have part : 4 * magnitude / 10 ^ 308 ≤ 4 * magnitude / 10 :=
          div_le_div_of_nonneg_left (by linarith) (by norm_num) tens
        generalize 4 * magnitude / 10 ^ 308 = quotient at upper part
        linarith
      exact ih _ (by omega) above smaller (by omega) rfl

/-- The greatest magnitude that three roundings cannot take out of the range of a double. -/
def safeBound : ℚ :=
  (1 - 4 / 2 ^ 53) * 2 ^ 1024

theorem applyExponent_of_nonneg {significand magnitude : ℚ} (normal : 1 ≤ significand)
    (near : |magnitude - significand| ≤ significand / 2 ^ 53) {count : Nat} (small : count ≤ 308)
    (inRange : significand * 10 ^ count ≤ safeBound) : applyExponent magnitude count ≠ none := by
  rw [applyExponent, if_neg (by omega), if_pos (by omega), Int.toNat_natCast]
  have power := abs_powerOfTen_sub_le small
  have tens : (0 : ℚ) < 10 ^ count := by positivity
  -- Each of the three roundings adds at most one part in 2 ^ 53.
  have first : magnitude ≤ significand * (1 + 1 / 2 ^ 53) := by
    have := (abs_le.mp near).2
    linarith
  have second : powerOfTen count ≤ 10 ^ count * (1 + 1 / 2 ^ 53) := by
    have := (abs_le.mp power).2
    linarith
  have powerPos : 0 ≤ powerOfTen count := (by positivity : (0 : ℚ) ≤ 10 ^ count / 2).trans (half_tenPower_le small)
  have product : magnitude * powerOfTen count ≤ safeBound * (1 + 1 / 2 ^ 53) ^ 2 := by
    calc magnitude * powerOfTen count
        ≤ significand * (1 + 1 / 2 ^ 53) * (10 ^ count * (1 + 1 / 2 ^ 53)) :=
          mul_le_mul first second powerPos (by positivity)
      _ = significand * 10 ^ count * (1 + 1 / 2 ^ 53) ^ 2 := by ring
      _ ≤ safeBound * (1 + 1 / 2 ^ 53) ^ 2 := mul_le_mul_of_nonneg_right inRange (by positivity)
  rcases le_or_gt 1 (magnitude * powerOfTen count) with above | below
  · have third : magnitude * powerOfTen count * (1 + 1 / 2 ^ 53) < 2 ^ 1024 := by
      have factors : (1 - 4 / 2 ^ 53 : ℚ) * (1 + 1 / 2 ^ 53) ^ 3 < 1 := by norm_num
      calc magnitude * powerOfTen count * (1 + 1 / 2 ^ 53)
          ≤ safeBound * (1 + 1 / 2 ^ 53) ^ 2 * (1 + 1 / 2 ^ 53) := mul_le_mul_of_nonneg_right product (by norm_num)
        _ = (1 - 4 / 2 ^ 53) * (1 + 1 / 2 ^ 53) ^ 3 * 2 ^ 1024 := by
          rw [safeBound]
          generalize (2 : ℚ) ^ 1024 = bound
          ring
        _ < 1 * 2 ^ 1024 := mul_lt_mul_of_pos_right factors (by positivity)
        _ = 2 ^ 1024 := one_mul _
    obtain ⟨value, rounded, _⟩ := round_of_one_le above third
    rw [rounded]
    exact Option.some_ne_none value
  · have nonneg : 0 ≤ magnitude := by
      have := (abs_le.mp near).1
      linarith
    obtain ⟨value, rounded, _⟩ := round_of_le (mul_nonneg nonneg powerPos) (below.le.trans (by norm_num))
    rw [rounded]
    exact Option.some_ne_none value

theorem safeBound_lt {exponent : Int} (great : 308 < exponent) : safeBound < 10 ^ exponent := by
  have bound : 2 ^ 1024 < 10 ^ 309 := by decide +kernel
  have bound : (2 : ℚ) ^ 1024 < 10 ^ 309 := by exact_mod_cast bound
  have power : (10 : ℚ) ^ (309 : Int) ≤ 10 ^ exponent := zpow_le_zpow_right₀ (by norm_num) (by omega)
  have below : safeBound ≤ 2 ^ 1024 := mul_le_of_le_one_left (by positivity) (by norm_num)
  exact (below.trans_lt bound).trans_le power

/-- Digits and an exponent have a double when their product is far enough below the bound of the doubles. -/
theorem doubleOfParts_ne_none (negative : Bool) {significand : Nat} (word : significand < wordBound) {exponent : Int}
    (inRange : (significand : ℚ) * 10 ^ exponent ≤ safeBound) : doubleOfParts negative significand exponent ≠ none := by
  rw [doubleOfParts]
  rcases significand.eq_zero_or_pos with rfl | positive
  · rw [Nat.cast_zero, Format.round_zero]
    simpa using applyExponent_zero exponent
  · have normal : (1 : ℚ) ≤ significand := by exact_mod_cast positive
    have word : (significand : ℚ) ≤ 2 ^ 64 := by exact_mod_cast word.le
    have below : (significand : ℚ) * (1 + 1 / 2 ^ 53) < 2 ^ 1024 := by
      have bound : (2 : ℚ) ^ 200 ≤ 2 ^ 1024 := pow_le_pow_right₀ (by norm_num) (by norm_num)
      refine lt_of_lt_of_le ?_ bound
      linarith
    obtain ⟨magnitude, rounded, near⟩ := round_of_one_le normal below
    simp only [rounded, ne_eq, Option.map_eq_none_iff]
    rcases le_or_gt exponent 308 with small | great
    · rcases le_or_gt 0 exponent with above | negative
      · obtain ⟨count, rfl⟩ := Int.eq_ofNat_of_zero_le above
        rw [zpow_natCast] at inRange
        exact applyExponent_of_nonneg normal near (by omega) inRange
      · obtain ⟨lower, upper⟩ := abs_le.mp near
        exact applyExponent_of_neg (by linarith) (by linarith) negative
    · have beyond := safeBound_lt great
      have power : (10 : ℚ) ^ exponent ≤ significand * 10 ^ exponent := le_mul_of_one_le_left (by positivity) normal
      exact absurd (power.trans inRange) (not_le.mpr beyond)

theorem mul_pow_le_valueAfter (lead : Nat) (digits : List Nat) :
    lead * 10 ^ digits.length ≤ valueAfter lead digits := by
  induction digits generalizing lead with
  | nil => simp [valueAfter]
  | cons digit rest ih =>
    calc lead * 10 ^ (rest.length + 1) = lead * 10 * 10 ^ rest.length := by ring
      _ ≤ (lead * 10 + digit) * 10 ^ rest.length := Nat.mul_le_mul_right _ (by omega)
      _ ≤ valueAfter (lead * 10 + digit) rest := ih _

theorem valueAfter_lt_mul_pow (lead : Nat) {digits : List Nat} (bounded : ∀ digit ∈ digits, digit < 10) :
    valueAfter lead digits < (lead + 1) * 10 ^ digits.length := by
  induction digits generalizing lead with
  | nil => simp [valueAfter]
  | cons digit rest ih =>
    have small := bounded digit List.mem_cons_self
    calc valueAfter (lead * 10 + digit) rest
        < (lead * 10 + digit + 1) * 10 ^ rest.length :=
          ih _ fun other member => bounded other (List.mem_cons_of_mem digit member)
      _ ≤ (lead + 1) * 10 * 10 ^ rest.length := Nat.mul_le_mul_right _ (by omega)
      _ = (lead + 1) * 10 ^ (rest.length + 1) := by ring

structure Accumulates (lead : Nat) (digits : List Nat) (significand : Nat) (left : List Nat) : Prop where
  word : lead < wordBound → significand < wordBound
  split : ∃ taken, digits = taken ++ left ∧ significand = valueAfter lead taken
  full : ∀ digit rest, left = digit :: rest → wordBound ≤ significand * 10 + digit

theorem accumulates (lead : Nat) (digits : List Nat) :
    Accumulates lead digits (accumulate lead digits).1 (accumulate lead digits).2 := by
  induction digits generalizing lead with
  | nil => exact ⟨id, ⟨[], rfl, rfl⟩, nofun⟩
  | cons digit rest ih =>
    rw [accumulate]
    split
    · rename_i fits
      obtain ⟨word, ⟨taken, same, value⟩, full⟩ := ih (lead * 10 + digit)
      exact ⟨fun _ => word fits, ⟨digit :: taken, congrArg (digit :: ·) same, value⟩, full⟩
    · rename_i full
      refine ⟨id, ⟨[], rfl, rfl⟩, ?_⟩
      rintro _ _ ⟨⟩
      exact not_lt.mp full

/-- The digits that are taken, with zeros for the digits that are left, make no more than the number. -/
theorem significand_mul_pow_le {integer fraction dropped unused : List Nat} {whole significand : Nat}
    (first : Accumulates 0 integer whole dropped) (second : Accumulates whole fraction significand unused)
    (bounded : ∀ digit ∈ fraction, digit < 10) :
    significand * 10 ^ (dropped.length + unused.length) ≤ valueAfter 0 (integer ++ fraction) := by
  obtain ⟨taken, rfl, rfl⟩ := first.split
  obtain ⟨more, rfl, rfl⟩ := second.split
  rw [valueAfter_append, valueAfter_append 0 taken]
  generalize valueAfter 0 taken = whole at *
  cases dropped with
  | nil =>
    rw [List.length_nil, Nat.zero_add, valueAfter_append]
    exact mul_pow_le_valueAfter _ unused
  | cons digit rest =>
    have whole_le : (whole * 10 + digit) * 10 ^ (rest.length + (more.length + unused.length)) ≤
        valueAfter (valueAfter whole (digit :: rest)) (more ++ unused) := by
      rw [pow_add, ← mul_assoc, ← List.length_append]
      refine le_trans (Nat.mul_le_mul_right _ ?_) (mul_pow_le_valueAfter _ _)
      exact mul_pow_le_valueAfter (whole * 10 + digit) rest
    refine le_trans ?_ whole_le
    have taken_le : valueAfter whole more * 10 ≤ (whole * 10 + digit) * 10 ^ more.length := by
      cases more with
      | nil => simp [valueAfter]
      | cons next others =>
        -- The next digit fits where the one that was dropped does not, so it is less.
        have full := first.full digit rest rfl
        have word : valueAfter (whole * 10 + next) others < wordBound := second.word (first.word (by decide))
        have fits := le_valueAfter (whole * 10 + next) others
        have below := valueAfter_lt_mul_pow (whole * 10 + next)
          fun digit member => bounded digit (List.mem_cons_of_mem next (List.mem_append_left unused member))
        have less : whole * 10 + next + 1 ≤ whole * 10 + digit := by omega
        calc valueAfter (whole * 10 + next) others * 10
            ≤ (whole * 10 + next + 1) * 10 ^ others.length * 10 := Nat.mul_le_mul_right 10 below.le
          _ ≤ (whole * 10 + digit) * 10 ^ others.length * 10 :=
            Nat.mul_le_mul_right 10 (Nat.mul_le_mul_right _ less)
          _ = (whole * 10 + digit) * 10 ^ (others.length + 1) := by ring
    calc valueAfter whole more * 10 ^ (rest.length + 1 + unused.length)
        = valueAfter whole more * 10 * 10 ^ (rest.length + unused.length) := by ring
      _ ≤ (whole * 10 + digit) * 10 ^ more.length * 10 ^ (rest.length + unused.length) :=
        Nat.mul_le_mul_right _ taken_le
      _ = (whole * 10 + digit) * 10 ^ (rest.length + (more.length + unused.length)) := by ring

def power : Option (Bool × List Nat) → Int
  | none => 0
  | some (below, digits) => if below then -(valueAfter 0 digits : Int) else valueAfter 0 digits

def magnitude (numeral : JsonNumeral) : ℚ :=
  valueAfter 0 (numeral.integer ++ numeral.fraction) * 10 ^ (power numeral.exponent - numeral.fraction.length)

theorem word_le_safeBound {significand : Nat} (word : significand < wordBound) : (significand : ℚ) ≤ safeBound := by
  have word : (significand : ℚ) ≤ 2 ^ 64 := by exact_mod_cast word.le
  have bound : (2 : ℚ) ^ 65 ≤ 2 ^ 1024 := pow_le_pow_right₀ (by norm_num) (by norm_num)
  rw [safeBound]
  generalize (2 : ℚ) ^ 1024 = bound at *
  linarith

/-- A number has a value if it is not too near to the bound of the doubles. -/
theorem value?_ne_none {numeral : JsonNumeral} {text : List Char} (written : numeral.Written text)
    (inRange : numeral.magnitude ≤ safeBound)
    (moderate : ∀ digits, numeral.exponent = some (false, digits) → valueAfter 0 digits < 2 ^ 31) :
    numeral.value? ≠ none := by
  obtain ⟨negative, integer, fraction, exponent⟩ := numeral
  have bounded : ∀ digit ∈ fraction, digit < 10 := by
    obtain @⟨_, _, _, _, fractional, _⟩ := written
    cases fractional with
    | none => nofun
    | digits isDigits => exact isDigits.2
  have first := accumulates 0 integer
  unfold value?
  dsimp only at *
  generalize accumulate 0 integer = taken at *
  obtain ⟨whole, dropped⟩ := taken
  dsimp only at *
  split_ifs with plain positive extreme
  · exact Option.some_ne_none _
  · refine doubleOfParts_ne_none true (first.word (by decide)) ?_
    rw [zpow_zero, mul_one]
    exact word_le_safeBound (first.word (by decide))
  · exact Option.some_ne_none _
  · have second := accumulates whole fraction
    generalize accumulate whole fraction = more at *
    obtain ⟨significand, unused⟩ := more
    dsimp only at *
    have word : significand < wordBound := second.word (first.word (by decide))
    have scaled : (significand : ℚ) * 10 ^ ((dropped.length : Int) -
        ((fraction.length - unused.length : Nat) : Int) + power exponent) ≤ safeBound := by
      have digits : (significand : ℚ) * 10 ^ (dropped.length + unused.length) ≤ valueAfter 0 (integer ++ fraction) := by
        exact_mod_cast significand_mul_pow_le first second bounded
      have fewer : unused.length ≤ fraction.length := by
        obtain ⟨taken, rfl, _⟩ := second.split
        simp
      have split : (dropped.length : Int) - ((fraction.length - unused.length : Nat) : Int) + power exponent =
          ((dropped.length + unused.length : Nat) : Int) + (power exponent - fraction.length) := by omega
      rw [split, zpow_add₀ (by norm_num), zpow_natCast, ← mul_assoc]
      exact (mul_le_mul_of_nonneg_right digits (by positivity)).trans inRange
    cases exponent with
    | none =>
      rw [power, add_zero] at scaled
      exact doubleOfParts_ne_none _ word scaled
    | some parts =>
      obtain ⟨below, digits⟩ := parts
      have value : exponentValue? digits =
          if valueAfter 0 digits < 2 ^ 31 then some (valueAfter 0 digits) else none := rfl
      dsimp only
      rw [value]
      rw [power] at scaled
      cases below with
      | true =>
        by_cases less : valueAfter 0 digits < 2 ^ 31
        · rw [if_pos less]
          exact doubleOfParts_ne_none _ word scaled
        · rw [if_neg less]
          dsimp only
          rw [if_pos (Or.inr rfl)]
          exact Option.some_ne_none _
      | false =>
        rw [if_pos (moderate digits rfl)]
        exact doubleOfParts_ne_none _ word scaled

end BslLint.JsonNumeral
