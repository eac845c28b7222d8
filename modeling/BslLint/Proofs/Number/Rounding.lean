import BslLint.Number.Rounding
import Mathlib.Algebra.Order.Field.Power
import Mathlib.Data.Rat.Cast.Order
import Mathlib.Tactic.FieldSimp
import Mathlib.Tactic.Linarith
import Mathlib.Tactic.NormNum
import Mathlib.Tactic.Positivity
import Mathlib.Tactic.Ring

/-! How far rounding moves a magnitude. The nearest value of a format is at most half a unit of its last digit away, so
that a double of at least one is off by no more than one part in 2 ^ 53. -/

set_option autoImplicit false

namespace BslLint.Number

theorem roundHalfEven_bounds (numerator : Nat) {denominator : Nat} (positive : 0 < denominator) :
    2 * (roundHalfEven numerator denominator * denominator) ≤ 2 * numerator + denominator ∧
      2 * numerator ≤ 2 * (roundHalfEven numerator denominator * denominator) + denominator := by
  have split := Nat.div_add_mod numerator denominator
  rw [Nat.mul_comm] at split
  have remainder := Nat.mod_lt numerator positive
  unfold roundHalfEven
  dsimp only
  split_ifs with below above
  · omega
  · rw [Nat.add_one_mul (numerator / denominator) denominator]
    omega
  · rcases Nat.mod_two_eq_zero_or_one (numerator / denominator) with even | odd
    · rw [even, Nat.add_zero]
      omega
    · rw [odd, Nat.add_one_mul (numerator / denominator) denominator]
      omega

theorem abs_roundHalfEven_sub_le (numerator : Nat) {denominator : Nat} (positive : 0 < denominator) :
    |(roundHalfEven numerator denominator : ℚ) - numerator / denominator| ≤ 1 / 2 := by
  obtain ⟨upper, lower⟩ := roundHalfEven_bounds numerator positive
  have upper : 2 * ((roundHalfEven numerator denominator : ℚ) * denominator) ≤ 2 * numerator + denominator := by
    exact_mod_cast upper
  have lower : (2 : ℚ) * numerator ≤ 2 * ((roundHalfEven numerator denominator : ℚ) * denominator) + denominator := by
    exact_mod_cast lower
  have positive : (0 : ℚ) < denominator := by exact_mod_cast positive
  have apart : (roundHalfEven numerator denominator : ℚ) - numerator / denominator =
      (roundHalfEven numerator denominator * denominator - numerator) / denominator := by
    field_simp
  rw [apart, abs_div, abs_of_pos positive, div_le_iff₀ positive, abs_le]
  constructor <;> linarith

theorem cast_powerOfTwo (count : Nat) : ((Nat.pow 2 count : Nat) : ℚ) = 2 ^ count := by
  have power : Nat.pow 2 count = 2 ^ count := rfl
  rw [power, Nat.cast_pow, Nat.cast_ofNat]

theorem zpow_of_neg {exponent : Int} (below : ¬0 ≤ exponent) :
    (2 : ℚ) ^ exponent = ((Nat.pow 2 (-exponent).toNat : Nat) : ℚ)⁻¹ := by
  obtain ⟨count, rfl⟩ : ∃ count : Nat, exponent = -count := ⟨(-exponent).toNat, by omega⟩
  rw [neg_neg, Int.toNat_natCast, zpow_neg, zpow_natCast, cast_powerOfTwo]

theorem zpow_of_nonneg {exponent : Int} (above : 0 ≤ exponent) :
    (2 : ℚ) ^ exponent = ((Nat.pow 2 exponent.toNat : Nat) : ℚ) := by
  obtain ⟨count, rfl⟩ := Int.eq_ofNat_of_zero_le above
  rw [Int.toNat_natCast, zpow_natCast, cast_powerOfTwo]

theorem scale_eq (value : Nat) (exponent : Int) : scale value exponent = value * (2 : ℚ) ^ exponent := by
  unfold scale
  split
  · rename_i above
    rw [zpow_of_nonneg above, Nat.cast_mul]
  · rename_i below
    rw [zpow_of_neg below, Rat.mkRat_eq_div, div_eq_mul_inv]
    push_cast
    rfl

theorem reached_iff {numerator denominator : Nat} (positive : 0 < denominator) (exponent : Int) :
    (if 0 ≤ exponent then denominator * Nat.pow 2 exponent.toNat ≤ numerator
      else denominator ≤ numerator * Nat.pow 2 (-exponent).toNat) ↔
    (2 : ℚ) ^ exponent ≤ numerator / denominator := by
  have positive : (0 : ℚ) < denominator := by exact_mod_cast positive
  rw [le_div_iff₀ positive]
  split
  · rename_i above
    rw [zpow_of_nonneg above, mul_comm, ← Nat.cast_mul, Nat.cast_le]
  · rename_i below
    have power : (0 : ℚ) < (Nat.pow 2 (-exponent).toNat : Nat) := by exact_mod_cast Nat.pow_pos (by decide)
    rw [zpow_of_neg below, inv_mul_le_iff₀ power, mul_comm, ← Nat.cast_mul, Nat.cast_le]

theorem floorLog_eq {numerator denominator : Nat} (positive : 0 < denominator) :
    let guess := (numerator.log2 : Int) - (denominator.log2 : Int)
    floorLog numerator denominator = if (2 : ℚ) ^ guess ≤ numerator / denominator then guess else guess - 1 :=
  if_congr (reached_iff positive _) rfl rfl

theorem zpow_floorLog_le {numerator denominator : Nat} (numeratorPos : 0 < numerator)
    (denominatorPos : 0 < denominator) : (2 : ℚ) ^ floorLog numerator denominator ≤ numerator / denominator := by
  rw [floorLog_eq denominatorPos]
  split
  · assumption
  · -- The guess is at most one too great.
    have low : (2 : ℚ) ^ (numerator.log2 : Int) ≤ numerator := by
      exact_mod_cast Nat.log2_self_le numeratorPos.ne'
    have high : (denominator : ℚ) ≤ 2 ^ ((denominator.log2 : Int) + 1) := by
      exact_mod_cast (@Nat.lt_log2_self denominator).le
    have positive : (0 : ℚ) < denominator := by exact_mod_cast denominatorPos
    calc (2 : ℚ) ^ ((numerator.log2 : Int) - (denominator.log2 : Int) - 1)
        = 2 ^ (numerator.log2 : Int) / 2 ^ ((denominator.log2 : Int) + 1) := by
          rw [← zpow_sub₀ (by norm_num)]
          congr 1
          omega
      _ ≤ numerator / denominator := div_le_div₀ (by positivity) low positive high

theorem eq_num_div_den {magnitude : Rat} (positive : 0 < magnitude) :
    magnitude = (magnitude.num.toNat : ℚ) / magnitude.den := by
  have numerator : ((magnitude.num.toNat : Int) : ℚ) = magnitude.num := by
    rw [Int.toNat_of_nonneg (Rat.num_pos.mpr positive).le]
  rw [Int.cast_natCast] at numerator
  rw [numerator, Rat.num_div_den]

namespace Format

def unit (format : Format) (magnitude : Rat) : Int :=
  max (floorLog magnitude.num.toNat magnitude.den - (format.precision - 1 : Nat)) format.leastExponent

def nearest (format : Format) (magnitude : Rat) : Rat :=
  scale (if 0 ≤ format.unit magnitude then
      roundHalfEven magnitude.num.toNat (magnitude.den * Nat.pow 2 (format.unit magnitude).toNat)
    else roundHalfEven (magnitude.num.toNat * Nat.pow 2 (-format.unit magnitude).toNat) magnitude.den)
    (format.unit magnitude)

theorem round_of_pos (format : Format) {magnitude : Rat} (positive : 0 < magnitude) : format.round magnitude =
    if format.nearest magnitude < scale 1 format.bound then some (format.nearest magnitude) else none := by
  have numerator : magnitude.num.toNat ≠ 0 := by
    have := Rat.num_pos.mpr positive
    omega
  exact if_neg numerator

theorem abs_nearest_sub_le (format : Format) {magnitude : Rat} (positive : 0 < magnitude) :
    |format.nearest magnitude - magnitude| ≤ 2 ^ format.unit magnitude / 2 := by
  have split := eq_num_div_den positive
  have step : (0 : ℚ) < 2 ^ format.unit magnitude := by positivity
  obtain ⟨digits, value, near⟩ : ∃ digits : Nat, format.nearest magnitude = digits * 2 ^ format.unit magnitude ∧
      |(digits : ℚ) - magnitude / 2 ^ format.unit magnitude| ≤ 1 / 2 := by
    refine ⟨_, scale_eq _ _, ?_⟩
    split_ifs with above
    · have power : 0 < magnitude.den * Nat.pow 2 (format.unit magnitude).toNat :=
        Nat.mul_pos magnitude.den_pos (Nat.pow_pos (by decide))
      have near := abs_roundHalfEven_sub_le magnitude.num.toNat power
      rwa [Nat.cast_mul, ← zpow_of_nonneg above, ← div_div, ← split] at near
    · have near := abs_roundHalfEven_sub_le (magnitude.num.toNat * Nat.pow 2 (-format.unit magnitude).toNat)
        magnitude.den_pos
      rwa [Nat.cast_mul, mul_div_right_comm, ← split, ← inv_inv ((Nat.pow 2 _ : Nat) : ℚ), ← zpow_of_neg above,
        ← div_eq_mul_inv] at near
  calc |format.nearest magnitude - magnitude|
      = |(digits : ℚ) - magnitude / 2 ^ format.unit magnitude| * 2 ^ format.unit magnitude := by
        rw [← abs_of_pos step, ← abs_mul, abs_of_pos step, value, sub_mul, div_mul_cancel₀ _ step.ne']
    _ ≤ 1 / 2 * 2 ^ format.unit magnitude := mul_le_mul_of_nonneg_right near step.le
    _ = 2 ^ format.unit magnitude / 2 := by ring

end Format

variable {magnitude : Rat}

theorem zpow_unit_le (positive : 0 < magnitude) :
    (2 : ℚ) ^ binary64.unit magnitude ≤ max (magnitude / 2 ^ 52) (1 / 2 ^ 1074) := by
  have numerator : 0 < magnitude.num.toNat := by
    have := Rat.num_pos.mpr positive
    omega
  have leading := zpow_floorLog_le numerator magnitude.den_pos
  rw [← eq_num_div_den positive] at leading
  unfold Format.unit
  rcases max_choice (floorLog magnitude.num.toNat magnitude.den - (binary64.precision - 1 : Nat))
    binary64.leastExponent with normal | least
  · refine le_max_of_le_left ?_
    rw [normal, zpow_sub₀ (by norm_num)]
    exact div_le_div_of_nonneg_right leading (by positivity)
  · refine le_max_of_le_right ?_
    rw [least]
    norm_num [binary64]

theorem round_eq_some (positive : 0 < magnitude) (below : binary64.nearest magnitude < 2 ^ 1024) :
    binary64.round magnitude = some (binary64.nearest magnitude) := by
  have bound : scale 1 binary64.bound = 2 ^ 1024 := by
    rw [scale_eq]
    norm_num [binary64]
  rw [Format.round_of_pos _ positive, bound, if_pos below]

/-- A magnitude of one or more is rounded by one part in 2 ^ 53 at most. -/
theorem round_of_one_le (normal : 1 ≤ magnitude) (below : magnitude * (1 + 1 / 2 ^ 53) < 2 ^ 1024) :
    ∃ value, binary64.round magnitude = some value ∧ |value - magnitude| ≤ magnitude / 2 ^ 53 := by
  have positive : 0 < magnitude := by linarith
  have near := Format.abs_nearest_sub_le binary64 positive
  have unit : (2 : ℚ) ^ binary64.unit magnitude ≤ magnitude / 2 ^ 52 := by
    refine (zpow_unit_le positive).trans (max_le le_rfl ?_)
    refine le_trans ?_ (div_le_div_of_nonneg_right normal (by positivity))
    exact one_div_le_one_div_of_le (by positivity) (pow_le_pow_right₀ (by norm_num) (by norm_num))
  have near : |binary64.nearest magnitude - magnitude| ≤ magnitude / 2 ^ 53 := by
    refine near.trans ?_
    rw [div_le_iff₀ (by norm_num)]
    refine unit.trans (le_of_eq ?_)
    ring
  refine ⟨_, round_eq_some positive (lt_of_le_of_lt ?_ below), near⟩
  rw [mul_add, mul_one, mul_one_div]
  exact sub_le_iff_le_add'.mp (abs_le.mp near).2

/-- A magnitude far below the bound of the doubles is rounded without leaving their range. -/
theorem round_of_le (nonneg : 0 ≤ magnitude) (low : magnitude ≤ 2 ^ 200) :
    ∃ value, binary64.round magnitude = some value ∧ 0 ≤ value ∧ value ≤ 2 * magnitude + 1 := by
  rcases nonneg.eq_or_lt with rfl | positive
  · exact ⟨0, Format.round_zero _, le_rfl, by norm_num⟩
  · have near := Format.abs_nearest_sub_le binary64 positive
    have unit : (2 : ℚ) ^ binary64.unit magnitude ≤ magnitude + 1 := by
      refine (zpow_unit_le positive).trans (max_le ?_ ?_)
      · exact (div_le_self nonneg (by norm_num)).trans (by linarith)
      · exact le_add_of_nonneg_of_le nonneg (div_le_self zero_le_one (one_le_pow₀ (by norm_num)))
    have upper := (abs_le.mp near).2
    have value : binary64.nearest magnitude ≤ 2 * magnitude + 1 := by linarith
    have small : 2 * magnitude + 1 < 2 ^ 202 := by linarith
    have bound : (2 : ℚ) ^ 202 ≤ 2 ^ 1024 := pow_le_pow_right₀ (by norm_num) (by norm_num)
    refine ⟨_, round_eq_some positive ((value.trans_lt small).trans_le bound), ?_, value⟩
    rw [Format.nearest, scale_eq]
    exact mul_nonneg (Nat.cast_nonneg _) (zpow_nonneg (by norm_num) _)

end BslLint.Number
