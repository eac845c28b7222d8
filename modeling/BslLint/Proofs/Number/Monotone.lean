import BslLint.Proofs.Number.Rounding

/-! Rounding keeps the order of magnitudes. What a greater one is rounded to is not smaller, also where the two have a
different number of digits after the point. -/

set_option autoImplicit false

namespace BslLint.Number

theorem lt_zpow_floorLog_add_one (numerator : Nat) {denominator : Nat} (positive : 0 < denominator) :
    (numerator / denominator : ℚ) < 2 ^ (floorLog numerator denominator + 1) := by
  rw [floorLog_eq positive]
  split
  · have high : (numerator : ℚ) < 2 ^ ((numerator.log2 : Int) + 1) := by
      exact_mod_cast @Nat.lt_log2_self numerator
    have low : (2 : ℚ) ^ (denominator.log2 : Int) ≤ denominator := by
      exact_mod_cast Nat.log2_self_le positive.ne'
    have power : (0 : ℚ) < 2 ^ (denominator.log2 : Int) := by positivity
    calc (numerator / denominator : ℚ)
        ≤ numerator / 2 ^ (denominator.log2 : Int) := div_le_div_of_nonneg_left (Nat.cast_nonneg _) power low
      _ < 2 ^ ((numerator.log2 : Int) + 1) / 2 ^ (denominator.log2 : Int) := div_lt_div_of_pos_right high power
      _ = 2 ^ ((numerator.log2 : Int) - (denominator.log2 : Int) + 1) := by
        rw [← zpow_sub₀ (by norm_num)]
        congr 1
        omega
  · rename_i above
    rw [sub_add_cancel]
    exact not_le.mp above

/-- Two multiples of a unit that are less than one unit out of order are in order. -/
theorem multiple_le_of_lt {digits others : Nat} {unit : ℚ} (positive : 0 < unit)
    (close : digits * unit < others * unit + unit) : (digits : ℚ) * unit ≤ others * unit := by
  rw [← add_one_mul] at close
  have below : (digits : ℚ) < others + 1 := lt_of_mul_lt_mul_right close positive.le
  have le : digits ≤ others := Nat.lt_succ_iff.mp (by exact_mod_cast below)
  exact mul_le_mul_of_nonneg_right (by exact_mod_cast le) positive.le

namespace Format

variable (format : Format) {magnitude greater : ℚ}

/-- The power of two that a magnitude lies above, and below the double of. -/
theorem zpow_floorLog_bounds (positive : 0 < magnitude) :
    (2 : ℚ) ^ floorLog magnitude.num.toNat magnitude.den ≤ magnitude ∧
      magnitude < 2 ^ (floorLog magnitude.num.toNat magnitude.den + 1) := by
  have numerator : 0 < magnitude.num.toNat := by
    have := Rat.num_pos.mpr positive
    omega
  have low := zpow_floorLog_le numerator magnitude.den_pos
  have high := lt_zpow_floorLog_add_one magnitude.num.toNat magnitude.den_pos
  rw [← eq_num_div_den positive] at low high
  exact ⟨low, high⟩

theorem floorLog_mono (positive : 0 < magnitude) (le : magnitude ≤ greater) :
    floorLog magnitude.num.toNat magnitude.den ≤ floorLog greater.num.toNat greater.den := by
  have low := (zpow_floorLog_bounds positive).1
  have high := (zpow_floorLog_bounds (positive.trans_le le)).2
  have apart := (low.trans le).trans_lt high
  rw [zpow_lt_zpow_iff_right₀ (by norm_num)] at apart
  omega

theorem exists_nearest (magnitude : ℚ) :
    ∃ digits : Nat, format.nearest magnitude = digits * (2 : ℚ) ^ format.unit magnitude :=
  ⟨_, scale_eq _ _⟩

/-- A multiple of the unit that is not below a magnitude is not below its nearest value. -/
theorem nearest_le (positive : 0 < magnitude) {digits : Nat}
    (above : magnitude ≤ digits * (2 : ℚ) ^ format.unit magnitude) :
    format.nearest magnitude ≤ digits * (2 : ℚ) ^ format.unit magnitude := by
  obtain ⟨own, value⟩ := format.exists_nearest magnitude
  have near := (abs_le.mp (format.abs_nearest_sub_le positive)).2
  have step : (0 : ℚ) < 2 ^ format.unit magnitude := by positivity
  rw [value] at near ⊢
  exact multiple_le_of_lt step (by linarith)

/-- A multiple of the unit that is not above a magnitude is not above its nearest value. -/
theorem le_nearest (positive : 0 < magnitude) {digits : Nat}
    (below : digits * (2 : ℚ) ^ format.unit magnitude ≤ magnitude) :
    digits * (2 : ℚ) ^ format.unit magnitude ≤ format.nearest magnitude := by
  obtain ⟨own, value⟩ := format.exists_nearest magnitude
  have near := (abs_le.mp (format.abs_nearest_sub_le positive)).1
  have step : (0 : ℚ) < 2 ^ format.unit magnitude := by positivity
  rw [value] at near ⊢
  exact multiple_le_of_lt step (by linarith)

theorem nearest_mono_of_unit_eq (positive : 0 < magnitude) (lt : magnitude < greater)
    (same : format.unit magnitude = format.unit greater) : format.nearest magnitude ≤ format.nearest greater := by
  obtain ⟨digits, value⟩ := format.exists_nearest magnitude
  obtain ⟨others, valueGreater⟩ := format.exists_nearest greater
  have near := (abs_le.mp (format.abs_nearest_sub_le positive)).2
  have nearGreater := (abs_le.mp (format.abs_nearest_sub_le (positive.trans lt))).1
  have step : (0 : ℚ) < 2 ^ format.unit greater := by positivity
  rw [same] at value near
  rw [value] at near ⊢
  rw [valueGreater] at nearGreater ⊢
  -- Each value is at most half a unit off.
  exact multiple_le_of_lt step (by linarith)

theorem nearest_mono_of_unit_lt (positive : 0 < magnitude) (le : magnitude ≤ greater)
    (finer : format.unit magnitude < format.unit greater) : format.nearest magnitude ≤ format.nearest greater := by
  -- A power of two lies between the two magnitudes, and it is a multiple of both units.
  have positiveGreater := positive.trans_le le
  have power {exponent unit : Int} (le : unit ≤ exponent) :
      ((2 ^ (exponent - unit).toNat : Nat) : ℚ) * 2 ^ unit = 2 ^ exponent := by
    rw [Nat.cast_pow, Nat.cast_ofNat, ← zpow_natCast, Int.toNat_of_nonneg (by omega), ← zpow_add₀ (by norm_num),
      sub_add_cancel]
  let leading := floorLog greater.num.toNat greater.den
  have unitGreater : format.unit greater ≤ leading := by
    unfold unit at finer ⊢
    omega
  have between : magnitude ≤ 2 ^ leading := by
    have high := (zpow_floorLog_bounds positive).2
    have apart : floorLog magnitude.num.toNat magnitude.den + 1 ≤ leading := by
      unfold unit at finer
      omega
    exact high.le.trans (zpow_le_zpow_right₀ (by norm_num) apart)
  have low := format.nearest_le positive (between.trans_eq (power (finer.le.trans unitGreater)).symm)
  have high := format.le_nearest positiveGreater ((power unitGreater).trans_le (zpow_floorLog_bounds positiveGreater).1)
  rw [power (finer.le.trans unitGreater)] at low
  rw [power unitGreater] at high
  exact low.trans high

theorem nearest_mono (positive : 0 < magnitude) (le : magnitude ≤ greater) :
    format.nearest magnitude ≤ format.nearest greater := by
  rcases le.eq_or_lt with rfl | lt
  · exact le_rfl
  · have coarser : format.unit magnitude ≤ format.unit greater := by
      have leading := floorLog_mono positive le
      unfold unit
      omega
    rcases coarser.eq_or_lt with same | finer
    · exact format.nearest_mono_of_unit_eq positive lt same
    · exact format.nearest_mono_of_unit_lt positive le finer

theorem nearest_nonneg (magnitude : ℚ) : 0 ≤ format.nearest magnitude := by
  obtain ⟨digits, value⟩ := format.exists_nearest magnitude
  rw [value]
  positivity

theorem round_nonneg {value : ℚ} (nonneg : 0 ≤ magnitude) (rounded : format.round magnitude = some value) : 0 ≤ value := by
  rcases nonneg.eq_or_lt with rfl | positive
  · cases rounded
    exact le_rfl
  · rw [format.round_of_pos positive] at rounded
    split at rounded
    · cases rounded
      exact format.nearest_nonneg magnitude
    · cases rounded

theorem round_mono {value other : ℚ} (nonneg : 0 ≤ magnitude) (le : magnitude ≤ greater)
    (rounded : format.round magnitude = some value) (roundedGreater : format.round greater = some other) :
    value ≤ other := by
  rcases nonneg.eq_or_lt with rfl | positive
  · cases rounded
    exact format.round_nonneg le roundedGreater
  · rw [format.round_of_pos positive] at rounded
    rw [format.round_of_pos (positive.trans_le le)] at roundedGreater
    split at rounded <;> split at roundedGreater
    · cases rounded
      cases roundedGreater
      exact format.nearest_mono positive le
    all_goals cases rounded
    all_goals cases roundedGreater

end Format

end BslLint.Number
