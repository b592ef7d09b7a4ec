import Mathlib.Algebra.Order.Field.Power
import Mathlib.Data.Int.Log
import Mathlib.Data.Rat.Floor
import Mathlib.Tactic.FieldSimp
import Mathlib.Tactic.Linarith
import Mathlib.Tactic.Positivity
import Mathlib.Tactic.Ring
import MigrationScript.Double.Shortest

/-!
# Numbers that are doubles

Rounding is defined on integers, with shifts and a remainder. Here it is compared with rational
numbers: a decimal that has the value of a double is rounded to this double, whichever digits it is
written with.
-/

namespace MigrationScript

/-- The number that a decimal stands for. -/
def Decimal.value (number : Decimal) : ℚ :=
  number.significand * (10 : ℚ) ^ number.exponent

theorem Decimal.value_normalize (number : Decimal) : number.normalize.value = number.value := by
  fun_induction normalize number with
  | case1 number hzero =>
    unfold value
    rw [hzero]
    simp
  | case2 number hzero hten ih =>
    have hsignificand : number.significand = 10 * (number.significand / 10) := by omega
    rw [ih]
    unfold value
    rw [zpow_add₀ (by norm_num), zpow_one]
    conv => rhs; rw [hsignificand]
    push_cast
    ring
  | case3 number hzero hten => rfl

theorem Decimal.normalize_normalize (number : Decimal) :
    number.normalize.normalize = number.normalize := by
  fun_induction normalize number with
  | case1 number hzero => exact normalize_zero 0
  | case2 number hzero hten ih => exact ih
  | case3 number hzero hten => rw [normalize, if_neg hzero, if_neg hten]

namespace Double

/-- The number that a finite magnitude stands for. -/
def value (magnitude : Nat) : ℚ :=
  significand magnitude * (2 : ℚ) ^ power magnitude

variable {numerator denominator magnitude : Nat}

theorem neg_1074_le_power (magnitude : Nat) : -1074 ≤ power magnitude := by
  unfold power
  split
  · exact Int.le_refl _
  · rename_i hleading
    have hpos : 1 ≤ magnitude / leadingBit :=
      (Nat.one_le_div_iff (by decide)).mpr (Nat.le_of_not_lt hleading)
    omega

theorem significand_lt (magnitude : Nat) : significand magnitude < 2 * leadingBit := by
  have hmod : magnitude % leadingBit < leadingBit := Nat.mod_lt _ (by decide)
  unfold significand
  split
  · omega
  · omega

theorem significand_pos (h : 0 < magnitude) : 0 < significand magnitude := by
  unfold significand
  split
  · exact h
  · exact Nat.add_pos_left (by decide) _

/-- A magnitude is told by its factor and its power of two. -/
theorem power_mul_add_significand (magnitude : Nat) :
    (power magnitude + 1074).toNat * leadingBit + significand magnitude = magnitude := by
  have hsplit := Nat.div_add_mod magnitude leadingBit
  unfold power significand
  split
  · simp
  · rename_i hleading
    have hpos : 1 ≤ magnitude / leadingBit :=
      (Nat.one_le_div_iff (by decide)).mpr (Nat.le_of_not_lt hleading)
    obtain ⟨above, habove⟩ := Nat.exists_eq_add_of_le hpos
    have hpower : (((magnitude / leadingBit : Nat) : Int) - 1075 + 1074).toNat = above := by omega
    rw [hpower]
    rw [habove, Nat.mul_add, Nat.mul_one] at hsplit
    rw [← Nat.add_assoc, Nat.mul_comm above, Nat.add_comm (leadingBit * above)]
    exact hsplit

/-! ### Powers of two -/

theorem cast_shiftLeft (number bits : Nat) : ((number <<< bits : Nat) : ℚ) = number * 2 ^ bits := by
  rw [Nat.shiftLeft_eq]
  push_cast
  rfl

/-- A power as a quotient of two powers, one of which is one. -/
theorem zpow_eq_toNat_div (base : ℚ) (power : Int) :
    base ^ power = base ^ power.toNat / base ^ (-power).toNat := by
  rcases Int.le_total 0 power with hpower | hpower
  · obtain ⟨positive, rfl⟩ := Int.eq_ofNat_of_zero_le hpower
    simp
  · obtain ⟨negative, hnegative⟩ := Int.exists_eq_neg_ofNat hpower
    subst hnegative
    simp

/-- The comparison of shifted numbers is one of a power of two with their quotient. -/
theorem shiftLeft_le_shiftLeft_iff (hdenominator : 0 < denominator) (power : Int) :
    denominator <<< power.toNat ≤ numerator <<< (-power).toNat ↔
      (2 : ℚ) ^ power ≤ (numerator : ℚ) / denominator := by
  have hpos : (0 : ℚ) < denominator := by exact_mod_cast hdenominator
  have hpower : (0 : ℚ) < 2 ^ (-power).toNat := by positivity
  rw [zpow_eq_toNat_div, div_le_div_iff₀ hpower hpos, ← @Nat.cast_le ℚ, cast_shiftLeft,
    cast_shiftLeft, mul_comm]

theorem log2_bounds (h : 0 < numerator) :
    (2 : ℚ) ^ numerator.log2 ≤ numerator ∧ (numerator : ℚ) < 2 ^ (numerator.log2 + 1) := by
  constructor
  · exact_mod_cast Nat.log2_self_le (Nat.ne_of_gt h)
  · exact_mod_cast (Nat.lt_log2_self : numerator < _)

/-- A quotient lies within two powers of two that the lengths of its parts tell. -/
theorem quotient_bounds (hnumerator : 0 < numerator) (hdenominator : 0 < denominator) :
    (2 : ℚ) ^ ((numerator.log2 : Int) - denominator.log2 - 1) ≤ (numerator : ℚ) / denominator ∧
      (numerator : ℚ) / denominator <
        (2 : ℚ) ^ ((numerator.log2 : Int) - denominator.log2 + 1) := by
  have hpos : (0 : ℚ) < denominator := by exact_mod_cast hdenominator
  obtain ⟨hlow, hhigh⟩ := log2_bounds hnumerator
  obtain ⟨hlow', hhigh'⟩ := log2_bounds hdenominator
  constructor
  · have hpower : ((numerator.log2 : Int) - denominator.log2 - 1) =
        (numerator.log2 : Int) - ((denominator.log2 + 1 : Nat) : Int) := by push_cast; ring
    rw [hpower, zpow_sub₀ two_ne_zero, zpow_natCast, zpow_natCast]
    gcongr
  · have hpower : ((numerator.log2 : Int) - denominator.log2 + 1) =
        ((numerator.log2 + 1 : Nat) : Int) - (denominator.log2 : Int) := by push_cast; ring
    rw [hpower, zpow_sub₀ two_ne_zero, zpow_natCast, zpow_natCast]
    gcongr

theorem leadingPower_eq_log (hnumerator : 0 < numerator) (hdenominator : 0 < denominator) :
    leadingPower numerator denominator = Int.log 2 ((numerator : ℚ) / denominator) := by
  have hpos : (0 : ℚ) < denominator := by exact_mod_cast hdenominator
  have hquotient : (0 : ℚ) < (numerator : ℚ) / denominator := by positivity
  obtain ⟨hbelow, habove⟩ := quotient_bounds hnumerator hdenominator
  have hlog (power : Int) (hle : (2 : ℚ) ^ power ≤ (numerator : ℚ) / denominator)
      (hlt : (numerator : ℚ) / denominator < (2 : ℚ) ^ (power + 1)) :
      power = Int.log 2 ((numerator : ℚ) / denominator) := by
    have hfirst := (Int.zpow_le_iff_le_log one_lt_two hquotient).mp (by exact_mod_cast hle)
    have hsecond := (Int.lt_zpow_iff_log_lt one_lt_two hquotient).mp (by exact_mod_cast hlt)
    omega
  unfold leadingPower
  simp only [shiftLeft_le_shiftLeft_iff hdenominator]
  split
  · rename_i hguess
    exact hlog _ hguess habove
  · rename_i hguess
    refine hlog _ hbelow ?_
    rw [sub_add_cancel]
    exact not_le.mp hguess

/-! ### Rounding what is a double -/

theorem roundHalfEven_mul (quotient : Nat) (h : 0 < denominator) :
    roundHalfEven (quotient * denominator) denominator = quotient := by
  unfold roundHalfEven
  rw [Nat.mul_mod_left, Nat.mul_div_cancel _ h]
  simp [h]

theorem value_pos (h : 0 < magnitude) : 0 < value magnitude := by
  have hsignificand : (0 : ℚ) < significand magnitude := by exact_mod_cast significand_pos h
  exact mul_pos hsignificand (by positivity)

theorem value_lt (magnitude : Nat) : value magnitude < (2 : ℚ) ^ (power magnitude + 53) := by
  have hlt : (significand magnitude : ℚ) < 2 ^ (53 : Int) := by
    have hbound : (2 : ℚ) ^ (53 : Int) = ((2 * leadingBit : Nat) : ℚ) := by norm_num [leadingBit]
    rw [hbound]
    exact_mod_cast significand_lt magnitude
  unfold value
  rw [add_comm, zpow_add₀ two_ne_zero]
  gcongr

theorem le_value (h : leadingBit ≤ magnitude) :
    (2 : ℚ) ^ (power magnitude + 52) ≤ value magnitude := by
  have hle : (2 : ℚ) ^ (52 : Int) ≤ significand magnitude := by
    have hbound : (2 : ℚ) ^ (52 : Int) = ((leadingBit : Nat) : ℚ) := by norm_num [leadingBit]
    rw [hbound, significand, if_neg (Nat.not_lt.mpr h)]
    exact_mod_cast Nat.le_add_right _ _
  unfold value
  rw [add_comm, zpow_add₀ two_ne_zero]
  gcongr

theorem max_log_value (h : 0 < magnitude) :
    max (Int.log 2 (value magnitude) - 52) (-1074) = power magnitude := by
  have hlt : Int.log 2 (value magnitude) < power magnitude + 53 :=
    (Int.lt_zpow_iff_log_lt one_lt_two (value_pos h)).mp (by exact_mod_cast value_lt magnitude)
  by_cases hleading : magnitude < leadingBit
  · have hpower : power magnitude = -1074 := if_pos hleading
    omega
  · have hle : power magnitude + 52 ≤ Int.log 2 (value magnitude) :=
      (Int.zpow_le_iff_le_log one_lt_two (value_pos h)).mp
        (by exact_mod_cast le_value (Nat.le_of_not_lt hleading))
    have hbound := neg_1074_le_power magnitude
    omega

theorem nearestMagnitude_of_value_eq (hpos : 0 < magnitude)
    (hfinite : magnitude < infiniteMagnitude) (hnumerator : 0 < numerator)
    (hdenominator : 0 < denominator)
    (hvalue : (numerator : ℚ) / denominator = value magnitude) :
    nearestMagnitude numerator denominator = magnitude := by
  have hshifted : numerator <<< (-power magnitude).toNat =
      significand magnitude * denominator <<< (power magnitude).toNat := by
    have hne : (denominator : ℚ) ≠ 0 := by exact_mod_cast Nat.ne_of_gt hdenominator
    have hpower : (2 : ℚ) ^ (-power magnitude).toNat ≠ 0 := by positivity
    rw [value, zpow_eq_toNat_div] at hvalue
    field_simp at hvalue
    rw [← @Nat.cast_inj ℚ]
    push_cast [cast_shiftLeft]
    linarith
  have hshift : 0 < denominator <<< (power magnitude).toNat := by
    rw [Nat.shiftLeft_eq]
    positivity
  unfold nearestMagnitude
  simp only [leadingPower_eq_log hnumerator hdenominator, hvalue, max_log_value hpos, hshifted,
    roundHalfEven_mul _ hshift, power_mul_add_significand]
  exact Nat.min_eq_left (Nat.le_of_lt hfinite)

theorem power_le (hfinite : magnitude < infiniteMagnitude) : power magnitude ≤ 971 := by
  have hlt : magnitude / leadingBit < 2047 := by
    rw [Nat.div_lt_iff_lt_mul (by decide)]
    exact hfinite
  unfold power
  split
  · omega
  · omega

theorem value_lt_tenTo (hfinite : magnitude < infiniteMagnitude) :
    value magnitude < (10 : ℚ) ^ (401 : Int) := by
  calc
    value magnitude < (2 : ℚ) ^ (power magnitude + 53) := value_lt magnitude
    _ ≤ (2 : ℚ) ^ (1024 : Int) := by
      have hpower := power_le hfinite
      exact zpow_le_zpow_right₀ one_le_two (by omega)
    _ < (2 : ℚ) ^ (3 * 401 : Int) := zpow_lt_zpow_right₀ one_lt_two (by decide)
    _ ≤ (10 : ℚ) ^ (401 : Int) := by
      rw [zpow_mul]
      exact zpow_le_zpow_left₀ (by decide) (by norm_num) (by norm_num)

theorem le_value_of_pos (h : 0 < magnitude) : (2 : ℚ) ^ (-1074 : Int) ≤ value magnitude := by
  have hsignificand : (1 : ℚ) ≤ significand magnitude := by exact_mod_cast significand_pos h
  calc
    (2 : ℚ) ^ (-1074 : Int) ≤ (2 : ℚ) ^ power magnitude :=
      zpow_le_zpow_right₀ one_le_two (neg_1074_le_power magnitude)
    _ ≤ significand magnitude * (2 : ℚ) ^ power magnitude :=
      le_mul_of_one_le_left (by positivity) hsignificand

/-- A number that is told to be below half of the least double by its size is below the least. -/
theorem decimal_value_lt {number : Decimal} (hexponent : number.exponent < 0)
    (hsize : (number.significand.log2 : Int) + 3 * number.exponent < -1080) :
    number.value < (2 : ℚ) ^ (-1074 : Int) := by
  have hsignificand : (number.significand : ℚ) < 2 ^ ((number.significand.log2 : Int) + 1) := by
    have hlog : (number.significand : ℚ) < 2 ^ (number.significand.log2 + 1) := by
      exact_mod_cast (Nat.lt_log2_self : number.significand < _)
    exact_mod_cast hlog
  have hten : (10 : ℚ) ^ number.exponent ≤ 2 ^ (3 * number.exponent) := by
    obtain ⟨size, hsize⟩ := Int.exists_eq_neg_ofNat (Int.le_of_lt hexponent)
    rw [hsize, zpow_mul, zpow_neg, zpow_neg, zpow_natCast, zpow_natCast]
    gcongr
    norm_num
  calc
    number.value < 2 ^ ((number.significand.log2 : Int) + 1) * (10 : ℚ) ^ number.exponent := by
      unfold Decimal.value
      gcongr
    _ ≤ 2 ^ ((number.significand.log2 : Int) + 1) * (2 : ℚ) ^ (3 * number.exponent) := by gcongr
    _ = (2 : ℚ) ^ ((number.significand.log2 : Int) + 1 + 3 * number.exponent) :=
      (zpow_add₀ two_ne_zero _ _).symm
    _ ≤ (2 : ℚ) ^ (-1074 : Int) := zpow_le_zpow_right₀ one_le_two (by omega)

theorem cast_tenTo (zeros : Nat) : ((tenTo zeros : Nat) : ℚ) = 10 ^ zeros := by
  change ((10 ^ zeros : Nat) : ℚ) = _
  push_cast
  rfl

/-- No number that has the value of a finite double is told to be beyond all of them. -/
theorem exponent_le_of_value_eq {number : Decimal} (hfinite : magnitude < infiniteMagnitude)
    (hvalue : number.value = value magnitude) (hsignificand : 0 < number.significand) :
    ¬400 < number.exponent := by
  intro hexponent
  have hone : (1 : ℚ) ≤ number.significand := by exact_mod_cast hsignificand
  have hle : (10 : ℚ) ^ (401 : Int) ≤ number.value := by
    calc
      (10 : ℚ) ^ (401 : Int) ≤ (10 : ℚ) ^ number.exponent :=
        zpow_le_zpow_right₀ (by norm_num) hexponent
      _ ≤ number.value := le_mul_of_one_le_left (by positivity) hone
  rw [hvalue] at hle
  exact absurd (value_lt_tenTo hfinite) (not_lt.mpr hle)

/-- No number that has the value of a double is told to be below all of them. -/
theorem not_small_of_value_eq {number : Decimal} (hvalue : number.value = value magnitude)
    (hpos : 0 < magnitude) : ¬(number.exponent < 0 ∧
      (number.significand.log2 : Int) + 3 * number.exponent < -1080) := by
  rintro ⟨hexponent, hsize⟩
  have hlt := decimal_value_lt hexponent hsize
  rw [hvalue] at hlt
  exact absurd hlt (not_lt.mpr (le_value_of_pos hpos))

theorem significand_pos_iff_of_value_eq {number : Decimal}
    (hvalue : number.value = value magnitude) : 0 < number.significand ↔ 0 < magnitude := by
  have hpower : (0 : ℚ) < 10 ^ number.exponent := by positivity
  constructor
  · intro hsignificand
    by_contra hmagnitude
    have hpos : 0 < number.value := mul_pos (by exact_mod_cast hsignificand) hpower
    rw [hvalue, Nat.eq_zero_of_not_pos hmagnitude] at hpos
    simp [value, significand, leadingBit] at hpos
  · intro hmagnitude
    by_contra hsignificand
    have hpos := value_pos hmagnitude
    rw [← hvalue, Decimal.value, Nat.eq_zero_of_not_pos hsignificand] at hpos
    simp at hpos

/-- A decimal of the value of a finite double is rounded to it. -/
theorem nearest_of_value_eq {number : Decimal} (hfinite : magnitude < infiniteMagnitude)
    (hvalue : number.value = value magnitude) : nearest number = magnitude := by
  rw [← Decimal.value_normalize] at hvalue
  unfold nearest nearestNormalized
  generalize number.normalize = normal at hvalue ⊢
  have hiff := significand_pos_iff_of_value_eq hvalue
  by_cases hzero : normal.significand = 0
  · rw [if_pos hzero]
    omega
  · have hsignificand : 0 < normal.significand := Nat.pos_of_ne_zero hzero
    have hpos : 0 < magnitude := hiff.mp hsignificand
    rw [if_neg hzero, if_neg (exponent_le_of_value_eq hfinite hvalue hsignificand),
      if_neg (not_small_of_value_eq hvalue hpos)]
    refine nearestMagnitude_of_value_eq hpos hfinite ?_ ?_ ?_
    · exact Nat.mul_pos hsignificand (Nat.pow_pos (by decide))
    · exact Nat.pow_pos (by decide)
    · rw [← hvalue, Decimal.value, zpow_eq_toNat_div]
      push_cast [cast_tenTo]
      ring

theorem value_exactDecimal (magnitude : Nat) :
    (exactDecimal magnitude).value = value magnitude := by
  unfold exactDecimal Decimal.value value
  dsimp only
  rcases Int.le_total 0 (power magnitude) with hpower | hpower
  · obtain ⟨positive, hpositive⟩ := Int.eq_ofNat_of_zero_le hpower
    rw [hpositive, Int.min_eq_right (Int.natCast_nonneg positive)]
    push_cast [cast_shiftLeft]
    simp
  · obtain ⟨negative, hnegative⟩ := Int.exists_eq_neg_ofNat hpower
    have hfive : (5 : ℚ) ^ negative * (10 ^ negative)⁻¹ = (2 ^ negative)⁻¹ := by
      have hten : (10 : ℚ) ^ negative = 2 ^ negative * 5 ^ negative := by
        rw [← mul_pow]
        norm_num
      rw [hten]
      field_simp
    rw [hnegative, Int.min_eq_left (by omega), Int.neg_neg, Int.toNat_natCast,
      Int.toNat_neg_natCast, Nat.shiftLeft_zero, zpow_neg, zpow_neg, zpow_natCast, zpow_natCast,
      ← hfive]
    change ((significand magnitude * 5 ^ negative : Nat) : ℚ) * _ = _
    push_cast
    ring

theorem nearest_exactDecimal (hfinite : magnitude < infiniteMagnitude) :
    nearest (exactDecimal magnitude) = magnitude :=
  nearest_of_value_eq hfinite (value_exactDecimal magnitude)

theorem nearest_normalize (number : Decimal) : nearest number.normalize = nearest number := by
  rw [nearest, Decimal.normalize_normalize, nearest]

/-- The shortest decimal of a finite double is rounded to it. -/
theorem nearest_shortest (tie : Tie) (hfinite : magnitude < infiniteMagnitude) :
    nearest (shortest tie magnitude) = magnitude := by
  unfold shortest
  dsimp only
  rw [nearest_normalize]
  cases hfound : (List.range 24).findSome? fun step : Nat =>
      (onGrid? tie magnitude (coarsest magnitude - step)).map fun significand =>
        (⟨significand, coarsest magnitude - step⟩ : Decimal) with
  | none => exact nearest_exactDecimal hfinite
  | some found =>
    obtain ⟨step, -, hstep⟩ := List.exists_of_findSome?_eq_some hfound
    obtain ⟨significand, hgrid, rfl⟩ := Option.map_eq_some_iff.mp hstep
    exact nearest_onGrid hgrid

/-- The decimal that a finite double is written as is rounded to it. -/
theorem nearest_written (tie : Tie) {d : Double} (hfinite : d.magnitude < infiniteMagnitude) :
    nearest (if d.isZero then ⟨0, 0⟩ else shortest tie d.magnitude) = d.magnitude := by
  split
  · rename_i hzero
    rw [beq_iff_eq.mp hzero, nearest, Decimal.normalize_zero]
    rfl
  · exact nearest_shortest tie hfinite

end Double

end MigrationScript
