import OrderPipeline.Proofs.Number.Fitting
import OrderPipeline.Proofs.Number.Value
import Mathlib.Data.Sign.Basic

/-!
# Sums of decimals

The sum of two decimals stands for the exact sum of their values, fitted into range: `units_add`
says so once for all scales, and for a zero on either side, which is handed over at its own scale.
What follows is said about values.

* `value_add_mono` — sums keep the order of the exact sums.
* `value_add_of_eq` — a sum that some decimal stands for is exact.
* `le_value_add`, `value_add_le` — a sum lies on the same side of every decimal as the exact one.
* `sign_value_add` — a sum is zero, or below zero, just if the exact sum is.
-/

namespace OrderPipeline.Decimal

variable {left right first second d : Decimal}

/-! ## Whole numbers of smallest units -/

/-- The decimal that a whole number of smallest units is fitted to. -/
def ofUnits (n : ℤ) : Decimal := fit (decide (n < 0)) n.natAbs scaleLimit 0

theorem sign_mul_natAbs (n : ℤ) : sign (decide (n < 0)) * n.natAbs = n := by
  simp only [sign, decide_eq_true_iff]
  split <;> omega

/-- The mantissa at a scale counts units that are each so many smallest units. -/
theorem coefficient_mul_pow {scale : ℕ} (above : d.scale ≤ scale) (short : scale ≤ scaleLimit) :
    d.coefficient scale * 10 ^ (scaleLimit - scale) = d.units := by
  have split : scaleLimit - d.scale = (scale - d.scale) + (scaleLimit - scale) := by omega
  rw [units_eq, split, coefficient, sign, pow_add]
  cases d.negative <;> simp [mul_assoc]

/-- A total at a scale is fitted as the same number of smallest units is. -/
theorem units_ofUnits_mul_pow (n : ℤ) {scale : ℕ} (short : scale ≤ scaleLimit) :
    (ofUnits (n * 10 ^ (scaleLimit - scale))).units =
      (fit (decide (n < 0)) n.natAbs scale 0).units := by
  have positive : (0 : ℤ) < 10 ^ (scaleLimit - scale) := by positivity
  have below : n * 10 ^ (scaleLimit - scale) < 0 ↔ n < 0 :=
    ⟨fun h => neg_of_mul_neg_left h positive.le, fun h => mul_neg_of_neg_of_pos h positive⟩
  have size : (n * 10 ^ (scaleLimit - scale)).natAbs = n.natAbs * 10 ^ (scaleLimit - scale) := by
    rw [Int.natAbs_mul, Int.natAbs_pow]
    rfl
  have lifted := units_fit_mul_pow (decide (n < 0)) n.natAbs
    (show scale + (scaleLimit - scale) ≤ scaleLimit by omega)
  rw [Nat.add_sub_cancel' short] at lifted
  simp only [ofUnits, below, size]
  exact lifted

/-- A number of smallest units stays as it is when a mantissa in range stands for it. -/
theorem units_ofUnits_of_fits {n : ℤ} {scale : ℕ} (short : scale ≤ scaleLimit)
    (fits : n.natAbs < mantissaLimit) :
    (ofUnits (n * 10 ^ (scaleLimit - scale))).units = n * 10 ^ (scaleLimit - scale) := by
  rw [units_ofUnits_mul_pow n short, units_fit_of_fits short (by simpa using fits)]
  simp only [pow_zero, roundHalfEven_one, ← mul_assoc, sign_mul_natAbs]

/-- A decimal is fitted to itself. -/
theorem units_ofUnits_units (d : Decimal) : (ofUnits d.units).units = d.units := by
  have size : (d.coefficient d.scale).natAbs = d.mantissa := by
    rw [coefficient]
    cases d.negative <;> simp
  rw [← coefficient_mul_pow le_rfl d.scale_le]
  exact units_ofUnits_of_fits d.scale_le (by rw [size]; exact d.mantissa_lt)

/-- More units are not fitted to fewer. -/
theorem units_ofUnits_mono {few many : ℤ} (le : few ≤ many) :
    (ofUnits few).units ≤ (ofUnits many).units := by
  have mono : ∀ {first second : ℕ}, first ≤ second →
      (fit false first scaleLimit 0).units ≤ (fit false second scaleLimit 0).units :=
    fun le => units_fit_mono le le_rfl
  have zero : (fit false 0 scaleLimit 0).units = 0 := by
    rw [units_fit_of_fits le_rfl (by decide)]
    rfl
  have nonneg : ∀ total, 0 ≤ (fit false total scaleLimit 0).units :=
    fun total => zero ▸ mono (Nat.zero_le total)
  rw [ofUnits, ofUnits, units_fit le_rfl, @units_fit _ many.natAbs _ _ le_rfl]
  rcases lt_or_ge few 0 with negative | positive
  · rw [decide_eq_true negative, sign_true]
    rcases lt_or_ge many 0 with negative' | positive'
    -- below zero the smaller number has the larger size
    · rw [decide_eq_true negative', sign_true]
      linarith [mono (show many.natAbs ≤ few.natAbs by omega)]
    · rw [decide_eq_false positive'.not_gt, sign_false]
      linarith [nonneg few.natAbs, nonneg many.natAbs]
  · rw [decide_eq_false positive.not_gt, decide_eq_false (positive.trans le).not_gt, sign_false]
    linarith [mono (show few.natAbs ≤ many.natAbs by omega)]

/-! ## Sums -/

theorem units_eq_zero (zero : d.isZero = true) : d.units = 0 := by
  rw [units_eq, beq_iff_eq.1 zero]
  simp

/-- The sum is the exact sum, fitted into range. -/
theorem units_add (left right : Decimal) :
    (left.add right).units = (ofUnits (left.units + right.units)).units := by
  rw [add]
  -- a zero hands over the other side as it is, and that is fitted to itself
  split
  · next zero => rw [units_eq_zero zero, zero_add, units_ofUnits_units]
  · split
    · next zero => rw [units_eq_zero zero, add_zero, units_ofUnits_units]
    · have short : Nat.max left.scale right.scale ≤ scaleLimit :=
        Nat.max_le.2 ⟨left.scale_le, right.scale_le⟩
      rw [← coefficient_mul_pow (Nat.le_max_left left.scale right.scale) short,
        ← coefficient_mul_pow (Nat.le_max_right left.scale right.scale) short, ← add_mul,
        units_ofUnits_mul_pow _ short]

/-! ## The values of sums -/

/-- The value of a decimal at a scale that is not below its own. -/
theorem value_eq_coefficient {scale : ℕ} (above : d.scale ≤ scale) :
    d.value = d.coefficient scale / 10 ^ scale := by
  have unit : (10 : ℚ) ^ scale = 10 ^ d.scale * 10 ^ (scale - d.scale) := by
    rw [← pow_add, Nat.add_sub_cancel' above]
  have positive : (10 : ℚ) ^ (scale - d.scale) ≠ 0 := by positivity
  rw [value, coefficient, unit, ← mul_div_mul_right _ _ positive]
  cases d.negative <;> simp [neg_div]

theorem value_eq_units (d : Decimal) : d.value = d.units / 10 ^ scaleLimit :=
  value_eq_coefficient d.scale_le

theorem value_le_iff : left.value ≤ right.value ↔ left.units ≤ right.units := by
  have positive : (0 : ℚ) < 10 ^ scaleLimit := by positivity
  rw [value_eq_units, value_eq_units, div_le_div_iff_of_pos_right positive, Int.cast_le]

/-- Sums keep the order of the exact sums, at whatever scales they are rounded. -/
theorem value_add_mono (le : left.value + right.value ≤ first.value + second.value) :
    (left.add right).value ≤ (first.add second).value := by
  have positive : (0 : ℚ) < 10 ^ scaleLimit := by positivity
  simp only [value_eq_units, ← add_div] at le
  rw [div_le_div_iff_of_pos_right positive] at le
  rw [value_le_iff, units_add, units_add]
  exact units_ofUnits_mono (by exact_mod_cast le)

@[simp] theorem value_zero : zero.value = 0 := by
  simp [value, zero]

@[simp] theorem value_add_zero (d : Decimal) : (d.add zero).value = d.value := by
  have nothing : zero.units = 0 := units_eq_zero rfl
  rw [value_eq_units, value_eq_units, units_add, nothing, add_zero, units_ofUnits_units]

/-- A sum is not above a decimal that the exact sum is not above. -/
theorem value_add_le (le : left.value + right.value ≤ d.value) :
    (left.add right).value ≤ d.value := by
  rw [← value_add_zero d]
  exact value_add_mono (by simpa using le)

/-- A sum is not below a decimal that the exact sum is not below. -/
theorem le_value_add (le : d.value ≤ left.value + right.value) :
    d.value ≤ (left.add right).value := by
  rw [← value_add_zero d]
  exact value_add_mono (by simpa using le)

/-- A sum that some decimal stands for is exact. -/
theorem value_add_of_eq (same : d.value = left.value + right.value) :
    (left.add right).value = left.value + right.value := by
  rw [← same]
  exact le_antisymm (value_add_le same.ge) (le_value_add same.le)

/-- A mantissa in range stands for a number at each scale. -/
theorem exists_value_eq {n : ℤ} {scale : ℕ} (fits : n.natAbs < mantissaLimit)
    (short : scale ≤ scaleLimit) : ∃ d : Decimal, d.value = n / 10 ^ scale := by
  refine ⟨ofUnits (n * 10 ^ (scaleLimit - scale)), ?_⟩
  have unit : (10 : ℚ) ^ scaleLimit = 10 ^ scale * 10 ^ (scaleLimit - scale) := by
    rw [← pow_add, Nat.add_sub_cancel' short]
  rw [value_eq_units, units_ofUnits_of_fits short fits, unit]
  push_cast
  rw [mul_div_mul_right _ _ (by positivity)]

/-- A sum is exact when it can be written at some scale. -/
theorem value_add_of_fits {n : ℤ} {scale : ℕ} (fits : n.natAbs < mantissaLimit)
    (short : scale ≤ scaleLimit) (exact : left.value + right.value = n / 10 ^ scale) :
    (left.add right).value = left.value + right.value := by
  obtain ⟨d, same⟩ := exists_value_eq fits short
  exact value_add_of_eq (same.trans exact.symm)

/-- A sum is below zero just if the exact sum is, and zero just if the exact sum is: nothing is
rounded away. -/
theorem sign_value_add (left right : Decimal) :
    SignType.sign (left.add right).value = SignType.sign (left.value + right.value) := by
  have positive : (0 : ℚ) < 10 ^ scaleLimit := by positivity
  have units : left.value + right.value = (left.units + right.units : ℤ) / 10 ^ scaleLimit := by
    rw [value_eq_units, value_eq_units]
    push_cast
    ring
  have small : ∀ n : ℤ, n.natAbs < mantissaLimit → (ofUnits n).units = n := by
    intro n fits
    simpa using units_ofUnits_of_fits le_rfl fits
  rw [units, value_eq_units, units_add]
  -- the smallest decimals next to zero are in range, and the sum stays beyond them
  rcases lt_trichotomy (left.units + right.units) 0 with negative | none | above
  · have least := units_ofUnits_mono (show left.units + right.units ≤ -1 by omega)
    rw [small (-1) (by decide)] at least
    rw [sign_neg, sign_neg]
    · exact div_neg_of_neg_of_pos (by exact_mod_cast negative) positive
    · refine div_neg_of_neg_of_pos ?_ positive
      exact_mod_cast (by omega : (ofUnits (left.units + right.units)).units < 0)
  · rw [none, small 0 (by decide)]
  · have least := units_ofUnits_mono (show 1 ≤ left.units + right.units by omega)
    rw [small 1 (by decide)] at least
    rw [sign_pos, sign_pos]
    · exact div_pos (by exact_mod_cast above) positive
    · refine div_pos ?_ positive
      exact_mod_cast (by omega : 0 < (ofUnits (left.units + right.units)).units)

/-! ## Differences -/

@[simp] theorem value_neg (d : Decimal) : d.neg.value = -d.value := by
  by_cases zero : d.mantissa = 0
  · simp [value, zero]
  · have opposite : d.neg.negative = !d.negative := by simp [neg, zero]
    rw [value, value, opposite, neg_mantissa, neg_scale]
    cases d.negative <;> simp

/-- Differences keep the order of the exact differences. -/
theorem value_sub_mono (le : left.value - right.value ≤ first.value - second.value) :
    (left.sub right).value ≤ (first.sub second).value :=
  value_add_mono (by simpa only [value_neg, ← sub_eq_add_neg] using le)

/-- A difference is not above a decimal that the exact difference is not above. -/
theorem value_sub_le (le : left.value - right.value ≤ d.value) :
    (left.sub right).value ≤ d.value :=
  value_add_le (by simpa only [value_neg, ← sub_eq_add_neg] using le)

/-- A difference is exact when it can be written at some scale. -/
theorem value_sub_of_fits {n : ℤ} {scale : ℕ} (fits : n.natAbs < mantissaLimit)
    (short : scale ≤ scaleLimit) (exact : left.value - right.value = n / 10 ^ scale) :
    (left.sub right).value = left.value - right.value := by
  rw [sub_eq_add_neg, ← value_neg] at exact ⊢
  exact value_add_of_fits fits short exact

/-- A difference is below zero just if the exact one is, and zero just if the exact one is. -/
theorem sign_value_sub (left right : Decimal) :
    SignType.sign (left.sub right).value = SignType.sign (left.value - right.value) := by
  rw [sub, sign_value_add, value_neg, sub_eq_add_neg]

end OrderPipeline.Decimal
