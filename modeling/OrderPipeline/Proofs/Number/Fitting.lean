import OrderPipeline.Number.Decimal
import Mathlib.Algebra.Order.Ring.Int
import Mathlib.Tactic.Linarith
import Mathlib.Tactic.Positivity
import Mathlib.Tactic.Ring

/-!
# Totals fitted into range

`Decimal.fit` rounds a total at the first scale at which its mantissa is in range, so a slightly
larger total may be rounded at another scale than a smaller one. It is never fitted to a smaller
decimal for all that (`units_fit_mono`): a total that has to give up one more digit lies above all
decimals that have not, even after it was rounded (`le_units_fit`).

Decimals are compared by their `units`, the signed number of smallest units `1 / 10 ^ 28` that they
consist of.
-/

namespace OrderPipeline

/-! ## Rounded quotients -/

/-- A larger total is not rounded to a smaller quotient. -/
theorem roundHalfEven_mono {first second : ℕ} (le : first ≤ second) (unit : ℕ) :
    roundHalfEven first unit ≤ roundHalfEven second unit := by
  have quotients : first / unit ≤ second / unit := Nat.div_le_div_right le
  have split := Nat.div_add_mod first unit
  have split' := Nat.div_add_mod second unit
  simp only [roundHalfEven]
  rcases Nat.lt_or_eq_of_le quotients with less | same
  -- with different quotients rounding up can at most make them equal
  · split <;> split <;> omega
  -- with one quotient the rest decides, and it is not smaller
  · rw [← same] at split' ⊢
    split <;> split <;> omega

/-- A factor in the total and in the unit does not matter. -/
theorem roundHalfEven_mul_left {factor : ℕ} (positive : 0 < factor) (total unit : ℕ) :
    roundHalfEven (factor * total) (factor * unit) = roundHalfEven total unit := by
  have above : factor * unit < 2 * (factor * (total % unit)) ↔ unit < 2 * (total % unit) := by
    rw [Nat.mul_left_comm]
    exact Nat.mul_lt_mul_left positive
  have tie : 2 * (factor * (total % unit)) = factor * unit ↔ 2 * (total % unit) = unit := by
    rw [Nat.mul_left_comm]
    exact Nat.mul_right_inj positive.ne'
  simp only [roundHalfEven, Nat.mul_div_mul_left total unit positive, Nat.mul_mod_mul_left, above,
    tie]

/-- A total that is too large when it is rounded to a unit is not below the limit when it is
rounded to the tenfold unit: the limit ends in a six, so half a unit below it is rounded up. -/
theorem mantissaLimit_le_ten_mul_roundHalfEven {total unit : ℕ} (positive : 0 < unit)
    (large : mantissaLimit ≤ roundHalfEven total unit) :
    mantissaLimit ≤ 10 * roundHalfEven total (10 * unit) := by
  have above := roundHalfEven_le total unit positive
  have below := le_roundHalfEven total (10 * unit) (by omega)
  have reached : unit * mantissaLimit ≤ unit * roundHalfEven total unit :=
    Nat.mul_le_mul_left unit large
  by_contra short
  have small : unit * (10 * roundHalfEven total (10 * unit)) ≤ unit * (mantissaLimit - 6) := by
    refine Nat.mul_le_mul_left unit ?_
    unfold mantissaLimit at short ⊢
    omega
  rw [Nat.mul_sub] at small
  have assoc : 10 * unit * roundHalfEven total (10 * unit) =
      unit * (10 * roundHalfEven total (10 * unit)) := by ring
  have limit : unit * 6 ≤ unit * mantissaLimit := Nat.mul_le_mul_left unit (by decide)
  omega

namespace Decimal

/-! ## Fitting -/

/-- The number as so many smallest units. -/
def units (d : Decimal) : ℤ := d.coefficient scaleLimit

/-- The sign of a number as a factor. -/
def sign (negative : Bool) : ℤ := if negative then -1 else 1

@[simp] theorem sign_true : sign true = -1 := rfl

@[simp] theorem sign_false : sign false = 1 := rfl

theorem units_eq (d : Decimal) :
    d.units = sign d.negative * (d.mantissa * 10 ^ (scaleLimit - d.scale)) := by
  rw [units, coefficient, sign]
  cases d.negative <;> simp

variable {negative : Bool} {total first second scale dropped : ℕ}

theorem fit_zero : fit negative total 0 dropped =
    (ofParts? negative (roundHalfEven total (10 ^ dropped)) 0).getD
      (if negative then min else max) := by
  rw [fit, Nat.pow_eq]
  cases ofParts? negative (roundHalfEven total (10 ^ dropped)) 0 <;> rfl

theorem fit_succ : fit negative total (scale + 1) dropped =
    (ofParts? negative (roundHalfEven total (10 ^ dropped)) (scale + 1)).getD
      (fit negative total scale (dropped + 1)) := by
  rw [fit, Nat.pow_eq]
  cases ofParts? negative (roundHalfEven total (10 ^ dropped)) (scale + 1) <;> rfl

/-- A mantissa in range makes a decimal, which drops only the sign of a zero. -/
theorem exists_ofParts? (negative : Bool) (fits : total < mantissaLimit)
    (short : scale ≤ scaleLimit) :
    ∃ d, ofParts? negative total scale = some d ∧
      d.units = sign negative * (total * 10 ^ (scaleLimit - scale)) := by
  refine ⟨_, dif_pos ⟨fits, short⟩, ?_⟩
  rw [units_eq]
  by_cases zero : total = 0
  · simp [zero]
  · simp [zero, sign]

/-- A mantissa that is out of range makes no decimal. -/
theorem ofParts?_eq_none (large : mantissaLimit ≤ total) :
    ofParts? negative total scale = none :=
  dif_neg fun range => Nat.not_lt.2 large range.1

/-- A total is rounded at the first scale at which it is in range. -/
theorem units_fit_of_fits (short : scale ≤ scaleLimit)
    (fits : roundHalfEven total (10 ^ dropped) < mantissaLimit) :
    (fit negative total scale dropped).units =
      sign negative * (roundHalfEven total (10 ^ dropped) * 10 ^ (scaleLimit - scale)) := by
  obtain ⟨d, parts, units⟩ := exists_ofParts? negative fits short
  rw [← units]
  cases scale with
  | zero => rw [fit_zero, parts, Option.getD_some]
  | succ scale => rw [fit_succ, parts, Option.getD_some]

/-- A total that is out of range gives up one more digit. -/
theorem fit_succ_of_large (large : mantissaLimit ≤ roundHalfEven total (10 ^ dropped)) :
    fit negative total (scale + 1) dropped = fit negative total scale (dropped + 1) := by
  rw [fit_succ, ofParts?_eq_none large, Option.getD_none]

/-- A total that is out of range with no digit left to give up becomes the extreme of its sign. -/
theorem units_fit_zero_of_large (large : mantissaLimit ≤ roundHalfEven total (10 ^ dropped)) :
    (fit negative total 0 dropped).units =
      sign negative * ((mantissaLimit - 1 : ℕ) * 10 ^ scaleLimit) := by
  rw [fit_zero, ofParts?_eq_none large, Option.getD_none]
  cases negative <;> rfl

/-- A total is fitted alike with either sign. -/
theorem units_fit (short : scale ≤ scaleLimit) :
    (fit negative total scale dropped).units =
      sign negative * (fit false total scale dropped).units := by
  induction scale generalizing dropped with
  | zero =>
    rcases Nat.lt_or_ge (roundHalfEven total (10 ^ dropped)) mantissaLimit with fits | large
    · rw [units_fit_of_fits short fits, units_fit_of_fits short fits, sign_false, one_mul]
    · rw [units_fit_zero_of_large large, units_fit_zero_of_large large, sign_false, one_mul]
  | succ scale ih =>
    rcases Nat.lt_or_ge (roundHalfEven total (10 ^ dropped)) mantissaLimit with fits | large
    · rw [units_fit_of_fits short fits, units_fit_of_fits short fits, sign_false, one_mul]
    · rw [fit_succ_of_large large, fit_succ_of_large large]
      exact ih (by omega)

/-- A total that is out of range at a scale is fitted to nothing smaller than all decimals of that
scale. -/
theorem le_units_fit (short : scale ≤ scaleLimit)
    (large : mantissaLimit ≤ roundHalfEven total (10 ^ dropped)) :
    (mantissaLimit - 1 : ℕ) * 10 ^ (scaleLimit - scale) ≤
      (fit false total scale dropped).units := by
  -- on the scale: the total is rounded at one of the scales below, or ends as the largest decimal
  induction scale generalizing dropped with
  | zero => rw [units_fit_zero_of_large large, sign_false, one_mul, Nat.sub_zero]
  | succ scale ih =>
    have digit : (10 : ℤ) ^ (scaleLimit - scale) = 10 * 10 ^ (scaleLimit - (scale + 1)) := by
      rw [← pow_succ', show scaleLimit - scale = scaleLimit - (scale + 1) + 1 by omega]
    have positive : (0 : ℤ) < 10 ^ (scaleLimit - (scale + 1)) := by positivity
    rw [fit_succ_of_large large]
    rcases Nat.lt_or_ge (roundHalfEven total (10 ^ (dropped + 1))) mantissaLimit with fits | more
    · have reached := mantissaLimit_le_ten_mul_roundHalfEven (Nat.pow_pos (by decide)) large
      rw [← pow_succ'] at reached
      rw [units_fit_of_fits (by omega) fits, digit, sign_false, one_mul,
        ← mul_assoc]
      refine mul_le_mul_of_nonneg_right ?_ positive.le
      omega
    · have above := ih (by omega) more
      rw [digit] at above
      refine le_trans (mul_le_mul_of_nonneg_left ?_ (Int.natCast_nonneg _)) above
      linarith

/-- A total that is in range is fitted to nothing larger than any larger total is. -/
theorem units_fit_le_of_fits (le : first ≤ second) (short : scale ≤ scaleLimit)
    (fits : roundHalfEven first (10 ^ dropped) < mantissaLimit) :
    (fit false first scale dropped).units ≤ (fit false second scale dropped).units := by
  have positive : (0 : ℤ) ≤ 10 ^ (scaleLimit - scale) := by positivity
  rw [units_fit_of_fits short fits, sign_false, one_mul]
  rcases Nat.lt_or_ge (roundHalfEven second (10 ^ dropped)) mantissaLimit with fits' | large
  · have rounded := roundHalfEven_mono le (10 ^ dropped)
    rw [units_fit_of_fits short fits', sign_false, one_mul]
    exact mul_le_mul_of_nonneg_right (by exact_mod_cast rounded) positive
  · refine le_trans (mul_le_mul_of_nonneg_right ?_ positive) (le_units_fit short large)
    exact_mod_cast Nat.le_sub_one_of_lt fits

/-- A larger total is not fitted to a smaller decimal. -/
theorem units_fit_mono (le : first ≤ second) (short : scale ≤ scaleLimit) :
    (fit false first scale dropped).units ≤ (fit false second scale dropped).units := by
  -- on the scale, down to the first one at which the smaller total is in range
  induction scale generalizing dropped with
  | zero =>
    rcases Nat.lt_or_ge (roundHalfEven first (10 ^ dropped)) mantissaLimit with fits | large
    · exact units_fit_le_of_fits le short fits
    · have large' := large.trans (roundHalfEven_mono le (10 ^ dropped))
      rw [units_fit_zero_of_large large, units_fit_zero_of_large large']
  | succ scale ih =>
    rcases Nat.lt_or_ge (roundHalfEven first (10 ^ dropped)) mantissaLimit with fits | large
    · exact units_fit_le_of_fits le short fits
    · have large' := large.trans (roundHalfEven_mono le (10 ^ dropped))
      rw [fit_succ_of_large large, fit_succ_of_large large']
      exact ih (by omega)

/-- A zero after a total that has given up a digit does not matter. -/
theorem fit_ten_mul : fit negative (10 * total) scale (dropped + 1) =
    fit negative total scale dropped := by
  have rounded : ∀ dropped, roundHalfEven (10 * total) (10 ^ (dropped + 1)) =
      roundHalfEven total (10 ^ dropped) := by
    intro dropped
    rw [pow_succ', roundHalfEven_mul_left (by decide)]
  induction scale generalizing dropped with
  | zero => rw [fit_zero, fit_zero, rounded]
  | succ scale ih => rw [fit_succ, fit_succ, rounded, ih]

/-- A total is fitted to the same number at each scale at which it can be written. -/
theorem units_fit_mul_pow (negative : Bool) (total : ℕ) {scale shift : ℕ}
    (short : scale + shift ≤ scaleLimit) :
    (fit negative (total * 10 ^ shift) (scale + shift) 0).units =
      (fit negative total scale 0).units := by
  induction shift with
  | zero => simp
  | succ shift ih =>
    rw [← ih (by omega), pow_succ, ← mul_assoc, mul_comm _ 10, ← add_assoc]
    rcases Nat.lt_or_ge (10 * (total * 10 ^ shift)) mantissaLimit with fits | large
    -- a total in range stays as it is, with the zero and without
    · have fits' : total * 10 ^ shift < mantissaLimit := by omega
      have digit : (10 : ℤ) ^ (scaleLimit - (scale + shift)) =
          10 * 10 ^ (scaleLimit - (scale + shift + 1)) := by
        rw [← pow_succ', show scaleLimit - (scale + shift) =
          scaleLimit - (scale + shift + 1) + 1 by omega]
      rw [units_fit_of_fits (by omega) (by simpa using fits),
        units_fit_of_fits (by omega) (by simpa using fits'), digit]
      simp only [pow_zero, roundHalfEven_one]
      push_cast
      ring
    -- any other gives up the zero first
    · rw [fit_succ_of_large (by simpa using large), fit_ten_mul]

end Decimal

end OrderPipeline
