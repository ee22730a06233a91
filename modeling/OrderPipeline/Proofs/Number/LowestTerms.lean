import OrderPipeline.Proofs.Number.DecimalText
import OrderPipeline.Proofs.Number.Value

/-!
# Decimals in lowest terms

`Decimal.normalize` drops the zeros at the end of the digits after the point, which changes nothing
about the number (`value_normalize`). The text of a decimal in lowest terms has no zero that could
be left off: it has no point, or it does not end with a zero (`shortest_text`). Two decimals in
lowest terms that have the same value are the same (`InLowestTerms.eq_of_value_eq`).
-/

namespace OrderPipeline

/-- A number is written with its last digit at the end. -/
theorem getLast?_toDigits (n : ℕ) : (Nat.toDigits 10 n).getLast? = some (n % 10).digitChar := by
  rw [Nat.toDigits_eq_if (by decide)]
  split
  · next small => rw [List.getLast?_singleton, Nat.mod_eq_of_lt small]
  · rw [List.getLast?_concat]

/-- Only the digit zero is written as a zero. -/
theorem digitChar_ne_zero {digit : ℕ} (small : digit < 10) (nonzero : digit ≠ 0) :
    digit.digitChar ≠ '0' := by
  have others : ∀ digit < 10, digit ≠ 0 → digit.digitChar ≠ '0' := by decide
  exact others digit small nonzero

/-- Whether a written number has no zero at its end that could be left off. -/
def Text.Shortest (text : String) : Prop :=
  '.' ∈ text.toList → text.toList.getLast? ≠ some '0'

namespace Decimal

/-- Whether the digits after the point do not end with a zero. -/
def InLowestTerms (d : Decimal) : Prop := d.scale = 0 ∨ d.mantissa % 10 ≠ 0

/-- The zeros that are stripped are all that is lost. -/
theorem stripZeros_mul_pow (mantissa scale : ℕ) :
    (stripZeros mantissa scale).1 * 10 ^ (scale - (stripZeros mantissa scale).2) = mantissa := by
  induction scale generalizing mantissa with
  | zero => simp [stripZeros]
  | succ scale ih =>
    rw [stripZeros]
    split
    · next divides =>
      have shorter := (stripZeros_bounds (mantissa / 10) scale).2.1
      rw [show scale + 1 - (stripZeros (mantissa / 10) scale).2 =
        scale - (stripZeros (mantissa / 10) scale).2 + 1 by omega, pow_succ, ← mul_assoc, ih]
      omega
    · simp

/-- Zeros are stripped as long as there is one after the point. -/
theorem stripZeros_lowest (mantissa scale : ℕ) :
    (stripZeros mantissa scale).2 = 0 ∨ (stripZeros mantissa scale).1 % 10 ≠ 0 := by
  induction scale generalizing mantissa with
  | zero => exact Or.inl rfl
  | succ scale ih =>
    rw [stripZeros]
    split
    · exact ih (mantissa / 10)
    · next last => exact Or.inr last

theorem inLowestTerms_normalize (d : Decimal) : d.normalize.InLowestTerms :=
  stripZeros_lowest d.mantissa d.scale

/-- A number keeps its value in lowest terms. -/
@[simp] theorem value_normalize (d : Decimal) : d.normalize.value = d.value := by
  have shorter := (stripZeros_bounds d.mantissa d.scale).2.1
  have unit : (10 : ℚ) ^ d.scale = 10 ^ (stripZeros d.mantissa d.scale).2 *
      10 ^ (d.scale - (stripZeros d.mantissa d.scale).2) := by
    rw [← pow_add, Nat.add_sub_cancel' shorter]
  have digits : (d.mantissa : ℚ) = (stripZeros d.mantissa d.scale).1 *
      10 ^ (d.scale - (stripZeros d.mantissa d.scale).2) := by
    exact_mod_cast (stripZeros_mul_pow d.mantissa d.scale).symm
  rw [value, value, digits, unit, mul_div_mul_right _ _ (by positivity)]
  rfl

/-- The last digit after the point is the last digit of the mantissa. -/
theorem getLast?_fractionChars {d : Decimal} (fractional : d.scale ≠ 0) :
    d.fractionChars.getLast? = some (d.mantissa % 10).digitChar := by
  have long : d.scale + 1 ≤ d.digitChars.length := le_length_paddedDigits _ _
  have some : ¬d.digitChars.length ≤ d.digitChars.length - d.scale := by omega
  rw [fractionChars, List.getLast?_drop, if_neg some, digitChars, paddedDigits,
    List.getLast?_append, getLast?_toDigits, Option.some_or]

/-- The text of a number in lowest terms is as short as can be. -/
theorem shortest_text {d : Decimal} (lowest : d.InLowestTerms) : Text.Shortest d.text := by
  intro point
  rw [text, String.toList_ofList, chars_eq] at point ⊢
  by_cases integral : d.scale = 0
  -- without a scale there is no point
  · rw [if_pos integral, List.append_nil] at point
    have whole := d.isDigit_wholeChars '.'
    exfalso
    rcases List.mem_append.1 point with sign | digit
    · revert sign
      cases d.negative <;> simp
    · exact absurd (whole digit) (by decide)
  · have last := getLast?_fractionChars integral
    have nonzero := lowest.resolve_left integral
    rw [if_neg integral, List.getLast?_append, List.getLast?_cons, last]
    simpa using digitChar_ne_zero (Nat.mod_lt _ (by decide)) nonzero

/-- No number is written as a dash. -/
theorem text_ne_dash (d : Decimal) : d.text ≠ "-" := by
  intro dash
  have read := d.read?_text
  rw [dash] at read
  cases read

/-- The digits of a number stand for its absolute value. -/
theorem abs_value (d : Decimal) : |d.value| = d.mantissa / 10 ^ d.scale := by
  have nonneg : (0 : ℚ) ≤ d.mantissa / 10 ^ d.scale := by positivity
  rw [value, abs_mul, abs_of_nonneg nonneg]
  split <;> simp

/-- In lowest terms a number has no more digits after the point than any other decimal of its
value. -/
theorem InLowestTerms.scale_le {d other : Decimal} (lowest : d.InLowestTerms)
    (cross : d.mantissa * 10 ^ other.scale = other.mantissa * 10 ^ d.scale) :
    d.scale ≤ other.scale := by
  by_contra longer
  have last := lowest.resolve_left (by omega)
  obtain ⟨more, scale⟩ := Nat.exists_eq_add_of_lt (not_le.1 longer)
  rw [scale, show other.scale + more + 1 = more + 1 + other.scale by omega, pow_add,
    ← mul_assoc] at cross
  have digits := Nat.eq_of_mul_eq_mul_right (by positivity) cross
  rw [digits, pow_succ, ← mul_assoc, Nat.mul_mod_left] at last
  exact last rfl

/-- Of all decimals of one value, only one is in lowest terms. -/
theorem InLowestTerms.eq_of_value_eq {d other : Decimal} (lowest : d.InLowestTerms)
    (otherLowest : other.InLowestTerms) (same : d.value = other.value) : d = other := by
  have sign : d.negative = other.negative := by
    rw [Bool.eq_iff_iff, ← value_neg_iff, ← value_neg_iff, same]
  have cross : d.mantissa * 10 ^ other.scale = other.mantissa * 10 ^ d.scale := by
    have magnitude := congrArg abs same
    rw [abs_value, abs_value, div_eq_div_iff (by positivity) (by positivity)] at magnitude
    exact_mod_cast magnitude
  have scale : d.scale = other.scale :=
    le_antisymm (lowest.scale_le cross) (otherLowest.scale_le cross.symm)
  have mantissa : d.mantissa = other.mantissa := by
    rw [scale] at cross
    exact Nat.eq_of_mul_eq_mul_right (by positivity) cross
  cases d
  cases other
  cases sign
  cases scale
  cases mantissa
  rfl

end Decimal

end OrderPipeline
