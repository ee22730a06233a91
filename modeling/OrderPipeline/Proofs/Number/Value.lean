import OrderPipeline.Form.Field
import Mathlib.Data.Rat.Cast.Order
import Mathlib.Tactic.FieldSimp
import Mathlib.Tactic.Linarith
import Mathlib.Tactic.NormNum
import Mathlib.Tactic.Positivity

/-!
# The numbers that decimals stand for

`Decimal.value` is the rational number that a decimal stands for. A decimal has a sign just if its
value is below zero (`value_neg_iff`), and is taken for a whole number just if its value is one
(`toNat?_eq_some_iff`), so nothing that is decided about a decimal depends on how many zeros it has
after the point.
-/

namespace OrderPipeline.Decimal

/-- The number that a decimal stands for. -/
def value (d : Decimal) : ℚ :=
  (if d.negative then -1 else 1) * (d.mantissa / 10 ^ d.scale)

variable {d : Decimal} {n : ℕ}

theorem value_of_nonneg (unsigned : d.negative = false) :
    d.value = d.mantissa / 10 ^ d.scale := by
  simp [value, unsigned]

/-- A decimal is below zero just if it has a sign. -/
theorem value_neg_iff : d.value < 0 ↔ d.negative = true := by
  cases negative : d.negative with
  | true =>
    have nonzero : d.mantissa ≠ 0 := by
      intro zero
      rw [d.unsigned_zero zero] at negative
      cases negative
    have positive : (0 : ℚ) < d.mantissa / 10 ^ d.scale := by positivity
    simpa [value, negative] using positive
  | false =>
    have nonneg : (0 : ℚ) ≤ d.mantissa / 10 ^ d.scale := by positivity
    rw [value_of_nonneg negative]
    simpa using nonneg

/-- A decimal without a sign is a whole number just if its digits are those of the number, followed
by as many zeros as there are digits after the point. -/
theorem value_eq_natCast_iff (unsigned : d.negative = false) :
    d.value = n ↔ d.mantissa = n * 10 ^ d.scale := by
  have positive : (10 : ℚ) ^ d.scale ≠ 0 := by positivity
  rw [value_of_nonneg unsigned, div_eq_iff positive]
  exact_mod_cast Iff.rfl

/-- A decimal is taken for a whole number just if it is that number. -/
theorem toNat?_eq_some_iff : d.toNat? = some n ↔ d.value = n := by
  have unit : 0 < 10 ^ d.scale := by positivity
  cases negative : d.negative with
  | true =>
    have below : d.value < 0 := value_neg_iff.2 negative
    have none : d.toNat? = none := by simp [toNat?, negative]
    rw [none]
    constructor
    · exact nofun
    · intro same
      rw [same] at below
      exact absurd below (by simp)
  | false =>
    rw [value_eq_natCast_iff negative]
    constructor
    · intro whole
      simp only [toNat?, negative, Bool.false_or, Nat.pow_eq] at whole
      split at whole
      · cases whole
      · next exact =>
        have divides : d.mantissa % 10 ^ d.scale = 0 := by simpa using exact
        rw [← Option.some.inj whole, Nat.div_mul_cancel (Nat.dvd_of_mod_eq_zero divides)]
    · intro digits
      have divides : d.mantissa % 10 ^ d.scale = 0 := by rw [digits, Nat.mul_mod_left]
      have quotient : d.mantissa / 10 ^ d.scale = n := by rw [digits, Nat.mul_div_cancel n unit]
      simp [toNat?, negative, Nat.pow_eq, divides, quotient]

/-- A whole number stands for itself. -/
theorem value_of_ofParts? {built : Decimal} (parts : ofParts? false n 0 = some built) :
    built.value = n := by
  rw [ofParts?] at parts
  split at parts
  · cases parts
    simp [value]
  · cases parts

/-- A decimal is taken for a whole number of 64 bits just if it is that number and small enough. -/
theorem wholeWord?_eq_some_iff :
    ValueType.wholeWord? d = some n ↔ d.value = n ∧ n < Json.wordLimit := by
  rw [ValueType.wholeWord?, Option.filter_eq_some_iff, toNat?_eq_some_iff, decide_eq_true_iff]

end OrderPipeline.Decimal
