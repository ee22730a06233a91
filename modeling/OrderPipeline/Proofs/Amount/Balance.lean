import OrderPipeline.Column
import OrderPipeline.Proofs.Number.LowestTerms
import OrderPipeline.Proofs.Number.Sum

/-!
# What is still to be paid

The balance of an order is the quoted amount less what was paid. The two may have different numbers
of digits after the point, so that the difference has to be rounded: the balance then still tells
whether anything is owed, never exceeds what was quoted, and does not grow with what is paid.
-/

namespace OrderPipeline.Item

/-- What was paid for an order; without a record of it that is nothing. -/
def paid (item : Item) : Decimal := item.attributes.paidAmount.getD Decimal.zero

/-- What can be said about what is left to be paid of a quoted amount. -/
structure Leaves (item : Item) (quoted left : Decimal) : Prop where
  /-- Nothing is left just if the quoted amount was paid. -/
  settled : left.value = 0 ↔ item.paid.value = quoted.value
  /-- The rest is below zero just if more than the quoted amount was paid. -/
  overpaid : left.value < 0 ↔ quoted.value < item.paid.value
  /-- What is owed lies between nothing and the quoted amount. -/
  owed : 0 ≤ item.paid.value → item.paid.value ≤ quoted.value →
    0 ≤ left.value ∧ left.value ≤ quoted.value
  /-- No more is left when more was paid. -/
  falling : ∀ other : Item, other.quotationAmount = some quoted →
    item.paid.value ≤ other.paid.value → ∃ rest, other.balance = some rest ∧ rest.value ≤ left.value
  /-- Nothing is rounded when the exact rest is in range at the larger of the two scales. -/
  exact : (quoted.coefficient (max quoted.scale item.paid.scale) -
      item.paid.coefficient (max quoted.scale item.paid.scale)).natAbs < mantissaLimit →
    left.value = quoted.value - item.paid.value

variable {item : Item} {quoted : Decimal}

theorem balance_of_quoted (given : item.quotationAmount = some quoted) :
    item.balance = some (quoted.sub item.paid) := by
  rw [balance, given]
  rfl

/-- What is left is the difference of the two amounts. -/
theorem leaves_sub (item : Item) (quoted : Decimal) :
    item.Leaves quoted (quoted.sub item.paid) := by
  have sign := Decimal.sign_value_sub quoted item.paid
  constructor
  -- rounding keeps the sign of the exact difference
  · rw [← sign_eq_zero_iff, sign, sign_eq_zero_iff, sub_eq_zero, eq_comm]
  · rw [← sign_eq_neg_one_iff, sign, sign_eq_neg_one_iff, sub_neg]
  · intro nonneg enough
    refine ⟨?_, Decimal.value_sub_le (by linarith)⟩
    rw [← sign_nonneg_iff, sign, sign_nonneg_iff]
    linarith
  · intro other given more
    exact ⟨_, balance_of_quoted given, Decimal.value_sub_mono (by linarith)⟩
  · intro fits
    have short : max quoted.scale item.paid.scale ≤ scaleLimit :=
      max_le quoted.scale_le item.paid.scale_le
    refine Decimal.value_sub_of_fits fits short ?_
    rw [Decimal.value_eq_coefficient (le_max_left _ _),
      Decimal.value_eq_coefficient (le_max_right _ _)]
    push_cast
    rw [sub_div]

-- half a unit paid of the largest amount leaves the even one of the two nearest decimals
example : (Decimal.max.sub ⟨false, 5, 1, by decide, by decide, by decide⟩).text =
    "79228162514264337593543950334" := by cbv

theorem cell_balance (item : Item) : item.cell "Balance" = amountCell item.balance := by
  rfl

/-- The column for the balance has a dash just for orders without a quoted amount. For all others
it shows what is left, in lowest terms. -/
theorem balance_is_what_is_left (item : Item) :
    (item.cell "Balance" = "-" ↔ item.quotationAmount = none) ∧
    ∀ quoted, item.quotationAmount = some quoted →
      ∃ left, item.balance = some left ∧ item.Leaves quoted left ∧
        ∃ shown : Decimal, item.cell "Balance" = shown.text ∧ shown.value = left.value ∧
          Text.Shortest shown.text := by
  constructor
  · rw [cell_balance]
    constructor
    · intro dash
      cases given : item.quotationAmount with
      | none => rfl
      | some quoted =>
        rw [balance_of_quoted given] at dash
        exact absurd dash (Decimal.text_ne_dash _)
    · intro none
      rw [balance, none]
      rfl
  · intro quoted given
    refine ⟨_, balance_of_quoted given, item.leaves_sub quoted,
      (quoted.sub item.paid).normalize, ?_, Decimal.value_normalize _, ?_⟩
    · rw [cell_balance, balance_of_quoted given]
      rfl
    · exact Decimal.shortest_text (Decimal.inLowestTerms_normalize _)

end OrderPipeline.Item
