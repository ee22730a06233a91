import OrderPipeline.Dashboard
import OrderPipeline.Proofs.Number.Sum
import Mathlib.Algebra.BigOperators.Group.List.Basic
import Mathlib.Algebra.Order.BigOperators.Group.List

/-!
# The revenue on the dashboard

The revenue is the sum of all quoted amounts, taken order by order. A sum that does not fit is
rounded on the way, at different places for different orders of the list. For amounts that are not
below zero the sum never falls all the same (`le_value_foldl_add`), and it is exact, whatever the
order of the list, when the whole sum is in range (`value_foldl_add_of_fits`): the sums on the way
are smaller and need no more digits after the point.
-/

namespace OrderPipeline

/-! ## Sums of several amounts -/

namespace Decimal

/-- The largest number of digits after the point among some amounts. -/
def largestScale (amounts : List Decimal) : ℕ := (amounts.map scale).foldr Nat.max 0

/-- The mantissa of the exact sum of some amounts, written at the largest of their scales. -/
def sumMantissa (amounts : List Decimal) : ℤ :=
  (amounts.map fun amount => amount.coefficient (largestScale amounts)).sum

theorem scale_le_largestScale {amounts : List Decimal} {amount : Decimal}
    (member : amount ∈ amounts) : amount.scale ≤ largestScale amounts := by
  induction amounts with
  | nil => cases member
  | cons first rest ih =>
    rcases List.mem_cons.1 member with rfl | later
    · exact Nat.le_max_left _ _
    · exact (ih later).trans (Nat.le_max_right _ _)

theorem largestScale_le (amounts : List Decimal) : largestScale amounts ≤ scaleLimit := by
  induction amounts with
  | nil => exact Nat.zero_le _
  | cons first rest ih => exact Nat.max_le.2 ⟨first.scale_le, ih⟩

variable {amounts : List Decimal} {start : Decimal}

/-- Adding amounts that are not below zero does not lower a sum. -/
theorem le_value_foldl_add (nonneg : ∀ amount ∈ amounts, 0 ≤ amount.value) (start : Decimal) :
    start.value ≤ (amounts.foldl add start).value := by
  induction amounts generalizing start with
  | nil => exact le_rfl
  | cons first rest ih =>
    obtain ⟨nonneg, others⟩ := List.forall_mem_cons.1 nonneg
    exact (le_value_add (by linarith)).trans (ih others (start.add first))

/-- The sum of amounts that are not below zero is not below any of them. -/
theorem value_le_foldl_add (nonneg : ∀ amount ∈ amounts, 0 ≤ amount.value)
    (started : 0 ≤ start.value) {amount : Decimal} (member : amount ∈ amounts) :
    amount.value ≤ (amounts.foldl add start).value := by
  induction amounts generalizing start with
  | nil => cases member
  | cons first rest ih =>
    obtain ⟨nonneg, others⟩ := List.forall_mem_cons.1 nonneg
    rcases List.mem_cons.1 member with rfl | later
    · exact (le_value_add (by linarith)).trans (le_value_foldl_add others (start.add amount))
    · refine ih others ?_ later
      rw [← value_zero]
      exact le_value_add (by rw [value_zero]; linarith)

/-- An amount that is not below zero has no negative mantissa at any scale. -/
theorem coefficient_nonneg {amount : Decimal} (nonneg : 0 ≤ amount.value) (scale : ℕ) :
    0 ≤ amount.coefficient scale := by
  have unsigned : amount.negative = false :=
    Bool.eq_false_iff.2 fun negative => (value_neg_iff.2 negative).not_ge nonneg
  rw [coefficient, unsigned, if_neg Bool.false_ne_true]
  positivity

/-- The sum of amounts that are not below zero is exact when it is in range at a scale at which all
of them can be written. -/
theorem value_foldl_add_of_fits {scale : ℕ} (short : scale ≤ scaleLimit)
    (nonneg : ∀ amount ∈ amounts, 0 ≤ amount.value)
    (above : ∀ amount ∈ amounts, amount.scale ≤ scale) {n : ℤ} (started : 0 ≤ n)
    (starts : start.value = n / 10 ^ scale)
    (fits : n + (amounts.map fun amount => amount.coefficient scale).sum < mantissaLimit) :
    (amounts.foldl add start).value = start.value + (amounts.map value).sum := by
  -- on the amounts; the sum so far is `n` units of the scale, and none of the rest takes from it
  induction amounts generalizing start n with
  | nil => simp
  | cons first rest ih =>
    obtain ⟨nonneg, others⟩ := List.forall_mem_cons.1 nonneg
    obtain ⟨here, later⟩ := List.forall_mem_cons.1 above
    have added := coefficient_nonneg nonneg scale
    have left : 0 ≤ (rest.map fun amount => amount.coefficient scale).sum := by
      refine List.sum_nonneg fun c member => ?_
      obtain ⟨amount, among, rfl⟩ := List.mem_map.1 member
      exact coefficient_nonneg (others amount among) scale
    rw [List.map_cons, List.sum_cons] at fits
    have next : start.value + first.value = (n + first.coefficient scale : ℤ) / 10 ^ scale := by
      rw [starts, value_eq_coefficient here]
      push_cast
      ring
    -- the next sum is in range, since the rest can only add to it
    have exact := value_add_of_fits (by omega) short next
    rw [List.foldl_cons, List.map_cons, List.sum_cons,
      ih others later (add_nonneg started added) (exact.trans next) (by omega), exact, add_assoc]

end Decimal

/-! ## The revenue -/

namespace Dashboard

/-- The amounts that were quoted for some orders. -/
def quotedAmounts (items : List Item) : List Decimal := items.filterMap Item.quotationAmount

variable {items others : List Item}

/-- The revenue of orders in any sequence is the exact sum of their amounts when that is in
range. -/
theorem value_revenue_of_fits (nonneg : ∀ amount ∈ quotedAmounts items, 0 ≤ amount.value)
    (fits : Decimal.sumMantissa (quotedAmounts items) < mantissaLimit)
    (perm : others.Perm items) :
    (revenue others).value = ((quotedAmounts items).map Decimal.value).sum := by
  have amounts : (quotedAmounts others).Perm (quotedAmounts items) := perm.filterMap _
  have short := Decimal.largestScale_le (quotedAmounts items)
  rw [Decimal.sumMantissa, ← (amounts.map _).sum_eq, ← zero_add (List.sum _)] at fits
  have exact := Decimal.value_foldl_add_of_fits short
    (fun amount member => nonneg amount (amounts.subset member))
    (fun amount member => Decimal.scale_le_largestScale (amounts.subset member)) le_rfl
    (show Decimal.zero.value = (0 : ℤ) / 10 ^ _ by simp) fits
  rw [Decimal.value_zero, zero_add, (amounts.map _).sum_eq] at exact
  exact exact

/-- When no quoted amount is below zero, the revenue is not below any of them and does not fall
when an order is added. When the exact sum, written at the largest scale among the amounts, has a
mantissa in range, the revenue is that sum, in whatever sequence the orders stand. -/
theorem revenue_covers_quotations (tracker : Tracker) (today : Date)
    (nonneg : ∀ amount ∈ quotedAmounts tracker.items, 0 ≤ amount.value) :
    (∀ amount ∈ quotedAmounts tracker.items,
      amount.value ≤ (ofTracker tracker today).totalRevenue.value) ∧
    (∀ item : Item, (∀ amount ∈ item.quotationAmount, 0 ≤ amount.value) →
      (ofTracker tracker today).totalRevenue.value ≤
        (ofTracker { tracker with items := tracker.items ++ [item] } today).totalRevenue.value) ∧
    (Decimal.sumMantissa (quotedAmounts tracker.items) < mantissaLimit →
      (ofTracker tracker today).totalRevenue.value =
          ((quotedAmounts tracker.items).map Decimal.value).sum ∧
        ∀ items : List Item, items.Perm tracker.items →
          (ofTracker { tracker with items := items } today).totalRevenue.value =
            (ofTracker tracker today).totalRevenue.value) := by
  refine ⟨?_, ?_, ?_⟩
  · exact fun amount => Decimal.value_le_foldl_add nonneg Decimal.value_zero.ge
  · intro item added
    show (revenue tracker.items).value ≤ (revenue (tracker.items ++ [item])).value
    rw [revenue, revenue, List.filterMap_append, List.foldl_append]
    refine Decimal.le_value_foldl_add (fun amount member => added amount ?_) _
    simpa using member
  · intro fits
    have exact := value_revenue_of_fits nonneg fits (List.Perm.refl _)
    exact ⟨exact, fun items perm => (value_revenue_of_fits nonneg fits perm).trans exact.symm⟩

/-- An order for which an amount was quoted, or none. -/
def orderOver (id : String) (amount : Option Decimal) : Item where
  id := ⟨id⟩
  customerName := "Priya Patel"
  phone := "9000000002"
  siteLocation := "Delhi"
  quotationAmount := amount

/-- An order over `7922816251426433759354395033.1`, one over `0.4` and one without a quotation. -/
def brimful : Tracker where
  items :=
    [orderOver "LEAD-1"
        (some ⟨false, 79228162514264337593543950331, 1, by decide, by decide, by decide⟩),
      orderOver "LEAD-2" none,
      orderOver "LEAD-3" (some ⟨false, 4, 1, by decide, by decide, by decide⟩)]

/-- The exact sum has the largest mantissa that there is. It is the revenue, also of the orders in
the opposite sequence. -/
theorem revenue_covers_quotations_brimful :
    (∀ amount ∈ quotedAmounts brimful.items, 0 ≤ amount.value) ∧
      Decimal.sumMantissa (quotedAmounts brimful.items) = mantissaLimit - 1 ∧
      (ofTracker brimful Date.epoch).totalRevenue.value = 79228162514264337593543950335 / 10 ∧
      (ofTracker { brimful with items := brimful.items.reverse } Date.epoch).totalRevenue.value =
        79228162514264337593543950335 / 10 := by
  have nonneg : ∀ amount ∈ quotedAmounts brimful.items, 0 ≤ amount.value := by
    have unsigned : ∀ amount ∈ quotedAmounts brimful.items, amount.negative = false := by decide
    intro amount member
    rw [Decimal.value_of_nonneg (unsigned amount member)]
    positivity
  have mantissa : Decimal.sumMantissa (quotedAmounts brimful.items) = mantissaLimit - 1 := by
    decide
  have sum : ((quotedAmounts brimful.items).map Decimal.value).sum =
      79228162514264337593543950335 / 10 := by
    simp only [quotedAmounts, brimful, orderOver, List.filterMap_cons, List.filterMap_nil]
    norm_num [Decimal.value]
  obtain ⟨-, -, inRange⟩ := revenue_covers_quotations brimful Date.epoch nonneg
  obtain ⟨exact, alike⟩ := inRange (by rw [mantissa]; decide)
  rw [sum] at exact
  exact ⟨nonneg, mantissa, exact, (alike _ (List.reverse_perm _)).trans exact⟩

end Dashboard

end OrderPipeline
