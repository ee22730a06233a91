/-!
# Whole numbers

The integer nearest to a quotient of naturals, with the two ways a tie can go. Both results lie
within half a unit of the quotient (`roundHalfEven_le`, `le_roundHalfEven`).

A whole number is read before it is known whether it fits where it has to go. `below?` gives the
number as a member of `Fin limit`, exactly when it is one (`below?_eq_some_iff`).
-/

namespace OrderPipeline

/-! ## Rounded quotients -/

/-- The integer nearest to `total / unit`; a tie goes to the even neighbour. -/
def roundHalfEven (total unit : Nat) : Nat :=
  let quotient := total / unit
  let rest := total % unit
  if unit < 2 * rest ∨ (2 * rest = unit ∧ quotient % 2 = 1) then quotient + 1 else quotient

/-- The integer nearest to `total / unit`; a tie goes up. -/
def roundHalfUp (total unit : Nat) : Nat :=
  let quotient := total / unit
  if unit ≤ 2 * (total % unit) then quotient + 1 else quotient

@[simp] theorem roundHalfEven_one (total : Nat) : roundHalfEven total 1 = total := by
  simp [roundHalfEven, Nat.mod_one]

/-- The rounded quotient exceeds the exact one by at most half a unit. -/
theorem roundHalfEven_le (total unit : Nat) (positive : 0 < unit) :
    2 * (unit * roundHalfEven total unit) ≤ 2 * total + unit := by
  have split := Nat.div_add_mod total unit
  have small := Nat.mod_lt total positive
  simp only [roundHalfEven]
  split
  · rw [Nat.mul_add]
    omega
  · omega

/-- The rounded quotient falls short of the exact one by at most half a unit. -/
theorem le_roundHalfEven (total unit : Nat) (positive : 0 < unit) :
    2 * total ≤ 2 * (unit * roundHalfEven total unit) + unit := by
  have split := Nat.div_add_mod total unit
  have small := Nat.mod_lt total positive
  simp only [roundHalfEven]
  split
  · rw [Nat.mul_add]
    omega
  · omega

/-! ## Limits -/

/-- A whole number as a natural below a limit, if it is one. -/
def below? (limit : Nat) (n : Int) : Option (Fin limit) :=
  if h : n.toNat < limit ∧ 0 ≤ n then some ⟨n.toNat, h.1⟩ else none

/-- The natural that is given is the number itself. -/
theorem below?_eq_some_iff {limit : Nat} {n : Int} {small : Fin limit} :
    below? limit n = some small ↔ (small.val : Int) = n := by
  have bound := small.isLt
  simp only [below?]
  split <;> rename_i h
  · simp only [Option.some.injEq, Fin.ext_iff]
    omega
  · simp only [reduceCtorEq, false_iff]
    omega

end OrderPipeline
