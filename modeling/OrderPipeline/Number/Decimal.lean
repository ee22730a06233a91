import OrderPipeline.Number.Whole

/-!
# Decimal amounts

An amount of money is a signed mantissa below `2 ^ 96` over a power of ten with exponent at most
28. The scale is part of the value (`1.50` is not the same record as `1.5`), zero has no sign, and
both facts are fields of the type.

Addition and subtraction never fail: a result that does not fit is rounded at the largest scale at
which it does, and clamped to `Decimal.max` or `Decimal.min` when there is none.
-/

namespace OrderPipeline

/-- The first mantissa that is too large: `2 ^ 96`. -/
def mantissaLimit : Nat := 79228162514264337593543950336

/-- The largest number of digits after the point. -/
def scaleLimit : Nat := 28

/-- A decimal number `± mantissa / 10 ^ scale`. -/
structure Decimal where
  /-- Whether the number is below zero. -/
  negative : Bool
  /-- All digits of the number, read without the point. -/
  mantissa : Nat
  /-- How many of the digits stand after the point. -/
  scale : Nat
  /-- The mantissa has at most 96 bits. -/
  mantissa_lt : mantissa < mantissaLimit
  /-- There are at most 28 digits after the point. -/
  scale_le : scale ≤ scaleLimit
  /-- Zero has no sign. -/
  unsigned_zero : mantissa = 0 → negative = false
  deriving DecidableEq

namespace Decimal

/-- The decimal with a sign, mantissa and scale, if it is in range; the sign of a zero is
dropped. -/
def ofParts? (negative : Bool) (mantissa scale : Nat) : Option Decimal :=
  if h : mantissa < mantissaLimit ∧ scale ≤ scaleLimit then
    some ⟨negative && mantissa != 0, mantissa, scale, h.1, h.2, by
      intro zero
      simp [zero]⟩
  else none

/-- The whole number `n`, if its mantissa is in range. -/
def ofInt? (n : Int) : Option Decimal := ofParts? (decide (n < 0)) n.natAbs 0

/-- Zero, with no digit after the point. -/
def zero : Decimal := ⟨false, 0, 0, by decide, by decide, fun _ => rfl⟩

/-- The largest decimal. -/
def max : Decimal :=
  ⟨false, mantissaLimit - 1, 0, by decide, by decide, fun _ => rfl⟩

/-- The smallest decimal. -/
def min : Decimal :=
  ⟨true, mantissaLimit - 1, 0, by decide, by decide, fun h => absurd h (by decide)⟩

instance : Inhabited Decimal := ⟨zero⟩

/-- Whether the number is zero, at whatever scale. -/
def isZero (d : Decimal) : Bool := d.mantissa == 0

/-- The number with the opposite sign; zero stays as it is. -/
def neg (d : Decimal) : Decimal :=
  { d with
    negative := !d.negative && d.mantissa != 0
    unsigned_zero := by
      intro zero
      simp [zero] }

/-- The signed mantissa that the number has at a scale not below its own. -/
def coefficient (d : Decimal) (scale : Nat) : Int :=
  let magnitude : Int := d.mantissa * Nat.pow 10 (scale - d.scale)
  if d.negative then -magnitude else magnitude

/-- The decimal nearest to `± total / 10 ^ (scale + dropped)` at the largest scale, from `scale`
down, at which the mantissa fits, a tie going to the even neighbour; the extreme of that sign when
there is none. -/
def fit (negative : Bool) (total : Nat) : (scale dropped : Nat) → Decimal
  | scale, dropped =>
    match ofParts? negative (roundHalfEven total (Nat.pow 10 dropped)) scale with
    | some d => d
    | none =>
      match scale with
      | 0 => if negative then min else max
      | smaller + 1 => fit negative total smaller (dropped + 1)
termination_by scale => scale

/-- The sum: a zero on one side leaves the other side as it is; else the exact sum at the larger
scale, fitted into range. -/
def add (left right : Decimal) : Decimal :=
  if left.isZero then right
  else if right.isZero then left
  else
    let scale := Nat.max left.scale right.scale
    let total := left.coefficient scale + right.coefficient scale
    fit (decide (total < 0)) total.natAbs scale 0

/-- The difference, as the sum with the opposite number. -/
def sub (left right : Decimal) : Decimal := add left right.neg

/-- A mantissa and scale without trailing zeros after the point. -/
def stripZeros (mantissa : Nat) : (scale : Nat) → Nat × Nat
  | 0 => (mantissa, 0)
  | scale + 1 =>
    if mantissa % 10 = 0 then stripZeros (mantissa / 10) scale else (mantissa, scale + 1)

/-- Stripping makes neither the mantissa nor the scale larger, and gives zero only for zero. -/
theorem stripZeros_bounds (mantissa scale : Nat) :
    (stripZeros mantissa scale).1 ≤ mantissa ∧ (stripZeros mantissa scale).2 ≤ scale ∧
      ((stripZeros mantissa scale).1 = 0 → mantissa = 0) := by
  induction scale generalizing mantissa with
  | zero => simp [stripZeros]
  | succ scale ih =>
    unfold stripZeros
    split
    · have := ih (mantissa / 10)
      omega
    · simp

/-- The number without trailing zeros after the point. -/
def normalize (d : Decimal) : Decimal :=
  have bounds := stripZeros_bounds d.mantissa d.scale
  { negative := d.negative
    mantissa := (stripZeros d.mantissa d.scale).1
    scale := (stripZeros d.mantissa d.scale).2
    mantissa_lt := Nat.lt_of_le_of_lt bounds.1 d.mantissa_lt
    scale_le := Nat.le_trans bounds.2.1 d.scale_le
    unsigned_zero := fun h => d.unsigned_zero (bounds.2.2 h) }

/-- The number as a natural, if it is neither negative nor has a fraction other than zeros. -/
def toNat? (d : Decimal) : Option Nat :=
  if d.negative || d.mantissa % Nat.pow 10 d.scale != 0 then none
  else some (d.mantissa / Nat.pow 10 d.scale)

/-- The characters of the number: a sign, the whole digits, and after a point exactly as many
digits as the scale says. -/
def chars (d : Decimal) : List Char :=
  let digits := Nat.toDigits 10 d.mantissa
  let padded := List.replicate (d.scale + 1 - digits.length) '0' ++ digits
  let whole := padded.take (padded.length - d.scale)
  let fraction := padded.drop (padded.length - d.scale)
  (if d.negative then ['-'] else []) ++ whole ++
    (if d.scale = 0 then [] else '.' :: fraction)

/-- The text of the number. -/
def text (d : Decimal) : String := String.ofList d.chars

@[simp] theorem neg_mantissa (d : Decimal) : d.neg.mantissa = d.mantissa := rfl

@[simp] theorem neg_scale (d : Decimal) : d.neg.scale = d.scale := rfl

@[simp] theorem neg_neg (d : Decimal) : d.neg.neg = d := by
  obtain ⟨negative, mantissa, scale, h1, h2, h3⟩ := d
  by_cases zero : mantissa = 0
  · simp [neg, zero, h3 zero]
  · have nonzero : (mantissa != 0) = true := bne_iff_ne.2 zero
    simp [neg, nonzero]

end Decimal

end OrderPipeline
