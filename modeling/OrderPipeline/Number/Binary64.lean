import OrderPipeline.Number.Whole

/-!
# Binary floating-point numbers of 64 bits

A finite double is `± mantissa * 2 ^ exponent` with a mantissa below `2 ^ 53`. All arithmetic is
exact on naturals and rounded once (`Binary64.ofRatio?`), so nothing here depends on a processor.

* `Binary64.ofScaled?` gives the double for a significand and a decimal exponent, by one rounding
  of the significand and one multiplication with, or division by, a rounded power of ten.
* `Binary64.chars` writes the fewest digits that read back as the same double, without exponent.
-/

namespace OrderPipeline

/-- A finite double `± mantissa * 2 ^ exponent`. -/
structure Binary64 where
  /-- Whether the sign bit is set; zero may carry it. -/
  negative : Bool
  /-- The significant bits. -/
  mantissa : Nat
  /-- The power of two that the last bit stands for. -/
  exponent : Int
  deriving DecidableEq

namespace Binary64

/-- The exponent of the smallest doubles. -/
def leastExponent : Int := -1074

/-- The exponent of the largest doubles. -/
def greatestExponent : Int := 971

/-- Zero without a sign. -/
def zero : Binary64 := ⟨false, 0, leastExponent⟩

/-- The magnitude as a numerator and a denominator. -/
def ratio (x : Binary64) : Nat × Nat :=
  (x.mantissa * Nat.pow 2 x.exponent.toNat, Nat.pow 2 (-x.exponent).toNat)

/-- The number with its sign bit turned over. -/
def neg (x : Binary64) : Binary64 := { x with negative := !x.negative }

/-- The quotient in units of `2 ^ exponent`, as a numerator and a denominator. -/
def inUnits (numerator denominator : Nat) (exponent : Int) : Nat × Nat :=
  (numerator * Nat.pow 2 (-exponent).toNat, denominator * Nat.pow 2 exponent.toNat)

/-- The double nearest to a positive quotient, a tie going to the even mantissa; `none` past the
largest double. -/
def ofRatio? (numerator denominator : Nat) : Option Binary64 :=
  if numerator = 0 then some zero
  else
    let estimate : Int := (numerator.log2 : Int) - denominator.log2 - 52
    let (top, bottom) := inUnits numerator denominator estimate
    let normal := if top < bottom * Nat.pow 2 52 then estimate - 1 else estimate
    let exponent := max normal leastExponent
    let (top, bottom) := inUnits numerator denominator exponent
    let mantissa := roundHalfEven top bottom
    let (mantissa, exponent) :=
      if mantissa = Nat.pow 2 53 then (Nat.pow 2 52, exponent + 1) else (mantissa, exponent)
    if exponent ≤ greatestExponent then some ⟨false, mantissa, exponent⟩ else none

/-- The product of two magnitudes. -/
def mul? (x y : Binary64) : Option Binary64 :=
  ofRatio? (x.ratio.1 * y.ratio.1) (x.ratio.2 * y.ratio.2)

/-- The quotient of two magnitudes. -/
def div? (x y : Binary64) : Option Binary64 :=
  ofRatio? (x.ratio.1 * y.ratio.2) (x.ratio.2 * y.ratio.1)

/-- The largest exponent of a power of ten that is a double. -/
def tenPowerLimit : Nat := 308

/-- The double nearest to a power of ten. -/
def tenPower? (power : Nat) : Option Binary64 := ofRatio? (Nat.pow 10 power) 1

/-- Multiplies a magnitude by a power of ten, one rounded power at a time. Past the powers that
are doubles it is divided by the greatest of them first, and `rounds` such divisions leave
nothing. -/
def scaleByTen? (x : Binary64) (exponent : Int) : (rounds : Nat) → Option Binary64
  | 0 => some zero
  | rounds + 1 =>
    if exponent.natAbs ≤ tenPowerLimit then do
      let power ← tenPower? exponent.natAbs
      if 0 ≤ exponent then x.mul? power else x.div? power
    else if x.mantissa = 0 then some x
    else if 0 ≤ exponent then none
    else do
      let smaller ← x.div? (← tenPower? tenPowerLimit)
      smaller.scaleByTen? (exponent + tenPowerLimit) rounds

/-- The double for `significand * 10 ^ exponent`, where the significand has at most 64 bits;
`none` past the largest double. -/
def ofScaled? (significand : Nat) (exponent : Int) : Option Binary64 := do
  (← ofRatio? significand 1).scaleByTen? exponent 4

/-- The greatest `k` with `10 ^ k ≤ numerator / denominator`, for a quotient below one found by
counting up to `fuel` places. -/
def leadingPlace (numerator denominator : Nat) (fuel : Nat) : Int :=
  if denominator ≤ numerator then (Nat.toDigits 10 (numerator / denominator)).length - 1
  else
    match fuel with
    | 0 => 0
    | fuel + 1 => leadingPlace (numerator * 10) denominator fuel - 1

/-- The quotient in units of `10 ^ place`, as a numerator and a denominator. -/
def inPlaces (numerator denominator : Nat) (place : Int) : Nat × Nat :=
  (numerator * Nat.pow 10 (-place).toNat, denominator * Nat.pow 10 place.toNat)

/-- The decimal with last digit at `place` that reads back as `x`, nearest to `x`, if there is
one. -/
def digitsAt? (x : Binary64) (place : Int) : Option Nat :=
  -- in quarters of the last bit: the number, and the ends of what rounds to it
  let quarters := 4 * x.mantissa
  let below := if x.mantissa = Nat.pow 2 52 ∧ leastExponent < x.exponent then 1 else 2
  let closed := x.mantissa % 2 = 0
  let unit := ratio ⟨false, 1, x.exponent - 2⟩
  let (top, bottom) := inPlaces unit.1 unit.2 place
  let reads := fun digits : Nat =>
    let low := (quarters - below) * top
    let high := (quarters + 2) * top
    let here := digits * bottom
    if closed then low ≤ here ∧ here ≤ high else low < here ∧ here < high
  let lower := quarters * top / bottom
  let upperIsNearer := bottom ≤ 2 * (quarters * top % bottom)
  if reads (lower + 1) ∧ (upperIsNearer ∨ ¬ reads lower) then some (lower + 1)
  else if reads lower then some lower
  else none

/-- The fewest digits that read back as `x`, tried from `count` digits up, with the place of the
last one. -/
def shortestFrom (x : Binary64) (leading : Int) (count : Nat) : (fuel : Nat) → Nat × Int
  | 0 => (0, 0)
  | fuel + 1 =>
    let place := leading + 1 - count
    match x.digitsAt? place with
    | some digits => if digits = Nat.pow 10 count then (1, leading + 1) else (digits, place)
    | none => x.shortestFrom leading (count + 1) fuel

/-- The fewest digits that read back as `x`, with the place of the last one. -/
def shortest (x : Binary64) : Nat × Int :=
  if x.mantissa = 0 then (0, 0)
  else x.shortestFrom (leadingPlace x.ratio.1 x.ratio.2 400) 1 17

/-- The characters of the number: its shortest digits in positional notation. -/
def chars (x : Binary64) : List Char :=
  let (digits, place) := x.shortest
  let written := Nat.toDigits 10 digits
  let magnitude :=
    if 0 ≤ place then written ++ List.replicate place.toNat '0'
    else
      let fraction := (-place).toNat
      let padded := List.replicate (fraction + 1 - written.length) '0' ++ written
      padded.take (padded.length - fraction) ++ '.' :: padded.drop (padded.length - fraction)
  if x.negative then '-' :: magnitude else magnitude

end Binary64

end OrderPipeline
