import OrderPipeline.Number.Decimal

/-!
# Reading decimals

`Decimal.read?` reads plain notation (an optional sign, digits with at most one point, underscores
after the first digit) and, when that fails, scientific notation. Digits that do not fit after the
point are dropped, the first of them rounding the rest; digits that do not fit before it are an
error.
-/

namespace OrderPipeline

/-- The value of a character as a decimal digit. -/
def digit? (c : Char) : Option Nat :=
  if '0' ≤ c ∧ c ≤ '9' then some (c.toNat - '0'.toNat) else none

/-- The number written by a nonempty list of digits. -/
def digits? (cs : List Char) : Option Nat :=
  match cs with
  | [] => none
  | _ => cs.foldl (fun value c => do return (← value) * 10 + (← digit? c)) (some 0)

/-- The number written by digits after an optional plus sign. -/
def unsigned? : List Char → Option Nat
  | '+' :: rest => digits? rest
  | cs => digits? cs

namespace Decimal

/-- A mantissa and a scale as they are read. -/
abbrev Reading := Nat × Nat

/-- What is read when the digits from `rest` on are dropped: they must all be digits or
underscores, and a first one of five or more adds one to the mantissa. -/
def roundOff (mantissa scale : Nat) (rest : List Char) : Option Reading :=
  if rest.all fun c => (digit? c).isSome || c == '_' then
    let first := ((rest.head?.bind digit?).getD 0)
    let rounded := if 5 ≤ first then mantissa + 1 else mantissa
    if rounded < mantissaLimit then some (rounded, scale)
    else
      match scale with
      | 0 => none
      | smaller + 1 => some ((rounded + 4) / 10, smaller)
  else none

/-- Reads the digits of a number; `point` tells whether the point has been passed and `started`
whether a digit has been read. -/
def readDigits (mantissa scale : Nat) (point started : Bool) : List Char → Option Reading
  | [] => if started then some (mantissa, scale) else none
  | c :: rest =>
    match digit? c with
    | some digit =>
      let longer := mantissa * 10 + digit
      if longer < mantissaLimit ∧ (point = false ∨ scale < scaleLimit) then
        readDigits longer (if point then scale + 1 else scale) point true rest
      else if point then roundOff mantissa scale (c :: rest)
      else none
    | none =>
      if c = '.' ∧ point = false then readDigits mantissa scale true started rest
      else if c = '_' ∧ started = true then readDigits mantissa scale point started rest
      else none

/-- Reads plain notation. -/
def readPlain? (cs : List Char) : Option Decimal :=
  let (negative, rest) := match cs with
    | '-' :: rest => (true, rest)
    | '+' :: rest => (false, rest)
    | _ => (false, cs)
  match readDigits 0 0 false false rest with
  | some (mantissa, scale) => ofParts? negative mantissa scale
  | none => none

/-- Divides a number by `10 ^ exponent`: the scale grows, and digits past the last place are
first rounded away, a half going away from zero. -/
def shrink? (d : Decimal) (exponent : Nat) : Option Decimal :=
  if d.scale + exponent ≤ scaleLimit then
    ofParts? d.negative d.mantissa (d.scale + exponent)
  else
    let unit := Nat.pow 10 (d.scale + exponent - scaleLimit)
    ofParts? d.negative (roundHalfUp d.mantissa unit) scaleLimit

/-- Multiplies a number by `10 ^ exponent`: the scale shrinks, and digits are added past it. -/
def grow? (d : Decimal) (exponent : Nat) : Option Decimal :=
  if exponent ≤ d.scale then ofParts? d.negative d.mantissa (d.scale - exponent)
  else ofParts? d.negative (d.mantissa * Nat.pow 10 (exponent - d.scale)) 0

/-- Reads scientific notation: a plain number, the letter `e` in either case, and an exponent of
at most 28 in either direction. -/
def readScientific? (cs : List Char) : Option Decimal :=
  let isMark := fun c => c == 'e' || c == 'E'
  match cs.dropWhile fun c => !isMark c with
  | [] => none
  | _ :: exponent => do
    let base ← readPlain? (cs.takeWhile fun c => !isMark c)
    match exponent with
    | '-' :: digits =>
      let size ← unsigned? digits
      if size ≤ scaleLimit then base.shrink? size else none
    | digits =>
      let size ← unsigned? digits
      if size ≤ scaleLimit then base.grow? size else none

/-- Reads a decimal in plain notation or else in scientific notation. -/
def read? (text : String) : Option Decimal :=
  (readPlain? text.toList).or (readScientific? text.toList)

end Decimal

end OrderPipeline
