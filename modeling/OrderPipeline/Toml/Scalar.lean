import OrderPipeline.Calendar.Instant
import OrderPipeline.Toml.Text
import OrderPipeline.Toml.Value

/-!
# Numbers and dates of configuration files

Whole numbers are written in the decimal system without leading zeros, or after `0x`, `0o` and `0b`
in other systems; underscores may part digits. They have to fit 64 bits. Dates and times have all
their digits and have to exist.
-/

namespace OrderPipeline.Toml

/-- Whether a character is a decimal digit. -/
def isDigit (c : Char) : Bool := (digit? c).isSome

/-- Reads digits after the first; an underscore stands only between two of them. -/
def readMoreDigits (isDigit : Char → Bool) : List Char → Option (List Char × List Char)
  | '_' :: c :: rest => if isDigit c then consChar c (readMoreDigits isDigit rest) else none
  | c :: rest =>
    if isDigit c then consChar c (readMoreDigits isDigit rest)
    else if c = '_' then none
    else some ([], c :: rest)
  | [] => some ([], [])

/-- Reads one or more digits. -/
def readDigits (isDigit : Char → Bool) : List Char → Option (List Char × List Char)
  | c :: rest => if isDigit c then consChar c (readMoreDigits isDigit rest) else none
  | [] => none

/-- Reads a decimal number without leading zeros. -/
def readWhole : List Char → Option (List Char × List Char)
  | '0' :: rest => some (['0'], rest)
  | cs => readDigits isDigit cs

/-- The number that digits write in a number system. -/
def numberOf (base : Nat) (digits : List Char) : Nat :=
  digits.foldl (fun value c => value * base + (Json.hexValue? c).getD 0) 0

/-- The whole number, if it fits 64 bits with its sign. -/
def integer? (negative : Bool) (magnitude : Nat) : Option Value :=
  if negative then
    if magnitude ≤ Nat.pow 2 63 then some (.integer (-magnitude)) else none
  else if magnitude < Nat.pow 2 63 then some (.integer magnitude)
  else none

/-- Reads a whole number in another number system after its letter. -/
def readInSystem (base : Nat) (cs : List Char) : Option (Value × List Char) := do
  let inSystem := fun c => (Json.hexValue? c).any fun value => decide (value < base)
  let (digits, rest) ← readDigits inSystem cs
  return (← integer? false (numberOf base digits), rest)

/-- Reads the exponent of a number after its letter, with its sign. -/
def readExponent (cs : List Char) : Option (Int × List Char) := do
  let (negative, cs) := match cs with
    | '-' :: rest => (true, rest)
    | '+' :: rest => (false, rest)
    | _ => (false, cs)
  let (digits, rest) ← readDigits isDigit cs
  let size : Int := numberOf 10 digits
  return (if negative then -size else size, rest)

/-- Whether `± mantissa · 10 ^ exponent` is too large for a double: it lies at least halfway between
the largest one and the next power of two. -/
def isTooLarge (mantissa : Nat) (exponent : Int) : Bool :=
  let places : Int := (Nat.toDigits 10 mantissa).length + exponent
  if mantissa = 0 ∨ places < 0 then false
  else if 400 < places then true
  else
    decide ((Nat.pow 2 1024 - Nat.pow 2 970) * Nat.pow 10 (-exponent).toNat ≤
      mantissa * Nat.pow 10 exponent.toNat)

/-- Reads a decimal number after its sign: a whole one, or one with a fraction or an exponent. -/
def readDecimal (negative : Bool) (cs : List Char) : Option (Value × List Char) := do
  let (whole, rest) ← readWhole cs
  let (fraction, rest) ← match rest with
    | '.' :: rest => readDigits isDigit rest
    | _ => some ([], rest)
  let (exponent, rest) ← match rest with
    | 'e' :: rest | 'E' :: rest => (readExponent rest).map fun (size, rest) => (some size, rest)
    | _ => some (none, rest)
  if fraction.isEmpty && exponent.isNone then return (← integer? negative (numberOf 10 whole), rest)
  let scale : Int := exponent.getD 0 - fraction.length
  if !negative && isTooLarge (numberOf 10 (whole ++ fraction)) scale then none
  return (.float, rest)

/-- Reads a number after its sign; infinity and the undefined number have names. -/
def readSigned (negative : Bool) : List Char → Option (Value × List Char)
  | 'i' :: 'n' :: 'f' :: rest => some (.float, rest)
  | 'n' :: 'a' :: 'n' :: rest => some (.float, rest)
  | cs => readDecimal negative cs

/-- Reads exactly two digits with a value up to `most`. -/
def readPair (most : Nat) : List Char → Option (Nat × List Char)
  | a :: b :: rest => do
    let value := (← digit? a) * 10 + (← digit? b)
    if value ≤ most then some (value, rest) else none
  | _ => none

/-- The text after a given character. -/
def after? (c : Char) : List Char → Option (List Char)
  | first :: rest => if first = c then some rest else none
  | [] => none

/-- The text after the fraction of a second, if there is one. -/
def skipFraction (cs : List Char) : List Char :=
  match cs with
  | '.' :: c :: rest => if isDigit c then rest.dropWhile isDigit else cs
  | _ => cs

/-- The text after a time of day. -/
def afterTime? (cs : List Char) : Option (List Char) := do
  let (_, rest) ← readPair 23 cs
  let (_, rest) ← readPair 59 (← after? ':' rest)
  let (_, rest) ← readPair 60 (← after? ':' rest)
  return skipFraction rest

/-- Whether a text begins like a time of day. -/
def beginsTime (cs : List Char) : Bool :=
  match readPair 23 cs with
  | some (_, ':' :: _) => true
  | _ => false

/-- The text after an offset from universal time, if there is one. -/
def afterOffset? (cs : List Char) : Option (List Char) :=
  match cs with
  | 'Z' :: rest | 'z' :: rest => some rest
  | '+' :: rest | '-' :: rest => do
    let (_, rest) ← readPair 23 rest
    let (_, rest) ← readPair 59 (← after? ':' rest)
    return rest
  | _ => some cs

/-- The text after a date, which has to exist, and after the time of day that may follow it. -/
def afterDate? (cs : List Char) : Option (List Char) := do
  let year ← digits? (cs.take 4)
  let (month, rest) ← readPair 12 (← after? '-' (cs.drop 4))
  let (day, rest) ← readPair 31 (← after? '-' rest)
  let _ ← Date.of? year month day
  match rest with
  | c :: time =>
    if (c == 'T' || c == 't' || c == ' ') && beginsTime time then afterOffset? (← afterTime? time)
    else some rest
  | [] => some []

/-- Whether a text begins like a date: with four digits and a dash. -/
def beginsDate (cs : List Char) : Bool :=
  (cs.take 4).length == 4 && (cs.take 4).all isDigit && (cs.drop 4).head? == some '-'

/-- Reads a truth value, a number, a date or a time. -/
def readScalar (cs : List Char) : Option (Value × List Char) :=
  if beginsDate cs then (afterDate? cs).map fun rest => (.datetime, rest)
  else if beginsTime cs then (afterTime? cs).map fun rest => (.datetime, rest)
  else
    match cs with
    | 't' :: 'r' :: 'u' :: 'e' :: rest => some (.boolean true, rest)
    | 'f' :: 'a' :: 'l' :: 's' :: 'e' :: rest => some (.boolean false, rest)
    | '0' :: 'x' :: rest => readInSystem 16 rest
    | '0' :: 'o' :: rest => readInSystem 8 rest
    | '0' :: 'b' :: rest => readInSystem 2 rest
    | '+' :: rest => readSigned false rest
    | '-' :: rest => readSigned true rest
    | _ => readSigned false cs

end OrderPipeline.Toml
