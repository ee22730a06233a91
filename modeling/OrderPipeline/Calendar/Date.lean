import OrderPipeline.Number.DecimalReader
import OrderPipeline.Text.Basic

/-!
# Dates

A `Date` is a day of the proleptic Gregorian calendar between the years -262143 and 262142; that
the day exists is a field of the type. Dates are written `YYYY-MM-DD`, with a sign and at least
four digits for a year outside `0…9999`, and read in two forms: as typed on a form, and as stored,
which allows blanks before each dash and at the end.
-/

namespace OrderPipeline

/-- Why a text is no date or time. -/
inductive CalendarFault where
  /-- A number is outside its range, or the day does not exist. -/
  | outOfRange
  /-- A character stands where another kind is needed. -/
  | invalid
  /-- The text ends too early. -/
  | tooShort
  /-- The text goes on after the end. -/
  | tooLong
  deriving DecidableEq

namespace CalendarFault

/-- What is said about a faulty text. -/
def message : CalendarFault → String
  | outOfRange => "input is out of range"
  | invalid => "input contains invalid characters"
  | tooShort => "premature end of input"
  | tooLong => "trailing input"

end CalendarFault

/-- A reader of the beginning of a text: what was read and what is left. -/
abbrev CalendarReader (α : Type) := List Char → Except CalendarFault (α × List Char)

/-- Whether a year is a leap year. -/
def isLeapYear (year : Int) : Bool :=
  year % 4 == 0 && (year % 100 != 0 || year % 400 == 0)

/-- How many days a month has. -/
def daysInMonth (year : Int) (month : Nat) : Nat :=
  if month = 2 then (if isLeapYear year then 29 else 28)
  else if month = 4 ∨ month = 6 ∨ month = 9 ∨ month = 11 then 30
  else 31

/-- Whether a year, month and day name a day of the calendar. -/
def isCalendarDay (year : Int) (month day : Nat) : Bool :=
  decide (-262143 ≤ year) && decide (year ≤ 262142) && decide (1 ≤ month) && decide (month ≤ 12) &&
    decide (1 ≤ day) && decide (day ≤ daysInMonth year month)

/-- A day of the calendar. -/
structure Date where
  /-- The year, counted astronomically. -/
  year : Int
  /-- The month, from one. -/
  month : Nat
  /-- The day of the month, from one. -/
  day : Nat
  /-- The day exists. -/
  exists_day : isCalendarDay year month day = true
  deriving DecidableEq

/-- The digits of a number, with zeros in front up to a width. -/
def paddedDigits (width n : Nat) : List Char :=
  let digits := Nat.toDigits 10 n
  List.replicate (width - digits.length) '0' ++ digits

/-- Reads between `least` and `most` decimal digits. -/
def readNumber (least most : Nat) : CalendarReader Nat := fun cs =>
  let found := (cs.takeWhile fun c => (digit? c).isSome).take most
  if found.length < least then
    .error (if cs.length < least then .tooShort else .invalid)
  else .ok ((digits? found).getD 0, cs.drop found.length)

/-- Reads one given character. -/
def readMark (mark : Char) : CalendarReader Unit
  | [] => .error .tooShort
  | c :: rest => if c = mark then .ok ((), rest) else .error .invalid

namespace Date

/-- The day named by a year, a month and a day, if there is one. -/
def of? (year : Int) (month day : Nat) : Option Date :=
  if h : isCalendarDay year month day = true then some ⟨year, month, day, h⟩ else none

/-- The first day of 1970. -/
def epoch : Date := ⟨1970, 1, 1, by decide⟩

instance : Inhabited Date := ⟨epoch⟩

/-- The day after, if the calendar goes on. -/
def next? (date : Date) : Option Date :=
  (of? date.year date.month (date.day + 1)).or <|
    (of? date.year (date.month + 1) 1).or <| of? (date.year + 1) 1 1

/-- The day before, if the calendar reaches back. -/
def previous? (date : Date) : Option Date :=
  if 1 < date.day then of? date.year date.month (date.day - 1)
  else if 1 < date.month then
    of? date.year (date.month - 1) (daysInMonth date.year (date.month - 1))
  else of? (date.year - 1) 12 31

/-- The day a number of days later. -/
def later? (date : Date) : Nat → Option Date
  | 0 => some date
  | days + 1 => date.next? >>= fun following => following.later? days

/-- The day a number of days earlier. -/
def earlier? (date : Date) : Nat → Option Date
  | 0 => some date
  | days + 1 => date.previous? >>= fun preceding => preceding.earlier? days

/-- The day some days later, or earlier for a negative number. -/
def addDays? (date : Date) (days : Int) : Option Date :=
  if 0 ≤ days then date.later? days.toNat else date.earlier? (-days).toNat

/-- A year of four digits, or with a sign outside `0…9999`. -/
def yearChars (year : Int) : List Char :=
  if 0 ≤ year ∧ year ≤ 9999 then paddedDigits 4 year.toNat
  else (if year < 0 then '-' else '+') :: paddedDigits 4 year.natAbs

/-- The characters of a date. -/
def chars (date : Date) : List Char :=
  yearChars date.year ++ '-' :: paddedDigits 2 date.month ++ '-' :: paddedDigits 2 date.day

/-- The text of a date. -/
def text (date : Date) : String := String.ofList date.chars

/-- Reads a year: any number of digits after a sign, at most four without. -/
def readYear : CalendarReader Int := fun cs =>
  match Text.dropBlank cs with
  | '-' :: rest => do
    let (year, rest) ← readNumber 1 rest.length rest
    return (-(year : Int), rest)
  | '+' :: rest => do
    let (year, rest) ← readNumber 1 rest.length rest
    return (year, rest)
  | rest => do
    let (year, rest) ← readNumber 1 4 rest
    return (year, rest)

/-- Reads a number of one or two digits after blanks and checks its range. -/
def readPart (least most : Nat) : CalendarReader Nat := fun cs => do
  let (value, rest) ← readNumber 1 2 (Text.dropBlank cs)
  if least ≤ value ∧ value ≤ most then return (value, rest) else throw .outOfRange

/-- Reads a date, passing over what `gap` drops before each dash. -/
def readWith (gap : List Char → List Char) : CalendarReader Date := fun cs => do
  let (year, rest) ← readYear cs
  let (_, rest) ← readMark '-' (gap rest)
  let (month, rest) ← readPart 1 12 rest
  let (_, rest) ← readMark '-' (gap rest)
  let (day, rest) ← readPart 1 31 rest
  match of? year month day with
  | some date => return (date, rest)
  | none => throw .outOfRange

/-- Reads a whole text as a date, where `gap` tells which characters may stand before a dash and
at the end. -/
def readAll (gap : List Char → List Char) (text : String) : Except CalendarFault Date := do
  let (date, rest) ← readWith gap text.toList
  if (gap rest).isEmpty then return date else throw .tooLong

/-- The date typed on a form. -/
def ofTyped (text : String) : Except CalendarFault Date := readAll id text

/-- The date stored in a record. -/
def ofStored (text : String) : Except CalendarFault Date := readAll Text.dropBlank text

end Date

end OrderPipeline
