import OrderPipeline.Calendar.Date

/-!
# Instants

An `Instant` is a moment in universal time with nanoseconds; a leap second is second 60 of its
minute. It is written `2024-01-05T09:00:00Z` with no, three, six or nine digits of fraction, the
fewest that are exact, and read with any offset from universal time.
-/

namespace OrderPipeline

/-- Whether the parts of a time of day are in range. -/
def isTimeOfDay (hour minute second nanos : Nat) : Bool :=
  decide (hour < 24) && decide (minute < 60) && decide (second ≤ 60) && decide (nanos < 1000000000)

/-- A moment in universal time. -/
structure Instant where
  /-- The day. -/
  date : Date
  /-- The hour of the day. -/
  hour : Nat
  /-- The minute of the hour. -/
  minute : Nat
  /-- The second of the minute; 60 in a leap second. -/
  second : Nat
  /-- The nanoseconds of the second. -/
  nanos : Nat
  /-- The parts are in range. -/
  in_range : isTimeOfDay hour minute second nanos = true
  deriving DecidableEq

namespace Instant

/-- The instant with the given parts, if they are in range. -/
def of? (date : Date) (hour minute second nanos : Nat) : Option Instant :=
  if h : isTimeOfDay hour minute second nanos = true then
    some ⟨date, hour, minute, second, nanos, h⟩
  else none

/-- The beginning of 1970. -/
def epoch : Instant := ⟨Date.epoch, 0, 0, 0, 0, by decide⟩

instance : Inhabited Instant := ⟨epoch⟩

/-- The parts in the order in which they decide which of two instants is earlier. -/
def parts (instant : Instant) : List Int :=
  [instant.date.year, instant.date.month, instant.date.day, instant.hour, instant.minute,
    instant.second, instant.nanos]

instance : LE Instant := ⟨fun earlier later => List.le earlier.parts later.parts⟩

/-- The instant a number of seconds after the beginning of 1970, not counting leap seconds. -/
def ofUnixSeconds? (seconds nanos : Nat) : Option Instant := do
  let date ← Date.epoch.later? (seconds / 86400)
  let inDay := seconds % 86400
  of? date (inDay / 3600) (inDay / 60 % 60) (inDay % 60) nanos

/-- The fraction of a second, in the fewest groups of three digits that are exact. -/
def fractionChars (nanos : Nat) : List Char :=
  if nanos = 0 then []
  else if nanos % 1000000 = 0 then '.' :: paddedDigits 3 (nanos / 1000000)
  else if nanos % 1000 = 0 then '.' :: paddedDigits 6 (nanos / 1000)
  else '.' :: paddedDigits 9 nanos

/-- Hour and minute with a colon between them. -/
def minuteChars (instant : Instant) : List Char :=
  paddedDigits 2 instant.hour ++ ':' :: paddedDigits 2 instant.minute

/-- Hour, minute and second with colons between them. -/
def secondChars (instant : Instant) : List Char :=
  instant.minuteChars ++ ':' :: paddedDigits 2 instant.second

/-- The characters of an instant as it is stored. -/
def chars (instant : Instant) : List Char :=
  instant.date.chars ++ 'T' :: instant.secondChars ++ fractionChars instant.nanos ++ ['Z']

/-- The text of an instant as it is stored. -/
def text (instant : Instant) : String := String.ofList instant.chars

/-- The text of an instant down to the minute, for a summary. -/
def minuteText (instant : Instant) : String :=
  String.ofList (instant.date.chars ++ ' ' :: instant.minuteChars)

/-- The text of an instant down to the second, for a list. -/
def secondText (instant : Instant) : String :=
  String.ofList (instant.date.chars ++ ' ' :: instant.secondChars)

/-- Reads the fraction of a second, if there is one: digits past the ninth are dropped. -/
def readFraction : CalendarReader Nat
  | '.' :: rest => do
    let digits := rest.takeWhile fun c => (digit? c).isSome
    let (value, _) ← readNumber 1 9 rest
    return (value * Nat.pow 10 (9 - digits.length), rest.drop digits.length)
  | cs => .ok (0, cs)

/-- Reads the two digits of an hour or minute of an offset. -/
def readPair : CalendarReader Nat
  | a :: b :: rest =>
    match digit? a, digit? b with
    | some tens, some ones => .ok (tens * 10 + ones, rest)
    | _, _ => .error .invalid
  | _ => .error .tooShort

/-- Reads the sign of an offset; the typographic minus counts as one. -/
def readSign : CalendarReader Bool
  | [] => .error .tooShort
  | c :: rest =>
    if c = '+' then .ok (false, rest)
    else if c = '-' ∨ c = Char.ofNat 0x2212 then .ok (true, rest)
    else .error .invalid

/-- Reads an offset from universal time in minutes: a `Z`, the letters `UTC`, or hours and
minutes after a sign. -/
def readOffset : CalendarReader Int := fun cs =>
  if (cs.take 3).map Char.toLower = ['u', 't', 'c'] then .ok (0, cs.drop 3)
  else if (cs.take 1).map Char.toLower = ['z'] then .ok (0, cs.drop 1)
  else do
    let (negative, rest) ← readSign cs
    let (hours, rest) ← readPair rest
    let (minutes, rest) ← readPair (rest.dropWhile fun c => c == ':' || Text.isBlank c)
    if 60 ≤ minutes then throw .outOfRange
    let offset : Int := hours * 60 + minutes
    return (if negative then -offset else offset, rest)

/-- The instant whose local reading at an offset in minutes is the given one. -/
def atOffset? (date : Date) (hour minute second nanos : Nat) (offset : Int) : Option Instant := do
  let shifted : Int := (hour : Int) * 60 + minute - offset
  let day ←
    if shifted < 0 then date.previous?
    else if 1440 ≤ shifted then date.next?
    else some date
  let inDay := (shifted % 1440).toNat
  of? day (inDay / 60) (inDay % 60) second nanos

/-- Reads an instant: a date, one of `T`, `t` and a blank, a time of day, and an offset. -/
def ofStored (text : String) : Except CalendarFault Instant := do
  let (date, rest) ← Date.readWith Text.dropBlank text.toList
  let rest ← match rest with
    | [] => throw .tooShort
    | c :: rest => if c = 'T' ∨ c = 't' ∨ c = ' ' then pure rest else throw .invalid
  let (hour, rest) ← Date.readPart 0 23 rest
  let (_, rest) ← readMark ':' (Text.dropBlank rest)
  let (minute, rest) ← Date.readPart 0 59 rest
  let (_, rest) ← readMark ':' (Text.dropBlank rest)
  let (second, rest) ← Date.readPart 0 60 rest
  let (nanos, rest) ← readFraction rest
  let (offset, rest) ← readOffset (Text.dropBlank rest)
  if !(Text.dropBlank rest).isEmpty then throw .tooLong
  if 1440 ≤ offset.natAbs then throw .outOfRange
  match atOffset? date hour minute second nanos offset with
  | some instant => return instant
  | none => throw .outOfRange

end Instant

end OrderPipeline
