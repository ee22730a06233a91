import OrderPipeline.Calendar.Instant
import OrderPipeline.Proofs.Number.Digits

/-!
# Written dates and instants

Reading the text of a date or an instant as it is stored gives the date or instant back, whatever
its year (`Date.ofStored_text`) and also in a leap second (`Instant.ofStored_text`). Each part is
padded to the width that its reader takes, and no part begins with a blank.
-/

namespace OrderPipeline

/-- A character that is no blank stops the dropping of blanks. -/
theorem Text.dropBlank_cons {c : Char} (solid : isBlank c = false) (cs : List Char) :
    dropBlank (c :: cs) = c :: cs := by
  rw [dropBlank, List.dropWhile_cons, solid]
  rfl

/-- No digit is a blank. -/
theorem Text.isBlank_of_isDigit {c : Char} (digit : c.isDigit = true) : isBlank c = false := by
  have low : 48 ≤ c.toNat := (Char.isDigit_iff_toNat.1 digit).1
  have high : c.toNat ≤ 57 := (Char.isDigit_iff_toNat.1 digit).2
  simp only [isBlank, Bool.or_eq_false_iff, Bool.and_eq_false_iff, decide_eq_false_iff_not,
    beq_eq_false_iff_ne, ne_eq]
  omega

/-- Digits are not dropped as blanks. -/
theorem Text.dropBlank_digits {ds : List Char} (digits : ∀ c ∈ ds, c.isDigit = true)
    (nonempty : ds ≠ []) (rest : List Char) : dropBlank (ds ++ rest) = ds ++ rest := by
  cases ds with
  | nil => exact absurd rfl nonempty
  | cons c ds => exact dropBlank_cons (isBlank_of_isDigit (digits c List.mem_cons_self)) _

/-- Digits are read as a number when there are enough of them, and all of them are taken. -/
theorem readNumber_append {ds rest : List Char} {least most : Nat}
    (digits : ∀ c ∈ ds, c.isDigit = true) (nonempty : ds ≠ []) (enough : least ≤ ds.length)
    (fits : ds.length ≤ most) (ends : ds.length = most ∨ NoDigit rest) :
    readNumber least most (ds ++ rest) = .ok (Nat.ofDigitChars 10 ds 0, rest) := by
  have found : ((ds ++ rest).takeWhile fun c => (digit? c).isSome).take most = ds := by
    -- the reader stops at its width or at the first character that is no digit
    rcases ends with full | ends
    · rw [List.takeWhile_append_of_pos (by simpa using digits), ← full, List.take_left]
    · rw [takeWhile_digits digits ends, List.take_of_length_le fits]
  have value := digits?_eq digits nonempty
  simp only [readNumber, found, if_neg (Nat.not_lt.2 enough), value, Option.getD_some,
    List.drop_left]

/-- A padded number is read as itself by a reader of just its width. -/
theorem readNumber_paddedDigits {width n least : Nat} (positive : 0 < width)
    (fits : n < Nat.pow 10 width) (enough : least ≤ width) (rest : List Char) :
    readNumber least width (paddedDigits width n ++ rest) = .ok (n, rest) := by
  have long : (paddedDigits width n).length = width := length_paddedDigits positive fits
  rw [readNumber_append (isDigit_paddedDigits width n) (paddedDigits_ne_nil width n)
    (by rw [long]; exact enough) (by rw [long]) (Or.inl long), ofDigitChars_paddedDigits]

/-- The mark that is asked for is read. -/
@[simp] theorem readMark_cons (mark : Char) (rest : List Char) :
    readMark mark (mark :: rest) = .ok ((), rest) := if_pos rfl

namespace Date

/-- A number of two digits is read when it is in range. -/
theorem readPart_paddedDigits {least most n : Nat} (low : least ≤ n) (high : n ≤ most)
    (fits : n < 100) (rest : List Char) :
    readPart least most (paddedDigits 2 n ++ rest) = .ok (n, rest) := by
  rw [readPart, Text.dropBlank_digits (isDigit_paddedDigits 2 n) (paddedDigits_ne_nil 2 n),
    readNumber_paddedDigits (by decide) fits (by decide)]
  simp only [bind, Except.bind, if_pos (And.intro low high)]
  rfl

/-- A year is read as itself, up to the dash after it. -/
theorem readYear_yearChars (year : Int) (rest : List Char) :
    readYear (yearChars year ++ '-' :: rest) = .ok (year, '-' :: rest) := by
  have dash : NoDigit ('-' :: rest) := NoDigit.cons (by decide) rest
  by_cases plain : 0 ≤ year ∧ year ≤ 9999
  -- without a sign the reader takes four digits, and that is what is written
  · have digits := isDigit_paddedDigits 4 year.toNat
    obtain ⟨c, others, split⟩ := List.exists_cons_of_ne_nil (paddedDigits_ne_nil 4 year.toNat)
    have digit : c.isDigit = true := digits c (by rw [split]; simp)
    have minus : c ≠ '-' := ne_of_isDigit digit (by decide)
    have plus : c ≠ '+' := ne_of_isDigit digit (by decide)
    have read := readNumber_paddedDigits (show 0 < 4 by decide)
      (show year.toNat < 10 ^ 4 by omega) (show 1 ≤ 4 by decide) ('-' :: rest)
    rw [readYear, yearChars, if_pos plain,
      Text.dropBlank_digits digits (paddedDigits_ne_nil 4 year.toNat)]
    rw [split, List.cons_append] at read ⊢
    simp [minus, plus, read, bind, Except.bind, pure, Except.pure, Int.toNat_of_nonneg plain.1]
  -- with one it takes all digits that there are, up to the dash
  · have long : 1 ≤ (paddedDigits 4 year.natAbs).length :=
      Nat.le_trans (by decide) (le_length_paddedDigits 4 year.natAbs)
    have within : (paddedDigits 4 year.natAbs).length ≤
        (paddedDigits 4 year.natAbs ++ '-' :: rest).length := by
      rw [List.length_append]
      omega
    have read := readNumber_append (isDigit_paddedDigits 4 year.natAbs)
      (paddedDigits_ne_nil 4 year.natAbs) long within (Or.inr dash)
    rw [readYear, yearChars, if_neg plain, List.cons_append]
    by_cases negative : year < 0
    · have value : -(year.natAbs : Int) = year := by omega
      rw [if_pos negative, Text.dropBlank_cons (by decide)]
      simp only [read, bind, Except.bind, pure, Except.pure, ofDigitChars_paddedDigits, value]
    · have value : (year.natAbs : Int) = year := by omega
      rw [if_neg negative, Text.dropBlank_cons (by decide)]
      simp only [read, bind, Except.bind, pure, Except.pure, ofDigitChars_paddedDigits, value]

/-- The parts of a date are in the ranges of its reader. -/
theorem ranges (date : Date) :
    (1 ≤ date.month ∧ date.month ≤ 12) ∧ 1 ≤ date.day ∧ date.day ≤ 31 := by
  have exists_day := date.exists_day
  simp only [isCalendarDay, Bool.and_eq_true, decide_eq_true_iff] at exists_day
  obtain ⟨⟨⟨⟨-, monthLow⟩, monthHigh⟩, dayLow⟩, dayHigh⟩ := exists_day
  have longest : daysInMonth date.year date.month ≤ 31 := by
    rw [daysInMonth]
    split
    · split <;> decide
    · split <;> decide
  exact ⟨⟨monthLow, monthHigh⟩, dayLow, Nat.le_trans dayHigh longest⟩

/-- A date is read from the text that begins with its characters. -/
theorem readWith_chars (date : Date) (rest : List Char) :
    readWith Text.dropBlank (date.chars ++ rest) = .ok (date, rest) := by
  obtain ⟨⟨monthLow, monthHigh⟩, dayLow, dayHigh⟩ := date.ranges
  have dash : ∀ cs, Text.dropBlank ('-' :: cs) = '-' :: cs := Text.dropBlank_cons (by decide)
  have month := fun cs => readPart_paddedDigits monthLow monthHigh (by omega) cs
  have day := fun cs => readPart_paddedDigits dayLow dayHigh (by omega) cs
  have known : of? date.year date.month date.day = some date := dif_pos date.exists_day
  simp only [chars, List.append_assoc, List.cons_append, readWith, readYear_yearChars, dash,
    readMark_cons, month, day, known, bind, Except.bind, pure, Except.pure]

/-- A stored date is read as itself. -/
@[simp] theorem ofStored_text (date : Date) : ofStored date.text = .ok date := by
  have read := date.readWith_chars []
  rw [List.append_nil] at read
  simp [ofStored, readAll, text, read, bind, Except.bind, pure, Except.pure]

end Date

namespace Instant

/-- A fraction of a second is read as itself, up to the letter after it. -/
theorem readFraction_fractionChars {nanos : Nat} (small : nanos < 1000000000) (rest : List Char) :
    readFraction (fractionChars nanos ++ 'Z' :: rest) = .ok (nanos, 'Z' :: rest) := by
  have letter : NoDigit ('Z' :: rest) := NoDigit.cons (by decide) rest
  -- a fraction of some width is read digit by digit and scaled up to nanoseconds
  have digitsOf : ∀ {width value : Nat}, 0 < width → width ≤ 9 → value < 10 ^ width →
      readFraction ('.' :: paddedDigits width value ++ 'Z' :: rest) =
        .ok (value * 10 ^ (9 - width), 'Z' :: rest) := by
    intro width value positive short fits
    have long : (paddedDigits width value).length = width := length_paddedDigits positive fits
    have digits := isDigit_paddedDigits width value
    have read : readNumber 1 9 (paddedDigits width value ++ 'Z' :: rest) =
        .ok (value, 'Z' :: rest) := by
      rw [readNumber_append digits (paddedDigits_ne_nil width value) (by rw [long]; exact positive)
        (by rw [long]; exact short) (Or.inr letter), ofDigitChars_paddedDigits]
    simp only [readFraction, List.cons_append, read, takeWhile_digits digits letter, long,
      List.drop_left' long, bind, Except.bind, pure, Except.pure, Nat.pow_eq]
  -- no fraction, or as many digits as milliseconds, microseconds or nanoseconds need
  rw [fractionChars]
  split
  · next zero =>
    rw [zero]
    rfl
  · split
    · next millis =>
      rw [digitsOf (by decide) (by decide) (by omega)]
      have value : nanos / 1000000 * 10 ^ (9 - 3) = nanos := by omega
      rw [value]
    · split
      · next micros =>
        rw [digitsOf (by decide) (by decide) (by omega)]
        have value : nanos / 1000 * 10 ^ (9 - 6) = nanos := by omega
        rw [value]
      · rw [digitsOf (by decide) (by decide) (by omega)]
        simp

/-- A stored instant is read as itself. -/
@[simp] theorem ofStored_text (instant : Instant) : ofStored instant.text = .ok instant := by
  have in_range := instant.in_range
  simp only [isTimeOfDay, Bool.and_eq_true, decide_eq_true_iff] at in_range
  obtain ⟨⟨⟨hours, minutes⟩, seconds⟩, nanos⟩ := in_range
  have colon : ∀ cs, Text.dropBlank (':' :: cs) = ':' :: cs := Text.dropBlank_cons (by decide)
  have hour := fun cs => Date.readPart_paddedDigits (Nat.zero_le _)
    (show instant.hour ≤ 23 by omega) (by omega) cs
  have minute := fun cs => Date.readPart_paddedDigits (Nat.zero_le _)
    (show instant.minute ≤ 59 by omega) (by omega) cs
  have second := fun cs => Date.readPart_paddedDigits (Nat.zero_le _) seconds (by omega) cs
  have letter : Text.dropBlank ['Z'] = ['Z'] := Text.dropBlank_cons (by decide) []
  have offset : readOffset ['Z'] = .ok (0, []) := by decide
  -- at the offset of `Z` the minutes of the day are taken apart as they were put together
  have place : atOffset? instant.date instant.hour instant.minute instant.second instant.nanos 0 =
      some instant := by
    have before : ¬(instant.hour : Int) * 60 + instant.minute - 0 < 0 := by omega
    have after : ¬(1440 : Int) ≤ instant.hour * 60 + instant.minute - 0 := by omega
    have inDay : (((instant.hour : Int) * 60 + instant.minute - 0) % 1440).toNat =
        instant.hour * 60 + instant.minute := by omega
    have hour : (instant.hour * 60 + instant.minute) / 60 = instant.hour := by omega
    have minute : (instant.hour * 60 + instant.minute) % 60 = instant.minute := by omega
    simp only [atOffset?, if_neg before, if_neg after, inDay, hour, minute, bind, Option.bind]
    exact dif_pos instant.in_range
  simp only [ofStored, text, String.toList_ofList, chars, secondChars, minuteChars,
    List.append_assoc, List.cons_append, Date.readWith_chars, hour, readMark_cons, minute, second,
    colon, readFraction_fractionChars nanos, letter, offset, place, bind, Except.bind, pure,
    Except.pure]
  rfl

end Instant

end OrderPipeline
