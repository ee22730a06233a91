import OrderPipeline.Proofs.Number.Digits

/-!
# Written decimals

Reading the text of a decimal gives the decimal back, its scale included (`read?_text`). The digits
of the text stand for the mantissa, and since no prefix of them stands for more, none is ever
dropped or rounded away.
-/

namespace OrderPipeline.Decimal

/-- Digits that fit are read as they stand, and counted once the point has been passed. -/
theorem readDigits_append {ds : List Char} (digits : ∀ c ∈ ds, c.isDigit = true)
    (nonempty : ds ≠ []) {mantissa scale : Nat} {point : Bool} (started : Bool)
    (fits : Nat.ofDigitChars 10 ds mantissa < mantissaLimit)
    (short : point = true → scale + ds.length ≤ scaleLimit) (rest : List Char) :
    readDigits mantissa scale point started (ds ++ rest) =
      readDigits (Nat.ofDigitChars 10 ds mantissa) (if point then scale + ds.length else scale)
        point true rest := by
  -- on the digits; the mantissa and the scale read so far are those that the rest begins with
  induction ds generalizing mantissa scale started with
  | nil => exact absurd rfl nonempty
  | cons c ds ih =>
    have digit : digit? c = some (c.toNat - '0'.toNat) :=
      digit?_of_isDigit (digits c List.mem_cons_self)
    rw [Nat.ofDigitChars_cons, Nat.mul_comm] at fits
    -- later digits only add to the mantissa, so a prefix fits when the whole does
    have small : mantissa * 10 + (c.toNat - '0'.toNat) < mantissaLimit :=
      Nat.lt_of_le_of_lt (le_ofDigitChars ds _) fits
    have room : point = false ∨ scale < scaleLimit := by
      cases point with
      | false => exact Or.inl rfl
      | true =>
        have := short rfl
        rw [List.length_cons] at this
        exact Or.inr (by omega)
    rw [List.cons_append, readDigits, digit]
    simp only [if_pos (And.intro small room)]
    -- `ih` does not speak of no digits at all, so the last one is read by itself
    by_cases last : ds = []
    · subst last
      cases point <;> simp [Nat.ofDigitChars_cons, Nat.ofDigitChars_nil, Nat.mul_comm]
    · rw [ih (fun d member => digits d (List.mem_cons_of_mem c member)) last true fits]
      · cases point <;> simp [Nat.ofDigitChars_cons, Nat.mul_comm, Nat.add_assoc, Nat.add_comm 1]
      · intro passed
        have := short passed
        rw [List.length_cons] at this
        simp only [passed, if_true]
        omega

/-- A minus in front makes a number negative. -/
theorem readPlain?_minus {cs : List Char} {reading : Reading}
    (read : readDigits 0 0 false false cs = some reading) :
    readPlain? ('-' :: cs) = ofParts? true reading.1 reading.2 := by
  simp only [readPlain?, read]

/-- A number that begins with a digit is not negative. -/
theorem readPlain?_digit {c : Char} {cs : List Char} {reading : Reading} (digit : c.isDigit = true)
    (read : readDigits 0 0 false false (c :: cs) = some reading) :
    readPlain? (c :: cs) = ofParts? false reading.1 reading.2 := by
  have minus : c ≠ '-' := ne_of_isDigit digit (by decide)
  have plus : c ≠ '+' := ne_of_isDigit digit (by decide)
  simp [readPlain?, minus, plus, read]

variable (d : Decimal)

/-- The digits of a decimal, with enough zeros in front for one to stand before the point. -/
def digitChars : List Char := paddedDigits (d.scale + 1) d.mantissa

/-- The digits before the point. -/
def wholeChars : List Char := d.digitChars.take (d.digitChars.length - d.scale)

/-- The digits after the point. -/
def fractionChars : List Char := d.digitChars.drop (d.digitChars.length - d.scale)

theorem chars_eq :
    d.chars = (if d.negative then ['-'] else []) ++ d.wholeChars ++
      (if d.scale = 0 then [] else '.' :: d.fractionChars) := rfl

theorem isDigit_digitChars : ∀ c ∈ d.digitChars, c.isDigit = true :=
  isDigit_paddedDigits (d.scale + 1) d.mantissa

theorem isDigit_wholeChars : ∀ c ∈ d.wholeChars, c.isDigit = true :=
  fun c member => d.isDigit_digitChars c (List.mem_of_mem_take member)

theorem isDigit_fractionChars : ∀ c ∈ d.fractionChars, c.isDigit = true :=
  fun c member => d.isDigit_digitChars c (List.mem_of_mem_drop member)

theorem length_wholeChars_pos : 0 < d.wholeChars.length := by
  have long : d.scale + 1 ≤ d.digitChars.length := le_length_paddedDigits _ _
  rw [wholeChars, List.length_take]
  omega

theorem length_fractionChars : d.fractionChars.length = d.scale := by
  have long : d.scale + 1 ≤ d.digitChars.length := le_length_paddedDigits _ _
  rw [fractionChars, List.length_drop]
  omega

/-- All digits together stand for the mantissa. -/
theorem ofDigitChars_wholeChars_fractionChars :
    Nat.ofDigitChars 10 d.fractionChars (Nat.ofDigitChars 10 d.wholeChars 0) = d.mantissa := by
  rw [← Nat.ofDigitChars_append, wholeChars, fractionChars, List.take_append_drop, digitChars,
    ofDigitChars_paddedDigits]

/-- The digits of a decimal are read as its mantissa and its scale. -/
theorem readDigits_chars :
    readDigits 0 0 false false
        (d.wholeChars ++ if d.scale = 0 then [] else '.' :: d.fractionChars) =
      some (d.mantissa, d.scale) := by
  have value := d.ofDigitChars_wholeChars_fractionChars
  have wholeFits : Nat.ofDigitChars 10 d.wholeChars 0 < mantissaLimit := by
    refine Nat.lt_of_le_of_lt (le_ofDigitChars d.fractionChars _) ?_
    rw [value]
    exact d.mantissa_lt
  rw [readDigits_append d.isDigit_wholeChars (List.ne_nil_of_length_pos d.length_wholeChars_pos)
    false wholeFits (by simp)]
  -- without a scale no point is written, and there are no digits that could follow it
  by_cases integral : d.scale = 0
  · have none : d.fractionChars = [] := List.length_eq_zero_iff.1 (by
      rw [d.length_fractionChars, integral])
    rw [none, Nat.ofDigitChars_nil] at value
    simp [integral, readDigits, value]
  · have some : d.fractionChars ≠ [] := by
      intro none
      exact integral (by rw [← d.length_fractionChars, none, List.length_nil])
    have fits : Nat.ofDigitChars 10 d.fractionChars (Nat.ofDigitChars 10 d.wholeChars 0) <
        mantissaLimit := by
      rw [value]
      exact d.mantissa_lt
    have short : 0 + d.fractionChars.length ≤ scaleLimit := by
      rw [d.length_fractionChars, Nat.zero_add]
      exact d.scale_le
    have tail := readDigits_append d.isDigit_fractionChars some true fits
      (show true = true → _ from fun _ => short) []
    rw [List.append_nil, value, d.length_fractionChars, readDigits] at tail
    have point : digit? '.' = none := by decide
    simp only [if_neg integral, Bool.false_eq_true, if_false, readDigits, point]
    simpa using tail

/-- The text of a decimal is read as the decimal, with the digits that it has after the point. -/
@[simp] theorem read?_text : read? d.text = some d := by
  have parts : ofParts? d.negative d.mantissa d.scale = some d := by
    obtain ⟨negative, mantissa, scale, small, short, unsigned⟩ := d
    rw [ofParts?, dif_pos ⟨small, short⟩]
    -- zero is read without a sign, and is never held with one
    by_cases zero : mantissa = 0
    · simp [unsigned zero]
    · simp [zero]
  have plain : readPlain? d.chars = some d := by
    have read := d.readDigits_chars
    rw [chars_eq]
    cases negative : d.negative with
    | true =>
      rw [negative] at parts
      rw [if_pos rfl, List.append_assoc, List.singleton_append, readPlain?_minus read, parts]
    | false =>
      rw [negative] at parts
      obtain ⟨c, rest, split⟩ := List.exists_cons_of_length_pos d.length_wholeChars_pos
      have digit : c.isDigit = true := d.isDigit_wholeChars c (by rw [split]; simp)
      rw [split, List.cons_append] at read
      rw [if_neg Bool.false_ne_true, List.nil_append, split, List.cons_append,
        readPlain?_digit digit read, parts]
  rw [read?, text, String.toList_ofList, plain, Option.some_or]

end OrderPipeline.Decimal
