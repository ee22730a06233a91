import OrderPipeline.Number.DecimalReader
import OrderPipeline.Proofs.Calendar.Text

/-!
# Texts that stand for decimals

A text from which a decimal is read is not empty and has no blanks, so it is typed as it stands
(`Decimal.solid_of_read?`).
-/

namespace OrderPipeline

/-- What has a value as a digit is no blank. -/
theorem isBlank_of_digit? {c : Char} {n : Nat} (digit : digit? c = some n) :
    Text.isBlank c = false := by
  refine Text.isBlank_of_isDigit ?_
  rw [← isSome_digit?, digit, Option.isSome_some]

/-- Digits are read only from digits. -/
theorem solid_of_digits? {cs : List Char} {n : Nat} (read : digits? cs = some n) :
    ∀ c ∈ cs, Text.isBlank c = false := by
  -- for the induction the fold starts from any result of the digits before
  have solid : ∀ (cs : List Char) (start : Option Nat),
      (cs.foldl (fun value c => do return (← value) * 10 + (← digit? c)) start).isSome = true →
        start.isSome = true ∧ ∀ c ∈ cs, Text.isBlank c = false := by
    intro cs
    induction cs with
    | nil => exact fun start some => ⟨some, nofun⟩
    | cons c cs ih =>
      intro start some
      rw [List.foldl_cons] at some
      obtain ⟨first, rest⟩ := ih _ some
      cases start with
      | none => cases first
      | some value =>
        cases digit : digit? c with
        | none => simp [digit] at first
        | some n => exact ⟨rfl, List.forall_mem_cons.2 ⟨isBlank_of_digit? digit, rest⟩⟩
  cases cs with
  | nil => cases read
  | cons c cs =>
    refine (solid (c :: cs) (some 0) ?_).2
    change (digits? (c :: cs)).isSome = true
    rw [read, Option.isSome_some]

/-- A number without a sign other than a plus is read only from solid texts. -/
theorem solid_of_unsigned? {cs : List Char} {n : Nat} (read : unsigned? cs = some n) :
    ∀ c ∈ cs, Text.isBlank c = false := by
  rw [unsigned?.eq_def] at read
  split at read
  · exact List.forall_mem_cons.2 ⟨by decide, solid_of_digits? read⟩
  · exact solid_of_digits? read

namespace Decimal

/-- Digits that are dropped are digits or underscores. -/
theorem solid_of_roundOff {mantissa scale : Nat} {cs : List Char} {reading : Reading}
    (read : roundOff mantissa scale cs = some reading) : ∀ c ∈ cs, Text.isBlank c = false := by
  rw [roundOff] at read
  split at read
  · next among =>
    intro c member
    have mark := List.all_eq_true.1 among c member
    rw [Bool.or_eq_true, isSome_digit?, beq_iff_eq] at mark
    rcases mark with digit | rfl
    · exact Text.isBlank_of_isDigit digit
    · decide
  · cases read

/-- The digits of a number, with its point and underscores, are no blanks. -/
theorem solid_of_readDigits {mantissa scale : Nat} {point started : Bool} {cs : List Char}
    {reading : Reading} (read : readDigits mantissa scale point started cs = some reading) :
    ∀ c ∈ cs, Text.isBlank c = false := by
  induction cs generalizing mantissa scale point started with
  | nil => exact nofun
  | cons c rest ih =>
    rw [readDigits.eq_def] at read
    simp only at read
    split at read
    · next digit =>
      split at read
      · exact List.forall_mem_cons.2 ⟨isBlank_of_digit? digit, ih read⟩
      · split at read
        · exact solid_of_roundOff read
        · cases read
    · split at read
      · next mark =>
        rw [mark.1]
        exact List.forall_mem_cons.2 ⟨by decide, ih read⟩
      · split at read
        · next mark =>
          rw [mark.1]
          exact List.forall_mem_cons.2 ⟨by decide, ih read⟩
        · cases read

/-- Plain notation has no blanks. -/
theorem solid_of_readPlain? {cs : List Char} {d : Decimal} (read : readPlain? cs = some d) :
    ∀ c ∈ cs, Text.isBlank c = false := by
  rw [readPlain?.eq_def] at read
  split at read
  next sign rest split =>
    have digits : ∀ c ∈ rest, Text.isBlank c = false := by
      split at read
      · next found => exact solid_of_readDigits found
      · cases read
    split at split
    · cases split
      exact List.forall_mem_cons.2 ⟨by decide, digits⟩
    · cases split
      exact List.forall_mem_cons.2 ⟨by decide, digits⟩
    · cases split
      exact digits

/-- Neither has scientific notation. -/
theorem solid_of_readScientific? {cs : List Char} {d : Decimal}
    (read : readScientific? cs = some d) : ∀ c ∈ cs, Text.isBlank c = false := by
  cases tail : cs.dropWhile (fun c => !(c == 'e' || c == 'E')) with
  | nil =>
    simp only [readScientific?, tail] at read
    cases read
  | cons mark exponent =>
    have split : cs = cs.takeWhile (fun c => !(c == 'e' || c == 'E')) ++ mark :: exponent := by
      rw [← tail, List.takeWhile_append_dropWhile]
    have isMark : Text.isBlank mark = false := by
      have stops := List.head?_dropWhile_not (fun c => !(c == 'e' || c == 'E')) cs
      rw [tail] at stops
      have letters : mark = 'e' ∨ mark = 'E' := by simpa [or_iff_not_imp_left] using stops
      rcases letters with rfl | rfl
      · decide
      · decide
    simp only [readScientific?, tail] at read
    obtain ⟨base, plain, scaled⟩ := Option.bind_eq_some_iff.1 read
    -- after the letter stands a number, which may have a minus
    have size : ∀ c ∈ exponent, Text.isBlank c = false := by
      split at scaled
      · obtain ⟨n, digits, -⟩ := Option.bind_eq_some_iff.1 scaled
        exact List.forall_mem_cons.2 ⟨by decide, solid_of_unsigned? digits⟩
      · obtain ⟨n, digits, -⟩ := Option.bind_eq_some_iff.1 scaled
        exact solid_of_unsigned? digits
    rw [split]
    exact List.forall_mem_append.2
      ⟨solid_of_readPlain? plain, List.forall_mem_cons.2 ⟨isMark, size⟩⟩

/-- A text from which a decimal is read is not empty and has no blanks. -/
theorem solid_of_read? {text : String} {d : Decimal} (read : read? text = some d) :
    text ≠ "" ∧ ∀ c ∈ text.toList, Text.isBlank c = false := by
  refine ⟨?_, ?_⟩
  · rintro rfl
    cases read
  · rw [read?, Option.or_eq_some_iff] at read
    rcases read with plain | ⟨-, scientific⟩
    · exact solid_of_readPlain? plain
    · exact solid_of_readScientific? scientific

end Decimal

end OrderPipeline
