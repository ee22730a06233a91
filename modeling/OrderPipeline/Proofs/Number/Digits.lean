import OrderPipeline.Calendar.Date
import Mathlib.Data.List.TakeWhile

/-!
# Digits as they are written and read

A run of decimal digits is read as the number that it stands for (`digits?_eq`), with or without
zeros in front (`digits?_toDigits`, `digits?_paddedDigits`), and it ends where something else than
a digit follows (`takeWhile_digits`, `dropWhile_digits`).
-/

namespace OrderPipeline

/-- Whether a text does not go on with a digit. -/
def NoDigit (rest : List Char) : Prop := ∀ c ∈ rest.head?, c.isDigit = false

theorem NoDigit.nil : NoDigit [] := by simp [NoDigit]

theorem NoDigit.cons {c : Char} (other : c.isDigit = false) (rest : List Char) :
    NoDigit (c :: rest) := by
  simpa [NoDigit] using other

/-- The value of a digit. -/
theorem digit?_of_isDigit {c : Char} (digit : c.isDigit = true) :
    digit? c = some (c.toNat - '0'.toNat) := by
  rw [Char.isDigit, Bool.and_eq_true, decide_eq_true_iff, decide_eq_true_iff] at digit
  exact if_pos ⟨digit.1, digit.2⟩

/-- A character has a value as a digit exactly when it is one. -/
@[simp] theorem isSome_digit? (c : Char) : (digit? c).isSome = c.isDigit := by
  cases digit : c.isDigit with
  | true => rw [digit?_of_isDigit digit, Option.isSome_some]
  | false =>
    have outside : ¬('0' ≤ c ∧ c ≤ '9') := by
      rintro ⟨low, high⟩
      have inside : c.isDigit = true := by
        rw [Char.isDigit, Bool.and_eq_true, decide_eq_true_iff, decide_eq_true_iff]
        exact ⟨low, high⟩
      rw [digit] at inside
      cases inside
    rw [digit?, if_neg outside, Option.isSome_none]

/-- A digit is no other character. -/
theorem ne_of_isDigit {c mark : Char} (digit : c.isDigit = true) (other : mark.isDigit = false) :
    c ≠ mark := by
  rintro rfl
  rw [digit] at other
  cases other

/-- Reading digits never makes the number that was read before smaller. -/
theorem le_ofDigitChars (ds : List Char) (start : Nat) : start ≤ Nat.ofDigitChars 10 ds start := by
  induction ds generalizing start with
  | nil => rw [Nat.ofDigitChars_nil]
  | cons c ds ih =>
    rw [Nat.ofDigitChars_cons]
    have := ih (10 * start + (c.toNat - '0'.toNat))
    omega

/-- Digits are read as the number that they stand for. -/
theorem digits?_eq {ds : List Char} (digits : ∀ c ∈ ds, c.isDigit = true) (nonempty : ds ≠ []) :
    digits? ds = some (Nat.ofDigitChars 10 ds 0) := by
  -- for the induction the fold starts from any number, which the digits read before stand for
  have read : ∀ (ds : List Char) (start : Nat), (∀ c ∈ ds, c.isDigit = true) →
      ds.foldl (fun value c => do return (← value) * 10 + (← digit? c)) (some start) =
        some (Nat.ofDigitChars 10 ds start) := by
    intro ds
    induction ds with
    | nil => simp
    | cons c ds ih =>
      intro start digits
      rw [List.foldl_cons, Nat.ofDigitChars_cons, ← ih _ fun d member =>
        digits d (List.mem_cons_of_mem c member)]
      simp [digit?_of_isDigit (digits c List.mem_cons_self), Nat.mul_comm]
  cases ds with
  | nil => exact absurd rfl nonempty
  | cons c ds => exact read (c :: ds) 0 digits

/-- Every character of a written number is a digit. -/
theorem isDigit_toDigits (n : Nat) : ∀ c ∈ Nat.toDigits 10 n, c.isDigit = true :=
  fun _ member => Nat.isDigit_of_mem_toDigits (by decide) (by decide) member

/-- A written number is read as itself. -/
@[simp] theorem digits?_toDigits (n : Nat) : digits? (Nat.toDigits 10 n) = some n := by
  rw [digits?_eq (isDigit_toDigits n) Nat.toDigits_ne_nil, Nat.ofDigitChars_ten_toDigits]

/-- Only zero is written with a zero in front. -/
theorem eq_zero_of_toDigits {n : Nat} {cs : List Char} (zero : Nat.toDigits 10 n = '0' :: cs) :
    n = 0 := by
  -- the first digit of a number of two or more digits is that of its tenth part
  induction n using Nat.strongRecOn generalizing cs with
  | ind n ih =>
    rw [Nat.toDigits_eq_if (by decide)] at zero
    split at zero
    · next small =>
      have digit : ∀ n < 10, n.digitChar = '0' → n = 0 := by decide
      exact digit n small (List.cons.inj zero).1
    · next large =>
      have nonempty : Nat.toDigits 10 (n / 10) ≠ [] := Nat.toDigits_ne_nil
      obtain ⟨c, rest, front⟩ := List.exists_cons_of_ne_nil nonempty
      rw [front, List.cons_append] at zero
      have quotient := ih (n / 10) (by omega) (by rw [front, (List.cons.inj zero).1])
      omega

/-! ## Zeros in front -/

theorem isDigit_paddedDigits (width n : Nat) : ∀ c ∈ paddedDigits width n, c.isDigit = true := by
  intro c member
  rcases List.mem_append.1 member with zero | digit
  · rw [List.eq_of_mem_replicate zero]
    decide
  · exact isDigit_toDigits n c digit

theorem paddedDigits_ne_nil (width n : Nat) : paddedDigits width n ≠ [] := by
  simp [paddedDigits, Nat.toDigits_ne_nil]

/-- Zeros in front do not count. -/
@[simp] theorem ofDigitChars_paddedDigits (width n : Nat) :
    Nat.ofDigitChars 10 (paddedDigits width n) 0 = n := by
  rw [paddedDigits, Nat.ofDigitChars_append, Nat.ofDigitChars_replicate_zero, Nat.mul_zero,
    Nat.ofDigitChars_ten_toDigits]

/-- A number with zeros in front is read as itself. -/
@[simp] theorem digits?_paddedDigits (width n : Nat) :
    digits? (paddedDigits width n) = some n := by
  rw [digits?_eq (isDigit_paddedDigits width n) (paddedDigits_ne_nil width n),
    ofDigitChars_paddedDigits]

/-- A number that fits a width is padded to that width. -/
theorem length_paddedDigits {width n : Nat} (positive : 0 < width) (fits : n < Nat.pow 10 width) :
    (paddedDigits width n).length = width := by
  have short : (Nat.toDigits 10 n).length ≤ width :=
    (Nat.length_toDigits_le_iff (by decide) positive).2 fits
  -- the zeros make up just for the digits that are missing
  rw [paddedDigits, List.length_append, List.length_replicate]
  omega

/-- A padded number is never shorter than the width. -/
theorem le_length_paddedDigits (width n : Nat) : width ≤ (paddedDigits width n).length := by
  rw [paddedDigits, List.length_append, List.length_replicate]
  omega

/-! ## Where digits end -/

section Ends

variable {ds rest : List Char}

/-- A run of digits is taken as a whole. -/
theorem takeWhile_digits (digits : ∀ c ∈ ds, c.isDigit = true) (ends : NoDigit rest) :
    (ds ++ rest).takeWhile (fun c => (digit? c).isSome) = ds := by
  have stop : rest.takeWhile (fun c => (digit? c).isSome) = [] := by
    cases rest with
    | nil => rfl
    | cons c rest => rw [List.takeWhile_cons, isSome_digit?, ends c rfl]; rfl
  rw [List.takeWhile_append_of_pos (by simpa using digits), stop, List.append_nil]

/-- What follows a run of digits is left. -/
theorem dropWhile_digits (digits : ∀ c ∈ ds, c.isDigit = true) (ends : NoDigit rest) :
    (ds ++ rest).dropWhile (fun c => (digit? c).isSome) = rest := by
  have stop : rest.dropWhile (fun c => (digit? c).isSome) = rest := by
    cases rest with
    | nil => rfl
    | cons c rest => rw [List.dropWhile_cons, isSome_digit?, ends c rfl]; rfl
  rw [List.dropWhile_append_of_pos (by simpa using digits), stop]

end Ends

end OrderPipeline
