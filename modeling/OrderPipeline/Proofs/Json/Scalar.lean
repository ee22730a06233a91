import OrderPipeline.Json.Reader
import OrderPipeline.Proofs.Number.Digits

/-!
# Reading written strings and numbers

A written string is read up to its closing quote as its own characters, whatever they are and
whatever follows it (`readPieces_string`). A whole number that fits a word is read up to the end
of its digits (`readNumeral_toDigits`) and has its own value (`number?_numeralOf`).
-/

namespace OrderPipeline.Json

/-! ## Strings -/

/-- A control character is written with its code unit. -/
theorem codeUnit?_hexDigit :
    ∀ code < 32, codeUnit? '0' '0' (hexDigit (code / 16)) (hexDigit code) = some code := by
  decide

/-- A character is read from the way it stands in a string as one piece that stands for it. -/
theorem readPieces_escapeChar (c : Char) (rest : List Char) (offset : Nat) :
    ∃ piece stop, readPieces (escapeChar c ++ rest) offset = .cons piece (readPieces rest stop) ∧
      ∀ pieces cs, joinPieces pieces = .ok cs → joinPieces (piece :: pieces) = .ok (c :: cs) := by
  have plain : ∀ pieces cs, joinPieces pieces = .ok cs →
      joinPieces (.plain c :: pieces) = .ok (c :: cs) := by
    intro pieces cs joined
    rw [joinPieces, joined]
    rfl
  have named : ∀ {short : Char}, short ≠ 'u' → shortEscape? short = some c →
      readPieces ('\\' :: short :: rest) offset =
        .cons (.plain c) (readPieces rest (offset + 2)) := by
    intro short notUnit meant
    simp [readPieces, notUnit, meant]
  -- seven characters have an escape of two letters
  rw [escapeChar]
  split
  · next same => exact ⟨_, _, named (by decide) (by rw [same]; rfl), plain⟩
  split
  · next same => exact ⟨_, _, named (by decide) (by rw [same]; rfl), plain⟩
  split
  · next same => exact ⟨_, _, named (by decide) (by rw [← Char.ofNat_toNat c, same]; rfl), plain⟩
  split
  · next same => exact ⟨_, _, named (by decide) (by rw [← Char.ofNat_toNat c, same]; rfl), plain⟩
  split
  · next same => exact ⟨_, _, named (by decide) (by rw [same]; rfl), plain⟩
  split
  · next same => exact ⟨_, _, named (by decide) (by rw [same]; rfl), plain⟩
  split
  · next same => exact ⟨_, _, named (by decide) (by rw [same]; rfl), plain⟩
  split
  -- the other control characters are written as code units, none of which is a surrogate
  · next control =>
    refine ⟨.unit c.toNat (offset + 6), offset + 6, ?_, ?_⟩
    · simp [readPieces, codeUnit?_hexDigit c.toNat control]
    · intro pieces cs joined
      have low : ¬(0xDC00 ≤ c.toNat ∧ c.toNat ≤ 0xDFFF) := by omega
      have basic : c.toNat < 0xD800 ∨ 0xDBFF < c.toNat := by omega
      unfold joinPieces
      rw [if_neg low, if_pos basic, joined, Char.ofNat_toNat]
      rfl
  -- all others stand for themselves
  · next notQuote notBackslash _ _ _ _ _ notControl =>
    refine ⟨.plain c, offset + c.utf8Size, ?_, plain⟩
    simp [readPieces, notBackslash, notControl]

/-- A string is read up to its closing quote, and its pieces stand for its characters. -/
theorem readPieces_flatMap (cs rest : List Char) (offset : Nat) :
    ∃ pieces stop,
      readPieces (cs.flatMap escapeChar ++ '"' :: rest) offset = .done pieces rest stop ∧
        joinPieces pieces = .ok cs := by
  induction cs generalizing offset with
  | nil => exact ⟨[], offset + 1, by simp [readPieces], rfl⟩
  | cons c cs ih =>
    obtain ⟨piece, next, first, joins⟩ :=
      readPieces_escapeChar c (cs.flatMap escapeChar ++ '"' :: rest) offset
    obtain ⟨pieces, stop, read, joined⟩ := ih next
    refine ⟨piece :: pieces, stop, ?_, joins pieces cs joined⟩
    rw [List.flatMap_cons, List.append_assoc, first, read]
    rfl

/-- A string is read up to its closing quote as its own text. -/
theorem readPieces_string (text : String) (rest : List Char) (offset : Nat) :
    ∃ pieces stop,
      readPieces (text.toList.flatMap escapeChar ++ '"' :: rest) offset = .done pieces rest stop ∧
        textOfPieces pieces = .ok text := by
  obtain ⟨pieces, stop, read, joined⟩ := readPieces_flatMap text.toList rest offset
  refine ⟨pieces, stop, read, ?_⟩
  rw [textOfPieces, joined]
  exact congrArg Except.ok String.ofList_toList

/-! ## Numbers -/

/-- Whether a text goes on, if it does, with what may follow a value inside a list or object. -/
def Ends (rest : List Char) : Prop := ∀ c ∈ rest.head?, c = ',' ∨ c = ']' ∨ c = '}'

theorem Ends.nil : Ends [] := by simp [Ends]

theorem Ends.cons {c : Char} (mark : c = ',' ∨ c = ']' ∨ c = '}') (rest : List Char) :
    Ends (c :: rest) := by
  simpa [Ends] using mark

theorem Ends.noDigit {rest : List Char} (ends : Ends rest) : NoDigit rest := by
  intro c first
  rcases ends c first with rfl | rfl | rfl <;> rfl

/-- Digits that fit a word are added up without any being left out. -/
theorem foldl_addWhole (ds : List Char) {start : Nat}
    (digits : ∀ c ∈ ds, c.isDigit = true) (fits : Nat.ofDigitChars 10 ds start < wordLimit) :
    ds.foldl Significand.addWhole ⟨start, 0, false⟩ =
      ⟨Nat.ofDigitChars 10 ds start, 0, false⟩ := by
  -- the significand so far is the number that the digits so far stand for; none was left out
  induction ds generalizing start with
  | nil => rfl
  | cons c ds ih =>
    rw [Nat.ofDigitChars_cons] at fits
    have small : 10 * start + (c.toNat - '0'.toNat) < wordLimit :=
      Nat.lt_of_le_of_lt (le_ofDigitChars ds _) fits
    have step : Significand.addWhole ⟨start, 0, false⟩ c =
        ⟨10 * start + (c.toNat - '0'.toNat), 0, false⟩ := by
      simp only [Significand.addWhole, digit?_of_isDigit (digits c List.mem_cons_self),
        Option.getD_some, Nat.mul_comm start, Bool.false_or, decide_eq_true_iff,
        if_neg (Nat.not_le_of_lt small)]
    rw [List.foldl_cons, step,
      ih (fun d member => digits d (List.mem_cons_of_mem c member)) fits, Nat.ofDigitChars_cons]

/-- The numeral of a natural number. -/
def numeralOf (n : Nat) : Numeral := ⟨false, Nat.toDigits 10 n, [], none, false⟩

/-- A number that fits a word is the value of its numeral. -/
theorem number?_numeralOf {n : Nat} (fits : n < wordLimit) :
    (numeralOf n).number? = some (.whole n) := by
  have value : Nat.ofDigitChars 10 (Nat.toDigits 10 n) 0 = n := Nat.ofDigitChars_ten_toDigits
  have whole : (numeralOf n).wholePart = ⟨n, 0, false⟩ := by
    rw [Numeral.wholePart, numeralOf, foldl_addWhole _ (isDigit_toDigits n) (by rwa [value]), value]
  simp only [Numeral.number?, whole]
  rfl

/-- A natural number is read up to the end of its digits. -/
theorem readNumeral_toDigits (n : Nat) {rest : List Char} (ends : Ends rest) (offset : Nat) :
    ∃ stop, readNumeral (Nat.toDigits 10 n ++ rest) offset = .done (numeralOf n) rest stop := by
  have digits := isDigit_toDigits n
  have run : splitDigits (Nat.toDigits 10 n ++ rest) = (Nat.toDigits 10 n, rest) := by
    rw [splitDigits, takeWhile_digits digits ends.noDigit, dropWhile_digits digits ends.noDigit]
  have whole : readWhole (Nat.toDigits 10 n ++ rest) offset =
      .done (Nat.toDigits 10 n) rest (offset + (Nat.toDigits 10 n).length) := by
    rw [readWhole, run]
    split
    · next none => exact absurd (Prod.mk.inj none).1 Nat.toDigits_ne_nil
    · next _ none => exact absurd (Prod.mk.inj none).1 Nat.toDigits_ne_nil
    -- two digits of which the first is zero
    · next zero =>
      have long := (Prod.mk.inj zero).1
      rw [eq_zero_of_toDigits long] at long
      cases long
    · next same => rw [← (Prod.mk.inj same).1, ← (Prod.mk.inj same).2]
  -- what may follow a value begins neither a fraction nor an exponent
  have fraction : ∀ offset, readFraction rest offset = .done (false, []) rest offset := by
    intro offset
    refine readFraction.eq_2 rest offset ?_
    rintro tail rfl
    exact absurd (ends '.' rfl) (by decide)
  have exponent : ∀ offset, readExponent rest offset = .done none rest offset := by
    intro offset
    cases rest with
    | nil => rfl
    | cons c tail =>
      rcases ends c rfl with rfl | rfl | rfl <;> rfl
  have unsigned : ∀ tail, Nat.toDigits 10 n ++ rest ≠ '-' :: tail := by
    intro tail minus
    obtain ⟨c, others, front⟩ := List.exists_cons_of_ne_nil (Nat.toDigits_ne_nil (n := n) (b := 10))
    rw [front, List.cons_append] at minus
    have digit := digits c (by rw [front]; exact List.mem_cons_self)
    rw [(List.cons.inj minus).1] at digit
    exact absurd digit (by decide)
  refine ⟨offset + (Nat.toDigits 10 n).length, ?_⟩
  unfold readNumeral
  split
  next sign =>
    split at sign
    · next minus => exact absurd minus (unsigned _)
    · cases sign
      simp only [whole, fraction, exponent]
      rfl

end OrderPipeline.Json
