/-!
# Texts

`isBlank` is the White_Space property. `trim` removes blank characters at both ends of a text;
dropping twice changes nothing more (`dropBlank_dropBlank`). `splitOn` takes a text apart at a
character, `words` at blanks. `quoted` is a text as it is shown in a message: in double quotes, with
quotes, backslashes and control characters escaped.
-/

namespace OrderPipeline.Text

/-! ## Blanks -/

/-- Whether a character has the White_Space property: the ASCII blanks, next line, the no-break
and Ogham spaces, the typographic spaces, the two separators and the ideographic space. -/
def isBlank (c : Char) : Bool :=
  let code := c.toNat
  (9 ≤ code && code ≤ 13) || code == 0x20 || code == 0x85 || code == 0xA0 || code == 0x1680 ||
    (0x2000 ≤ code && code ≤ 0x200A) || code == 0x2028 || code == 0x2029 || code == 0x202F ||
    code == 0x205F || code == 0x3000

/-- A list of characters without its leading blanks. -/
def dropBlank (cs : List Char) : List Char := cs.dropWhile isBlank

/-- A list of characters without the blanks at its end. -/
def dropBlankEnd (cs : List Char) : List Char := (dropBlank cs.reverse).reverse

/-- A list of characters without the blanks at both ends. -/
def trimEnds (cs : List Char) : List Char := dropBlankEnd (dropBlank cs)

/-- A text without the blanks at both ends. -/
def trim (text : String) : String := String.ofList (trimEnds text.toList)

/-- A text without the blanks at its end. -/
def trimEnd (text : String) : String := String.ofList (dropBlankEnd text.toList)

/-- Whether a text has no character other than blanks. -/
def blank (text : String) : Bool := text.toList.all isBlank

@[simp] theorem dropBlank_nil : dropBlank [] = [] := rfl

@[simp] theorem toList_trim (text : String) : (trim text).toList = trimEnds text.toList := by
  simp [trim]

/-- Dropping leading blanks a second time changes nothing. -/
theorem dropBlank_dropBlank (cs : List Char) : dropBlank (dropBlank cs) = dropBlank cs := by
  induction cs with
  | nil => rfl
  | cons c rest ih =>
    by_cases h : isBlank c
    · simpa [dropBlank, h] using ih
    · simp [dropBlank, h]

/-- Only blanks are dropped, so nothing is left exactly when all characters are blank. -/
theorem dropBlank_eq_nil_iff (cs : List Char) : dropBlank cs = [] ↔ cs.all isBlank = true := by
  induction cs with
  | nil => simp
  | cons c rest ih =>
    by_cases h : isBlank c
    · rw [show dropBlank (c :: rest) = dropBlank rest from List.dropWhile_cons_of_pos h, ih]
      simp [h]
    · simp [dropBlank, h]

/-! ## Parts -/

/-- The words of a list of characters, which are parted by blanks; `word` holds the characters of
the current one, last first. -/
def wordsAfter (word : List Char) : List Char → List String
  | [] => if word.isEmpty then [] else [String.ofList word.reverse]
  | c :: rest =>
    if isBlank c then
      if word.isEmpty then wordsAfter [] rest
      else String.ofList word.reverse :: wordsAfter [] rest
    else wordsAfter (c :: word) rest

/-- The words of a text, which are parted by blanks. -/
def words (text : String) : List String := wordsAfter [] text.toList

/-- The parts of a text around a separator. -/
def splitOn (separator : Char) : List Char → List (List Char)
  | [] => [[]]
  | c :: rest =>
    match splitOn separator rest with
    | [] => [[c]]
    | part :: parts => if c = separator then [] :: part :: parts else (c :: part) :: parts

/-! ## Quotes -/

/-- A character as it is shown in a quoted text. Characters above U+009F are left as they are, those
too that cannot be printed or that combine with the one before. -/
def quotedChar (c : Char) : List Char :=
  if c = '"' then ['\\', '"']
  else if c = '\\' then ['\\', '\\']
  else if c = '\n' then ['\\', 'n']
  else if c = '\r' then ['\\', 'r']
  else if c = '\t' then ['\\', 't']
  else if c.toNat = 0 then ['\\', '0']
  else if c.toNat < 32 ∨ (127 ≤ c.toNat ∧ c.toNat < 160) then
    ['\\', 'u', '{'] ++ Nat.toDigits 16 c.toNat ++ ['}']
  else [c]

/-- A text as it is shown in a message. -/
def quoted (text : String) : String :=
  String.ofList ('"' :: text.toList.flatMap quotedChar ++ ['"'])

end OrderPipeline.Text
