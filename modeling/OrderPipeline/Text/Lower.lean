import OrderPipeline.Text.CaseTable

/-!
# Lower-casing

`lower` is the full lower-case mapping of a text: most characters lower to one other character
(`lowerChar`), the dotted capital I lowers to two, and a capital sigma lowers to the final form at
the end of a word and to the inner form elsewhere. `lowerAscii` touches the letters `A` to `Z`
only.
-/

namespace OrderPipeline.Text

/-- Whether a character has case. -/
def isCased (c : Char) : Bool := inRanges casedRanges c.toNat

/-- Whether a character is skipped when looking for a cased neighbour. -/
def isCaseIgnorable (c : Char) : Bool := inRanges caseIgnorableRanges c.toNat

/-- The first character that is not case-ignorable exists and is cased. -/
def nextIsCased (cs : List Char) : Bool :=
  match cs.dropWhile isCaseIgnorable with
  | [] => false
  | c :: _ => isCased c

/-- The code points outside ASCII, lowered by the run that holds them. -/
def lowerCode (code : Nat) : Nat :=
  match lowerRuns.find? fun run => run.first ≤ code && code ≤ run.last with
  | some run => if (code - run.first) % run.step = 0 then (code + run.shift).toNat else code
  | none => code

/-- The lower case of one character by itself. -/
def lowerChar (c : Char) : List Char :=
  if c.toNat < 128 then [c.toLower]
  else if c.toNat = 0x130 then ['i', Char.ofNat 0x307]
  else [Char.ofNat (lowerCode c.toNat)]

/-- The capital sigma, the one letter whose lower case depends on its neighbours. -/
def capitalSigma : Char := Char.ofNat 0x3A3

/-- The small sigma written inside a word. -/
def innerSigma : Char := Char.ofNat 0x3C3

/-- The small sigma written at the end of a word. -/
def finalSigma : Char := Char.ofNat 0x3C2

/-- The lower case of `cs`, which stands after the characters `before` (nearest first). -/
def lowerAfter : (before cs : List Char) → List Char
  | _, [] => []
  | before, c :: rest =>
    let lowered :=
      if c = capitalSigma then
        [if nextIsCased before && !nextIsCased rest then finalSigma else innerSigma]
      else lowerChar c
    lowered ++ lowerAfter (c :: before) rest

/-- The full lower case of a text. -/
def lower (text : String) : String := String.ofList (lowerAfter [] text.toList)

/-- A text with the letters `A` to `Z` lowered and all else kept. -/
def lowerAscii (text : String) : String := String.ofList (text.toList.map Char.toLower)

/-- Whether two texts agree when the letters `A` to `Z` are lowered. -/
def sameIgnoringAsciiCase (left right : String) : Bool := lowerAscii left == lowerAscii right

/-- Whether `part` occurs as consecutive characters in `whole`. -/
def occursIn (part : List Char) : (whole : List Char) → Bool
  | [] => part.isEmpty
  | c :: rest => part.isPrefixOf (c :: rest) || occursIn part rest

@[simp] theorem lowerAfter_nil (before : List Char) : lowerAfter before [] = [] := rfl

/-- A list of characters occurs in another exactly when it is an infix of it. -/
theorem occursIn_iff (part whole : List Char) : occursIn part whole = true ↔ part <:+: whole := by
  induction whole with
  | nil => simp [occursIn]
  | cons c rest ih =>
    simp [occursIn, ih, List.infix_cons_iff, List.isPrefixOf_iff_prefix]

end OrderPipeline.Text
