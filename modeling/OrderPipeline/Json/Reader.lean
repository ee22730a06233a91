import OrderPipeline.Json.Node

/-!
# Reading JSON texts

`Document.ofText` reads strict JSON: blanks are space, tab, line feed and carriage return, nothing
may stand before or after the value, and there are no trailing commas. It always gives a tree; a
text that is not JSON gives one with a `broken` leaf, or a document with an `ending` fault.

Strings are read in two steps: `readPieces` finds the closing quote and the escapes, and
`joinPieces` joins the halves of characters outside the basic plane.
-/

namespace OrderPipeline.Json

/-- What has been read and what is left: the characters and how many bytes came before them. -/
inductive Progress (α : Type) where
  /-- Something was read. -/
  | done (value : α) (rest : List Char) (offset : Nat)
  /-- The text stops being JSON. -/
  | broken (fault : Fault)

/-- Whether a character may stand between values. -/
def isGap (c : Char) : Bool := c == ' ' || c == '\t' || c == '\n' || c == '\r'

/-- What is left after blanks, and where it begins. -/
def skipGap : List Char → Nat → List Char × Nat
  | [], offset => ([], offset)
  | c :: rest, offset => if isGap c then skipGap rest (offset + 1) else (c :: rest, offset)

/-! ## Strings -/

/-- A part of a string: a character, or a code unit given by number. -/
inductive Piece where
  /-- A character. -/
  | plain (c : Char)
  /-- A code unit of 16 bits, and where its escape has ended. -/
  | unit (code stop : Nat)

/-- The value of a hexadecimal digit. -/
def hexValue? (c : Char) : Option Nat :=
  if '0' ≤ c ∧ c ≤ '9' then some (c.toNat - '0'.toNat)
  else if 'a' ≤ c ∧ c ≤ 'f' then some (c.toNat - 'a'.toNat + 10)
  else if 'A' ≤ c ∧ c ≤ 'F' then some (c.toNat - 'A'.toNat + 10)
  else none

/-- The code unit written by four hexadecimal digits. -/
def codeUnit? (a b c d : Char) : Option Nat := do
  return (((← hexValue? a) * 16 + (← hexValue? b)) * 16 + (← hexValue? c)) * 16 + (← hexValue? d)

/-- The character that a short escape stands for. -/
def shortEscape? (c : Char) : Option Char :=
  match c with
  | '"' => some '"'
  | '\\' => some '\\'
  | '/' => some '/'
  | 'b' => some (Char.ofNat 8)
  | 'f' => some (Char.ofNat 12)
  | 'n' => some '\n'
  | 'r' => some '\r'
  | 't' => some '\t'
  | _ => none

/-- How many bytes some characters take. -/
def byteCount (cs : List Char) : Nat := cs.foldl (fun total c => total + c.utf8Size) 0

/-- Puts a piece in front of those read after it. -/
def Progress.cons (piece : Piece) : Progress (List Piece) → Progress (List Piece)
  | .done pieces rest offset => .done (piece :: pieces) rest offset
  | .broken fault => .broken fault

/-- Reads a string after its opening quote, up to and including the closing one. -/
def readPieces : List Char → Nat → Progress (List Piece)
  | [], offset => .broken ⟨.endInString, offset⟩
  | '"' :: rest, offset => .done [] rest (offset + 1)
  | ['\\'], offset => .broken ⟨.endInString, offset + 1⟩
  | '\\' :: 'u' :: a :: b :: c :: d :: rest, offset =>
    match codeUnit? a b c d with
    | some code => .cons (.unit code (offset + 6)) (readPieces rest (offset + 6))
    | none => .broken ⟨.invalidEscape, offset + 2 + byteCount [a, b, c, d]⟩
  | '\\' :: 'u' :: rest, offset => .broken ⟨.endInString, offset + 2 + byteCount rest⟩
  | '\\' :: c :: rest, offset =>
    match shortEscape? c with
    | some meant => .cons (.plain meant) (readPieces rest (offset + 2))
    | none => .broken ⟨.invalidEscape, offset + 2⟩
  | c :: rest, offset =>
    if c.toNat < 32 then .broken ⟨.controlCharacter, offset + 1⟩
    else .cons (.plain c) (readPieces rest (offset + c.utf8Size))

/-- The characters that pieces stand for: a leading surrogate and the trailing one after it are
one character, and neither may stand alone. -/
def joinPieces : List Piece → Except Fault (List Char)
  | [] => .ok []
  | .plain c :: rest => (joinPieces rest).map (c :: ·)
  | .unit code stop :: rest =>
    if 0xDC00 ≤ code ∧ code ≤ 0xDFFF then .error ⟨.loneSurrogate, stop⟩
    else if code < 0xD800 ∨ 0xDBFF < code then (joinPieces rest).map (Char.ofNat code :: ·)
    else
      match rest with
      | .unit trailing trailingStop :: rest =>
        if 0xDC00 ≤ trailing ∧ trailing ≤ 0xDFFF then
          let joined := 0x10000 + (code - 0xD800) * 0x400 + (trailing - 0xDC00)
          (joinPieces rest).map (Char.ofNat joined :: ·)
        else .error ⟨.loneSurrogate, trailingStop⟩
      | _ => .error ⟨.surrogateEnd, stop + 1⟩

/-- The text that pieces stand for. -/
def textOfPieces (pieces : List Piece) : Except Fault String :=
  (joinPieces pieces).map String.ofList

/-! ## Numbers -/

/-- A number as it is written. -/
structure Numeral where
  /-- Whether a minus stands in front. -/
  negative : Bool
  /-- The digits before the point. -/
  wholeDigits : List Char
  /-- The digits after the point; none where there is no point. -/
  fraction : List Char
  /-- The exponent; none where there is none. -/
  exponent : Option Int
  /-- Whether there is a point. -/
  point : Bool

/-- A significand of 64 bits and the power of ten that its last digit stands for. -/
structure Significand where
  /-- The digits read so far. -/
  value : Nat
  /-- The power of ten. -/
  power : Int
  /-- Whether a digit has been left out. -/
  full : Bool

/-- The first number that does not fit 64 bits. -/
def wordLimit : Nat := UInt64.size

/-- Adds a digit before the point: once one does not fit, it and all later ones only raise the
power. -/
def Significand.addWhole (s : Significand) (c : Char) : Significand :=
  let longer := s.value * 10 + (digit? c).getD 0
  if s.full || decide (wordLimit ≤ longer) then { s with power := s.power + 1, full := true }
  else { s with value := longer }

/-- Adds a digit after the point: once one does not fit, it and all later ones are left out. -/
def Significand.addFraction (s : Significand) (c : Char) : Significand :=
  let longer := s.value * 10 + (digit? c).getD 0
  if s.full || decide (wordLimit ≤ longer) then { s with full := true }
  else { s with value := longer, power := s.power - 1 }

namespace Numeral

/-- The significand and power of ten of the digits before the point. -/
def wholePart (n : Numeral) : Significand :=
  n.wholeDigits.foldl Significand.addWhole ⟨0, 0, false⟩

/-- The significand and power of ten of a numeral. -/
def significand (n : Numeral) : Significand :=
  n.fraction.foldl Significand.addFraction ⟨n.wholePart.value, n.wholePart.power, false⟩

/-- The number that a numeral stands for, if it is in range. -/
def number? (n : Numeral) : Option Number :=
  let size := n.wholePart.value
  let plain := !n.point && n.exponent.isNone && !n.wholePart.full
  if plain && !n.negative then some (.whole size)
  else if plain && decide (0 < size ∧ size ≤ Nat.pow 2 63) then some (.whole (-(size : Int)))
  else do
    let magnitude ← Binary64.ofScaled? n.significand.value (n.significand.power + n.exponent.getD 0)
    return .double (if n.negative then magnitude.neg else magnitude)

end Numeral

/-- The digits in front of a text, and the rest. -/
def splitDigits (cs : List Char) : List Char × List Char :=
  (cs.takeWhile fun c => (digit? c).isSome, cs.dropWhile fun c => (digit? c).isSome)

/-- Reads an exponent, if there is one. -/
def readExponent (cs : List Char) (offset : Nat) : Progress (Option Int) :=
  match cs with
  | mark :: rest =>
    if mark = 'e' ∨ mark = 'E' then
      let (negative, rest, offset) := match rest with
        | '-' :: rest => (true, rest, offset + 2)
        | '+' :: rest => (false, rest, offset + 2)
        | _ => (false, rest, offset + 1)
      let (digits, after) := splitDigits rest
      match digits? digits with
      | some size =>
        .done (some (if negative then -(size : Int) else size)) after (offset + digits.length)
      | none =>
        match rest with
        | [] => .broken ⟨.endInNumber, offset⟩
        | _ => .broken ⟨.invalidNumber, offset + 1⟩
    else .done none cs offset
  | [] => .done none cs offset

/-- Reads the digits after a point, if there is one. -/
def readFraction (cs : List Char) (offset : Nat) : Progress (Bool × List Char) :=
  match cs with
  | '.' :: rest =>
    match splitDigits rest with
    | ([], []) => .broken ⟨.endInNumber, offset + 1⟩
    | ([], _) => .broken ⟨.invalidNumber, offset + 2⟩
    | (digits, after) => .done (true, digits) after (offset + 1 + digits.length)
  | _ => .done (false, []) cs offset

/-- Reads the digits before the point: a zero stands alone. -/
def readWhole (cs : List Char) (offset : Nat) : Progress (List Char) :=
  match splitDigits cs with
  | ([], []) => .broken ⟨.endInNumber, offset⟩
  | ([], _) => .broken ⟨.invalidNumber, offset + 1⟩
  | ('0' :: _ :: _, _) => .broken ⟨.invalidNumber, offset + 2⟩
  | (digits, after) => .done digits after (offset + digits.length)

/-- Reads a numeral. -/
def readNumeral (cs : List Char) (offset : Nat) : Progress Numeral :=
  let (negative, unsigned, start) := match cs with
    | '-' :: rest => (true, rest, offset + 1)
    | _ => (false, cs, offset)
  match readWhole unsigned start with
  | .broken fault => .broken fault
  | .done wholeDigits rest offset =>
    match readFraction rest offset with
    | .broken fault => .broken fault
    | .done (point, fraction) rest offset =>
      match readExponent rest offset with
      | .broken fault => .broken fault
      | .done exponent rest offset =>
        .done ⟨negative, wholeDigits, fraction, exponent, point⟩ rest offset

/-! ## Values -/

/-- What is left after a value and how many bytes came before it; none after a break. -/
abbrev Remainder := Option (List Char × Nat)

/-- Reads the rest of a word of which the first character has been read. -/
def readWord : (expected cs : List Char) → Nat → Progress Unit
  | [], cs, offset => .done () cs offset
  | _ :: _, [], offset => .broken ⟨.endInValue, offset⟩
  | e :: expected, c :: rest, offset =>
    if c = e then readWord expected rest (offset + 1) else .broken ⟨.expectedWord, offset + 1⟩

/-- A tree after whose text something is left, or a broken one. -/
def Progress.toNode {α : Type} (progress : Progress α) (node : Nat → α → Node) :
    Node × Remainder :=
  match progress with
  | .done value rest offset => (node offset value, some (rest, offset))
  | .broken fault => (.broken fault, none)

/-- Reads a value that is neither list nor object and begins with the character `c`. -/
def readScalar (depth : Nat) (c : Char) (rest : List Char) (offset : Nat) : Node × Remainder :=
  let span := fun stop => (⟨offset, stop, depth⟩ : Span)
  match c with
  | 'n' => (readWord "ull".toList rest (offset + 1)).toNode fun stop _ => .null (span stop)
  | 't' => (readWord "rue".toList rest (offset + 1)).toNode fun stop _ => .bool (span stop) true
  | 'f' => (readWord "alse".toList rest (offset + 1)).toNode fun stop _ => .bool (span stop) false
  | '"' =>
    (readPieces rest (offset + 1)).toNode fun stop pieces =>
      .string (span stop) (textOfPieces pieces)
  | _ =>
    if c = '-' ∨ (digit? c).isSome then
      (readNumeral (c :: rest) offset).toNode fun stop numeral =>
        .number (span stop) <|
          match numeral.number? with
          | some number => .ok number
          | none => .error ⟨.numberOutOfRange, stop⟩
    else (.broken ⟨.expectedValue, offset + 1⟩, none)

/-- Where an array or object has ended: where its text goes on, or where it breaks. -/
def stopOf (remainder : Remainder) (fault : Option Fault) : Nat :=
  match remainder with
  | some (_, offset) => offset
  | none => (fault.map (·.offset)).getD 0

/-- A field whose name breaks the text. -/
def brokenEntry (fault : Fault) : Name × Node := (⟨.error fault, fault.offset⟩, .broken fault)

mutual

/-- Reads a value; `fuel` bounds the number of values and is never used up by a text that is
shorter. -/
def readValue : (fuel depth : Nat) → List Char → Nat → Node × Remainder
  | 0, _, _, offset => (.broken ⟨.endInValue, offset⟩, none)
  | fuel + 1, depth, cs, offset =>
    match skipGap cs offset with
    | ([], offset) => (.broken ⟨.endInValue, offset⟩, none)
    | ('[' :: rest, offset) =>
      let (items, remainder) := readItems fuel (depth + 1) true rest (offset + 1)
      let stop := stopOf remainder (Node.itemsBreakFault items)
      (.array ⟨offset, stop, depth⟩ items, remainder)
    | ('{' :: rest, offset) =>
      let (entries, remainder) := readEntries fuel (depth + 1) true rest (offset + 1)
      let stop := stopOf remainder (Node.entriesBreakFault entries)
      (.object ⟨offset, stop, depth⟩ entries, remainder)
    | (c :: rest, offset) => readScalar depth c rest offset

/-- Reads the values of a list up to its end; `first` tells whether none has been read. -/
def readItems : (fuel depth : Nat) → (first : Bool) → List Char → Nat → List Node × Remainder
  | 0, _, _, _, offset => ([.broken ⟨.endInList, offset⟩], none)
  | fuel + 1, depth, first, cs, offset =>
    let more := fun (cs : List Char) (offset : Nat) =>
      match readValue fuel depth cs offset with
      | (item, none) => ([item], none)
      | (item, some (rest, offset)) =>
        let (items, remainder) := readItems fuel depth false rest offset
        (item :: items, remainder)
    match skipGap cs offset with
    | ([], offset) => ([.broken ⟨.endInList, offset⟩], none)
    | (']' :: rest, offset) => ([], some (rest, offset + 1))
    | (c :: rest, offset) =>
      if first then more (c :: rest) offset
      else if c = ',' then
        match skipGap rest (offset + 1) with
        | ([], offset) => ([.broken ⟨.endInValue, offset⟩], none)
        | (']' :: _, offset) => ([.broken ⟨.trailingComma, offset + 1⟩], none)
        | (rest, offset) => more rest offset
      else ([.broken ⟨.expectedListEnd, offset + 1⟩], none)

/-- Reads the fields of an object up to its end; `first` tells whether none has been read. -/
def readEntries :
    (fuel depth : Nat) → (first : Bool) → List Char → Nat → List (Name × Node) × Remainder
  | 0, _, _, _, offset => ([brokenEntry ⟨.endInObject, offset⟩], none)
  | fuel + 1, depth, first, cs, offset =>
    let more := fun (cs : List Char) (offset : Nat) =>
      match readPieces cs (offset + 1) with
      | .broken fault => ([brokenEntry fault], none)
      | .done pieces rest offset =>
        let (rest, offset) := skipGap rest offset
        let name : Name := ⟨textOfPieces pieces, offset⟩
        match rest with
        | [] => ([(name, .broken ⟨.endInObject, offset⟩)], none)
        | ':' :: rest =>
          match readValue fuel depth rest (offset + 1) with
          | (value, none) => ([(name, value)], none)
          | (value, some (rest, offset)) =>
            let (entries, remainder) := readEntries fuel depth false rest offset
            ((name, value) :: entries, remainder)
        | _ => ([(name, .broken ⟨.expectedColon, offset + 1⟩)], none)
    match skipGap cs offset with
    | ([], offset) => ([brokenEntry ⟨.endInObject, offset⟩], none)
    | ('}' :: rest, offset) => ([], some (rest, offset + 1))
    | (c :: rest, offset) =>
      if first then
        if c = '"' then more rest offset else ([brokenEntry ⟨.nameNotString, offset + 1⟩], none)
      else if c = ',' then
        match skipGap rest (offset + 1) with
        | ([], offset) => ([brokenEntry ⟨.endInValue, offset⟩], none)
        | ('"' :: rest, offset) => more rest offset
        | ('}' :: _, offset) => ([brokenEntry ⟨.trailingComma, offset + 1⟩], none)
        | (_, offset) => ([brokenEntry ⟨.nameNotString, offset + 1⟩], none)
      else ([brokenEntry ⟨.expectedObjectEnd, offset + 1⟩], none)

end

/-- A whole text: its value, and the fault of what stands after it. -/
structure Document where
  /-- The value. -/
  root : Node
  /-- The fault of text after the value. -/
  ending : Option Fault

/-- The tree of a text. -/
def Document.ofText (text : String) : Document :=
  let cs := text.toList
  let (root, remainder) := readValue (2 * cs.length + 2) 0 cs 0
  let ending := remainder.bind fun (rest, offset) =>
    match skipGap rest offset with
    | ([], _) => none
    | (_, offset) => some ⟨.trailingText, offset + 1⟩
  ⟨root, ending⟩

end OrderPipeline.Json
