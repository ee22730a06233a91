/-!
# JSON values and how they are written

`Json` is the value that a record is written as; objects are lists of entries, so the order of the
fields is part of the value. `Json.chars` writes it compactly and `Json.prettyChars` with an
indentation of two blanks; both leave every character outside ASCII as it is.
-/

namespace OrderPipeline

/-- A JSON value without fractions, which nothing here writes. -/
inductive Json where
  /-- The absent value. -/
  | null
  /-- A truth value. -/
  | bool (value : Bool)
  /-- A whole number. -/
  | whole (value : Int)
  /-- A text. -/
  | string (value : String)
  /-- A list of values. -/
  | array (items : List Json)
  /-- A list of named values. -/
  | object (entries : List (String × Json))
  deriving Inhabited

namespace Json

/-- A natural number. -/
def count (n : Nat) : Json := .whole n

/-- A value, or null for none. -/
def ofOption (value : Option Json) : Json := value.getD .null

/-- A digit of the hexadecimal system in lower case. -/
def hexDigit (n : Nat) : Char := Nat.digitChar (n % 16)

/-- A character as it stands inside a written string. -/
def escapeChar (c : Char) : List Char :=
  if c = '"' then ['\\', '"']
  else if c = '\\' then ['\\', '\\']
  else if c.toNat = 8 then ['\\', 'b']
  else if c.toNat = 12 then ['\\', 'f']
  else if c = '\n' then ['\\', 'n']
  else if c = '\r' then ['\\', 'r']
  else if c = '\t' then ['\\', 't']
  else if c.toNat < 32 then ['\\', 'u', '0', '0', hexDigit (c.toNat / 16), hexDigit c.toNat]
  else [c]

/-- A text as a written string. -/
def stringChars (text : String) : List Char :=
  '"' :: text.toList.flatMap escapeChar ++ ['"']

/-- The digits of a whole number after its sign. -/
def wholeChars (n : Int) : List Char :=
  if n < 0 then '-' :: Nat.toDigits 10 n.natAbs else Nat.toDigits 10 n.natAbs

mutual

/-- The compact form of a value. -/
def chars : Json → List Char
  | .null => "null".toList
  | .bool true => "true".toList
  | .bool false => "false".toList
  | .whole n => wholeChars n
  | .string text => stringChars text
  | .array items => '[' :: itemChars items ++ [']']
  | .object entries => '{' :: entryChars entries ++ ['}']

/-- The compact forms of values with commas between them. -/
def itemChars : List Json → List Char
  | [] => []
  | [item] => item.chars
  | item :: rest => item.chars ++ ',' :: itemChars rest

/-- The compact forms of named values with commas between them. -/
def entryChars : List (String × Json) → List Char
  | [] => []
  | [(name, value)] => stringChars name ++ ':' :: value.chars
  | (name, value) :: rest => stringChars name ++ ':' :: value.chars ++ ',' :: entryChars rest

end

/-- The compact text of a value. -/
def text (value : Json) : String := String.ofList value.chars

/-- A new line, indented to a depth. -/
def newLine (depth : Nat) : List Char := '\n' :: List.replicate (2 * depth) ' '

mutual

/-- The indented form of a value at a depth. -/
def prettyChars (depth : Nat) : Json → List Char
  | .array (item :: rest) =>
    '[' :: prettyItems (depth + 1) (item :: rest) ++ newLine depth ++ [']']
  | .object (entry :: rest) =>
    '{' :: prettyEntries (depth + 1) (entry :: rest) ++ newLine depth ++ ['}']
  | .array [] => ['[', ']']
  | .object [] => ['{', '}']
  | .null => "null".toList
  | .bool true => "true".toList
  | .bool false => "false".toList
  | .whole n => wholeChars n
  | .string text => stringChars text

/-- Indented values, each on a new line, with commas between them. -/
def prettyItems (depth : Nat) : List Json → List Char
  | [] => []
  | [item] => newLine depth ++ prettyChars depth item
  | item :: rest => newLine depth ++ prettyChars depth item ++ ',' :: prettyItems depth rest

/-- Indented named values, each on a new line, with commas between them. -/
def prettyEntries (depth : Nat) : List (String × Json) → List Char
  | [] => []
  | [(name, value)] =>
    newLine depth ++ stringChars name ++ ':' :: ' ' :: prettyChars depth value
  | (name, value) :: rest =>
    newLine depth ++ stringChars name ++ ':' :: ' ' :: prettyChars depth value ++
      ',' :: prettyEntries depth rest

end

/-- The indented text of a value. -/
def prettyText (value : Json) : String := String.ofList (prettyChars 0 value)

end Json

end OrderPipeline
