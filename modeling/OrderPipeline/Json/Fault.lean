/-!
# Faults of JSON texts

What can be wrong with a JSON text, either as JSON or as the record that it should describe, and
where. An `offset` counts bytes from the beginning of the text; `Fault.describe` turns it into a
line and a column.
-/

namespace OrderPipeline.Json

/-- What is wrong with a text. -/
inductive Cause where
  /-- The text ends inside a list. -/
  | endInList
  /-- The text ends inside an object. -/
  | endInObject
  /-- The text ends inside a string. -/
  | endInString
  /-- The text ends where a value is needed. -/
  | endInValue
  /-- The text ends inside a number. -/
  | endInNumber
  /-- A colon is missing after the name of a field. -/
  | expectedColon
  /-- A list goes on without a comma. -/
  | expectedListEnd
  /-- An object goes on without a comma. -/
  | expectedObjectEnd
  /-- A word other than `null`, `true` and `false`. -/
  | expectedWord
  /-- No value begins with the character. -/
  | expectedValue
  /-- An escape that does not exist. -/
  | invalidEscape
  /-- A number that is not written as one. -/
  | invalidNumber
  /-- A number past the largest double. -/
  | numberOutOfRange
  /-- A control character inside a string. -/
  | controlCharacter
  /-- A field whose name is no string. -/
  | nameNotString
  /-- A surrogate without its other half. -/
  | loneSurrogate
  /-- A leading surrogate that no escape follows. -/
  | surrogateEnd
  /-- A comma before the end of a list or object. -/
  | trailingComma
  /-- More text after the value. -/
  | trailingText
  /-- Values are nested too deeply. -/
  | tooDeep
  /-- A value of another kind. -/
  | wrongKind (found expected : String)
  /-- A value of the right kind that is not allowed. -/
  | wrongValue (found expected : String)
  /-- A list in place of a record has too few entries. -/
  | wrongLength (found : Nat) (expected : String)
  /-- A name that stands for none of the choices. -/
  | unknownChoice (found : String) (choices : List String)
  /-- A field that is given twice. -/
  | duplicateField (name : String)
  /-- A field that is not given. -/
  | missingField (name : String)
  /-- A text that its own reader refuses. -/
  | refused (reason : String)
  deriving DecidableEq

/-- Names in quotes with commas between them, introduced as the choices there are. -/
def choiceList (choices : List String) : String :=
  let quoted := choices.map fun choice => "`" ++ choice ++ "`"
  match quoted with
  | [] => "there are no variants"
  | [only] => "expected " ++ only
  | [one, other] => "expected " ++ one ++ " or " ++ other
  | _ => "expected one of " ++ ", ".intercalate quoted

/-- What is said about a cause. -/
def Cause.message : Cause → String
  | .endInList => "EOF while parsing a list"
  | .endInObject => "EOF while parsing an object"
  | .endInString => "EOF while parsing a string"
  | .endInValue | .endInNumber => "EOF while parsing a value"
  | .expectedColon => "expected `:`"
  | .expectedListEnd => "expected `,` or `]`"
  | .expectedObjectEnd => "expected `,` or `\x7d`"
  | .expectedWord => "expected ident"
  | .expectedValue => "expected value"
  | .invalidEscape => "invalid escape"
  | .invalidNumber => "invalid number"
  | .numberOutOfRange => "number out of range"
  | .controlCharacter => "control character (\\u0000-\\u001F) found while parsing a string"
  | .nameNotString => "key must be a string"
  | .loneSurrogate => "lone leading surrogate in hex escape"
  | .surrogateEnd => "unexpected end of hex escape"
  | .trailingComma => "trailing comma"
  | .trailingText => "trailing characters"
  | .tooDeep => "recursion limit exceeded"
  | .wrongKind found expected => "invalid type: " ++ found ++ ", expected " ++ expected
  | .wrongValue found expected => "invalid value: " ++ found ++ ", expected " ++ expected
  | .wrongLength found expected =>
    "invalid length " ++ toString found ++ ", expected " ++ expected
  | .unknownChoice found choices =>
    "unknown variant `" ++ found ++ "`, " ++ choiceList choices
  | .duplicateField name => "duplicate field `" ++ name ++ "`"
  | .missingField name => "missing field `" ++ name ++ "`"
  | .refused reason => reason

/-- A cause and the place where the text was left. -/
structure Fault where
  /-- What is wrong. -/
  cause : Cause
  /-- How many bytes had been read. -/
  offset : Nat
  deriving DecidableEq

namespace Fault

/-- The line, from one, and the column, in bytes read on it, after reading some bytes. -/
def place : (cs : List Char) → (bytes line column : Nat) → Nat × Nat
  | _, 0, line, column => (line, column)
  | [], _, line, column => (line, column)
  | c :: rest, bytes, line, column =>
    if bytes < c.utf8Size then (line, column + bytes)
    else if c = '\n' then place rest (bytes - c.utf8Size) (line + 1) 0
    else place rest (bytes - c.utf8Size) line (column + c.utf8Size)

/-- What is said about a fault of a text. -/
def describe (fault : Fault) (text : String) : String :=
  let (line, column) := place text.toList fault.offset 1 0
  fault.cause.message ++ " at line " ++ toString line ++ " column " ++ toString column

end Fault

/-- Applies a function to a value when both are there, and reports the earlier of two faults
otherwise. -/
def both {α β : Type} (function : Except Fault (α → β)) (value : Except Fault α) :
    Except Fault β :=
  match function, value with
  | .ok f, .ok x => .ok (f x)
  | .error fault, .ok _ => .error fault
  | .ok _, .error fault => .error fault
  | .error first, .error second => .error (if second.offset < first.offset then second else first)

@[simp] theorem both_ok {α β : Type} (f : α → β) (x : α) :
    both (.ok f) (.ok x) = .ok (f x) := rfl

end OrderPipeline.Json
