import OrderPipeline.Calendar.Instant
import OrderPipeline.Json.Reader
import OrderPipeline.Number.Whole
import OrderPipeline.Text.Basic

/-!
# Reading records from JSON trees

A decoder takes a `Node` to a value or to a `Fault`. Decoders for single values come first, then
`Fields`, the view of a tree as a record with named fields, which may be written as an object or as
the list of its fields.

Whatever a decoder does not look at it has to pass over with `Node.passedFault`, so that a text
that is not JSON is refused; of several faults the one that comes first in the text is reported
(`both`).
-/

namespace OrderPipeline.Json

/-- A reader of a value from a tree. -/
abbrev Decoder (α : Type) := Node → Except Fault α

/-! ## What was found -/

/-- A text as it is shown in a message. -/
def shownText (text : String) : String := "string " ++ Text.quoted text

/-- A double as it is shown in a message: with a point also where it is whole. -/
def shownDouble (value : Binary64) : String :=
  let cs := value.chars
  String.ofList (if cs.contains '.' then cs else cs ++ ['.', '0'])

/-- A number as it is shown in a message. -/
def Number.shown : Number → String
  | .whole n => "integer `" ++ toString n ++ "`"
  | .double value => "floating point `" ++ shownDouble value ++ "`"

namespace Node

/-- The fault of a value that is of another kind than `expected`. -/
def wrongKind (expected : String) : Node → Fault
  | .broken fault => fault
  | .null span => ⟨.wrongKind "null" expected, span.stop⟩
  | .bool span value => ⟨.wrongKind ("boolean `" ++ toString value ++ "`") expected, span.stop⟩
  | .number _ (.error fault) => fault
  | .number span (.ok value) => ⟨.wrongKind value.shown expected, span.stop⟩
  | .string _ (.error fault) => fault
  | .string span (.ok text) => ⟨.wrongKind (shownText text) expected, span.stop⟩
  | .array span _ => ⟨.wrongKind "sequence" expected, span.start⟩
  | .object span _ => ⟨.wrongKind "map" expected, span.start⟩

/-- The value passed over: only its syntax counts. -/
def skip (node : Node) : Except Fault Unit :=
  match node.breakFault with
  | some fault => .error fault
  | none => .ok ()

/-- The text of a string. -/
def asString : Decoder String
  | .string _ value => value
  | node => .error (node.wrongKind "a string")

/-- A truth value. -/
def asBool : Decoder Bool
  | .bool _ value => .ok value
  | node => .error (node.wrongKind "a boolean")

/-- A whole number below a limit; `expected` names its type. -/
def asBounded (limit : Nat) (expected : String) : Decoder (Fin limit)
  | .number span (.ok (.whole n)) =>
    match below? limit n with
    | some small => .ok small
    | none => .error ⟨.wrongValue (Number.whole n).shown expected, span.stop⟩
  | node => .error (node.wrongKind expected)

/-- A whole number of 32 bits. -/
def asWord32 : Decoder UInt32 := fun node =>
  (node.asBounded UInt32.size "u32").map UInt32.ofFin

/-- A whole number of 8 bits. -/
def asWord8 : Decoder UInt8 := fun node =>
  (node.asBounded UInt8.size "u8").map UInt8.ofFin

/-- What a decimal is called in a message. -/
def decimalName : String := "a Decimal type representing a fixed-point number"

/-- A decimal, written as a string or as a number: a double counts as its shortest digits. -/
def asDecimal : Decoder Decimal
  | .string _ (.error fault) => .error fault
  | .string span (.ok text) =>
    match Decimal.read? text with
    | some d => .ok d
    | none => .error ⟨.wrongValue (shownText text) decimalName, span.stop⟩
  | .number _ (.error fault) => .error fault
  | .number span (.ok value) =>
    let read := match value with
      | .whole n => Decimal.ofInt? n
      | .double x => Decimal.readPlain? x.chars
    match read with
    | some d => .ok d
    | none => .error ⟨.wrongValue value.shown decimalName, span.stop⟩
  | node => .error (node.wrongKind decimalName)

/-- A value that a string stands for; `expected` describes the string. -/
def asRead {α : Type} (read : String → Except CalendarFault α) (expected : String) : Decoder α
  | .string _ (.error fault) => .error fault
  | .string span (.ok text) =>
    match read text with
    | .ok value => .ok value
    | .error fault => .error ⟨.refused fault.message, span.stop⟩
  | node => .error (node.wrongKind expected)

/-- A date. -/
def asDate : Decoder Date := asRead Date.ofStored "a formatted date string"

/-- An instant. -/
def asInstant : Decoder Instant :=
  asRead Instant.ofStored "an RFC 3339 formatted date and time string"

/-- A value or null for none. -/
def asOption {α : Type} (decode : Decoder α) : Decoder (Option α)
  | .null _ => .ok none
  | node => (decode node).map some

/-- The values of a list, read in order up to the first fault. -/
def decodeAll {α : Type} (decode : Decoder α) : List Node → Except Fault (List α)
  | [] => .ok []
  | item :: rest => do
    let value ← decode item
    return value :: (← decodeAll decode rest)

/-- A list. -/
def asList {α : Type} (decode : Decoder α) : Decoder (List α)
  | .array _ items => decodeAll decode items
  | node => .error (node.wrongKind "a sequence")

/-- Whether a value may stand beside the name of a choice: null, or an empty object where the
value had been set aside (`kept`) before it was read. -/
def isNothing (kept : Bool) : Node → Bool
  | .null _ => true
  | .object _ [] => kept
  | _ => false

/-- The choice of a name, with the names that are listed when there is none. -/
def choose {α : Type} (choices : List (String × α)) (listed : List String) (stop : Nat)
    (name : String) : Except Fault α :=
  match choices.lookup name with
  | some choice => .ok choice
  | none => .error ⟨.unknownChoice name listed, stop⟩

/-- One of several named choices, written as its name or as an object with the name as its only
field and nothing as its value. -/
def asChoice {α : Type} (choices : List (String × α)) (listed : List String) (kept : Bool) :
    Decoder α
  | .broken fault => .error fault
  | .string span value => do choose choices listed span.stop (← value)
  | .object _ [(name, value)] => do
    let choice ← choose choices listed name.stop (← name.text)
    value.skip
    if value.isNothing kept then return choice
    else throw (value.wrongKind "unit")
  | .object span _ => .error ⟨.expectedValue, span.start + 1⟩
  | node => .error ⟨.expectedValue, node.start + 1⟩

end Node

/-! ## Records -/

/-- A tree seen as a record: its known fields, its first structural fault, and what is said about a
field that is absent. -/
structure Fields where
  /-- The known fields that are given. -/
  given : List (String × Node)
  /-- A field that is given twice, a break in a field that is passed over, or an entry too many. -/
  flaw : Option Fault
  /-- The fault of a field that is needed and absent. -/
  absent : String → Fault

/-- The earlier of two faults that may be there. -/
def earlier : Option Fault → Option Fault → Option Fault
  | some first, some second => some (if second.offset < first.offset then second else first)
  | some fault, none => some fault
  | none, fault => fault

/-- The structural fault of fields given in order, of which `seen` came before; `check` finds the
fault of a field that is not known. -/
def entriesFlaw (check : Node → Option Fault) (known seen : List String) :
    List (Name × Node) → Option Fault
  | [] => none
  | (name, value) :: rest =>
    match name.text with
    | .error fault => some fault
    | .ok text =>
      if text ∈ seen then some ⟨.duplicateField text, name.stop⟩
      else if text ∈ known then entriesFlaw check known (text :: seen) rest
      else (check value).or (entriesFlaw check known seen rest)

/-- The fields that have a name, with it. -/
def namedEntries (entries : List (Name × Node)) : List (String × Node) :=
  entries.filterMap fun (name, value) =>
    match name.text with
    | .ok text => some (text, value)
    | .error _ => none

/-- How a record is described by its name and the number of its fields. -/
def recordOf (name : String) (count : Nat) : String :=
  "struct " ++ name ++ " with " ++ toString count ++
    (if count = 1 then " element" else " elements")

/-- The fault of an entry past the last field: it is not read, so only where it begins counts. -/
def Node.surplusFault : Node → Fault
  | .broken fault =>
    match fault.cause with
    | .endInList | .trailingComma => fault
    | _ => ⟨.trailingText, fault.offset⟩
  | node => ⟨.trailingText, node.start + 1⟩

/-- The record called `name` with the given fields, written as an object or as a list. -/
def Node.asFields (name : String) (known : List String) : Decoder Fields
  | .object span entries =>
    let given := (namedEntries entries).filter fun entry => entry.1 ∈ known
    let flaw := entriesFlaw Node.passedFault known [] entries
    .ok ⟨given, flaw, fun field => ⟨.missingField field, span.stop⟩⟩
  | .array span items =>
    let flaw := (items.drop known.length).head?.map Node.surplusFault
    .ok ⟨known.zip items, flaw, fun _ =>
      ⟨.wrongLength items.length (recordOf name known.length), span.stop⟩⟩
  | node => .error (node.wrongKind ("struct " ++ name))

namespace Fields

/-- A value, unless the record has a structural fault. -/
def begin {α : Type} (fields : Fields) (value : α) : Except Fault α :=
  match fields.flaw with
  | some fault => .error fault
  | none => .ok value

/-- A field that is needed. -/
def required {α : Type} (fields : Fields) (name : String) (decode : Decoder α) : Except Fault α :=
  match fields.given.lookup name with
  | some node => decode node
  | none => .error (fields.absent name)

/-- A field that may be absent or null. -/
def optional {α : Type} (fields : Fields) (name : String) (decode : Decoder α) :
    Except Fault (Option α) :=
  match fields.given.lookup name with
  | some node => node.asOption decode
  | none => .ok none

/-- A field that may be absent, with the value that it has then. -/
def withDefault {α : Type} (fields : Fields) (name : String) (default : α) (decode : Decoder α) :
    Except Fault α :=
  match fields.given.lookup name with
  | some node => decode node
  | none => .ok default

end Fields

/-- Reads a whole text with a decoder. -/
def Document.decode {α : Type} (document : Document) (decode : Decoder α) : Except Fault α := do
  let value ← decode document.root
  match document.ending with
  | some fault => throw fault
  | none => return value

end OrderPipeline.Json
