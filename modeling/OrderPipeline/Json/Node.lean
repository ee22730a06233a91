import OrderPipeline.Json.Fault
import OrderPipeline.Json.Value
import OrderPipeline.Number.Binary64
import OrderPipeline.Number.DecimalReader

/-!
# Syntax trees of JSON texts

A `Node` is a JSON value as it stands in a text: it knows which bytes it covers, and it is there
even when the text is faulty. Where a text stops being JSON the tree has a `broken` leaf, which is
always the last one; a number or a string that is well written but has no value carries its fault
with it, since it matters only to a reader that looks at the value.

* `Node.breakFault` is the place where a value stops being JSON, and `Node.passedFault` the fault
  of a value that is passed over.
* `Node.valueFault` is the fault of a value that is read in full.
-/

namespace OrderPipeline.Json

/-- A number as it is read: a whole number of 64 bits, or else a double. -/
inductive Number where
  /-- A whole number written without point and exponent. -/
  | whole (value : Int)
  /-- Any other number. -/
  | double (value : Binary64)
  deriving DecidableEq

/-- The bytes that a value covers and how deeply it is nested. -/
structure Span where
  /-- Where the value begins. -/
  start : Nat
  /-- Where the value has ended. -/
  stop : Nat
  /-- How many lists and objects it stands in. -/
  depth : Nat
  deriving DecidableEq

/-- The name of a field as it stands in a text. -/
structure Name where
  /-- The name, or why there is none. -/
  text : Except Fault String
  /-- Where the name and the blanks after it have ended. -/
  stop : Nat

/-- A JSON value as it stands in a text. -/
inductive Node where
  /-- The text stops being JSON here. -/
  | broken (fault : Fault)
  /-- The word `null`. -/
  | null (span : Span)
  /-- The words `true` and `false`. -/
  | bool (span : Span) (value : Bool)
  /-- A number, or why it has no value. -/
  | number (span : Span) (value : Except Fault Number)
  /-- A string, or why it has no value. -/
  | string (span : Span) (value : Except Fault String)
  /-- A list. -/
  | array (span : Span) (items : List Node)
  /-- An object, with its fields in order. -/
  | object (span : Span) (entries : List (Name × Node))

/-- How many lists and objects may stand in one another. -/
def depthLimit : Nat := 127

/-- The fault of a value of which only the result is known. -/
def faultOf {α : Type} : Except Fault α → Option Fault
  | .ok _ => none
  | .error fault => some fault

namespace Node

mutual

/-- The place where the text of a value stops being JSON, if there is one. -/
def breakFault : Node → Option Fault
  | .broken fault => some fault
  | .array _ items => itemsBreakFault items
  | .object _ entries => entriesBreakFault entries
  | .null _ | .bool _ _ | .number _ _ | .string _ _ => none

/-- The first break in a list of values. -/
def itemsBreakFault : List Node → Option Fault
  | [] => none
  | item :: rest => item.breakFault.or (itemsBreakFault rest)

/-- The first break in the values of fields. -/
def entriesBreakFault : List (Name × Node) → Option Fault
  | [] => none
  | (_, value) :: rest => value.breakFault.or (entriesBreakFault rest)

end

mutual

/-- The first fault of a value all of whose parts are read, including one of nesting. -/
def valueFault : Node → Option Fault
  | .broken fault => some fault
  | .null _ | .bool _ _ => none
  | .number _ value => faultOf value
  | .string _ value => faultOf value
  | .array span items =>
    if depthLimit ≤ span.depth then some ⟨.tooDeep, span.start + 1⟩ else itemsValueFault items
  | .object span entries =>
    if depthLimit ≤ span.depth then some ⟨.tooDeep, span.start + 1⟩
    else entriesValueFault entries

/-- The first fault in a list of values. -/
def itemsValueFault : List Node → Option Fault
  | [] => none
  | item :: rest => item.valueFault.or (itemsValueFault rest)

/-- The first fault in fields, names included. -/
def entriesValueFault : List (Name × Node) → Option Fault
  | [] => none
  | (name, value) :: rest =>
    (faultOf name.text).or (value.valueFault.or (entriesValueFault rest))

end

/-- A fault as it is found when nobody looks at the value: a control character is then left unread,
and a number that is cut off is just no number. -/
def inPassing (fault : Fault) : Fault :=
  match fault.cause with
  | .controlCharacter => { fault with offset := fault.offset - 1 }
  | .endInNumber => { fault with cause := .invalidNumber }
  | _ => fault

/-- The fault of a value that is passed over. -/
def passedFault (node : Node) : Option Fault := node.breakFault.map inPassing

/-- Where a value begins. -/
def start : Node → Nat
  | .broken fault => fault.offset
  | .null span | .bool span _ | .number span _ | .string span _ | .array span _
  | .object span _ => span.start

end Node

end OrderPipeline.Json
