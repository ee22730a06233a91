import OrderPipeline.Json.Decode

/-!
# Values of attributes

What an attribute of an order can hold. `ValueType` names the kinds of values, `ValueType.Carrier`
is the type of each, and the functions on it say how a value is written as JSON
(`ValueType.encode`), read from JSON (`ValueType.decode`) and shown in a table
(`ValueType.cell`).
-/

namespace OrderPipeline

/-! ## Choices -/

/-- One of a fixed list of choices: how it is stored, how it is shown on a form, and whether the
shown form is also accepted in a record. -/
structure Choice (α : Type) where
  /-- The choice itself. -/
  value : α
  /-- How it is stored. -/
  name : String
  /-- How it is shown. -/
  label : String

/-- The answers of a customer who is followed up. -/
inductive FollowupStatus where
  /-- The customer is called again. -/
  | followUp
  /-- The order came in. -/
  | orderReceived
  /-- No order came in. -/
  | notReceived
  /-- The customer needs time. -/
  | needTime
  /-- The customer is interested. -/
  | interested
  /-- The customer is not interested. -/
  | notInterested
  /-- The customer confirmed. -/
  | confirmed
  deriving DecidableEq

/-- Yes or no. -/
inductive YesNo where
  /-- Yes. -/
  | yes
  /-- No. -/
  | no
  deriving DecidableEq

/-- The part of a day. -/
inductive TimeSlot where
  /-- Before noon. -/
  | morning
  /-- After noon. -/
  | afternoon
  /-- At the end of the day. -/
  | evening
  deriving DecidableEq

/-- How far an installation is. -/
inductive InstallStatus where
  /-- It is done. -/
  | completed
  /-- It is done in part. -/
  | partially
  /-- It has not begun. -/
  | pending
  deriving DecidableEq

/-- How a payment is made. -/
inductive PaymentMode where
  /-- In cash. -/
  | cash
  /-- By mobile transfer. -/
  | upi
  /-- By bank transfer. -/
  | bank
  deriving DecidableEq

/-- The choices of a follow-up status. -/
def FollowupStatus.choices : List (Choice FollowupStatus) :=
  [⟨.followUp, "follow_up", "Follow Up"⟩, ⟨.orderReceived, "order_received", "Order Received"⟩,
    ⟨.notReceived, "not_received", "Not Received"⟩, ⟨.needTime, "need_time", "Need Time"⟩,
    ⟨.interested, "interested", "Interested"⟩,
    ⟨.notInterested, "not_interested", "Not Interested"⟩, ⟨.confirmed, "confirmed", "Confirmed"⟩]

/-- The choices of yes and no. -/
def YesNo.choices : List (Choice YesNo) := [⟨.yes, "yes", "Yes"⟩, ⟨.no, "no", "No"⟩]

/-- The choices of a part of a day. -/
def TimeSlot.choices : List (Choice TimeSlot) :=
  [⟨.morning, "morning", "Morning"⟩, ⟨.afternoon, "afternoon", "Afternoon"⟩,
    ⟨.evening, "evening", "Evening"⟩]

/-- The choices of an installation status. -/
def InstallStatus.choices : List (Choice InstallStatus) :=
  [⟨.completed, "completed", "Completed"⟩, ⟨.partially, "partial", "Partial"⟩,
    ⟨.pending, "pending", "Pending"⟩]

/-- The choices of a payment mode. -/
def PaymentMode.choices : List (Choice PaymentMode) :=
  [⟨.cash, "cash", "Cash"⟩, ⟨.upi, "upi", "UPI"⟩, ⟨.bank, "bank", "Bank Transfer"⟩]

/-- How a choice is stored. -/
def nameOf {α : Type} [DecidableEq α] (choices : List (Choice α)) (value : α) : String :=
  ((choices.find? fun choice => choice.value == value).map (·.name)).getD ""

/-- The stored names with their choices. -/
def byName {α : Type} (choices : List (Choice α)) : List (String × α) :=
  choices.map fun choice => (choice.name, choice.value)

/-- The stored names and the labels with their choices. -/
def byNameOrLabel {α : Type} (choices : List (Choice α)) : List (String × α) :=
  choices.flatMap fun choice => [(choice.label, choice.value), (choice.name, choice.value)]

/-! ## Files -/

/-- A reference to an uploaded file, of which nothing but the name and an address is kept. -/
structure FileRef where
  /-- The name of the file. -/
  name : String
  /-- Where it is found for the time being. -/
  url : String
  deriving DecidableEq

namespace FileRef

/-- The file as a record. -/
def toJson (file : FileRef) : Json :=
  .object [("name", .string file.name), ("url", .string file.url)]

/-- Reads a file from a record. -/
def decode : Json.Decoder FileRef := fun node => do
  let fields ← node.asFields "FileRef" ["name", "url"]
  Json.both (Json.both (fields.begin FileRef.mk) (fields.required "name" Json.Node.asString))
    (fields.required "url" Json.Node.asString)

end FileRef

/-! ## Kinds of values -/

/-- The kinds of values that an attribute can hold. -/
inductive ValueType where
  /-- A text. -/
  | text
  /-- A date. -/
  | date
  /-- The answer of a customer who is followed up. -/
  | followupStatus
  /-- Yes or no. -/
  | yesNo
  /-- A part of a day. -/
  | timeSlot
  /-- How far an installation is. -/
  | installStatus
  /-- How a payment is made. -/
  | paymentMode
  /-- A number of pieces. -/
  | quantity
  /-- A share of work in per cent. -/
  | percentage
  /-- A number of stars. -/
  | stars
  /-- Something that is or is not so. -/
  | flag
  /-- An amount of money. -/
  | amount
  /-- A list of files. -/
  | files
  deriving DecidableEq

namespace ValueType

/-- The values of a kind. -/
abbrev Carrier : ValueType → Type
  | text => String
  | date => Date
  | followupStatus => FollowupStatus
  | yesNo => YesNo
  | timeSlot => TimeSlot
  | installStatus => InstallStatus
  | paymentMode => PaymentMode
  | quantity => UInt32
  | percentage => UInt8
  | stars => UInt8
  | flag => Bool
  | amount => Decimal
  | files => List FileRef

/-- Equality of values can be decided. -/
instance decEqCarrier : (type : ValueType) → DecidableEq type.Carrier
  | text => inferInstanceAs (DecidableEq String)
  | date => inferInstanceAs (DecidableEq Date)
  | followupStatus => inferInstanceAs (DecidableEq FollowupStatus)
  | yesNo => inferInstanceAs (DecidableEq YesNo)
  | timeSlot => inferInstanceAs (DecidableEq TimeSlot)
  | installStatus => inferInstanceAs (DecidableEq InstallStatus)
  | paymentMode => inferInstanceAs (DecidableEq PaymentMode)
  | quantity => inferInstanceAs (DecidableEq UInt32)
  | percentage => inferInstanceAs (DecidableEq UInt8)
  | stars => inferInstanceAs (DecidableEq UInt8)
  | flag => inferInstanceAs (DecidableEq Bool)
  | amount => inferInstanceAs (DecidableEq Decimal)
  | files => inferInstanceAs (DecidableEq (List FileRef))

/-- The value as JSON. -/
def encode : (type : ValueType) → type.Carrier → Json
  | text, value => .string value
  | date, value => .string value.text
  | followupStatus, value => .string (nameOf FollowupStatus.choices value)
  | yesNo, value => .string (nameOf YesNo.choices value)
  | timeSlot, value => .string (nameOf TimeSlot.choices value)
  | installStatus, value => .string (nameOf InstallStatus.choices value)
  | paymentMode, value => .string (nameOf PaymentMode.choices value)
  | quantity, value => .count value.toNat
  | percentage, value => .count value.toNat
  | stars, value => .count value.toNat
  | flag, value => .bool value
  | amount, value => .string value.text
  | files, value => .array (value.map FileRef.toJson)

/-- Reads one of several choices by the names given for them. -/
def decodeChoice {α : Type} (choices : List (String × α)) (kept : Bool) : Json.Decoder α :=
  Json.Node.asChoice choices (choices.map (·.1)) kept

/-- Reads a value; `kept` tells whether the value had been set aside before it was read. Yes and no
and the parts of a day are also read by their labels. -/
def decode (kept : Bool) : (type : ValueType) → Json.Decoder type.Carrier
  | text => Json.Node.asString
  | date => Json.Node.asDate
  | followupStatus => decodeChoice (byName FollowupStatus.choices) kept
  | yesNo => decodeChoice (byNameOrLabel YesNo.choices) kept
  | timeSlot => decodeChoice (byNameOrLabel TimeSlot.choices) kept
  | installStatus => decodeChoice (byName InstallStatus.choices) kept
  | paymentMode => decodeChoice (byName PaymentMode.choices) kept
  | quantity => Json.Node.asWord32
  | percentage => Json.Node.asWord8
  | stars => Json.Node.asWord8
  | flag => Json.Node.asBool
  | amount => Json.Node.asDecimal
  | files => Json.Node.asList FileRef.decode

/-- A text in a table; a dash where there is none. -/
def textCell (text : String) : String := if text.isEmpty then "-" else text

/-- The value in a table. -/
def cell : (type : ValueType) → type.Carrier → String
  | text, value => textCell value
  | date, value => value.text
  | followupStatus, value => nameOf FollowupStatus.choices value
  | yesNo, value => nameOf YesNo.choices value
  | timeSlot, value => nameOf TimeSlot.choices value
  | installStatus, value => nameOf InstallStatus.choices value
  | paymentMode, value => nameOf PaymentMode.choices value
  | quantity, value => toString value.toNat
  | percentage, value => toString value.toNat
  | stars, value => toString value.toNat
  | flag, value => if value then "Yes" else "No"
  | amount, value => value.normalize.text
  | files, value =>
    if value.isEmpty then "-" else ", ".intercalate (value.map fun file => textCell file.name)

/-- The value with an amount in lowest terms and all else as it is. -/
def canonical : (type : ValueType) → type.Carrier → type.Carrier
  | amount, value => value.normalize
  | _, value => value

end ValueType

end OrderPipeline
