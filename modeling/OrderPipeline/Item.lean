import OrderPipeline.Attributes.Basic
import OrderPipeline.Stage

/-!
# Orders

An `Item` is one customer's order on its way through the stages: who ordered, where it stands, what
was recorded at each stage (`Item.logs`, oldest first), and the attributes that all of that adds up
to. `Item.recordData` is the one way in which a form changes an order: the data is laid over the
attributes and kept unchanged in a new log.
-/

namespace OrderPipeline

/-- The identifier of an order. -/
structure ItemId where
  /-- The identifier as it is written. -/
  text : String
  deriving DecidableEq, Inhabited

/-- What was recorded at a stage, unchanged since. -/
structure StageLog where
  /-- The stage. -/
  stage : Stage
  /-- When it was recorded. -/
  time : Instant
  /-- What the form was filled in with. -/
  data : Attributes
  deriving DecidableEq, Inhabited

/-- One customer's order on its way through the stages. -/
structure Item where
  /-- The identifier. -/
  id : ItemId
  /-- The name of the customer. -/
  customerName : String
  /-- How to reach the customer. -/
  phone : String
  /-- Where the order goes. -/
  siteLocation : String
  /-- What is ordered. -/
  requirement : Option String := none
  /-- The amount that was quoted. -/
  quotationAmount : Option Decimal := none
  /-- When the customer expects the order. -/
  expectedDeliveryDate : Option Date := none
  /-- Where the order stands. -/
  stage : Stage := .followup
  /-- What was recorded, oldest first. -/
  logs : List StageLog := []
  /-- The attributes that all records add up to. -/
  attributes : Attributes := .empty
  deriving DecidableEq, Inhabited

namespace Stage

/-- The stage as JSON. -/
def toJson (stage : Stage) : Json := .string stage.name

/-- Reads a stage by its exact identifier. -/
def decode (kept : Bool) : Json.Decoder Stage :=
  Json.Node.asChoice (all.map fun stage => (stage.name, stage)) (all.map name) kept

end Stage

namespace StageLog

/-- The log with its amount in lowest terms. -/
def canonical (log : StageLog) : StageLog := { log with data := log.data.canonical }

/-- The log as a record. -/
def toJson (log : StageLog) : Json :=
  .object [("stage", log.stage.toJson), ("timestamp", .string log.time.text),
    ("data", log.data.toJson)]

/-- Reads a log from a record. -/
def decode (kept : Bool) : Json.Decoder StageLog := fun node => do
  let fields ← node.asFields "StageLog" ["stage", "timestamp", "data"]
  let stage := fields.required "stage" (Stage.decode kept)
  let time := fields.required "timestamp" Json.Node.asInstant
  let data := fields.required "data" (Attributes.decode kept)
  Json.both (Json.both (Json.both (fields.begin StageLog.mk) stage) time) data

end StageLog

namespace Item

/-- Whether the order is finished. -/
def isCompleted (item : Item) : Bool := item.stage.isTerminal

/-- Whether something was recorded at a stage. -/
def hasLogFor (item : Item) (stage : Stage) : Bool :=
  item.logs.any fun log => log.stage == stage

/-- What is still to be paid of the quoted amount. -/
def balance (item : Item) : Option Decimal :=
  item.quotationAmount.map fun quoted =>
    quoted.sub (item.attributes.paidAmount.getD Decimal.zero)

/-- Whether the customer's name holds a search term, both in lower case; a blank term fits every
order. -/
def matchesSearch (item : Item) (term : String) : Bool :=
  let wanted := (Text.lower (Text.trim term)).toList
  wanted.isEmpty || Text.occursIn wanted (Text.lower item.customerName).toList

/-- The order with data recorded at a stage: laid over the attributes, and kept in a new log. -/
def recordData (item : Item) (stage : Stage) (data : Attributes) (time : Instant) : Item :=
  { item with attributes := item.attributes.merge data, logs := item.logs ++ [⟨stage, time, data⟩] }

/-- The order with its amounts in lowest terms, so that equal amounts are the same. -/
def canonical (item : Item) : Item :=
  { item with
    quotationAmount := item.quotationAmount.map Decimal.normalize
    logs := item.logs.map StageLog.canonical
    attributes := item.attributes.canonical }

/-- The order's own fields and its attributes, in stored order. -/
def toEntries (item : Item) : List (String × Json) :=
  let own : List (String × Option Json) :=
    [("id", some (.string item.id.text)), ("customerName", some (.string item.customerName)),
      ("phone", some (.string item.phone)), ("siteLocation", some (.string item.siteLocation)),
      ("requirement", item.requirement.map .string),
      ("quotationAmount", item.quotationAmount.map fun amount => .string amount.text),
      ("expectedDeliveryDate", item.expectedDeliveryDate.map fun date => .string date.text),
      ("currentStage", some item.stage.toJson),
      ("stageLogs", some (.array (item.logs.map StageLog.toJson)))]
  (own.filterMap fun entry => entry.2.map fun value => (entry.1, value)) ++
    item.attributes.toEntries

/-- The order as a record, with its attributes beside its own fields. -/
def toJson (item : Item) : Json := .object item.toEntries

/-- The names of the order's own fields. -/
def ownNames : List String :=
  ["id", "customerName", "phone", "siteLocation", "requirement", "quotationAmount",
    "expectedDeliveryDate", "currentStage", "stageLogs"]

/-- Reads the attributes from the fields that are not the order's own. They are set aside until the
order has been read, so their faults are reported at its end. -/
def decodeAttributes (entries : List (Json.Name × Json.Node)) (stop : Nat) :
    Except Json.Fault Attributes :=
  let names := Attribute.all.map Attribute.name
  let others := entries.filter fun (name, _) =>
    match name.text with
    | .ok text => text ∉ ownNames
    | .error _ => false
  let given := Json.namedEntries others
  let flaw := Json.entriesFlaw (fun _ => none) names [] others
  let fields : Json.Fields := ⟨given, flaw, fun field => ⟨.missingField field, stop⟩⟩
  (Attributes.decodeFields true fields).mapError fun fault => { fault with offset := stop }

/-- Reads an order from a record, which has to be an object. -/
def decode (kept : Bool) : Json.Decoder Item
  | .object span entries =>
    let given := (Json.namedEntries entries).filter fun entry => entry.1 ∈ ownNames
    let flaw := Json.entriesFlaw Json.Node.valueFault ownNames [] entries
    let fields : Json.Fields := ⟨given, flaw, fun field => ⟨.missingField field, span.stop⟩⟩
    let text := fun name => fields.required name Json.Node.asString
    let item := Json.both (fields.begin Item.mk) ((text "id").map ItemId.mk)
    let item := Json.both (Json.both item (text "customerName")) (text "phone")
    let item := Json.both item (text "siteLocation")
    let item := Json.both item (fields.optional "requirement" Json.Node.asString)
    let item := Json.both item (fields.optional "quotationAmount" Json.Node.asDecimal)
    let item := Json.both item (fields.optional "expectedDeliveryDate" Json.Node.asDate)
    let item := Json.both item (fields.required "currentStage" (Stage.decode kept))
    let logs := Json.Node.asList (StageLog.decode kept)
    let item := Json.both item (fields.withDefault "stageLogs" [] logs)
    Json.both item (decodeAttributes entries span.stop)
  | node => .error (node.wrongKind "struct Item")

@[simp] theorem recordData_id (item : Item) (stage : Stage) (data : Attributes) (time : Instant) :
    (item.recordData stage data time).id = item.id := rfl

@[simp] theorem recordData_stage (item : Item) (stage : Stage) (data : Attributes)
    (time : Instant) : (item.recordData stage data time).stage = item.stage := rfl

@[simp] theorem recordData_logs (item : Item) (stage : Stage) (data : Attributes)
    (time : Instant) :
    (item.recordData stage data time).logs = item.logs ++ [⟨stage, time, data⟩] := rfl

@[simp] theorem recordData_attributes (item : Item) (stage : Stage) (data : Attributes)
    (time : Instant) :
    (item.recordData stage data time).attributes = item.attributes.merge data := rfl

end Item

end OrderPipeline
