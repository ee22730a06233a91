import OrderPipeline.Tracker

/-!
# Actions and outcomes

An `Action` is a wish to change the tracker, an `Outcome` what became of it. Both have a JSON form;
that of an action names its kind and carries its content beside it.
-/

namespace OrderPipeline

/-- A wish to change the tracker. -/
inductive Action where
  /-- Add an order. -/
  | addItem (item : Item)
  /-- Replace the first order with the same identifier. -/
  | updateItem (item : Item)
  /-- Record data at a stage and move the order past it. -/
  | advance (id : ItemId) (stage : Stage) (data : Attributes)
  /-- Record data at a stage and leave the order where it is. -/
  | logStage (id : ItemId) (stage : Stage) (data : Attributes)
  /-- Put an entry into the activity feed. -/
  | addActivity (customerName action stage : String)
  /-- Put another tracker in place of this one. -/
  | load (tracker : Tracker)
  deriving DecidableEq, Inhabited

namespace Action

/-- What an action is called. -/
def name : Action → String
  | addItem _ => "add_item"
  | updateItem _ => "update_item"
  | advance .. => "advance"
  | logStage .. => "log_stage_action"
  | addActivity .. => "add_activity"
  | load _ => "load_state"

/-- The identifier of the order that an action is about, if it is about one. -/
def target? : Action → Option ItemId
  | addItem item => some item.id
  | updateItem item => some item.id
  | advance id .. => some id
  | logStage id .. => some id
  | addActivity .. => none
  | load _ => none

/-- The kinds of actions. -/
inductive Kind where
  /-- To add an order. -/
  | addItem
  /-- To replace an order. -/
  | updateItem
  /-- To move an order on. -/
  | advance
  /-- To record data. -/
  | logStage
  /-- To record an activity. -/
  | addActivity
  /-- To put another tracker in place. -/
  | load
  deriving DecidableEq

/-- The kinds with the names that they have in a record. -/
def kinds : List (String × Kind) :=
  [("ADD_ITEM", .addItem), ("UPDATE_ITEM", .updateItem), ("MOVE_TO_NEXT_STAGE", .advance),
    ("LOG_STAGE_ACTION", .logStage), ("ADD_ACTIVITY", .addActivity), ("LOAD_STATE", .load)]

/-- A kind with its content as a record. -/
def tagged (kind : String) (content : Json) : Json :=
  .object [("type", .string kind), ("payload", content)]

/-- The action as a record. -/
def toJson : Action → Json
  | addItem item => tagged "ADD_ITEM" item.toJson
  | updateItem item => tagged "UPDATE_ITEM" item.toJson
  | advance id stage data =>
    tagged "MOVE_TO_NEXT_STAGE" <|
      .object [("id", .string id.text), ("currentStage", stage.toJson), ("data", data.toJson)]
  | logStage id stage data =>
    tagged "LOG_STAGE_ACTION" <|
      .object [("id", .string id.text), ("stage", stage.toJson), ("data", data.toJson)]
  | addActivity customerName action stage =>
    tagged "ADD_ACTIVITY" <|
      .object [("customerName", .string customerName), ("action", .string action),
        ("stage", .string stage)]
  | load tracker => tagged "LOAD_STATE" tracker.toJson

/-- Reads the content of an action that records data, whose field `stageName` holds the stage. -/
def decodeRecord (kept : Bool) (record stageName : String)
    (action : ItemId → Stage → Attributes → Action) : Json.Decoder Action := fun node => do
  let fields ← node.asFields record ["id", stageName, "data"]
  let id := (fields.required "id" Json.Node.asString).map ItemId.mk
  let stage := fields.required stageName (Stage.decode kept)
  let data := fields.required "data" (Attributes.decode kept)
  Json.both (Json.both (Json.both (fields.begin action) id) stage) data

/-- Reads the content of an action that records an activity. -/
def decodeActivity : Json.Decoder Action := fun node => do
  let fields ← node.asFields "ActivityPayload" ["customerName", "action", "stage"]
  let text := fun name => fields.required name Json.Node.asString
  let action := Json.both (fields.begin addActivity) (text "customerName")
  Json.both (Json.both action (text "action")) (text "stage")

/-- Reads the content of an action of a known kind; `kept` tells whether it had been set aside. -/
def decodeContent (kept : Bool) : Kind → Json.Decoder Action
  | .addItem => fun node => (Item.decode kept node).map addItem
  | .updateItem => fun node => (Item.decode kept node).map updateItem
  | .advance => decodeRecord kept "AdvancePayload" "currentStage" advance
  | .logStage => decodeRecord kept "StageActionPayload" "stage" logStage
  | .addActivity => decodeActivity
  | .load => fun node => (Tracker.decode kept node).map load

/-- Reads an action: an object that names its kind and carries its content, set aside until the
kind is known, or the list of the two. -/
def decode : Json.Decoder Action := fun node => do
  let fields ← node.asFields "WorkflowAction" ["type", "payload"]
  let kept := match node with
    | .array .. => false
    | _ => true
  fields.begin ()
  let choices := kinds.map (·.1)
  let kind ← fields.required "type" (Json.Node.asChoice kinds choices false)
  fields.required "payload" (decodeContent kept kind)

end Action

/-- Why an action changed nothing. -/
inductive Refusal where
  /-- There is no order with the identifier. -/
  | itemNotFound (id : ItemId)
  /-- The order, or the stage that was named, is completed. -/
  | terminalStage (id : ItemId)
  deriving DecidableEq

/-- What became of an action. -/
inductive Outcome where
  /-- An order was added. -/
  | itemAdded (id : ItemId)
  /-- An order was replaced. -/
  | itemReplaced (id : ItemId)
  /-- An order moved on. -/
  | advanced (id : ItemId) (origin destination : Stage)
  /-- Data was recorded at a stage. -/
  | annotated (id : ItemId) (stage : Stage)
  /-- An activity was recorded, and some old ones were lost. -/
  | activityRecorded (evicted : Nat)
  /-- Another tracker with some orders was put in place. -/
  | hydrated (items : Nat)
  /-- Nothing changed. -/
  | unchanged (reason : Refusal)
  deriving DecidableEq

namespace Outcome

/-- Whether something changed. -/
def isApplied : Outcome → Bool
  | unchanged _ => false
  | _ => true

/-- An identifier as a record of its own. -/
def idRecord (id : ItemId) : Json := .object [("item_id", .string id.text)]

/-- The outcome as a record. -/
def toJson : Outcome → Json
  | itemAdded id => .object [("item_added", idRecord id)]
  | itemReplaced id => .object [("item_replaced", idRecord id)]
  | advanced id origin destination =>
    .object [("advanced", .object [("item_id", .string id.text), ("from", origin.toJson),
      ("to", destination.toJson)])]
  | annotated id stage =>
    .object [("annotated", .object [("item_id", .string id.text), ("stage", stage.toJson)])]
  | activityRecorded evicted =>
    .object [("activity_recorded", .object [("evicted", .count evicted)])]
  | hydrated items => .object [("hydrated", .object [("items", .count items)])]
  | unchanged (.itemNotFound id) =>
    .object [("unchanged", .object [("item_not_found", idRecord id)])]
  | unchanged (.terminalStage id) =>
    .object [("unchanged", .object [("terminal_stage", idRecord id)])]

end Outcome

end OrderPipeline
