import OrderPipeline.Activity
import OrderPipeline.Item

/-!
# The tracker

A `Tracker` holds all orders and the activity feed; it is what is saved and restored. The orders of
a stage are the pending ones, which stand at it, and the ones in its history, which were handled
there and have moved on.

`Tracker.text` and `Tracker.ofText` are the saved form and its reader.
-/

namespace OrderPipeline

/-- All orders, in the order in which they were added, and the activity feed. -/
structure Tracker where
  /-- The orders. -/
  items : List Item := []
  /-- The activity feed. -/
  feed : ActivityFeed := {}
  deriving DecidableEq, Inhabited

namespace Tracker

/-- The first order with an identifier. -/
def findItem? (tracker : Tracker) (id : ItemId) : Option Item :=
  tracker.items.find? fun item => item.id == id

/-- The orders that stand at a stage and fit a search term. -/
def pendingItems (tracker : Tracker) (stage : Stage) (search : String) : List Item :=
  tracker.items.filter fun item => item.stage == stage && item.matchesSearch search

/-- The orders that were handled at a stage, stand at another one, and fit a search term. -/
def historyItems (tracker : Tracker) (stage : Stage) (search : String) : List Item :=
  tracker.items.filter fun item =>
    item.stage != stage && item.hasLogFor stage && item.matchesSearch search

/-- Whether two trackers agree when amounts are compared by value. -/
def sameAs (left right : Tracker) : Bool :=
  left.items.map Item.canonical == right.items.map Item.canonical && left.feed == right.feed

/-- The tracker as a record. -/
def toJson (tracker : Tracker) : Json :=
  .object [("items", .array (tracker.items.map Item.toJson)), ("activityLog", tracker.feed.toJson)]

/-- Reads a tracker from a record. -/
def decode (kept : Bool) : Json.Decoder Tracker := fun node => do
  let fields ← node.asFields "WorkflowState" ["items", "activityLog"]
  let items := fields.required "items" (Json.Node.asList (Item.decode kept))
  let feed := fields.required "activityLog" ActivityFeed.decode
  Json.both (Json.both (fields.begin Tracker.mk) items) feed

/-- The saved form of a tracker. -/
def text (tracker : Tracker) : String := tracker.toJson.text

/-- Reads a saved form. -/
def ofText (text : String) : Except Json.Fault Tracker :=
  (Json.Document.ofText text).decode (decode false)

end Tracker

end OrderPipeline
