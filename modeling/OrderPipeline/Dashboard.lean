import OrderPipeline.Tracker

/-!
# The dashboard

`Dashboard.ofTracker` sums up a tracker for a day: how many orders there are at each stage, what
they are worth together, and how the follow-ups stand.
-/

namespace OrderPipeline

/-- How the orders that are or were followed up stand. -/
structure FollowupCounts where
  /-- How many are or were followed up. -/
  tracked : Nat
  /-- How many of them are to be called again. -/
  followUp : Nat
  /-- How many of them sent an order. -/
  orderReceived : Nat
  /-- How many of them sent none. -/
  notReceived : Nat
  /-- How many of them need time. -/
  needTime : Nat
  deriving DecidableEq

/-- How many orders stand at a stage and have passed it. -/
structure StageCounts where
  /-- The stage. -/
  stage : Stage
  /-- How many orders stand at it. -/
  pending : Nat
  /-- How many orders were handled at it and have moved on. -/
  history : Nat
  deriving DecidableEq

/-- A tracker summed up. -/
structure Dashboard where
  /-- How many orders there are. -/
  totalItems : Nat
  /-- How many are not finished. -/
  pending : Nat
  /-- How many are finished. -/
  completed : Nat
  /-- What was quoted for all of them together. -/
  totalRevenue : Decimal
  /-- How many orders at follow-up are expected today. -/
  todaysFollowups : Nat
  /-- How the follow-ups stand. -/
  followup : FollowupCounts
  /-- The counts of the working stages, in their order. -/
  stages : List StageCounts
  /-- What was done last. -/
  recentActivity : List ActivityEntry
  deriving DecidableEq

namespace FollowupCounts

/-- The counts over some orders. -/
def ofItems (items : List Item) : FollowupCounts :=
  let tracked := items.filter fun item =>
    item.stage == .followup || item.hasLogFor .followup
  let withStatus := fun status =>
    tracked.countP fun item => item.attributes.status == some status
  ⟨tracked.length, withStatus .followUp, withStatus .orderReceived, withStatus .notReceived,
    withStatus .needTime⟩

/-- The share of the tracked orders that a count is, in whole per cent. -/
def percent (counts : FollowupCounts) (count : Nat) : Nat :=
  count * 100 / max counts.tracked 1

/-- The counts as a record. -/
def toJson (counts : FollowupCounts) : Json :=
  .object [("tracked", .count counts.tracked), ("follow_up", .count counts.followUp),
    ("order_received", .count counts.orderReceived),
    ("not_received", .count counts.notReceived), ("need_time", .count counts.needTime)]

end FollowupCounts

namespace StageCounts

/-- The counts as a record. -/
def toJson (counts : StageCounts) : Json :=
  .object [("stage", counts.stage.toJson), ("label", .string counts.stage.label),
    ("pending", .count counts.pending), ("history", .count counts.history)]

end StageCounts

namespace Dashboard

/-- What was quoted for some orders together; an order without a quotation adds nothing. -/
def revenue (items : List Item) : Decimal :=
  (items.filterMap Item.quotationAmount).foldl Decimal.add Decimal.zero

/-- The counts of a stage. -/
def countStage (tracker : Tracker) (stage : Stage) : StageCounts :=
  ⟨stage, (tracker.pendingItems stage "").length, (tracker.historyItems stage "").length⟩

/-- A tracker summed up for a day. -/
def ofTracker (tracker : Tracker) (today : Date) : Dashboard :=
  let completed := tracker.items.countP Item.isCompleted
  { totalItems := tracker.items.length
    pending := tracker.items.length - completed
    completed := completed
    totalRevenue := revenue tracker.items
    todaysFollowups := tracker.items.countP fun item =>
      item.stage == .followup && item.expectedDeliveryDate == some today
    followup := FollowupCounts.ofItems tracker.items
    stages := Stage.working.map (countStage tracker)
    recentActivity := tracker.feed.entries }

/-- The summary as a record. -/
def toJson (dashboard : Dashboard) : Json :=
  .object [("total_items", .count dashboard.totalItems), ("pending", .count dashboard.pending),
    ("completed", .count dashboard.completed),
    ("total_revenue", .string dashboard.totalRevenue.text),
    ("todays_followups", .count dashboard.todaysFollowups),
    ("followup", dashboard.followup.toJson),
    ("stages", .array (dashboard.stages.map StageCounts.toJson)),
    ("recent_activity", .array (dashboard.recentActivity.map ActivityEntry.toJson))]

end Dashboard

end OrderPipeline
