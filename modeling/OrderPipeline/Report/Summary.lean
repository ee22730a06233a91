import OrderPipeline.Dashboard

/-!
# Summaries in words

The lines of the dashboard and of the activity feed.
-/

namespace OrderPipeline

/-- The line of an entry in the listed feed. -/
def ActivityEntry.listed (entry : ActivityEntry) : String :=
  entry.time.secondText ++ "  " ++ entry.customerName ++ "  " ++ entry.action ++
    " (" ++ entry.stage ++ ")"

/-- The line of an entry on the dashboard. -/
def ActivityEntry.summarized (entry : ActivityEntry) : String :=
  "  - " ++ entry.time.minuteText ++ " " ++ entry.customerName ++ ": " ++ entry.action ++
    " [" ++ entry.stage ++ "]"

/-- The lines of the feed, newest first. -/
def ActivityFeed.lines (feed : ActivityFeed) : List String :=
  if feed.entries.isEmpty then ["no recent activity"]
  else feed.entries.map ActivityEntry.listed

/-- The line of a stage. -/
def StageCounts.line (counts : StageCounts) : String :=
  "  - " ++ counts.stage.label ++ ": " ++ toString counts.pending ++ " pending, " ++
    toString counts.history ++ " done"

/-- The line of a count with its share. -/
def FollowupCounts.line (counts : FollowupCounts) (label : String) (count : Nat) : String :=
  "  - " ++ label ++ ": " ++ toString count ++ " (" ++ toString (counts.percent count) ++ "%)"

/-- The lines of the follow-ups. -/
def FollowupCounts.lines (counts : FollowupCounts) : List String :=
  [ "followup status (" ++ toString counts.tracked ++ " tracked):",
    counts.line "Follow Up" counts.followUp,
    counts.line "Order Received" counts.orderReceived,
    counts.line "Not Received" counts.notReceived,
    counts.line "Need Time" counts.needTime ]

namespace Dashboard

/-- The lines of the totals on a day. -/
def totalLines (dashboard : Dashboard) (today : Date) : List String :=
  [ "dashboard for " ++ today.text,
    "- total items: " ++ toString dashboard.totalItems,
    "- pending: " ++ toString dashboard.pending,
    "- completed: " ++ toString dashboard.completed,
    "- total quotation amount: " ++ dashboard.totalRevenue.normalize.text,
    "- followups due today: " ++ toString dashboard.todaysFollowups ]

/-- The lines of what was done last. -/
def activityLines (dashboard : Dashboard) : List String :=
  "recent activity:" ::
    if dashboard.recentActivity.isEmpty then ["  (none)"]
    else dashboard.recentActivity.map ActivityEntry.summarized

/-- The lines of a dashboard on a day. -/
def lines (dashboard : Dashboard) (today : Date) : List String :=
  dashboard.totalLines today ++ dashboard.followup.lines ++
    "stages:" :: dashboard.stages.map StageCounts.line ++ dashboard.activityLines

end Dashboard

end OrderPipeline
