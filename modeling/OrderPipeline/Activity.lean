import OrderPipeline.Json.Decode

/-!
# The activity feed

The feed lists what was done last, newest first. `ActivityFeed.record` puts an entry in front and
keeps the five newest; a feed that was read from elsewhere may be longer until then.
-/

namespace OrderPipeline

/-- What was done for a customer, and when. -/
structure ActivityEntry where
  /-- The name of the customer. -/
  customerName : String
  /-- What was done. -/
  action : String
  /-- Where it was done. -/
  stage : String
  /-- When it was done. -/
  time : Instant
  deriving DecidableEq, Inhabited

namespace ActivityEntry

/-- The entry as a record. -/
def toJson (entry : ActivityEntry) : Json :=
  .object [("customerName", .string entry.customerName), ("action", .string entry.action),
    ("stage", .string entry.stage), ("timestamp", .string entry.time.text)]

/-- Reads an entry from a record. -/
def decode : Json.Decoder ActivityEntry := fun node => do
  let fields ← node.asFields "ActivityEntry" ["customerName", "action", "stage", "timestamp"]
  let text := fun name => fields.required name Json.Node.asString
  let entry := Json.both (fields.begin ActivityEntry.mk) (text "customerName")
  let entry := Json.both (Json.both entry (text "action")) (text "stage")
  Json.both entry (fields.required "timestamp" Json.Node.asInstant)

end ActivityEntry

/-- What was done last, newest first. -/
structure ActivityFeed where
  /-- The entries, newest first. -/
  entries : List ActivityEntry := []
  deriving DecidableEq, Inhabited

namespace ActivityFeed

/-- How many entries a feed keeps. -/
def capacity : Nat := 5

/-- The feed with an entry in front, and without those past its capacity. -/
def record (feed : ActivityFeed) (entry : ActivityEntry) : ActivityFeed :=
  ⟨(entry :: feed.entries).take capacity⟩

/-- How many entries are lost when one is recorded. -/
def evictedBy (feed : ActivityFeed) : Nat := feed.entries.length + 1 - capacity

/-- The feed as JSON. -/
def toJson (feed : ActivityFeed) : Json := .array (feed.entries.map ActivityEntry.toJson)

/-- Reads a feed. -/
def decode : Json.Decoder ActivityFeed := fun node =>
  (Json.Node.asList ActivityEntry.decode node).map ActivityFeed.mk

@[simp] theorem entries_record (feed : ActivityFeed) (entry : ActivityEntry) :
    (feed.record entry).entries = (entry :: feed.entries).take capacity := rfl

/-- What is kept and what is lost together are the old entries and the new one. -/
theorem length_record_add_evictedBy (feed : ActivityFeed) (entry : ActivityEntry) :
    (feed.record entry).entries.length + feed.evictedBy = feed.entries.length + 1 := by
  simp only [entries_record, List.length_take, List.length_cons, evictedBy]
  omega

end ActivityFeed

end OrderPipeline
