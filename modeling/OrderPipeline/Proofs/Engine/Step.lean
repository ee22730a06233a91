import OrderPipeline.Proofs.Engine.Replacement

/-!
# Steps that only add

An action that replaces neither an order nor the tracker is additive. `AdditiveStep` lists all that
such an action can do to a tracker, and `additiveStep_apply` says that it does nothing else. What
holds along runs of additive actions is derived from this list.
-/

namespace OrderPipeline

namespace Action

/-- Whether an action leaves in place what is there: it adds an order, records data or records an
activity. -/
def isAdditive : Action → Bool
  | addItem _ | advance .. | logStage .. | addActivity .. => true
  | updateItem _ | load _ => false

/-- The identifier of the order that an action records data for, the stage, and the data. -/
def recording? : Action → Option (ItemId × Stage × Attributes)
  | advance id stage data | logStage id stage data => some (id, stage, data)
  | addItem _ | updateItem _ | addActivity .. | load _ => none

end Action

/-- Whether data was recorded for an order, which has moved on or stayed. -/
def Outcome.isRecorded : Outcome → Bool
  | advanced .. | annotated .. => true
  | itemAdded _ | itemReplaced _ | activityRecorded _ | hydrated _ | unchanged _ => false

/-- The order with data recorded at a stage, standing at the stage `next` after that. -/
def Item.recordTo (item : Item) (stage : Stage) (data : Attributes) (time : Instant)
    (next : Stage) : Item :=
  { item.recordData stage data time with stage := next }

namespace Tracker

/-- The index of the first order with an identifier. -/
def position? (tracker : Tracker) (id : ItemId) : Option Nat :=
  tracker.items.findIdx? fun item => item.id == id

/-- The tracker with another order at an index. -/
def setItem (tracker : Tracker) (index : Nat) (item : Item) : Tracker :=
  { tracker with items := tracker.items.set index item }

variable {tracker : Tracker} {id : ItemId} {item : Item}

/-- The order that is found for an identifier is updated at the first index where it stands. -/
theorem updateItem_eq_setItem (found : tracker.findItem? id = some item) (image : Item → Item) :
    ∃ index, tracker.position? id = some index ∧ tracker.items[index]? = some item ∧
      tracker.updateItem id image = tracker.setItem index (image item) := by
  obtain ⟨earlier, later, split, result, own, others⟩ := replacesFirst_updateItem found image
  have absent : earlier.findIdx? (fun other => other.id == id) = none := by
    simpa [List.findIdx?_eq_none_iff] using others
  refine ⟨earlier.length, ?_, ?_, ?_⟩
  · have here : (item :: later).findIdx? (fun other => other.id == id) = some 0 := by
      simp [List.findIdx?_cons, own]
    simp [position?, split, List.findIdx?_append, absent, here]
  · simp [split]
  · have same : (tracker.updateItem id image).items =
        tracker.items.set earlier.length (image item) := by
      rw [result, split]
      simp
    rw [setItem, ← same]
    rfl

end Tracker

/-- What an additive action can do to a tracker at a time, and what it answers then. -/
inductive AdditiveStep (before : Tracker) (now : Instant) : Action → Tracker → Outcome → Prop
  /-- An order is added after all others. -/
  | added (item : Item) : AdditiveStep before now (.addItem item)
      { before with items := before.items ++ [item] } (.itemAdded item.id)
  /-- An activity is put into the feed. -/
  | noted (customerName action stage : String) :
      AdditiveStep before now (.addActivity customerName action stage)
        { before with feed := before.feed.record ⟨customerName, action, stage, now⟩ }
        (.activityRecorded before.feed.evictedBy)
  /-- Data is not recorded, and nothing changes. -/
  | refused {action : Action} (records : action.recording?.isSome = true) (reason : Refusal) :
      AdditiveStep before now action before (.unchanged reason)
  /-- Data is recorded for the first order with the identifier, which is not completed and does not
  go back. -/
  | recorded {action : Action} {id : ItemId} {stage next : Stage} {data : Attributes} {index : Nat}
      {item : Item} {outcome : Outcome} (records : action.recording? = some (id, stage, data))
      (position : before.position? id = some index) (found : before.items[index]? = some item)
      (unfinished : item.stage ≠ .completed) (forward : item.stage ≤ next)
      (applied : outcome.isRecorded = true) :
      AdditiveStep before now action
        (before.setItem index (item.recordTo stage data now next)) outcome

namespace Tracker

variable {tracker : Tracker} {action : Action} {id : ItemId} {item : Item}

/-- Data is recorded for an order that is open. -/
theorem additiveStep_updateItem {stage next : Stage} {data : Attributes} {outcome : Outcome}
    {now : Instant} (records : action.recording? = some (id, stage, data))
    (opened : tracker.openItem id = .ok item) (forward : item.stage ≤ next)
    (applied : outcome.isRecorded = true) :
    AdditiveStep tracker now action
      (tracker.updateItem id fun _ => item.recordTo stage data now next) outcome := by
  obtain ⟨found, unfinished⟩ := openItem_eq_ok_iff.1 opened
  obtain ⟨index, position, here, result⟩ :=
    updateItem_eq_setItem found fun _ => item.recordTo stage data now next
  rw [result]
  exact .recorded records position here unfinished forward applied

/-- An additive action does nothing but what is listed. -/
theorem additiveStep_apply (tracker : Tracker) (additive : action.isAdditive = true)
    (now : Instant) :
    AdditiveStep tracker now action (tracker.apply action now).1
      (tracker.apply action now).2 := by
  cases action with
  | updateItem | load => cases additive
  | addItem item => exact .added item
  | addActivity customerName action stage => exact .noted customerName action stage
  | logStage id stage data =>
    simp only [apply]
    cases opened : tracker.openItem id with
    | error refusal => exact .refused rfl refusal
    | ok item => exact additiveStep_updateItem rfl opened (Nat.le_refl item.stage.rank) rfl
  | advance id stage data =>
    simp only [apply]
    cases opened : tracker.openItem id with
    | error refusal => exact .refused rfl refusal
    | ok item =>
      by_cases terminal : stage.isTerminal = true
      · simp only [if_pos terminal]
        exact .refused rfl _
      -- the order moves to the stage after the one that is named, unless that lies behind it
      · by_cases behind : item.stage < stage.next
        · simp only [if_neg terminal, if_pos behind]
          exact additiveStep_updateItem rfl opened (Nat.le_of_lt behind) rfl
        · simp only [if_neg terminal, if_neg behind]
          exact additiveStep_updateItem rfl opened (Nat.le_refl item.stage.rank) rfl

end Tracker

end OrderPipeline
