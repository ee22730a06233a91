import OrderPipeline.Proofs.Engine.Step
import OrderPipeline.Proofs.Validity.Value

/-!
# Valid records

An order is valid when its own fields, its attributes and the data of all its logs are; a tracker is
when its orders are and its feed is short. `Action.Valid` lists the actions by which that stays so
(`Tracker.Valid.apply`).
-/

namespace OrderPipeline

/-- Whether all values that are set may be recorded. -/
def Attributes.Valid (attributes : Attributes) : Prop :=
  ∀ field value, attributes.get field = some value → field.type.Valid value

namespace Attributes.Valid

/-- Nothing is wrong where nothing is set. -/
theorem empty : Attributes.empty.Valid := by
  intro field value set
  rw [get_empty] at set
  cases set

/-- A record that is set in one attribute is as valid as its value. -/
theorem single {field : Attribute} {value : field.Value} (valid : field.type.Valid value) :
    (Attributes.single field value).Valid := by
  intro other found set
  rw [Attributes.single, get_ofValues] at set
  split at set
  · next same =>
    subst same
    cases set
    exact valid
  · cases set

/-- A valid update leaves a valid record valid. -/
theorem merge {attributes update : Attributes} (valid : attributes.Valid)
    (updated : update.Valid) : (attributes.merge update).Valid := by
  intro field value set
  rw [get_merge] at set
  rcases Option.or_eq_some_iff.1 set with new | ⟨-, old⟩
  · exact updated field value new
  · exact valid field value old

end Attributes.Valid

/-- Whether a log is of a working stage and its data may be recorded. -/
structure StageLog.Valid (log : StageLog) : Prop where
  /-- Nothing is recorded at the end. -/
  stage : log.stage ≠ .completed
  /-- The data may be recorded. -/
  data : log.data.Valid

/-- Whether an order may be kept. -/
structure Item.Valid (item : Item) : Prop where
  /-- The name of the customer is neat. -/
  customerName : Text.Neat item.customerName
  /-- The number of the customer is neat. -/
  phone : Text.Neat item.phone
  /-- The place is neat. -/
  siteLocation : Text.Neat item.siteLocation
  /-- What is ordered is not blank. -/
  requirement : ∀ text, item.requirement = some text → Text.blank text = false
  /-- The quoted amount is not below zero. -/
  quotationAmount : ∀ amount, item.quotationAmount = some amount → amount.negative = false
  /-- The attributes may be recorded. -/
  attributes : item.attributes.Valid
  /-- All logs are valid. -/
  logs : ∀ log ∈ item.logs, log.Valid

/-- Whether a tracker may be kept. -/
structure Tracker.Valid (tracker : Tracker) : Prop where
  /-- All orders are valid. -/
  items : ∀ item ∈ tracker.items, item.Valid
  /-- The feed has five entries at most. -/
  feed : tracker.feed.entries.length ≤ 5

/-- Recording valid data at a working stage leaves an order valid. -/
theorem Item.Valid.recordTo {item : Item} (valid : item.Valid) {stage : Stage}
    (working : stage ≠ .completed) {data : Attributes} (recorded : data.Valid) (time : Instant)
    (next : Stage) : (item.recordTo stage data time next).Valid where
  customerName := valid.customerName
  phone := valid.phone
  siteLocation := valid.siteLocation
  requirement := valid.requirement
  quotationAmount := valid.quotationAmount
  attributes := valid.attributes.merge recorded
  logs log member := by
    rcases List.mem_append.1 member with old | new
    · exact valid.logs log old
    · rw [List.mem_singleton.1 new]
      exact ⟨working, recorded⟩

/-- Whether an action adds valid records to a tracker, and nothing else. -/
def Action.Valid : Action → Prop
  | addItem item => item.Valid
  | advance _ stage data | logStage _ stage data => stage ≠ .completed ∧ data.Valid
  | addActivity .. => True
  | updateItem _ | load _ => False

namespace Action.Valid

variable {action : Action}

/-- Valid actions are additive. -/
theorem isAdditive (valid : action.Valid) : action.isAdditive = true := by
  cases action <;> first | rfl | exact valid.elim

/-- What a valid action records is valid. -/
theorem recording (valid : action.Valid) {id : ItemId} {stage : Stage} {data : Attributes}
    (records : action.recording? = some (id, stage, data)) :
    stage ≠ .completed ∧ data.Valid := by
  cases action <;> cases records <;> exact valid

end Action.Valid

namespace Tracker.Valid

variable {tracker : Tracker}

/-- An empty tracker is valid. -/
theorem empty : Tracker.Valid {} where
  items _ member := absurd member List.not_mem_nil
  feed := by decide

/-- A step of a valid action leaves a tracker valid. -/
theorem step (valid : tracker.Valid) {action : Action} (adds : action.Valid) {now : Instant}
    {after : Tracker} {outcome : Outcome}
    (step : AdditiveStep tracker now action after outcome) : after.Valid := by
  cases step with
  | added item =>
    refine ⟨fun other member => ?_, valid.feed⟩
    rcases List.mem_append.1 member with old | new
    · exact valid.items other old
    · rw [List.mem_singleton.1 new]
      exact adds
  | noted customerName name stage =>
    refine ⟨valid.items, ?_⟩
    rw [ActivityFeed.entries_record]
    exact List.length_take_le _ _
  | refused => exact valid
  | recorded records _ found =>
    obtain ⟨working, recorded⟩ := adds.recording records
    refine ⟨fun other member => ?_, valid.feed⟩
    rcases List.mem_or_eq_of_mem_set member with old | rfl
    · exact valid.items other old
    · exact (valid.items _ (List.mem_of_getElem? found)).recordTo working recorded now _

/-- Valid actions leave a tracker valid. -/
theorem apply (valid : tracker.Valid) {action : Action} (adds : action.Valid) (now : Instant) :
    (tracker.apply action now).1.Valid :=
  valid.step adds (tracker.additiveStep_apply adds.isAdditive now)

end Tracker.Valid

end OrderPipeline
