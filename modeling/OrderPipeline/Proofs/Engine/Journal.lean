import OrderPipeline.Proofs.Engine.Progress

/-!
# The logs explain the attributes

A run leaves a journal: for every action when it was applied, at which index the order stood that it
was about, and what became of it. The journal alone tells which logs the run leaves of an order
(`logsLeft`), and those logs tell what becomes of its attributes.

* `AdditiveStep.recordedAs` — one action adds to an order just the log that its event leaves.
* `recordedAs_run` — a run adds just the logs that its journal leaves.
* `AdditiveStep.isApplied_iff` — an action that records data leaves a log unless it is refused.
-/

namespace OrderPipeline

/-- An action that was applied. -/
structure Event where
  /-- The action. -/
  action : Action
  /-- When it was applied. -/
  time : Instant
  /-- The index of the order that it was about, if there was one. -/
  target : Option Nat
  /-- What became of it. -/
  outcome : Outcome

/-- The log that an event leaves of the order at an index: the stage, the time and the data of an
action that is about this order, when the outcome says that data was recorded. -/
def Event.log? (event : Event) (index : Nat) : Option StageLog :=
  match event.action.recording? with
  | some (_, stage, data) =>
    if event.target = some index ∧ event.outcome.isRecorded = true then
      some ⟨stage, event.time, data⟩
    else none
  | none => none

/-- The logs that events leave of the order at an index, in order. -/
def logsLeft (index : Nat) (events : List Event) : List StageLog :=
  events.filterMap fun event => event.log? index

namespace Tracker

/-- The event of an action that is applied at a time. -/
def event (tracker : Tracker) (action : Action) (now : Instant) : Event where
  action := action
  time := now
  target := action.target?.bind tracker.position?
  outcome := (tracker.apply action now).2

/-- The events of a run. -/
def journal (tracker : Tracker) : List (Action × Instant) → List Event
  | [] => []
  | (action, now) :: rest =>
    tracker.event action now :: (tracker.apply action now).1.journal rest

/-- The journal lists the actions of the run with their times, and their outcomes. -/
theorem journal_lists_run (tracker : Tracker) (steps : List (Action × Instant)) :
    (tracker.journal steps).map (fun event => (event.action, event.time)) = steps ∧
      (tracker.journal steps).map Event.outcome = (tracker.run steps).2 := by
  induction steps generalizing tracker with
  | nil => exact ⟨rfl, rfl⟩
  | cons step rest ih =>
    obtain ⟨actions, outcomes⟩ := ih (tracker.apply step.1 step.2).1
    simp only [journal, run, List.map_cons, actions, outcomes]
    exact ⟨rfl, rfl⟩

/-- An event of a run is that of its action in the tracker that was reached by then. -/
theorem getElem?_journal (tracker : Tracker) (steps : List (Action × Instant)) (n : Nat) :
    (tracker.journal steps)[n]? =
      steps[n]?.map fun step => (tracker.after steps n).event step.1 step.2 := by
  induction steps generalizing tracker n with
  | nil => rfl
  | cons step rest ih =>
    cases n with
    | zero => rfl
    | succ n => exact ih _ n

/-- A run goes on from the tracker that it has reached, and so does its journal. -/
theorem run_after (tracker : Tracker) (steps : List (Action × Instant)) (n : Nat) :
    (tracker.run steps).1 = ((tracker.after steps n).run (steps.drop n)).1 ∧
      (tracker.journal steps).drop n = (tracker.after steps n).journal (steps.drop n) := by
  induction steps generalizing tracker n with
  | nil => simp [after, journal]
  | cons step rest ih =>
    cases n with
    | zero => exact ⟨rfl, rfl⟩
    | succ n => exact ih _ n

end Tracker

/-- Whether an order has got some logs at the end, and its attributes are overlaid with their data
in order. -/
structure Item.RecordedAs (earlier : Item) (added : List StageLog) (later : Item) : Prop where
  /-- The logs come after those that were there. -/
  logs : later.logs = earlier.logs ++ added
  /-- The attributes are the earlier ones overlaid with the data of the logs. -/
  attributes :
    later.attributes = (added.map StageLog.data).foldl Attributes.merge earlier.attributes

namespace Item.RecordedAs

variable {first second third : Item} {earlier later : List StageLog}

/-- Nothing is recorded for an order that stays as it is. -/
theorem nil (item : Item) : item.RecordedAs [] item where
  logs := (List.append_nil _).symm
  attributes := rfl

/-- What is recorded in two parts is recorded in both together. -/
theorem append (start : first.RecordedAs earlier second) (rest : second.RecordedAs later third) :
    first.RecordedAs (earlier ++ later) third where
  logs := by rw [rest.logs, start.logs, List.append_assoc]
  attributes := by rw [rest.attributes, start.attributes, List.map_append, List.foldl_append]

end Item.RecordedAs

/-- An action that records data is about the order that it names. -/
theorem Action.target?_of_recording {action : Action} {id : ItemId} {stage : Stage}
    {data : Attributes} (records : action.recording? = some (id, stage, data)) :
    action.target? = some id := by
  cases action <;> cases records <;> rfl

namespace AdditiveStep

variable {before after : Tracker} {now : Instant} {action : Action} {outcome : Outcome}

/-- A step adds to an order just the log that its event leaves. -/
theorem recordedAs (step : AdditiveStep before now action after outcome) {i : Nat} {item : Item}
    (found : before.items[i]? = some item) :
    ∃ later, after.items[i]? = some later ∧ item.RecordedAs
      (Event.log? ⟨action, now, action.target?.bind before.position?, outcome⟩ i).toList later := by
  cases step with
  | added new =>
    refine ⟨item, ?_, .nil item⟩
    rw [List.getElem?_append_left (List.getElem?_eq_some_iff.1 found).1, found]
  | noted => exact ⟨item, found, .nil item⟩
  | refused records reason =>
    refine ⟨item, found, ?_⟩
    obtain ⟨recording, known⟩ := Option.isSome_iff_exists.1 records
    have unlogged : Event.log? ⟨action, now, action.target?.bind before.position?,
        .unchanged reason⟩ i = none := by
      simp [Event.log?, known, Outcome.isRecorded]
    rw [unlogged]
    exact .nil item
  | @recorded _ id stage next data index old _ records position here _ _ applied =>
    have logged : Event.log? ⟨action, now, action.target?.bind before.position?, outcome⟩ i =
        if i = index then some ⟨stage, now, data⟩ else none := by
      rw [Event.log?, records, Action.target?_of_recording records]
      simp [position, applied, eq_comm]
    rw [Tracker.getElem?_setItem here, logged]
    by_cases same : i = index
    · subst same
      cases here.symm.trans found
      rw [if_pos rfl, if_pos rfl]
      exact ⟨_, rfl, rfl, rfl⟩
    · rw [if_neg same, if_neg same]
      exact ⟨item, found, .nil item⟩

/-- A step that could record data leaves a log of some order unless it is refused. -/
theorem isApplied_iff (step : AdditiveStep before now action after outcome)
    (records : action.recording?.isSome = true) :
    outcome.isApplied = true ↔ ∃ i item, before.items[i]? = some item ∧
      (Event.log? ⟨action, now, action.target?.bind before.position?, outcome⟩ i).isSome =
        true := by
  cases step with
  | added | noted => cases records
  | refused records reason =>
    obtain ⟨recording, known⟩ := Option.isSome_iff_exists.1 records
    simp [Event.log?, known, Outcome.isRecorded, Outcome.isApplied]
  | @recorded _ id stage next data index old _ known position here _ _ applied =>
    have accepted : outcome.isApplied = true := by
      cases outcome <;> first | rfl | cases applied
    refine iff_of_true accepted ⟨index, old, here, ?_⟩
    simp [Event.log?, known, Action.target?_of_recording known, position, applied]

end AdditiveStep

namespace Tracker

variable {tracker : Tracker}

/-- A run of additive actions adds to an order just the logs that its journal leaves. -/
theorem recordedAs_run {steps : List (Action × Instant)}
    (additive : ∀ step ∈ steps, step.1.isAdditive = true) {i : Nat} {item : Item}
    (found : tracker.items[i]? = some item) :
    ∃ later, (tracker.run steps).1.items[i]? = some later ∧
      item.RecordedAs (logsLeft i (tracker.journal steps)) later := by
  -- on the actions from the first one on: the order that it leaves is found by the others
  induction steps generalizing tracker item with
  | nil => exact ⟨item, found, .nil item⟩
  | cons step rest ih =>
    obtain ⟨action, now⟩ := step
    have adds := additive (action, now) List.mem_cons_self
    obtain ⟨between, here, first⟩ := (tracker.additiveStep_apply adds now).recordedAs found
    obtain ⟨later, there, others⟩ :=
      ih (fun step member => additive step (List.mem_cons_of_mem _ member)) here
    have split : logsLeft i (tracker.journal ((action, now) :: rest)) =
        ((tracker.event action now).log? i).toList ++
          logsLeft i ((tracker.apply action now).1.journal rest) := by
      rw [journal, logsLeft, List.filterMap_cons]
      cases (tracker.event action now).log? i <;> rfl
    rw [split]
    exact ⟨later, there, first.append others⟩

/-- Along a run of additive actions, the attributes of every order are those that it began with (or
was added with) overlaid, in order, with the data of the logs that the run has added to it. These
are one log for every action about the order by whose outcome data was recorded, with the stage, the
time and the data of the action; and an action that records data leaves a log of some order unless
it is refused. -/
theorem logs_explain_attributes (tracker : Tracker) (steps : List (Action × Instant))
    (additive : ∀ step ∈ steps, step.1.isAdditive = true) :
    ((tracker.journal steps).map (fun event => (event.action, event.time)) = steps ∧
      (tracker.journal steps).map Event.outcome = (tracker.run steps).2) ∧
    (∀ (n i : Nat) (item : Item), (tracker.after steps n).items[i]? = some item →
      ∃ later, (tracker.run steps).1.items[i]? = some later ∧
        item.RecordedAs (logsLeft i ((tracker.journal steps).drop n)) later) ∧
    ∀ (n : Nat) (event : Event), (tracker.journal steps)[n]? = some event →
      event.action.recording?.isSome = true →
      (event.outcome.isApplied = true ↔
        ∃ i item, (tracker.after steps n).items[i]? = some item ∧
          (event.log? i).isSome = true) := by
  refine ⟨tracker.journal_lists_run steps, fun n i item found => ?_, fun n event at_n records => ?_⟩
  · obtain ⟨final, journal⟩ := tracker.run_after steps n
    rw [final, journal]
    exact recordedAs_run (fun step member => additive step (List.mem_of_mem_drop member)) found
  · rw [getElem?_journal] at at_n
    obtain ⟨step, here, rfl⟩ := Option.map_eq_some_iff.1 at_n
    have adds := additive step (List.mem_of_getElem? here)
    exact (additiveStep_apply _ adds step.2).isApplied_iff records

/-- A payment in two parts, with forms for an unknown order and for the paid one in between. -/
def instalments : List (Action × Instant) :=
  [(.logStage ⟨"LEAD-1"⟩ .payment { remark := some "first half" }, .epoch),
    (.advance ⟨"LEAD-9"⟩ .payment { remark := some "unknown" }, .epoch),
    (.advance ⟨"LEAD-1"⟩ .payment { remark := some "all paid", paymentMode := some .upi }, .epoch),
    (.logStage ⟨"LEAD-1"⟩ .payment { remark := some "too late" }, .epoch)]

/-- The two forms that were recorded, and no other, make up the attributes of the order. -/
theorem logs_explain_attributes_instalments :
    logsLeft 0 (unpaid.journal instalments) =
        [⟨.payment, .epoch, { remark := some "first half" }⟩,
          ⟨.payment, .epoch, { remark := some "all paid", paymentMode := some .upi }⟩] ∧
      ∃ later, (unpaid.run instalments).1.items[0]? = some later ∧
        later.attributes = { remark := some "all paid", paymentMode := some .upi } := by
  have additive : ∀ step ∈ instalments, step.1.isAdditive = true := by decide
  have left : logsLeft 0 (unpaid.journal instalments) =
      [⟨.payment, .epoch, { remark := some "first half" }⟩,
        ⟨.payment, .epoch, { remark := some "all paid", paymentMode := some .upi }⟩] := by
    decide +kernel
  obtain ⟨later, there, recorded⟩ := (logs_explain_attributes unpaid instalments additive).2.1 0 0
    (unpaid.items.head (by decide)) rfl
  rw [List.drop_zero, left] at recorded
  refine ⟨left, later, there, ?_⟩
  rw [recorded.attributes]
  decide +kernel

end Tracker

end OrderPipeline
