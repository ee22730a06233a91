import OrderPipeline.Proofs.Engine.Exchange
import OrderPipeline.Proofs.Engine.Progress

/-!
# What an action leaves alone

An action is about one part of the tracker. `Tracker.Refuses` lists all cases in which it changes
nothing, and says so; in all others `Tracker.Frame` says what stays as it was: every order but the
one that the action is to change, the identifiers and the sequence of all of them, and the feed
unless an activity is recorded.

* `outcome_eq_unchanged_iff` — an action is refused just in the cases that are listed.
* `frame_apply` — what stays, for every action but the one that puts another tracker in place.
* `action_touches_only_its_target` — both together, and that replacing an order twice is replacing
  it once.
-/

namespace OrderPipeline

/-- A property that the replaced element keeps is kept by the whole list. -/
theorem map_modifyFirst {α β : Type} {test : α → Bool} {image : α → α} {property : α → β}
    (kept : ∀ x, test x = true → property (image x) = property x) (xs : List α) :
    (modifyFirst test image xs).map property = xs.map property := by
  induction xs with
  | nil => rfl
  | cons x rest ih =>
    rw [modifyFirst]
    split
    · next passes => rw [List.map_cons, List.map_cons, kept x passes]
    · rw [List.map_cons, List.map_cons, ih]

namespace Action

/-- The identifier of the order that an action is to change, if it is to change one. -/
def edited? : Action → Option ItemId
  | updateItem item => some item.id
  | advance id .. | logStage id .. => some id
  | addItem _ | addActivity .. | load _ => none

/-- The orders that an action adds. -/
def added : Action → List Item
  | addItem item => [item]
  | updateItem _ | advance .. | logStage .. | addActivity .. | load _ => []

end Action

namespace Tracker

variable {tracker : Tracker} {action : Action} {now : Instant} {id : ItemId} {item old : Item}

/-- Why a tracker refuses an action. -/
inductive Refuses (tracker : Tracker) : Action → Refusal → Prop
  /-- The order that the action is to change is not there. -/
  | missing {action : Action} {id : ItemId} (aimed : action.edited? = some id)
      (absent : ∀ item ∈ tracker.items, item.id ≠ id) : Refuses tracker action (.itemNotFound id)
  /-- The first order with the identifier is completed, so that no data is recorded for it. -/
  | finished {action : Action} {id : ItemId} {stage : Stage} {data : Attributes} {item : Item}
      (records : action.recording? = some (id, stage, data))
      (first : tracker.findItem? id = some item) (completed : item.stage = .completed) :
      Refuses tracker action (.terminalStage id)
  /-- The order is not completed, but there is no stage to move on to after the one that the action
  names. -/
  | last {id : ItemId} {data : Attributes} {item : Item}
      (first : tracker.findItem? id = some item) (unfinished : item.stage ≠ .completed) :
      Refuses tracker (.advance id .completed data) (.terminalStage id)

theorem findItem?_eq_none_iff :
    tracker.findItem? id = none ↔ ∀ item ∈ tracker.items, item.id ≠ id := by
  simp [findItem?, List.find?_eq_none]

/-- Data cannot be recorded for an order that is not there or completed. -/
theorem openItem_eq_error_iff {reason : Refusal} :
    tracker.openItem id = .error reason ↔
      (tracker.findItem? id = none ∧ reason = .itemNotFound id) ∨
        ∃ item, tracker.findItem? id = some item ∧ item.stage = .completed ∧
          reason = .terminalStage id := by
  rw [openItem]
  cases tracker.findItem? id with
  | none => simp [eq_comm]
  | some item =>
    by_cases finished : item.stage = .completed
    · have refused : item.isCompleted = true := Stage.isTerminal_iff.2 finished
      simp [refused, finished, eq_comm]
    · have accepted : ¬item.isCompleted = true := mt Stage.isTerminal_iff.1 finished
      simp [accepted, finished]

/-- An action that is refused changes nothing. -/
theorem Refuses.apply_eq {reason : Refusal} (refuses : tracker.Refuses action reason)
    (now : Instant) : tracker.apply action now = (tracker, .unchanged reason) := by
  cases refuses with
  | @missing _ id aimed absent =>
    have nowhere := findItem?_eq_none_iff.2 absent
    have closed : tracker.openItem id = .error (.itemNotFound id) :=
      openItem_eq_error_iff.2 (Or.inl ⟨nowhere, rfl⟩)
    cases action with
    | addItem | addActivity | load => cases aimed
    | updateItem => cases aimed; simp only [apply, nowhere]
    | advance | logStage => cases aimed; simp only [apply, closed]
  | @finished _ id _ _ _ records first completed =>
    have closed : tracker.openItem id = .error (.terminalStage id) :=
      openItem_eq_error_iff.2 (Or.inr ⟨_, first, completed, rfl⟩)
    cases action with
    | addItem | addActivity | load | updateItem => cases records
    | advance | logStage => cases records; simp only [apply, closed]
  | last first unfinished =>
    have terminal : Stage.completed.isTerminal = true := rfl
    simp only [apply, openItem_eq_ok_iff.2 ⟨first, unfinished⟩, if_pos terminal]

/-- An action that records data is refused where no data can be recorded. -/
theorem refuses_of_closed {stage : Stage} {data : Attributes} {reason : Refusal}
    (records : action.recording? = some (id, stage, data))
    (closed : tracker.openItem id = .error reason) : tracker.Refuses action reason := by
  have aimed : action.edited? = some id := by
    cases action with
    | addItem | addActivity | load | updateItem => cases records
    | advance | logStage => cases records; rfl
  rcases openItem_eq_error_iff.1 closed with ⟨nowhere, rfl⟩ | ⟨item, first, completed, rfl⟩
  · exact .missing aimed (findItem?_eq_none_iff.1 nowhere)
  · exact .finished records first completed

/-- An action changes nothing just when the tracker refuses it. -/
theorem outcome_eq_unchanged_iff {reason : Refusal} :
    (tracker.apply action now).2 = .unchanged reason ↔ tracker.Refuses action reason := by
  refine ⟨fun refused => ?_, fun refuses => by rw [refuses.apply_eq now]⟩
  -- the answer depends on a look-up, and for an advance on the stage that is named as well
  cases action with
  | addItem | addActivity | load => cases refused
  | updateItem item =>
    cases found : tracker.findItem? item.id with
    | none =>
      simp only [apply, found] at refused
      cases refused
      exact .missing rfl (findItem?_eq_none_iff.1 found)
    | some old => simp [apply, found] at refused
  | logStage id stage data =>
    cases opened : tracker.openItem id with
    | error refusal =>
      simp only [apply, opened] at refused
      cases refused
      exact refuses_of_closed rfl opened
    | ok item => simp [apply, opened] at refused
  | advance id stage data =>
    cases opened : tracker.openItem id with
    | error refusal =>
      simp only [apply, opened] at refused
      cases refused
      exact refuses_of_closed rfl opened
    | ok item =>
      obtain ⟨first, unfinished⟩ := openItem_eq_ok_iff.1 opened
      simp only [apply, opened] at refused
      split at refused
      · next terminal =>
        cases refused
        cases Stage.isTerminal_iff.1 terminal
        exact .last first unfinished
      · split at refused <;> cases refused

/-! ## What stays -/

/-- What stays of a tracker by an action. -/
structure Frame (before : Tracker) (action : Action) (after : Tracker) : Prop where
  /-- The identifiers stay in their sequence, and those of added orders follow. -/
  ids : after.items.map Item.id = before.items.map Item.id ++ action.added.map Item.id
  /-- Every order stays as it is but the first one with the identifier that the action is about. -/
  others : ∀ (i : ℕ) (item : Item), before.items[i]? = some item →
    after.items[i]? = some item ∨ ∃ id, action.edited? = some id ∧ before.position? id = some i
  /-- What is new stands at the end. -/
  added : after.items.drop before.items.length = action.added
  /-- The feed stays unless an activity is recorded. -/
  feed : after.feed = before.feed ∨
    ∃ customerName text stage, action = .addActivity customerName text stage

/-- Editing an order leaves the others and all identifiers as they are. -/
theorem frame_edit (tracker : Tracker) (change : Edit) (edited : action.edited? = some change.id)
    (nothing : action.added = []) :
    tracker.Frame action (tracker.updateItem change.id change.image) where
  ids := by
    rw [nothing, List.map_nil, List.append_nil]
    refine map_modifyFirst (fun item own => ?_) tracker.items
    rw [change.keeps item (beq_iff_eq.1 own), beq_iff_eq.1 own]
  others := by
    intro i item found
    cases first : tracker.findItem? change.id with
    -- without an order to edit all of them stay
    | none =>
      rw [updateItem_of_fixed (by simp [first])]
      exact Or.inl found
    | some old =>
      obtain ⟨index, position, here, result⟩ := updateItem_eq_setItem first change.image
      rw [result, getElem?_setItem here]
      by_cases same : i = index
      · exact Or.inr ⟨change.id, edited, same ▸ position⟩
      · exact Or.inl (by rw [if_neg same, found])
  added := by
    rw [nothing, List.drop_eq_nil_of_le]
    simp [updateItem]
  feed := Or.inl rfl

/-- Every action but the one that puts another tracker in place keeps to its part. -/
theorem frame_apply (tracker : Tracker) (now : Instant)
    (stays : ∀ snapshot, action ≠ .load snapshot) :
    tracker.Frame action (tracker.apply action now).1 := by
  cases action with
  | load snapshot => exact absurd rfl (stays snapshot)
  | addItem item =>
    refine ⟨List.map_append, fun i old found => Or.inl ?_, List.drop_left, Or.inl rfl⟩
    exact List.getElem?_append_left (List.getElem?_eq_some_iff.1 found).1 ▸ found
  | addActivity customerName text stage =>
    refine ⟨(List.append_nil _).symm, fun i old found => Or.inl found, ?_, Or.inr ⟨_, _, _, rfl⟩⟩
    exact List.drop_length
  | updateItem item =>
    rw [apply_eq_carryOut rfl]
    exact frame_edit tracker _ rfl rfl
  | advance id stage data =>
    rw [apply_eq_carryOut rfl]
    exact frame_edit tracker _ rfl rfl
  | logStage id stage data =>
    rw [apply_eq_carryOut rfl]
    exact frame_edit tracker _ rfl rfl

/-! ## Replacing an order again -/

/-- The order that replaced another one is found in its place. -/
theorem findItem?_replaced (found : tracker.findItem? item.id = some old) :
    (tracker.updateItem item.id fun _ => item).findItem? item.id = some item := by
  obtain ⟨earlier, later, -, result, -, others⟩ := replacesFirst_updateItem found fun _ => item
  have passed : earlier.find? (fun other => other.id == item.id) = none := by
    simpa [List.find?_eq_none] using others
  rw [findItem?, result, List.find?_append, passed, Option.none_or, List.find?_cons_of_pos]
  exact beq_self_eq_true item.id

/-- Replacing an order again by the same one changes nothing more. -/
theorem apply_updateItem_twice (found : tracker.findItem? item.id = some old)
    (now later : Instant) :
    (tracker.apply (.updateItem item) now).1.apply (.updateItem item) later =
      ((tracker.apply (.updateItem item) now).1, .itemReplaced item.id) := by
  have there := findItem?_replaced found
  have fixed : ∀ other, (tracker.updateItem item.id fun _ => item).findItem? item.id = some other →
      item = other := fun other here => Option.some.inj (there.symm.trans here)
  have same := updateItem_of_fixed fixed
  simp only [apply, found, there, same]

/-- An action is refused just when the order that it is to change is not there, data would be
recorded for a completed order, or an order that is not completed would be moved on from the last
stage; then nothing changes. Otherwise, unless another tracker is put in place, all identifiers stay
in their sequence but for those of added orders at the end, no order is changed but the first one
with the identifier that the action is about, and the feed changes only when an activity is
recorded. Replacing an order again by the same one changes nothing more, and is answered in the same
way. -/
theorem action_touches_only_its_target (tracker : Tracker) (action : Action) (now : Instant) :
    (∀ reason, (tracker.apply action now).2 = .unchanged reason →
      (tracker.apply action now).1 = tracker) ∧
    (∀ reason, (tracker.apply action now).2 = .unchanged reason ↔ tracker.Refuses action reason) ∧
    ((∀ snapshot, action ≠ .load snapshot) → tracker.Frame action (tracker.apply action now).1) ∧
    ∀ (item : Item) (later : Instant), action = .updateItem item →
      (∀ reason, (tracker.apply action now).2 ≠ .unchanged reason) →
        (tracker.apply action now).2 = .itemReplaced item.id ∧
          (tracker.apply action now).1.apply action later =
            ((tracker.apply action now).1, .itemReplaced item.id) := by
  refine ⟨fun reason refused => ?_, fun reason => outcome_eq_unchanged_iff,
    tracker.frame_apply now, ?_⟩
  · rw [(outcome_eq_unchanged_iff.1 refused).apply_eq now]
  · rintro item later rfl applied
    cases found : tracker.findItem? item.id with
    | none =>
      have refuses : tracker.Refuses (.updateItem item) (.itemNotFound item.id) :=
        .missing rfl (findItem?_eq_none_iff.1 found)
      exact absurd (outcome_eq_unchanged_iff.2 refuses) (applied _)
    | some old => exact ⟨by simp only [apply, found], apply_updateItem_twice found now later⟩

end Tracker

end OrderPipeline
