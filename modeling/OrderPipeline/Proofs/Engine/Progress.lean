import OrderPipeline.Proofs.Engine.Step
import Mathlib.Data.Nat.Init

/-!
# Orders only move forward

Along a run of additive actions every order keeps its index. `Item.Follows` says what may become of
an order: its own fields stay, it does not go back, its logs only grow at their end, and once it is
completed nothing changes any more.

* `AdditiveStep.exists_follows`, `AdditiveStep.touchesOne` — one action keeps to that, and touches
  one order.
* `exists_follows_after` — so does every part of a run.
* `items_only_move_forward` — both together, for every run of additive actions.
-/

namespace OrderPipeline

/-- What may become of an order by additive actions. -/
structure Item.Follows (earlier later : Item) : Prop where
  /-- The identifier stays. -/
  id : later.id = earlier.id
  /-- The name of the customer stays. -/
  customerName : later.customerName = earlier.customerName
  /-- The number of the customer stays. -/
  phone : later.phone = earlier.phone
  /-- The place stays. -/
  siteLocation : later.siteLocation = earlier.siteLocation
  /-- What is ordered stays. -/
  requirement : later.requirement = earlier.requirement
  /-- The quoted amount stays. -/
  quotationAmount : later.quotationAmount = earlier.quotationAmount
  /-- The expected date stays. -/
  expectedDeliveryDate : later.expectedDeliveryDate = earlier.expectedDeliveryDate
  /-- The order does not go back. -/
  forward : earlier.stage ≤ later.stage
  /-- Logs are added after those that are there. -/
  logs : earlier.logs <+: later.logs
  /-- A completed order stays as it is. -/
  frozen : earlier.isCompleted = true → later = earlier

namespace Item.Follows

variable {first second third : Item}

/-- An order that nothing happens to follows itself. -/
theorem refl (item : Item) : item.Follows item where
  id := rfl
  customerName := rfl
  phone := rfl
  siteLocation := rfl
  requirement := rfl
  quotationAmount := rfl
  expectedDeliveryDate := rfl
  forward := Nat.le_refl item.stage.rank
  logs := List.prefix_rfl
  frozen := fun _ => rfl

/-- What may become of an order in two parts of a run may become of it in both together. -/
theorem trans (start : first.Follows second) (rest : second.Follows third) :
    first.Follows third where
  id := rest.id.trans start.id
  customerName := rest.customerName.trans start.customerName
  phone := rest.phone.trans start.phone
  siteLocation := rest.siteLocation.trans start.siteLocation
  requirement := rest.requirement.trans start.requirement
  quotationAmount := rest.quotationAmount.trans start.quotationAmount
  expectedDeliveryDate := rest.expectedDeliveryDate.trans start.expectedDeliveryDate
  forward := Nat.le_trans start.forward rest.forward
  logs := start.logs.trans rest.logs
  frozen := by
    intro completed
    have same := start.frozen completed
    subst same
    exact rest.frozen completed

/-- An order that is not completed may be recorded for, and does not go back then. -/
theorem recordTo {item : Item} (unfinished : item.stage ≠ .completed) {next : Stage}
    (forward : item.stage ≤ next) (stage : Stage) (data : Attributes) (now : Instant) :
    item.Follows (item.recordTo stage data now next) where
  id := rfl
  customerName := rfl
  phone := rfl
  siteLocation := rfl
  requirement := rfl
  quotationAmount := rfl
  expectedDeliveryDate := rfl
  forward := forward
  logs := List.prefix_append _ _
  frozen := fun completed => absurd (Stage.isTerminal_iff.1 completed) unfinished

end Item.Follows

/-- Whether all orders but one are as they were, and that one has at most one log more. -/
def TouchesOne (before after : List Item) : Prop :=
  ∃ target : Nat, ∀ (i : Nat) (item later : Item), before[i]? = some item →
    after[i]? = some later → (i ≠ target → later = item) ∧ later.logs.length ≤ item.logs.length + 1

/-- Orders that stay at their indices are touched at most. -/
theorem TouchesOne.of_kept {before after : List Item}
    (kept : ∀ (i : Nat) (item : Item), before[i]? = some item → after[i]? = some item) :
    TouchesOne before after := by
  refine ⟨0, fun i item later found there => ?_⟩
  cases (kept i item found).symm.trans there
  exact ⟨fun _ => rfl, Nat.le_succ _⟩

/-- What stands at an index after another order was put at one. -/
theorem Tracker.getElem?_setItem {tracker : Tracker} {index : Nat} {old new : Item}
    (found : tracker.items[index]? = some old) (i : Nat) :
    (tracker.setItem index new).items[i]? = if i = index then some new else tracker.items[i]? := by
  have inside : index < tracker.items.length := (List.getElem?_eq_some_iff.1 found).1
  rw [setItem, List.getElem?_set]
  by_cases same : index = i
  · subst same
    simp [inside]
  · simp [same, Ne.symm same]

namespace AdditiveStep

variable {before after : Tracker} {now : Instant} {action : Action} {outcome : Outcome}

/-- After a step every order is found at its index, as one that follows it. -/
theorem exists_follows (step : AdditiveStep before now action after outcome) {i : Nat} {item : Item}
    (found : before.items[i]? = some item) :
    ∃ later, after.items[i]? = some later ∧ item.Follows later := by
  cases step with
  | added new =>
    have inside : i < before.items.length := (List.getElem?_eq_some_iff.1 found).1
    exact ⟨item, by rw [List.getElem?_append_left inside, found], .refl item⟩
  | noted | refused => exact ⟨item, found, .refl item⟩
  | @recorded _ id stage next data index old _ records position here unfinished forward =>
    rw [Tracker.getElem?_setItem here]
    by_cases same : i = index
    · subst same
      cases here.symm.trans found
      exact ⟨_, if_pos rfl, .recordTo unfinished forward stage data now⟩
    · exact ⟨item, by rw [if_neg same, found], .refl item⟩

/-- A step leaves all orders but one as they are, and gives that one a log at most. -/
theorem touchesOne (step : AdditiveStep before now action after outcome) :
    TouchesOne before.items after.items := by
  cases step with
  | added new =>
    refine .of_kept fun i item found => ?_
    rw [List.getElem?_append_left (List.getElem?_eq_some_iff.1 found).1, found]
  | noted | refused => exact .of_kept fun _ _ found => found
  | @recorded _ id stage next data index old _ records position here =>
    refine ⟨index, fun i item later found there => ?_⟩
    rw [Tracker.getElem?_setItem here] at there
    split at there
    · next same =>
      subst same
      cases here.symm.trans found
      cases there
      refine ⟨fun other => absurd rfl other, ?_⟩
      simp [Item.recordTo]
    · cases found.symm.trans there
      exact ⟨fun _ => rfl, Nat.le_succ _⟩

end AdditiveStep

namespace Tracker

variable {tracker : Tracker} {steps : List (Action × Instant)}

/-- The tracker after the first `n` actions of a run. -/
def after (tracker : Tracker) (steps : List (Action × Instant)) (n : Nat) : Tracker :=
  (tracker.run (steps.take n)).1

/-- The tracker after one action more. -/
theorem after_succ (tracker : Tracker) (steps : List (Action × Instant)) (n : Nat) :
    tracker.after steps (n + 1) =
      match steps[n]? with
      | some (action, now) => ((tracker.after steps n).apply action now).1
      | none => tracker.after steps n := by
  rw [after, after, List.take_add_one, run_append]
  cases steps[n]? <;> rfl

/-- Every order of a run is found at its index at each later point, as one that follows it. -/
theorem exists_follows_after (additive : ∀ step ∈ steps, step.1.isAdditive = true) {m n : Nat}
    (later : m ≤ n) {i : Nat} {item : Item}
    (found : (tracker.after steps m).items[i]? = some item) :
    ∃ final, (tracker.after steps n).items[i]? = some final ∧ item.Follows final := by
  -- on the number of actions since, of which the last one is an additive step
  induction n, later using Nat.le_induction with
  | base => exact ⟨item, found, .refl item⟩
  | succ n _ ih =>
    obtain ⟨between, here, follows⟩ := ih
    rw [after_succ]
    cases next : steps[n]? with
    | none => exact ⟨between, here, follows⟩
    | some step =>
      obtain ⟨action, now⟩ := step
      have adds := additive _ (List.mem_of_getElem? next)
      obtain ⟨final, there, step⟩ := (additiveStep_apply _ adds now).exists_follows here
      exact ⟨final, there, follows.trans step⟩

/-- Along a run of additive actions every order stays at its index with its own fields, does not go
back, keeps its logs in front of later ones, and is frozen once it is completed; and each action
gives at most one order at most one log. -/
theorem items_only_move_forward (tracker : Tracker) (steps : List (Action × Instant))
    (additive : ∀ step ∈ steps, step.1.isAdditive = true) :
    (∀ (m n i : Nat) (item : Item), m ≤ n → (tracker.after steps m).items[i]? = some item →
      ∃ later, (tracker.after steps n).items[i]? = some later ∧ item.Follows later) ∧
    ∀ n, TouchesOne (tracker.after steps n).items (tracker.after steps (n + 1)).items := by
  refine ⟨fun m n i item order found => exists_follows_after additive order found, fun n => ?_⟩
  rw [after_succ]
  cases next : steps[n]? with
  | none => exact .of_kept fun _ _ found => found
  | some step =>
    have adds := additive _ (List.mem_of_getElem? next)
    exact (additiveStep_apply _ adds step.2).touchesOne

/-- Two orders with one identifier, the first of which is still to be paid. -/
def unpaid : Tracker where
  items :=
    [{ id := ⟨"LEAD-1"⟩, customerName := "Priya Patel", phone := "9000000002",
        siteLocation := "Delhi", stage := .payment },
      { id := ⟨"LEAD-1"⟩, customerName := "Amit Jain", phone := "9000000003",
        siteLocation := "Chennai", stage := .po }]

/-- A stale form, the payment, and two forms that come after it. -/
def settlement : List (Action × Instant) :=
  [(.advance ⟨"LEAD-1"⟩ .stock {}, .epoch), (.advance ⟨"LEAD-1"⟩ .payment {}, .epoch),
    (.logStage ⟨"LEAD-1"⟩ .followup { status := some .needTime }, .epoch),
    (.advance ⟨"LEAD-1"⟩ .po {}, .epoch)]

/-- Once it is paid, the order stays as it is, with the two logs that it has by then. -/
theorem items_only_move_forward_settlement :
    ∃ paid, (unpaid.after settlement 2).items[0]? = some paid ∧ paid.stage = .completed ∧
      paid.logs.length = 2 ∧ (unpaid.after settlement 4).items[0]? = some paid := by
  have additive : ∀ step ∈ settlement, step.1.isAdditive = true := by decide
  refine ⟨(unpaid.after settlement 2).items.head (by decide), by decide, by decide, by decide, ?_⟩
  obtain ⟨later, there, follows⟩ := (items_only_move_forward unpaid settlement additive).1 2 4 0
    ((unpaid.after settlement 2).items.head (by decide)) (by decide) (by decide)
  rw [there, follows.frozen (by decide)]

end Tracker

end OrderPipeline
