import OrderPipeline.Proofs.Engine.Progress

/-!
# Times are kept in order

When a run of additive actions goes by a clock that is never set back, the logs of every order stay
in the order of their times and the feed stays newest first. The order of the times alone would not
carry over from one action to the next: what is recorded is put behind the logs and in front of the
feed, so all that was recorded before has to be from then or earlier (`RecordedBy`).

* `AdditiveStep.inOrder`, `AdditiveStep.recordedBy` — one action keeps the order, and records
  nothing later than its own time.
* `inOrder_after` — so does every part of a run whose times do not go back.
* `chronology_kept` — at every point of the run, with the time of the last action by then.
-/

namespace OrderPipeline

/-! ## Instants -/

namespace Instant

instance (earlier later : Instant) : Decidable (earlier ≤ later) :=
  List.decidableLE earlier.parts later.parts

protected theorem le_refl (time : Instant) : time ≤ time := List.le_refl time.parts

protected theorem le_trans {first second third : Instant} (start : first ≤ second)
    (rest : second ≤ third) : first ≤ third := List.le_trans start rest

end Instant

/-! ## Records in order -/

/-- Whether the logs of an order are in the order of their times. -/
def Item.InOrder (item : Item) : Prop :=
  item.logs.Pairwise fun earlier later => earlier.time ≤ later.time

instance (item : Item) : Decidable item.InOrder :=
  inferInstanceAs (Decidable (item.logs.Pairwise fun earlier later => earlier.time ≤ later.time))

/-- Whether nothing was recorded for an order after a time. -/
def Item.RecordedBy (item : Item) (now : Instant) : Prop := ∀ log ∈ item.logs, log.time ≤ now

instance (item : Item) (now : Instant) : Decidable (item.RecordedBy now) :=
  inferInstanceAs (Decidable (∀ log ∈ item.logs, log.time ≤ now))

namespace Item

variable {item : Item} {now later : Instant}

/-- What was recorded by a time was recorded by any later one. -/
theorem RecordedBy.mono (past : item.RecordedBy now) (forward : now ≤ later) :
    item.RecordedBy later := fun log member => Instant.le_trans (past log member) forward

/-- A log is put behind those that are not later. -/
theorem InOrder.recordTo (ordered : item.InOrder) (past : item.RecordedBy now) (stage : Stage)
    (data : Attributes) (next : Stage) : (item.recordTo stage data now next).InOrder := by
  refine List.pairwise_append.2 ⟨ordered, List.pairwise_singleton _ _, ?_⟩
  intro log member new here
  rw [List.mem_singleton.1 here]
  exact past log member

/-- The log that is added is of the time at which it is recorded. -/
theorem RecordedBy.recordTo (past : item.RecordedBy now) (stage : Stage) (data : Attributes)
    (next : Stage) : (item.recordTo stage data now next).RecordedBy now := by
  intro log member
  rcases List.mem_append.1 member with old | new
  · exact past log old
  · rw [List.mem_singleton.1 new]
    exact Instant.le_refl now

end Item

namespace Tracker

/-- Whether the logs of each order are in the order of their times and the feed is newest first. -/
structure InOrder (tracker : Tracker) : Prop where
  /-- No log of an order is older than the one before it. -/
  items : ∀ item ∈ tracker.items, item.InOrder
  /-- No entry of the feed is newer than the one before it. -/
  feed : tracker.feed.entries.Pairwise fun newer older => older.time ≤ newer.time

/-- Whether nothing was recorded after a time. -/
structure RecordedBy (tracker : Tracker) (now : Instant) : Prop where
  /-- No log of an order is later. -/
  items : ∀ item ∈ tracker.items, item.RecordedBy now
  /-- No entry of the feed is later. -/
  feed : ∀ entry ∈ tracker.feed.entries, entry.time ≤ now

/-- What was recorded by a time was recorded by any later one. -/
theorem RecordedBy.mono {tracker : Tracker} {now later : Instant} (past : tracker.RecordedBy now)
    (forward : now ≤ later) : tracker.RecordedBy later where
  items item member := (past.items item member).mono forward
  feed entry member := Instant.le_trans (past.feed entry member) forward

end Tracker

namespace AdditiveStep

variable {before after : Tracker} {now : Instant} {action : Action} {outcome : Outcome}

/-- A step records nothing later than its own time. -/
theorem recordedBy (step : AdditiveStep before now action after outcome)
    (past : before.RecordedBy now)
    (brought : ∀ item, action = .addItem item → item.RecordedBy now) : after.RecordedBy now := by
  cases step with
  | added new =>
    refine ⟨fun item member => ?_, past.feed⟩
    rcases List.mem_append.1 member with old | added
    · exact past.items item old
    · exact brought item (by rw [List.mem_singleton.1 added])
  | noted =>
    refine ⟨past.items, fun entry member => ?_⟩
    rcases List.mem_cons.1 (List.mem_of_mem_take member) with rfl | old
    · exact Instant.le_refl now
    · exact past.feed entry old
  | refused => exact past
  | recorded _ _ found =>
    refine ⟨fun item member => ?_, past.feed⟩
    rcases List.mem_or_eq_of_mem_set member with old | rfl
    · exact past.items item old
    · exact (past.items _ (List.mem_of_getElem? found)).recordTo _ _ _

/-- A step leaves all times in order that were in order before, if none of them is later. -/
theorem inOrder (step : AdditiveStep before now action after outcome) (ordered : before.InOrder)
    (past : before.RecordedBy now) (brought : ∀ item, action = .addItem item → item.InOrder) :
    after.InOrder := by
  cases step with
  | added new =>
    refine ⟨fun item member => ?_, ordered.feed⟩
    rcases List.mem_append.1 member with old | added
    · exact ordered.items item old
    · exact brought item (by rw [List.mem_singleton.1 added])
  | noted =>
    -- the entries that are lost are the last ones, so the others are still in order
    refine ⟨ordered.items, List.Pairwise.sublist (List.take_sublist _ _) ?_⟩
    exact List.pairwise_cons.2 ⟨past.feed, ordered.feed⟩
  | refused => exact ordered
  | recorded _ _ found =>
    refine ⟨fun item member => ?_, ordered.feed⟩
    rcases List.mem_or_eq_of_mem_set member with old | rfl
    · exact ordered.items item old
    · have there := List.mem_of_getElem? found
      exact (ordered.items _ there).recordTo (past.items _ there) _ _ _

end AdditiveStep

namespace Tracker

variable {tracker : Tracker} {steps : List (Action × Instant)}

/-- At every point of a run whose times do not go back, what was recorded is in order, and nothing
of it is later than the next action. -/
theorem inOrder_after (additive : ∀ step ∈ steps, step.1.isAdditive = true)
    (forward : steps.Pairwise fun earlier later => earlier.2 ≤ later.2)
    (ordered : tracker.InOrder) (past : ∀ step ∈ steps.head?, tracker.RecordedBy step.2)
    (brought : ∀ step ∈ steps, ∀ item, step.1 = .addItem item →
      item.InOrder ∧ item.RecordedBy step.2) (n : Nat) :
    (tracker.after steps n).InOrder ∧
      ∀ step, steps[n]? = some step → (tracker.after steps n).RecordedBy step.2 := by
  -- on the number of actions so far: the next one is not earlier than any that was applied
  induction n with
  | zero => exact ⟨ordered, fun step next => past step (by rwa [List.head?_eq_getElem?])⟩
  | succ n ih =>
    obtain ⟨inOrder, recorded⟩ := ih
    rw [after_succ]
    cases here : steps[n]? with
    | none =>
      refine ⟨inOrder, fun step next => ?_⟩
      have inside := (List.getElem?_eq_some_iff.1 next).1
      have outside := List.getElem?_eq_none_iff.1 here
      omega
    | some step =>
      obtain ⟨action, now⟩ := step
      have member := List.mem_of_getElem? here
      have adds := additiveStep_apply (tracker.after steps n) (additive _ member) now
      have by_now := adds.recordedBy (recorded _ here) fun item added =>
        (brought _ member item added).2
      refine ⟨adds.inOrder inOrder (recorded _ here) fun item added =>
        (brought _ member item added).1, fun step next => by_now.mono ?_⟩
      obtain ⟨inside, rfl⟩ := List.getElem?_eq_some_iff.1 next
      obtain ⟨before, same⟩ := List.getElem?_eq_some_iff.1 here
      have order := List.pairwise_iff_getElem.1 forward n (n + 1) before inside (Nat.lt_succ_self n)
      rwa [same] at order

/-- When a run of additive actions goes by a clock that is never set back, and begins where all
times are in order and none is later than the first action, and orders are added only with logs in
order and none later than the action that adds them, then at every point all times are in order and
none is later than the last action by then. -/
theorem chronology_kept (additive : ∀ step ∈ steps, step.1.isAdditive = true)
    (forward : steps.Pairwise fun earlier later => earlier.2 ≤ later.2)
    (ordered : tracker.InOrder) (past : ∀ step ∈ steps.head?, tracker.RecordedBy step.2)
    (brought : ∀ step ∈ steps, ∀ item, step.1 = .addItem item →
      item.InOrder ∧ item.RecordedBy step.2) :
    (∀ n, (tracker.after steps n).InOrder) ∧
      ∀ n step, steps[n]? = some step → (tracker.after steps (n + 1)).RecordedBy step.2 := by
  refine ⟨fun n => (inOrder_after additive forward ordered past brought n).1, ?_⟩
  rintro n ⟨action, now⟩ here
  have member := List.mem_of_getElem? here
  have recorded := (inOrder_after additive forward ordered past brought n).2 _ here
  rw [after_succ, here]
  exact (additiveStep_apply _ (additive _ member) now).recordedBy recorded fun item added =>
    (brought _ member item added).2

/-- The evening of a day that ends with a leap second. -/
def evening : Instant := ⟨⟨2016, 12, 31, by decide⟩, 18, 0, 0, 0, by decide⟩

/-- The leap second. -/
def leapSecond : Instant := ⟨⟨2016, 12, 31, by decide⟩, 23, 59, 60, 0, by decide⟩

/-- A minute after the end of the year. -/
def newYear : Instant := ⟨⟨2017, 1, 1, by decide⟩, 0, 1, 0, 0, by decide⟩

/-- An order that was worked on in the evening. -/
def installed : Item where
  id := ⟨"LEAD-2"⟩
  customerName := "Meena Rao"
  phone := "9000000004"
  siteLocation := "Pune"
  stage := .customerReview
  logs := [⟨.installation, .epoch, {}⟩, ⟨.installMaterial, evening, {}⟩]

/-- An order is added with its history, a form for it and one for an unknown order are handed in,
an activity is recorded in the same second, and the last form comes after midnight. -/
def nightShift : List (Action × Instant) :=
  [(.addItem installed, evening), (.advance ⟨"LEAD-2"⟩ .customerReview {}, leapSecond),
    (.logStage ⟨"LEAD-9"⟩ .stock {}, leapSecond),
    (.addActivity "Meena Rao" "Updated in Customer Review" "Customer Review", leapSecond),
    (.advance ⟨"LEAD-2"⟩ .payment {}, newYear)]

/-- The forms of the night are behind the history that the order came with, in this order, and what
was there before midnight is not later than the leap second. -/
theorem chronology_kept_nightShift :
    ((unpaid.after nightShift 5).items.map fun item => item.logs.map StageLog.time) =
        [[], [], [.epoch, evening, leapSecond, newYear]] ∧
      (unpaid.after nightShift 5).InOrder ∧ (unpaid.after nightShift 4).RecordedBy leapSecond := by
  have brought : ∀ step ∈ nightShift, ∀ item, step.1 = .addItem item →
      item.InOrder ∧ item.RecordedBy step.2 := by
    intro step member item added
    simp only [nightShift, List.mem_cons, List.not_mem_nil, or_false] at member
    rcases member with rfl | rfl | rfl | rfl | rfl <;> cases added
    decide
  have past : ∀ step ∈ nightShift.head?, unpaid.RecordedBy step.2 := by
    intro step first
    cases first
    exact ⟨by decide, by decide⟩
  have ordered : unpaid.InOrder := ⟨by decide, by decide⟩
  have kept := chronology_kept (by decide) (by decide) ordered past brought
  exact ⟨by decide, kept.1 5, kept.2 3 _ rfl⟩

end Tracker

end OrderPipeline
