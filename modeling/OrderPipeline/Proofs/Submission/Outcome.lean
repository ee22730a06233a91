import OrderPipeline.Form.Submission
import OrderPipeline.Proofs.Engine.Replacement

/-!
# What a submission leaves behind

A form is accepted or refused by `Submission.plan`, and the actions that it plans are carried out
by the engine, which has conditions of its own. `plan_eq_ok_iff` says which forms are accepted, and
`Carried` what is left behind when the planned actions are carried out.

* `carried_replay` — whatever is planned for an order of the tracker is carried out in full.
* `plan_iff_and_replay_carried` — the two together, for every order that the tracker finds.
-/

namespace OrderPipeline.Submission

variable {tracker : Tracker} {id : ItemId} {item : Item} {stage : Stage} {form : StageForm}
  {data : Attributes} {actions : List Action}

/-- Whether a submission leaves the order where it stands: a follow-up after which the customer is
called again or needs time. -/
def Stays (stage : Stage) (data : Attributes) : Prop :=
  stage = .followup ∧ (data.status = some .followUp ∨ data.status = some .needTime)

instance (stage : Stage) (data : Attributes) : Decidable (Stays stage data) :=
  inferInstanceAs (Decidable (_ ∧ _))

/-- The action that a submission at a stage begins with. -/
def stageAction (id : ItemId) (stage : Stage) (data : Attributes) : Action :=
  if Stays stage data then .logStage id stage data else .advance id stage data

/-- The action that a submission ends with. -/
def activityAction (item : Item) (form : StageForm) : Action :=
  .addActivity item.customerName ("Updated in " ++ form.title) form.title

/-- A stage that has a form is not completed. -/
theorem ne_completed_of_form (formed : StageForm.of? stage = some form) : stage ≠ .completed := by
  intro finished
  rw [(StageForm.of?_eq_none_iff stage).2 finished] at formed
  cases formed

theorem staysAt_iff : staysAt stage data = true ↔ Stays stage data := by
  simp [staysAt, Stays]

/-- What is planned at a stage that has a form. -/
theorem plan_of_form (formed : StageForm.of? stage = some form) :
    plan item stage data =
      if item.stage ≠ stage then .error (.notAtStage item.id stage item.stage)
      else if form.missing data ≠ [] then
        .error (.missingRequiredFields ((form.missing data).map FormField.name))
      else .ok [stageAction item.id stage data, activityAction item form] := by
  simp only [plan, Submission.form, formed, bind, Except.bind, throw, throwThe,
    MonadExceptOf.throw, pure, Except.pure]
  split
  · rfl
  · by_cases complete : form.missing data = []
    · simp [complete, stageAction, activityAction, staysAt_iff]
    · simp [complete]

/-- A form is accepted exactly when its stage has one, the order stands at the stage, and no needed
field is left unset; the two actions are then those of the submission. -/
theorem plan_eq_ok_iff :
    plan item stage data = .ok actions ↔
      ∃ form, StageForm.of? stage = some form ∧ item.stage = stage ∧ form.missing data = [] ∧
        actions = [stageAction item.id stage data, activityAction item form] := by
  cases formed : StageForm.of? stage with
  | none => simp [plan, Submission.form, formed, bind, Except.bind]
  | some form =>
    rw [plan_of_form formed]
    by_cases here : item.stage = stage
    · by_cases complete : form.missing data = []
      · rw [if_neg (not_not.2 here), if_neg (not_not.2 complete)]
        constructor
        · rintro ⟨rfl⟩
          exact ⟨form, rfl, here, complete, rfl⟩
        · rintro ⟨_, ⟨rfl⟩, -, -, rfl⟩
          rfl
      · simp [here, complete]
    · simp [here]

/-- No needed field is missing exactly when each of them is set. -/
theorem missing_eq_nil_iff :
    form.missing data = [] ↔ ∀ field ∈ form.requiredFields, data.isSet field.field = true := by
  simp [StageForm.missing, List.filter_eq_nil_iff]

/-- What carrying out a submission for an order leaves behind, and what it answers. -/
structure Carried (form : StageForm) (item : Item) (stage : Stage) (data : Attributes)
    (now : Instant) (before after : Tracker) (outcomes : List Outcome) : Prop where
  /-- The order has moved on, or has stayed where the submission leaves it; then the activity has
  been recorded. -/
  outcomes_eq : outcomes =
    [if Stays stage data then .annotated item.id stage
      else .advanced item.id stage stage.next,
      .activityRecorded before.feed.evictedBy]
  /-- Nothing was refused. -/
  applied : ∀ outcome ∈ outcomes, outcome.isApplied = true
  /-- The order has one more log, its attributes are overlaid with the data, and it stands where
  the answer says; its other fields and all other orders are as they were. -/
  items : ReplacesFirst item.id item
    { item with
      stage := if Stays stage data then stage else stage.next
      logs := item.logs ++ [⟨stage, now, data⟩]
      attributes := item.attributes.merge data } before.items after.items
  /-- The feed begins with an entry for the customer, titled after the form of the stage. -/
  feed : after.feed.entries =
    (⟨item.customerName, "Updated in " ++ form.title, form.title, now⟩ ::
      before.feed.entries).take ActivityFeed.capacity

/-- Whatever is planned for an order of the tracker is carried out in full. -/
theorem carried_replay (found : tracker.findItem? item.id = some item)
    (formed : StageForm.of? item.stage = some form) (data : Attributes) (now : Instant) :
    Carried form item item.stage data now tracker
      (tracker.replay [stageAction item.id item.stage data, activityAction item form] now).1
      (tracker.replay [stageAction item.id item.stage data, activityAction item form] now).2 := by
  have unfinished : item.stage ≠ .completed := ne_completed_of_form formed
  -- the two kinds of submissions differ in their first action, and with it in the stage left behind
  by_cases stays : Stays item.stage data
  · have first : stageAction item.id item.stage data = .logStage item.id item.stage data :=
      if_pos stays
    simp only [first, activityAction, Tracker.replay, List.map_cons, List.map_nil, Tracker.run,
      Tracker.apply_logStage found unfinished]
    refine ⟨by rw [if_pos stays]; rfl, by simp [Outcome.isApplied, Tracker.apply], ?_, rfl⟩
    rw [if_pos stays]
    exact Tracker.replacesFirst_updateItem found _
  · have first : stageAction item.id item.stage data = .advance item.id item.stage data :=
      if_neg stays
    simp only [first, activityAction, Tracker.replay, List.map_cons, List.map_nil, Tracker.run,
      Tracker.apply_advance found unfinished]
    refine ⟨by rw [if_neg stays]; rfl, by simp [Outcome.isApplied, Tracker.apply], ?_, rfl⟩
    rw [if_neg stays]
    exact Tracker.replacesFirst_updateItem found _

/-- A form for an order of the tracker is accepted exactly when it is one of a working stage, the
order stands at that stage, and all needed fields are set; an accepted form is carried out in
full. -/
theorem plan_iff_and_replay_carried (found : tracker.findItem? id = some item) (stage : Stage)
    (data : Attributes) (now : Instant) :
    ((∃ actions, plan item stage data = .ok actions) ↔
      stage ∈ Stage.working ∧ item.stage = stage ∧
        ∀ form, StageForm.of? stage = some form →
          ∀ field ∈ form.requiredFields, data.isSet field.field = true) ∧
    ∀ actions, plan item stage data = .ok actions →
      item.id = id ∧ ∃ form, StageForm.of? stage = some form ∧
        Carried form item stage data now tracker (tracker.replay actions now).1
          (tracker.replay actions now).2 := by
  refine ⟨?_, ?_⟩
  · constructor
    · rintro ⟨actions, planned⟩
      obtain ⟨form, formed, here, complete, -⟩ := plan_eq_ok_iff.1 planned
      refine ⟨(Stage.mem_working_iff stage).2 (ne_completed_of_form formed), here, ?_⟩
      intro other otherFormed
      rw [formed] at otherFormed
      cases otherFormed
      exact missing_eq_nil_iff.1 complete
    · rintro ⟨working, here, complete⟩
      -- a working stage has a form, so the condition on its fields speaks of something
      obtain ⟨form, formed⟩ := Option.ne_none_iff_exists'.1 <|
        mt (StageForm.of?_eq_none_iff stage).1 ((Stage.mem_working_iff stage).1 working)
      exact ⟨_, plan_eq_ok_iff.2
        ⟨form, formed, here, missing_eq_nil_iff.2 (complete form formed), rfl⟩⟩
  · intro actions planned
    obtain ⟨form, formed, rfl, -, rfl⟩ := plan_eq_ok_iff.1 planned
    -- the actions name the order by its own identifier, and it is found by that as well
    have known : item.id = id := Tracker.id_of_findItem? found
    rw [← known] at found
    exact ⟨known, form, formed, carried_replay found formed data now⟩

/-- Two orders with one identifier, of which the first is followed up. -/
def twins : Tracker where
  items :=
    [{ id := ⟨"LEAD-1"⟩, customerName := "Priya Patel", phone := "9000000002",
        siteLocation := "Delhi" },
      { id := ⟨"LEAD-1"⟩, customerName := "Amit Jain", phone := "9000000003",
        siteLocation := "Chennai", stage := .po }]

/-- Of two orders with one identifier the first is the one that a follow-up is recorded for. -/
theorem plan_iff_and_replay_carried_twins :
    ∃ item, twins.findItem? ⟨"LEAD-1"⟩ = some item ∧ item.customerName = "Priya Patel" ∧
      ∃ actions, plan item .followup { status := some .needTime } = .ok actions ∧
        (twins.replay actions .epoch).2 =
          [.annotated ⟨"LEAD-1"⟩ .followup, .activityRecorded 0] := by
  have found : twins.findItem? ⟨"LEAD-1"⟩ = some (twins.items.head (by decide)) := by decide
  obtain ⟨accepted, carriedOut⟩ :=
    plan_iff_and_replay_carried found .followup { status := some .needTime } .epoch
  obtain ⟨actions, planned⟩ := accepted.2 ⟨by decide, by decide, by
    intro form formed
    cases formed
    decide⟩
  obtain ⟨-, form, -, carried⟩ := carriedOut actions planned
  exact ⟨_, found, by decide, actions, planned, carried.outcomes_eq⟩

end OrderPipeline.Submission
