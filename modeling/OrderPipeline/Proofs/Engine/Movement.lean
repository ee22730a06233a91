import OrderPipeline.Proofs.Engine.Progress
import OrderPipeline.Proofs.Submission.Outcome

/-!
# What is said about an order that moves on

An advance is answered as a move from the stage that it names to the one after it, whenever that
one lies past the stage where the order stands. So the order may have stood before the stage that is
named, and then it passes by the stages in between.

* `outcome_eq_advanced_iff` — when an action is answered as a move.
* `passesBy_iff` — no stage is passed by just when the order stood at the stage that is named.
* `advanced_reports_move` — what a move that is answered says about the order.
-/

namespace OrderPipeline

/-- The stages up to a working stage are those before the next one. -/
theorem Stage.lt_next_iff {stage other : Stage} (working : other ≠ .completed) :
    stage < other.next ↔ stage ≤ other := by
  change stage.rank < other.next.rank ↔ stage.rank ≤ other.rank
  rw [rank_next working, Nat.lt_succ_iff]

/-- An order that stands no later than a working stage is not completed. -/
theorem Stage.ne_completed_of_le {stage other : Stage} (working : other ≠ .completed)
    (before : stage ≤ other) : stage ≠ .completed := by
  rintro rfl
  have last : other.rank ≤ rank .completed := by cases other <;> decide
  exact working (rank_injective (Nat.le_antisymm last before))

/-- Whether an order that goes from one stage to another passes by a stage in between. -/
def Stage.PassesBy (origin destination stage : Stage) : Prop := origin < stage ∧ stage < destination

instance (origin destination stage : Stage) : Decidable (origin.PassesBy destination stage) :=
  inferInstanceAs (Decidable (_ ∧ _))

/-- An order that goes from a stage to the one after a working stage passes no stage by just when
these two are the same. -/
theorem Stage.passesBy_iff {stage origin : Stage} (working : origin ≠ .completed)
    (before : stage ≤ origin) :
    (∀ between ∈ Stage.working, ¬ stage.PassesBy origin.next between) ↔ stage = origin := by
  constructor
  · intro passesNone
    by_contra elsewhere
    have unequal : stage.rank ≠ origin.rank := fun same => elsewhere (rank_injective same)
    have below : stage.rank < origin.rank := Nat.lt_of_le_of_ne before unequal
    -- the named stage itself is one of those that are passed by
    exact passesNone origin ((mem_working_iff origin).2 working)
      ⟨below, (lt_next_iff working).2 (Nat.le_refl _)⟩
  · rintro rfl between - ⟨after, until_next⟩
    exact Nat.lt_irrefl _ (Nat.lt_of_lt_of_le after ((lt_next_iff working).1 until_next))

namespace Tracker

variable {tracker : Tracker} {action : Action} {now : Instant} {id : ItemId}
  {origin destination : Stage}

/-- An action is answered as a move just when it is an advance that names a working stage, and the
first order with the identifier stands there or at an earlier stage. -/
theorem outcome_eq_advanced_iff :
    (tracker.apply action now).2 = .advanced id origin destination ↔
      ∃ data item, action = .advance id origin data ∧ tracker.findItem? id = some item ∧
        origin ≠ .completed ∧ item.stage ≤ origin ∧ destination = origin.next := by
  constructor
  · intro answered
    cases action with
    | addItem | addActivity | load => cases answered
    | updateItem item =>
      cases found : tracker.findItem? item.id with
      | none => simp [apply, found] at answered
      | some old => simp [apply, found] at answered
    | logStage id stage data =>
      cases opened : tracker.openItem id with
      | error refusal => simp [apply, opened] at answered
      | ok item => simp [apply, opened] at answered
    | advance id stage data =>
      cases opened : tracker.openItem id with
      | error refusal => simp [apply, opened] at answered
      | ok item =>
        simp only [apply, opened] at answered
        split at answered
        · cases answered
        · next notTerminal =>
          have working : stage ≠ .completed := mt Stage.isTerminal_iff.2 notTerminal
          split at answered
          · next forward =>
            cases answered
            exact ⟨data, item, rfl, (openItem_eq_ok_iff.1 opened).1, working,
              (Stage.lt_next_iff working).1 forward, rfl⟩
          · cases answered
  · rintro ⟨data, item, rfl, found, working, before, rfl⟩
    have unfinished : item.stage ≠ .completed := Stage.ne_completed_of_le working before
    have notTerminal : ¬ origin.isTerminal = true := mt Stage.isTerminal_iff.1 working
    simp only [apply, openItem_eq_ok_iff.2 ⟨found, unfinished⟩, if_neg notTerminal,
      if_pos ((Stage.lt_next_iff working).2 before)]

/-- An order that is answered to have moved is found at the index where it stood, at the stage after
the one that the action names. -/
theorem exists_moved {data : Attributes} {item : Item}
    (answered : (tracker.apply (.advance id origin data) now).2 = .advanced id origin origin.next)
    (found : tracker.findItem? id = some item) :
    ∃ index moved, tracker.position? id = some index ∧ tracker.items[index]? = some item ∧
      (tracker.apply (.advance id origin data) now).1.items[index]? = some moved ∧
      moved.stage = origin.next := by
  obtain ⟨known, old, same, first, working, before, -⟩ := outcome_eq_advanced_iff.1 answered
  cases same
  cases found.symm.trans first
  have unfinished : item.stage ≠ .completed := Stage.ne_completed_of_le working before
  have notTerminal : ¬ origin.isTerminal = true := mt Stage.isTerminal_iff.1 working
  have result : (tracker.apply (.advance id origin data) now).1 =
      tracker.updateItem id fun _ => item.recordTo origin data now origin.next := by
    simp only [apply, openItem_eq_ok_iff.2 ⟨found, unfinished⟩, if_neg notTerminal,
      if_pos ((Stage.lt_next_iff working).2 before)]
    rfl
  obtain ⟨index, position, here, updated⟩ :=
    updateItem_eq_setItem found fun _ => item.recordTo origin data now origin.next
  refine ⟨index, item.recordTo origin data now origin.next, position, here, ?_, rfl⟩
  rw [result, updated, getElem?_setItem here, if_pos rfl]

/-- A move that is answered is one to the stage after the one that the answer begins with, which is
a working stage. The first order with the identifier stood there or at an earlier stage, and now it
stands where the answer says. It has passed by no working stage just when it stood at the stage that
the answer begins with, as it does whenever the action was planned for it. -/
theorem advanced_reports_move (tracker : Tracker) (action : Action) (now : Instant)
    (answered : (tracker.apply action now).2 = .advanced id origin destination) :
    ∃ (index : Nat) (old moved : Item),
      tracker.position? id = some index ∧ tracker.items[index]? = some old ∧
      (tracker.apply action now).1.items[index]? = some moved ∧
      old.stage ≤ origin ∧ moved.stage = destination ∧
      origin ∈ Stage.working ∧ destination = origin.next ∧
      ((∀ between ∈ Stage.working, ¬ old.stage.PassesBy destination between) ↔
        old.stage = origin) ∧
      ∀ stage data actions, Submission.plan old stage data = .ok actions → action ∈ actions →
        old.stage = origin := by
  obtain ⟨data, old, rfl, found, working, before, rfl⟩ := outcome_eq_advanced_iff.1 answered
  obtain ⟨index, moved, position, here, there, stands⟩ := exists_moved answered found
  refine ⟨index, old, moved, position, here, there, before, stands,
    (Stage.mem_working_iff origin).2 working, rfl, Stage.passesBy_iff working before, ?_⟩
  intro stage other actions planned member
  obtain ⟨form, -, atStage, -, rfl⟩ := Submission.plan_eq_ok_iff.1 planned
  -- of the two planned actions only the first one can be an advance
  rcases List.mem_pair.1 member with first | second
  · rw [Submission.stageAction] at first
    split at first
    · cases first
    · cases first
      exact atStage
  · cases second

/-- An order that is followed up. -/
def followedUp : Tracker where
  items :=
    [{ id := ⟨"LEAD-1"⟩, customerName := "Amit Sharma", phone := "9000000001",
        siteLocation := "Mumbai" }]

/-- A payment that is recorded for an order at the follow-up takes it to the end. -/
theorem advanced_reports_move_hurried :
    (followedUp.apply (.advance ⟨"LEAD-1"⟩ .payment {}) .epoch).2 =
        .advanced ⟨"LEAD-1"⟩ .payment .completed ∧
      ∃ (index : Nat) (old moved : Item), followedUp.items[index]? = some old ∧
        (followedUp.apply (.advance ⟨"LEAD-1"⟩ .payment {}) .epoch).1.items[index]? = some moved ∧
        old.stage ≤ .payment ∧ moved.stage = .completed := by
  have answered : (followedUp.apply (.advance ⟨"LEAD-1"⟩ .payment {}) .epoch).2 =
      .advanced ⟨"LEAD-1"⟩ .payment .completed := by decide
  obtain ⟨index, old, moved, -, here, there, before, stands, -⟩ :=
    advanced_reports_move followedUp _ .epoch answered
  exact ⟨answered, index, old, moved, here, there, before, stands⟩

/-- The answer to it says that the order moved from the payment, where it did not stand, and the
order has passed by the stock among other stages. -/
theorem misreported_move_hurried :
    (followedUp.apply (.advance ⟨"LEAD-1"⟩ .payment {}) .epoch).2 =
        .advanced ⟨"LEAD-1"⟩ .payment .completed ∧
      (followedUp.findItem? ⟨"LEAD-1"⟩).map Item.stage = some .followup ∧
      Stage.PassesBy .followup .completed .stock := by
  decide

end Tracker

end OrderPipeline
