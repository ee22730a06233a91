import OrderPipeline.Command.Task
import OrderPipeline.Proofs.Submission.Outcome
import Mathlib.Data.List.Forall2

/-!
# What was logged of an order that is moved by submissions

A tracker is reached by submissions when it begins with orders without logs, and only forms and new
orders without logs come in after that (`Tracker.receiveAll`). The stage at which an order came in
and the stage at which it stands then fix the stages of its logs up to repeated follow-ups
(`StageHistory`).

* `StageHistory.advance`, `StageHistory.stay` — an accepted form keeps the order's history.
* `forall₂_receive` — whatever comes in keeps the history of all orders.
* `stageHistory_receiveAll` — so it holds in every tracker that is reached, and the orders in the
  history of a stage are those that came in at it or before it and stand past it.
-/

namespace OrderPipeline

/-- What reaches a tracker: a filled-in form, or a new order without logs. -/
inductive Intake where
  /-- A form is submitted for an order at a stage. -/
  | submit (id : ItemId) (stage : Stage) (data : Attributes)
  /-- An order is added. -/
  | add (item : Item) (fresh : item.logs = [])

/-- The stage at which an order comes in, if one does. -/
def Intake.arrivalStage? : Intake → Option Stage
  | submit .. => none
  | add item _ => some item.stage

namespace Tracker

/-- The tracker after a form is submitted at a time; a refused form changes nothing. -/
def submit (tracker : Tracker) (id : ItemId) (stage : Stage) (data : Attributes)
    (now : Instant) : Tracker :=
  match Task.submission tracker id stage data with
  | .ok actions => (tracker.replay actions now).1
  | .error _ => tracker

/-- The tracker after something reaches it at a time. -/
def receive (tracker : Tracker) : Intake × Instant → Tracker
  | (.submit id stage data, now) => tracker.submit id stage data now
  | (.add item _, now) => (tracker.apply (.addItem item) now).1

/-- The tracker after all that reaches it. -/
def receiveAll (tracker : Tracker) (intakes : List (Intake × Instant)) : Tracker :=
  intakes.foldl receive tracker

/-- The stages at which the orders came in that the tracker holds after all that reaches it. -/
def entryStages (tracker : Tracker) (intakes : List (Intake × Instant)) : List Stage :=
  tracker.items.map Item.stage ++ intakes.filterMap fun intake => intake.1.arrivalStage?

end Tracker

/-- The stages that are logged of an order which came in at the stage `entry` and stands at the
stage `current`. -/
structure StageHistory (entry current : Stage) (logged : List Stage) : Prop where
  /-- The order has not gone back. -/
  forward : entry ≤ current
  /-- The logs are in the order of the stages. -/
  ordered : logged.Pairwise (· ≤ ·)
  /-- Every working stage that was passed is logged, and once unless it is the follow-up. -/
  passed : ∀ stage ∈ Stage.working, entry ≤ stage → stage < current →
    stage ∈ logged ∧ (stage ≠ .followup → logged.count stage = 1)
  /-- No other stage is logged, but the follow-up of an order that has never left it. -/
  others : ∀ stage ∈ logged,
    (stage ∈ Stage.working ∧ entry ≤ stage ∧ stage < current) ∨
      (stage = .followup ∧ entry = .followup ∧ current = .followup)

namespace StageHistory

variable {entry current : Stage} {logged : List Stage}

/-- Nothing is logged of an order that has just come in. -/
theorem fresh (entry : Stage) : StageHistory entry entry [] where
  forward := Nat.le_refl _
  ordered := List.Pairwise.nil
  passed := fun _ _ after before => absurd before (Nat.not_lt.2 after)
  others := fun _ member => absurd member List.not_mem_nil

/-- No logged stage lies past the one where the order stands. -/
theorem le_current (history : StageHistory entry current logged) {stage : Stage}
    (member : stage ∈ logged) : stage ≤ current := by
  rcases history.others stage member with ⟨-, -, before⟩ | ⟨rfl, -, rfl⟩
  · exact Nat.le_of_lt before
  · exact Nat.le_refl _

/-- The stage where the order stands is logged only while it is the follow-up. -/
theorem eq_followup_of_current_mem (history : StageHistory entry current logged)
    (member : current ∈ logged) : current = .followup := by
  rcases history.others current member with ⟨-, -, before⟩ | ⟨-, -, here⟩
  · exact absurd before (Nat.lt_irrefl _)
  · exact here

/-- Logging the stage where the order stands keeps the logs in order. -/
theorem ordered_append (history : StageHistory entry current logged) :
    (logged ++ [current]).Pairwise (· ≤ ·) := by
  refine List.pairwise_append.2 ⟨history.ordered, List.pairwise_singleton _ _, ?_⟩
  intro stage member last equal
  rw [List.mem_singleton.1 equal]
  exact history.le_current member

/-- An order that is logged at its stage and moves on keeps its history. -/
theorem advance (history : StageHistory entry current logged) (unfinished : current ≠ .completed) :
    StageHistory entry current.next (logged ++ [current]) := by
  have step : current.next.rank = current.rank + 1 := Stage.rank_next unfinished
  have forward : entry.rank ≤ current.rank := history.forward
  have here : current ∈ Stage.working := (Stage.mem_working_iff current).2 unfinished
  -- stages are compared by their ranks, which omega can compute with
  refine ⟨?_, history.ordered_append, ?_, ?_⟩
  · show entry.rank ≤ current.next.rank
    omega
  · intro stage working after before
    have before : stage.rank < current.next.rank := before
    by_cases equal : stage = current
    -- the stage that is left is the one passed now; it had been logged at most as the follow-up
    · subst equal
      refine ⟨by simp, fun notFollowup => ?_⟩
      have absent : stage ∉ logged := mt history.eq_followup_of_current_mem notFollowup
      simp [List.count_eq_zero.2 absent]
    -- the other stages had been passed before, and the new log does not count for them
    · have apart : stage.rank ≠ current.rank := mt Stage.rank_injective equal
      have before : stage < current := show stage.rank < current.rank by omega
      obtain ⟨member, once⟩ := history.passed stage working after before
      refine ⟨List.mem_append_left _ member, fun notFollowup => ?_⟩
      rw [List.count_append, once notFollowup, List.count_singleton]
      simp [Ne.symm equal]
  · intro stage member
    refine Or.inl ?_
    rcases List.mem_append.1 member with old | new
    · rcases history.others stage old with ⟨working, after, before⟩ | ⟨rfl, rfl, rfl⟩
      · have before : stage.rank < current.rank := before
        exact ⟨working, after, show stage.rank < current.next.rank by omega⟩
      -- follow-ups of an order that had not left the follow-up are now those of a passed stage
      · exact ⟨here, Nat.le_refl _, show Stage.followup.rank < _ by omega⟩
    · rw [List.mem_singleton.1 new]
      exact ⟨here, history.forward, show current.rank < current.next.rank by omega⟩

/-- An order that is logged at the follow-up and stays there keeps its history. -/
theorem stay (history : StageHistory entry .followup logged) :
    StageHistory entry .followup (logged ++ [.followup]) := by
  have atStart : entry = .followup := Stage.rank_injective (Nat.le_zero.1 history.forward)
  refine ⟨history.forward, history.ordered_append, ?_, ?_⟩
  -- no stage comes before the follow-up, so none was passed
  · intro stage _ _ before
    exact absurd before (Nat.not_lt_zero _)
  · intro stage member
    rcases List.mem_append.1 member with old | new
    · exact history.others stage old
    · exact Or.inr ⟨List.mem_singleton.1 new, atStart, rfl⟩

/-- A working stage was passed exactly when it is logged and the order stands elsewhere. -/
theorem passed_iff (history : StageHistory entry current logged) {stage : Stage}
    (working : stage ∈ Stage.working) :
    (entry ≤ stage ∧ stage < current) ↔ (current ≠ stage ∧ stage ∈ logged) := by
  constructor
  · rintro ⟨after, before⟩
    refine ⟨?_, (history.passed stage working after before).1⟩
    rintro rfl
    exact Nat.lt_irrefl _ before
  · rintro ⟨elsewhere, member⟩
    rcases history.others stage member with ⟨-, after, before⟩ | ⟨rfl, -, rfl⟩
    · exact ⟨after, before⟩
    · exact absurd rfl elsewhere

end StageHistory

/-! ## All orders of a tracker -/

/-- Whether each order has the history that belongs to the stage at which it came in. -/
def HistoriesKept (entries : List Stage) (items : List Item) : Prop :=
  List.Forall₂ (fun entry item => StageHistory entry item.stage (item.logs.map StageLog.stage))
    entries items

namespace HistoriesKept

/-- Orders without logs have come in where they stand. -/
theorem of_fresh {items : List Item} (fresh : ∀ item ∈ items, item.logs = []) :
    HistoriesKept (items.map Item.stage) items := by
  refine List.forall₂_map_left_iff.2 (List.forall₂_same.2 ?_)
  intro item member
  rw [fresh item member]
  exact StageHistory.fresh item.stage

/-- Replacing one order keeps the history of all when it keeps that of the order. -/
theorem replace {entries : List Stage} {id : ItemId} {old new : Item} {before after : List Item}
    (kept : HistoriesKept entries before) (replaced : ReplacesFirst id old new before after)
    (step : ∀ entry, StageHistory entry old.stage (old.logs.map StageLog.stage) →
      StageHistory entry new.stage (new.logs.map StageLog.stage)) :
    HistoriesKept entries after := by
  obtain ⟨earlier, later, rfl, rfl, -, -⟩ := replaced
  -- the entry stages are split where the orders are, and those around the replaced one stay
  have earlierKept := List.forall₂_take_append _ _ _ kept
  have laterKept := List.forall₂_drop_append _ _ _ kept
  obtain ⟨entry, rest, history, restKept, split⟩ := List.forall₂_cons_right_iff.1 laterKept
  rw [← List.take_append_drop earlier.length entries, split]
  exact List.rel_append earlierKept (List.Forall₂.cons (step entry history) restKept)

end HistoriesKept

/-- A submission that is not refused is carried out for an order at a working stage. -/
theorem Tracker.submit_cases (tracker : Tracker) (id : ItemId) (stage : Stage) (data : Attributes)
    (now : Instant) :
    tracker.submit id stage data now = tracker ∨
      ∃ item form outcomes, item.stage = stage ∧ stage ≠ .completed ∧
        Submission.Carried form item stage data now tracker (tracker.submit id stage data now)
          outcomes := by
  cases found : tracker.findItem? id with
  | none => exact Or.inl (by simp only [submit, Task.submission, found])
  | some item =>
    cases planned : Submission.plan item stage data with
    | error refusal =>
      exact Or.inl (by simp only [submit, Task.submission, found, planned, Except.mapError])
    | ok actions =>
      refine Or.inr ?_
      have carriedOut : tracker.submit id stage data now = (tracker.replay actions now).1 := by
        simp only [submit, Task.submission, found, planned, Except.mapError]
      obtain ⟨form, formed, rfl, -, rfl⟩ := Submission.plan_eq_ok_iff.1 planned
      rw [← Tracker.id_of_findItem? found] at found
      rw [carriedOut]
      exact ⟨item, form, _, rfl, Submission.ne_completed_of_form formed,
        Submission.carried_replay found formed data now⟩

/-- Whatever reaches a tracker keeps the history of all orders. -/
theorem forall₂_receive {entries : List Stage} {tracker : Tracker}
    (kept : HistoriesKept entries tracker.items) (intake : Intake × Instant) :
    HistoriesKept (entries ++ intake.1.arrivalStage?.toList) (tracker.receive intake).items := by
  obtain ⟨intake, now⟩ := intake
  cases intake with
  -- a new order comes last, and so does its entry stage
  | add item fresh =>
    refine List.rel_append kept (List.Forall₂.cons ?_ List.Forall₂.nil)
    rw [fresh]
    exact StageHistory.fresh item.stage
  | submit id stage data =>
    show HistoriesKept (entries ++ []) (tracker.submit id stage data now).items
    rw [List.append_nil]
    rcases tracker.submit_cases id stage data now with refused | accepted
    · rw [refused]
      exact kept
    · obtain ⟨item, form, outcomes, rfl, unfinished, carried⟩ := accepted
      refine kept.replace carried.items fun entry history => ?_
      rw [List.map_append]
      by_cases stays : Submission.Stays item.stage data
      · rw [if_pos stays]
        show StageHistory entry item.stage (item.logs.map StageLog.stage ++ [item.stage])
        rw [stays.1] at history ⊢
        exact history.stay
      · rw [if_neg stays]
        exact history.advance unfinished

/-- All that reaches a tracker keeps the history of all orders. -/
theorem forall₂_receiveAll {entries : List Stage} {tracker : Tracker}
    (kept : HistoriesKept entries tracker.items) (intakes : List (Intake × Instant)) :
    HistoriesKept (entries ++ intakes.filterMap fun intake => intake.1.arrivalStage?)
      (tracker.receiveAll intakes).items := by
  -- on the intakes from the first one on: the orders that came in so far are those of the start
  induction intakes generalizing entries tracker with
  | nil => simpa [Tracker.receiveAll] using kept
  | cons intake rest ih =>
    have whole := ih (forall₂_receive kept intake)
    have split : (intake :: rest).filterMap (fun intake => intake.1.arrivalStage?) =
        intake.1.arrivalStage?.toList ++ rest.filterMap fun intake => intake.1.arrivalStage? := by
      cases entered : intake.1.arrivalStage? <;> simp [entered]
    rw [split, ← List.append_assoc]
    exact whole

/-! ## The history of a stage -/

/-- The empty search term fits every order. -/
@[simp] theorem Item.matchesSearch_empty (item : Item) : item.matchesSearch "" = true := by
  have nothing : (Text.lower (Text.trim "")).toList = [] := by decide
  simp [Item.matchesSearch, nothing]

/-- Something was recorded at a stage exactly when the stage is logged. -/
theorem Item.hasLogFor_iff (item : Item) (stage : Stage) :
    item.hasLogFor stage = true ↔ stage ∈ item.logs.map StageLog.stage := by
  simp [Item.hasLogFor]

/-- The orders in the history of a working stage are those that came in at it or before it and
stand past it. -/
theorem HistoriesKept.filter_eq {entries : List Stage} {items : List Item}
    (kept : HistoriesKept entries items) {stage : Stage} (working : stage ∈ Stage.working) :
    items.filter (fun item =>
        item.stage != stage && item.hasLogFor stage && item.matchesSearch "") =
      ((entries.zip items).filter fun order =>
        decide (order.1 ≤ stage ∧ stage < order.2.stage)).map Prod.snd := by
  -- order by order both lists are filtered by the same answer
  induction kept with
  | nil => rfl
  | @cons entry item entries items history _ ih =>
    have same : (item.stage != stage && item.hasLogFor stage && item.matchesSearch "") =
        decide (entry ≤ stage ∧ stage < item.stage) := by
      rw [Bool.eq_iff_iff, decide_eq_true_iff, history.passed_iff working]
      simp [Item.hasLogFor_iff]
    rw [List.filter_cons, same, ih, List.zip_cons_cons, List.filter_cons]
    split <;> rfl

/-- In every tracker that is reached from orders without logs, the logs of each order follow from
the stage at which it came in and the stage where it stands, and the history of a working stage
lists the orders that came in at it or before it and stand past it. -/
theorem stageHistory_receiveAll (tracker : Tracker)
    (fresh : ∀ item ∈ tracker.items, item.logs = []) (intakes : List (Intake × Instant)) :
    List.Forall₂
        (fun entry item => StageHistory entry item.stage (item.logs.map StageLog.stage))
        (tracker.entryStages intakes) (tracker.receiveAll intakes).items ∧
      ∀ stage ∈ Stage.working,
        (tracker.receiveAll intakes).historyItems stage "" =
          (((tracker.entryStages intakes).zip (tracker.receiveAll intakes).items).filter
            fun order => decide (order.1 ≤ stage ∧ stage < order.2.stage)).map Prod.snd := by
  have kept : HistoriesKept (tracker.entryStages intakes) (tracker.receiveAll intakes).items :=
    forall₂_receiveAll (HistoriesKept.of_fresh fresh) intakes
  exact ⟨kept, fun stage working => kept.filter_eq working⟩

/-- A new order that is followed up twice and then passes the follow-up, while another one comes in
past it. -/
def followedUpTwice : List (Intake × Instant) :=
  [(.submit ⟨"LEAD-1"⟩ .followup { status := some .needTime }, .epoch),
    (.submit ⟨"LEAD-1"⟩ .followup { status := some .followUp }, .epoch),
    (.add
        { id := ⟨"LEAD-2"⟩, customerName := "Amit Jain", phone := "9000000003",
          siteLocation := "Chennai", stage := .po } rfl, .epoch),
    (.submit ⟨"LEAD-1"⟩ .followup { status := some .orderReceived }, .epoch),
    (.submit ⟨"LEAD-2"⟩ .followup { status := some .orderReceived }, .epoch)]

/-- The order that was followed up is in the history of the follow-up, and the one that came in
past it is not. -/
theorem stageHistory_receiveAll_followedUpTwice :
    ∃ tracker : Tracker, (∀ item ∈ tracker.items, item.logs = []) ∧
      (tracker.receiveAll followedUpTwice).items.map (fun item => item.logs.map StageLog.stage) =
        [[.followup, .followup, .followup], []] ∧
      ((tracker.receiveAll followedUpTwice).historyItems .followup "").map Item.id =
        [⟨"LEAD-1"⟩] := by
  have fresh : ∀ item ∈ Submission.twins.items.take 1, item.logs = [] := by decide
  refine ⟨{ items := Submission.twins.items.take 1 }, fresh, by decide, ?_⟩
  obtain ⟨-, listed⟩ := stageHistory_receiveAll { items := Submission.twins.items.take 1 } fresh
    followedUpTwice
  rw [listed .followup (by decide)]
  decide

end OrderPipeline
