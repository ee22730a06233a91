import OrderPipeline.Dashboard
import OrderPipeline.Proofs.Submission.History
import Mathlib.Algebra.Order.BigOperators.Group.List
import Mathlib.Algebra.Order.Ring.Nat

/-!
# The counts on the dashboard

The dashboard counts the orders of a tracker in several ways, each by a look through all of them.
The counts add up because the looks sort the orders: by their stage, and the followed-up ones by
their status (`perm_flatMap_filter`). Shares are rounded down, so they never add up to more than
the whole (`FollowupCounts.sum_percent_le`).
-/

namespace OrderPipeline

/-! ## Sorting by a key -/

section Sorting

variable {α κ : Type} [BEq κ] [LawfulBEq κ]

/-- A list sorted by different keys holds what has one of the keys. -/
theorem perm_flatMap_filter {keys : List κ} (different : keys.Nodup) (key : α → κ) (xs : List α) :
    (keys.flatMap fun k => xs.filter fun x => key x == k).Perm
      (xs.filter fun x => keys.contains (key x)) := by
  induction keys with
  | nil => simp
  | cons k rest ih =>
    obtain ⟨new, different⟩ := List.nodup_cons.1 different
    -- what has one of the keys is split into what has the first and what has a later one
    have split := List.filter_append_perm (fun x => key x == k)
      (xs.filter fun x => (k :: rest).contains (key x))
    have first : ∀ x, (key x == k && (k :: rest).contains (key x)) = (key x == k) := by
      intro x
      by_cases same : key x = k <;> simp [same]
    have later : ∀ x, (!(key x == k) && (k :: rest).contains (key x)) = rest.contains (key x) := by
      intro x
      by_cases same : key x = k <;> simp [same, new]
    rw [List.filter_filter, List.filter_filter, List.filter_congr fun x _ => first x,
      List.filter_congr fun x _ => later x] at split
    rw [List.flatMap_cons]
    exact ((ih different).append_left _).trans split

/-- So do the numbers for each key. -/
theorem sum_countP_key {keys : List κ} (different : keys.Nodup) (key : α → κ) (xs : List α) :
    (keys.map fun k => xs.countP fun x => key x == k).sum =
      xs.countP fun x => keys.contains (key x) := by
  have sorted := (perm_flatMap_filter different key xs).length_eq
  rw [List.length_flatMap] at sorted
  simpa only [List.countP_eq_length_filter] using sorted

end Sorting

/-! ## The follow-ups -/

namespace FollowupCounts

variable {counts : FollowupCounts}

/-- The counts of the four statuses that are counted. -/
def statusCounts (counts : FollowupCounts) : List ℕ :=
  [counts.followUp, counts.orderReceived, counts.notReceived, counts.needTime]

/-- Shares add up to no more than the share of the sum. -/
theorem sum_percent_le (counts : FollowupCounts) (parts : List ℕ) :
    (parts.map counts.percent).sum ≤ counts.percent parts.sum := by
  induction parts with
  | nil => exact Nat.zero_le _
  | cons part rest ih =>
    rw [List.map_cons, List.sum_cons, List.sum_cons]
    have together : counts.percent part + counts.percent rest.sum ≤
        counts.percent (part + rest.sum) := by
      simp only [percent, Nat.add_mul]
      exact Nat.div_add_div_le_add_div
    omega

/-- The share of no more than what is tracked is at most a hundred. -/
theorem percent_le {count : ℕ} (among : count ≤ counts.tracked) : counts.percent count ≤ 100 := by
  rw [percent]
  refine Nat.div_le_of_le_mul ?_
  have some : counts.tracked ≤ max counts.tracked 1 := Nat.le_max_left _ _
  exact Nat.mul_le_mul_right 100 (Nat.le_trans among some)

/-- An order that is tracked is counted for one status at most. -/
theorem sum_statusCounts_le (items : List Item) :
    (ofItems items).statusCounts.sum ≤ (ofItems items).tracked := by
  have different : [some FollowupStatus.followUp, some .orderReceived, some .notReceived,
    some .needTime].Nodup := by decide
  have sorted := sum_countP_key different (fun item : Item => item.attributes.status)
    (items.filter fun item => item.stage == .followup || item.hasLogFor .followup)
  rw [statusCounts]
  exact Nat.le_trans (Nat.le_of_eq sorted) List.countP_le_length

end FollowupCounts

/-! ## The stages -/

namespace Tracker

/-- Without a search term the pending orders of a stage are those that stand at it. -/
theorem pendingItems_empty (tracker : Tracker) (stage : Stage) :
    tracker.pendingItems stage "" = tracker.items.filter fun item => item.stage == stage := by
  simp [pendingItems]

/-- The working stages are all that are not completed. -/
theorem contains_working (item : Item) :
    Stage.working.contains item.stage = !item.isCompleted := by
  rw [Item.isCompleted]
  cases item.stage <;> rfl

/-- The pending orders of the working stages are the orders that are not completed. -/
theorem perm_pendingItems (tracker : Tracker) :
    (Stage.working.flatMap fun stage => tracker.pendingItems stage "").Perm
      (tracker.items.filter fun item => !item.isCompleted) := by
  have sorted := perm_flatMap_filter (show Stage.working.Nodup by decide) Item.stage tracker.items
  simpa only [pendingItems_empty, contains_working] using sorted

/-- No order is pending at a stage and in its history. -/
theorem disjoint_pending_history (tracker : Tracker) (stage : Stage) :
    (tracker.pendingItems stage "").Disjoint (tracker.historyItems stage "") := by
  intro item pending history
  rw [pendingItems_empty, List.mem_filter, beq_iff_eq] at pending
  have elsewhere := (List.mem_filter.1 history).2
  simp [pending.2] at elsewhere

end Tracker

/-! ## The dashboard -/

/-- What the counts of the follow-ups come to. -/
structure FollowupCounts.AddUp (counts : FollowupCounts) (orders : ℕ) : Prop where
  /-- No more orders are counted by their status than are tracked. -/
  statuses : counts.statusCounts.sum ≤ counts.tracked
  /-- No more are tracked than there are. -/
  tracked : counts.tracked ≤ orders
  /-- Each share is at most the whole. -/
  share : ∀ count ∈ counts.statusCounts, counts.percent count ≤ 100
  /-- The shares together are at most the whole. -/
  shares : (counts.statusCounts.map counts.percent).sum ≤ 100

/-- What the counts of a stage come to. -/
structure StageCounts.Counts (counts : StageCounts) (tracker : Tracker) : Prop where
  /-- The pending orders are counted. -/
  pending : counts.pending = (tracker.pendingItems counts.stage "").length
  /-- The orders in the history are counted. -/
  history : counts.history = (tracker.historyItems counts.stage "").length
  /-- No order is counted as both. -/
  apart : (tracker.pendingItems counts.stage "").Disjoint (tracker.historyItems counts.stage "")
  /-- No more are pending than there are. -/
  pending_le : counts.pending ≤ tracker.items.length
  /-- No more have passed than there are. -/
  history_le : counts.history ≤ tracker.items.length

namespace Dashboard

theorem addUp_ofItems (items : List Item) : (FollowupCounts.ofItems items).AddUp items.length := by
  have statuses := FollowupCounts.sum_statusCounts_le items
  refine ⟨statuses, List.length_filter_le _ _, fun count member => ?_, ?_⟩
  · exact FollowupCounts.percent_le (Nat.le_trans (List.le_sum_of_mem member) statuses)
  · exact Nat.le_trans (FollowupCounts.sum_percent_le _ _) (FollowupCounts.percent_le statuses)

theorem counts_countStage (tracker : Tracker) (stage : Stage) :
    (countStage tracker stage).Counts tracker where
  pending := rfl
  history := rfl
  apart := tracker.disjoint_pending_history stage
  pending_le := List.length_filter_le _ _
  history_le := List.length_filter_le _ _

/-- Every order is counted once: as completed, or as pending, and then at its own stage alone, where
the orders are listed in the sequence in which they stand. The follow-ups are no more than the
orders, and their shares no more than the whole. -/
theorem every_order_counted_once (tracker : Tracker) (today : Date) :
    let summary := ofTracker tracker today
    summary.totalItems = tracker.items.length ∧
      summary.totalItems = summary.pending + summary.completed ∧
      summary.stages.map StageCounts.stage = Stage.working ∧
      (summary.stages.map StageCounts.pending).sum = summary.pending ∧
      (∀ counts ∈ summary.stages, counts.Counts tracker) ∧
      (Stage.working.flatMap fun stage => tracker.pendingItems stage "").Perm
        (tracker.items.filter fun item => !item.isCompleted) ∧
      (∀ stage, tracker.pendingItems stage "" =
        tracker.items.filter fun item => item.stage == stage) ∧
      (∀ item ∈ tracker.items, ∀ stage,
        item ∈ tracker.pendingItems stage "" ↔ stage = item.stage) ∧
      summary.followup.AddUp summary.totalItems := by
  intro summary
  have split : tracker.items.length = tracker.items.countP Item.isCompleted +
      tracker.items.countP fun item => !item.isCompleted := by
    simpa using List.length_eq_countP_add_countP Item.isCompleted (l := tracker.items)
  refine ⟨rfl, ?_, ?_, ?_, ?_, tracker.perm_pendingItems, tracker.pendingItems_empty, ?_,
    addUp_ofItems tracker.items⟩
  · show tracker.items.length = tracker.items.length - tracker.items.countP Item.isCompleted +
      tracker.items.countP Item.isCompleted
    omega
  · show (Stage.working.map (countStage tracker)).map StageCounts.stage = Stage.working
    rfl
  · show ((Stage.working.map (countStage tracker)).map StageCounts.pending).sum =
      tracker.items.length - tracker.items.countP Item.isCompleted
    have sorted := tracker.perm_pendingItems.length_eq
    rw [List.length_flatMap, ← List.countP_eq_length_filter] at sorted
    rw [List.map_map]
    exact sorted.trans (by omega)
  · intro counts member
    obtain ⟨stage, -, rfl⟩ := List.mem_map.1 member
    exact counts_countStage tracker stage
  · intro item member stage
    rw [Tracker.pendingItems_empty, List.mem_filter, beq_iff_eq]
    exact ⟨fun here => here.2.symm, fun here => ⟨member, here.symm⟩⟩

end Dashboard

end OrderPipeline
