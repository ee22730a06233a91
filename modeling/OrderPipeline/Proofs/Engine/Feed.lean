import OrderPipeline.Proofs.Engine.Journal
import Mathlib.Algebra.Ring.Nat
import Mathlib.Data.List.DropRight

/-!
# What the feed shows after a run

Only two kinds of actions touch the activity feed: one that records an activity and one that puts
another tracker in place (`feed_apply`). What a run leaves in the feed is therefore decided by the
last tracker that was put in place (`lastLoaded`) and the activities that were recorded since
(`notesSince`), of which the newest five are kept.

* `FeedKept.note` — one activity more is put in front, and the entries that are lost are counted.
* `feedKept_run` — so it is for all activities since the last tracker was put in place.
* `feed_shows_newest` — the entries, the count of lost ones, and the actions that touch nothing.
-/

namespace OrderPipeline

/-! ## Actions that touch the feed -/

namespace Action

/-- The entry that an action puts into the feed at a time, if it records an activity. -/
def note? (now : Instant) : Action → Option ActivityEntry
  | addActivity customerName action stage => some ⟨customerName, action, stage, now⟩
  | addItem _ | updateItem _ | advance .. | logStage .. | load _ => none

/-- The tracker that an action puts in place, if it does. -/
def snapshot? : Action → Option Tracker
  | load tracker => some tracker
  | addItem _ | updateItem _ | advance .. | logStage .. | addActivity .. => none

end Action

namespace Event

/-- The entry that an event puts into the feed, with the time of its own action. -/
def note? (event : Event) : Option ActivityEntry := event.action.note? event.time

/-- How many entries of the feed an event reports as lost. -/
def evicted (event : Event) : Nat :=
  match event.outcome with
  | .activityRecorded evicted => evicted
  | _ => 0

end Event

/-- The events after the last one that put a tracker in place. -/
def sinceLoaded (events : List Event) : List Event :=
  events.rtakeWhile fun event => event.action.snapshot?.isNone

/-- The activities among the events after the last one that put a tracker in place. -/
def notesSince (events : List Event) : List Event :=
  (sinceLoaded events).filter fun event => event.note?.isSome

namespace Tracker

variable {tracker : Tracker} {steps : List (Action × Instant)} {action : Action} {now : Instant}

/-- The tracker that some actions put in place last, or the one that they begin with. -/
def lastLoaded (tracker : Tracker) (steps : List (Action × Instant)) : Tracker :=
  (steps.filterMap fun step => step.1.snapshot?).getLast?.getD tracker

/-- The feed after an action: that of the tracker put in place, or the earlier one with the entry
of a recorded activity, or just the earlier one. -/
theorem feed_apply (tracker : Tracker) (action : Action) (now : Instant) :
    (tracker.apply action now).1.feed =
      match action.snapshot?, action.note? now with
      | some snapshot, _ => snapshot.feed
      | none, some entry => tracker.feed.record entry
      | none, none => tracker.feed := by
  cases action with
  | addItem | addActivity | load => rfl
  | updateItem item =>
    simp only [apply]
    split <;> rfl
  | advance id stage data =>
    simp only [apply]
    split
    · rfl
    · split
      · rfl
      · split <;> rfl
  | logStage id stage data =>
    simp only [apply]
    split <;> rfl

/-- An activity is answered with the number of entries that are lost by it. -/
theorem outcome_of_note {entry : ActivityEntry} (noted : action.note? now = some entry) :
    (tracker.apply action now).2 = .activityRecorded tracker.feed.evictedBy := by
  cases action with
  | addActivity => rfl
  | addItem | updateItem | advance | logStage | load => cases noted

/-! ## Runs, seen from their last action -/

/-- The last event of a run is that of its last action. -/
theorem journal_concat (tracker : Tracker) (steps : List (Action × Instant))
    (step : Action × Instant) :
    tracker.journal (steps ++ [step]) =
      tracker.journal steps ++ [(tracker.run steps).1.event step.1 step.2] := by
  induction steps generalizing tracker with
  | nil => rfl
  | cons first rest ih => simp [journal, run, ih]

/-- A run ends with its last action. -/
theorem run_concat (tracker : Tracker) (steps : List (Action × Instant))
    (step : Action × Instant) :
    (tracker.run (steps ++ [step])).1 = ((tracker.run steps).1.apply step.1 step.2).1 := by
  rw [run_append]
  rfl

end Tracker

/-! ## The entries and the lost ones -/

/-- Whether a feed is what some activities, oldest first, have made of an earlier one, and they
have reported all entries that were lost by it. -/
structure FeedKept (earlier : ActivityFeed) (notes : List Event) (later : ActivityFeed) :
    Prop where
  /-- Without an activity the feed stays as it was, however long it is. -/
  untouched : notes = [] → later = earlier
  /-- After an activity the feed holds the five newest entries. -/
  newest : notes ≠ [] →
    later.entries = ((notes.filterMap Event.note?).reverse ++ earlier.entries).take 5
  /-- Each activity is answered with the number of entries that it has cost. -/
  reported : ∀ note ∈ notes, note.outcome = .activityRecorded note.evicted
  /-- What is kept and what is lost together are the earlier entries and the new ones. -/
  balanced : (notes.map Event.evicted).sum + later.entries.length =
    notes.length + earlier.entries.length

namespace FeedKept

variable {earlier later : ActivityFeed} {notes : List Event}

/-- A feed that nothing happens to is kept. -/
theorem refl (feed : ActivityFeed) : FeedKept feed [] feed where
  untouched := fun _ => rfl
  newest := fun some => absurd rfl some
  reported := by simp
  balanced := by simp

/-- One activity more is put in front of the feed. -/
theorem note (kept : FeedKept earlier notes later) {event : Event} {entry : ActivityEntry}
    (noted : event.note? = some entry)
    (answered : event.outcome = .activityRecorded later.evictedBy) :
    FeedKept earlier (notes ++ [event]) (later.record entry) where
  untouched := by simp
  newest := by
    intro _
    have single : [event].filterMap Event.note? = [entry] := by simp [noted]
    rw [ActivityFeed.entries_record, ActivityFeed.capacity, List.filterMap_append, single,
      List.reverse_append, List.reverse_singleton, List.append_assoc, List.singleton_append]
    by_cases none : notes = []
    · rw [kept.untouched none, none]
      rfl
    -- what was cut off before stays cut off, for the entry in front takes up one more place
    · rw [kept.newest none, List.take_succ_cons, List.take_succ_cons, List.take_take]
      rfl
  reported := by
    intro note member
    rcases List.mem_append.1 member with old | new
    · exact kept.reported note old
    · rw [List.mem_singleton.1 new, Event.evicted, answered]
  balanced := by
    have lost : event.evicted = later.evictedBy := by rw [Event.evicted, answered]
    have whole := later.length_record_add_evictedBy entry
    have before := kept.balanced
    rw [List.map_append, List.sum_append, List.map_singleton, List.sum_singleton, lost,
      List.length_append, List.length_singleton]
    omega

end FeedKept

namespace Tracker

/-- What a run leaves in the feed is what the activities since the last tracker was put in place
have made of the feed of that tracker. -/
theorem feedKept_run (tracker : Tracker) (steps : List (Action × Instant)) :
    FeedKept (tracker.lastLoaded steps).feed (notesSince (tracker.journal steps))
      (tracker.run steps).1.feed := by
  -- on the actions from the last one: it decides alone whether the others still matter
  induction steps using List.reverseRecOn with
  | nil => exact .refl tracker.feed
  | append_singleton steps step ih =>
    obtain ⟨action, now⟩ := step
    rw [journal_concat, run_concat, feed_apply, notesSince, sinceLoaded, List.rtakeWhile_concat]
    cases loads : action.snapshot? with
    | some snapshot =>
      have last : tracker.lastLoaded (steps ++ [(action, now)]) = snapshot := by
        simp [lastLoaded, loads]
      have reset : (((tracker.run steps).1.event action now).action.snapshot?.isNone) = false := by
        simp [event, loads]
      rw [last, reset]
      exact .refl snapshot.feed
    | none =>
      have last : tracker.lastLoaded (steps ++ [(action, now)]) = tracker.lastLoaded steps := by
        simp [lastLoaded, loads]
      have goesOn : (((tracker.run steps).1.event action now).action.snapshot?.isNone) = true := by
        simp [event, loads]
      rw [last, goesOn, if_pos rfl, List.filter_append]
      cases notes : action.note? now with
      | some entry =>
        have noted : ((tracker.run steps).1.event action now).note? = some entry := notes
        rw [List.filter_singleton, noted]
        exact ih.note noted (outcome_of_note notes)
      | none =>
        have unnoted : ((tracker.run steps).1.event action now).note? = none := notes
        rw [List.filter_singleton, unnoted]
        simpa [notesSince, sinceLoaded] using ih

/-- After a run the feed is that of the tracker that was put in place last, or of the one that the
run began with, if no activity was recorded since, and otherwise the five newest of the entries
since then, each with the time of its own action, and of those in that feed. The numbers of lost
entries that the activities are answered with add up to all entries that are lost, and every other
action leaves the feed as it is. -/
theorem feed_shows_newest (tracker : Tracker) (steps : List (Action × Instant)) :
    let earlier := (tracker.lastLoaded steps).feed
    let notes := notesSince (tracker.journal steps)
    let final := (tracker.run steps).1.feed
    (notes = [] → final = earlier) ∧
      (notes ≠ [] →
        final.entries = ((notes.filterMap Event.note?).reverse ++ earlier.entries).take 5) ∧
      (∀ note ∈ notes, note.outcome = .activityRecorded note.evicted) ∧
      final.entries.length ≤ notes.length + earlier.entries.length ∧
      (notes.map Event.evicted).sum =
        notes.length + earlier.entries.length - final.entries.length ∧
      ((tracker.journal steps).map (fun event => (event.action, event.time)) = steps ∧
        (tracker.journal steps).map Event.outcome = (tracker.run steps).2) ∧
      ∀ (n : Nat) (step : Action × Instant), steps[n]? = some step → step.1.snapshot? = none →
        step.1.note? step.2 = none →
          (tracker.after steps (n + 1)).feed = (tracker.after steps n).feed := by
  intro earlier notes final
  have kept : FeedKept earlier notes final := tracker.feedKept_run steps
  have whole := kept.balanced
  refine ⟨kept.untouched, kept.newest, kept.reported, by omega, by omega,
    tracker.journal_lists_run steps, ?_⟩
  intro n step here unloading unnoted
  rw [after_succ, here]
  simp only [feed_apply, unloading, unnoted]

end Tracker

end OrderPipeline
