import OrderPipeline.Engine
import OrderPipeline.Storage.Backing

/-!
# The store

A `Store` is a tracker together with the key under which it is saved. Opening one restores what is
saved there; whatever cannot be restored counts as an empty tracker (`SavedState.restored`). Every
action is saved as it is applied, and a save that fails does not undo the action.
-/

namespace OrderPipeline

/-- What is found under the key of a store. -/
inductive SavedState where
  /-- Nothing was saved. -/
  | absent
  /-- What is saved could not be read. -/
  | unreadable (error : StorageError)
  /-- What is saved is no tracker. -/
  | undecodable (text : String) (fault : Json.Fault)
  /-- A tracker is saved. -/
  | saved (tracker : Tracker)

namespace SavedState

/-- What an answer of a backing amounts to. -/
def ofLoaded : Except StorageError (Option String) → SavedState
  | .error error => unreadable error
  | .ok none => absent
  | .ok (some text) =>
    match Tracker.ofText text with
    | .ok tracker => saved tracker
    | .error fault => undecodable text fault

/-- The tracker to begin with. -/
def restored : SavedState → Tracker
  | saved tracker => tracker
  | absent | unreadable _ | undecodable .. => {}

end SavedState

/-- A tracker and the key under which it is saved. -/
structure Store where
  /-- The key. -/
  key : String
  /-- The tracker. -/
  tracker : Tracker
  deriving DecidableEq, Inhabited

namespace Store

variable {σ : Type} [Backing σ]

/-- Opens the store that is saved under a key. -/
def restore (backing : σ) (key : String) : Store × σ :=
  let (loaded, backing) := Backing.load backing key
  (⟨key, (SavedState.ofLoaded loaded).restored⟩, backing)

/-- Saves the tracker. -/
def persist (store : Store) (backing : σ) : Except StorageError Unit × σ :=
  Backing.save backing store.key store.tracker.text

/-- Applies an action at a time and saves the tracker; a save that fails is passed over. -/
def dispatch (store : Store) (action : Action) (now : Instant) (backing : σ) :
    Store × Outcome × σ :=
  let (tracker, outcome) := store.tracker.apply action now
  let next : Store := { store with tracker := tracker }
  (next, outcome, (next.persist backing).2)

/-- Applies actions one after another, each at the time that a clock shows then. -/
def dispatchAll (store : Store) (clock : Clock) (backing : σ) :
    List Action → Store × List Outcome × σ
  | [] => (store, [], backing)
  | action :: rest =>
    let (next, outcome, backing) := store.dispatch action (clock.reading 0) backing
    let (final, outcomes, backing) := next.dispatchAll clock.later backing rest
    (final, outcome :: outcomes, backing)

/-- Adds demonstration orders to a store without orders, and tells how many. -/
def seed (store : Store) (demo : List Item) (clock : Clock) (backing : σ) : Store × Nat × σ :=
  if store.tracker.items.isEmpty then
    let (next, _, backing) := store.dispatchAll clock backing (demo.map Action.addItem)
    (next, demo.length, backing)
  else (store, 0, backing)

@[simp] theorem dispatch_tracker (store : Store) (action : Action) (now : Instant)
    (backing : σ) :
    (store.dispatch action now backing).1.tracker = (store.tracker.apply action now).1 := rfl

@[simp] theorem dispatch_key (store : Store) (action : Action) (now : Instant) (backing : σ) :
    (store.dispatch action now backing).1.key = store.key := rfl

@[simp] theorem dispatch_outcome (store : Store) (action : Action) (now : Instant)
    (backing : σ) :
    (store.dispatch action now backing).2.1 = (store.tracker.apply action now).2 := rfl

/-- Applying actions keeps the key. -/
theorem dispatchAll_key (store : Store) (clock : Clock) (backing : σ) (actions : List Action) :
    (store.dispatchAll clock backing actions).1.key = store.key := by
  induction actions generalizing store clock backing with
  | nil => rfl
  | cons action rest ih => exact ih _ _ _

/-- What a store holds after some actions does not depend on whether they could be saved. -/
theorem dispatchAll_tracker (store : Store) (clock : Clock) (backing : σ)
    (actions : List Action) :
    (store.dispatchAll clock backing actions).1.tracker =
        (store.tracker.run (clock.stamp actions)).1 ∧
      (store.dispatchAll clock backing actions).2.1 =
        (store.tracker.run (clock.stamp actions)).2 := by
  induction actions generalizing store clock backing with
  | nil => exact ⟨rfl, rfl⟩
  | cons action rest ih =>
    have := ih (store.dispatch action (clock.reading 0) backing).1 clock.later
      (store.dispatch action (clock.reading 0) backing).2.2
    simp only [Clock.stamp, Tracker.run, dispatchAll] at this ⊢
    exact ⟨this.1, by rw [this.2]; rfl⟩

end Store

end OrderPipeline
