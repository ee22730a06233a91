import OrderPipeline.Action

/-!
# The engine

`Tracker.apply` says what an action does to a tracker at a time, `Tracker.run` applies actions one
after another, each at a time of its own as a clock may show it (`Clock.stamp`), and
`Tracker.replay` applies them all at one time. An action aimed at an order that is missing or
completed changes nothing and says so. An order never moves backwards: when the stage that the
action names lies behind it, the data is recorded all the same and the order stays.
-/

namespace OrderPipeline

/-- A list with its first element that passes a test replaced by its image. -/
def modifyFirst {α : Type} (test : α → Bool) (image : α → α) : List α → List α
  | [] => []
  | x :: rest => if test x then image x :: rest else x :: modifyFirst test image rest

@[simp] theorem length_modifyFirst {α : Type} (test : α → Bool) (image : α → α) (xs : List α) :
    (modifyFirst test image xs).length = xs.length := by
  induction xs with
  | nil => rfl
  | cons x rest ih =>
    unfold modifyFirst
    split <;> simp [ih]

/-- A list without an element that passes the test stays as it is. -/
theorem modifyFirst_eq_self {α : Type} (test : α → Bool) (image : α → α) (xs : List α)
    (absent : xs.find? test = none) : modifyFirst test image xs = xs := by
  induction xs with
  | nil => rfl
  | cons x rest ih =>
    rw [List.find?_cons] at absent
    split at absent
    · simp at absent
    · next failed => simp [modifyFirst, failed, ih absent]

/-- What a clock shows when it is read, time after time. -/
structure Clock where
  /-- The instant of each reading, from zero on. -/
  reading : Nat → Instant

namespace Clock

/-- The clock that stands still. -/
def still (now : Instant) : Clock := ⟨fun _ => now⟩

instance : Coe Instant Clock := ⟨still⟩

/-- The clock after a reading. -/
def later (clock : Clock) : Clock := ⟨fun n => clock.reading (n + 1)⟩

/-- Actions with their times, for each of which the clock is read. -/
def stamp (clock : Clock) : List Action → List (Action × Instant)
  | [] => []
  | action :: rest => (action, clock.reading 0) :: clock.later.stamp rest

end Clock

namespace Tracker

/-- The tracker with the first order that has an identifier replaced by its image. -/
def updateItem (tracker : Tracker) (id : ItemId) (image : Item → Item) : Tracker :=
  { tracker with items := modifyFirst (fun item => item.id == id) image tracker.items }

/-- The first order with an identifier, if data can still be recorded for it. -/
def openItem (tracker : Tracker) (id : ItemId) : Except Refusal Item :=
  match tracker.findItem? id with
  | none => .error (.itemNotFound id)
  | some item => if item.isCompleted then .error (.terminalStage id) else .ok item

/-- The tracker after an action at a time, and what became of the action. -/
def apply (tracker : Tracker) (action : Action) (now : Instant) : Tracker × Outcome :=
  match action with
  | .addItem item => ({ tracker with items := tracker.items ++ [item] }, .itemAdded item.id)
  | .updateItem item =>
    match tracker.findItem? item.id with
    | none => (tracker, .unchanged (.itemNotFound item.id))
    | some _ => (tracker.updateItem item.id fun _ => item, .itemReplaced item.id)
  | .advance id stage data =>
    match tracker.openItem id with
    | .error refusal => (tracker, .unchanged refusal)
    | .ok item =>
      if stage.isTerminal then (tracker, .unchanged (.terminalStage id))
      else
        let recorded := item.recordData stage data now
        if item.stage < stage.next then
          (tracker.updateItem id fun _ => { recorded with stage := stage.next },
            .advanced id stage stage.next)
        else (tracker.updateItem id fun _ => recorded, .annotated id stage)
  | .logStage id stage data =>
    match tracker.openItem id with
    | .error refusal => (tracker, .unchanged refusal)
    | .ok item =>
      (tracker.updateItem id fun _ => item.recordData stage data now, .annotated id stage)
  | .addActivity customerName action stage =>
    ({ tracker with feed := tracker.feed.record ⟨customerName, action, stage, now⟩ },
      .activityRecorded tracker.feed.evictedBy)
  | .load snapshot => (snapshot, .hydrated snapshot.items.length)

/-- The tracker after some actions at given times, and what became of each. -/
def run (tracker : Tracker) : List (Action × Instant) → Tracker × List Outcome
  | [] => (tracker, [])
  | (action, now) :: rest =>
    let (next, outcome) := tracker.apply action now
    let (final, outcomes) := next.run rest
    (final, outcome :: outcomes)

/-- The tracker after some actions at one time, and what became of each. -/
def replay (tracker : Tracker) (actions : List Action) (now : Instant) :
    Tracker × List Outcome :=
  tracker.run (actions.map fun action => (action, now))

@[simp] theorem run_nil (tracker : Tracker) : tracker.run [] = (tracker, []) := rfl

/-- Running one list of actions after another is running them together. -/
theorem run_append (tracker : Tracker) (first second : List (Action × Instant)) :
    tracker.run (first ++ second) =
      (((tracker.run first).1.run second).1,
        (tracker.run first).2 ++ ((tracker.run first).1.run second).2) := by
  induction first generalizing tracker with
  | nil => simp
  | cons step rest ih => simp [run, ih]

end Tracker

end OrderPipeline
