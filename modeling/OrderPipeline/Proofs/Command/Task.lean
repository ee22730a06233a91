import OrderPipeline.Command.Task
import OrderPipeline.Proofs.Storage.KeyValue
import OrderPipeline.Proofs.Tracker.Codec

/-!
# What a task leaves behind

Over a connection that works, a task is a function of the tracker that it begins with: it has a
result or it has none (`Task.result?`), and `Ending` says what it answers and what is stored
afterwards in either case.

* `Connection.Reads.dispatchAll` — actions leave the text of the tracker that they lead to.
* `Task.ending_run` — a task ends as its result says.
-/

namespace OrderPipeline

/-- Whether a connection may be changed, and gives out what is stored under a key. -/
structure Connection.Reads (connection : Connection) (key : String) (stored : Option String) :
    Prop where
  /-- The connection may be changed. -/
  writable : connection.readOnly = false
  /-- What is stored is read. -/
  read : connection.database.read key = .ok stored

namespace Connection.Reads

variable {connection : Connection} {stored : Option String} {store : Store}

/-- What is saved over a connection that works is read from it afterwards. -/
theorem persist (reads : connection.Reads store.key stored) :
    (store.persist connection).1 = .ok () ∧
      (store.persist connection).2.Reads store.key (some store.tracker.text) := by
  obtain ⟨⟨rows⟩, readOnly⟩ := connection
  obtain ⟨rfl, read⟩ := reads
  -- a database that could be read has a table, so it can be written to
  cases rows with
  | none => cases read
  | some rows =>
    refine ⟨rfl, rfl, ?_⟩
    have written : Database.write ⟨some rows⟩ store.key store.tracker.text = .ok _ := rfl
    exact (Database.read_write written store.key).trans (if_pos rfl)

/-- After some actions the text of the tracker is read that they lead to. -/
theorem dispatchAll (reads : connection.Reads store.key stored) (clock : Clock)
    (actions : List Action) :
    (store.dispatchAll clock connection actions).1.key = store.key ∧
      (store.dispatchAll clock connection actions).2.2.Reads store.key
        (if actions = [] then stored
          else some (store.tracker.run (clock.stamp actions)).1.text) := by
  induction actions generalizing store clock connection stored with
  | nil => exact ⟨rfl, reads⟩
  | cons action rest ih =>
    let next := (store.dispatch action (clock.reading 0) connection).1
    have saved : (store.dispatch action (clock.reading 0) connection).2.2.Reads next.key
        (some next.tracker.text) := (show connection.Reads next.key stored from reads).persist.2
    obtain ⟨own, final⟩ := ih saved clock.later
    refine ⟨own, ?_⟩
    rw [if_neg (List.cons_ne_nil _ _)]
    -- without further actions the tracker of the first one is the last that was saved
    cases rest with
    | nil => exact final
    | cons => exact final

end Connection.Reads

/-- How a task or a command may end that begins with a tracker and finds a text or nothing stored:
with or without a result, with a reply, and with what is stored then. -/
inductive Ending (tracker : Tracker) (stored : Option String) :
    (changing : Bool) → Option Tracker → Reply → Option String → Prop
  /-- The result is saved. -/
  | saved (result : Tracker) {reply : Reply} (accepted : reply.exitCode = 0) :
      Ending tracker stored true (some result) reply (some result.text)
  /-- There is nothing to change. -/
  | idle {reply : Reply} (accepted : reply.exitCode = 0) :
      Ending tracker stored true (some tracker) reply stored
  /-- There is no result; what should change something is refused. -/
  | kept {changing : Bool} {reply : Reply} (refused : changing = true → reply.exitCode ≠ 0) :
      Ending tracker stored changing none reply stored

/-- What only answers leaves what is stored, whatever it answers. -/
theorem Ending.answered {tracker : Tracker} {stored : Option String} {reply : Reply} :
    Ending tracker stored false none reply stored :=
  .kept fun changing => absurd changing Bool.false_ne_true

/-- No failure is answered with the exit code of success. -/
theorem Reply.exitCode_ofFailure (command : String) (failure : Failure) :
    (Reply.ofFailure command failure).exitCode ≠ 0 := by
  show Reply.exitCodeOf failure.response.kind ≠ 0
  cases failure.response.kind <;> decide

/-- Adding orders one after another adds all of them. -/
theorem Tracker.run_addItems (tracker : Tracker) (items : List Item) (clock : Clock) :
    (tracker.run (clock.stamp (items.map Action.addItem))).1 =
      { tracker with items := tracker.items ++ items } := by
  induction items generalizing tracker clock with
  | nil => simp [Clock.stamp]
  | cons item rest ih =>
    rw [List.map_cons, Clock.stamp, Tracker.run]
    simp [ih, Tracker.apply]

namespace Task

/-- Whether a task should change the tracker. -/
def isChanging : Task → Bool
  | add _ | submit .. | seed _ => true
  | report _ => false

/-- The tracker that a task leads to, if it is carried out and should change something. -/
def result? (task : Task) (clock : Clock) (tracker : Tracker) : Option Tracker :=
  match task with
  | add item => some (tracker.run (clock.stamp (additions item))).1
  | submit id stage data =>
    (submission tracker id stage data).toOption.map fun actions =>
      (tracker.run (clock.stamp actions)).1
  | seed demo =>
    some (if tracker.items = [] then { tracker with items := demo } else tracker)
  | report _ => none

/-- The actions of a submission are those that are planned for the order, if there is one. -/
theorem toOption_submission (tracker : Tracker) (id : ItemId) (stage : Stage) (data : Attributes) :
    (submission tracker id stage data).toOption =
      (tracker.findItem? id).bind fun item => (Submission.plan item stage data).toOption := by
  rw [submission]
  cases tracker.findItem? id with
  | none => rfl
  | some item =>
    show ((Submission.plan item stage data).mapError Failure.form).toOption =
      (Submission.plan item stage data).toOption
    cases Submission.plan item stage data <;> rfl

variable {connection : Connection} {stored : Option String} {store : Store}

/-- Actions that are recorded end with the tracker that they lead to. -/
theorem ending_record (reads : connection.Reads store.key stored) (command : String)
    (actions : List Action) (message : List Outcome → String) (clock : Clock) :
    ∃ after, (record command actions message clock store connection).2.2.Reads store.key after ∧
      Ending store.tracker stored true
        (some (store.tracker.run (clock.stamp actions)).1)
        (record command actions message clock store connection).1 after := by
  obtain ⟨own, reached⟩ := reads.dispatchAll clock actions
  obtain ⟨tracker, -⟩ := store.dispatchAll_tracker clock connection actions
  rw [← own] at reached
  obtain ⟨answer, final⟩ := reached.persist
  rw [own, tracker] at final
  simp only [record]
  generalize (store.dispatchAll clock connection actions).1.persist
    (store.dispatchAll clock connection actions).2.2 = persisted at answer final
  obtain ⟨answered, backing⟩ := persisted
  cases answer
  exact ⟨_, final, .saved _ rfl⟩

/-- Over a connection that works, a task ends as its result says. -/
theorem ending_run (reads : connection.Reads store.key stored) (task : Task) (clock : Clock) :
    ∃ after, (task.run clock store connection).2.2.Reads store.key after ∧
      Ending store.tracker stored task.isChanging (task.result? clock store.tracker)
        (task.run clock store connection).1 after := by
  cases task with
  | add item => exact ending_record reads _ _ _ _
  | report lines => exact ⟨stored, reads, .answered⟩
  | submit id stage data =>
    simp only [run, result?]
    cases planned : submission store.tracker id stage data with
    | error failure => exact ⟨stored, reads, .kept fun _ => Reply.exitCode_ofFailure _ _⟩
    | ok actions => exact ending_record reads _ _ _ _
  | seed demo =>
    simp only [run, result?, Store.seed, List.isEmpty_iff]
    by_cases empty : store.tracker.items = []
    · obtain ⟨-, reached⟩ := reads.dispatchAll clock (demo.map Action.addItem)
      rw [store.tracker.run_addItems demo clock, empty, List.nil_append] at reached
      simp only [if_pos empty]
      cases demo with
      | nil =>
        have same : ({ store.tracker with items := [] } : Tracker) = store.tracker := by
          rw [← empty]
        rw [same]
        exact ⟨stored, reached, .idle rfl⟩
      | cons item rest => exact ⟨_, reached, .saved _ rfl⟩
    · simp only [if_neg empty]
      exact ⟨stored, reads, .idle rfl⟩

end Task

end OrderPipeline
