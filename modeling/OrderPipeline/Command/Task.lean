import OrderPipeline.Command.Reply
import OrderPipeline.Storage.Store

/-!
# Tasks

A task is what a command does with an open store. The store may be kept anywhere (`Backing`), so
what a task does can be told apart from whether it could be saved. A task that adds or submits saves
the tracker once more at its end and reports a failure to do so; the task that adds demonstration
orders does neither.
-/

namespace OrderPipeline

/-- What a command does with an open store. -/
inductive Task where
  /-- Adds an order. -/
  | add (item : Item)
  /-- Submits a form for an order. -/
  | submit (id : ItemId) (stage : Stage) (data : Attributes)
  /-- Adds demonstration orders, unless there are orders. -/
  | seed (demo : List Item)
  /-- Reports on the tracker. -/
  | report (lines : Tracker → List String)

namespace Task

variable {σ : Type} [Backing σ]

/-- The actions that add an order. -/
def additions (item : Item) : List Action :=
  [.addItem item, .addActivity item.customerName "New lead added" item.stage.label]

/-- What is said about what became of an order. -/
def describe : Outcome → String
  | .advanced id stage next =>
    id.text ++ " moved from " ++ stage.label ++ " to " ++ next.label
  | .annotated id stage => id.text ++ " stays at " ++ stage.label ++ "; details recorded"
  | _ => ""

/-- Applies actions and saves the tracker; `message` is said about what became of them. -/
def record (command : String) (actions : List Action) (message : List Outcome → String)
    (clock : Clock) (store : Store) (backing : σ) : Reply × Store × σ :=
  let (store, outcomes, backing) := store.dispatchAll clock backing actions
  match store.persist backing with
  | (.ok (), backing) => (.done command (message outcomes), store, backing)
  | (.error error, backing) =>
    (.ofFailure command (.persistence error.message), store, backing)

/-- The actions of a submission for the order with an identifier. -/
def submission (tracker : Tracker) (id : ItemId) (stage : Stage) (data : Attributes) :
    Except Failure (List Action) :=
  match tracker.findItem? id with
  | none => .error (.itemNotFound id.text)
  | some item => (Submission.plan item stage data).mapError .form

/-- What is said about how many demonstration orders were added to how many orders. -/
def seedMessage (added total : Nat) : String :=
  if added = 0 then
    "store already holds " ++ toString total ++ " items; no demo data added"
  else "added " ++ toString added ++ " demo items across all working stages"

/-- Carries out a task. -/
def run (task : Task) (clock : Clock) (store : Store) (backing : σ) : Reply × Store × σ :=
  match task with
  | .add item =>
    record "add" (additions item)
      (fun _ => "added " ++ item.id.text ++ " at Quotation Followup") clock store backing
  | .submit id stage data =>
    match submission store.tracker id stage data with
    | .error failure => (.ofFailure "update" failure, store, backing)
    | .ok actions =>
      record "update" actions (fun outcomes => (outcomes.head?.map describe).getD "") clock store
        backing
  | .seed demo =>
    let (store, added, backing) := store.seed demo clock backing
    (.done "seed" (seedMessage added store.tracker.items.length), store, backing)
  | .report lines => (.report (lines store.tracker), store, backing)

end Task

end OrderPipeline
