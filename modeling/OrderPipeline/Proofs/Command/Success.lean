import OrderPipeline.Proofs.Command.Process
import OrderPipeline.Proofs.Storage.Session

/-!
# What a successful command has saved

A place where a tracker is saved may fail at any access. A task that adds or submits saves the
tracker once more at its end and answers with what comes of it; the task that adds demonstration
orders does not, and answers with success whatever came of its saves. `Store.IsSavedAt` says that
the text under the key of a store decodes to the tracker that the store holds.

* `Store.isSavedAt_dispatchAll` — so it is when the last save worked.
* `Store.not_isSavedAt_dispatchAll` — and not when orders were added and the last save failed.
* `success_saved_iff` — what this means for the commands that should change something.
* `Command.exitCode_of_task?` — those that come to no task are refused.
-/

namespace OrderPipeline

/-! ## Saved trackers -/

namespace Store

variable {σ : Type} [Backing σ] {store : Store} {place : σ}

/-- What is answered to the saves of some actions. -/
def saves (store : Store) (clock : Clock) (place : σ) :
    List Action → List (Except StorageError Unit)
  | [] => []
  | action :: rest =>
    let (next, _, after) := store.dispatch action (clock.reading 0) place
    (next.persist place).1 :: next.saves clock.later after rest

variable [KeyValue σ]

/-- Whether the text that is stored under the key of a store decodes to its tracker. -/
def IsSavedAt (store : Store) (place : σ) : Prop :=
  ∃ text, KeyValue.contents place store.key = some text ∧ Tracker.ofText text = .ok store.tracker

/-- A save that works saves the tracker. -/
theorem isSavedAt_persist (worked : (store.persist place).1 = .ok ()) :
    store.IsSavedAt (store.persist place).2 := by
  refine ⟨store.tracker.text, ?_, store.tracker.ofText_text⟩
  rw [store.contents_persist, worked]
  simp [Except.isOk, Except.toBool]

/-- A store that is opened again begins with a tracker that is saved, if it can be loaded. -/
theorem IsSavedAt.restored (isSaved : store.IsSavedAt place) {stored : Option String}
    (loaded : (Backing.load place store.key).1 = .ok stored) :
    (Store.restore place store.key).1 = store := by
  obtain ⟨text, found, decoded⟩ := isSaved
  have same : stored = some text := (KeyValue.load_eq loaded).trans found
  rw [restore_eq, loaded, same, openingOf, decoded]
  rfl

/-- A store that is opened with orders begins with a saved tracker. -/
theorem isSavedAt_restore {key : String}
    (ordered : (Store.restore place key).1.tracker.items ≠ []) :
    (Store.restore place key).1.IsSavedAt (Store.restore place key).2 := by
  rw [restore_eq] at ordered ⊢
  cases loaded : (Backing.load place key).1 with
  | error error =>
    rw [loaded] at ordered
    exact absurd rfl ordered
  | ok stored =>
    have found := KeyValue.load_eq loaded
    rw [loaded] at ordered
    cases stored with
    | none => exact absurd rfl ordered
    | some text =>
      refine ⟨text, ?_, ?_⟩
      · rw [KeyValue.contents_load, ← found]
      · cases decoded : Tracker.ofText text with
        | error fault =>
          rw [openingOf, decoded] at ordered
          exact absurd rfl ordered
        | ok tracker =>
          rw [openingOf, decoded]
          rfl

/-- After some actions the tracker is saved when the last save worked. -/
theorem isSavedAt_dispatchAll {clock : Clock} {actions : List Action}
    (worked : (store.saves clock place actions).getLast? = some (.ok ())) :
    (store.dispatchAll clock place actions).1.IsSavedAt
      (store.dispatchAll clock place actions).2.2 := by
  induction actions generalizing store clock place with
  | nil => cases worked
  | cons action rest ih =>
    cases rest with
    | nil =>
      have last : ((store.dispatch action (clock.reading 0) place).1.persist place).1 = .ok () :=
        Option.some.inj worked
      exact isSavedAt_persist last
    | cons other later =>
      -- the last save is one of the later ones
      exact ih worked

/-! ## Trackers that are not saved -/

/-- Whether no more orders are saved under the key of a store than the store holds. -/
def Covers (store : Store) (place : σ) : Prop :=
  ∀ text tracker, KeyValue.contents place store.key = some text →
    Tracker.ofText text = .ok tracker → tracker.items.length ≤ store.tracker.items.length

/-- A store that is opened begins with all that is saved, if it can be loaded. -/
theorem covers_restore {key : String} {stored : Option String}
    (loaded : (Backing.load place key).1 = .ok stored) :
    (Store.restore place key).1.Covers (Store.restore place key).2 := by
  intro text tracker found decoded
  rw [restore_eq] at found ⊢
  rw [KeyValue.contents_load, ← KeyValue.load_eq loaded] at found
  rw [loaded, found, openingOf, decoded]
  exact Nat.le_refl _

/-- A place does not hold the tracker of a store when it holds no more orders than an earlier one
under the same key had. -/
theorem Covers.not_isSavedAt {earlier : Store} (covers : earlier.Covers place)
    (sameKey : store.key = earlier.key)
    (fewer : earlier.tracker.items.length < store.tracker.items.length) :
    ¬store.IsSavedAt place := by
  rintro ⟨text, found, decoded⟩
  rw [sameKey] at found
  have bound := covers text store.tracker found decoded
  omega

/-- A save of a store with more orders than are saved changes nothing about that. -/
theorem Covers.persist {earlier : Store} (covers : earlier.Covers place)
    (sameKey : store.key = earlier.key)
    (fewer : earlier.tracker.items.length ≤ store.tracker.items.length) :
    store.Covers (store.persist place).2 := by
  intro text tracker found decoded
  rw [store.contents_persist] at found
  split at found
  · cases found
    rw [Tracker.ofText_text] at decoded
    cases decoded
    exact Nat.le_refl _
  · rw [sameKey] at found
    exact (covers text tracker found decoded).trans fewer

/-- After orders were added the tracker is not saved when the last save failed. -/
theorem not_isSavedAt_dispatchAll {clock : Clock} {items : List Item} {error : StorageError}
    (covers : store.Covers place)
    (failed : (store.saves clock place (items.map .addItem)).getLast? = some (.error error)) :
    ¬(store.dispatchAll clock place (items.map .addItem)).1.IsSavedAt
      (store.dispatchAll clock place (items.map .addItem)).2.2 := by
  induction items generalizing store clock place with
  | nil => cases failed
  | cons item rest ih =>
    let next := (store.dispatch (.addItem item) (clock.reading 0) place).1
    have longer : next.tracker.items.length = store.tracker.items.length + 1 :=
      List.length_append
    cases rest with
    | nil =>
      -- the only save changed nothing, so that the order is missing
      have last : (next.persist place).1 = .error error := Option.some.inj failed
      have still : store.Covers (next.persist place).2 := by
        unfold Covers Store.persist
        rw [KeyValue.contents_save_error last]
        exact covers
      exact still.not_isSavedAt rfl (show _ < next.tracker.items.length by omega)
    | cons other later =>
      exact ih (covers.persist rfl (show _ ≤ next.tracker.items.length by omega)) failed

end Store

/-! ## Successful tasks -/

namespace Task

variable {σ : Type} [Backing σ]

/-- A task keeps the key of its store. -/
theorem run_key (task : Task) (clock : Clock) (store : Store) (place : σ) :
    (task.run clock store place).2.1.key = store.key := by
  have recorded : ∀ (command : String) (actions : List Action) (message : List Outcome → String),
      (record command actions message clock store place).2.1.key = store.key := by
    intro command actions message
    simp only [record]
    split <;> exact store.dispatchAll_key clock place actions
  cases task with
  | add item => exact recorded _ _ _
  | report lines => rfl
  | submit id stage data =>
    simp only [run]
    split
    · rfl
    · exact recorded _ _ _
  | seed demo =>
    simp only [run, Store.seed]
    split
    · exact store.dispatchAll_key clock place _
    · rfl

/-- Demonstration orders are added where there are no orders. -/
theorem run_seed_of_empty {store : Store} (empty : store.tracker.items = []) (demo : List Item)
    (clock : Clock) (place : σ) :
    ((Task.seed demo).run clock store place).2 =
      ((store.dispatchAll clock place (demo.map .addItem)).1,
        (store.dispatchAll clock place (demo.map .addItem)).2.2) := by
  simp only [run, Store.seed, empty, List.isEmpty_nil, if_true]

/-- Where there are orders, nothing is added. -/
theorem run_seed_of_ordered {store : Store} (ordered : store.tracker.items ≠ [])
    (demo : List Item) (clock : Clock) (place : σ) :
    ((Task.seed demo).run clock store place).2 = (store, place) := by
  have full : store.tracker.items.isEmpty = false := by simpa using ordered
  simp [run, Store.seed, full]

variable [KeyValue σ]

/-- Actions that are recorded with success are saved. -/
theorem isSavedAt_record {command : String} {actions : List Action}
    {message : List Outcome → String} {clock : Clock} {store : Store} {place : σ}
    (succeeded : (record command actions message clock store place).1.exitCode = 0) :
    (record command actions message clock store place).2.1.IsSavedAt
      (record command actions message clock store place).2.2 := by
  simp only [record] at succeeded ⊢
  generalize (store.dispatchAll clock place actions).1 = final,
    (store.dispatchAll clock place actions).2.2 = before at succeeded ⊢
  cases answer : final.persist before with
  | mk saved after =>
    cases saved with
    | ok done =>
      have isSaved : final.IsSavedAt (final.persist before).2 :=
        Store.isSavedAt_persist (by rw [answer])
      rw [answer] at isSaved
      exact isSaved
    | error error =>
      rw [answer] at succeeded
      exact absurd succeeded (Reply.exitCode_ofFailure _ _)

/-- A task that adds or submits with success has saved the tracker. -/
theorem isSavedAt_run {task : Task} (changing : task.isChanging = true)
    (unseeding : ∀ demo, task ≠ .seed demo) {clock : Clock} {store : Store} {place : σ}
    (succeeded : (task.run clock store place).1.exitCode = 0) :
    (task.run clock store place).2.1.IsSavedAt (task.run clock store place).2.2 := by
  cases task with
  | add item => exact isSavedAt_record succeeded
  | seed demo => exact absurd rfl (unseeding demo)
  | report lines => cases changing
  | submit id stage data =>
    simp only [run] at succeeded ⊢
    cases planned : submission store.tracker id stage data with
    | error failure =>
      rw [planned] at succeeded
      exact absurd succeeded (Reply.exitCode_ofFailure "update" failure)
    | ok actions =>
      rw [planned] at succeeded
      exact isSavedAt_record succeeded

end Task

/-! ## Commands -/

namespace Command

/-- The task that a command comes to, if it should change the tracker and its arguments can be
read. -/
def task? (command : Command) (occasion : Occasion) : Option Task :=
  match command with
  | add lead => (lead.toItem occasion.leadId).toOption.map .add
  | update id name fields =>
    (readSubmission name fields).toOption.map fun submitted => .submit id submitted.1 submitted.2
  | seed => some (.seed occasion.demo)
  | migrate | dashboard _ | stage .. | activity | login .. | config | doctor _ => none

variable {command : Command} {occasion : Occasion}

/-- A command that comes to a task carries it out, on any host. -/
theorem exists_run_eq_perform {task : Task} (comes : command.task? occasion = some task)
    (host : Host) :
    ∃ name, command.run occasion host = host.perform name occasion.clock task := by
  cases command with
  | seed =>
    cases comes
    exact ⟨_, rfl⟩
  | add lead =>
    cases read : lead.toItem occasion.leadId with
    | error failure =>
      rw [task?, read] at comes
      cases comes
    | ok item =>
      rw [task?, read] at comes
      cases comes
      refine ⟨"add", ?_⟩
      simp only [run, runAdd, read]
  | update id name fields =>
    cases read : readSubmission name fields with
    | error failure =>
      rw [task?, read] at comes
      cases comes
    | ok submitted =>
      rw [task?, read] at comes
      cases comes
      refine ⟨"update", ?_⟩
      show runUpdate id name fields occasion.clock host = _
      unfold runUpdate
      rw [read]
  | migrate | dashboard | stage | activity | login | config | doctor => cases comes

/-- The task of a command that adds no demonstration orders adds or submits. -/
theorem task?_of_ne_seed {task : Task} (comes : command.task? occasion = some task)
    (other : command ≠ .seed) : task.isChanging = true ∧ ∀ demo, task ≠ .seed demo := by
  cases command with
  | seed => exact absurd rfl other
  | add lead =>
    simp only [task?, Option.map_eq_some_iff] at comes
    obtain ⟨item, -, rfl⟩ := comes
    exact ⟨rfl, nofun⟩
  | update id name fields =>
    simp only [task?, Option.map_eq_some_iff] at comes
    obtain ⟨submitted, -, rfl⟩ := comes
    exact ⟨rfl, nofun⟩
  | migrate | dashboard | stage | activity | login | config | doctor => cases comes

/-- A command that should change the tracker and comes to no task is refused. -/
theorem exitCode_of_task? (changing : command.isChanging = true)
    (unread : command.task? occasion = none) (host : Host) :
    (command.run occasion host).1.exitCode ≠ 0 := by
  cases command with
  | seed => cases unread
  | add lead =>
    cases read : lead.toItem occasion.leadId with
    | error failure =>
      simp only [run, runAdd, read]
      exact Reply.exitCode_ofFailure "add" failure
    | ok item =>
      rw [task?, read] at unread
      cases unread
  | update id name fields =>
    cases read : readSubmission name fields with
    | error failure =>
      have refused : (update id name fields).run occasion host =
          (.ofFailure "update" failure, host) := by
        show runUpdate id name fields occasion.clock host = _
        unfold runUpdate
        rw [read]
      rw [refused]
      exact Reply.exitCode_ofFailure "update" failure
    | ok submitted =>
      rw [task?, read] at unread
      cases unread
  | migrate | dashboard | stage | activity | login | config | doctor => cases changing

end Command

/-- A command that should change something carries out its task on a store that is opened at a
place, where any access may fail. (1) Unless it adds demonstration orders, the tracker that it leads
to is saved when it answers with the exit code of success. (2) With demonstration orders it always
answers so; the tracker is saved when there were orders before or when the last save worked, and not
when the last save failed and what was stored could be loaded. (3) The next process begins with a
tracker that is saved, if it can be loaded. -/
theorem success_saved_iff {σ : Type} [Backing σ] [KeyValue σ] (place : σ) (key : String)
    (command : Command) (occasion : Occasion) (task : Task)
    (comes : command.task? occasion = some task) :
    let opened := Store.restore place key
    let done := task.run occasion.clock opened.1 opened.2
    let saves := opened.1.saves occasion.clock opened.2 (occasion.demo.map .addItem)
    (∀ host, ∃ name, command.run occasion host = host.perform name occasion.clock task) ∧
    (command ≠ .seed → done.1.exitCode = 0 → done.2.1.IsSavedAt done.2.2) ∧
    (command = .seed → done.1.exitCode = 0 ∧
      (opened.1.tracker.items ≠ [] ∨ saves.getLast? = some (.ok ()) →
        done.2.1.IsSavedAt done.2.2) ∧
      ∀ error stored, opened.1.tracker.items = [] → saves.getLast? = some (.error error) →
        (Backing.load place key).1 = .ok stored → ¬done.2.1.IsSavedAt done.2.2) ∧
    (done.2.1.IsSavedAt done.2.2 → ∀ stored, (Backing.load done.2.2 key).1 = .ok stored →
      (Store.restore done.2.2 key).1 = done.2.1) := by
  intro opened done saves
  have sameKey : done.2.1.key = key := task.run_key _ _ _
  refine ⟨Command.exists_run_eq_perform comes, fun other succeeded => ?_, fun seeding => ?_,
    fun isSaved stored loaded => ?_⟩
  · obtain ⟨changing, unseeding⟩ := Command.task?_of_ne_seed comes other
    exact Task.isSavedAt_run changing unseeding succeeded
  · subst seeding
    cases comes
    refine ⟨rfl, ?_, fun error stored empty failed loaded => ?_⟩
    · by_cases empty : opened.1.tracker.items = []
      · rintro (ordered | worked)
        · exact absurd empty ordered
        · rw [show done.2 = _ from Task.run_seed_of_empty empty _ _ _]
          exact Store.isSavedAt_dispatchAll worked
      · intro
        rw [show done.2 = _ from Task.run_seed_of_ordered empty _ _ _]
        exact Store.isSavedAt_restore empty
    · rw [show done.2 = _ from Task.run_seed_of_empty empty _ _ _]
      exact Store.not_isSavedAt_dispatchAll (Store.covers_restore loaded) failed
  · rw [← sameKey] at loaded ⊢
    exact isSaved.restored loaded

/-- Two orders for demonstration. -/
def samples : List Item :=
  [{ id := ⟨"LEAD-1"⟩, customerName := "Priya Patel", phone := "9000000002",
      siteLocation := "Delhi" },
    { id := ⟨"LEAD-2"⟩, customerName := "Amit Jain", phone := "9000000003",
      siteLocation := "Chennai" }]

/-- When the two orders are added. -/
def sampling : Occasion where
  clock := Instant.epoch
  leadId := ⟨"LEAD-3"⟩
  demo := samples

/-- What comes of adding them on an empty shelf, of which some saves fail. -/
def sampled (failing : List Bool) : Reply × Store × FlakyShelf :=
  let opened := Store.restore (⟨{}, false :: failing⟩ : FlakyShelf) "orders"
  (Task.seed samples).run Instant.epoch opened.1 opened.2

/-- The two orders are saved when only the first save fails. When only the second one does, the
answer is the same, and they are not. -/
theorem success_saved_iff_samples :
    (sampled [true, false]).2.1.IsSavedAt (sampled [true, false]).2.2 ∧
      (sampled [false, true]).1.exitCode = 0 ∧
        ¬(sampled [false, true]).2.1.IsSavedAt (sampled [false, true]).2.2 := by
  have first := (success_saved_iff (⟨{}, [false, true, false]⟩ : FlakyShelf) "orders" .seed
    sampling (.seed samples) rfl).2.2.1 rfl
  have second := (success_saved_iff (⟨{}, [false, false, true]⟩ : FlakyShelf) "orders" .seed
    sampling (.seed samples) rfl).2.2.1 rfl
  exact ⟨first.2.1 (.inr rfl), second.1, second.2.2 (.database "busy") none rfl rfl rfl⟩

/-- A host whose settings name a database that is there and must not be changed. -/
def sealedHost : Host where
  environment name :=
    if name = "Q2D_STORAGE_DATABASE_URL" then some "sqlite://q2d.db?mode=ro" else none
  databases := [("q2d.db", Database.migrate {})]

/-- There the command that adds demonstration orders says that it added two, and nothing is
saved. -/
theorem seed_unsaved_sealed :
    (Command.seed.run sampling sealedHost).1 =
        .done "seed" "added 2 demo items across all working stages" ∧
      ((Command.seed.run sampling sealedHost).2.databases.lookup "q2d.db").map
        (fun database => database.textAt "q2d.workflow_state.v1") = some none := by
  decide +kernel

end OrderPipeline
