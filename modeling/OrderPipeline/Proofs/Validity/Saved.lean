import OrderPipeline.Proofs.Command.Process
import OrderPipeline.Proofs.Storage.Session
import OrderPipeline.Proofs.Validity.Demo
import OrderPipeline.Proofs.Validity.Input

/-!
# Only valid trackers are saved

Where all texts that are stored are those of valid trackers (`ValidTexts`), that stays so whatever
command is run, whether or not the place works: by a task (`Task.validTexts_run`), by a command on a
host (`Command.validAt_run`), and by any processes (`saved_trackers_valid`), of whose demonstration
orders nothing has to be known but the generator (`Process.validAt_runAll_of_generated`).
-/

namespace OrderPipeline

/-- Whether every text that is stored is that of a valid tracker. -/
def ValidTexts (contents : String → Option String) : Prop :=
  ∀ key text, contents key = some text →
    ∃ tracker, Tracker.ofText text = .ok tracker ∧ tracker.Valid

/-! ## Stores and tasks -/

namespace Store

variable {σ : Type} [Backing σ] [KeyValue σ] {backing : σ} {store : Store}

/-- Saving a valid tracker leaves valid texts. -/
theorem validTexts_persist (stored : ValidTexts (KeyValue.contents backing))
    (valid : store.tracker.Valid) :
    ValidTexts (KeyValue.contents (store.persist backing).2) := by
  intro key text found
  rw [store.contents_persist] at found
  split at found
  · cases found
    exact ⟨store.tracker, store.tracker.ofText_text, valid⟩
  · exact stored key text found

/-- A store that is opened on valid texts begins with a valid tracker. -/
theorem valid_restore (stored : ValidTexts (KeyValue.contents backing)) (key : String) :
    (Store.restore backing key).1.tracker.Valid := by
  show (SavedState.ofLoaded (Backing.load backing key).1).restored.Valid
  cases loaded : (Backing.load backing key).1 with
  | error => exact .empty
  | ok text? =>
    cases text? with
    | none => exact .empty
    | some text =>
      obtain ⟨tracker, read, valid⟩ := stored key text (KeyValue.load_eq loaded).symm
      rw [SavedState.ofLoaded, read]
      exact valid

/-- Valid actions leave a valid tracker and valid texts. -/
theorem valid_dispatchAll (stored : ValidTexts (KeyValue.contents backing))
    (valid : store.tracker.Valid) {actions : List Action}
    (adds : ∀ action ∈ actions, action.Valid) (clock : Clock) :
    (store.dispatchAll clock backing actions).1.tracker.Valid ∧
      ValidTexts (KeyValue.contents (store.dispatchAll clock backing actions).2.2) := by
  induction actions generalizing store clock backing with
  | nil => exact ⟨valid, stored⟩
  | cons action rest ih =>
    have next : (store.dispatch action (clock.reading 0) backing).1.tracker.Valid :=
      valid.apply (adds action List.mem_cons_self) (clock.reading 0)
    exact ih (validTexts_persist stored next) next
      (fun action member => adds action (List.mem_cons_of_mem _ member)) clock.later

end Store

namespace Task

variable {σ : Type} [Backing σ] [KeyValue σ] {backing : σ} {store : Store}

/-- Whether a task is given valid records. -/
def Valid : Task → Prop
  | add item => item.Valid
  | submit _ _ data => data.Valid
  | seed demo => ∀ item ∈ demo, item.Valid
  | report _ => True

/-- Recording valid actions leaves valid texts. -/
theorem validTexts_record (stored : ValidTexts (KeyValue.contents backing))
    (valid : store.tracker.Valid) {actions : List Action}
    (adds : ∀ action ∈ actions, action.Valid) (command : String)
    (message : List Outcome → String) (clock : Clock) :
    ValidTexts (KeyValue.contents (record command actions message clock store backing).2.2) := by
  obtain ⟨final, texts⟩ := Store.valid_dispatchAll stored valid adds clock
  have saved := Store.validTexts_persist texts final
  simp only [record]
  split <;> next answer => rw [answer] at saved; exact saved

/-- A task with valid records leaves valid texts. -/
theorem validTexts_run (stored : ValidTexts (KeyValue.contents backing))
    (valid : store.tracker.Valid) {task : Task} (given : task.Valid) (clock : Clock) :
    ValidTexts (KeyValue.contents (task.run clock store backing).2.2) := by
  cases task with
  | add item =>
    simp only [run]
    exact validTexts_record stored valid (valid_additions given) _ _ clock
  | report lines => exact stored
  | submit id stage data =>
    simp only [run]
    cases planned : submission store.tracker id stage data with
    | error failure => exact stored
    | ok actions =>
      exact validTexts_record stored valid (valid_of_submission given planned) _ _ clock
  | seed demo =>
    simp only [run, Store.seed]
    split
    · have adds : ∀ action ∈ demo.map Action.addItem, action.Valid :=
        List.forall_mem_map.2 given
      exact (Store.valid_dispatchAll stored valid adds clock).2
    · exact stored

end Task

/-! ## Commands and processes -/

/-- Whether the texts in the database with a name are those of valid trackers, if there is one. -/
def ValidAt (name : String) (databases : List (String × Database)) : Prop :=
  ∀ database, databases.lookup name = some database → ValidTexts database.textAt

/-- Where no database was left there are no texts. -/
theorem validAt_of_absent {name : String} {databases : List (String × Database)}
    (absent : databases.lookup name = none) : ValidAt name databases := by
  intro database found
  rw [absent] at found
  cases found

namespace Host

variable {host : Host} {name : String} {location : Location}

/-- The name of the place of a location. -/
def nameOf (location : Location) : Option String :=
  (location.path.bind FileTree.place?).map placeName

/-- Leaving a database behind changes at most the one at its place. -/
theorem validAt_keep (valid : ValidAt name host.databases) {database : Database}
    (kept : nameOf location = some name → ValidTexts database.textAt) :
    ValidAt name (host.keep location database).databases := by
  rw [keep]
  rw [nameOf] at kept
  cases reached : location.path.bind FileTree.place? with
  | none => exact valid
  | some place =>
    rw [reached] at kept
    intro found left
    simp only [Keyed.lookup_insert] at left
    split at left
    · next here =>
      cases left
      exact kept (by rw [here]; rfl)
    · exact valid found left

/-- A new database is empty. -/
theorem eq_empty_of_newDatabase {place : List String} {readOnly : Bool} {database : Database}
    (created : host.newDatabase place readOnly = .ok database) : database = {} := by
  unfold newDatabase at created
  repeat' split at created
  all_goals cases created
  all_goals rfl

/-- What is stored in a database that is opened at a place was left there. -/
theorem validTexts_of_databaseAt (valid : ValidAt name host.databases) {database : Database}
    (opened : host.databaseAt location = .ok database) (here : nameOf location = some name) :
    ValidTexts database.textAt := by
  obtain ⟨place, reached, rfl⟩ := Option.map_eq_some_iff.1 here
  obtain ⟨path, inFile, reached⟩ := Option.bind_eq_some_iff.1 reached
  simp only [databaseAt, inFile, reached] at opened
  split at opened
  · next left =>
    cases opened
    exact valid database left
  · rw [eq_empty_of_newDatabase opened]
    intro key text found
    cases found

/-- Opening a database gives the one at the location of the address. -/
theorem databaseAt_of_connect {address : String} {connection : Connection}
    (connected : host.connect address = .ok (location, connection)) :
    host.databaseAt location = .ok connection.database := by
  obtain ⟨there, -, connected⟩ := exists_of_bind_eq_ok connected
  obtain ⟨database, opened, connected⟩ := exists_of_bind_eq_ok connected
  cases connected
  exact opened

/-- Work on a database that leaves valid texts valid does so on a host. -/
theorem validAt_onDatabase (valid : ValidAt name host.databases)
    {work : Settings → Connection → Reply × Connection}
    (works : ∀ (settings : Settings) (connection : Connection),
      ValidTexts connection.database.textAt →
        ValidTexts (work settings connection).2.database.textAt) (command : String) :
    ValidAt name (host.onDatabase command work).2.databases := by
  unfold onDatabase
  split
  · exact valid
  · next settings _ =>
    split
    · exact valid
    · next location connection connected =>
      have opened := databaseAt_of_connect connected
      split
      · exact validAt_keep valid (validTexts_of_databaseAt valid opened)
      · next migrated migration =>
        refine validAt_keep valid fun here => works settings migrated ?_
        have before := validTexts_of_databaseAt valid opened here
        rw [Connection.migrate] at migration
        split at migration
        · cases migration
        · cases migration
          intro key text stored
          exact before key text (by rwa [Database.textAt_migrate] at stored)

/-- A task with valid records leaves valid texts on a host. -/
theorem validAt_perform (valid : ValidAt name host.databases) {task : Task} (given : task.Valid)
    (command : String) (clock : Clock) :
    ValidAt name (host.perform command clock task).2.databases := by
  refine validAt_onDatabase valid (fun settings connection stored => ?_) command
  have texts : ValidTexts (KeyValue.contents connection) := stored
  exact Task.validTexts_run texts (Store.valid_restore texts settings.stateKey) given clock

/-- So does a report. -/
theorem validAt_report (valid : ValidAt name host.databases) (lines : Tracker → List String)
    (command : String) (clock : Clock) :
    ValidAt name (host.perform command clock (.report lines)).2.databases := by
  have given : (Task.report lines).Valid := trivial
  exact validAt_perform valid given command clock

/-- A look at whether a host is ready for work leaves valid texts. -/
theorem validAt_readiness (valid : ValidAt name host.databases) :
    ValidAt name host.readiness.2.databases := by
  unfold readiness
  split
  · exact valid
  · next settings _ =>
    simp only [checkStorage]
    split
    · exact valid
    · next location connection connected =>
      exact validAt_keep valid (validTexts_of_databaseAt valid (databaseAt_of_connect connected))

end Host

/-- A command leaves valid texts, whatever its arguments. -/
theorem Command.validAt_run {host : Host} {name : String} (valid : ValidAt name host.databases)
    (command : Command) {occasion : Occasion} (drawn : Demo.Drawn occasion.demo) :
    ValidAt name (command.run occasion host).2.databases := by
  cases command with
  | migrate => exact Host.validAt_onDatabase valid (fun _ _ stored => stored) "migrate"
  | seed =>
    have given : (Task.seed occasion.demo).Valid := fun item member => by
      obtain ⟨day, stage, sample, drawn, rfl⟩ := drawn item member
      exact Demo.valid_order day stage drawn
    exact Host.validAt_perform valid given "seed" occasion.clock
  | dashboard json => exact Host.validAt_report valid _ "dashboard" occasion.clock
  | activity => exact Host.validAt_report valid _ "activity" occasion.clock
  | add lead =>
    simp only [run, runAdd]
    split
    · exact valid
    · next item read =>
      have given : (Task.add item).Valid := Lead.valid_of_toItem read
      exact Host.validAt_perform valid given "add" occasion.clock
  | update id stage fields =>
    rw [run]
    unfold runUpdate
    split
    · exact valid
    · next place data read =>
      have given : (Task.submit id place data).Valid := valid_of_readSubmission read
      exact Host.validAt_perform valid given "update" occasion.clock
  | stage place search view role =>
    rw [run]
    unfold runStage
    split
    · exact valid
    · split
      · exact Host.validAt_report valid _ "stage" occasion.clock
      · exact valid
  | login | config => exact valid
  | doctor json => exact Host.validAt_readiness valid

namespace Process

/-- A process leaves valid texts. -/
theorem validAt_run {process : Process} (drawn : Demo.Drawn process.occasion.demo) {name : String}
    {databases : List (String × Database)} (valid : ValidAt name databases) :
    ValidAt name (process.run databases).2 := by
  rw [run]
  cases Command.ofArguments? process.words with
  | none => exact valid
  | some command => exact Command.validAt_run valid command drawn

/-- Processes one after another leave valid texts. -/
theorem validAt_runAll {processes : List Process}
    (drawn : ∀ process ∈ processes, Demo.Drawn process.occasion.demo) {name : String}
    {databases : List (String × Database)} (valid : ValidAt name databases) :
    ValidAt name (runAll databases processes) := by
  induction processes generalizing databases with
  | nil => exact valid
  | cons process rest ih =>
    exact ih (fun process member => drawn process (List.mem_cons_of_mem _ member))
      (validAt_run (drawn process List.mem_cons_self) valid)

/-- Processes whose demonstration orders come from the generator leave valid texts in a database
that was not there before them. -/
theorem validAt_runAll_of_generated {processes : List Process}
    (generated : ∀ process ∈ processes, ∃ generator today,
      process.occasion.demo = (Demo.items? generator today).getD [])
    {name : String} {databases : List (String × Database)}
    (absent : databases.lookup name = none) : ValidAt name (runAll databases processes) := by
  refine validAt_runAll (fun process member => ?_) (validAt_of_absent absent)
  obtain ⟨generator, today, made⟩ := generated process member
  rw [made]
  cases drawn : Demo.items? generator today with
  | none => exact fun item nothing => absurd nothing List.not_mem_nil
  | some demo => exact Demo.drawn_items? drawn

end Process

/-- Whatever processes run, with any arguments and in any surroundings: every text in a database
that was not there before them is that of a valid tracker. -/
theorem saved_trackers_valid (databases : List (String × Database)) (name : String)
    (absent : databases.lookup name = none) (processes : List Process)
    (drawn : ∀ process ∈ processes, Demo.Drawn process.occasion.demo) (database : Database)
    (left : (Process.runAll databases processes).lookup name = some database) (key text : String)
    (stored : database.textAt key = some text) :
    ∃ tracker, Tracker.ofText text = .ok tracker ∧ tracker.Valid :=
  Process.validAt_runAll drawn (validAt_of_absent absent) database left key text stored

/-- Where a text is stored at a site, a database was left there. -/
theorem Site.exists_of_saved {site : Site} {databases : List (String × Database)} {text : String}
    (saved : site.saved databases = some text) :
    ∃ database, databases.lookup (Host.placeName site.place) = some database ∧
      database.textAt site.key = some text := by
  rw [Site.saved, Site.database] at saved
  cases found : databases.lookup (Host.placeName site.place) with
  | none =>
    rw [found] at saved
    cases saved
  | some database =>
    rw [found] at saved
    exact ⟨database, rfl, saved⟩

/-- A demonstration order that is to be paid, without dates. -/
def unsettled : Item :=
  Demo.order (fun _ => none) .payment {
    code := "ABCDEFGHI", customerName := "Neha Verma", phone := 7, siteLocation := "Pune"
    requirement := "Bed Frame", quoted := 0, quantity := 0, poNumber := 0, truckNumber := 0
    driverContact := 0, receivedQty := 0, installerContact := 0, reference := "A1B2C3" }

/-- The order is added and paid. -/
def settled : List Process :=
  [bareProcess ["seed"] [unsettled],
    bareProcess ["update", "LEAD-ABCDEFGHI", "payment", "--field", "paidAmount = 5e4",
      "--field=paymentMode=UPI", "--field", "paymentDate=2024-03-01"] []]

/-- The order is saved as completed, with one log, in a valid tracker. -/
theorem saved_trackers_valid_settled :
    ∃ text tracker, defaultSite.saved (Process.runAll [] settled) = some text ∧
      Tracker.ofText text = .ok tracker ∧ tracker.Valid ∧
      tracker.items.map (fun item => (item.stage, item.logs.length)) = [(.completed, 1)] := by
  have works : ∀ process ∈ settled, process.WorksAt defaultSite := by
    simp [settled, worksAt_bareProcess]
  have sample : Demo.Drawn [unsettled] := by
    intro item member
    rw [List.mem_singleton.1 member]
    have reference : "A1B2C3".toList ⊆ Generator.codeAlphabet := by decide
    exact ⟨_, _, _, ⟨by decide, by decide, by decide, by exact fun _ => (reference ·)⟩, rfl⟩
  have drawn : ∀ process ∈ settled, Demo.Drawn process.occasion.demo := by
    intro process member
    rcases List.mem_pair.1 member with rfl | rfl
    · exact sample
    · exact fun item nothing => absurd nothing List.not_mem_nil
  have paid : (Process.modelAll settled).items.map
      (fun item => (item.stage, item.logs.length)) = [(.completed, 1)] := by
    simp only [Process.modelAll, settled, List.foldl, Process.model, result?_bareProcess]
    decide +kernel
  have absent : ([] : List (String × Database)).lookup (Host.placeName defaultSite.place) = none :=
    rfl
  obtain ⟨stored, holds, form⟩ := Process.savedAs_runAll absent works
  have saved := holds.saved_eq
  generalize Process.modelAll settled = tracker at form paid
  cases form with
  | nothing => cases paid
  | text =>
    obtain ⟨database, left, found⟩ := Site.exists_of_saved saved
    obtain ⟨again, read, valid⟩ :=
      saved_trackers_valid [] _ absent settled drawn database left _ _ found
    rw [Tracker.ofText_text] at read
    cases read
    exact ⟨_, _, saved, Tracker.ofText_text _, valid, paid⟩

end OrderPipeline
