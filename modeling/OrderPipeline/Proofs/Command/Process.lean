import OrderPipeline.Command.Arguments
import OrderPipeline.Proofs.Command.Task
import Mathlib.Data.List.Induction

/-!
# Commands as processes

A `Process` runs one command line in surroundings of its own, with a database that the processes
before it have left. As long as the database can be used (`Process.WorksAt`), what the commands do
is a function of the tracker alone: `Command.result?` is the tracker that a command leads to, if it
is accepted and should change something.

* `Host.Serves` — a host where the database of a site is opened, with a text or nothing stored.
* `Command.ending_run` — on such a host a command ends as its result says.
* `commands_follow_model` — so do processes one after another, with nothing lost in between.
-/

namespace OrderPipeline

/-! ## Results -/

namespace Command

/-- Whether a command should change the tracker. -/
def isChanging : Command → Bool
  | add _ | update .. | seed => true
  | migrate | dashboard _ | stage .. | activity | login .. | config | doctor _ => false

/-- The tracker that a command leads to, if it is accepted and should change something: a new order
comes last, at the follow-up and with an entry in the feed; a form is planned for the order and the
plan is carried out; and demonstration orders are added where there are none. -/
def result? (command : Command) (occasion : Occasion) (tracker : Tracker) : Option Tracker :=
  match command with
  | add lead => (lead.toItem occasion.leadId).toOption.map fun item =>
    { items := tracker.items ++ [{ item with stage := .followup }]
      feed := tracker.feed.record ⟨item.customerName, "New lead added", Stage.followup.label,
        occasion.clock.reading 1⟩ }
  | update id name fields => do
    let (place, data) ← (readSubmission name fields).toOption
    let item ← tracker.findItem? id
    let actions ← (Submission.plan item place data).toOption
    return (tracker.run (occasion.clock.stamp actions)).1
  | seed =>
    some { tracker with items := if tracker.items = [] then occasion.demo else tracker.items }
  | migrate | dashboard _ | stage .. | activity | login .. | config | doctor _ => none

end Command

/-! ## Sites -/

/-- A place for a database that may be changed, and the key under which the tracker is saved. -/
structure Site where
  /-- Where the database is. -/
  location : Location
  /-- The place of its file. -/
  place : List String
  /-- The place is the one that the location names. -/
  reached : location.path.bind FileTree.place? = some place
  /-- The database may be changed. -/
  writable : location.readOnly = false
  /-- The key. -/
  key : String

namespace Site

/-- The database that is opened at the site; where none was left, it is one without a table. -/
def database (site : Site) (databases : List (String × Database)) : Database :=
  (databases.lookup (Host.placeName site.place)).getD {}

/-- The text that is stored at the site. -/
def saved (site : Site) (databases : List (String × Database)) : Option String :=
  (site.database databases).textAt site.key

/-- The tracker that a store begins with that is opened at the site. -/
def tracker (site : Site) (databases : List (String × Database)) : Tracker :=
  (Store.restore (site.database databases).migrate site.key).1.tracker

/-- Whether what is stored at the site can be read. -/
def Holds (site : Site) (databases : List (String × Database)) (stored : Option String) : Prop :=
  (site.database databases).migrate.read site.key = .ok stored

end Site

namespace Host

/-- Whether settings that load name the site. -/
structure Serves (host : Host) (site : Site) : Prop where
  /-- Settings that load name the location and the key of the site. -/
  named : ∀ settings, host.settings = .ok settings →
    Location.ofAddress settings.databaseUrl = .ok site.location ∧ settings.stateKey = site.key
  /-- Where no database was left, one can be created. -/
  creatable : host.newDatabase site.place false = .ok {}

variable {host : Host} {site : Site}

/-- The database of a site that is served is opened. -/
theorem Serves.connect (serves : host.Serves site) {settings : Settings}
    (loaded : host.settings = .ok settings) :
    host.connect settings.databaseUrl =
      .ok (site.location, ⟨site.database host.databases, false⟩) := by
  obtain ⟨path, inFile, reached⟩ := Option.bind_eq_some_iff.1 site.reached
  have opened : host.databaseAt site.location = .ok (site.database host.databases) := by
    simp only [databaseAt, inFile, reached, Site.database]
    cases host.databases.lookup (placeName site.place) with
    | some database => rfl
    | none => rw [site.writable, serves.creatable]; rfl
  simp only [Host.connect, (serves.named settings loaded).1, Except.mapError, bind, Except.bind,
    opened, site.writable, pure, Except.pure]

/-- A database that is left at a site is opened there. -/
theorem database_keep (host : Host) (site : Site) (database : Database) :
    site.database (host.keep site.location database).databases = database := by
  simp [Host.keep, site.reached, Site.database]

end Host

/-! ## One command -/

namespace Database

@[simp] theorem textAt_migrate (database : Database) (key : String) :
    database.migrate.textAt key = database.textAt key := by
  obtain ⟨rows⟩ := database
  cases rows <;> rfl

/-- A database that can be read has a table already. -/
theorem migrate_of_read {database : Database} {key : String} {stored : Option String}
    (read : database.read key = .ok stored) : database.migrate = database := by
  obtain ⟨rows⟩ := database
  cases rows with
  | none => cases read
  | some rows => rfl

end Database

namespace Site.Holds

variable {site : Site} {databases : List (String × Database)} {stored : Option String}

/-- What is read is what is stored. -/
theorem saved_eq (holds : site.Holds databases stored) : site.saved databases = stored := by
  rw [Database.textAt_of_read holds, Database.textAt_migrate]
  rfl

/-- A store that is opened begins with what is stored. -/
theorem tracker_eq (holds : site.Holds databases stored) :
    site.tracker databases = (SavedState.ofLoaded (.ok stored)).restored := by
  have loaded : (Backing.load (site.database databases).migrate site.key).1 = .ok stored := holds
  rw [← loaded]
  rfl

end Site.Holds

/-- The saved form of a tracker, or nothing for an empty one. -/
inductive Tracker.SavedAs : Tracker → Option String → Prop
  /-- The text of the tracker is saved. -/
  | text (tracker : Tracker) : SavedAs tracker (some tracker.text)
  /-- Nothing was saved. -/
  | nothing : SavedAs {} none

/-- A store that is opened begins with the tracker that was saved. -/
theorem Tracker.SavedAs.restored {tracker : Tracker} {stored : Option String}
    (form : tracker.SavedAs stored) : (SavedState.ofLoaded (.ok stored)).restored = tracker := by
  cases form with
  | nothing => rfl
  | text => rw [SavedState.ofLoaded, tracker.ofText_text]; rfl

/-- After a task or a command the tracker is saved that it leads to. -/
theorem Ending.savedAs {tracker : Tracker} {stored after : Option String} {changing : Bool}
    {result? : Option Tracker} {reply : Reply}
    (ending : Ending tracker stored changing result? reply after) (form : tracker.SavedAs stored) :
    (result?.getD tracker).SavedAs after := by
  cases ending with
  | saved result => exact .text result
  | idle => exact form
  | kept => exact form

namespace Host

variable {host : Host} {site : Site} {stored : Option String} {tracker : Tracker}
  {changing : Bool}

/-- The result of a command on a host, which needs settings that load. -/
def allow (host : Host) (result? : Option Tracker) : Option Tracker :=
  match host.settings with
  | .ok _ => result?
  | .error _ => none

@[simp] theorem allow_none (host : Host) : host.allow none = none := by
  unfold allow
  split <;> rfl

/-- How a command ends on a host: with a text or nothing to be read at the site. -/
def EndsAs (site : Site) (tracker : Tracker) (stored : Option String) (changing : Bool)
    (result? : Option Tracker) (done : Reply × Host) : Prop :=
  ∃ after, site.Holds done.2.databases after ∧
    Ending tracker stored changing result? done.1 after

/-- A command that is refused leaves the host as it is. -/
theorem endsAs_kept (holds : site.Holds host.databases stored) {reply : Reply}
    (refused : changing = true → reply.exitCode ≠ 0) :
    EndsAs site tracker stored changing none (reply, host) :=
  ⟨stored, holds, .kept refused⟩

/-- A command that only answers leaves the host as it is. -/
theorem endsAs_answered (holds : site.Holds host.databases stored) {reply : Reply} :
    EndsAs site tracker stored false none (reply, host) :=
  ⟨stored, holds, .answered⟩

/-- Work on the migrated database of a site leaves there what it leaves on its connection. -/
theorem endsAs_onDatabase (serves : host.Serves site) (holds : site.Holds host.databases stored)
    {result? : Option Tracker} {work : Settings → Connection → Reply × Connection}
    (works : ∀ (settings : Settings) (connection : Connection), settings.stateKey = site.key →
      connection.Reads site.key stored →
      ∃ after, (work settings connection).2.Reads site.key after ∧
        Ending tracker stored changing result? (work settings connection).1 after)
    (command : String) :
    EndsAs site tracker stored changing (host.allow result?) (host.onDatabase command work) := by
  cases loaded : host.settings with
  | error error =>
    simp only [allow, onDatabase, loaded]
    exact endsAs_kept holds fun _ => (by decide : (2 : Nat) ≠ 0)
  | ok settings =>
    let connection : Connection := ⟨(site.database host.databases).migrate, false⟩
    obtain ⟨after, reads, ending⟩ :=
      works settings connection (serves.named settings loaded).2 ⟨rfl, holds⟩
    have done : host.onDatabase command work = ((work settings connection).1,
        host.keep site.location (work settings connection).2.database) := by
      simp only [onDatabase, loaded, serves.connect loaded]
      rfl
    rw [allow, loaded, done]
    refine ⟨after, ?_, ending⟩
    rw [Site.Holds, database_keep, Database.migrate_of_read reads.read]
    exact reads.read

/-- A task on the store of a site ends as its result says. -/
theorem endsAs_perform (serves : host.Serves site) (holds : site.Holds host.databases stored)
    (form : tracker.SavedAs stored) (command : String) (clock : Clock) (task : Task) :
    EndsAs site tracker stored task.isChanging (host.allow (task.result? clock tracker))
      (host.perform command clock task) := by
  refine endsAs_onDatabase serves holds (fun settings connection key reads => ?_) command
  have opened : Store.restore connection settings.stateKey = (⟨site.key, tracker⟩, connection) := by
    have loaded : Backing.load connection site.key = (.ok stored, connection) := by
      rw [← reads.read]
      rfl
    rw [Store.restore, key, loaded]
    simp only [form.restored]
  simp only [opened]
  have ready : connection.Reads (Store.mk site.key tracker).key stored := reads
  exact Task.ending_run ready task clock

/-- A look at whether a host is ready for work leaves what is stored. -/
theorem holds_readiness (serves : host.Serves site) (holds : site.Holds host.databases stored) :
    site.Holds host.readiness.2.databases stored := by
  cases loaded : host.settings with
  | error error =>
    simp only [readiness, loaded]
    exact holds
  | ok settings =>
    simp only [readiness, checkStorage, loaded, serves.connect loaded]
    rw [Site.Holds, database_keep]
    exact holds

end Host

namespace Command

variable {host : Host} {site : Site} {stored : Option String} {tracker : Tracker}

/-- A form that was read leads to where the submission of its data does. -/
theorem result?_update {id : ItemId} {name : String} {fields : List String} {stage : Stage}
    {data : Attributes} (read : readSubmission name fields = .ok (stage, data))
    (occasion : Occasion) (tracker : Tracker) :
    result? (update id name fields) occasion tracker =
      (Task.submit id stage data).result? occasion.clock tracker := by
  rw [Task.result?, Task.toOption_submission, Option.map_bind, result?, read]
  show (tracker.findItem? id).bind _ = (tracker.findItem? id).bind _
  refine congrArg (Option.bind _) (funext fun item => ?_)
  exact (Option.map_eq_bind ..).symm

/-- On a host where a site is served a command ends as its result says. -/
theorem ending_run (serves : host.Serves site) (holds : site.Holds host.databases stored)
    (form : tracker.SavedAs stored) (command : Command) (occasion : Occasion) :
    Host.EndsAs site tracker stored command.isChanging
      (host.allow (command.result? occasion tracker)) (command.run occasion host) := by
  cases command with
  | migrate =>
    refine Host.endsAs_onDatabase serves holds ?_ "migrate"
    exact fun _ _ _ reads => ⟨stored, reads, .answered⟩
  | seed =>
    have same : (Task.seed occasion.demo).result? occasion.clock tracker =
        result? seed occasion tracker := by
      simp only [Task.result?, result?]
      split <;> rfl
    rw [← same]
    exact Host.endsAs_perform serves holds form "seed" occasion.clock (.seed occasion.demo)
  | dashboard json =>
    exact Host.endsAs_perform serves holds form "dashboard" occasion.clock (.report _)
  | activity => exact Host.endsAs_perform serves holds form "activity" occasion.clock (.report _)
  | add lead =>
    simp only [result?, run, runAdd]
    cases read : lead.toItem occasion.leadId with
    | error failure =>
      simp only [Except.toOption, Option.map_none, Host.allow_none]
      exact Host.endsAs_kept holds fun _ => Reply.exitCode_ofFailure _ _
    | ok item =>
      have ending := Host.endsAs_perform serves holds form "add" occasion.clock (.add item)
      obtain ⟨-, amount, date, -, -, rfl⟩ := Lead.toItem_eq_ok_iff.1 read
      exact ending
  | update id name fields =>
    show Host.EndsAs _ _ _ _ _ (runUpdate id name fields occasion.clock host)
    unfold runUpdate
    cases read : readSubmission name fields with
    | error failure =>
      have unread : result? (update id name fields) occasion tracker = none := by
        rw [result?, read]
        rfl
      rw [unread, Host.allow_none]
      exact Host.endsAs_kept holds fun _ => Reply.exitCode_ofFailure _ _
    | ok submitted =>
      rw [result?_update read]
      exact Host.endsAs_perform serves holds form "update" occasion.clock (.submit id _ _)
  | stage name search view role =>
    show Host.EndsAs _ _ _ _ (host.allow none) (runStage name search view role occasion.clock host)
    unfold runStage
    rw [Host.allow_none]
    split
    · exact Host.endsAs_answered holds
    · next shown _ =>
      split
      · have ending := Host.endsAs_perform serves holds form "stage" occasion.clock
          (.report (view.lines shown search))
        rw [← host.allow_none]
        exact ending
      · exact Host.endsAs_answered holds
  | login username password =>
    simp only [result?, run, Host.allow_none]
    exact Host.endsAs_answered holds
  | config =>
    simp only [result?, run, Host.allow_none]
    exact Host.endsAs_answered holds
  | doctor json =>
    simp only [result?, Host.allow_none]
    exact ⟨stored, Host.holds_readiness serves holds, .answered⟩

end Command

/-! ## Processes -/

/-- A command line that is run, and what the process finds around it. -/
structure Process where
  /-- The words of the command line. -/
  words : List String
  /-- When the process runs, and what it draws at random. -/
  occasion : Occasion
  /-- The environment variables. -/
  environment : Environment := {}
  /-- The files other than databases. -/
  files : FileTree := {}

namespace Process

/-- The host of a process, with the databases that were left before. -/
def host (process : Process) (databases : List (String × Database)) : Host :=
  ⟨process.environment, process.files, databases⟩

/-- What a process answers and which databases it leaves. A command line that cannot be read is
refused. -/
def run (process : Process) (databases : List (String × Database)) :
    Reply × List (String × Database) :=
  match Command.ofArguments? process.words with
  | none => (⟨2, ""⟩, databases)
  | some command =>
    let (reply, host) := command.run process.occasion (process.host databases)
    (reply, host.databases)

/-- The databases that processes leave that run one after another. -/
def runAll (databases : List (String × Database)) (processes : List Process) :
    List (String × Database) :=
  processes.foldl (fun databases process => (process.run databases).2) databases

/-- Whether a process should change the tracker. -/
def isChanging (process : Process) : Bool :=
  (Command.ofArguments? process.words).any Command.isChanging

/-- The tracker that a process leads to, if its command is accepted and should change something. -/
def result? (process : Process) (tracker : Tracker) : Option Tracker :=
  (Command.ofArguments? process.words).bind fun command =>
    (process.host []).allow (command.result? process.occasion tracker)

/-- The tracker after a process. -/
def model (process : Process) (tracker : Tracker) : Tracker :=
  (process.result? tracker).getD tracker

/-- The tracker after processes that run one after another, beginning with an empty one. -/
def modelAll (processes : List Process) : Tracker :=
  processes.foldl (fun tracker process => process.model tracker) {}

/-- Whether a process can use the database of a site. -/
def WorksAt (process : Process) (site : Site) : Prop := (process.host []).Serves site

variable {process : Process} {site : Site} {databases : List (String × Database)}
  {stored : Option String} {tracker : Tracker}

/-- A process that can use the database ends as its result says. -/
theorem ending_run (works : process.WorksAt site) (holds : site.Holds databases stored)
    (form : tracker.SavedAs stored) :
    ∃ after, site.Holds (process.run databases).2 after ∧
      Ending tracker stored process.isChanging (process.result? tracker)
        (process.run databases).1 after := by
  have serves : (process.host databases).Serves site := ⟨works.named, works.creatable⟩
  rw [run, isChanging, result?]
  cases Command.ofArguments? process.words with
  | none => exact ⟨stored, holds, .answered⟩
  | some command => exact command.ending_run serves holds form process.occasion

/-- Processes one after another leave the tracker saved that they lead to. -/
theorem savedAs_runAll (absent : databases.lookup (Host.placeName site.place) = none)
    {processes : List Process} (works : ∀ process ∈ processes, process.WorksAt site) :
    ∃ stored, site.Holds (runAll databases processes) stored ∧
      (modelAll processes).SavedAs stored := by
  -- on the processes from the last one back: the last one finds what the others have left
  induction processes using List.reverseRecOn with
  | nil =>
    refine ⟨none, ?_, .nothing⟩
    rw [Site.Holds, Site.database, runAll, List.foldl_nil, absent]
    rfl
  | append_singleton earlier last ih =>
    obtain ⟨stored, holds, form⟩ :=
      ih fun process member => works process (List.mem_append_left _ member)
    obtain ⟨after, left, ending⟩ := ending_run (works last (by simp)) holds form
    refine ⟨after, ?_, ?_⟩
    · rw [runAll, List.foldl_concat]
      exact left
    · rw [modelAll, List.foldl_concat]
      exact ending.savedAs form

end Process

/-- Processes run one after another, all of which can use the database of a site where none was left
before. Then (1) the next process finds the tracker that the commands before it lead to; (2) when it
is accepted and should change something, it leaves the tracker that it leads to, whose text is saved
unless nothing had to be changed; (3) when it should change something, it answers with the exit code
of success just if it has a result; and (4) when it is refused or should change nothing, the stored
text stays. -/
theorem commands_follow_model (site : Site) (databases : List (String × Database))
    (absent : databases.lookup (Host.placeName site.place) = none) (processes : List Process)
    (next : Process) (works : ∀ process ∈ next :: processes, process.WorksAt site) :
    let before := Process.runAll databases processes
    let tracker := Process.modelAll processes
    let reply := (next.run before).1
    let after := (next.run before).2
    site.tracker before = tracker ∧
    (∀ result, next.result? tracker = some result → site.tracker after = result ∧
      (site.saved after = some result.text ∨
        site.saved after = site.saved before ∧ result = tracker)) ∧
    (next.isChanging = true → (reply.exitCode = 0 ↔ (next.result? tracker).isSome)) ∧
    (reply.exitCode ≠ 0 ∨ next.isChanging = false → site.saved after = site.saved before) := by
  intro before tracker reply after
  obtain ⟨stored, holds, form⟩ := Process.savedAs_runAll absent
    fun process member => works process (List.mem_cons_of_mem _ member)
  obtain ⟨text?, left, ending⟩ :=
    Process.ending_run (works next List.mem_cons_self) holds form
  have same : site.saved before = stored := holds.saved_eq
  refine ⟨holds.tracker_eq.trans form.restored, ?_⟩
  rw [show site.saved after = text? from left.saved_eq, same,
    show site.tracker after = _ from left.tracker_eq, (ending.savedAs form).restored]
  change Ending tracker stored next.isChanging (next.result? tracker) reply text? at ending
  generalize next.result? tracker = result?, reply = reply, next.isChanging = changing at ending ⊢
  cases ending with
  | saved result accepted => simp [accepted]
  | idle accepted => simp [accepted]
  | kept refused => simpa using refused

/-! ## Processes with nothing around them -/

/-- A process with nothing around it, which may draw some orders. -/
def bareProcess (words : List String) (demo : List Item) : Process where
  words := words
  occasion := { clock := Instant.epoch, leadId := ⟨"LEAD-1"⟩, demo := demo }

/-- The place where a database is kept by default, and the default key. -/
def defaultSite : Site where
  location := ⟨some "q2d.db", false⟩
  place := ["q2d.db"]
  reached := by decide +kernel
  writable := rfl
  key := "q2d.workflow_state.v1"

/-- Without files and variables all settings have their defaults. -/
theorem settings_bareProcess (words : List String) (demo : List Item) :
    ((bareProcess words demo).host []).settings = .ok (Settings.complete Partial.none) := by
  have unfiled : Settings.file? {} none = none := by decide +kernel
  have given : Partial.ofVariables {} Setting.all = .ok Partial.none := by rfl
  have valid : (Settings.complete Partial.none).violation? = none := by decide +kernel
  show Settings.load {} {} {} = _
  simp only [Settings.load, Settings.fromFile, unfiled, given]
  show (Settings.complete Partial.none).checked = _
  unfold Settings.checked
  rw [valid]

/-- The settings of a process with nothing around it load, so its result is that of the command. -/
theorem result?_bareProcess (words : List String) (demo : List Item) (tracker : Tracker) :
    (bareProcess words demo).result? tracker = (Command.ofArguments? words).bind fun command =>
      command.result? (bareProcess words demo).occasion tracker := by
  rw [Process.result?]
  refine congrArg (Option.bind _) (funext fun command => ?_)
  rw [Host.allow, settings_bareProcess]

/-- A process with nothing around it can use the default database. -/
theorem worksAt_bareProcess (words : List String) (demo : List Item) :
    (bareProcess words demo).WorksAt defaultSite where
  named settings loaded := by
    rw [settings_bareProcess] at loaded
    cases loaded
    decide +kernel
  creatable := by rfl

/-- The database is prepared, an order is added, and its customer asks for time. -/
def needTime : List Process :=
  [bareProcess ["migrate"] [],
    bareProcess ["add", "--customer-name", " Priya Patel", "--phone=9000000002",
      "--location", "Delhi"] [],
    bareProcess ["update", "LEAD-1", "followup", "--field", "status = Need Time"] []]

/-- The order is said to be in stock. -/
def inStock : Process :=
  bareProcess ["update", "LEAD-1", "stock", "--field", "stockAvailable=Yes"] []

/-- The order that was added is still followed up; so the form of another stage is refused, and the
stored text stays. -/
theorem commands_follow_model_needTime :
    (defaultSite.tracker (Process.runAll [] needTime)).items.map
        (fun item => (item.customerName, item.stage)) = [("Priya Patel", .followup)] ∧
      (inStock.run (Process.runAll [] needTime)).1.exitCode ≠ 0 ∧
      defaultSite.saved (inStock.run (Process.runAll [] needTime)).2 =
        defaultSite.saved (Process.runAll [] needTime) := by
  have works : ∀ process ∈ inStock :: needTime, process.WorksAt defaultSite := by
    simp [inStock, needTime, worksAt_bareProcess]
  have followed : (Process.modelAll needTime).items.map
      (fun item => (item.customerName, item.stage)) = [("Priya Patel", .followup)] := by
    simp only [Process.modelAll, needTime, List.foldl, Process.model, result?_bareProcess]
    decide +kernel
  have refused : (inStock.result? (Process.modelAll needTime)).isSome = false := by
    simp only [inStock, Process.modelAll, needTime, List.foldl, Process.model,
      result?_bareProcess]
    decide +kernel
  have changing : inStock.isChanging = true := by decide +kernel
  obtain ⟨found, -, answered, kept⟩ :=
    commands_follow_model defaultSite [] rfl needTime inStock works
  have failed : (inStock.run (Process.runAll [] needTime)).1.exitCode ≠ 0 := fun succeeded =>
    absurd ((answered changing).1 succeeded) (by simp [refused])
  refine ⟨?_, failed, kept (.inl failed)⟩
  rw [found]
  exact followed

end OrderPipeline
