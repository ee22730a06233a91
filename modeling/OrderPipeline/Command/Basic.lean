import OrderPipeline.Command.Lead
import OrderPipeline.Command.Task
import OrderPipeline.Report.Readiness
import OrderPipeline.Report.Summary
import OrderPipeline.Report.Table
import OrderPipeline.Settings.Source

/-!
# Commands

`Command.run` carries out a command on a host: it checks the arguments, loads the settings, opens
the database and migrates it, opens the store and carries out the task. The first of these steps
that fails decides the reply, and nothing that is stored changes before the task.
-/

namespace OrderPipeline

/-- A command with its arguments. -/
inductive Command where
  /-- Prepares the database. -/
  | migrate
  /-- Adds demonstration orders. -/
  | seed
  /-- Sums up the tracker. -/
  | dashboard (json : Bool)
  /-- Adds an order. -/
  | add (lead : Lead)
  /-- Lists the orders of a stage that fit a search term. -/
  | stage (name search : String) (view : StageView) (role : Role)
  /-- Submits a form for an order. -/
  | update (id : ItemId) (stage : String) (fields : List String)
  /-- Lists what was done last. -/
  | activity
  /-- Signs someone in. -/
  | login (username password : String)
  /-- Lists the settings. -/
  | config
  /-- Checks whether all is ready for work. -/
  | doctor (json : Bool)
  deriving DecidableEq

/-- When a command runs, and what it draws at random. -/
structure Occasion where
  /-- What the clock shows while the command runs. -/
  clock : Clock
  /-- The identifier of the order that it may add. -/
  leadId : ItemId
  /-- The demonstration orders that it may add. -/
  demo : List Item := []

namespace Host

/-- Does some work on the database of a host once it is migrated. -/
def onDatabase (host : Host) (command : String)
    (work : Settings → Connection → Reply × Connection) : Reply × Host :=
  match host.settings with
  | .error error => (.ofSettingsError command error, host)
  | .ok settings =>
    match host.connect settings.databaseUrl with
    | .error fault => (.refused command "db_connectivity" fault.message 4, host)
    | .ok (location, connection) =>
      match connection.migrate with
      | .error reason =>
        (.refused command "migration" ("while executing migrations: " ++ reason) 5,
          host.keep location connection.database)
      | .ok connection =>
        let (reply, connection) := work settings connection
        (reply, host.keep location connection.database)

/-- Carries out a task on the store of a host. -/
def perform (host : Host) (command : String) (clock : Clock) (task : Task) : Reply × Host :=
  host.onDatabase command fun settings connection =>
    let (store, connection) := Store.restore connection settings.stateKey
    let (reply, _, connection) := task.run clock store connection
    (reply, connection)

end Host

namespace Command

/-- The form of the stage that a text names. -/
def formOf (name : String) : Except Failure StageForm := do
  let stage ← Stage.parse name
  (Submission.form stage).mapError .form

/-- The stage and the data of a submission. -/
def readSubmission (stage : String) (fields : List String) :
    Except Failure (Stage × Attributes) := do
  let form ← formOf stage
  let values ← (FormValues.ofPairs fields).mapError .form
  return (form.stage, ← (values.toAttributes form).mapError .form)

/-- The lines of a dashboard, or its record. -/
def dashboardLines (json : Bool) (today : Date) (tracker : Tracker) : List String :=
  let dashboard := Dashboard.ofTracker tracker today
  if json then [dashboard.toJson.prettyText] else dashboard.lines today

/-- What is said to someone who is signed in. -/
def welcome (session : Session) : String :=
  "signed in as " ++ session.username ++ " (" ++ session.role.name ++ "); visible stages: " ++
    ", ".intercalate (session.role.visibleStages.map Stage.name)

/-- Adds an order. -/
def runAdd (lead : Lead) (occasion : Occasion) (host : Host) : Reply × Host :=
  match lead.toItem occasion.leadId with
  | .error failure => (.ofFailure "add" failure, host)
  | .ok item => host.perform "add" occasion.clock (.add item)

/-- Submits a form for an order. -/
def runUpdate (id : ItemId) (stage : String) (fields : List String) (clock : Clock)
    (host : Host) : Reply × Host :=
  match readSubmission stage fields with
  | .error failure => (.ofFailure "update" failure, host)
  | .ok (place, data) => host.perform "update" clock (.submit id place data)

/-- Lists the orders of a stage. -/
def runStage (name search : String) (view : StageView) (role : Role) (clock : Clock)
    (host : Host) : Reply × Host :=
  match formOf name with
  | .error failure => (.ofFailure "stage" failure, host)
  | .ok form =>
    if role.canView form.stage then
      host.perform "stage" clock (.report (view.lines form search))
    else
      (.refused "stage" "stage_not_visible"
        ("stage `" ++ form.stage.name ++ "` is not available to the " ++ role.name ++ " role") 7,
        host)

/-- Signs someone in. -/
def runLogin (username password : String) (host : Host) : Reply :=
  match host.settings with
  | .error error => .ofSettingsError "login" error
  | .ok settings =>
    match settings.accounts.login username password with
    | .error error => .ofFailure "login" (.login error)
    | .ok session => .done "login" (welcome session)

/-- Lists the settings. -/
def runConfig (host : Host) : Reply :=
  match host.settings with
  | .error error => .ofSettingsError "config" error
  | .ok settings =>
    .report (settings.lines host.environment (Settings.writtenFile? host.files))

/-- Checks whether all is ready for work. -/
def runDoctor (json : Bool) (host : Host) : Reply × Host :=
  let (readiness, host) := host.readiness
  (.report (if json then [readiness.toJson.prettyText] else readiness.lines), host)

/-- Carries out a command. -/
def run (command : Command) (occasion : Occasion) (host : Host) : Reply × Host :=
  match command with
  | .migrate =>
    host.onDatabase "migrate" fun _ connection =>
      (.done "migrate" "applied pending migrations", connection)
  | .seed => host.perform "seed" occasion.clock (.seed occasion.demo)
  | .dashboard json =>
    host.perform "dashboard" occasion.clock
      (.report (dashboardLines json (occasion.clock.reading 0).date))
  | .add lead => runAdd lead occasion host
  | .stage name search view role => runStage name search view role occasion.clock host
  | .update id place fields => runUpdate id place fields occasion.clock host
  | .activity =>
    host.perform "activity" occasion.clock (.report fun tracker => tracker.feed.lines)
  | .login username password => (runLogin username password host, host)
  | .config => (runConfig host, host)
  | .doctor json => runDoctor json host

end Command

end OrderPipeline
