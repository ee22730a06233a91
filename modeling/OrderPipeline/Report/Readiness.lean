import OrderPipeline.Host.Basic
import OrderPipeline.Storage.Store

/-!
# Readiness

Four checks tell whether a host is ready for work: whether its settings load, who may sign in,
whether the database can be opened, and what is saved there. A check whose ground is missing is
skipped. `SavedState.check` judges what is saved by the same cases from which a store restores.
-/

namespace OrderPipeline

/-- How a check ends. -/
inductive CheckStatus where
  /-- All is well. -/
  | pass
  /-- Something is wrong. -/
  | fail
  /-- The check could not be made. -/
  | skipped
  deriving DecidableEq

namespace CheckStatus

/-- The name of a status. -/
def name : CheckStatus → String
  | pass => "pass"
  | fail => "fail"
  | skipped => "skipped"

/-- The mark of a status in a list. -/
def mark : CheckStatus → String
  | pass => "ok"
  | fail => "fail"
  | skipped => "skip"

end CheckStatus

/-- A check and how it ended. -/
structure Check where
  /-- What was checked. -/
  name : String
  /-- How the check ended. -/
  status : CheckStatus
  /-- What was found. -/
  details : String
  deriving DecidableEq

namespace Check

/-- A check that could not be made. -/
def skip (name reason : String) : Check := ⟨name, .skipped, "skipped because " ++ reason⟩

/-- The check as a record. -/
def toJson (check : Check) : Json :=
  .object [("name", .string check.name), ("status", .string check.status.name),
    ("details", .string check.details)]

/-- The line of a check. -/
def line (check : Check) : String :=
  "- [" ++ check.status.mark ++ "] " ++ check.name ++ ": " ++ check.details

end Check

/-- The checks of a host. -/
structure Readiness where
  /-- The checks in order. -/
  checks : List Check
  deriving DecidableEq

namespace Readiness

/-- Whether every check passes. -/
def isReady (readiness : Readiness) : Bool :=
  readiness.checks.all fun check => check.status == .pass

/-- The outcome of all checks together. -/
def status (readiness : Readiness) : CheckStatus := if readiness.isReady then .pass else .fail

/-- The outcome of all checks together in words. -/
def summary (readiness : Readiness) : String :=
  if readiness.isReady then "doctor: all readiness checks passed"
  else "doctor: one or more readiness checks failed"

/-- The report as a record. -/
def toJson (readiness : Readiness) : Json :=
  .object [("overall_status", .string readiness.status.name),
    ("summary", .string readiness.summary),
    ("checks", .array (readiness.checks.map Check.toJson))]

/-- The lines of the report. -/
def lines (readiness : Readiness) : List String :=
  readiness.summary :: readiness.checks.map Check.line

end Readiness

/-! ## The checks -/

/-- The check of what is saved under a key. -/
def SavedState.check (key : String) : SavedState → Check
  | absent => ⟨"saved_state", .pass, "no state saved under `" ++ key ++ "` yet"⟩
  | saved tracker =>
    ⟨"saved_state", .pass,
      "`" ++ key ++ "` holds " ++ toString tracker.items.length ++ " items and " ++
        toString tracker.feed.entries.length ++ " activity entries"⟩
  | undecodable text fault =>
    ⟨"saved_state", .fail,
      "`" ++ key ++ "` is not valid workflow state and will be ignored: " ++
        fault.describe text⟩
  | unreadable (.database reason) =>
    ⟨"saved_state", .fail,
      "could not read saved state (" ++ reason ++
        "); run `q2d migrate` if the schema is missing"⟩
  | unreadable error => ⟨"saved_state", .fail, error.message⟩

/-- The check of who may sign in. -/
def Accounts.check (accounts : Accounts) : Check :=
  ⟨"login_mode", .pass,
    if accounts.allowAny then
      "open login: any non-empty credentials sign in with the user role"
    else
      "restricted login: only `" ++ accounts.adminUsername ++ "` and `" ++
        accounts.userUsername ++ "` may sign in"⟩

namespace Readiness

/-- The check of settings that load. -/
def loaded : Check := ⟨"config_validation", .pass, "configuration loaded and validated"⟩

/-- The checks of a host whose settings do not load. -/
def withoutSettings (error : SettingsError) : Readiness :=
  let reason := "configuration did not load"
  ⟨[⟨"config_validation", .fail, error.message⟩, .skip "login_mode" reason,
    .skip "database_connectivity" reason, .skip "saved_state" reason]⟩

/-- The checks of the storage when the database cannot be opened. -/
def withoutDatabase (fault : ConnectionFault) : List Check :=
  [⟨"database_connectivity", .fail, "failed to connect to database: " ++ fault.message⟩,
    .skip "saved_state" "the database is unreachable"]

/-- The checks of the storage when the database is open. -/
def withDatabase (settings : Settings) (loaded : Except StorageError (Option String)) :
    List Check :=
  [⟨"database_connectivity", .pass, "connected using `" ++ settings.databaseUrl ++ "`"⟩,
    (SavedState.ofLoaded loaded).check settings.stateKey]

end Readiness

namespace Host

/-- The checks of the storage, which open the database and so leave one behind. -/
def checkStorage (host : Host) (settings : Settings) : List Check × Host :=
  match host.connect settings.databaseUrl with
  | .error fault => (Readiness.withoutDatabase fault, host)
  | .ok (location, connection) =>
    (Readiness.withDatabase settings (Backing.load connection settings.stateKey).1,
      host.keep location connection.database)

/-- The checks of a host. -/
def readiness (host : Host) : Readiness × Host :=
  match host.settings with
  | .error error => (.withoutSettings error, host)
  | .ok settings =>
    let (storage, host) := host.checkStorage settings
    (⟨Readiness.loaded :: settings.accounts.check :: storage⟩, host)

end Host

end OrderPipeline
