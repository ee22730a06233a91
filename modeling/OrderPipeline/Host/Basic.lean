import OrderPipeline.Host.FileTree
import OrderPipeline.Settings.Load
import OrderPipeline.Storage.Connection
import OrderPipeline.Storage.Location

/-!
# The host of a command

A `Host` is what a command finds around it: environment variables, files, and databases that were
left there before. `Host.connect` opens the database at an address and `Host.keep` leaves it behind;
what was kept is found again (`databaseAt_keep`).
-/

namespace OrderPipeline

/-- What a command finds around it. -/
structure Host where
  /-- The environment variables. -/
  environment : Environment
  /-- The files other than databases. -/
  files : FileTree := {}
  /-- The databases under the names of their places. -/
  databases : List (String × Database) := []

/-- Why a database cannot be opened. -/
inductive ConnectionFault where
  /-- The address cannot be read. -/
  | address (fault : LocationFault)
  /-- There can be no file at the place. -/
  | cannotOpen
  /-- The file at the place is no database. -/
  | noDatabase
  deriving DecidableEq

/-- What is said about a database that cannot be opened. -/
def ConnectionFault.message : ConnectionFault → String
  | address fault => "error with configuration: " ++ fault.message
  | cannotOpen => "error returned from database: (code: 14) unable to open database file"
  | noDatabase => "pool timed out while waiting for an open connection"

namespace Host

/-- The settings of a host. -/
def settings (host : Host) : Except SettingsError Settings :=
  Settings.load host.files host.environment {}

/-- The name of a place. -/
def placeName (place : List String) : String := "/".intercalate place

/-- The database at a place where none was left before. An empty file counts as a database. -/
def newDatabase (host : Host) (place : List String) (readOnly : Bool) :
    Except ConnectionFault Database :=
  match host.files.at? place with
  | none =>
    if !readOnly && host.files.isInDirectory place then .ok {} else .error .cannotOpen
  | some .directory => .error .cannotOpen
  | some (.text text) => if !readOnly && text.isEmpty then .ok {} else .error .noDatabase
  | some .binary => .error .noDatabase

/-- The database at a location. -/
def databaseAt (host : Host) (location : Location) : Except ConnectionFault Database :=
  match location.path with
  | none => .ok {}
  | some path =>
    match FileTree.place? path with
    | none => .error .cannotOpen
    | some place =>
      match host.databases.lookup (placeName place) with
      | some database => .ok database
      | none => host.newDatabase place location.readOnly

/-- Opens the database at an address. -/
def connect (host : Host) (address : String) :
    Except ConnectionFault (Location × Connection) := do
  let location ← (Location.ofAddress address).mapError .address
  return (location, ⟨← host.databaseAt location, location.readOnly⟩)

/-- The host with a database left at a location. -/
def keep (host : Host) (location : Location) (database : Database) : Host :=
  match location.path.bind FileTree.place? with
  | none => host
  | some place =>
    { host with databases := Keyed.insert (placeName place) database host.databases }

@[simp] theorem settings_keep (host : Host) (location : Location) (database : Database) :
    (host.keep location database).settings = host.settings := by
  unfold keep
  split <;> rfl

/-- A database that was left at a place is found there. -/
theorem databaseAt_keep (host : Host) (location : Location) (database : Database)
    {path : String} (inFile : location.path = some path) {place : List String}
    (reached : FileTree.place? path = some place) :
    (host.keep location database).databaseAt location = .ok database := by
  simp [keep, databaseAt, inFile, reached]

end Host

end OrderPipeline
