import OrderPipeline.Host.FileTree
import OrderPipeline.Settings.Interpolation
import OrderPipeline.Settings.Setting
import OrderPipeline.Toml.Document

/-!
# Loading the settings

Every setting has the value that is demanded for it, or else that of its environment variable, or
else that of the configuration file, or else its default. The file is read first, the environment
next, and at last the whole is checked; the first fault that is met is the one that is reported.
-/

namespace OrderPipeline

/-- The rules that settings may break. -/
inductive Violation where
  /-- The database is not named as a database file or as one in memory. -/
  | databaseUrl
  /-- There are no connections. -/
  | maxConnections
  /-- The time to wait is none or more than five minutes. -/
  | timeout
  /-- The key is blank. -/
  | stateKey
  /-- The name of an account is blank. -/
  | blankUsername
  /-- Both accounts have the same name. -/
  | sameUsername
  /-- Nobody could sign in. -/
  | lockedOut
  /-- The level of log lines is unknown. -/
  | logLevel
  deriving DecidableEq

namespace Violation

/-- The rules in the order in which they are checked. -/
def all : List Violation :=
  [databaseUrl, maxConnections, timeout, stateKey, blankUsername, sameUsername, lockedOut, logLevel]

/-- What is said about a broken rule. -/
def message : Violation → String
  | databaseUrl =>
    "storage.database_url must be a sqlite URL (`sqlite://...`, `sqlite::...`, or `:memory:`)"
  | maxConnections => "storage.max_connections must be greater than zero"
  | timeout => "storage.timeout_secs must be in range 1..=300"
  | stateKey => "storage.state_key must not be empty"
  | blankUsername => "auth.admin_username and auth.user_username must not be empty"
  | sameUsername => "auth.admin_username and auth.user_username must differ"
  | lockedOut =>
    "auth.allow_any_credentials is false but neither auth.admin_password nor " ++
      "auth.user_password is set, so nobody could log in"
  | logLevel => "logging.level must be one of trace|debug|info|warn|error"

/-- Whether settings break a rule. -/
def isIn (settings : Settings) : Violation → Bool
  | databaseUrl =>
    let url := Text.trim (settings.value .databaseUrl)
    !(url.startsWith "sqlite://" || url.startsWith "sqlite::" || url == ":memory:")
  | maxConnections => settings.value .maxConnections == (0 : UInt32)
  | timeout =>
    settings.value .timeoutSeconds == (0 : UInt64) ||
      decide ((300 : UInt64) < settings.value .timeoutSeconds)
  | stateKey => Text.blank (settings.value .stateKey)
  | blankUsername =>
    Text.blank (settings.value .adminUsername) || Text.blank (settings.value .userUsername)
  | sameUsername =>
    (settings.value .adminUsername : String) == settings.value .userUsername
  | lockedOut =>
    !(settings.value .allowAny : Bool) && (settings.value .adminPassword : String).isEmpty &&
      (settings.value .userPassword : String).isEmpty
  | logLevel =>
    let level := Text.lowerAscii (Text.trim (settings.value .logLevel))
    !(["trace", "debug", "info", "warn", "error"].contains level)

end Violation

/-- Why settings cannot be loaded. -/
inductive SettingsError where
  /-- The file cannot be read. -/
  | unreadableFile (path reason : String)
  /-- The file is no configuration file. -/
  | malformedFile (path : String)
  /-- The file that is needed is not there. -/
  | missingFile (path : String)
  /-- The expressions of the file cannot be replaced. -/
  | interpolation (fault : InterpolationFault)
  /-- An environment variable cannot be read. -/
  | invalidVariable (name value : String)
  /-- An environment variable names an unknown format. -/
  | unknownFormat (name : String)
  /-- A rule is broken. -/
  | invalid (violation : Violation)
  deriving DecidableEq

/-- The text of an error. -/
def SettingsError.message : SettingsError → String
  | unreadableFile path reason => "could not read config file `" ++ path ++ "`: " ++ reason
  | malformedFile path =>
    "could not parse config file `" ++ path ++ "`: not a valid configuration"
  | missingFile path => "required config file was not found: `" ++ path ++ "`"
  | interpolation fault => fault.message
  | invalidVariable name value =>
    "invalid environment override for `" ++ name ++ "`: `" ++ value ++ "`"
  | unknownFormat name =>
    "configuration validation failed: unsupported log format `" ++ name ++
      "` (expected compact|pretty|json)"
  | invalid violation => "configuration validation failed: " ++ violation.message

/-! ## The file -/

namespace Partial

/-- The values that a section gives to some settings, from the names and values of its entries. -/
def ofEntries? (entries : List (String × Toml.Value)) : List Setting → Option Partial
  | [] => some none
  | setting :: rest => do
    let others ← ofEntries? entries rest
    match entries.lookup setting.key with
    | Option.none => return others
    | some value => return others.set setting (← setting.ofFile? value)

/-- The values that a section written as a list gives to some settings in order. -/
def ofItems? : List Setting → List Toml.Value → Option Partial
  | [], _ => some none
  | _ :: _, [] => Option.none
  | setting :: settings, value :: values => do
    let others ← ofItems? settings values
    return others.set setting (← setting.ofFile? value)

/-- The values that a section gives to its settings. A date stands for a section without entries. -/
def ofSection? (settings : List Setting) : Toml.Value → Option Partial
  | .table entries => ofEntries? entries settings
  | .array items => ofItems? settings items
  | .datetime => some none
  | _ => Option.none

/-- The values that a file gives, if all of them are of the right kind. -/
def ofFile? (file : Toml.Value) : Option Partial :=
  Setting.sections.foldlM (fun values name =>
    match file.field? name with
    | Option.none => some values
    | some value => (ofSection? (Setting.inSection name) value).map values.or) none

/-- The values that the text of a file gives once its expressions are replaced. -/
def ofFileText (environment : Environment) (path text : String) : Except SettingsError Partial := do
  let text ← (interpolate environment text).mapError .interpolation
  match (Toml.ofText? text).bind ofFile? with
  | some values => return values
  | Option.none => throw (.malformedFile path)

end Partial

/-! ## The environment -/

namespace Setting

/-- The variable that gives a setting its value, with its text. -/
def effective? (environment : Environment) (setting : Setting) : Option (String × String) :=
  setting.variableNames.findSome? fun name =>
    (environment.effective name).map fun text => (name, text)

/-- The fault of a variable that cannot be read. -/
def variableFault (setting : Setting) (name text : String) : SettingsError :=
  match setting with
  | logFormat =>
    match LogFormat.ofText text with
    | .error wanted => .unknownFormat wanted
    | .ok _ => .invalidVariable name text
  | _ => .invalidVariable name text

/-- The value that the environment gives a setting. -/
def ofEnvironment (environment : Environment) (setting : Setting) :
    Except SettingsError (Option setting.Value) :=
  match setting.effective? environment with
  | none => .ok none
  | some (name, text) =>
    match setting.ofVariable? text with
    | some value => .ok (some value)
    | none => .error (setting.variableFault name text)

end Setting

/-- The values that the environment gives to some settings, read in order. -/
def Partial.ofVariables (environment : Environment) :
    List Setting → Except SettingsError Partial
  | [] => .ok none
  | setting :: rest => do
    let value ← setting.ofEnvironment environment
    let others ← ofVariables environment rest
    match value with
    | Option.none => return others
    | some value => return others.set setting value

/-! ## The whole -/

namespace Settings

/-- Where a configuration file is looked for. -/
def candidates : List String := ["q2d.toml", "config/q2d.toml"]

/-- The path of the configuration file: the one that is demanded, if it is there, or else the first
candidate that is. -/
def file? (files : FileTree) (demanded : Option String) : Option String :=
  match demanded with
  | some path => if (files.find? path).isSome then some path else none
  | none => candidates.find? fun path => (files.find? path).isSome

/-- The text of the file at a path. -/
def fileText (files : FileTree) (path : String) : Except SettingsError String :=
  match files.find? path with
  | some (.text text) => .ok text
  | some .binary => .error (.unreadableFile path "stream did not contain valid UTF-8")
  | some .directory => .error (.unreadableFile path "Is a directory (os error 21)")
  | none => .error (.unreadableFile path "No such file or directory (os error 2)")

/-- How settings are to be loaded. -/
structure Demands where
  /-- Which file is to be read. -/
  path : Option String := none
  /-- Whether there has to be a file. -/
  requireFile : Bool := false
  /-- The values that are demanded. -/
  values : Partial := Partial.none

/-- The values that the configuration file gives. -/
def fromFile (files : FileTree) (environment : Environment) (demands : Demands) :
    Except SettingsError Partial :=
  match file? files demands.path with
  | some path => do Partial.ofFileText environment path (← fileText files path)
  | none =>
    if demands.requireFile then .error (.missingFile (demands.path.getD "q2d.toml"))
    else .ok Partial.none

/-- The first rule that settings break. -/
def violation? (settings : Settings) : Option Violation :=
  Violation.all.find? fun violation => violation.isIn settings

/-- The settings, unless they break a rule. -/
def checked (settings : Settings) : Except SettingsError Settings :=
  match settings.violation? with
  | some violation => .error (.invalid violation)
  | none => .ok settings

/-- Loads the settings. -/
def load (files : FileTree) (environment : Environment) (demands : Demands) :
    Except SettingsError Settings := do
  let file ← fromFile files environment demands
  let given ← Partial.ofVariables environment Setting.all
  (complete (demands.values.or (given.or file))).checked

end Settings

end OrderPipeline
