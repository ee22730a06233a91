import OrderPipeline.Access
import OrderPipeline.Number.DecimalReader
import OrderPipeline.Number.Whole
import OrderPipeline.Toml.Value

/-!
# Settings

The eleven settings with their names, their values and the ways in which a value is written: in a
configuration file (`Setting.ofFile?`) and in an environment variable (`Setting.ofVariable?`).
`Settings` gives every setting a value, a `Partial` assignment only some of them; `Partial.or`
puts one assignment before another.
-/

namespace OrderPipeline

/-- How log lines are written. -/
inductive LogFormat where
  /-- On one line. -/
  | compact
  /-- On several lines. -/
  | pretty
  /-- As JSON. -/
  | json
  deriving DecidableEq

namespace LogFormat

/-- The name of a format. -/
def name : LogFormat → String
  | compact => "compact"
  | pretty => "pretty"
  | json => "json"

/-- The formats by their names. -/
def byName : List (String × LogFormat) :=
  [("compact", compact), ("pretty", pretty), ("json", json)]

/-- The format that a text names; blanks around it and the case of ASCII letters do not matter. The
text that is no format is given back as it was compared. -/
def ofText (text : String) : Except String LogFormat :=
  let wanted := Text.lowerAscii (Text.trim text)
  match byName.lookup wanted with
  | some format => .ok format
  | none => .error wanted

end LogFormat

/-- The settings, in the order in which they are listed. -/
inductive Setting where
  /-- Where the database is. -/
  | databaseUrl
  /-- How many connections to the database may be open. -/
  | maxConnections
  /-- How many seconds to wait for a connection. -/
  | timeoutSeconds
  /-- Under which key the tracker is saved. -/
  | stateKey
  /-- The name of the administrator. -/
  | adminUsername
  /-- The password of the administrator. -/
  | adminPassword
  /-- The name of the user account. -/
  | userUsername
  /-- The password of the user account. -/
  | userPassword
  /-- Whether anyone may sign in. -/
  | allowAny
  /-- Which log lines are written. -/
  | logLevel
  /-- How log lines are written. -/
  | logFormat
  deriving DecidableEq

namespace Setting

/-- The settings in order. -/
def all : List Setting :=
  [databaseUrl, maxConnections, timeoutSeconds, stateKey, adminUsername, adminPassword,
    userUsername, userPassword, allowAny, logLevel, logFormat]

@[simp] theorem mem_all (setting : Setting) : setting ∈ all := by cases setting <;> decide

/-- The sections of a configuration file. -/
def sections : List String := ["storage", "auth", "logging"]

/-- The section that holds a setting. -/
def sectionName : Setting → String
  | databaseUrl | maxConnections | timeoutSeconds | stateKey => "storage"
  | adminUsername | adminPassword | userUsername | userPassword | allowAny => "auth"
  | logLevel | logFormat => "logging"

/-- The name of a setting in its section. -/
def key : Setting → String
  | databaseUrl => "database_url"
  | maxConnections => "max_connections"
  | timeoutSeconds => "timeout_secs"
  | stateKey => "state_key"
  | adminUsername => "admin_username"
  | adminPassword => "admin_password"
  | userUsername => "user_username"
  | userPassword => "user_password"
  | allowAny => "allow_any_credentials"
  | logLevel => "level"
  | logFormat => "format"

/-- The full name of a setting. -/
def path (setting : Setting) : String := setting.sectionName ++ "." ++ setting.key

/-- The settings of a section in order. -/
def inSection (name : String) : List Setting :=
  all.filter fun setting => setting.sectionName == name

/-- The names of the variables that can hold a setting, the one that counts first in front. -/
def variableNames : Setting → List String
  | databaseUrl => ["Q2D_STORAGE_DATABASE_URL", "Q2D_DATABASE_URL"]
  | maxConnections => ["Q2D_STORAGE_MAX_CONNECTIONS"]
  | timeoutSeconds => ["Q2D_STORAGE_TIMEOUT_SECS"]
  | stateKey => ["Q2D_STORAGE_STATE_KEY"]
  | adminUsername => ["Q2D_AUTH_ADMIN_USERNAME"]
  | adminPassword => ["Q2D_AUTH_ADMIN_PASSWORD"]
  | userUsername => ["Q2D_AUTH_USER_USERNAME"]
  | userPassword => ["Q2D_AUTH_USER_PASSWORD"]
  | allowAny => ["Q2D_AUTH_ALLOW_ANY_CREDENTIALS"]
  | logLevel => ["Q2D_LOGGING_LEVEL", "Q2D_LOG_LEVEL"]
  | logFormat => ["Q2D_LOGGING_FORMAT", "Q2D_LOG_FORMAT"]

/-- The values of a setting. -/
abbrev Value : Setting → Type
  | databaseUrl | stateKey | adminUsername | adminPassword | userUsername | userPassword
  | logLevel => String
  | maxConnections => UInt32
  | timeoutSeconds => UInt64
  | allowAny => Bool
  | logFormat => LogFormat

/-- The value of a setting that nothing else gives a value. -/
def default : (setting : Setting) → setting.Value
  | databaseUrl => "sqlite://q2d.db"
  | maxConnections => (5 : UInt32)
  | timeoutSeconds => (30 : UInt64)
  | stateKey => "q2d.workflow_state.v1"
  | adminUsername => "admin"
  | adminPassword => ""
  | userUsername => "user"
  | userPassword => ""
  | allowAny => true
  | logLevel => "info"
  | logFormat => LogFormat.compact

/-- The text of a value as it is listed; passwords are not shown. -/
def shown : (setting : Setting) → setting.Value → String
  | adminPassword, value | userPassword, value =>
    if (value : String).isEmpty then "<empty>" else "<redacted>"
  | maxConnections, value => toString (UInt32.toNat value)
  | timeoutSeconds, value => toString (UInt64.toNat value)
  | allowAny, value => toString (show Bool from value)
  | logFormat, value => LogFormat.name value
  | databaseUrl, value | stateKey, value | adminUsername, value | userUsername, value
  | logLevel, value => value

/-! ## Values in files -/

/-- A text in a file. -/
def textOfFile? : Toml.Value → Option String
  | .string text => some text
  | _ => none

/-- A whole number below a limit in a file. -/
def numberOfFile? (limit : Nat) : Toml.Value → Option (Fin limit)
  | .integer n => below? limit n
  | _ => none

/-- A truth value in a file. -/
def flagOfFile? : Toml.Value → Option Bool
  | .boolean value => some value
  | _ => none

/-- A format in a file: its exact name, or a table with the name over an empty collection. -/
def formatOfFile? : Toml.Value → Option LogFormat
  | .string text => LogFormat.byName.lookup text
  | .table [(name, value)] =>
    if value.isEmptyCollection then LogFormat.byName.lookup name else none
  | _ => none

/-- The value that a file gives a setting, if it is of the right kind. -/
def ofFile? : (setting : Setting) → Toml.Value → Option setting.Value
  | databaseUrl, value | stateKey, value | adminUsername, value | adminPassword, value
  | userUsername, value | userPassword, value | logLevel, value => textOfFile? value
  | maxConnections, value => (numberOfFile? UInt32.size value).map UInt32.ofFin
  | timeoutSeconds, value => (numberOfFile? UInt64.size value).map UInt64.ofFin
  | allowAny, value => flagOfFile? value
  | logFormat, value => formatOfFile? value

/-! ## Values in variables -/

/-- A whole number below a limit in a variable. -/
def numberOfText? (limit : Nat) (text : String) : Option (Fin limit) :=
  (unsigned? text.toList).bind fun n => below? limit n

/-- A truth value in a variable. -/
def flagOfText? (text : String) : Option Bool :=
  if text = "true" then some true else if text = "false" then some false else none

/-- The value that a variable gives a setting, if it can be read. -/
def ofVariable? : (setting : Setting) → String → Option setting.Value
  | databaseUrl, text | stateKey, text | adminUsername, text | adminPassword, text
  | userUsername, text | userPassword, text | logLevel, text => some text
  | maxConnections, text => (numberOfText? UInt32.size text).map UInt32.ofFin
  | timeoutSeconds, text => (numberOfText? UInt64.size text).map UInt64.ofFin
  | allowAny, text => flagOfText? text
  | logFormat, text => (LogFormat.ofText text).toOption

end Setting

/-! ## Assignments -/

/-- Values for some of the settings. -/
abbrev Partial := (setting : Setting) → Option setting.Value

namespace Partial

/-- No values. -/
def none : Partial := fun _ => Option.none

/-- The first assignment, and the second where the first gives no value. -/
protected def or (first second : Partial) : Partial := fun setting =>
  (first setting).or (second setting)

/-- The assignment with one more value. -/
def set (assignment : Partial) (setting : Setting) (value : setting.Value) : Partial :=
  fun other => if h : setting = other then some (h ▸ value) else assignment other

@[simp] theorem none_or (second : Partial) : none.or second = second := by
  funext setting
  simp [Partial.or, none]

protected theorem or_assoc (first second third : Partial) :
    (first.or second).or third = first.or (second.or third) := by
  funext setting
  simp [Partial.or, Option.or_assoc]

end Partial

/-- Values for all settings. -/
structure Settings where
  /-- The value of a setting. -/
  value : (setting : Setting) → setting.Value

namespace Settings

/-- The settings of an assignment, completed by the defaults. -/
def complete (assignment : Partial) : Settings :=
  ⟨fun setting => (assignment setting).getD setting.default⟩

/-- Where the database is. -/
def databaseUrl (settings : Settings) : String := settings.value .databaseUrl

/-- Under which key the tracker is saved. -/
def stateKey (settings : Settings) : String := settings.value .stateKey

/-- The accounts that may sign in. -/
def accounts (settings : Settings) : Accounts where
  adminUsername := settings.value .adminUsername
  adminPassword := settings.value .adminPassword
  userUsername := settings.value .userUsername
  userPassword := settings.value .userPassword
  allowAny := settings.value .allowAny

end Settings

end OrderPipeline
