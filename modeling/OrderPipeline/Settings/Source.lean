import OrderPipeline.Settings.Load

/-!
# Where settings come from

`Setting.source` names the first variable of a setting that is set, be it to a text or not, or else
the file if it has an entry for the setting, or else the default. The file is looked at as it is
written, before its expressions are replaced. `Settings.lines` lists all settings, each on a line
with its value and its source; passwords are not shown.
-/

namespace OrderPipeline

/-- Where the value of a setting comes from. -/
inductive Source where
  /-- From an environment variable. -/
  | environment (name : String)
  /-- From a file. -/
  | file (path : String)
  /-- From the defaults. -/
  | default
  deriving DecidableEq

/-- The text of a source. -/
def Source.text : Source → String
  | environment name => "env (" ++ name ++ ")"
  | file path => "file (" ++ path ++ ")"
  | default => "default"

namespace Setting

/-- Whether a file has an entry for a setting. -/
def isInFile (setting : Setting) (file : Toml.Value) : Bool :=
  ((file.field? setting.sectionName).bind fun values => values.field? setting.key).isSome

/-- Where a setting comes from, given the environment and the file with its path. -/
def source (setting : Setting) (environment : Environment) (file : Option (String × Toml.Value)) :
    Source :=
  match setting.variableNames.find? environment.isSet with
  | some name => .environment name
  | none =>
    match file with
    | some (path, value) => if setting.isInFile value then .file path else .default
    | none => .default

end Setting

/-- The configuration file as it is written, with its path, if there is one. -/
def Settings.writtenFile? (files : FileTree) : Option (String × Toml.Value) := do
  let path ← file? files none
  match files.find? path with
  | some (.text text) => return (path, ← Toml.ofText? text)
  | _ => none

/-! ## The settings in words -/

/-- The line of a setting. -/
def Setting.line (setting : Setting) (value : setting.Value) (source : Source) : String :=
  "- " ++ setting.path ++ " = " ++ setting.shown value ++ " (source: " ++ source.text ++ ")"

/-- The lines of the settings. -/
def Settings.lines (settings : Settings) (environment : Environment)
    (file : Option (String × Toml.Value)) : List String :=
  "effective config (source precedence: env > file > default):" ::
    Setting.all.map fun setting =>
      setting.line (settings.value setting) (setting.source environment file)

end OrderPipeline
