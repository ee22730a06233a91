import OrderPipeline.Proofs.Settings.FileValues
import OrderPipeline.Proofs.Settings.Rules

/-!
# Which layer a setting takes its value from

Four layers give values to settings: the demands, the variables, the configuration file and the
defaults. `Setting.Takes` says which of them counts for a setting. Loading can fail in three ways,
which `FileFault`, `VariableFault` and `RuleFault` describe.

* `Settings.load_eq_ok_iff` — settings load just if no layer fails; each then has the value of the
  first layer that gives it one, and all rules are kept.
* `Settings.load_eq_error_iff` — a fault of the file comes before one of a variable, and that
  before a broken rule.
* `Settings.load_of_binary` — a variable that is set to no text is as good as none.
* `Settings.load_of_blank` — so is a blank one, unless the file names it.
-/

namespace OrderPipeline

/-! ## Variables -/

/-- Whether a variable gives no value: it is not set, or to no text, or blank. -/
def Environment.IsIdle (environment : Environment) (name : String) : Prop :=
  ∀ text, environment.text? name = some text → Text.blank text = true

namespace Setting

/-- Whether a variable of a setting is the first one that is set and not blank, with its text. -/
structure Spelled (environment : Environment) (setting : Setting) (name text : String) : Prop where
  /-- All variables of the setting before it give no value. -/
  first : ∃ earlier later, setting.variableNames = earlier ++ name :: later ∧
    ∀ other ∈ earlier, environment.IsIdle other
  /-- The variable is set to the text. -/
  isSet : environment.text? name = some text
  /-- It is not blank. -/
  filled : Text.blank text = false

variable {environment : Environment} {setting : Setting} {name text : String}

/-- A variable that gives no value does not count. -/
theorem effective_eq_none_iff :
    environment.effective name = none ↔ environment.IsIdle name := by
  unfold Environment.effective Environment.IsIdle
  cases environment.text? name <;> simp

/-- A variable that counts is set and not blank. -/
theorem effective_eq_some_iff :
    environment.effective name = some text ↔
      environment.text? name = some text ∧ Text.blank text = false := by
  rw [Environment.effective, Option.filter_eq_some_iff, Bool.not_eq_true']

/-- The first variable that is set and not blank is the one that counts. -/
theorem effective?_eq_some_iff :
    setting.effective? environment = some (name, text) ↔
      setting.Spelled environment name text := by
  rw [effective?, List.findSome?_eq_some_iff]
  constructor
  · rintro ⟨earlier, found, later, split, counts, passed⟩
    obtain ⟨value, counts, same⟩ := Option.map_eq_some_iff.1 counts
    cases same
    obtain ⟨isSet, filled⟩ := effective_eq_some_iff.1 counts
    refine ⟨⟨earlier, later, split, fun other isIn => ?_⟩, isSet, filled⟩
    exact effective_eq_none_iff.1 (Option.map_eq_none_iff.1 (passed other isIn))
  · rintro ⟨⟨earlier, later, split, passed⟩, isSet, filled⟩
    refine ⟨earlier, name, later, split, ?_, fun other isIn => ?_⟩
    · rw [effective_eq_some_iff.2 ⟨isSet, filled⟩]
      rfl
    · rw [effective_eq_none_iff.2 (passed other isIn)]
      rfl

/-- No variable counts where none gives a value. -/
theorem effective?_eq_none_iff :
    setting.effective? environment = none ↔
      ∀ name ∈ setting.variableNames, environment.IsIdle name := by
  rw [effective?, List.findSome?_eq_none_iff]
  simp only [Option.map_eq_none_iff, effective_eq_none_iff]

end Setting

/-- The first setting whose variable cannot be read is the one that is reported. -/
theorem Partial.ofVariables_eq_error_iff {environment : Environment} {settings : List Setting}
    {fault : SettingsError} :
    ofVariables environment settings = .error fault ↔
      ∃ earlier setting later, settings = earlier ++ setting :: later ∧
        (∀ other ∈ earlier, ∃ value, other.ofEnvironment environment = .ok value) ∧
        setting.ofEnvironment environment = .error fault := by
  induction settings with
  | nil =>
    constructor
    · intro read
      cases read
    · rintro ⟨earlier, setting, later, split, -⟩
      simp at split
  | cons first rest ih =>
    cases asked : first.ofEnvironment environment with
    | error own =>
      have whole : ofVariables environment (first :: rest) = .error own := by
        rw [ofVariables, asked]
        rfl
      rw [whole]
      constructor
      · intro same
        cases same
        exact ⟨[], first, rest, rfl, by simp, asked⟩
      · rintro ⟨earlier, setting, later, split, passed, failed⟩
        cases earlier with
        | nil =>
          obtain ⟨rfl, -⟩ := List.cons.inj split
          rw [asked] at failed
          cases failed
          rfl
        | cons other earlier =>
          obtain ⟨rfl, -⟩ := List.cons.inj split
          obtain ⟨value, read⟩ := passed first List.mem_cons_self
          rw [asked] at read
          cases read
    | ok value =>
      have whole : ofVariables environment (first :: rest) = .error fault ↔
          ofVariables environment rest = .error fault := by
        rw [ofVariables, asked]
        cases done : ofVariables environment rest with
        | error other => exact Iff.rfl
        | ok others => cases value <;> exact Iff.intro (fun h => nomatch h) (fun h => nomatch h)
      rw [whole, ih]
      constructor
      · rintro ⟨earlier, setting, later, rfl, passed, failed⟩
        refine ⟨first :: earlier, setting, later, rfl, ?_, failed⟩
        rw [List.forall_mem_cons]
        exact ⟨⟨value, asked⟩, passed⟩
      · rintro ⟨earlier, setting, later, split, passed, failed⟩
        cases earlier with
        | nil =>
          obtain ⟨rfl, -⟩ := List.cons.inj split
          rw [asked] at failed
          cases failed
        | cons other earlier =>
          obtain ⟨-, rfl⟩ := List.cons.inj split
          exact ⟨earlier, setting, later, rfl, fun other isIn =>
            passed other (List.mem_cons_of_mem _ isIn), failed⟩

/-! ## The layers -/

/-- Which value a setting takes, from demands, variables and a file, if there is one. -/
inductive Setting.Takes (demands : Partial) (environment : Environment)
    (file : Option Toml.Value) (setting : Setting) : setting.Value → Prop
  /-- A value is demanded. -/
  | demanded {value : setting.Value} (isDemanded : demands setting = some value) :
    Takes demands environment file setting value
  /-- No value is demanded, and a variable has one. -/
  | spelled {name text : String} {value : setting.Value} (undemanded : demands setting = none)
    (spelled : setting.Spelled environment name text)
    (read : setting.ofVariable? text = some value) : Takes demands environment file setting value
  /-- No value is demanded, no variable has one, and the file does. -/
  | file {value : setting.Value} (undemanded : demands setting = none)
    (unspelled : ∀ name ∈ setting.variableNames, environment.IsIdle name)
    (given : file.bind setting.inFile? = some value) : Takes demands environment file setting value
  /-- Nothing gives a value. -/
  | default (undemanded : demands setting = none)
    (unspelled : ∀ name ∈ setting.variableNames, environment.IsIdle name)
    (ungiven : file.bind setting.inFile? = none) :
    Takes demands environment file setting setting.default

namespace Settings

/-- The faults of the configuration file, in the order in which they are met: the file cannot be
read, its expressions cannot be replaced, or what comes of that is no configuration. -/
inductive FileFault (files : FileTree) (environment : Environment) (demands : Demands) :
    SettingsError → Prop
  /-- There is no file, and there has to be one. -/
  | missing (absent : file? files demands.path = none) (needed : demands.requireFile = true) :
    FileFault files environment demands (.missingFile (demands.path.getD "q2d.toml"))
  /-- The file cannot be read. -/
  | unreadable {path : String} {fault : SettingsError}
    (found : file? files demands.path = some path) (unread : fileText files path = .error fault) :
    FileFault files environment demands fault
  /-- The expressions of the file cannot be replaced. -/
  | interpolation {path text : String} {fault : InterpolationFault}
    (found : file? files demands.path = some path) (read : fileText files path = .ok text)
    (unreplaced : interpolate environment text = .error fault) :
    FileFault files environment demands (.interpolation fault)
  /-- The file is no document, or a setting does not fit in it. -/
  | malformed {path text replaced : String} (found : file? files demands.path = some path)
    (read : fileText files path = .ok text)
    (replacing : interpolate environment text = .ok replaced)
    (unfit : ∀ document, Toml.ofText? replaced = some document →
      ∃ setting : Setting, ¬ setting.FitsIn document) :
    FileFault files environment demands (.malformedFile path)

/-- What the configuration file holds, if there is one. -/
inductive FileHolds (files : FileTree) (environment : Environment) (demands : Demands) :
    Option Toml.Value → Prop
  /-- There is no file, and there need not be one. -/
  | nothing (absent : file? files demands.path = none) (unneeded : demands.requireFile = false) :
    FileHolds files environment demands none
  /-- The file is a document once its expressions are replaced, and all settings fit in it. -/
  | document {path text replaced : String} {document : Toml.Value}
    (found : file? files demands.path = some path) (read : fileText files path = .ok text)
    (replacing : interpolate environment text = .ok replaced)
    (parsed : Toml.ofText? replaced = some document)
    (fits : ∀ setting : Setting, setting.FitsIn document) :
    FileHolds files environment demands (some document)

/-- The fault of the first setting whose variable cannot be read. -/
structure VariableFault (environment : Environment) (fault : SettingsError) : Prop where
  /-- The variables of the settings before it can be read, and its own cannot. -/
  first : ∃ earlier setting later name text, Setting.all = earlier ++ setting :: later ∧
    (∀ other ∈ earlier, ∀ name text, other.Spelled environment name text →
      ∃ value, other.ofVariable? text = some value) ∧
    setting.Spelled environment name text ∧ setting.ofVariable? text = none ∧
    fault = setting.variableFault name text

/-- Settings of which each has the value that it takes from the layers. -/
def Layered (files : FileTree) (environment : Environment) (demands : Demands)
    (settings : Settings) : Prop :=
  ∃ file, FileHolds files environment demands file ∧
    ∀ setting : Setting, setting.Takes demands.values environment file (settings.value setting)

/-- The fault of the first rule that the settings taken from the layers break. -/
structure RuleFault (files : FileTree) (environment : Environment) (demands : Demands)
    (fault : SettingsError) : Prop where
  /-- The rules before it are kept, and it is not. -/
  first : ∃ settings earlier violation later, Layered files environment demands settings ∧
    Violation.all = earlier ++ violation :: later ∧
    (∀ other ∈ earlier, other.Kept settings) ∧ ¬ violation.Kept settings ∧
    fault = .invalid violation

variable {files : FileTree} {environment : Environment} {demands : Demands}

/-- A fault of the file is the fault of its reading. -/
theorem FileFault.fromFile_eq {fault : SettingsError}
    (fails : FileFault files environment demands fault) :
    fromFile files environment demands = .error fault := by
  cases fails with
  | missing absent needed => simp [fromFile, absent, needed]
  | unreadable found unread => simp [fromFile, found, unread, bind, Except.bind]
  | interpolation found read unreplaced =>
    simp [fromFile, found, read, Partial.ofFileText, unreplaced, bind, Except.bind,
      Except.mapError]
  | @malformed path text replaced found read replacing unfit =>
    have nothing : (Toml.ofText? replaced).bind Partial.ofFile? = none := by
      refine Option.bind_eq_none_iff.2 fun document parsed => ?_
      obtain ⟨setting, unfit⟩ := unfit document parsed
      refine Option.eq_none_iff_forall_ne_some.2 fun values given => ?_
      exact unfit ((Partial.ofFile?_iff.1 given).1 setting)
    simp [fromFile, found, read, Partial.ofFileText, replacing, nothing, bind, Except.bind,
      Except.mapError, throw, throwThe, MonadExceptOf.throw]

/-- What the file holds is what its reading gives. -/
theorem FileHolds.fromFile_eq {file : Option Toml.Value}
    (held : FileHolds files environment demands file) :
    fromFile files environment demands = .ok fun setting => file.bind setting.inFile? := by
  cases held with
  | nothing absent unneeded =>
    simp [fromFile, absent, unneeded]
    rfl
  | document found read replacing parsed fits =>
    have given := Partial.ofFile?_iff.2 ⟨fits, fun setting => rfl⟩
    simp [fromFile, found, read, Partial.ofFileText, replacing, parsed, given, bind, Except.bind,
      Except.mapError, pure, Except.pure]

/-- The file has a fault, or holds something. -/
theorem exists_fault_or_held (files : FileTree) (environment : Environment) (demands : Demands) :
    (∃ fault, FileFault files environment demands fault) ∨
      ∃ file, FileHolds files environment demands file := by
  cases found : file? files demands.path with
  | none =>
    cases needed : demands.requireFile with
    | true => exact .inl ⟨_, .missing found needed⟩
    | false => exact .inr ⟨_, .nothing found needed⟩
  | some path =>
    cases read : fileText files path with
    | error fault => exact .inl ⟨_, .unreadable found read⟩
    | ok text =>
      cases replacing : interpolate environment text with
      | error fault => exact .inl ⟨_, .interpolation found read replacing⟩
      | ok replaced =>
        by_cases fits : ∃ document, Toml.ofText? replaced = some document ∧
            ∀ setting : Setting, setting.FitsIn document
        · obtain ⟨document, parsed, fits⟩ := fits
          exact .inr ⟨_, .document found read replacing parsed fits⟩
        · refine .inl ⟨_, .malformed found read replacing fun document parsed => ?_⟩
          by_contra fit
          exact fits ⟨document, parsed, fun setting => by_contra fun unfit => fit ⟨setting, unfit⟩⟩

/-- What the file gives is what stands in the places of the settings in it. -/
theorem fromFile_eq_ok_iff {values : Partial} :
    fromFile files environment demands = .ok values ↔
      ∃ file, FileHolds files environment demands file ∧
        ∀ setting : Setting, file.bind setting.inFile? = values setting := by
  constructor
  · intro done
    rcases exists_fault_or_held files environment demands with ⟨fault, fails⟩ | ⟨file, held⟩
    · exact absurd (fails.fromFile_eq.symm.trans done) (by simp)
    · exact ⟨file, held, fun setting =>
        congrFun (Except.ok.inj (held.fromFile_eq.symm.trans done)) setting⟩
  · rintro ⟨file, held, given⟩
    rw [held.fromFile_eq, funext given]

/-- The file fails with the first fault that is met in it. -/
theorem fromFile_eq_error_iff {fault : SettingsError} :
    fromFile files environment demands = .error fault ↔
      FileFault files environment demands fault := by
  refine ⟨fun done => ?_, FileFault.fromFile_eq⟩
  rcases exists_fault_or_held files environment demands with ⟨other, fails⟩ | ⟨file, held⟩
  · rwa [Except.error.inj (done.symm.trans fails.fromFile_eq)]
  · exact absurd (held.fromFile_eq.symm.trans done) (by simp)

end Settings

/-! ## The variables -/

namespace Setting

variable {environment : Environment} {setting : Setting}

/-- What the environment gives a setting is what its variable reads as. -/
theorem Spelled.ofEnvironment_eq {name text : String}
    (spelled : setting.Spelled environment name text) :
    setting.ofEnvironment environment =
      match setting.ofVariable? text with
      | some value => .ok (some value)
      | none => .error (setting.variableFault name text) := by
  have taken := effective?_eq_some_iff.2 spelled
  cases read : setting.ofVariable? text <;> simp only [ofEnvironment, taken, read]

/-- A setting with idle variables only gets nothing from the environment. -/
theorem ofEnvironment_of_idle
    (unspelled : ∀ name ∈ setting.variableNames, environment.IsIdle name) :
    setting.ofEnvironment environment = .ok none := by
  rw [ofEnvironment, effective?_eq_none_iff.2 unspelled]

/-- A setting has a variable that counts, or idle ones only. -/
theorem exists_spelled_or_idle (setting : Setting) (environment : Environment) :
    (∃ name text, setting.Spelled environment name text) ∨
      ∀ name ∈ setting.variableNames, environment.IsIdle name := by
  cases taken : setting.effective? environment with
  | none => exact .inr (effective?_eq_none_iff.1 taken)
  | some counting => exact .inl ⟨counting.1, counting.2, effective?_eq_some_iff.1 taken⟩

/-- The environment gives a setting something just if the variable that counts can be read. -/
theorem exists_ofEnvironment_iff :
    (∃ value, setting.ofEnvironment environment = .ok value) ↔
      ∀ name text, setting.Spelled environment name text →
        ∃ value, setting.ofVariable? text = some value := by
  constructor
  · rintro ⟨value, asked⟩ name text spelled
    rw [spelled.ofEnvironment_eq] at asked
    cases read : setting.ofVariable? text with
    | none =>
      rw [read] at asked
      cases asked
    | some value => exact ⟨value, rfl⟩
  · intro readable
    rcases setting.exists_spelled_or_idle environment with ⟨name, text, spelled⟩ | unspelled
    · obtain ⟨value, read⟩ := readable name text spelled
      exact ⟨some value, by rw [spelled.ofEnvironment_eq, read]⟩
    · exact ⟨none, ofEnvironment_of_idle unspelled⟩

/-- The environment fails at a setting just if the variable that counts cannot be read. -/
theorem ofEnvironment_eq_error_iff {fault : SettingsError} :
    setting.ofEnvironment environment = .error fault ↔
      ∃ name text, setting.Spelled environment name text ∧ setting.ofVariable? text = none ∧
        fault = setting.variableFault name text := by
  constructor
  · intro failed
    rcases setting.exists_spelled_or_idle environment with ⟨name, text, spelled⟩ | unspelled
    · rw [spelled.ofEnvironment_eq] at failed
      cases read : setting.ofVariable? text with
      | none =>
        rw [read] at failed
        exact ⟨name, text, spelled, read, (Except.error.inj failed).symm⟩
      | some value =>
        rw [read] at failed
        cases failed
    · rw [ofEnvironment_of_idle unspelled] at failed
      cases failed
  · rintro ⟨name, text, spelled, unread, rfl⟩
    rw [spelled.ofEnvironment_eq, unread]

/-- A setting takes the first value that the layers give it. -/
theorem takes_iff {demands given : Partial} {file : Option Toml.Value} {value : setting.Value}
    (asked : setting.ofEnvironment environment = .ok (given setting)) :
    setting.Takes demands environment file value ↔
      ((demands setting).or ((given setting).or (file.bind setting.inFile?))).getD
        setting.default = value := by
  constructor
  · rintro (isDemanded | ⟨undemanded, spelled, read⟩ | ⟨undemanded, unspelled, inFile⟩ |
      ⟨undemanded, unspelled, ungiven⟩)
    · simp [isDemanded]
    · rw [spelled.ofEnvironment_eq, read] at asked
      simp [undemanded, ← Except.ok.inj asked]
    · rw [ofEnvironment_of_idle unspelled] at asked
      simp [undemanded, ← Except.ok.inj asked, inFile]
    · rw [ofEnvironment_of_idle unspelled] at asked
      simp [undemanded, ← Except.ok.inj asked, ungiven]
  · rintro rfl
    cases demanded : demands setting with
    | some value => exact .demanded demanded
    | none =>
      rcases setting.exists_spelled_or_idle environment with ⟨name, text, spelled⟩ | unspelled
      · obtain ⟨value, read⟩ := exists_ofEnvironment_iff.1 ⟨_, asked⟩ name text spelled
        rw [spelled.ofEnvironment_eq, read] at asked
        rw [← Except.ok.inj asked]
        exact .spelled demanded spelled read
      · rw [ofEnvironment_of_idle unspelled] at asked
        rw [← Except.ok.inj asked]
        cases inFile : file.bind setting.inFile? with
        | some value => exact .file demanded unspelled inFile
        | none => exact .default demanded unspelled inFile

end Setting

namespace Settings

variable {files : FileTree} {environment : Environment} {demands : Demands}
  {settings : Settings}

/-- The environment fails with the first fault that is met in it. -/
theorem ofVariables_eq_error_iff {fault : SettingsError} :
    Partial.ofVariables environment Setting.all = .error fault ↔
      VariableFault environment fault := by
  rw [Partial.ofVariables_eq_error_iff]
  simp only [Setting.exists_ofEnvironment_iff, Setting.ofEnvironment_eq_error_iff]
  constructor
  · rintro ⟨earlier, setting, later, split, passed, name, text, failed⟩
    exact ⟨earlier, setting, later, name, text, split, passed, failed⟩
  · rintro ⟨earlier, setting, later, name, text, split, passed, failed⟩
    exact ⟨earlier, setting, later, split, passed, name, text, failed⟩

/-- The environment has a fault, or gives values to settings. -/
theorem exists_fault_or_given (environment : Environment) :
    (∃ fault, VariableFault environment fault) ∨
      ∃ given, Partial.ofVariables environment Setting.all = .ok given := by
  cases asked : Partial.ofVariables environment Setting.all with
  | error fault => exact .inl ⟨fault, ofVariables_eq_error_iff.1 asked⟩
  | ok given => exact .inr ⟨given, rfl⟩

/-- Where the environment has no fault, the values of the layers are those that are put together. -/
theorem layered_iff {given : Partial}
    (asked : Partial.ofVariables environment Setting.all = .ok given) :
    Layered files environment demands settings ↔
      ∃ values, fromFile files environment demands = .ok values ∧
        complete (demands.values.or (given.or values)) = settings := by
  have own (setting : Setting) : setting.ofEnvironment environment = .ok (given setting) := by
    have there := Partial.ofVariables_eq_ok asked setting
    rwa [if_pos setting.mem_all] at there
  constructor
  · rintro ⟨file, held, takes⟩
    refine ⟨_, held.fromFile_eq, ?_⟩
    have same : (complete (demands.values.or (given.or fun setting =>
        file.bind setting.inFile?))).value = settings.value :=
      funext fun setting => (Setting.takes_iff (own setting)).1 (takes setting)
    exact congrArg Settings.mk same
  · rintro ⟨values, read, rfl⟩
    obtain ⟨file, held, there⟩ := fromFile_eq_ok_iff.1 read
    refine ⟨file, held, fun setting => (Setting.takes_iff (own setting)).2 ?_⟩
    rw [there setting]
    rfl

/-- Settings that are checked come back as they are when they keep all rules. -/
theorem checked_eq_ok_iff {result : Settings} :
    settings.checked = .ok result ↔
      settings = result ∧ ∀ violation : Violation, violation.Kept settings := by
  rw [← violation?_eq_none_iff, checked]
  cases settings.violation? <;> simp

/-- Settings fail with the first rule that they break. -/
theorem checked_eq_error_iff {fault : SettingsError} :
    settings.checked = .error fault ↔
      ∃ earlier violation later, Violation.all = earlier ++ violation :: later ∧
        (∀ other ∈ earlier, other.Kept settings) ∧ ¬ violation.Kept settings ∧
        fault = .invalid violation := by
  have failed : settings.checked = .error fault ↔
      ∃ violation, settings.violation? = some violation ∧ fault = .invalid violation := by
    rw [checked]
    cases settings.violation? <;> simp [eq_comm]
  have met (violation : Violation) :
      violation.isIn settings = true ↔ ¬ violation.Kept settings := by
    rw [← Violation.isIn_eq_false_iff, Bool.not_eq_false]
  rw [failed]
  simp only [violation?, List.find?_eq_some_iff_append, Bool.not_eq_true',
    Violation.isIn_eq_false_iff, met, and_assoc]
  constructor
  · rintro ⟨violation, broken, ⟨earlier, later, split, kept⟩, same⟩
    exact ⟨earlier, violation, later, split, kept, broken, same⟩
  · rintro ⟨earlier, violation, later, split, kept, broken, same⟩
    exact ⟨violation, broken, ⟨earlier, later, split, kept⟩, same⟩

/-- What is loaded is checked once the file and the variables are read. -/
theorem load_eq {values given : Partial} (read : fromFile files environment demands = .ok values)
    (asked : Partial.ofVariables environment Setting.all = .ok given) :
    load files environment demands =
      (complete (demands.values.or (given.or values))).checked := by
  simp only [load, read, asked, bind, Except.bind]

/-- Settings load just if neither the file nor a variable has a fault and the values of the layers
keep all rules. -/
theorem load_eq_ok_iff :
    load files environment demands = .ok settings ↔
      (∀ fault, ¬ VariableFault environment fault) ∧
        Layered files environment demands settings ∧
          ∀ violation : Violation, violation.Kept settings := by
  rcases exists_fault_or_given environment with ⟨fault, fails⟩ | ⟨given, asked⟩
  · refine iff_of_false (fun loaded => ?_) fun loads => loads.1 fault fails
    obtain ⟨values, -, loaded⟩ := exists_of_bind_eq_ok loaded
    rw [ofVariables_eq_error_iff.2 fails] at loaded
    cases loaded
  · have unfailing (fault : SettingsError) : ¬ VariableFault environment fault := fun fails => by
      rw [ofVariables_eq_error_iff.2 fails] at asked
      cases asked
    rw [layered_iff asked]
    constructor
    · intro loaded
      obtain ⟨values, read, -⟩ := exists_of_bind_eq_ok loaded
      rw [load_eq read asked] at loaded
      obtain ⟨rfl, kept⟩ := checked_eq_ok_iff.1 loaded
      exact ⟨unfailing, ⟨values, read, rfl⟩, kept⟩
    · rintro ⟨-, ⟨values, read, rfl⟩, kept⟩
      rw [load_eq read asked]
      exact checked_eq_ok_iff.2 ⟨rfl, kept⟩

/-- Loading fails with a fault of the file, or else with one of a variable, or else with the first
rule that is broken. -/
theorem load_eq_error_iff {fault : SettingsError} :
    load files environment demands = .error fault ↔
      FileFault files environment demands fault ∨
        (∀ other, ¬ FileFault files environment demands other) ∧
          (VariableFault environment fault ∨
            (∀ other, ¬ VariableFault environment other) ∧
              RuleFault files environment demands fault) := by
  simp only [← @fromFile_eq_error_iff files, ← ofVariables_eq_error_iff]
  cases read : fromFile files environment demands with
  | error own => simp [load, read, bind, Except.bind]
  | ok values =>
    cases asked : Partial.ofVariables environment Setting.all with
    | error own => simp [load, read, asked, bind, Except.bind]
    | ok given =>
      have broken : RuleFault files environment demands fault ↔
          ∃ earlier violation later, Violation.all = earlier ++ violation :: later ∧
            (∀ other ∈ earlier, other.Kept (complete (demands.values.or (given.or values)))) ∧
            ¬ violation.Kept (complete (demands.values.or (given.or values))) ∧
            fault = .invalid violation := by
        constructor
        · rintro ⟨settings, earlier, violation, later, layered, rest⟩
          obtain ⟨others, same, rfl⟩ := (layered_iff asked).1 layered
          cases read.symm.trans same
          exact ⟨earlier, violation, later, rest⟩
        · rintro ⟨earlier, violation, later, rest⟩
          exact ⟨_, earlier, violation, later, (layered_iff asked).2 ⟨values, read, rfl⟩, rest⟩
      rw [load_eq read asked, checked_eq_error_iff, broken]
      simp

/-! ## Variables that do not count -/

/-- A variable counts by what it is apart from blanks. -/
theorem effective_set_of_blank {name text : String} (blank : Text.blank text = true)
    (environment : Environment) :
    (environment.set name (some (.text text))).effective =
      (environment.set name none).effective := by
  funext other
  by_cases same : other = name
  · subst same
    simp [Environment.effective, Variable.text?, blank]
  · simp [Environment.effective, Environment.text?_set_of_ne same]

/-- Loading depends only on the variables that count and on what the file becomes. -/
theorem load_congr {first second : Environment}
    (counting : first.effective = second.effective)
    (reading : fromFile files first demands = fromFile files second demands) :
    load files first demands = load files second demands := by
  have asked (setting : Setting) :
      setting.ofEnvironment first = setting.ofEnvironment second := by
    rw [Setting.ofEnvironment, Setting.ofEnvironment, Setting.effective?, Setting.effective?,
      counting]
  have given (settings : List Setting) :
      Partial.ofVariables first settings = Partial.ofVariables second settings := by
    induction settings with
    | nil => rfl
    | cons setting rest ih => rw [Partial.ofVariables, Partial.ofVariables, asked, ih]
  rw [load, load, reading, given]

/-- What the file becomes depends only on the variables that it names. -/
theorem fromFile_congr {first second : Environment}
    (agree : ∀ path text, file? files demands.path = some path →
      fileText files path = .ok text →
        ∀ name ∈ namesIn text, first.text? name = second.text? name) :
    fromFile files first demands = fromFile files second demands := by
  cases found : file? files demands.path with
  | none => simp only [fromFile, found]
  | some path =>
    cases read : fileText files path with
    | error fault => simp only [fromFile, found, read, bind, Except.bind]
    | ok text =>
      have same := interpolate_congr (agree path text found read)
      simp only [fromFile, found, read, bind, Except.bind, Partial.ofFileText, same]

/-- A variable that is set to no text is as good as none. -/
theorem load_of_binary (name : String) :
    load files (environment.set name (some .binary)) demands =
      load files (environment.set name none) demands := by
  have same : (environment.set name (some .binary)).text? = (environment.set name none).text? := by
    funext other
    by_cases own : other = name
    · rw [own, Environment.text?_set_self, Environment.text?_set_self]
      rfl
    · rw [Environment.text?_set_of_ne own, Environment.text?_set_of_ne own]
  refine load_congr ?_ (fromFile_congr fun _ _ _ _ other _ => congrFun same other)
  funext other
  rw [Environment.effective, Environment.effective, same]

/-- A blank variable that the file does not name is as good as none. -/
theorem load_of_blank {name text : String} (blank : Text.blank text = true)
    (unnamed : ∀ path written, file? files demands.path = some path →
      fileText files path = .ok written → name ∉ namesIn written) :
    load files (environment.set name (some (.text text))) demands =
      load files (environment.set name none) demands := by
  refine load_congr (effective_set_of_blank blank environment) (fromFile_congr ?_)
  intro path written found read other isIn
  have different : other ≠ name := fun same => unnamed path written found read (same ▸ isIn)
  rw [Environment.text?_set_of_ne different, Environment.text?_set_of_ne different]

/-- Every setting has the value of the first layer that gives it one, and settings that load keep
all rules; faults of the file are met before those of variables and these before broken rules; and
a blank variable is none, unless the file names it. -/
theorem settings_follow_precedence (files : FileTree) (environment : Environment)
    (demands : Demands) :
    (∀ settings, load files environment demands = .ok settings ↔
      (∀ fault, ¬ VariableFault environment fault) ∧
        Layered files environment demands settings ∧
          ∀ violation : Violation, violation.Kept settings) ∧
    (∀ fault, load files environment demands = .error fault ↔
      FileFault files environment demands fault ∨
        (∀ other, ¬ FileFault files environment demands other) ∧
          (VariableFault environment fault ∨
            (∀ other, ¬ VariableFault environment other) ∧
              RuleFault files environment demands fault)) ∧
    ∀ name text, Text.blank text = true →
      (∀ path written, file? files demands.path = some path →
        fileText files path = .ok written → name ∉ namesIn written) →
      load files (environment.set name (some (.text text))) demands =
        load files (environment.set name none) demands :=
  ⟨fun _ => load_eq_ok_iff, fun _ => load_eq_error_iff, fun _ _ => load_of_blank⟩

end Settings

end OrderPipeline
