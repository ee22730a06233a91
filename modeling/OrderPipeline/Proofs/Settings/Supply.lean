import OrderPipeline.Proofs.Validity.Value
import OrderPipeline.Settings.Source

/-!
# What supplies the settings

A setting is supplied by the first of its variables that is set and not blank, or else by the
configuration file as it reads once its expressions are replaced, or else by its default.

* `Partial.isSome_ofFile?` — a file gives the settings that its sections have entries for, and all
  settings of a section that is a list.
* `Settings.suppliedBy_of_load` — every setting that was loaded has the value of a supplier.
* `Setting.SuppliedBy.unique` — there is no other supplier.
-/

namespace OrderPipeline

/-! ## Assignments -/

namespace Partial

variable {setting other : Setting}

@[simp] theorem set_self (assignment : Partial) (setting : Setting) (value : setting.Value) :
    assignment.set setting value setting = some value := by
  rw [set, dif_pos rfl]

theorem set_of_ne (assignment : Partial) (value : setting.Value) (different : setting ≠ other) :
    assignment.set setting value other = assignment other := by
  rw [set, dif_neg different]

/-- One more value is given, and no other is taken away. -/
theorem isSome_set (assignment : Partial) (setting : Setting) (value : setting.Value)
    (other : Setting) :
    (assignment.set setting value other).isSome =
      (decide (other = setting) || (assignment other).isSome) := by
  by_cases same : other = setting
  · subst same
    simp
  · rw [set_of_ne assignment value (Ne.symm same)]
    simp [same]

/-! ## Files -/

variable {entries : List (String × Toml.Value)} {settings : List Setting} {values : Partial}

/-- The entries of a section give values to the settings that they name. -/
theorem isSome_ofEntries? (read : ofEntries? entries settings = some values) (other : Setting) :
    (values other).isSome =
      (decide (other ∈ settings) && (entries.lookup other.key).isSome) := by
  induction settings generalizing values with
  | nil =>
    cases read
    rfl
  | cons setting rest ih =>
    obtain ⟨others, readRest, read⟩ := Option.bind_eq_some_iff.1 read
    have there := ih readRest
    cases entry : entries.lookup setting.key with
    | none =>
      simp only [entry] at read
      cases read
      rw [there]
      by_cases same : other = setting
      · simp [same, entry]
      · simp [same]
    | some value =>
      simp only [entry] at read
      obtain ⟨given, -, read⟩ := Option.bind_eq_some_iff.1 read
      cases read
      rw [isSome_set, there]
      by_cases same : other = setting
      · simp [same, entry]
      · simp [same]

/-- A list gives values to all settings of its section. -/
theorem isSome_ofItems? {items : List Toml.Value} (read : ofItems? settings items = some values)
    (other : Setting) : (values other).isSome = decide (other ∈ settings) := by
  induction settings generalizing items values with
  | nil =>
    cases read
    rfl
  | cons setting rest ih =>
    cases items with
    | nil => cases read
    | cons item items =>
      obtain ⟨others, readRest, read⟩ := Option.bind_eq_some_iff.1 read
      obtain ⟨given, -, read⟩ := Option.bind_eq_some_iff.1 read
      cases read
      rw [isSome_set, ih readRest]
      simp

end Partial

/-- Whether a section of a file has a value for a key; a list has one for every key. -/
def Toml.Value.holds (part : Toml.Value) (key : String) : Bool :=
  match part with
  | .array _ => true
  | part => (part.field? key).isSome

/-- Whether a file gives a setting a value. -/
def Setting.isGivenBy (setting : Setting) (file : Toml.Value) : Bool :=
  (file.field? setting.sectionName).any fun part => part.holds setting.key

namespace Partial

/-- A section gives values to the settings that it holds values for. -/
theorem isSome_ofSection? {settings : List Setting} {part : Toml.Value} {values : Partial}
    (read : ofSection? settings part = some values) (other : Setting) :
    (values other).isSome = (decide (other ∈ settings) && part.holds other.key) := by
  cases part with
  | table entries => exact isSome_ofEntries? read other
  | array items => rw [isSome_ofItems? read, Toml.Value.holds, Bool.and_true]
  | datetime =>
    cases read
    simp [Partial.none, Toml.Value.holds, Toml.Value.field?]
  | string | integer | float | boolean => cases read

/-- Some values with those that one section of a file gives. -/
def withSection? (file : Toml.Value) (values : Partial) (name : String) : Option Partial :=
  match file.field? name with
  | Option.none => some values
  | some part => (ofSection? (Setting.inSection name) part).map values.or

/-- The section of a setting is the one that can give it a value. -/
theorem isSome_withSection? {file : Toml.Value} {before after : Partial} {name : String}
    (read : withSection? file before name = some after) (setting : Setting) :
    (after setting).isSome =
      ((before setting).isSome ||
        (decide (setting.sectionName = name) && setting.isGivenBy file)) := by
  unfold withSection? at read
  cases found : file.field? name with
  | none =>
    simp only [found] at read
    cases read
    by_cases own : setting.sectionName = name
    · simp [Setting.isGivenBy, own, found]
    · simp [own]
  | some part =>
    simp only [found, Option.map_eq_some_iff] at read
    obtain ⟨values, read, rfl⟩ := read
    have given := isSome_ofSection? read setting
    simp only [Partial.or, Option.isSome_or, given]
    by_cases own : setting.sectionName = name
    · simp [Setting.inSection, Setting.isGivenBy, own, found]
    · simp [Setting.inSection, own]

/-- A file gives a setting a value when its section holds one. -/
theorem isSome_ofFile? {file : Toml.Value} {values : Partial} (read : ofFile? file = some values)
    (setting : Setting) : (values setting).isSome = setting.isGivenBy file := by
  have folded : Setting.sections.foldlM (withSection? file) none = some values := read
  have general (names : List String) (before : Partial)
      (folded : names.foldlM (withSection? file) before = some values) :
      (values setting).isSome = ((before setting).isSome ||
        (decide (setting.sectionName ∈ names) && setting.isGivenBy file)) := by
    induction names generalizing before with
    | nil =>
      cases folded
      simp
    | cons name rest ih =>
      obtain ⟨after, read, folded⟩ := Option.bind_eq_some_iff.1 folded
      rw [ih after folded, isSome_withSection? read]
      cases setting.isGivenBy file with
      | false => simp
      | true => simp [Bool.or_assoc]
  have inside : setting.sectionName ∈ Setting.sections := by cases setting <;> decide
  rw [general Setting.sections none folded]
  simp [inside, none]

end Partial

/-! ## Variables -/

namespace Setting

variable {environment : Environment} {setting : Setting}

/-- Without a variable that is set there is none that counts. -/
theorem effective?_of_unset (unset : setting.variableNames.find? environment.isSet = none) :
    setting.effective? environment = none := by
  rw [effective?, List.findSome?_eq_none_iff]
  intro name member
  have absent : environment.isSet name = false := by
    simpa using List.find?_eq_none.1 unset name member
  rw [Environment.effective_of_unset absent, Option.map_none]

/-- The variable that counts is set, and not blank. -/
theorem effective_of_effective? {name text : String}
    (taken : setting.effective? environment = some (name, text)) :
    environment.effective name = some text := by
  obtain ⟨other, -, found⟩ := List.exists_of_findSome?_eq_some taken
  obtain ⟨value, effective, same⟩ := Option.map_eq_some_iff.1 found
  cases same
  exact effective

/-- The first variable that is set counts if it holds a text that is not blank. -/
theorem effective?_of_first {name text : String}
    (first : setting.variableNames.find? environment.isSet = some name)
    (effective : environment.effective name = some text) :
    setting.effective? environment = some (name, text) := by
  obtain ⟨-, earlier, later, split, unset⟩ := List.find?_eq_some_iff_append.1 first
  have passed : earlier.findSome? (fun name =>
      (environment.effective name).map fun text => (name, text)) = none := by
    rw [List.findSome?_eq_none_iff]
    intro other member
    have absent : environment.isSet other = false := by simpa using unset other member
    rw [Environment.effective_of_unset absent, Option.map_none]
  rw [effective?, split, List.findSome?_append, passed, Option.none_or, List.findSome?_cons,
    effective]
  rfl

end Setting

/-- What the environment gives to settings, each of which is asked on its own. -/
theorem Partial.ofVariables_eq_ok {environment : Environment} {settings : List Setting}
    {given : Partial} (read : Partial.ofVariables environment settings = .ok given)
    (setting : Setting) :
    if setting ∈ settings then setting.ofEnvironment environment = .ok (given setting)
    else given setting = Option.none := by
  induction settings generalizing given with
  | nil =>
    cases read
    rfl
  | cons first rest ih =>
    obtain ⟨value, asked, read⟩ := exists_of_bind_eq_ok read
    obtain ⟨others, readRest, read⟩ := exists_of_bind_eq_ok read
    have there := ih readRest
    cases value with
    | none =>
      cases read
      by_cases same : setting = first
      · subst same
        rw [if_pos List.mem_cons_self]
        split at there
        · exact there
        · rw [there, asked]
      · simpa [same] using there
    | some value =>
      cases read
      by_cases same : setting = first
      · subst same
        rw [if_pos List.mem_cons_self, set_self, asked]
      · rw [set_of_ne others value (Ne.symm same)]
        simpa [same] using there

/-! ## Suppliers -/

/-- The configuration file as it is read, with its expressions replaced, and its path. -/
def Settings.readFile? (files : FileTree) (environment : Environment) :
    Option (String × Toml.Value) := do
  let path ← file? files none
  match files.find? path with
  | some (.text text) =>
    let text ← (interpolate environment text).toOption
    return (path, ← Toml.ofText? text)
  | _ => none

/-- What the configuration file gives is in the file that is read, if there is one at all. -/
theorem Settings.fromFile_eq_ok {files : FileTree} {environment : Environment} {values : Partial}
    (read : fromFile files environment {} = .ok values) :
    file? files none = none ∧ values = Partial.none ∨
      ∃ path document, readFile? files environment = some (path, document) ∧
        Partial.ofFile? document = some values := by
  unfold fromFile at read
  cases there : file? files none with
  | none =>
    simp only [there] at read
    cases read
    exact .inl ⟨rfl, rfl⟩
  | some path =>
    simp only [there] at read
    obtain ⟨text, written, read⟩ := exists_of_bind_eq_ok read
    obtain ⟨replaced, replacing, read⟩ := exists_of_bind_eq_ok read
    have found : files.find? path = some (.text text) := by
      unfold fileText at written
      split at written <;> cases written
      assumption
    have interpolated := mapError_eq_ok_iff.1 replacing
    cases parsed : Toml.ofText? replaced with
    | none =>
      simp only [parsed] at read
      cases read
    | some document =>
      refine .inr ⟨path, document, ?_, ?_⟩
      · simp [readFile?, there, found, interpolated, Except.toOption, parsed]
      · cases given : Partial.ofFile? document with
        | none =>
          simp only [parsed, Option.bind_some, given] at read
          cases read
        | some others =>
          simp only [parsed, Option.bind_some, given] at read
          cases read
          rfl

namespace Setting

/-- What supplies the value of a setting, in surroundings with a configuration file that reads as
it does: the first of its variables that is set and not blank, or else the file, or else the
default. -/
inductive SuppliedBy (environment : Environment) (file : Option (String × Toml.Value))
    (setting : Setting) : Source → setting.Value → Prop
  /-- A variable counts, and its text reads as the value. -/
  | byVariable {name text : String} {value : setting.Value}
    (taken : setting.effective? environment = some (name, text))
    (read : setting.ofVariable? text = some value) :
    SuppliedBy environment file setting (.environment name) value
  /-- No variable counts, and the file gives the value. -/
  | byFile {path : String} {document : Toml.Value} {values : Partial} {value : setting.Value}
    (untaken : setting.effective? environment = none) (found : file = some (path, document))
    (read : Partial.ofFile? document = some values) (given : values setting = some value) :
    SuppliedBy environment file setting (.file path) value
  /-- No variable counts, and the file, if there is one, gives no value. -/
  | byDefault (untaken : setting.effective? environment = none)
    (ungiven : ∀ path document, file = some (path, document) →
      setting.isGivenBy document = false) :
    SuppliedBy environment file setting .default setting.default

variable {environment : Environment} {file : Option (String × Toml.Value)} {setting : Setting}

/-- A setting has one supplier and one value. -/
theorem SuppliedBy.unique {source other : Source} {value value' : setting.Value}
    (supplied : setting.SuppliedBy environment file source value)
    (supplied' : setting.SuppliedBy environment file other value') :
    source = other ∧ value = value' := by
  cases supplied with
  | byVariable taken read =>
    cases supplied' with
    | byVariable taken' read' =>
      rw [taken] at taken'
      cases taken'
      exact ⟨rfl, Option.some.inj (read.symm.trans read')⟩
    | byFile untaken | byDefault untaken => exact absurd (taken.symm.trans untaken) (by simp)
  | byFile untaken found read given =>
    cases supplied' with
    | byVariable taken => exact absurd (taken.symm.trans untaken) (by simp)
    | byFile _ found' read' given' =>
      rw [found] at found'
      cases found'
      rw [read] at read'
      cases read'
      exact ⟨rfl, Option.some.inj (given.symm.trans given')⟩
    | byDefault _ ungiven =>
      have none := ungiven _ _ found
      rw [← Partial.isSome_ofFile? read, given] at none
      cases none
  | byDefault untaken ungiven =>
    cases supplied' with
    | byVariable taken => exact absurd (taken.symm.trans untaken) (by simp)
    | byFile _ found read given =>
      have none := ungiven _ _ found
      rw [← Partial.isSome_ofFile? read, given] at none
      cases none
    | byDefault => exact ⟨rfl, rfl⟩

end Setting

/-- Every setting that was loaded has the value of a supplier. -/
theorem Settings.suppliedBy_of_load {files : FileTree} {environment : Environment}
    {settings : Settings} (loaded : load files environment {} = .ok settings)
    (setting : Setting) :
    ∃ source, setting.SuppliedBy environment (readFile? files environment) source
      (settings.value setting) := by
  obtain ⟨values, read, loaded⟩ := exists_of_bind_eq_ok loaded
  obtain ⟨given, asked, loaded⟩ := exists_of_bind_eq_ok loaded
  have own := Partial.ofVariables_eq_ok asked setting
  rw [if_pos setting.mem_all] at own
  have whole : settings = complete (given.or values) := by
    unfold checked at loaded
    split at loaded <;> cases loaded
    rw [Partial.none_or]
  have value : settings.value setting =
      ((given setting).or (values setting)).getD setting.default := by rw [whole]; rfl
  rw [value]
  cases taken : setting.effective? environment with
  | some counting =>
    simp only [Setting.ofEnvironment, taken] at own
    cases typed : setting.ofVariable? counting.2 with
    | none =>
      rw [typed] at own
      cases own
    | some result =>
      rw [typed] at own
      rw [← Except.ok.inj own]
      exact ⟨_, .byVariable taken typed⟩
  | none =>
    simp only [Setting.ofEnvironment, taken] at own
    rw [← Except.ok.inj own, Option.none_or]
    rcases fromFile_eq_ok read with ⟨absent, rfl⟩ | ⟨path, document, found, parsed⟩
    · refine ⟨_, .byDefault taken fun path document found => ?_⟩
      rw [readFile?, absent] at found
      cases found
    · cases entry : values setting with
      | some result => exact ⟨_, .byFile taken found parsed entry⟩
      | none =>
        refine ⟨_, .byDefault taken fun _ other found' => ?_⟩
        rw [found] at found'
        cases found'
        rw [← Partial.isSome_ofFile? parsed, entry]
        rfl

end OrderPipeline
