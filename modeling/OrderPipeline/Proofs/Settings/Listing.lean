import OrderPipeline.Command.Basic
import OrderPipeline.Proofs.Settings.Supply

/-!
# Which listed sources are right

The list of settings names a source for each of them, found without the reader of the settings: the
first variable that is set, to whatever it is, or else the file as it is written, with its
expressions in place. The reader passes over variables that are blank or hold no text, and replaces
the expressions first, so the two can differ.

* `Setting.suppliedBy_source_iff` — the source that is named is the supplier unless one of the two
  differences shows.
* `Settings.suppliedBy_source_of_plain` — neither shows where every variable that is set counts, the
  file has no expressions, and its sections are no lists.
* `listed_source_iff` — what the command that lists the settings answers.
-/

namespace OrderPipeline

/-! ## Expressions -/

/-- Inside an expression that names nothing, the end of it is missing. -/
theorem interpolateFrom_of_unnamed (environment : Environment) {name cs : List Char}
    (unnamed : namesFrom (some name) cs = []) :
    interpolateFrom environment (some name) cs = .error .unterminated := by
  induction cs generalizing name with
  | nil => rfl
  | cons c rest ih =>
    rw [namesFrom] at unnamed
    rw [interpolateFrom]
    by_cases closed : c = '}'
    · simp [closed] at unnamed
    · rw [if_neg closed] at unnamed ⊢
      exact ih unnamed

/-- A text without expressions stays as it is. -/
theorem interpolateFrom_eq_self {environment : Environment} {cs replaced : List Char}
    (plain : namesFrom none cs = [])
    (done : interpolateFrom environment none cs = .ok replaced) : replaced = cs := by
  induction cs generalizing replaced with
  | nil =>
    cases done
    rfl
  | cons c rest ih =>
    by_cases opened : c = '$' ∧ rest.head? = some '{'
    · obtain ⟨rfl, brace⟩ := opened
      obtain ⟨rest, rfl⟩ := List.head?_eq_some_iff.1 brace
      rw [namesFrom] at plain
      rw [interpolateFrom, interpolateFrom_of_unnamed environment plain] at done
      cases done
    · have unopened : ∀ tail, c = '$' → rest = '{' :: tail → False := by
        rintro tail rfl rfl
        exact opened ⟨rfl, rfl⟩
      rw [namesFrom] at plain
      · rw [interpolateFrom] at done
        · cases after : interpolateFrom environment none rest with
          | error fault =>
            rw [after] at done
            cases done
          | ok tail =>
            rw [after] at done
            cases done
            rw [ih plain after]
            rfl
        · exact unopened
      · exact unopened

/-! ## The source of a setting -/

namespace Setting

variable {environment : Environment} {written read : Option (String × Toml.Value)}
  {setting : Setting} {supplier : Source} {value : setting.Value}

/-- The first variable of a setting that is set, to whatever it is. -/
def firstSet? (environment : Environment) (setting : Setting) : Option String :=
  setting.variableNames.find? environment.isSet

/-- The source that a file is, when it passes a test. -/
def fileSource (test : Toml.Value → Bool) (file : Option (String × Toml.Value)) : Source :=
  (file.filter fun entry => test entry.2).elim .default fun entry => .file entry.1

/-- Two tests on two readings of one file give the same source when both or neither succeed. -/
theorem fileSource_eq_iff (onePath : ∀ first second, written = some first → read = some second →
      first.1 = second.1) (test other : Toml.Value → Bool) :
    fileSource test written = fileSource other read ↔
      written.any (fun file => test file.2) = read.any fun file => other file.2 := by
  cases written with
  | none =>
    cases read with
    | none => simp [fileSource]
    | some second => cases passes : other second.2 <;> simp [fileSource, Option.filter, passes]
  | some first =>
    cases read with
    | none => cases passes : test first.2 <;> simp [fileSource, Option.filter, passes]
    | some second =>
      have same := onePath first second rfl rfl
      cases passes : test first.2 <;> cases passes' : other second.2 <;>
        simp [fileSource, Option.filter, passes, passes', same]

/-- The source that is named when a variable is set. -/
theorem source_of_set {name : String} (first : setting.firstSet? environment = some name) :
    setting.source environment written = .environment name := by
  unfold firstSet? at first
  unfold source
  rw [first]

/-- The source that is named when no variable is set. -/
theorem source_of_unset (unset : setting.firstSet? environment = none) :
    setting.source environment written = fileSource setting.isInFile written := by
  unfold firstSet? at unset
  unfold source fileSource
  rw [unset]
  cases written with
  | none => rfl
  | some file =>
    rw [Option.filter_some]
    by_cases inFile : setting.isInFile file.2 = true
    · rw [if_pos inFile]
      exact if_pos inFile
    · rw [if_neg inFile]
      exact if_neg inFile

/-- The supplier when a variable counts. -/
theorem SuppliedBy.source_of_taken (supplied : setting.SuppliedBy environment read supplier value)
    {name text : String} (taken : setting.effective? environment = some (name, text)) :
    supplier = .environment name := by
  cases supplied with
  | byVariable taken' typed =>
    rw [taken] at taken'
    cases taken'
    rfl
  | byFile untaken | byDefault untaken => exact absurd (taken.symm.trans untaken) (by simp)

/-- The supplier when no variable counts. -/
theorem SuppliedBy.source_of_untaken (supplied : setting.SuppliedBy environment read supplier value)
    (untaken : setting.effective? environment = none) :
    supplier = fileSource setting.isGivenBy read := by
  cases supplied with
  | byVariable taken => exact absurd (taken.symm.trans untaken) (by simp)
  | byFile _ found parsed given =>
    have isGiven := Partial.isSome_ofFile? parsed setting
    rw [given, Option.isSome_some] at isGiven
    rw [fileSource, found, Option.filter_some, if_pos isGiven.symm]
    rfl
  | byDefault _ ungiven =>
    cases read with
    | none => rfl
    | some file =>
      rw [fileSource, Option.filter_some, ungiven file.1 file.2 rfl]
      rfl

/-- Whether the reader of the settings would find the same source: the first variable that is set
holds a text that is not blank, or none is set, and the file has an entry for the setting as it is
written just if it gives the setting a value once it is read. -/
def isPlain (setting : Setting) (environment : Environment)
    (written read : Option (String × Toml.Value)) : Bool :=
  match setting.firstSet? environment with
  | some name => (environment.effective name).isSome
  | none =>
    (written.any fun file => setting.isInFile file.2) ==
      read.any fun file => setting.isGivenBy file.2

/-- The source that is named is the supplier in the plain cases only. -/
theorem suppliedBy_source_iff (supplied : setting.SuppliedBy environment read supplier value)
    (onePath : ∀ first second, written = some first → read = some second → first.1 = second.1) :
    setting.SuppliedBy environment read (setting.source environment written) value ↔
      setting.isPlain environment written read = true := by
  unfold isPlain
  cases first : setting.firstSet? environment with
  | some name =>
    rw [source_of_set first]
    constructor
    · rintro ⟨taken, -⟩
      exact Option.isSome_iff_exists.2 ⟨_, effective_of_effective? taken⟩
    · intro counts
      obtain ⟨text, effective⟩ := Option.isSome_iff_exists.1 counts
      rw [← supplied.source_of_taken (effective?_of_first first effective)]
      exact supplied
  | none =>
    rw [source_of_unset first, beq_iff_eq, ← fileSource_eq_iff onePath,
      ← supplied.source_of_untaken (effective?_of_unset first)]
    constructor
    · exact fun named => (named.unique supplied).1
    · exact fun same => same ▸ supplied

/-- A variable that is set to no text is named, though it does not count. -/
example :
    let environment := Environment.set {} "Q2D_STORAGE_STATE_KEY" (some .binary)
    stateKey.source environment none = .environment "Q2D_STORAGE_STATE_KEY" ∧
      stateKey.effective? environment = none ∧ stateKey.isPlain environment none none = false := by
  decide

/-- A section that is no list gives a setting a value when it has an entry for it. -/
theorem isGivenBy_eq_isInFile {file : Toml.Value}
    (unlisted : ∀ items, file.field? setting.sectionName ≠ some (.array items)) :
    setting.isGivenBy file = setting.isInFile file := by
  unfold isGivenBy isInFile
  cases found : file.field? setting.sectionName with
  | none => rfl
  | some part =>
    cases part with
    | array items => exact absurd found (unlisted items)
    | _ => rfl

end Setting

namespace Settings

variable {files : FileTree} {environment : Environment} {file : String × Toml.Value}

/-- The file as it is written stands where a file is looked for. -/
theorem file?_of_writtenFile? (written : writtenFile? files = some file) :
    file? files none = some file.1 := by
  obtain ⟨path, there, written⟩ := Option.bind_eq_some_iff.1 written
  split at written
  · obtain ⟨document, -, same⟩ := Option.bind_eq_some_iff.1 written
    cases same
    exact there
  · cases written

/-- The file as it is read is found at a path, and is a document once its expressions are
replaced. -/
theorem exists_of_readFile? (read : readFile? files environment = some file) :
    ∃ text replaced, file? files none = some file.1 ∧ files.find? file.1 = some (.text text) ∧
      interpolate environment text = .ok replaced ∧ Toml.ofText? replaced = some file.2 := by
  obtain ⟨path, there, read⟩ := Option.bind_eq_some_iff.1 read
  split at read
  · next text found =>
    obtain ⟨replaced, interpolated, read⟩ := Option.bind_eq_some_iff.1 read
    obtain ⟨document, parsed, same⟩ := Option.bind_eq_some_iff.1 read
    cases same
    refine ⟨text, replaced, there, found, ?_, parsed⟩
    cases done : interpolate environment text with
    | error =>
      rw [done] at interpolated
      cases interpolated
    | ok other =>
      rw [done] at interpolated
      cases interpolated
      rfl
  · cases read

/-- The file is read where it is written. -/
theorem path_writtenFile? {other : String × Toml.Value} (written : writtenFile? files = some file)
    (read : readFile? files environment = some other) : file.1 = other.1 := by
  obtain ⟨-, -, there, -⟩ := exists_of_readFile? read
  exact Option.some.inj ((file?_of_writtenFile? written).symm.trans there)

/-- A file without expressions is read as it is written. -/
theorem writtenFile?_of_readFile? (read : readFile? files environment = some file)
    (plain : ∀ text, files.find? file.1 = some (.text text) → namesIn text = []) :
    writtenFile? files = some file := by
  obtain ⟨text, replaced, there, found, interpolated, parsed⟩ := exists_of_readFile? read
  have same : replaced = text := by
    unfold interpolate at interpolated
    cases done : interpolateFrom environment none text.toList with
    | error =>
      rw [done] at interpolated
      cases interpolated
    | ok cs =>
      rw [done] at interpolated
      cases interpolated
      rw [interpolateFrom_eq_self (plain text found) done, String.ofList_toList]
  rw [same] at parsed
  simp [writtenFile?, there, found, parsed]

/-- Where every variable of a setting that is set holds a text that is not blank, and the file has
no expressions and no list in the place of the section, the source that is named is the supplier. -/
theorem suppliedBy_source_of_plain {settings : Settings} {setting : Setting}
    (loaded : load files environment {} = .ok settings)
    (filled : ∀ name ∈ setting.variableNames, environment.isSet name = true →
      (environment.effective name).isSome = true)
    (plain : ∀ path text, files.find? path = some (.text text) → namesIn text = [])
    (unlisted : ∀ file, writtenFile? files = some file →
      ∀ items, file.2.field? setting.sectionName ≠ some (.array items)) :
    setting.SuppliedBy environment (readFile? files environment)
      (setting.source environment (writtenFile? files)) (settings.value setting) := by
  obtain ⟨supplier, supplied⟩ := suppliedBy_of_load loaded setting
  refine (Setting.suppliedBy_source_iff supplied fun _ _ => path_writtenFile?).2 ?_
  unfold Setting.isPlain
  cases first : setting.firstSet? environment with
  | some name =>
    exact filled name (List.mem_of_find?_eq_some first) (List.find?_some first)
  | none =>
    obtain ⟨values, given, -⟩ := exists_of_bind_eq_ok loaded
    rcases fromFile_eq_ok given with ⟨absent, -⟩ | ⟨path, document, read, -⟩
    · simp [writtenFile?, readFile?, absent]
    · have written := writtenFile?_of_readFile? read (plain path)
      simp [written, read, Setting.isGivenBy_eq_isInFile (unlisted _ written)]

end Settings

/-- The command that lists the settings, on a host where they load, answers with a line for each
that tells its value and a source. Every value has exactly one supplier, and the source is that
supplier in the plain cases only. -/
theorem listed_source_iff (host : Host) (settings : Settings)
    (loaded : host.settings = .ok settings) (occasion : Occasion) :
    let written := Settings.writtenFile? host.files
    let read := Settings.readFile? host.files host.environment
    Command.config.run occasion host =
        (.report ("effective config (source precedence: env > file > default):" ::
          Setting.all.map fun setting =>
            setting.line (settings.value setting) (setting.source host.environment written)),
          host) ∧
      ∀ setting : Setting,
        (∃! source, setting.SuppliedBy host.environment read source (settings.value setting)) ∧
          (setting.SuppliedBy host.environment read (setting.source host.environment written)
              (settings.value setting) ↔
            setting.isPlain host.environment written read = true) := by
  intro written read
  constructor
  · simp only [Command.run, Command.runConfig, loaded]
    rfl
  · intro setting
    obtain ⟨source, supplied⟩ := Settings.suppliedBy_of_load loaded setting
    refine ⟨⟨source, supplied, fun other supplied' => (supplied'.unique supplied).1⟩, ?_⟩
    exact Setting.suppliedBy_source_iff supplied fun _ _ => Settings.path_writtenFile?

/-- A host with a blank variable for the key, a blank one before the one for the level of log lines,
and a file with the number of connections in an expression. -/
def disguised : Host where
  environment name :=
    [("Q2D_STORAGE_STATE_KEY", " "), ("Q2D_LOGGING_LEVEL", ""), ("Q2D_LOG_LEVEL", "warn"),
      ("N", "7")].lookup name
  files := ⟨[("q2d.toml", .text "[storage]\nmax_connections = $\x7bN\x7d\n")]⟩

/-- Its settings load. -/
theorem exists_settings_disguised : ∃ settings, disguised.settings = .ok settings := by
  have loaded : disguised.settings.isOk = true := by decide +kernel
  cases done : disguised.settings with
  | error =>
    rw [done] at loaded
    cases loaded
  | ok settings => exact ⟨settings, rfl⟩

/-- Three of the sources that are named there are not the suppliers, and all others are. -/
theorem listed_source_iff_disguised :
    ∃ settings, disguised.settings = .ok settings ∧
      ∀ setting : Setting,
        setting.SuppliedBy disguised.environment
            (Settings.readFile? disguised.files disguised.environment)
            (setting.source disguised.environment (Settings.writtenFile? disguised.files))
            (settings.value setting) ↔
          setting ∉ [.maxConnections, .stateKey, .logLevel] := by
  obtain ⟨settings, loaded⟩ := exists_settings_disguised
  refine ⟨settings, loaded, fun setting => ?_⟩
  have disguises : Setting.all.filter (fun setting =>
      !setting.isPlain disguised.environment (Settings.writtenFile? disguised.files)
        (Settings.readFile? disguised.files disguised.environment)) =
      [.maxConnections, .stateKey, .logLevel] := by decide +kernel
  rw [((listed_source_iff disguised settings loaded ⟨.still .epoch, ⟨""⟩, []⟩).2
    setting).2, ← disguises, List.mem_filter]
  simp

/-- The key is its default, the level comes from the second of its variables, and the number of
connections from the file; but two blank variables and the default are named. -/
theorem misnamed_sources_disguised :
    let written := Settings.writtenFile? disguised.files
    let read := Settings.readFile? disguised.files disguised.environment
    ∃ settings, disguised.settings = .ok settings ∧
      (Setting.stateKey.source disguised.environment written =
          .environment "Q2D_STORAGE_STATE_KEY" ∧
        Setting.stateKey.SuppliedBy disguised.environment read .default
          (settings.value .stateKey)) ∧
      (Setting.logLevel.source disguised.environment written = .environment "Q2D_LOGGING_LEVEL" ∧
        Setting.logLevel.SuppliedBy disguised.environment read (.environment "Q2D_LOG_LEVEL")
          (settings.value .logLevel)) ∧
      (Setting.maxConnections.source disguised.environment written = .default ∧
        Setting.maxConnections.SuppliedBy disguised.environment read (.file "q2d.toml")
          (settings.value .maxConnections)) := by
  intro written read
  obtain ⟨settings, loaded⟩ := exists_settings_disguised
  refine ⟨settings, loaded, ⟨by decide +kernel, ?_⟩, ⟨by decide +kernel, ?_⟩,
    ⟨by decide +kernel, ?_⟩⟩
  · obtain ⟨supplier, supplied⟩ := Settings.suppliedBy_of_load loaded .stateKey
    have source := supplied.source_of_untaken (by decide +kernel)
    have absent : Setting.fileSource Setting.stateKey.isGivenBy read = .default := by
      decide +kernel
    rw [← absent, ← source]
    exact supplied
  · obtain ⟨supplier, supplied⟩ := Settings.suppliedBy_of_load loaded .logLevel
    have taken : Setting.logLevel.effective? disguised.environment =
        some ("Q2D_LOG_LEVEL", "warn") := by decide +kernel
    rw [← supplied.source_of_taken taken]
    exact supplied
  · obtain ⟨supplier, supplied⟩ := Settings.suppliedBy_of_load loaded .maxConnections
    have source := supplied.source_of_untaken (by decide +kernel)
    have given : Setting.fileSource Setting.maxConnections.isGivenBy read = .file "q2d.toml" := by
      decide +kernel
    rw [← given, ← source]
    exact supplied

end OrderPipeline
