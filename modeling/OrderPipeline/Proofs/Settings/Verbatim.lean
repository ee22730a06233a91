import OrderPipeline.Proofs.Settings.Expressions
import OrderPipeline.Proofs.Settings.Precedence
import OrderPipeline.Proofs.Toml.Places

/-!
# Variables between quotes

A setting that is a text can be written in the configuration file as a variable between quotes
(`QuotedVariable`). The value of the variable is put into the text of the file before the file is
read, so it is read as the inside of a string.

* `Setting.fits_of_differAt` — a document that changes in the place of a setting changes that
  setting only.
* `QuotedVariable.load_eq_ok_iff` — what the file gives is what the text with the value gives.
* `arrivesVerbatim_iff` — a value arrives as it is just if all its characters stand for themselves
  between quotes.
-/

namespace OrderPipeline

/-! ## The place of a setting -/

namespace Setting

variable {x y file file' : Toml.Value} {setting : Setting}

/-- No two settings have the same name. -/
theorem eq_of_key_eq {first second : Setting} (same : first.key = second.key) :
    first = second := by
  have distinct : ∀ first ∈ all, ∀ second ∈ all, first.key = second.key → first = second := by
    decide
  exact distinct first (mem_all first) second (mem_all second) same

/-- A list gives no setting a value. -/
theorem ofFile?_array (setting : Setting) (items : List Toml.Value) :
    setting.ofFile? (.array items) = none := by
  cases setting <;> rfl

/-- A section that is a list does not begin with a table. -/
theorem exists_unfit_of_tables {entries : List (String × Toml.Value)} {items : List Toml.Value}
    (found : file.field? setting.sectionName = some (.array (.table entries :: items))) :
    ∃ first : Setting, ¬ first.FitsIn file := by
  obtain ⟨first, isIn, isFirst, isText⟩ : ∃ first : Setting,
      first.sectionName = setting.sectionName ∧ first.place = 0 ∧
        first.ofFile? (.table entries) = none := by
    cases setting with
    | databaseUrl | maxConnections | timeoutSeconds | stateKey =>
      exact ⟨.databaseUrl, rfl, by decide, rfl⟩
    | adminUsername | adminPassword | userUsername | userPassword | allowAny =>
      exact ⟨.adminUsername, rfl, by decide, rfl⟩
    | logLevel | logFormat => exact ⟨.logLevel, rfl, by decide, rfl⟩
  refine ⟨first, fun fits => ?_⟩
  simp [FitsIn, isIn, found, isFirst, isText] at fits

/-- Two files that differ in the place of a setting only have the two values there, as entries of
tables. -/
theorem entries_of_differAt (isTable : ∃ entries, file = .table entries)
    (differ : Toml.Value.DifferAt x y [setting.sectionName, setting.key] file file')
    (fits : ∀ other : Setting, other.FitsIn file) :
    ∃ entries entries', file.field? setting.sectionName = some (.table entries) ∧
      file'.field? setting.sectionName = some (.table entries') ∧
      entries.lookup setting.key = some x ∧ entries'.lookup setting.key = some y ∧
      (∀ name ≠ setting.key, entries.lookup name = entries'.lookup name) ∧
      ∀ name ≠ setting.sectionName, file.field? name = file'.field? name := by
  obtain ⟨sections, rfl⟩ := isTable
  cases differ with
  | @table _ _ _ sections' value value' own own' inside others =>
    cases inside with
    | @table _ _ entries entries' _ _ ownEntry ownEntry' inside otherEntries =>
      cases inside with
      | here => exact ⟨entries, entries', own, own', ownEntry, ownEntry', otherEntries, others⟩
      | @array _ first items items' =>
        -- the setting itself would have to take a list of tables
        have unfit := fits setting
        simp [FitsIn, Toml.Value.field?, own, FitsEntries, ownEntry, ofFile?_array] at unfit
    | @array _ tables items items' =>
      have isList : (Toml.Value.table sections).field? setting.sectionName =
          some (.array (.table tables :: items)) := own
      obtain ⟨first, unfit⟩ := exists_unfit_of_tables isList
      exact absurd (fits first) unfit

/-- A file gives a setting what it has in its place. -/
theorem inFile?_of_differAt (isTable : ∃ entries, file = .table entries)
    (differ : Toml.Value.DifferAt x y [setting.sectionName, setting.key] file file')
    (fits : ∀ other : Setting, other.FitsIn file) : setting.inFile? file = setting.ofFile? x := by
  obtain ⟨entries, -, found, -, own, -⟩ := entries_of_differAt isTable differ fits
  rw [inFile?, found]
  simp only [inEntries?, own, Option.bind_some]

/-- What is put in the place of a setting gives the setting its value, and no other setting. -/
theorem fits_of_differAt (isTable : ∃ entries, file = .table entries)
    (differ : Toml.Value.DifferAt x y [setting.sectionName, setting.key] file file')
    (fits : ∀ other : Setting, other.FitsIn file) {value : setting.Value}
    (read : setting.ofFile? y = some value) :
    (∀ other : Setting, other.FitsIn file') ∧ setting.inFile? file' = some value ∧
      ∀ other ≠ setting, other.inFile? file' = other.inFile? file := by
  obtain ⟨entries, entries', found, found', own, own', otherEntries, others⟩ :=
    entries_of_differAt isTable differ fits
  have sameEntry {other : Setting} (different : other ≠ setting) :
      entries'.lookup other.key = entries.lookup other.key :=
    (otherEntries other.key fun same => different (eq_of_key_eq same)).symm
  refine ⟨fun other => ?_, ?_, fun other different => ?_⟩
  · have fit := fits other
    by_cases isIn : other.sectionName = setting.sectionName
    · rw [FitsIn, isIn, found] at fit
      rw [FitsIn, isIn, found']
      intro entry isEntry
      by_cases same : other = setting
      · subst same
        cases own'.symm.trans isEntry
        exact ⟨value, read⟩
      · exact fit entry ((sameEntry same).symm.trans isEntry)
    · rwa [FitsIn, others _ isIn] at fit
  · rw [inFile?, found']
    simp only [inEntries?, own', Option.bind_some, read]
  · by_cases isIn : other.sectionName = setting.sectionName
    · rw [inFile?, inFile?, isIn, found, found']
      simp only [inEntries?, sameEntry different]
    · rw [inFile?, inFile?, others _ isIn]

/-- The value of a setting that is a text; the other settings have none. -/
def ofString? : (setting : Setting) → String → Option setting.Value
  | databaseUrl, text | stateKey, text | adminUsername, text | adminPassword, text
  | userUsername, text | userPassword, text | logLevel, text => some text
  | _, _ => none

/-- A file gives a setting that is a text the text that it has in its place. -/
theorem ofFile?_string {text : String} {value : setting.Value}
    (own : setting.ofString? text = some value) : setting.ofFile? (.string text) = some value := by
  cases setting <;> first | exact own | cases own

end Setting

/-! ## Variables between quotes -/

/-- A configuration file in which a setting is written as a variable between quotes, which is used
nowhere else in the file. -/
structure QuotedVariable where
  /-- The files. -/
  files : FileTree
  /-- The values of the other variables. -/
  environment : Environment
  /-- How the settings are to be loaded. -/
  demands : Settings.Demands
  /-- The setting. -/
  setting : Setting
  /-- The name of the variable. -/
  name : String
  /-- The path of the file. -/
  path : String
  /-- The text of the file before the quotes. -/
  before : List Char
  /-- The text of the file after them. -/
  after : List Char
  /-- What becomes of the text before the quotes. -/
  front : List Char
  /-- The file is the one that is read. -/
  found : Settings.file? files demands.path = some path
  /-- It holds the variable. -/
  written : Settings.fileText files path = .ok (String.ofList
    (before ++ '"' :: '$' :: '{' :: (name.toList ++ '}' :: '"' :: after)))
  /-- The name of the variable ends where the expression does. -/
  noBrace : '}' ∉ name.toList
  /-- The variable is not used before. -/
  unusedBefore : name ∉ namesFrom none before
  /-- It is not used after. -/
  unusedAfter : name ∉ namesFrom none after
  /-- The expressions before the quotes are replaced. -/
  replaced : interpolateFrom environment none before = .ok front
  /-- The value of the setting is what has to be written next. -/
  awaits : Toml.Awaits setting.sectionName setting.key [] (Toml.withoutMark front)

namespace QuotedVariable

variable (use : QuotedVariable) {value : String} {values : Partial}

/-- What the file gives when the variable has a value. -/
def load (value : String) : Except SettingsError Partial :=
  Settings.fromFile use.files (use.environment.set use.name (some (.text value))) use.demands

/-- The file with a value for the variable. -/
def filled (back : List Char) (value : String) : String :=
  String.ofList (use.front ++ '"' :: (value.toList ++ '"' :: back))

/-- The value of the variable is put between the quotes, and the rest of the file does not depend
on it. -/
theorem interpolate_eq (value : String) :
    interpolate (use.environment.set use.name (some (.text value))) (String.ofList
        (use.before ++ '"' :: '$' :: '{' :: (use.name.toList ++ '}' :: '"' :: use.after))) =
      (interpolateFrom use.environment none use.after).map fun back => use.filled back value := by
  -- the rest of the file does not name the variable
  have unused {cs : List Char} (fresh : use.name ∉ namesFrom none cs) :
      interpolateFrom (use.environment.set use.name (some (.text value))) none cs =
        interpolateFrom use.environment none cs := by
    refine interpolateFrom_congr none cs fun wanted isIn => ?_
    have different : wanted ≠ use.name := fun same => fresh (same ▸ isIn)
    exact Environment.text?_set_of_ne different _
  have quoted (rest : List Char) (environment : Environment) :
      interpolateFrom environment none ('"' :: rest) =
        prepend ['"'] (interpolateFrom environment none rest) := by
    rw [interpolateFrom]
    simp
  have replaced := (unused use.unusedBefore).trans use.replaced
  have isSet : (use.environment.set use.name (some (.text value))).text? use.name = some value :=
    Environment.text?_set_self _
  rw [interpolate, String.toList_ofList, interpolateFrom_append replaced (by simp), quoted,
    interpolateFrom_expression use.noBrace isSet, quoted, unused use.unusedAfter]
  cases interpolateFrom use.environment none use.after with
  | error fault => rfl
  | ok back => simp [prepend, filled, Except.map]

/-- The file gives values just if the text with the value of the variable is a document that all
settings fit in. -/
theorem load_eq_ok_iff :
    use.load value = .ok values ↔
      ∃ back, interpolateFrom use.environment none use.after = .ok back ∧
        ∃ document, Toml.ofText? (use.filled back value) = some document ∧
          (∀ setting : Setting, setting.FitsIn document) ∧
            ∀ setting : Setting, setting.inFile? document = values setting := by
  rw [load, Settings.fromFile_eq_ok_iff]
  have whole := use.interpolate_eq value
  constructor
  · rintro ⟨_, held, given⟩
    cases held with
    | nothing absent => cases use.found.symm.trans absent
    | document found read replacing parsed fits =>
      cases use.found.symm.trans found
      cases use.written.symm.trans read
      rw [whole] at replacing
      cases after : interpolateFrom use.environment none use.after with
      | error fault =>
        rw [after] at replacing
        cases replacing
      | ok back =>
        rw [after] at replacing
        cases replacing
        exact ⟨back, rfl, _, parsed, fits, given⟩
  · rintro ⟨back, after, document, parsed, fits, given⟩
    rw [after] at whole
    exact ⟨_, .document use.found use.written whole parsed fits, given⟩

end QuotedVariable

/-- A plain word has only letters, digits, underscores and hyphens. -/
structure IsWord (word : String) : Prop where
  /-- It is not empty. -/
  filled : word ≠ ""
  /-- Its characters are plain. -/
  plain : ∀ c ∈ word.toList, Toml.isNameChar c = true

/-- Whether a value arrives as it is: wherever a setting that is a text is written as a variable
between quotes, in a file that gives values when the variable has a plain word, the value gives the
setting itself, and leaves the other settings as they were. -/
def ArrivesVerbatim (value : String) : Prop :=
  ∀ (use : QuotedVariable) (word : String) (values : Partial) (given : use.setting.Value),
    IsWord word → use.load word = .ok values → use.setting.ofString? value = some given →
      ∃ values', use.load value = .ok values' ∧ values' use.setting = some given ∧
        ∀ other ≠ use.setting, values' other = values other

/-- Plain characters stand for themselves between quotes. -/
theorem verbatim_of_isNameChar {c : Char} (plain : Toml.isNameChar c = true) :
    Toml.Verbatim c := by
  have coded : 45 ≤ c.toNat ∧ c.toNat ≤ 122 ∧ c.toNat ≠ 92 := by
    simp only [Toml.isNameChar, Bool.or_eq_true, beq_iff_eq] at plain
    rcases plain with (alphanumeric | rfl) | rfl
    · rcases (Bool.or_eq_true _ _).mp alphanumeric with letter | digit
      · rcases (Bool.or_eq_true _ _).mp letter with upper | lower
        · obtain ⟨low, high⟩ := of_decide_eq_true upper
          have low : 65 ≤ c.toNat := UInt32.le_iff_toNat_le.1 low
          have high : c.toNat ≤ 90 := UInt32.le_iff_toNat_le.1 high
          omega
        · obtain ⟨low, high⟩ := (Bool.and_eq_true _ _).mp lower
          have low : 97 ≤ c.toNat := UInt32.le_iff_toNat_le.1 (of_decide_eq_true low)
          have high : c.toNat ≤ 122 := UInt32.le_iff_toNat_le.1 (of_decide_eq_true high)
          omega
      · obtain ⟨low, high⟩ := Char.isDigit_iff_toNat.1 digit
        have low : 48 ≤ c.toNat := low
        have high : c.toNat ≤ 57 := high
        omega
    · decide
    · decide
  obtain ⟨low, high, notEscape⟩ := coded
  refine ⟨?_, ?_, ?_⟩
  · have printed : 32 ≤ c.toNat ∧ c.toNat ≠ 127 := by omega
    simp [Toml.isPlain, printed]
  · rintro rfl
    exact absurd low (by decide)
  · rintro rfl
    exact notEscape rfl

theorem arrivesVerbatim_of_verbatim {value : String}
    (verbatim : ∀ c ∈ value.toList, Toml.Verbatim c) : ArrivesVerbatim value := by
  intro use word values given isWord loaded own
  obtain ⟨back, after, document, parsed, fits, read⟩ := use.load_eq_ok_iff.1 loaded
  obtain ⟨string, rest, readWord, closed, swap⟩ := use.awaits.swap parsed
  have plain (c : Char) (isIn : c ∈ word.toList) : Toml.Verbatim c :=
    verbatim_of_isNameChar (isWord.plain c isIn)
  have filled : word.toList ≠ [] := fun empty => isWord.filled (String.toList_eq_nil_iff.1 empty)
  -- the string with the word ends at the second quote, so what follows is what follows the value
  have same := (Toml.readString_of_verbatim plain fun empty => absurd empty filled).symm.trans
    readWord
  cases same
  obtain ⟨document', parsed', differ⟩ := swap _ _
    (Toml.readString_of_verbatim verbatim fun _ => closed)
  rw [String.ofList_toList, String.ofList_toList] at differ
  obtain ⟨fits', own', others⟩ := Setting.fits_of_differAt (Toml.isTable_of_ofText? parsed) differ
    fits (Setting.ofFile?_string own)
  refine ⟨fun setting => setting.inFile? document', ?_, own', fun other different => ?_⟩
  · exact use.load_eq_ok_iff.2 ⟨back, after, document', parsed', fits', fun _ => rfl⟩
  · exact (others other different).trans (read other)

/-! ## Values that do not arrive -/

namespace QuotedVariable

/-- A file that ends with the password of the administrator, written as a variable. -/
def password : QuotedVariable where
  files := ⟨[("q2d.toml", .text "[auth]\nadmin_password = \"$\x7bVAR\x7d\"")]⟩
  environment := {}
  demands := {}
  setting := .adminPassword
  name := "VAR"
  path := "q2d.toml"
  before := "[auth]\nadmin_password = ".toList
  after := []
  front := "[auth]\nadmin_password = ".toList
  found := by decide +kernel
  written := by decide +kernel
  noBrace := by decide
  unusedBefore := by decide +kernel
  unusedAfter := by decide
  replaced := by decide +kernel
  awaits := by
    have begins : Toml.skipGap "[auth]\nadmin_password = ".toList =
        '[' :: "auth]\nadmin_password = ".toList := rfl
    have header : Toml.readHeader "auth]\nadmin_password = ".toList = some ((["auth"],
        Toml.Change.along (Toml.Change.define "auth") .implied []),
          "\nadmin_password = ".toList) := rfl
    have ended : Toml.afterLine? "\nadmin_password = ".toList =
        some "admin_password = ".toList := rfl
    have named : Toml.readPath "admin_password = ".toList =
        some (([], "admin_password"), ['=', ' ']) := rfl
    exact .later (.header begins header ended) (.here named rfl rfl)

/-- The file gives values when the variable has a plain word. -/
theorem exists_password_load : ∃ values, password.load "word" = .ok values := by
  have loads : (password.load "word").toOption.isSome = true := by decide +kernel
  cases loaded : password.load "word" with
  | error fault =>
    rw [loaded] at loads
    cases loads
  | ok values => exact ⟨values, rfl⟩

/-- What the setting becomes, if the file gives values, is what is read between the quotes. -/
theorem exists_readString (use : QuotedVariable) {value : String} {values : Partial}
    (loaded : use.load value = .ok values) :
    ∃ back string rest, interpolateFrom use.environment none use.after = .ok back ∧
      Toml.readString ('"' :: (value.toList ++ '"' :: back)) = some (string, rest) ∧
        values use.setting = use.setting.ofFile? (.string string) := by
  obtain ⟨back, after, document, parsed, fits, given⟩ := use.load_eq_ok_iff.1 loaded
  obtain ⟨string, rest, read, -, swap⟩ := use.awaits.swap parsed
  -- swapping what was read for itself tells where it stands in the document
  obtain ⟨document', -, differ⟩ := swap string _ read
  have own := Setting.inFile?_of_differAt (Toml.isTable_of_ofText? parsed) differ fits
  exact ⟨back, string, rest, after, read, (given use.setting).symm.trans own⟩

end QuotedVariable

/-- A value that arrives as it is has only characters that stand for themselves between quotes. -/
theorem verbatim_of_arrivesVerbatim {value : String} (arrives : ArrivesVerbatim value) :
    ∀ c ∈ value.toList, Toml.Verbatim c := by
  have isWord : IsWord "word" := ⟨by decide, List.all_eq_true.1 (by decide)⟩
  obtain ⟨values, loaded⟩ := QuotedVariable.exists_password_load
  obtain ⟨values', loaded', own, -⟩ := arrives .password "word" values value isWord loaded rfl
  obtain ⟨back, string, rest, after, read, given⟩ :=
    QuotedVariable.exists_readString .password loaded'
  cases after
  have same : string = value := Option.some.inj (given.symm.trans own)
  rw [same, show value = String.ofList value.toList from String.ofList_toList.symm,
    String.toList_ofList] at read
  exact Toml.verbatim_of_readString read

/-- A value arrives as it is just if it has neither quotes, nor backslashes, nor control characters
other than tabs. -/
theorem arrivesVerbatim_iff (value : String) :
    ArrivesVerbatim value ↔ ∀ c ∈ value.toList, Toml.Verbatim c :=
  ⟨verbatim_of_arrivesVerbatim, arrivesVerbatim_of_verbatim⟩

/-- A backslash before a letter arrives as the character that the two stand for. -/
theorem not_arrivesVerbatim_escape : ¬ ArrivesVerbatim "a\\tb" := by
  intro arrives
  have isWord : IsWord "word" := ⟨by decide, List.all_eq_true.1 (by decide)⟩
  obtain ⟨values, loaded⟩ := QuotedVariable.exists_password_load
  obtain ⟨values', loaded', own, -⟩ := arrives .password "word" values "a\\tb" isWord loaded rfl
  have read : ((QuotedVariable.password.load "a\\tb").toOption.bind fun values =>
      (values .adminPassword : Option String)) = some "a\tb" := by decide +kernel
  rw [loaded'] at read
  have same : some "a\\tb" = some "a\tb" := own.symm.trans read
  exact absurd (Option.some.inj same) (by decide)

end OrderPipeline
