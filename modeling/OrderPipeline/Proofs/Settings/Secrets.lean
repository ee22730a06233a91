import OrderPipeline.Proofs.Settings.Listing
import OrderPipeline.Proofs.Settings.Verbatim
import Mathlib.Data.List.Forall2

/-!
# What inspection tells about passwords

Two hosts whose settings differ in the passwords at most (`Host.DifferInPasswords`) can be told
apart by the list of settings only by the sources, and there only by whether the file has an entry
as it is written. It has one in both or in neither when the files are equal but for quoted passwords
that are strings as they are written (`EqualButPasswords`).

* `Setting.isInFile_eq_of_differAt` — a document that changes in the place of a setting keeps the
  entries that it has.
* `EqualButPasswords.any_isInFile` — so do texts with other passwords.
* `Settings.report_lines_eq_iff` — two lists of settings read the same when their sources do.
* `inspection_conceals_passwords` — what two such hosts answer.
-/

namespace OrderPipeline

/-! ## Passwords in files -/

namespace Setting

/-- Whether a setting is a password. -/
def isPassword : Setting → Bool
  | adminPassword | userPassword => true
  | _ => false

/-- Two documents that differ in the place of a setting have entries for the same settings. -/
theorem isInFile_eq_of_differAt {x y file file' : Toml.Value} {changed : Setting}
    (differ : Toml.Value.DifferAt x y [changed.sectionName, changed.key] file file')
    (setting : Setting) : setting.isInFile file = setting.isInFile file' := by
  unfold isInFile
  cases differ with
  | @table _ _ sections sections' part part' own own' inside others =>
    simp only [Toml.Value.field?]
    by_cases here : setting.sectionName = changed.sectionName
    · rw [here, own, own', Option.bind_some, Option.bind_some]
      cases inside with
      | table ownEntry ownEntry' _ otherEntries =>
        by_cases same : setting.key = changed.key
        · rw [same]
          simp only [ownEntry, ownEntry', Option.isSome_some]
        · simp only [otherEntries _ same]
      | array => rfl
    · rw [others _ here]
  | array => rfl

end Setting

/-- Two texts of a file that are equal but for passwords between quotes: strings that stand where
the value of a password is to be written, or where the text before is no document in any case. -/
inductive EqualButPasswords (text : String) : String → Prop
  /-- The texts are equal. -/
  | refl : EqualButPasswords text text
  /-- A password is another one. -/
  | password {front literal literal' back : List Char} {setting : Setting}
    {string string' : String} (earlier : EqualButPasswords text
      (String.ofList (front ++ (literal ++ back)))) (isPassword : setting.isPassword = true)
    (awaits : Toml.Awaits setting.sectionName setting.key [] (Toml.withoutMark front))
    (read : Toml.readString (literal ++ back) = some (string, back))
    (read' : Toml.readString (literal' ++ back) = some (string', back)) :
    EqualButPasswords text (String.ofList (front ++ (literal' ++ back)))
  /-- The text before is no document whatever follows. -/
  | broken {front rest rest' : List Char}
    (earlier : EqualButPasswords text (String.ofList (front ++ rest)))
    (malformed : ∀ more, Toml.ofText? (String.ofList (front ++ more)) = none) :
    EqualButPasswords text (String.ofList (front ++ rest'))

/-- A document in which one string is written for another has entries for the same settings. -/
theorem Toml.Awaits.any_isInFile_eq {changed : Setting} {front text text' rest : List Char}
    {string string' : String}
    (awaits : Toml.Awaits changed.sectionName changed.key [] (Toml.withoutMark front))
    (read : Toml.readString text = some (string, rest))
    (read' : Toml.readString text' = some (string', rest)) (setting : Setting) :
    (Toml.ofText? (String.ofList (front ++ text))).any setting.isInFile =
      (Toml.ofText? (String.ofList (front ++ text'))).any setting.isInFile := by
  have swapped {text text' : List Char} {string string' : String}
      (read : Toml.readString text = some (string, rest))
      (read' : Toml.readString text' = some (string', rest)) {file : Toml.Value}
      (parsed : Toml.ofText? (String.ofList (front ++ text)) = some file) :
      ∃ file', Toml.ofText? (String.ofList (front ++ text')) = some file' ∧
        setting.isInFile file = setting.isInFile file' := by
    obtain ⟨_, _, same, -, swap⟩ := awaits.swap_quoted (Toml.quoted_of_readString read) parsed
    cases read.symm.trans same
    obtain ⟨file', parsed', differ⟩ := swap string' text' read'
    exact ⟨file', parsed', Setting.isInFile_eq_of_differAt differ setting⟩
  cases parsed : Toml.ofText? (String.ofList (front ++ text)) with
  | some file =>
    obtain ⟨file', parsed', same⟩ := swapped read read' parsed
    rw [parsed', Option.any_some, Option.any_some, same]
  | none =>
    cases parsed' : Toml.ofText? (String.ofList (front ++ text')) with
    | none => rfl
    | some file' =>
      obtain ⟨file, parsed'', -⟩ := swapped read' read parsed'
      cases parsed.symm.trans parsed''

/-- Texts that are equal but for passwords have entries for the same settings. -/
theorem EqualButPasswords.any_isInFile {text text' : String} (equal : EqualButPasswords text text')
    (setting : Setting) : (Toml.ofText? text).any setting.isInFile =
      (Toml.ofText? text').any setting.isInFile := by
  induction equal with
  | refl => rfl
  | password earlier _ awaits read read' ih =>
    exact ih.trans (awaits.any_isInFile_eq read read' setting)
  | broken earlier malformed ih => rw [ih, malformed, malformed]

/-! ## Lists of settings -/

/-- Two texts that are joined from parts are equal just if the parts are, when no part goes on with
another one in its place. -/
theorem intercalate_eq_iff {α : Type} (separator : List α) {parts parts' : List (List α)}
    (apart : List.Forall₂ (fun part part' => part <+: part' ∨ part' <+: part → part = part')
      parts parts') :
    separator.intercalate parts = separator.intercalate parts' ↔ parts = parts' := by
  refine ⟨fun same => ?_, fun same => same ▸ rfl⟩
  induction apart with
  | nil => rfl
  | @cons part part' rest rest' first later ih =>
    cases later with
    | nil => simpa [List.intercalate_singleton] using same
    | cons =>
      simp only [List.intercalate_cons_cons, List.append_assoc] at same ih
      have begins : part <+: part' ∨ part' <+: part :=
        List.prefix_or_prefix_of_prefix ⟨_, rfl⟩ ⟨_, same.symm⟩
      obtain rfl := first begins
      rw [ih (List.append_cancel_left (List.append_cancel_left same))]

namespace Setting

variable {environment environment' : Environment} {written written' : Option (String × Toml.Value)}

/-- The first variable that is set depends on which ones are set only. -/
theorem firstSet?_congr (setting : Setting)
    (sameSet : ∀ name, environment.isSet name = environment'.isSet name) :
    setting.firstSet? environment = setting.firstSet? environment' := by
  rw [firstSet?, firstSet?, funext sameSet]

/-- A file is no source or is the one at its path. -/
theorem fileSource_cases (test : Toml.Value → Bool) (file : Option (String × Toml.Value)) :
    fileSource test file = .default ∨
      ∃ found, file = some found ∧ fileSource test file = .file found.1 := by
  cases file with
  | none => exact .inl rfl
  | some found =>
    cases passes : test found.2 with
    | false => exact .inl (by simp [fileSource, Option.filter, passes])
    | true => exact .inr ⟨found, rfl, by simp [fileSource, Option.filter, passes]⟩

section Sources

variable (sameSet : ∀ name, environment.isSet name = environment'.isSet name)
  (onePath : ∀ first second, written = some first → written' = some second →
    first.1 = second.1)
include sameSet onePath

/-- With the same variables set and files at one path, the sources of a setting are the same just if
one of its variables is set or both files have an entry or none has. -/
theorem source_eq_iff (setting : Setting) :
    setting.source environment written = setting.source environment' written' ↔
      (setting.firstSet? environment = none →
        written.any (fun file => setting.isInFile file.2) =
          written'.any fun file => setting.isInFile file.2) := by
  cases first : setting.firstSet? environment with
  | some name =>
    rw [source_of_set first, source_of_set ((setting.firstSet?_congr sameSet).symm.trans first)]
    simp
  | none =>
    rw [source_of_unset first, source_of_unset ((setting.firstSet?_congr sameSet).symm.trans first),
      fileSource_eq_iff onePath]
    simp

/-- A source and the bracket after it do not go on with another source of the setting. -/
theorem source_eq_of_prefix {setting : Setting}
    (begins : (setting.source environment written).text.toList ++ [')'] <+:
        (setting.source environment' written').text.toList ++ [')'] ∨
      (setting.source environment' written').text.toList ++ [')'] <+:
        (setting.source environment written).text.toList ++ [')']) :
    setting.source environment written = setting.source environment' written' := by
  -- the default and a file begin with different letters
  have apart (path : String) (others others' : List Char) :
      ¬ Source.default.text.toList ++ others <+: (Source.file path).text.toList ++ others' ∧
        ¬ (Source.file path).text.toList ++ others <+: Source.default.text.toList ++ others' := by
    simp [Source.text, String.toList_append]
  cases first : setting.firstSet? environment with
  | some name =>
    rw [source_of_set first, source_of_set ((setting.firstSet?_congr sameSet).symm.trans first)]
  | none =>
    rw [source_of_unset first, source_of_unset ((setting.firstSet?_congr sameSet).symm.trans first)]
      at begins ⊢
    obtain source | ⟨found, isFound, source⟩ := fileSource_cases setting.isInFile written <;>
      obtain source' | ⟨found', isFound', source'⟩ := fileSource_cases setting.isInFile written' <;>
      rw [source, source'] at begins ⊢
    · exact absurd begins (by simp [apart])
    · exact absurd begins (by simp [apart])
    · rw [onePath found found' isFound isFound']

end Sources

end Setting

namespace Settings

variable {settings settings' : Settings} {environment environment' : Environment}
  {written written' : Option (String × Toml.Value)}

/-- The entries of a file as it is written are those of its text. -/
theorem any_writtenFile? {files : FileTree} {path text : String}
    (found : file? files Option.none = some path)
    (stands : files.find? path = some (.text text)) {test : Toml.Value → Bool} :
    (writtenFile? files).any (fun file => test file.2) = (Toml.ofText? text).any test := by
  simp only [writtenFile?, found, Option.bind_eq_bind, Option.bind_some, stands]
  cases Toml.ofText? text <;> rfl

/-- Two lists of settings that show the same values, with the same variables set and files at one
path, read the same just if the files have the same entries as far as no variable is set. -/
theorem report_lines_eq_iff (shown : ∀ setting : Setting, setting.shown (settings.value setting) =
      setting.shown (settings'.value setting))
    (sameSet : ∀ name, environment.isSet name = environment'.isSet name)
    (onePath : ∀ first second, written = some first → written' = some second →
      first.1 = second.1) :
    Reply.report (settings.lines environment written) =
        Reply.report (settings'.lines environment' written') ↔
      ∀ setting : Setting, setting.firstSet? environment = none →
        written.any (fun file => setting.isInFile file.2) =
          written'.any fun file => setting.isInFile file.2 := by
  -- the part of a line before its source is the same in both lists
  have line (setting : Setting) : ∃ front, ∀ source,
      (setting.line (settings.value setting) source).toList =
          front ++ (source.text.toList ++ [')']) ∧
        (setting.line (settings'.value setting) source).toList =
          front ++ (source.text.toList ++ [')']) := by
    refine ⟨("- " ++ setting.path ++ " = " ++ setting.shown (settings.value setting) ++
      " (source: ").toList, fun source => ?_⟩
    simp [Setting.line, ← shown setting, String.toList_append]
  choose front line using line
  have apart : List.Forall₂ (fun part part' => part <+: part' ∨ part' <+: part → part = part')
      ((settings.lines environment written).map String.toList)
      ((settings'.lines environment' written').map String.toList) := by
    simp only [lines, List.map_cons, List.map_map]
    refine .cons (fun _ => rfl) ?_
    rw [List.forall₂_map_left_iff, List.forall₂_map_right_iff, List.forall₂_same]
    intro setting _ begins
    simp only [Function.comp_apply, line, List.prefix_append_right_inj] at begins ⊢
    rw [Setting.source_eq_of_prefix sameSet onePath begins]
  have whole : Reply.report (settings.lines environment written) =
        Reply.report (settings'.lines environment' written') ↔
      (settings.lines environment written).map String.toList =
        (settings'.lines environment' written').map String.toList := by
    rw [← intercalate_eq_iff ['\n'] apart]
    simp [Reply.report, ← String.toList_inj, String.toList_intercalate]
  rw [whole]
  simp only [lines, List.map_cons, List.map_map, List.cons.injEq, true_and, List.map_inj_left,
    Setting.mem_all, forall_const, Function.comp_apply, line, List.append_cancel_left_eq]
  refine forall_congr' fun setting => ?_
  rw [← setting.source_eq_iff sameSet onePath]
  constructor
  · exact fun same => Setting.source_eq_of_prefix sameSet onePath (.inl (same ▸ List.prefix_rfl))
  · exact fun same => by rw [same]

end Settings

/-! ## Two hosts -/

/-- Two hosts whose settings load and are equal but for the passwords, none of which is empty on one
of them only, with the same variables set and a file at the same path, or none. -/
structure Host.DifferInPasswords (host host' : Host) (settings settings' : Settings) : Prop where
  /-- The settings of the first host. -/
  loads : host.settings = .ok settings
  /-- The settings of the second host. -/
  loads' : host'.settings = .ok settings'
  /-- All settings but the passwords are equal. -/
  others : ∀ setting : Setting, setting.isPassword = false →
    settings.value setting = settings'.value setting
  /-- The password of the administrator is empty on both or on none. -/
  adminEmpty : (settings.value .adminPassword : String).isEmpty =
    (settings'.value .adminPassword : String).isEmpty
  /-- The password of the user account is empty on both or on none. -/
  userEmpty : (settings.value .userPassword : String).isEmpty =
    (settings'.value .userPassword : String).isEmpty
  /-- The same variables are set. -/
  sameSet : ∀ name, host.environment.isSet name = host'.environment.isSet name
  /-- A file is found at the same path. -/
  onePath : Settings.file? host.files none = Settings.file? host'.files none

namespace Host.DifferInPasswords

variable {host host' : Host} {settings settings' : Settings}

/-- The values that are listed are the same. -/
theorem shown (differ : host.DifferInPasswords host' settings settings') (setting : Setting) :
    setting.shown (settings.value setting) = setting.shown (settings'.value setting) := by
  cases setting with
  | adminPassword => simp only [Setting.shown, differ.adminEmpty]
  | userPassword => simp only [Setting.shown, differ.userEmpty]
  | _ => rw [differ.others _ rfl]

end Host.DifferInPasswords

/-- The first two checks of a host whose settings load. -/
theorem Host.take_checks_readiness {host : Host} {settings : Settings}
    (loads : host.settings = .ok settings) :
    host.readiness.1.checks.take 2 = [Readiness.loaded, settings.accounts.check] := by
  simp only [readiness, loads]
  rfl

/-- Two hosts whose settings differ in the passwords at most. The checks of the settings and of who
may sign in are the same. The lists of settings read the same just if the files have the same
entries as they are written, as far as no variable is set; and so it is when there is no file, or
when the files are equal but for quoted passwords. -/
theorem inspection_conceals_passwords {host host' : Host} {settings settings' : Settings}
    (differ : host.DifferInPasswords host' settings settings') (occasion : Occasion) :
    host.readiness.1.checks.take 2 = host'.readiness.1.checks.take 2 ∧
      ((Command.config.run occasion host).1 = (Command.config.run occasion host').1 ↔
        ∀ setting : Setting, setting.firstSet? host.environment = none →
          (Settings.writtenFile? host.files).any (fun file => setting.isInFile file.2) =
            (Settings.writtenFile? host'.files).any fun file => setting.isInFile file.2) ∧
      ((∀ path, Settings.file? host.files none = some path → ∃ text text',
          host.files.find? path = some (.text text) ∧
            host'.files.find? path = some (.text text') ∧ EqualButPasswords text text') →
        (Command.config.run occasion host).1 = (Command.config.run occasion host').1) := by
  have listing : (Command.config.run occasion host).1 = (Command.config.run occasion host').1 ↔
      ∀ setting : Setting, setting.firstSet? host.environment = none →
        (Settings.writtenFile? host.files).any (fun file => setting.isInFile file.2) =
          (Settings.writtenFile? host'.files).any fun file => setting.isInFile file.2 := by
    simp only [Command.run, Command.runConfig, differ.loads, differ.loads']
    refine Settings.report_lines_eq_iff differ.shown differ.sameSet
      fun first second isFirst isSecond => ?_
    have there := Settings.file?_of_writtenFile? isFirst
    rw [differ.onePath, Settings.file?_of_writtenFile? isSecond] at there
    exact (Option.some.inj there).symm
  refine ⟨?_, listing, fun files => listing.2 fun setting _ => ?_⟩
  · rw [Host.take_checks_readiness differ.loads, Host.take_checks_readiness differ.loads']
    simp only [Accounts.check, Settings.accounts, differ.others .allowAny rfl,
      differ.others .adminUsername rfl, differ.others .userUsername rfl]
    rfl
  · cases found : Settings.file? host.files none with
    | none => simp [Settings.writtenFile?, ← differ.onePath, found]
    | some path =>
      obtain ⟨text, text', stands, stands', equal⟩ := files path found
      rw [Settings.any_writtenFile? found stands,
        Settings.any_writtenFile? (differ.onePath.symm.trans found) stands',
        equal.any_isInFile setting]

/-! ## One password in a file -/

/-- The values of a setting can be compared. -/
instance (setting : Setting) : DecidableEq setting.Value :=
  match setting with
  | .databaseUrl | .stateKey | .adminUsername | .adminPassword | .userUsername | .userPassword
  | .logLevel => inferInstanceAs (DecidableEq String)
  | .maxConnections => inferInstanceAs (DecidableEq UInt32)
  | .timeoutSeconds => inferInstanceAs (DecidableEq UInt64)
  | .allowAny => inferInstanceAs (DecidableEq Bool)
  | .logFormat => inferInstanceAs (DecidableEq LogFormat)

/-- A text of a file with a password between quotes and nothing else. -/
def passwordText (inside : String) : String :=
  "[auth]\nadmin_password = " ++ ("\"" ++ inside ++ "\"") ++ "\n"

/-- A host with such a file and one variable. -/
def withPassword (inside : String) : Host where
  environment name := [("X", "n")].lookup name
  files := ⟨[("q2d.toml", .text (passwordText inside))]⟩

/-- The defaults, but for the password of the administrator. -/
def defaultsWith (password : String) : Settings :=
  .complete (Partial.none.set .adminPassword password)

/-- The settings of such a host, from the values of each of them. -/
theorem settings_withPassword {inside password : String}
    (given : ∀ setting ∈ Setting.all, (withPassword inside).settings.toOption.map (fun settings =>
      settings.value setting) = some ((defaultsWith password).value setting)) :
    (withPassword inside).settings = .ok (defaultsWith password) := by
  cases loads : (withPassword inside).settings with
  | error error =>
    rw [loads] at given
    cases given .databaseUrl (by simp)
  | ok settings =>
    rw [loads] at given
    have values : settings.value = (defaultsWith password).value :=
      funext fun setting => Option.some.inj (given setting (by simp))
    rw [show settings = ⟨settings.value⟩ from rfl, values]

/-- Such a file is found. -/
theorem file?_withPassword (inside : String) :
    Settings.file? (withPassword inside).files none = some "q2d.toml" ∧
      (withPassword inside).files.find? "q2d.toml" = some (.text (passwordText inside)) := by
  have steps : FileTree.steps "q2d.toml" = ["q2d.toml"] := by decide +kernel
  have ends : "q2d.toml".endsWith "/" = false ∧ "q2d.toml".endsWith "/." = false := by
    decide +kernel
  have stands : (withPassword inside).files.find? "q2d.toml" =
      some (.text (passwordText inside)) := by
    simp [FileTree.find?, FileTree.walk, FileTree.at?, withPassword, steps, ends]
  exact ⟨by simp [Settings.file?, Settings.candidates, stands], stands⟩

/-- Two such hosts differ in their passwords at most, if none is empty. -/
theorem differInPasswords_withPassword {inside inside' password password' : String}
    (loads : (withPassword inside).settings = .ok (defaultsWith password))
    (loads' : (withPassword inside').settings = .ok (defaultsWith password'))
    (filled : password.isEmpty = false) (filled' : password'.isEmpty = false) :
    (withPassword inside).DifferInPasswords (withPassword inside') (defaultsWith password)
      (defaultsWith password') where
  loads := loads
  loads' := loads'
  others setting other := by
    cases setting with
    | adminPassword | userPassword => cases other
    | _ => rfl
  adminEmpty := filled.trans filled'.symm
  userEmpty := rfl
  sameSet _ := rfl
  onePath := (file?_withPassword inside).1.trans (file?_withPassword inside').1.symm

/-- A text with something between quotes at the end of its last line. -/
theorem quoted_eq_ofList (front inside : String) : front ++ ("\"" ++ inside ++ "\"") ++ "\n" =
    String.ofList (front.toList ++ ('"' :: (inside.toList ++ ['"']) ++ ['\n'])) := by
  have quote : "\"".toList = ['"'] := by decide
  have newline : "\n".toList = ['\n'] := by decide
  rw [← String.toList_inj, String.toList_ofList]
  simp only [String.toList_append, quote, newline, List.append_assoc, List.cons_append,
    List.nil_append]

/-- The texts of two such files are equal but for the passwords, if both are strings. -/
theorem equalButPasswords_passwordText {inside inside' : String} (string string' : String)
    (read : Toml.readString ('"' :: (inside.toList ++ ['"']) ++ ['\n']) = some (string, ['\n']))
    (read' : Toml.readString ('"' :: (inside'.toList ++ ['"']) ++ ['\n']) =
      some (string', ['\n'])) :
    EqualButPasswords (passwordText inside) (passwordText inside') := by
  have text (inside : String) : passwordText inside = String.ofList
      ("[auth]\nadmin_password = ".toList ++ ('"' :: (inside.toList ++ ['"']) ++ ['\n'])) :=
    quoted_eq_ofList _ inside
  have awaits : Toml.Awaits Setting.adminPassword.sectionName Setting.adminPassword.key []
      (Toml.withoutMark "[auth]\nadmin_password = ".toList) := QuotedVariable.password.awaits
  rw [text inside, text inside']
  exact .password .refl rfl awaits read read'

/-- A password that is a string as it is written is loaded. -/
theorem settings_hunter : (withPassword "hunter2").settings = .ok (defaultsWith "hunter2") :=
  settings_withPassword (by decide +kernel)

/-- When the settings are listed, which does not matter. -/
def inspection : Occasion := ⟨.still .epoch, ⟨""⟩, []⟩

/-- Passwords that are strings as they are written are not told apart. -/
theorem inspection_conceals_passwords_hunter :
    (Command.config.run inspection (withPassword "hunter2")).1 =
      (Command.config.run inspection (withPassword "correct horse")).1 := by
  have loads : (withPassword "correct horse").settings = .ok (defaultsWith "correct horse") :=
    settings_withPassword (by decide +kernel)
  have differ := differInPasswords_withPassword settings_hunter loads (by decide) (by decide)
  refine (inspection_conceals_passwords differ inspection).2.2 fun path found => ?_
  cases (file?_withPassword "hunter2").1.symm.trans found
  refine ⟨_, _, (file?_withPassword _).2, (file?_withPassword _).2, ?_⟩
  exact equalButPasswords_passwordText "hunter2" "correct horse" (by decide +kernel)
    (by decide +kernel)

/-- A password that is none as it is written, but becomes one when an expression in it is replaced,
is told apart from another one: no source is the file. -/
theorem listing_differs_escape :
    (withPassword "\\$\x7bX\x7d").DifferInPasswords (withPassword "hunter2") (defaultsWith "\n")
        (defaultsWith "hunter2") ∧
      (Command.config.run inspection (withPassword "\\$\x7bX\x7d")).1 ≠
        (Command.config.run inspection (withPassword "hunter2")).1 := by
  have loads : (withPassword "\\$\x7bX\x7d").settings = .ok (defaultsWith "\n") :=
    settings_withPassword (by decide +kernel)
  exact ⟨differInPasswords_withPassword loads settings_hunter (by decide) (by decide),
    by decide +kernel⟩

end OrderPipeline
