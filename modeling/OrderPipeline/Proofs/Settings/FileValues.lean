import OrderPipeline.Proofs.Settings.Supply

/-!
# What a configuration file gives

A setting has one place in a file: the entry with its key in the table of its section, or its place
in the list that the section is written as. `Setting.inFile?` looks there and nowhere else, and
`Setting.FitsIn` says that what stands there is of the right kind. A file gives values just if all
settings fit, and then it gives each setting what stands in its place (`Partial.ofFile?_iff`).
-/

namespace OrderPipeline

namespace Setting

/-- What an entry of a table gives a setting. -/
def inEntries? (setting : Setting) (entries : List (String × Toml.Value)) : Option setting.Value :=
  (entries.lookup setting.key).bind setting.ofFile?

/-- Whether the entry of a setting in a table, if there is one, is of the right kind. -/
def FitsEntries (setting : Setting) (entries : List (String × Toml.Value)) : Prop :=
  ∀ entry, entries.lookup setting.key = some entry → ∃ value, setting.ofFile? entry = some value

/-- The settings of the section of a setting that come before it. -/
def place (setting : Setting) : Nat := (inSection setting.sectionName).idxOf setting

/-- The value that a file gives a setting in the place that is its own. -/
def inFile? (setting : Setting) (file : Toml.Value) : Option setting.Value :=
  match file.field? setting.sectionName with
  | some (.table entries) => setting.inEntries? entries
  | some (.array items) => items[setting.place]?.bind setting.ofFile?
  | _ => none

/-- Whether a file has what is of the right kind, or nothing, in the place of a setting. -/
def FitsIn (setting : Setting) (file : Toml.Value) : Prop :=
  match file.field? setting.sectionName with
  | none | some .datetime => True
  | some (.table entries) => setting.FitsEntries entries
  | some (.array items) =>
    ∃ item value, items[setting.place]? = some item ∧ setting.ofFile? item = some value
  | _ => False

end Setting

namespace Partial

variable {entries : List (String × Toml.Value)} {items : List Toml.Value}
  {settings : List Setting} {values : Partial}

@[simp] theorem or_none (first : Partial) : first.or none = first := by
  funext setting
  simp [Partial.or, none]

/-- One more value in an assignment. -/
theorem set_eq_iff {assignment : Partial} {setting : Setting} {value : setting.Value} :
    assignment.set setting value = values ↔
      some value = values setting ∧ ∀ other ≠ setting, assignment other = values other := by
  constructor
  · rintro rfl
    exact ⟨(set_self assignment setting value).symm, fun other different =>
      (set_of_ne assignment value different.symm).symm⟩
  · rintro ⟨own, others⟩
    funext other
    by_cases same : other = setting
    · subst same
      rw [← own, set_self]
    · rw [← others other same, set_of_ne assignment value (Ne.symm same)]

/-- The values that a table gives to some settings. -/
def inEntries (entries : List (String × Toml.Value)) (settings : List Setting) : Partial :=
  fun setting => if setting ∈ settings then setting.inEntries? entries else Option.none

/-- A table gives values to some settings just if their entries are of the right kind. -/
theorem ofEntries?_iff :
    ofEntries? entries settings = some values ↔
      (∀ setting ∈ settings, setting.FitsEntries entries) ∧
        inEntries entries settings = values := by
  induction settings generalizing values with
  | nil => simp [ofEntries?, inEntries, none, funext_iff]
  | cons first rest ih =>
    cases found : entries.lookup first.key with
    | none =>
      have whole : ofEntries? entries (first :: rest) = some values ↔
          ofEntries? entries rest = some values := by
        simp [ofEntries?, found]
      have absent : inEntries entries (first :: rest) = inEntries entries rest := by
        funext setting
        by_cases same : setting = first
        · subst same
          simp [inEntries, Setting.inEntries?, found]
        · simp [inEntries, same]
      rw [whole, ih]
      simp [Setting.FitsEntries, found, absent]
    | some entry =>
      have whole : ofEntries? entries (first :: rest) = some values ↔
          ∃ others, ofEntries? entries rest = some others ∧
            ∃ value, first.ofFile? entry = some value ∧ others.set first value = values := by
        simp [ofEntries?, found, Option.bind_eq_some_iff]
      rw [whole]
      simp only [ih]
      cases read : first.ofFile? entry with
      | none => simp [Setting.FitsEntries, found, read]
      | some value =>
        have added : inEntries entries (first :: rest) =
            (inEntries entries rest).set first value := by
          rw [eq_comm, set_eq_iff]
          refine ⟨by simp [inEntries, Setting.inEntries?, found, read], fun other different => ?_⟩
          simp [inEntries, different]
        simp [Setting.FitsEntries, found, read, added]

/-- The values that a list gives to some settings in order. -/
def inItems (items : List Toml.Value) (settings : List Setting) : Partial := fun setting =>
  if setting ∈ settings then items[settings.idxOf setting]?.bind setting.ofFile? else Option.none

/-- A list gives values to some settings just if it is long enough and its items are of the right
kind. -/
theorem ofItems?_iff (distinct : settings.Nodup) :
    ofItems? settings items = some values ↔
      (∀ setting ∈ settings, ∃ item value, items[settings.idxOf setting]? = some item ∧
        setting.ofFile? item = some value) ∧ inItems items settings = values := by
  induction settings generalizing items values with
  | nil => simp [ofItems?, inItems, none, funext_iff]
  | cons first rest ih =>
    obtain ⟨fresh, distinct⟩ := List.nodup_cons.1 distinct
    cases items with
    | nil =>
      constructor
      · intro read
        cases read
      · rintro ⟨fits, -⟩
        obtain ⟨item, value, found, -⟩ := fits first List.mem_cons_self
        simp at found
    | cons item items =>
      have later {setting : Setting} (isLater : setting ∈ rest) :
          (first :: rest).idxOf setting = rest.idxOf setting + 1 :=
        List.idxOf_cons_ne rest fun same => fresh (same ▸ isLater)
      have whole : ofItems? (first :: rest) (item :: items) = some values ↔
          ∃ others, ofItems? rest items = some others ∧
            ∃ value, first.ofFile? item = some value ∧ others.set first value = values := by
        simp [ofItems?, Option.bind_eq_some_iff]
      rw [whole]
      simp only [ih distinct]
      cases read : first.ofFile? item with
      | none => simp [read]
      | some value =>
        have added : inItems (item :: items) (first :: rest) =
            (inItems items rest).set first value := by
          rw [eq_comm, set_eq_iff]
          refine ⟨by simp [inItems, read], fun other different => ?_⟩
          by_cases isLater : other ∈ rest
          · simp [inItems, isLater, later isLater]
          · simp [inItems, isLater, different]
        have fits : (∀ setting ∈ first :: rest, ∃ found value,
              (item :: items)[(first :: rest).idxOf setting]? = some found ∧
                setting.ofFile? found = some value) ↔
            ∀ setting ∈ rest, ∃ found value, items[rest.idxOf setting]? = some found ∧
              setting.ofFile? found = some value := by
          rw [List.forall_mem_cons]
          simp only [List.idxOf_cons_self, List.getElem?_cons_zero, Option.some.injEq]
          constructor
          · rintro ⟨-, others⟩ setting isIn
            simpa [later isIn] using others setting isIn
          · intro others
            refine ⟨⟨item, value, rfl, read⟩, fun setting isIn => ?_⟩
            simpa [later isIn] using others setting isIn
        rw [fits, added]
        simp

/-! ## Sections -/

/-- The values that a file gives to the settings of a section. -/
def inSection (file : Toml.Value) (name : String) : Partial := fun setting =>
  if setting.sectionName = name then setting.inFile? file else Option.none

/-- A section with nothing for its settings gives no values. -/
theorem inSection_of_nothing {file : Toml.Value} {name : String}
    (nothing : file.field? name = Option.none ∨ file.field? name = some .datetime) :
    (∀ setting : Setting, setting.sectionName = name → setting.FitsIn file) ∧
      inSection file name = none := by
  constructor
  · rintro setting rfl
    rcases nothing with found | found <;> simp [Setting.FitsIn, found]
  · funext setting
    by_cases own : setting.sectionName = name
    · rcases nothing with found | found <;> simp [inSection, own, Setting.inFile?, found, none]
    · simp [inSection, own, none]

/-- A section gives values just if its settings fit. -/
theorem ofSection?_iff {file part : Toml.Value} {name : String}
    (isSection : name ∈ Setting.sections) (found : file.field? name = some part) :
    ofSection? (Setting.inSection name) part = some values ↔
      (∀ setting : Setting, setting.sectionName = name → setting.FitsIn file) ∧
        inSection file name = values := by
  have mem_inSection (setting : Setting) :
      setting ∈ Setting.inSection name ↔ setting.sectionName = name := by
    simp [Setting.inSection]
  cases part with
  | table entries =>
    have same : inSection file name = inEntries entries (Setting.inSection name) := by
      funext setting
      by_cases own : setting.sectionName = name
      · simp [inSection, inEntries, mem_inSection, own, Setting.inFile?, found]
      · simp [inSection, inEntries, mem_inSection, own]
    have fits (setting : Setting) : (setting.sectionName = name → setting.FitsIn file) ↔
        (setting ∈ Setting.inSection name → setting.FitsEntries entries) := by
      rw [mem_inSection]
      refine imp_congr_right fun own => ?_
      simp [Setting.FitsIn, own, found]
    simp only [ofSection?, ofEntries?_iff, fits, same]
  | array items =>
    have distinct : (Setting.inSection name).Nodup :=
      List.Nodup.sublist List.filter_sublist (by decide)
    have same : inSection file name = inItems items (Setting.inSection name) := by
      funext setting
      by_cases own : setting.sectionName = name
      · simp [inSection, inItems, mem_inSection, own, Setting.inFile?, found, Setting.place]
      · simp [inSection, inItems, mem_inSection, own]
    have fits (setting : Setting) : (setting.sectionName = name → setting.FitsIn file) ↔
        (setting ∈ Setting.inSection name → ∃ item value,
          items[(Setting.inSection name).idxOf setting]? = some item ∧
            setting.ofFile? item = some value) := by
      rw [mem_inSection]
      refine imp_congr_right fun own => ?_
      simp [Setting.FitsIn, own, found, Setting.place]
    simp only [ofSection?, ofItems?_iff distinct, fits, same]
  | datetime =>
    obtain ⟨fits, nothing⟩ := inSection_of_nothing (.inr found)
    simp only [ofSection?, nothing, Option.some.injEq]
    exact ⟨fun same => ⟨fits, same⟩, And.right⟩
  | string | integer | float | boolean =>
    -- every section has a setting, which does not fit in a part of another kind
    obtain ⟨first, isFirst⟩ : ∃ first : Setting, first.sectionName = name := by
      simp only [Setting.sections, List.mem_cons, List.not_mem_nil, or_false] at isSection
      rcases isSection with rfl | rfl | rfl
      · exact ⟨.databaseUrl, rfl⟩
      · exact ⟨.adminUsername, rfl⟩
      · exact ⟨.logLevel, rfl⟩
    constructor
    · intro read
      cases read
    · rintro ⟨fits, -⟩
      exact absurd (fits first isFirst) (by simp [Setting.FitsIn, isFirst, found])

/-- What a section adds to the values of other sections. -/
theorem withSection?_iff {file : Toml.Value} {before after : Partial} {name : String}
    (isSection : name ∈ Setting.sections) :
    withSection? file before name = some after ↔
      (∀ setting : Setting, setting.sectionName = name → setting.FitsIn file) ∧
        before.or (inSection file name) = after := by
  unfold withSection?
  cases found : file.field? name with
  | none =>
    obtain ⟨fits, nothing⟩ := inSection_of_nothing (.inl found)
    rw [nothing, or_none]
    simp only [Option.some.injEq]
    exact ⟨fun same => ⟨fits, same⟩, And.right⟩
  | some part =>
    simp only [Option.map_eq_some_iff, ofSection?_iff isSection found]
    simp

/-- A file gives values just if all settings fit, and then it gives each of them what stands in its
place. -/
theorem ofFile?_iff {file : Toml.Value} :
    ofFile? file = some values ↔
      (∀ setting : Setting, setting.FitsIn file) ∧
        ∀ setting : Setting, setting.inFile? file = values setting := by
  have folded : ofFile? file = some values ↔
      ∃ storage, withSection? file none "storage" = some storage ∧
        ∃ auth, withSection? file storage "auth" = some auth ∧
          withSection? file auth "logging" = some values := by
    simp only [ofFile?, Setting.sections, List.foldlM_cons, List.foldlM_nil, Option.bind_eq_bind,
      Option.bind_eq_some_iff, Option.pure_def, Option.some.injEq, exists_eq_right]
    rfl
  have given (setting : Setting) :
      (((none.or (inSection file "storage")).or (inSection file "auth")).or
        (inSection file "logging")) setting = setting.inFile? file := by
    cases setting <;> simp [Partial.or, none, inSection, Setting.sectionName]
  rw [folded]
  simp only [withSection?_iff (show "storage" ∈ Setting.sections by decide),
    withSection?_iff (show "auth" ∈ Setting.sections by decide),
    withSection?_iff (show "logging" ∈ Setting.sections by decide)]
  constructor
  · rintro ⟨storage, ⟨fitsStorage, rfl⟩, auth, ⟨fitsAuth, rfl⟩, fitsLogging, rfl⟩
    refine ⟨fun setting => ?_, fun setting => (given setting).symm⟩
    have inside : setting.sectionName = "storage" ∨ setting.sectionName = "auth" ∨
        setting.sectionName = "logging" := by cases setting <;> decide
    rcases inside with own | own | own
    · exact fitsStorage setting own
    · exact fitsAuth setting own
    · exact fitsLogging setting own
  · rintro ⟨fits, values_eq⟩
    refine ⟨_, ⟨fun setting _ => fits setting, rfl⟩, _, ⟨fun setting _ => fits setting, rfl⟩,
      fun setting _ => fits setting, funext fun setting => ?_⟩
    rw [given, values_eq]

end Partial

end OrderPipeline
