import OrderPipeline.Proofs.Form.HandedOver
import OrderPipeline.Proofs.Form.Pairs
import OrderPipeline.Proofs.Submission.Outcome
import OrderPipeline.Proofs.Text.ByteOrder

/-!
# What a form is filled in with

The texts that a form is filled in with are read in full or not at all. `StageForm.Fault` says which
values a form refuses, `FilledIn` what is set by the values that it takes, and `Reading` which of
the three outcomes some texts have: a text that stands for no value, a value that is refused, or the
data.

* `StageForm.fault_or_brings` — a single value is refused, or brings what it sets.
* `StageForm.exists_first_fault`, `StageForm.exists_readEntries` — values are taken one by one, up
  to the first that is refused.
* `form_sets_what_is_given` — the outcome for every form and all texts.
-/

namespace OrderPipeline

/-! ## What is set -/

namespace Attributes

variable {data : Attributes} {name : String}

/-- An update in which nothing is set changes nothing. -/
theorem merge_empty (data : Attributes) : data.merge .empty = data := by
  refine ext_get fun field => ?_
  rw [get_merge, get_empty, Option.none_or]

/-- The names of what is set. -/
theorem mem_setNames : name ∈ data.setNames ↔
    ∃ field : Attribute, field.name = name ∧ data.isSet field = true := by
  rw [setNames, List.mem_mergeSort, List.mem_map]
  refine exists_congr fun field => ?_
  rw [List.mem_filter, and_comm]
  simp

/-- The names of what is set are in order, and each is there once. -/
theorem pairwise_setNames (data : Attributes) : data.setNames.Pairwise (· < ·) := by
  have sorted : data.setNames.Pairwise fun left right => decide (left ≤ right) = true := by
    refine List.pairwise_mergeSort (fun left middle right => ?_) (fun left right => ?_) _
    · simpa using le_trans
    · simpa using le_total left right
  have distinct : data.setNames.Nodup := by
    rw [setNames, (List.mergeSort_perm _ _).nodup_iff]
    exact (Attribute.nodup_names.sublist ((List.filter_sublist ).map Attribute.name))
  refine (sorted.and distinct).imp fun ⟨before, different⟩ => ?_
  exact lt_of_le_of_ne (of_decide_eq_true before) different

/-- The value of an attribute is found under its name. -/
@[simp] theorem field?_name (data : Attributes) (field : Attribute) :
    data.field? field.name = (data.get field).map field.type.encode := by
  rw [field?, Attribute.ofName?_name]
  change (data.get field).bind (fun value => some (field.type.encode value)) = _
  rw [Option.map_eq_bind]
  rfl

/-- There is a value under a name exactly when it is the name of something that is set. -/
theorem isSome_field?_iff : (data.field? name).isSome = true ↔ name ∈ data.setNames := by
  rw [mem_setNames]
  constructor
  · intro found
    cases known : Attribute.ofName? name with
    | none => simp [field?, known] at found
    | some field =>
      have named : field.name = name := by simpa using List.find?_some known
      subst named
      rw [field?_name, Option.isSome_map] at found
      exact ⟨field, rfl, found⟩
  · rintro ⟨field, rfl, set⟩
    rw [field?_name, Option.isSome_map]
    exact set

end Attributes

/-! ## Values that a form refuses -/

namespace StageForm

/-- Why a form refuses a value for a name. -/
inductive Fault (form : StageForm) (name raw : String) : FormError → Prop where
  /-- No field has the name. -/
  | unknownField (absent : ∀ field ∈ form.fields, field.name ≠ name) :
    Fault form name raw (.unknownField form.stage name)
  /-- The value is not blank, and the field of that name does not read it. -/
  | invalidValue {field : FormField} {reason : String} (member : field ∈ form.fields)
    (named : field.name = name) (given : raw ≠ "")
    (unread : field.field.type.readTyped raw = .error reason) :
    Fault form name raw (.invalidValue name raw reason)

variable {form : StageForm} {name raw : String}

/-- The field that is found for a name is one of the form and has the name. -/
theorem mem_of_field? {field : FormField} (found : form.field? name = some field) :
    field ∈ form.fields ∧ field.name = name :=
  ⟨List.mem_of_find?_eq_some found, by simpa using List.find?_some found⟩

/-- Fields of one name hold the same attribute. -/
theorem field_eq_of_name_eq {field other : FormField} (same : field.name = other.name) :
    field.field = other.field :=
  Attribute.name_injective same

/-- No field is found for a name that none has. -/
theorem field?_eq_none_iff :
    form.field? name = none ↔ ∀ field ∈ form.fields, field.name ≠ name := by
  simp [field?, List.find?_eq_none]

variable {data : Attributes} {rest : List (String × String)}

/-- A value that is refused is reported, whatever was read before and is left to read. -/
theorem readEntries_of_fault {fault : FormError} (faulty : form.Fault name raw fault) :
    FormValues.readEntries form data ((name, raw) :: rest) = .error fault := by
  rw [FormValues.readEntries]
  cases faulty with
  | unknownField absent => rw [field?_eq_none_iff.2 absent]
  | @invalidValue field reason member named given unread =>
    have found : form.field? name ≠ none :=
      fun none => field?_eq_none_iff.1 none field member named
    obtain ⟨first, chosen⟩ := Option.ne_none_iff_exists'.1 found
    have unreadFirst : first.field.type.readTyped raw = .error reason := by
      rw [field_eq_of_name_eq ((mem_of_field? chosen).2.trans named.symm)]
      exact unread
    simp only [chosen, String.isEmpty_iff, given, if_false, unreadFirst]

/-- What a value that a form takes for a name brings: nothing if it is blank, and otherwise the
value that the field reads. -/
inductive Brings (form : StageForm) (name raw : String) : Attributes → Prop where
  /-- A blank value for a field. -/
  | nothing {field : FormField} (member : field ∈ form.fields) (named : field.name = name)
    (blank : raw = "") : Brings form name raw .empty
  /-- A value that is not blank and is read. -/
  | value {field : FormField} {value : field.field.Value} (member : field ∈ form.fields)
    (named : field.name = name) (given : raw ≠ "")
    (read : field.field.type.readTyped raw = .ok value) :
    Brings form name raw (.single field.field value)

namespace Brings

variable {update : Attributes}

/-- A value that is not blank sets the field of its name. -/
theorem exists_value (brings : form.Brings name raw update) (given : raw ≠ "") :
    ∃ field ∈ form.fields, field.name = name ∧ ∃ value,
      field.field.type.readTyped raw = .ok value ∧ update.get field.field = some value := by
  cases brings with
  | nothing member named blank => exact absurd blank given
  | @value field value member named _ read =>
    exact ⟨field, member, named, value, read, Attributes.get_single_self _ _⟩

/-- No attribute is set by a blank value, or by one for another name. -/
theorem get_eq_none (brings : form.Brings name raw update) {field : Attribute}
    (blank : name = field.name → raw = "") : update.get field = none := by
  cases brings with
  | nothing => exact Attributes.get_empty field
  | value member named given =>
    refine Attributes.get_single_of_ne ?_ _
    rintro rfl
    exact given (blank named.symm)

end Brings

/-- A value is refused, or what it brings is laid over the data before the rest is read. -/
theorem fault_or_brings (form : StageForm) (name raw : String) :
    (∃ fault, form.Fault name raw fault) ∨
      ∃ update, form.Brings name raw update ∧ ∀ data rest,
        FormValues.readEntries form data ((name, raw) :: rest) =
          FormValues.readEntries form (data.merge update) rest := by
  cases found : form.field? name with
  | none => exact .inl ⟨_, .unknownField (field?_eq_none_iff.1 found)⟩
  | some field =>
    obtain ⟨member, named⟩ := mem_of_field? found
    by_cases blank : raw = ""
    · refine .inr ⟨.empty, .nothing member named blank, fun data rest => ?_⟩
      rw [FormValues.readEntries, found, Attributes.merge_empty, blank]
      rfl
    · cases read : field.field.type.readTyped raw with
      | error reason => exact .inl ⟨_, .invalidValue member named blank read⟩
      | ok value =>
        refine .inr ⟨_, .value member named blank read, fun data rest => ?_⟩
        simp only [FormValues.readEntries, found, String.isEmpty_iff, blank, if_false, read]

variable {entries : List (String × String)}

/-- If some values are refused, the first of them is reported. -/
theorem exists_first_fault (data : Attributes)
    (refused : ∃ entry ∈ entries, ∃ fault, form.Fault entry.1 entry.2 fault) :
    ∃ earlier name raw later fault, entries = earlier ++ (name, raw) :: later ∧
      (∀ entry ∈ earlier, ∀ fault, ¬ form.Fault entry.1 entry.2 fault) ∧
      form.Fault name raw fault ∧ FormValues.readEntries form data entries = .error fault := by
  induction entries generalizing data with
  | nil =>
    obtain ⟨entry, member, -⟩ := refused
    cases member
  | cons entry rest ih =>
    obtain ⟨name, raw⟩ := entry
    by_cases faulty : ∃ fault, form.Fault name raw fault
    · obtain ⟨fault, faulty⟩ := faulty
      exact ⟨[], name, raw, rest, fault, rfl, nofun, faulty, readEntries_of_fault faulty⟩
    · have later : ∃ entry ∈ rest, ∃ fault, form.Fault entry.1 entry.2 fault := by
        obtain ⟨entry, member, fault, refused⟩ := refused
        rcases List.mem_cons.1 member with rfl | among
        · exact absurd ⟨fault, refused⟩ faulty
        · exact ⟨entry, among, fault, refused⟩
      obtain ⟨update, -, step⟩ := (fault_or_brings form name raw).resolve_left faulty
      obtain ⟨earlier, first, text, after, fault, rfl, sound, refused, reported⟩ :=
        ih (data.merge update) later
      refine ⟨(name, raw) :: earlier, first, text, after, fault, rfl, ?_, refused, ?_⟩
      · exact List.forall_mem_cons.2 ⟨fun fault refused => faulty ⟨fault, refused⟩, sound⟩
      · rw [step, reported]

/-- If no value is refused, each that is not blank is set, and what has none stays as it was. -/
theorem exists_readEntries (data : Attributes) (distinct : (entries.map (·.1)).Nodup)
    (sound : ∀ entry ∈ entries, ∀ fault, ¬ form.Fault entry.1 entry.2 fault) :
    ∃ result, FormValues.readEntries form data entries = .ok result ∧
      (∀ entry ∈ entries, entry.2 ≠ "" → ∃ field ∈ form.fields, field.name = entry.1 ∧
        ∃ value, field.field.type.readTyped entry.2 = .ok value ∧
          result.get field.field = some value) ∧
      ∀ field : Attribute, (∀ entry ∈ entries, entry.1 = field.name → entry.2 = "") →
        result.get field = data.get field := by
  induction entries generalizing data with
  | nil => exact ⟨data, rfl, nofun, fun _ _ => rfl⟩
  | cons entry rest ih =>
    obtain ⟨name, raw⟩ := entry
    rw [List.map_cons, List.nodup_cons] at distinct
    obtain ⟨first, later⟩ := List.forall_mem_cons.1 sound
    obtain ⟨update, brings, step⟩ :=
      (fault_or_brings form name raw).resolve_left fun ⟨fault, refused⟩ => first fault refused
    obtain ⟨result, done, set, kept⟩ := ih (data.merge update) distinct.2 later
    refine ⟨result, (step data rest).trans done, ?_, fun field unset => ?_⟩
    · intro entry among given
      rcases List.mem_cons.1 among with rfl | among
      · obtain ⟨field, member, named, value, read, brought⟩ := brings.exists_value given
        refine ⟨field, member, named, value, read, ?_⟩
        -- no later value is for this field
        rw [kept field.field, Attributes.get_merge, brought, Option.some_or]
        intro entry among same
        exact absurd (List.mem_map.2 ⟨entry, among, same.trans named⟩) distinct.1
      · exact set entry among given
    · obtain ⟨here, unsetLater⟩ := List.forall_mem_cons.1 unset
      rw [kept field unsetLater, Attributes.get_merge, brings.get_eq_none here, Option.none_or]

end StageForm

/-! ## The outcome of some texts -/

/-- Whether a value that is not blank is the last one that some texts give for a name. -/
def FilledFor (pairs : List String) (name : String) : Prop :=
  ∃ raw, FormValues.LastGiven pairs name raw ∧ raw ≠ ""

/-- Whether a value is set in some data as it was typed: it is what is read from the text, and from
the record in which the text is handed over, where no other attribute is set. -/
structure SetAs (data : Attributes) (field : Attribute) (raw : String) (value : field.Value) :
    Prop where
  /-- The value is read from the text. -/
  read : field.type.readTyped raw = .ok value
  /-- The value is set. -/
  get_eq : data.get field = some value
  /-- The text is handed over as the value. -/
  handedOver : ∃ json, field.type.coerce raw = .ok json ∧
    ∀ node : Json.Node, node.Shows (.object [(field.name, json)]) →
      Attributes.decode true node = .ok (.single field value)

/-- A value that is read and set is set as it was typed. -/
theorem SetAs.of_read {data : Attributes} {field : Attribute} {raw : String} {value : field.Value}
    (read : field.type.readTyped raw = .ok value) (get_eq : data.get field = some value) :
    SetAs data field raw value := by
  obtain ⟨json, coerced⟩ := ValueType.exists_coerce_of_readTyped read
  refine ⟨read, get_eq, json, coerced, fun node shown => ?_⟩
  have decoded := Attributes.decode_handedOver coerced shown true
  rw [read] at decoded
  exact mapError_eq_ok_iff.1 decoded

open Classical in
/-- Whether some data are what a form is filled in with. -/
structure FilledIn (form : StageForm) (pairs : List String) (data : Attributes) : Prop where
  /-- A value that is not blank is set in the field of its name. -/
  value : ∀ name raw, FormValues.LastGiven pairs name raw → raw ≠ "" →
    ∃ field ∈ form.fields, field.name = name ∧ ∃ value, SetAs data field.field raw value
  /-- What is set is just what was filled in. -/
  mem_setNames_iff : ∀ name, name ∈ data.setNames ↔ FilledFor pairs name
  /-- The names of what is set are in order, and each is there once. -/
  setNames_ordered : data.setNames.Pairwise (· < ·)
  /-- There is a value under each of these names, and under no other. -/
  isSome_field?_iff : ∀ name, (data.field? name).isSome = true ↔ FilledFor pairs name
  /-- The needed fields that were not filled in are missing, in the order of the form. -/
  missing_eq : form.missing data =
    form.requiredFields.filter fun field => decide (¬ FilledFor pairs field.name)

/-- What some texts come to for a form. -/
inductive Reading (form : StageForm) (pairs : List String) :
    Except FormError Attributes → Prop where
  /-- The first text that stands for no value is reported. -/
  | malformed {earlier later : List String} {bad : String} (split : pairs = earlier ++ bad :: later)
    (wellFormed : ∀ pair ∈ earlier, ¬ FormValues.Malformed pair)
    (malformed : FormValues.Malformed bad) : Reading form pairs (.error (.malformedPair bad))
  /-- Of the values that are refused, the one is reported whose name comes first in the order of
  bytes. -/
  | refused {name raw : String} {fault : FormError}
    (wellFormed : ∀ pair ∈ pairs, ¬ FormValues.Malformed pair)
    (given : FormValues.LastGiven pairs name raw) (faulty : form.Fault name raw fault)
    (least : ∀ other text reason, FormValues.LastGiven pairs other text →
      form.Fault other text reason → Utf8.encode name ≤ Utf8.encode other) :
    Reading form pairs (.error fault)
  /-- The form takes all values. -/
  | filledIn {data : Attributes} (wellFormed : ∀ pair ∈ pairs, ¬ FormValues.Malformed pair)
    (sound : ∀ name raw fault, FormValues.LastGiven pairs name raw → ¬ form.Fault name raw fault)
    (filled : FilledIn form pairs data) : Reading form pairs (.ok data)

section Outcome

variable {form : StageForm} {pairs : List String} {values : FormValues}

/-- The values that are held are those given last. -/
theorem FormValues.Holds.mem_entries_iff (holds : values.Holds pairs) {name raw : String} :
    (name, raw) ∈ values.entries ↔ FormValues.LastGiven pairs name raw := by
  rw [← holds.lookup_eq_some_iff, holds.ordered.lookup_eq_some_iff]

/-- Of the values that are refused, the one whose name comes first is reported. -/
theorem reading_of_refused (wellFormed : ∀ pair ∈ pairs, ¬ FormValues.Malformed pair)
    (holds : values.Holds pairs)
    (refused : ∃ entry ∈ values.entries, ∃ fault, form.Fault entry.1 entry.2 fault) :
    Reading form pairs (values.toAttributes form) := by
  obtain ⟨earlier, name, raw, later, fault, split, sound, faulty, reported⟩ :=
    StageForm.exists_first_fault .empty refused
  have ordered := holds.ordered
  rw [Keyed.Ordered, split] at ordered
  have above := (List.pairwise_cons.1 (List.pairwise_append.1 ordered).2.1).1
  rw [FormValues.toAttributes, reported]
  refine .refused wellFormed (holds.mem_entries_iff.1 (by simp [split])) faulty ?_
  intro other text reason given otherFaulty
  rw [Utf8.encode_le_encode_iff]
  have member := holds.mem_entries_iff.2 given
  rw [split] at member
  rcases List.mem_append.1 member with before | after
  · exact absurd otherFaulty (sound _ before reason)
  · rcases List.mem_cons.1 after with same | after
    · exact le_of_eq (congrArg Prod.fst same).symm
    · exact le_of_lt (above _ after)

/-- What is set follows from the values that are set and from what is not. -/
theorem FilledIn.of_values {data : Attributes}
    (value : ∀ name raw, FormValues.LastGiven pairs name raw → raw ≠ "" →
      ∃ field ∈ form.fields, field.name = name ∧ ∃ value,
        field.field.type.readTyped raw = .ok value ∧ data.get field.field = some value)
    (unset : ∀ field : Attribute, ¬ FilledFor pairs field.name → data.get field = none) :
    FilledIn form pairs data := by
  have set : ∀ name, FilledFor pairs name →
      ∃ field : Attribute, field.name = name ∧ data.isSet field = true := by
    rintro name ⟨raw, given, nonblank⟩
    obtain ⟨field, -, named, held, -, found⟩ := value name raw given nonblank
    exact ⟨field.field, named, by rw [Attributes.isSet, found, Option.isSome_some]⟩
  have isSet_iff : ∀ field : Attribute, data.isSet field = true ↔ FilledFor pairs field.name := by
    intro field
    constructor
    · intro held
      by_contra unfilled
      rw [Attributes.isSet, unset field unfilled] at held
      cases held
    · intro filled
      obtain ⟨other, same, held⟩ := set field.name filled
      rwa [Attribute.name_injective same] at held
  have mem_setNames_iff : ∀ name, name ∈ data.setNames ↔ FilledFor pairs name := by
    intro name
    rw [Attributes.mem_setNames]
    constructor
    · rintro ⟨field, rfl, held⟩
      exact (isSet_iff field).1 held
    · exact set name
  refine ⟨fun name raw given nonblank => ?_, mem_setNames_iff, data.pairwise_setNames,
    fun name => Attributes.isSome_field?_iff.trans (mem_setNames_iff name), ?_⟩
  · obtain ⟨field, member, named, held, read, found⟩ := value name raw given nonblank
    exact ⟨field, member, named, held, .of_read read found⟩
  · rw [StageForm.missing]
    refine List.filter_congr fun field _ => ?_
    by_cases filled : FilledFor pairs field.name
    · simp [filled, (isSet_iff field.field).2 filled]
    · have free : data.isSet field.field = false :=
        Bool.eq_false_iff.2 fun held => filled ((isSet_iff field.field).1 held)
      simp [filled, free]

/-- Values that the form takes are read as what it is filled in with. -/
theorem reading_of_sound (wellFormed : ∀ pair ∈ pairs, ¬ FormValues.Malformed pair)
    (holds : values.Holds pairs)
    (sound : ∀ entry ∈ values.entries, ∀ fault, ¬ form.Fault entry.1 entry.2 fault) :
    Reading form pairs (values.toAttributes form) := by
  obtain ⟨data, done, set, kept⟩ :=
    StageForm.exists_readEntries .empty holds.ordered.nodup sound
  rw [FormValues.toAttributes, done]
  refine .filledIn wellFormed (fun name raw fault given =>
    sound _ (holds.mem_entries_iff.2 given) fault) (.of_values ?_ ?_)
  · intro name raw given nonblank
    exact set _ (holds.mem_entries_iff.2 given) nonblank
  · intro field unfilled
    rw [kept field, Attributes.get_empty]
    rintro ⟨_, raw⟩ member rfl
    by_contra nonblank
    exact unfilled ⟨raw, holds.mem_entries_iff.1 member, nonblank⟩

/-- Texts that all give values are read as they come to for the form. -/
theorem reading_of_holds (wellFormed : ∀ pair ∈ pairs, ¬ FormValues.Malformed pair)
    (holds : values.Holds pairs) : Reading form pairs (values.toAttributes form) := by
  by_cases refused : ∃ entry ∈ values.entries, ∃ fault, form.Fault entry.1 entry.2 fault
  · exact reading_of_refused wellFormed holds refused
  · exact reading_of_sound wellFormed holds fun entry member fault faulty =>
      refused ⟨entry, member, fault, faulty⟩

/-- At a stage that has a form, the values are read as the form says. -/
theorem read_of_form {stage : Stage} (formed : StageForm.of? stage = some form)
    (read : FormValues.ofPairs pairs = .ok values) :
    Submission.read stage pairs = values.toAttributes form := by
  simp only [Submission.read, Submission.form, formed, read, bind, Except.bind]

/-- At such a stage, the first text that stands for no value is reported. -/
theorem read_of_malformed {stage : Stage} {earlier later : List String} {bad : String}
    (formed : StageForm.of? stage = some form)
    (wellFormed : ∀ pair ∈ earlier, ¬ FormValues.Malformed pair)
    (malformed : FormValues.Malformed bad) :
    Submission.read stage (earlier ++ bad :: later) = .error (.malformedPair bad) := by
  simp only [Submission.read, Submission.form, formed,
    FormValues.ofPairs_of_malformed wellFormed malformed, bind, Except.bind]

/-- Of some texts either all give values, or there is a first one that gives none. -/
theorem exists_first_malformed (pairs : List String) :
    (∀ pair ∈ pairs, ¬ FormValues.Malformed pair) ∨
      ∃ earlier bad later, pairs = earlier ++ bad :: later ∧
        (∀ pair ∈ earlier, ¬ FormValues.Malformed pair) ∧ FormValues.Malformed bad := by
  induction pairs with
  | nil => exact .inl nofun
  | cons pair rest ih =>
    by_cases malformed : FormValues.Malformed pair
    · exact .inr ⟨[], pair, rest, rfl, nofun, malformed⟩
    · rcases ih with wellFormed | ⟨earlier, bad, later, rfl, wellFormed, malformed⟩
      · exact .inl (List.forall_mem_cons.2 ⟨malformed, wellFormed⟩)
      · next sound =>
        exact .inr ⟨pair :: earlier, bad, later, rfl,
          List.forall_mem_cons.2 ⟨sound, wellFormed⟩, malformed⟩

/-- What is read at a stage that has a form is what the texts come to. -/
theorem reading_read {stage : Stage} (formed : StageForm.of? stage = some form)
    (pairs : List String) : Reading form pairs (Submission.read stage pairs) := by
  rcases exists_first_malformed pairs with
    wellFormed | ⟨earlier, bad, later, rfl, wellFormed, malformed⟩
  · obtain ⟨values, read, holds⟩ := FormValues.exists_holds_ofPairs wellFormed
    rw [read_of_form formed read]
    exact reading_of_holds wellFormed holds
  · rw [read_of_malformed formed wellFormed malformed]
    exact .malformed rfl wellFormed malformed

/-- The data that is read there is what the form is filled in with. -/
theorem filledIn_of_read {stage : Stage} {data : Attributes}
    (formed : StageForm.of? stage = some form) (read : Submission.read stage pairs = .ok data) :
    FilledIn form pairs data := by
  have reading := reading_read formed pairs
  rw [read] at reading
  cases reading with
  | filledIn wellFormed sound filled => exact filled

/-- Texts that give the same last values are read in the same way. -/
theorem read_eq_of_lastGiven_iff {stage : Stage} {others : List String}
    (formed : StageForm.of? stage = some form)
    (wellFormed : ∀ pair ∈ pairs, ¬ FormValues.Malformed pair)
    (othersWellFormed : ∀ pair ∈ others, ¬ FormValues.Malformed pair)
    (same : ∀ name raw,
      FormValues.LastGiven others name raw ↔ FormValues.LastGiven pairs name raw) :
    Submission.read stage others = Submission.read stage pairs := by
  obtain ⟨values, read, holds⟩ := FormValues.exists_holds_ofPairs wellFormed
  obtain ⟨otherValues, otherRead, otherHolds⟩ := FormValues.exists_holds_ofPairs othersWellFormed
  rw [read_of_form formed read, read_of_form formed otherRead,
    holds.eq_of_lastGiven_iff otherHolds same]

/-- Every working stage has a form, for which all texts have one of three outcomes: the first text
that gives no value is reported; or else, of the last values for each name, the one that is refused
and whose name comes first; or the form is filled in with these values. Texts that give the same
last values have the same outcome. -/
theorem form_sets_what_is_given {stage : Stage} (working : stage ∈ Stage.working)
    (pairs : List String) :
    ∃ form, StageForm.of? stage = some form ∧
      Reading form pairs (Submission.read stage pairs) ∧
      ∀ others : List String, (∀ pair ∈ pairs, ¬ FormValues.Malformed pair) →
        (∀ pair ∈ others, ¬ FormValues.Malformed pair) →
        (∀ name raw, FormValues.LastGiven others name raw ↔ FormValues.LastGiven pairs name raw) →
        Submission.read stage others = Submission.read stage pairs := by
  obtain ⟨form, formed⟩ := Option.ne_none_iff_exists'.1 <|
    mt (StageForm.of?_eq_none_iff stage).1 ((Stage.mem_working_iff stage).1 working)
  refine ⟨form, formed, reading_read formed pairs, ?_⟩
  intro others wellFormed othersWellFormed same
  exact read_eq_of_lastGiven_iff formed wellFormed othersWellFormed same

/-- A remark that is given twice is set as it was given last, and a blank date is not set; of two
values that are refused, the one for the date is reported. -/
theorem form_sets_what_is_given_followup :
    Stage.followup ∈ Stage.working ∧
      FilledIn StageForm.followupForm
        [" status = Interested", "remark=first", "callDate= ", "remark = call after 5=pm "]
        { status := some .interested, remark := some "call after 5=pm" } ∧
      Reading StageForm.followupForm ["status=maybe", "callDate=2024-02-30"]
        (.error (.invalidValue "callDate" "2024-02-30" "expected a date as YYYY-MM-DD")) := by
  have working : Stage.followup ∈ Stage.working := by decide
  refine ⟨working, ?_, ?_⟩
  · obtain ⟨form, formed, reading, -⟩ := form_sets_what_is_given working
      [" status = Interested", "remark=first", "callDate= ", "remark = call after 5=pm "]
    have read : Submission.read .followup
        [" status = Interested", "remark=first", "callDate= ", "remark = call after 5=pm "] =
          .ok { status := some .interested, remark := some "call after 5=pm" } := by rfl
    cases formed
    rw [read] at reading
    cases reading with
    | filledIn wellFormed sound filled => exact filled
  · obtain ⟨form, formed, reading, -⟩ :=
      form_sets_what_is_given working ["status=maybe", "callDate=2024-02-30"]
    have read : Submission.read .followup ["status=maybe", "callDate=2024-02-30"] =
        .error (.invalidValue "callDate" "2024-02-30" "expected a date as YYYY-MM-DD") := by rfl
    cases formed
    rwa [read] at reading

end Outcome

end OrderPipeline
