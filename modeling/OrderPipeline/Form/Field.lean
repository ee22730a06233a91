import OrderPipeline.Item
import OrderPipeline.Text.Basic

/-!
# Fields of a form

A form field is filled in with text and holds an attribute. How the text is read depends on the
kind of the attribute alone (`ValueType.readTyped`), so a form cannot promise a value that its
attribute could not hold.
-/

namespace OrderPipeline

/-- A choice as it is offered on a form. -/
structure FieldOption where
  /-- How it is shown. -/
  label : String
  /-- How it is stored. -/
  value : String
  deriving DecidableEq

namespace ValueType

/-- The choices as they are offered on a form. -/
def optionsOf {α : Type} (choices : List (Choice α)) : List FieldOption :=
  choices.map fun choice => ⟨choice.label, choice.name⟩

/-- The options that a kind of values offers; none for a kind without fixed choices. -/
def options : ValueType → List FieldOption
  | followupStatus => optionsOf FollowupStatus.choices
  | yesNo => optionsOf YesNo.choices
  | timeSlot => optionsOf TimeSlot.choices
  | installStatus => optionsOf InstallStatus.choices
  | paymentMode => optionsOf PaymentMode.choices
  | _ => []

/-- The choice that a text names by its stored form or its label, up to the case of ASCII
letters. -/
def readChoice {α : Type} (choices : List (Choice α)) (raw : String) : Except String α :=
  let fits := fun choice : Choice α =>
    Text.sameIgnoringAsciiCase choice.name raw || Text.sameIgnoringAsciiCase choice.label raw
  match choices.find? fits with
  | some choice => .ok choice.value
  | none => .error ("expected one of " ++ "|".intercalate (choices.map (·.name)))

/-- A number that is not below zero. -/
def readNumber (raw : String) : Except String Decimal :=
  match Decimal.read? raw with
  | none => .error "expected a number"
  | some d => if d.negative then .error "expected zero or more" else .ok d

/-- The whole number of 64 bits that a decimal is, if it is one. -/
def wholeWord? (d : Decimal) : Option Nat :=
  d.toNat?.filter fun n => decide (n < Json.wordLimit)

/-- A number of pieces. -/
def readQuantity (raw : String) : Except String UInt32 := do
  let d ← readNumber raw
  match wholeWord? d with
  | some n =>
    match below? UInt32.size n with
    | some small => return UInt32.ofFin small
    | none => throw ("invalid value: integer `" ++ toString n ++ "`, expected u32")
  | none => throw ("invalid type: string \"" ++ d.text ++ "\", expected u32")

/-- An amount of money; whole amounts that fit a word lose their fraction of zeros. -/
def readAmount (raw : String) : Except String Decimal := do
  let d ← readNumber raw
  return ((wholeWord? d).bind fun n => Decimal.ofParts? false n 0).getD d

/-- A whole number between two bounds, both included. -/
def readBetween (least most : Nat) (raw : String) : Except String UInt8 :=
  match (unsigned? raw.toList).filter fun n => decide (least ≤ n ∧ n ≤ most) with
  | some n => .ok (UInt8.ofNat n)
  | none =>
    .error ("expected a whole number from " ++ toString least ++ " to " ++ toString most)

/-- Something that is or is not so. -/
def readFlag (raw : String) : Except String Bool :=
  let answer := Text.lowerAscii raw
  if answer ∈ ["true", "yes", "1", "on"] then .ok true
  else if answer ∈ ["false", "no", "0", "off"] then .ok false
  else .error "expected yes or no"

/-- Files by their names, with commas between them; blank names do not count. -/
def readFiles (raw : String) : List FileRef :=
  let names := ((Text.splitOn ',' raw.toList).map Text.trimEnds).filter fun name => !name.isEmpty
  names.map fun name => ⟨String.ofList name, "blob:" ++ String.ofList name⟩

/-- Reads a value from the text that it was typed as, or says what was expected. -/
def readTyped : (type : ValueType) → String → Except String type.Carrier
  | text, raw => .ok raw
  | date, raw => (Date.ofTyped raw).mapError fun _ => "expected a date as YYYY-MM-DD"
  | followupStatus, raw => readChoice FollowupStatus.choices raw
  | yesNo, raw => readChoice YesNo.choices raw
  | timeSlot, raw => readChoice TimeSlot.choices raw
  | installStatus, raw => readChoice InstallStatus.choices raw
  | paymentMode, raw => readChoice PaymentMode.choices raw
  | quantity, raw => readQuantity raw
  | percentage, raw => readBetween 0 100 raw
  | stars, raw => readBetween 1 5 raw
  | flag, raw => readFlag raw
  | amount, raw => readAmount raw
  | files, raw => .ok (readFiles raw)

/-- What a field for a kind of values is called; texts may be of one line or of several. -/
def fieldKind (multiline : Bool) : ValueType → String
  | text => if multiline then "textarea" else "text"
  | date => "date"
  | followupStatus | yesNo | timeSlot | installStatus | paymentMode => "select"
  | quantity | amount => "number"
  | percentage => "slider"
  | stars => "star-rating"
  | flag => "checkbox"
  | files => "file"

end ValueType

/-- A field of a form. -/
structure FormField where
  /-- The attribute that the field holds. -/
  field : Attribute
  /-- How the field is labelled. -/
  label : String
  /-- Whether a text may have several lines. -/
  multiline : Bool := false
  /-- Whether the form needs the field. -/
  required : Bool := false
  /-- What is shown in the empty field. -/
  placeholder : Option String := none
  deriving DecidableEq

namespace FormField

/-- The name of the field. -/
def name (field : FormField) : String := field.field.name

/-- The field as a record. -/
def toJson (field : FormField) : Json :=
  let type := field.field.type
  .object [("name", .string field.name), ("label", .string field.label),
    ("kind", .string (type.fieldKind field.multiline)), ("required", .bool field.required),
    ("options", .array (type.options.map fun option =>
      .object [("label", .string option.label), ("value", .string option.value)])),
    ("placeholder", .ofOption (field.placeholder.map .string))]

end FormField

/-- The form of a stage and the columns of its tables. -/
structure StageForm where
  /-- The stage. -/
  stage : Stage
  /-- The title of the form. -/
  title : String
  /-- What the form is for. -/
  subtitle : String
  /-- The columns of the table of pending orders. -/
  pendingColumns : List String
  /-- The columns of the table of orders that have moved on. -/
  historyColumns : List String
  /-- The fields. -/
  fields : List FormField
  deriving DecidableEq

namespace StageForm

/-- The field with a name. -/
def field? (form : StageForm) (name : String) : Option FormField :=
  form.fields.find? fun field => field.name == name

/-- The fields that the form needs. -/
def requiredFields (form : StageForm) : List FormField := form.fields.filter (·.required)

/-- The needed fields that some data leaves unset, in form order. -/
def missing (form : StageForm) (data : Attributes) : List FormField :=
  form.requiredFields.filter fun field => !data.isSet field.field

/-- The form as a record. -/
def toJson (form : StageForm) : Json :=
  let texts := fun labels : List String => Json.array (labels.map .string)
  .object [("stage", form.stage.toJson), ("title", .string form.title),
    ("subtitle", .string form.subtitle), ("pending_columns", texts form.pendingColumns),
    ("history_columns", texts form.historyColumns),
    ("form_fields", .array (form.fields.map FormField.toJson))]

end StageForm

end OrderPipeline
