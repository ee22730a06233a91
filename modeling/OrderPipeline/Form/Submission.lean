import OrderPipeline.Engine
import OrderPipeline.Form.Catalogue
import OrderPipeline.Keyed

/-!
# Submissions

A form is filled in with `name=value` texts. `FormValues.ofPairs` keeps the last value given for
each name, in the order of the names; `FormValues.toAttributes` reads the values as the form says,
where a blank value counts as not given. `Submission.plan` turns the data into the two actions that
the submission amounts to: move the order on, or only record the data when the follow-up asks for
another call, and then record the activity.
-/

namespace OrderPipeline

/-- Why a submission is refused. -/
inductive FormError where
  /-- Needed fields are not given. -/
  | missingRequiredFields (names : List String)
  /-- The form has no field of that name. -/
  | unknownField (stage : Stage) (name : String)
  /-- A value cannot be read. -/
  | invalidValue (name value reason : String)
  /-- A text is not of the form `name=value`. -/
  | malformedPair (text : String)
  /-- The stage has no form. -/
  | noForm (stage : Stage)
  /-- The order does not stand at the stage. -/
  | notAtStage (id : ItemId) (stage current : Stage)
  deriving DecidableEq

namespace FormError

/-- What is said about a refused submission. -/
def message : FormError → String
  | missingRequiredFields names => "missing required fields: " ++ ", ".intercalate names
  | unknownField stage name => "stage `" ++ stage.name ++ "` has no field named `" ++ name ++ "`"
  | invalidValue name value reason =>
    "invalid value `" ++ value ++ "` for field `" ++ name ++ "`: " ++ reason
  | malformedPair text => "expected `name=value`, got `" ++ text ++ "`"
  | noForm stage => "stage `" ++ stage.name ++ "` has no update form"
  | notAtStage id stage current =>
    "item `" ++ id.text ++ "` is at stage `" ++ current.name ++ "`, not `" ++ stage.name ++ "`"

end FormError

/-- Values as they were typed, one for each name, in the order of the names. -/
structure FormValues where
  /-- The names with their values. -/
  entries : List (String × String) := []
  deriving DecidableEq, Inhabited

namespace FormValues

/-- The values with one more. -/
def insert (values : FormValues) (name value : String) : FormValues :=
  ⟨Keyed.insert name value values.entries⟩

/-- The name and value of a pair, split at its first equals sign and trimmed; a pair needs a name
that is not blank. -/
def splitPair? (pair : String) : Option (String × String) :=
  let cs := pair.toList
  match cs.dropWhile fun c => c != '=' with
  | [] => none
  | _ :: value =>
    let name := Text.trimEnds (cs.takeWhile fun c => c != '=')
    if name.isEmpty then none
    else some (String.ofList name, String.ofList (Text.trimEnds value))

/-- Adds pairs to values; a later value for a name replaces an earlier one. -/
def addPairs (values : FormValues) : List String → Except FormError FormValues
  | [] => .ok values
  | pair :: rest =>
    match splitPair? pair with
    | some (name, value) => (values.insert name value).addPairs rest
    | none => .error (.malformedPair pair)

/-- The values given by pairs. -/
def ofPairs (pairs : List String) : Except FormError FormValues := addPairs {} pairs

/-- Reads values as a form says and lays them over data read before. -/
def readEntries (form : StageForm) (data : Attributes) :
    List (String × String) → Except FormError Attributes
  | [] => .ok data
  | (name, raw) :: rest =>
    match form.field? name with
    | none => .error (.unknownField form.stage name)
    | some field =>
      if raw.isEmpty then readEntries form data rest
      else
        match field.field.type.readTyped raw with
        | .error reason => .error (.invalidValue name raw reason)
        | .ok value => readEntries form (data.merge (.single field.field value)) rest

/-- The attributes that the values of a form stand for. -/
def toAttributes (values : FormValues) (form : StageForm) : Except FormError Attributes :=
  readEntries form .empty values.entries

end FormValues

namespace Submission

/-- Whether the order stays where it is: the follow-up asks for another call. -/
def staysAt (stage : Stage) (data : Attributes) : Bool :=
  stage == .followup && (data.status == some .followUp || data.status == some .needTime)

/-- The form of a stage. -/
def form (stage : Stage) : Except FormError StageForm :=
  match StageForm.of? stage with
  | some form => .ok form
  | none => .error (.noForm stage)

/-- The data that a form is filled in with. -/
def read (stage : Stage) (pairs : List String) : Except FormError Attributes := do
  let form ← form stage
  (← FormValues.ofPairs pairs).toAttributes form

/-- The actions that a submission for an order amounts to. -/
def plan (item : Item) (stage : Stage) (data : Attributes) : Except FormError (List Action) := do
  let form ← form stage
  if item.stage ≠ stage then throw (.notAtStage item.id stage item.stage)
  let missing := form.missing data
  if !missing.isEmpty then throw (.missingRequiredFields (missing.map FormField.name))
  let record :=
    if staysAt stage data then Action.logStage item.id stage data
    else Action.advance item.id stage data
  return [record, .addActivity item.customerName ("Updated in " ++ form.title) form.title]

end Submission

end OrderPipeline
