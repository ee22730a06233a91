import OrderPipeline.Text.Basic

/-!
# Environment variables

A variable that is set holds a text, or bytes that are no text. There are three ways to ask for it:
`Environment.isSet` tells whether it is set at all, `Environment.text?` gives its text, if it holds
one, and `Environment.effective` gives that text unless it is blank.
-/

namespace OrderPipeline

/-- What an environment variable is set to. -/
inductive Variable where
  /-- A text. -/
  | text (text : String)
  /-- Bytes that are no text. -/
  | binary
  deriving DecidableEq

/-- The text that a variable is set to. -/
def Variable.text? : Variable → Option String
  | text value => some value
  | binary => none

/-- The environment variables that are set, with what they are set to. -/
structure Environment where
  /-- What a variable is set to, if it is set. -/
  value? : String → Option Variable := fun _ => none

namespace Environment

/-- The environment whose variables are set to texts only. -/
def ofTexts (texts : String → Option String) : Environment :=
  ⟨fun name => (texts name).map .text⟩

instance : Coe (String → Option String) Environment := ⟨ofTexts⟩

/-- Whether a variable is set, be it to a text or not. -/
def isSet (environment : Environment) (name : String) : Bool := (environment.value? name).isSome

/-- The text that a variable is set to. -/
def text? (environment : Environment) (name : String) : Option String :=
  (environment.value? name).bind Variable.text?

/-- The text that a variable is set to, unless it is blank. -/
def effective (environment : Environment) (name : String) : Option String :=
  (environment.text? name).filter fun text => !Text.blank text

/-- The environment with a variable set to something, or with none of that name. -/
def set (environment : Environment) (name : String) (value : Option Variable) : Environment :=
  ⟨fun other => if other = name then value else environment.value? other⟩

variable {environment : Environment} {name other : String}

@[simp] theorem text?_set_self (value : Option Variable) :
    (environment.set name value).text? name = value.bind Variable.text? := by
  simp [text?, set]

theorem text?_set_of_ne (different : other ≠ name) (value : Option Variable) :
    (environment.set name value).text? other = environment.text? other := by
  simp [text?, set, different]

/-- A variable that is not set holds no text. -/
theorem text?_of_unset (unset : environment.isSet name = false) :
    environment.text? name = none := by
  rw [isSet, Option.isSome_eq_false_iff, Option.isNone_iff_eq_none] at unset
  rw [text?, unset, Option.bind_none]

/-- A variable that is not set does not count. -/
theorem effective_of_unset (unset : environment.isSet name = false) :
    environment.effective name = none := by
  rw [effective, text?_of_unset unset, Option.filter_none]

end Environment

end OrderPipeline
