/-!
# Values of configuration files

A configuration file is written in TOML. `Toml.Value` is what such a file says: only texts, whole
numbers, truth values and their collections are ever looked into, so numbers with fractions and
dates carry nothing but their kind.
-/

namespace OrderPipeline.Toml

/-- A value of a configuration file. -/
inductive Value where
  /-- A text. -/
  | string (text : String)
  /-- A whole number of 64 bits. -/
  | integer (n : Int)
  /-- A number with a fraction or an exponent. -/
  | float
  /-- A truth value. -/
  | boolean (value : Bool)
  /-- A date, a time, or both. -/
  | datetime
  /-- A list of values. -/
  | array (items : List Value)
  /-- Values under names. -/
  | table (entries : List (String × Value))
  deriving Inhabited

namespace Value

/-- The value under a name in a table. -/
def field? (value : Value) (name : String) : Option Value :=
  match value with
  | table entries => entries.lookup name
  | _ => none

/-- Whether a value is a collection without members. -/
def isEmptyCollection : Value → Bool
  | array items => items.isEmpty
  | table entries => entries.isEmpty
  | _ => false

end Value

end OrderPipeline.Toml
