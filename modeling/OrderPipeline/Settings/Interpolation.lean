import OrderPipeline.Settings.Environment

/-!
# Variables in configuration files

An expression `$` `{NAME}` stands for the text of an environment variable. `interpolate` replaces
the expressions from left to right; a text that was put in is not searched again, and a dollar sign
without a brace is text. What comes of a text depends only on the variables that its expressions
name (`interpolate_congr`).
-/

namespace OrderPipeline

/-- Why the expressions of a text cannot be replaced. -/
inductive InterpolationFault where
  /-- A variable is not set, or not to a text. -/
  | unset (name : String)
  /-- An expression is not closed. -/
  | unterminated
  deriving DecidableEq

/-- The text of a fault. -/
def InterpolationFault.message : InterpolationFault → String
  | unset name => "environment variable interpolation failed for `" ++ name ++ "`"
  | unterminated => "unterminated environment interpolation expression"

/-- Puts text in front of what was interpolated. -/
def prepend (front : List Char) (rest : Except InterpolationFault (List Char)) :
    Except InterpolationFault (List Char) :=
  rest.map fun cs => front ++ cs

/-- Replaces the expressions of a text. Inside an expression, `name` holds the characters of its
name that were read, last first. -/
def interpolateFrom (environment : Environment) :
    (name : Option (List Char)) → List Char → Except InterpolationFault (List Char)
  | none, [] => .ok []
  | some _, [] => .error .unterminated
  | none, '$' :: '{' :: rest => interpolateFrom environment (some []) rest
  | none, c :: rest => prepend [c] (interpolateFrom environment none rest)
  | some name, c :: rest =>
    if c = '}' then
      let name := String.ofList name.reverse
      match environment.text? name with
      | some value => prepend value.toList (interpolateFrom environment none rest)
      | none => .error (.unset name)
    else interpolateFrom environment (some (c :: name)) rest

/-- A text with its expressions replaced. -/
def interpolate (environment : Environment) (text : String) : Except InterpolationFault String :=
  (interpolateFrom environment none text.toList).map String.ofList

/-- The names in the expressions of a text; inside one, `name` holds the characters that were read,
last first. -/
def namesFrom : (name : Option (List Char)) → List Char → List String
  | none, '$' :: '{' :: rest => namesFrom (some []) rest
  | none, _ :: rest => namesFrom none rest
  | some name, c :: rest =>
    if c = '}' then String.ofList name.reverse :: namesFrom none rest
    else namesFrom (some (c :: name)) rest
  | _, [] => []

/-- The names in the expressions of a text. -/
def namesIn (text : String) : List String := namesFrom none text.toList

theorem interpolateFrom_congr {first second : Environment} (name : Option (List Char))
    (cs : List Char)
    (agree : ∀ wanted ∈ namesFrom name cs, first.text? wanted = second.text? wanted) :
    interpolateFrom first name cs = interpolateFrom second name cs := by
  fun_induction interpolateFrom first name cs with
  | case1 => rfl
  | case2 => rfl
  | case3 rest ih => simp_all [interpolateFrom, namesFrom]
  | case4 c rest other ih => simp_all [interpolateFrom, namesFrom]
  | case5 name rest wanted value found ih =>
    have same : second.text? wanted = some value := by
      rw [← agree wanted (by simp [namesFrom, wanted]), found]
    simp only [interpolateFrom, if_true]
    rw [ih fun other isIn => agree other (by simp [namesFrom, isIn]), same]
  | case6 name rest wanted missing =>
    have same : second.text? wanted = none := by
      rw [← agree wanted (by simp [namesFrom, wanted]), missing]
    simp only [interpolateFrom, if_true]
    rw [same]
  | case7 name c rest other ih => simp_all [interpolateFrom, namesFrom]

/-- Two environments that agree on the names in a text make the same of it. -/
theorem interpolate_congr {first second : Environment} {text : String}
    (agree : ∀ name ∈ namesIn text, first.text? name = second.text? name) :
    interpolate first text = interpolate second text := by
  rw [interpolate, interpolate, interpolateFrom_congr none text.toList agree]

end OrderPipeline
