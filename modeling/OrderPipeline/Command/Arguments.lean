import OrderPipeline.Command.Basic

/-!
# Arguments

A command line names a command and then gives its arguments: positional ones by their place, and
options by name as `--name value` or `--name=value`, in any order. After `--` every word is
positional. A value in a word of its own must not begin with a dash, unless it is a dash alone.

`Command.ofArguments?` reads a command line; any word that does not fit makes it unreadable.
-/

namespace OrderPipeline

/-- What a word of a command line is by its look. -/
inductive Word where
  /-- A value. -/
  | value (text : String)
  /-- The name of an option, perhaps with its value. -/
  | option (name : String) (value : Option String)
  /-- The end of the options. -/
  | ending
  /-- A dash with other characters after it, which is nothing. -/
  | short
  deriving DecidableEq

namespace Word

/-- What a word with given characters is. -/
def ofChars : List Char → Word
  | ['-', '-'] => ending
  | '-' :: '-' :: cs =>
    option (String.ofList (cs.takeWhile (· != '=')))
      (match cs.dropWhile (· != '=') with
      | [] => none
      | _ :: text => some (String.ofList text))
  | ['-'] => value "-"
  | '-' :: _ => short
  | cs => value (String.ofList cs)

/-- What a word is. -/
def of (word : String) : Word := ofChars word.toList

end Word

/-- Which arguments a command takes. -/
structure Signature where
  /-- How many positional arguments there are. -/
  positionals : Nat := 0
  /-- The options with a value. -/
  options : List String := []
  /-- The options without one. -/
  flags : List String := []
  /-- The options that may be given more than once. -/
  repeatable : List String := []

/-- Arguments as they are given. -/
structure Arguments where
  /-- The positional arguments in order. -/
  positionals : List String := []
  /-- The options with their values in order. -/
  options : List (String × String) := []
  /-- The options without a value. -/
  flags : List String := []
  deriving DecidableEq

namespace Arguments

/-- The value of an option that is given at most once. -/
def option? (arguments : Arguments) (name : String) : Option String :=
  arguments.options.lookup name

/-- The values of an option. -/
def values (arguments : Arguments) (name : String) : List String :=
  (arguments.options.filter fun entry => entry.1 == name).map (·.2)

/-- Whether an option without a value is given. -/
def hasFlag (arguments : Arguments) (name : String) : Bool := arguments.flags.contains name

/-- The arguments with a positional one more. -/
def addPositional (arguments : Arguments) (value : String) : Arguments :=
  { arguments with positionals := arguments.positionals ++ [value] }

/-- The arguments with an option more, unless it is given already. -/
def addFlag? (arguments : Arguments) (name : String) : Option Arguments :=
  if arguments.hasFlag name then none
  else some { arguments with flags := arguments.flags ++ [name] }

/-- The arguments with a value of an option more, if the option takes one, and unless it is given
already and may be given only once. -/
def addOption? (arguments : Arguments) (signature : Signature) (name value : String) :
    Option Arguments :=
  let again := (arguments.option? name).isSome && !signature.repeatable.contains name
  if again || !signature.options.contains name then none
  else some { arguments with options := arguments.options ++ [(name, value)] }

end Arguments

namespace Signature

/-- Reads words after some arguments. -/
def readAfter (signature : Signature) (arguments : Arguments) : List String → Option Arguments
  | [] => some arguments
  | word :: rest =>
    match Word.of word with
    | .value text => signature.readAfter (arguments.addPositional text) rest
    | .short => none
    | .ending => some { arguments with positionals := arguments.positionals ++ rest }
    | .option name (some value) =>
      (arguments.addOption? signature name value).bind fun arguments =>
        signature.readAfter arguments rest
    | .option name none =>
      if name ∈ signature.flags then
        (arguments.addFlag? name).bind fun arguments => signature.readAfter arguments rest
      else
        match rest with
        | [] => none
        | next :: rest =>
          match Word.of next with
          | .value value =>
            (arguments.addOption? signature name value).bind fun arguments =>
              signature.readAfter arguments rest
          | _ => none

/-- The arguments that words give, if there are as many positional ones as there have to be. -/
def read (signature : Signature) (words : List String) : Option Arguments :=
  (signature.readAfter {} words).filter fun arguments =>
    arguments.positionals.length == signature.positionals

end Signature

namespace Command

/-- Which arguments the command with a name takes. -/
def signature? : String → Option Signature
  | "migrate" | "seed" | "activity" | "config" => some {}
  | "dashboard" | "doctor" => some { flags := ["json"] }
  | "login" => some { options := ["username", "password"] }
  | "stage" =>
    some { positionals := 1, options := ["search", "role"], flags := ["history"] }
  | "update" => some { positionals := 2, options := ["field"], repeatable := ["field"] }
  | "add" =>
    some {
      options := ["customer-name", "phone", "location", "requirement", "quotation-amount",
        "expected-delivery-date"] }
  | _ => none

/-- The lead that arguments give. -/
def lead? (arguments : Arguments) : Option Lead := do
  return {
    customerName := ← arguments.option? "customer-name"
    phone := ← arguments.option? "phone"
    siteLocation := ← arguments.option? "location"
    requirement := arguments.option? "requirement"
    quotationAmount := arguments.option? "quotation-amount"
    expectedDeliveryDate := arguments.option? "expected-delivery-date" }

/-- The command with a name and arguments. -/
def ofNamed? (name : String) (arguments : Arguments) : Option Command :=
  match name, arguments.positionals with
  | "migrate", [] => some .migrate
  | "seed", [] => some .seed
  | "dashboard", [] => some (.dashboard (arguments.hasFlag "json"))
  | "add", [] => (lead? arguments).map .add
  | "stage", [name] => do
    let view := if arguments.hasFlag "history" then StageView.history else .pending
    let role ← Role.byName.lookup ((arguments.option? "role").getD Role.admin.name)
    return .stage name ((arguments.option? "search").getD "") view role
  | "update", [id, name] => some (.update ⟨id⟩ name (arguments.values "field"))
  | "activity", [] => some .activity
  | "login", [] =>
    some (.login ((arguments.option? "username").getD "")
      ((arguments.option? "password").getD ""))
  | "config", [] => some .config
  | "doctor", [] => some (.doctor (arguments.hasFlag "json"))
  | _, _ => none

/-- The command that a command line asks for. -/
def ofArguments? : List String → Option Command
  | [] => none
  | name :: words => do ofNamed? name (← (← signature? name).read words)

end Command

end OrderPipeline
