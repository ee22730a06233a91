import OrderPipeline.Failure
import OrderPipeline.Settings.Load

/-!
# Replies

A command answers with a text and an exit code. A text is either a report or a record that says
whether the command was carried out, and if not, which class of failure kept it from being so.
-/

namespace OrderPipeline

/-- What a command answers. -/
structure Reply where
  /-- The exit code; zero for success. -/
  exitCode : Nat
  /-- The text, without the end of its last line. -/
  output : String
  deriving DecidableEq, Inhabited

namespace Reply

/-- The record of how a command ended. -/
def record (command status : String) (errorClass : Option String) (message : String) : String :=
  (Json.object [("command", .string command), ("status", .string status),
    ("error_class", .ofOption (errorClass.map .string)), ("message", .string message)]).text

/-- The answer of a command that was carried out. -/
def done (command message : String) : Reply := ⟨0, record command "ok" none message⟩

/-- The answer of a command that was not carried out. -/
def refused (command errorClass message : String) (exitCode : Nat) : Reply :=
  ⟨exitCode, record command "error" (some errorClass) message⟩

/-- A report. -/
def report (lines : List String) : Reply := ⟨0, "\n".intercalate lines⟩

/-- The exit code of a class of failures. -/
def exitCodeOf : ResponseClass → Nat
  | .badRequest => 6
  | .unauthorized => 7
  | .serviceUnavailable => 4
  | .internal => 1

/-- The answer to a request that fails. -/
def ofFailure (command : String) (failure : Failure) : Reply :=
  let response := failure.response
  refused command response.kind.name
    (response.kind.userMessage ++ " (" ++ response.text ++ ")") (exitCodeOf response.kind)

/-- The answer when the settings do not load. -/
def ofSettingsError (command : String) (error : SettingsError) : Reply :=
  refused command "config_validation" ("configuration issue: " ++ error.message) 2

end Reply

end OrderPipeline
