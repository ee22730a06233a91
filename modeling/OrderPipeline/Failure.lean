import OrderPipeline.Access
import OrderPipeline.Form.Submission

/-!
# Failures

`Failure` collects everything that can keep a request from being carried out. A failure is shown to
the outside as a `Response` of one of four classes, which hides the details of configuration and
storage behind a fixed sentence.
-/

namespace OrderPipeline

/-- Why a request is not carried out. -/
inductive Failure where
  /-- A text names no stage. -/
  | unknownStage (text : String)
  /-- A submission is refused. -/
  | form (error : FormError)
  /-- A rule about orders is broken. -/
  | invariantViolation (rule : String)
  /-- Someone is not signed in. -/
  | login (error : LoginError)
  /-- There is no order with the identifier. -/
  | itemNotFound (id : String)
  /-- The storage fails. -/
  | persistence (reason : String)
  /-- The configuration is unusable. -/
  | configuration (reason : String)
  deriving DecidableEq

/-- The text of a failure. -/
def Failure.message : Failure → String
  | unknownStage text => "unknown stage identifier `" ++ text ++ "`"
  | form error => error.message
  | invariantViolation rule => "domain invariant violation: " ++ rule
  | login error => error.message
  | itemNotFound id => "item `" ++ id ++ "` was not found"
  | persistence reason => "persistence failure: " ++ reason
  | configuration reason => "configuration failure: " ++ reason

/-- The classes of failures as they are shown to the outside. -/
inductive ResponseClass where
  /-- The request is at fault. -/
  | badRequest
  /-- The person is not signed in. -/
  | unauthorized
  /-- The storage is out of reach. -/
  | serviceUnavailable
  /-- Anything else. -/
  | internal
  deriving DecidableEq

namespace ResponseClass

/-- The name of a class. -/
def name : ResponseClass → String
  | badRequest => "bad_request"
  | unauthorized => "unauthorized"
  | serviceUnavailable => "service_unavailable"
  | internal => "internal"

/-- The words that introduce a failure of the class. -/
def title : ResponseClass → String
  | badRequest => "bad request"
  | unauthorized => "unauthorized"
  | serviceUnavailable => "service unavailable"
  | internal => "internal error"

/-- What the person is told. -/
def userMessage : ResponseClass → String
  | badRequest => "The request could not be processed. Check inputs and try again."
  | unauthorized => "Please enter a valid username and password."
  | serviceUnavailable => "Saved workflow data is temporarily unavailable. Please retry shortly."
  | internal => "An unexpected internal error occurred."

end ResponseClass

/-- A failure as it is shown to the outside. -/
structure Response where
  /-- The class of the failure. -/
  kind : ResponseClass
  /-- What happened. -/
  message : String
  /-- What the failure is called in the records of the service. -/
  correlationId : String := "unassigned"
  deriving DecidableEq

/-- The text of a response. -/
def Response.text (response : Response) : String :=
  response.kind.title ++ ": " ++ response.message

/-- A failure as it is shown to the outside: storage and configuration tell only their reason. -/
def Failure.response (failure : Failure) : Response :=
  match failure with
  | unknownStage _ | form _ | invariantViolation _ | itemNotFound _ =>
    { kind := .badRequest, message := failure.message }
  | login _ => { kind := .unauthorized, message := failure.message }
  | persistence reason => { kind := .serviceUnavailable, message := reason }
  | configuration reason => { kind := .internal, message := reason }

/-- The stage that a text names. -/
def Stage.parse (text : String) : Except Failure Stage :=
  match Stage.ofText? text with
  | some stage => .ok stage
  | none => .error (.unknownStage text)

end OrderPipeline
