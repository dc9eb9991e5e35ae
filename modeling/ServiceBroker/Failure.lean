/-
The failures that a caller can tell apart: a status that is no success, a request that the negotiated
version or the missing alpha features cannot express, and a health check that did not pass.
-/
import ServiceBroker.Json.Shape
import ServiceBroker.Version

namespace ServiceBroker

open Json (Shape Fields)

/-! ## Statuses -/

/-- A status that is no success, with what the body says about it, or why the body says nothing. -/
structure HttpFailure where
  status : Nat
  errorMessage : Option String
  description : Option String
  responseError : Option Json.Error
deriving DecidableEq

/-- The body of a failure. -/
structure FailureBody where
  error : Option String
  description : Option String
deriving DecidableEq

/-- An object may leave both out; an array has to have both. -/
def FailureBody.shape : Shape FailureBody :=
  .view (.record "FailureResponseBody"
      (.cons "error" (.option .text) (.byName none) Option.isNone
        (.cons "description" (.option .text) (.byName none) Option.isNone .nil)))
    (fun (error, description, ()) => ⟨error, description⟩)
    (fun b => (b.error, b.description, ()))

namespace HttpFailure

/-- A reply whose body did not decode, whatever its status. -/
def undecodable (status : Nat) (error : Json.Error) : HttpFailure :=
  ⟨status, none, none, some error⟩

/-- The failure that a status and a body describe. -/
def ofResponse (status : Nat) (body : List UInt8) : HttpFailure :=
  match FailureBody.shape.decode body with
  | .ok b => ⟨status, b.error, b.description, none⟩
  | .error e => undecodable status e

/-- The wording of a failure. -/
def message (e : HttpFailure) : String :=
  let shown (text : Option String) := text.getD "<nil>"
  let fault := e.responseError.map Json.Error.message
  s!"Status: {e.status}; ErrorMessage: {shown e.errorMessage}; Description: {shown e.description}; "
    ++ s!"ResponseError: {shown fault}"

/-- A rule of the broker that a 422 refers to. -/
inductive Rule
  | asyncRequired
  | appGuidRequired
  | concurrency
deriving DecidableEq, Repr

/-- The error word of a rule. -/
def Rule.word : Rule → String
  | .asyncRequired => "AsyncRequired"
  | .appGuidRequired => "RequiresApp"
  | .concurrency => "ConcurrencyError"

/-- The description of a rule. -/
def Rule.description : Rule → String
  | .asyncRequired => "This service plan requires client support for asynchronous service operations."
  | .appGuidRequired => "This service supports generation of credentials through binding an application only."
  | .concurrency => "Another operation for this service instance is in progress."

/-- The failure is a conflict. -/
def isConflict (e : HttpFailure) : Bool := e.status == 409

/-- What was asked for is gone. -/
def isGone (e : HttpFailure) : Bool := e.status == 410

/-- The failure refers to a rule: both of its texts have to match. -/
def breaks (e : HttpFailure) (rule : Rule) : Bool :=
  e.status == 422 && e.errorMessage == some rule.word && e.description == some rule.description

end HttpFailure

/-! ## Refusals -/

/-- Why a request is refused. A client states the first two reasons, and others can state reasons of their own. -/
inductive Refusal
  | versionTooLow (required current : Version)
  | alphaDisabled (feature : String)
  | stated (reason : String)
deriving DecidableEq, Repr

/-- The reason of a refusal. -/
def Refusal.reason : Refusal → String
  | .versionTooLow required current => s!"must have API version >= {required}. Current: {current}"
  | .alphaDisabled feature => s!"{feature} requires alpha features to be enabled"
  | .stated text => text

/-- The wording of a refusal. -/
def Refusal.message (r : Refusal) : String :=
  s!"operation not allowed: {r.reason}"

/-- A health check that got another status than 200. -/
structure Unavailable where
  status : Nat
deriving DecidableEq, Repr

/-- The wording of a failed health check. -/
def Unavailable.message (e : Unavailable) : String :=
  s!"Received unexpected status {e.status}"

end ServiceBroker
