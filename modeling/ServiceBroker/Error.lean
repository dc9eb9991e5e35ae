/-
Errors. A call fails with an `Error`; what a caller holds may wrap it, any number of times, and is an
`AnyError`. The failures that can be told apart are found through all wraps.
-/
import ServiceBroker.Failure
import ServiceBroker.Kubernetes.Error
import ServiceBroker.Operation
import ServiceBroker.Url.Parser

namespace ServiceBroker

/-! ## Causes -/

/-- Why a request is invalid. -/
inductive InvalidRequest
  | missing (field : String)
  | unbuildable (fault : Http.Fault)
  | unexpectedCall
  | stated (message : String)
deriving DecidableEq, Repr

/-- The wording of an invalid request. -/
def InvalidRequest.message : InvalidRequest → String
  | .missing field => s!"{field} is required"
  | .unbuildable fault => fault.message
  | .unexpectedCall => "unexpected action"
  | .stated text => text

/-- Why a configuration cannot be used. -/
inductive ConfigFault
  | unknownVersion (label : String)
  | notABase (url : String)
  | secretWithoutData («namespace» name : String)
  | secretWithoutKey («namespace» name key : String)
  | secretNotText (key name : String) (fault : Utf8.Fault)
  | stated (message : String)
deriving DecidableEq, Repr

/-- The wording of a faulty configuration. -/
def ConfigFault.message : ConfigFault → String
  | .unknownVersion label => s!"unsupported broker API version: {label}"
  | .notABase url => s!"broker URL {url} cannot be a base"
  | .secretWithoutData space name => s!"Secret {space}/{name} has no data"
  | .secretWithoutKey space name key => s!"Secret {space}/{name} does not contain '{key}' key"
  | .secretNotText key name fault => s!"Key '{key}' of secret {name} is not valid UTF-8: {fault.message}"
  | .stated text => text

/-- A failure that can be told apart. -/
inductive Structured
  | httpStatus (e : HttpFailure)
  | notAllowed (e : Refusal)
  | operationState (e : OperationFailure)
  | unavailable (e : Unavailable)
deriving DecidableEq

/-- The wording of a failure. -/
def Structured.message : Structured → String
  | .httpStatus e => e.message
  | .notAllowed e => e.message
  | .operationState e => e.message
  | .unavailable e => e.message

/-! ## Errors -/

mutual

/-- Why a call failed. -/
inductive Error
  /-- The broker was not heard. -/
  | transport (cause : AnyError)
  /-- A failure that can be told apart. -/
  | structured (failure : Structured)
  | serialize (error : Json.Error)
  | invalidUrl (fault : Url.Fault)
  | invalidRequest (reason : InvalidRequest)
  | kubernetes (error : Kubernetes.Error)
  | config (fault : ConfigFault)

/-- An error of any kind. -/
inductive AnyError
  /-- An error of a call. -/
  | client (error : Error)
  /-- A failure on its own. -/
  | bare (failure : Structured)
  /-- An error that came from nothing else. -/
  | plain (message : String)
  /-- An error that came from another one. -/
  | wrapped (message : String) (inner : AnyError)

end

namespace Error

/-- The broker answered with a status that is no success. -/
abbrev httpStatus (e : HttpFailure) : Error := .structured (.httpStatus e)

/-- The request cannot be expressed. -/
abbrev notAllowed (e : Refusal) : Error := .structured (.notAllowed e)

/-- The health check did not pass. -/
abbrev unavailable (e : Unavailable) : Error := .structured (.unavailable e)

/-- The broker was not heard. -/
def isTransport : Error → Bool
  | .transport _ => true
  | _ => false

end Error

/-! ## Wording -/

/-- What a failure came from: the fault in its body, if that is why it says nothing. -/
def Structured.chain (e : Structured) : List String :=
  e.message :: match e with
    | .httpStatus h => (h.responseError.map Json.Error.message).toList
    | _ => []

mutual

/-- The wordings of an error and of everything it came from. A transport error shows only what caused
it. -/
def Error.chain : Error → List String
  | .transport cause => cause.chain
  | .structured e => e.chain
  | .serialize e => [s!"Failed to encode request body: {e.message}", e.message]
  | .invalidUrl f => [s!"Invalid broker URL: {f.message}", f.message]
  | .invalidRequest r => [s!"Invalid request: {r.message}"]
  | .kubernetes e => s!"Kubernetes API error: {e.message}" :: e.message :: e.sources
  | .config f => [s!"Invalid client configuration: {f.message}"]

/-- The wordings of an error and of everything it came from. -/
def AnyError.chain : AnyError → List String
  | .client e => e.chain
  | .bare e => e.chain
  | .plain message => [message]
  | .wrapped message inner => message :: inner.chain

end

/-- The wording of an error. -/
def Error.message (e : Error) : String :=
  e.chain.headD ""

/-- The wording of an error. -/
def AnyError.message (e : AnyError) : String :=
  e.chain.headD ""

/-! ## Finding failures -/

mutual

/-- The failure found in what an error came from. A transport error is passed over together with its
immediate cause. -/
def AnyError.findBehind (pick : Structured → Option α) : AnyError → Option α
  | .client (.transport cause) => cause.findBehind pick
  | .wrapped _ inner => inner.find pick
  | _ => none

/-- The first failure that `pick` takes, in an error or in what it came from. -/
def AnyError.find (pick : Structured → Option α) : AnyError → Option α
  | .client (.transport cause) => cause.findBehind pick
  | .client (.structured e) => pick e
  | .bare e => pick e
  | .wrapped _ inner => inner.find pick
  | _ => none

end

namespace AnyError

/-- The status failure behind an error. -/
def httpFailure? (e : AnyError) : Option HttpFailure :=
  e.find fun
    | .httpStatus h => some h
    | _ => none

/-- The refusal behind an error. -/
def refusal? (e : AnyError) : Option Refusal :=
  e.find fun
    | .notAllowed r => some r
    | _ => none

/-- The failed operation behind an error. -/
def operationFailure? (e : AnyError) : Option OperationFailure :=
  e.find fun
    | .operationState f => some f
    | _ => none

/-- The failed health check behind an error. -/
def unavailable? (e : AnyError) : Option Unavailable :=
  e.find fun
    | .unavailable u => some u
    | _ => none

/-- There is a status failure behind the error. -/
def isHttp (e : AnyError) : Bool := e.httpFailure?.isSome

/-- The broker reports a conflict. -/
def isConflict (e : AnyError) : Bool := e.httpFailure?.any HttpFailure.isConflict

/-- What was asked for is gone. -/
def isGone (e : AnyError) : Bool := e.httpFailure?.any HttpFailure.isGone

/-- The broker refers to a rule. -/
def breaks (e : AnyError) (rule : HttpFailure.Rule) : Bool := e.httpFailure?.any (·.breaks rule)

end AnyError

end ServiceBroker
