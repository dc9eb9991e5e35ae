/-
Operations that a broker finishes later: the key it hands out for one, and the state it reports. The
broker's word for a state is kept as it came; a word that is not known counts as still in progress.
-/
import ServiceBroker.Json.Shape

namespace ServiceBroker

open Json (Shape Fields)

/-- The key a broker hands out when it accepts a request for later. -/
structure OperationKey where
  text : String
deriving DecidableEq, Repr, Inhabited

/-- The key of brokers that track one operation at a time. -/
def OperationKey.blank : OperationKey := ⟨""⟩

/-- A key is a JSON text. -/
def OperationKey.shape : Shape OperationKey := .view .text OperationKey.mk OperationKey.text

/-- The state of an operation. -/
inductive OperationState
  | queued
  | processing
  | pending
  | done
  | error
  | cancelled
  | timeout
  | inProgress
  | succeeded
  | failed
  | unknown (word : String)
deriving DecidableEq, Repr

namespace OperationState

/-- The broker's word for a state. -/
def label : OperationState → String
  | queued => "queued"
  | processing => "processing"
  | pending => "pending"
  | done => "done"
  | error => "error"
  | cancelled => "cancelled"
  | timeout => "timeout"
  | inProgress => "in progress"
  | succeeded => "succeeded"
  | failed => "failed"
  | unknown word => word

instance : ToString OperationState := ⟨label⟩

/-- The state that a word stands for. -/
def ofLabel (word : String) : OperationState :=
  if word = "queued" then queued
  else if word = "processing" then processing
  else if word = "pending" then pending
  else if word = "done" then done
  else if word = "error" then error
  else if word = "cancelled" then cancelled
  else if word = "timeout" then timeout
  else if word = "in progress" then inProgress
  else if word = "succeeded" then succeeded
  else if word = "failed" then failed
  else unknown word

/-- The operation has ended well. -/
def isDone : OperationState → Bool
  | done | succeeded => true
  | _ => false

/-- The operation has ended badly. -/
def isFailure : OperationState → Bool
  | error | failed | cancelled | timeout => true
  | _ => false

/-- The operation has not ended. -/
def isInProgress (s : OperationState) : Bool :=
  !s.isDone && !s.isFailure

/-- Whether the word is one of the known ones. -/
def isKnown : OperationState → Bool
  | unknown _ => false
  | _ => true

/-- A state is a JSON text. -/
def shape : Shape OperationState := .view .text ofLabel label

end OperationState

/-- An operation that ended badly. -/
structure OperationFailure where
  state : String
deriving DecidableEq, Repr

/-- The wording of a failed operation. -/
def OperationFailure.message (e : OperationFailure) : String :=
  s!"operation ended in state {e.state}"

/-- Which operation to ask for: that of an instance, or of a binding when one is named. -/
structure OperationRequest where
  instanceId : String
  bindingId : Option String
  serviceId : Option String
  planId : Option String
  operationKey : Option OperationKey
deriving DecidableEq, Repr

/-- What a broker says about an operation, and how many seconds to wait before asking again. -/
structure OperationStatus where
  state : OperationState
  description : Option String
  pollDelay : Option UInt64
deriving DecidableEq, Repr

/-- The failure an operation ended in, if it did. -/
def OperationStatus.failure? (s : OperationStatus) : Option OperationFailure :=
  if s.state.isFailure then some ⟨s.state.label⟩ else none

/-- The body of an answer to a question about an operation. -/
structure OperationBody where
  state : OperationState
  description : Option String
deriving DecidableEq, Repr

/-- The state has to be there. -/
def OperationBody.shape : Shape OperationBody :=
  .view (.record "LastOperationBody"
      (.required "state" OperationState.shape (.optional "description" .text .nil)))
    (fun (state, description, ()) => ⟨state, description⟩)
    (fun b => (b.state, b.description, ()))

/-- The body of an accepted request that carries nothing but a key. -/
structure AcceptedBody where
  operation : Option OperationKey
deriving DecidableEq, Repr

/-- The key may be missing. -/
def AcceptedBody.shape : Shape AcceptedBody :=
  .view (.record "AsyncOperationBody" (.optional "operation" OperationKey.shape .nil))
    (fun (operation, ()) => ⟨operation⟩)
    (fun b => (b.operation, ()))

end ServiceBroker
