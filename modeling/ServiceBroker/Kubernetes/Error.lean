/-
What can go wrong between a client and the API of a cluster.
-/
import ServiceBroker.Http.Message
import ServiceBroker.Json.Shape

namespace ServiceBroker.Kubernetes

open Json (Shape Fields)

/-- A number of 16 bits. -/
def uint16 : Shape UInt16 := .view (.count 16) UInt16.ofBitVec UInt16.toBitVec

/-- What the API says about a failure. -/
structure Status where
  status : String
  message : String
  reason : String
  code : UInt16
deriving DecidableEq, Repr

/-- The JSON form of a failure. Message and reason may be missing. -/
def Status.shape : Shape Status :=
  .view (.record "ErrorResponse"
      (.required "status" .text
        (.cons "message" .text (.optional "") (fun _ => false)
          (.cons "reason" .text (.optional "") (fun _ => false)
            (.required "code" uint16 .nil)))))
    (fun (status, message, reason, code, ()) => ⟨status, message, reason, code⟩)
    (fun s => (s.status, s.message, s.reason, s.code, ()))

/-- The wording of a failure. -/
def Status.wording (s : Status) : String :=
  s!"{s.message}: {s.reason}"

/-- A failure with all its parts. -/
def Status.describe (s : Status) : String :=
  "ErrorResponse \x7b status: " ++ Quoted.quote s.status ++ ", message: " ++ Quoted.quote s.message
    ++ ", reason: " ++ Quoted.quote s.reason ++ s!", code: {s.code}" ++ " \x7d"

/-- Why a question to the API has no answer. -/
inductive Error
  /-- The API answered with a failure. -/
  | api (status : Status)
  /-- The API was not heard. What the connection to it says about that, and what it came from, are texts. -/
  | service (message : String) (sources : List String)
  /-- The answer is no text. -/
  | notText (fault : Utf8.Fault)
  /-- The answer is not what was asked for. -/
  | undecodable (error : Json.Error)
  /-- Nothing was asked for. -/
  | unnamed
  /-- What was asked for makes no target. -/
  | unbuildable (fault : Http.Fault)
deriving DecidableEq

namespace Error

/-- What an error came from, what that came from, and so on to the end. -/
def sources : Error → List String
  | .api s => [s.wording]
  | .service text rest => text :: rest
  | .notText f => [f.message]
  | .undecodable e => [e.message]
  | .unnamed => ["failed to validate request: A non-empty name is required"]
  | .unbuildable f => [s!"failed to build request: {f.message}", f.message]

/-- The wording of an error. -/
def message : Error → String
  | .api s => s!"ApiError: {s.wording} (" ++ s.describe ++ ")"
  | .service text _ => s!"ServiceError: {text}"
  | .notText f => s!"UTF-8 Error: {f.message}"
  | .undecodable e => s!"Error deserializing response: {e.message}"
  | .unnamed => "Failed to build request: failed to validate request: A non-empty name is required"
  | .unbuildable f => s!"Failed to build request: failed to build request: {f.message}"

end Error

end ServiceBroker.Kubernetes
