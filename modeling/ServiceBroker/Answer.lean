/-
What a reply means. Each endpoint has a table of statuses: for some the answer stands fixed, for some it
is read from the body, and every other one is a failure.
-/
import ServiceBroker.Call

namespace ServiceBroker

/-! ## Bodies -/

/-- Bytes that leave a body empty. -/
def isBlankByte (b : UInt8) : Bool :=
  b = 32 || b = 9 || b = 10 || b = 12 || b = 13

/-- Whether a body holds nothing. -/
def isBlankBody (body : List UInt8) : Bool :=
  body.all isBlankByte

/-- Decodes a body that has to be there. -/
def Http.Reply.decode (shape : Json.Shape α) (r : Http.Reply) : Except Error α :=
  (shape.decode r.body).mapError fun e => .httpStatus (.undecodable r.status e)

/-- Decodes a body that may be missing. -/
def Http.Reply.decodeOr (default : α) (shape : Json.Shape α) (r : Http.Reply) : Except Error α :=
  if isBlankBody r.body then .ok default else r.decode shape

/-- The failure that a reply describes. -/
def Http.Reply.failure (r : Http.Reply) : Error :=
  .httpStatus (.ofResponse r.status r.body)

/-- The key of an accepted operation: the body's, else the location, else blank. -/
def Http.Reply.operationKey (r : Http.Reply) (fromBody : Option OperationKey) : OperationKey :=
  (fromBody.or ((r.header? "location").map OperationKey.mk)).getD .blank

/-- How many seconds a reply asks to wait. Dates do not count. -/
def Http.Reply.retryAfter (r : Http.Reply) : Option UInt64 := do
  let text ← r.header? "retry-after"
  let n ← (Numeral.read 0x10000000000000000 (trimBlank text)).toOption
  return UInt64.ofNat n

/-! ## Answers -/

/-- The outcome of making or changing an instance that is ready. -/
def InstanceBody.ready (b : InstanceBody) : InstanceOutcome := ⟨false, b.dashboardUrl, none⟩

/-- The outcome of making or changing an instance that the broker goes on working at. -/
def InstanceBody.accepted (b : InstanceBody) (r : Http.Reply) : InstanceOutcome :=
  ⟨true, b.dashboardUrl, some (r.operationKey b.operation)⟩

/-- A removal that is done. -/
def RemovalOutcome.removed : RemovalOutcome := ⟨false, none⟩

/-- A removal that the broker goes on working at. -/
def AcceptedBody.accepted (b : AcceptedBody) (r : Http.Reply) : RemovalOutcome :=
  ⟨true, some (r.operationKey b.operation)⟩

/-- A binding that is ready. -/
def BindingBody.ready (b : BindingBody) : BindOutcome :=
  ⟨false, b.credentials, b.syslogDrainUrl, b.routeServiceUrl, b.volumeMounts, none⟩

/-- A binding that the broker goes on working at: it has nothing to give yet. -/
def BindingBody.accepted (b : BindingBody) (r : Http.Reply) : BindOutcome :=
  ⟨true, none, none, none, none, some (r.operationKey b.operation)⟩

/-- A binding as it is read back. -/
def BindingBody.details (b : BindingBody) : BindingDetails :=
  ⟨b.credentials, b.syslogDrainUrl, b.routeServiceUrl, b.volumeMounts, b.parameters⟩

/-- What the broker says about an operation, and when to ask again. -/
def OperationBody.polled (b : OperationBody) (r : Http.Reply) : OperationStatus :=
  ⟨b.state, b.description, r.retryAfter⟩

/-- Bodies without anything in them. -/
def InstanceBody.blank : InstanceBody := ⟨none, none⟩

/-- A body without a key. -/
def AcceptedBody.blank : AcceptedBody := ⟨none⟩

/-- A binding without anything in it. -/
def BindingBody.blank : BindingBody := ⟨none, none, none, none, none, none⟩

/-- An instance without anything in it. -/
def InstanceDetails.blank : InstanceDetails := ⟨"", "", none, none, none⟩

/-- A page without instances. -/
def InstancesPage.blank : InstancesPage := ⟨[], none⟩

/-- A catalog without services. -/
def Catalog.blank : Catalog := ⟨[]⟩

/-- What a status means: the answer as it stands, an answer to be read from the reply, or a failure. -/
inductive Reading (α : Type)
  | fixed (answer : α)
  | body (read : Http.Reply → Except Error α)
  | failure

/-- What each status means to an endpoint. A binding can only be accepted for later by a client with
alpha features. A removal of what is gone is done. The catalog is not pruned here. -/
def Endpoint.reading (alpha : Bool) : (e : Endpoint) → (status : Nat) → Reading e.Answer
  | .getCatalog, 200 => .body (·.decodeOr Catalog.blank Catalog.shape)
  | .provisionInstance, 200 | .provisionInstance, 201 | .updateInstance, 200 =>
    .body fun r => (r.decodeOr .blank InstanceBody.shape).map (·.ready)
  | .provisionInstance, 202 | .updateInstance, 202 =>
    .body fun r => (r.decodeOr .blank InstanceBody.shape).map (·.accepted r)
  | .deprovisionInstance, 200 | .deprovisionInstance, 410 | .unbind, 200 | .unbind, 410 => .fixed .removed
  | .deprovisionInstance, 202 =>
    .body fun r => (r.decodeOr .blank AcceptedBody.shape).map (·.accepted r)
  | .unbind, 202 =>
    if alpha then .body fun r => (r.decodeOr .blank AcceptedBody.shape).map (·.accepted r) else .failure
  | .getInstance, 200 => .body (·.decodeOr InstanceDetails.blank InstanceDetails.shape)
  | .listInstances, 200 => .body (·.decodeOr InstancesPage.blank InstancesPage.shape)
  | .getOperation, 200 => .body fun r => (r.decode OperationBody.shape).map (·.polled r)
  | .bind, 200 | .bind, 201 => .body fun r => (r.decodeOr .blank BindingBody.shape).map (·.ready)
  | .bind, 202 =>
    if alpha then .body fun r => (r.decodeOr .blank BindingBody.shape).map (·.accepted r) else .failure
  | .getBinding, 200 => .body fun r => (r.decodeOr .blank BindingBody.shape).map (·.details)
  | .checkAvailability, 200 => .fixed ()
  | _, _ => .failure

/-- The failure that a reply means to an endpoint. A health check looks at the status alone. -/
def Endpoint.failure (e : Endpoint) (r : Http.Reply) : Error :=
  match e with
  | .checkAvailability => .unavailable ⟨r.status⟩
  | _ => r.failure

/-- The answer that a reply holds. -/
def Endpoint.answer (alpha : Bool) (e : Endpoint) (r : Http.Reply) : Except Error e.Answer :=
  match e.reading alpha r.status with
  | .fixed a => .ok a
  | .body read => read r
  | .failure => .error (e.failure r)

end ServiceBroker
