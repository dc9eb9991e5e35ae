/-
The calls that a broker answers. For each of the eleven endpoints: what a request holds and what an
answer holds, what has to be true before a request is sent, and where and how it is sent.
-/
import ServiceBroker.Binding
import ServiceBroker.Error

namespace ServiceBroker

/-! ## Endpoints -/

/-- What a broker can be called for. -/
inductive Endpoint
  | getCatalog
  | provisionInstance
  | updateInstance
  | deprovisionInstance
  | getInstance
  | listInstances
  | getOperation
  | bind
  | unbind
  | getBinding
  | checkAvailability
deriving DecidableEq, Repr

namespace Endpoint

/-- Every endpoint. -/
def all : List Endpoint :=
  [getCatalog, provisionInstance, updateInstance, deprovisionInstance, getInstance, listInstances, getOperation,
    bind, unbind, getBinding, checkAvailability]

/-- The endpoint's name. -/
def name : Endpoint → String
  | getCatalog => "GetCatalog"
  | provisionInstance => "ProvisionInstance"
  | updateInstance => "UpdateInstance"
  | deprovisionInstance => "DeprovisionInstance"
  | getInstance => "GetInstance"
  | listInstances => "ListInstances"
  | getOperation => "GetOperation"
  | bind => "Bind"
  | unbind => "Unbind"
  | getBinding => "GetBinding"
  | checkAvailability => "CheckAvailability"

/-- What is asked. -/
abbrev Request : Endpoint → Type
  | getCatalog => Unit
  | provisionInstance => ProvisionRequest
  | updateInstance => UpdateRequest
  | deprovisionInstance => DeprovisionRequest
  | getInstance => InstanceRequest
  | listInstances => InstancesRequest
  | getOperation => OperationRequest
  | bind => BindRequest
  | unbind => UnbindRequest
  | getBinding => BindingRequest
  | checkAvailability => Unit

/-- What is answered. -/
abbrev Answer : Endpoint → Type
  | getCatalog => Catalog
  | provisionInstance => InstanceOutcome
  | updateInstance => InstanceOutcome
  | deprovisionInstance => RemovalOutcome
  | getInstance => InstanceDetails
  | listInstances => InstancesPage
  | getOperation => OperationStatus
  | bind => BindOutcome
  | unbind => RemovalOutcome
  | getBinding => BindingDetails
  | checkAvailability => Unit

instance : (e : Endpoint) → DecidableEq e.Request
  | getCatalog => inferInstanceAs (DecidableEq Unit)
  | provisionInstance => inferInstanceAs (DecidableEq ProvisionRequest)
  | updateInstance => inferInstanceAs (DecidableEq UpdateRequest)
  | deprovisionInstance => inferInstanceAs (DecidableEq DeprovisionRequest)
  | getInstance => inferInstanceAs (DecidableEq InstanceRequest)
  | listInstances => inferInstanceAs (DecidableEq InstancesRequest)
  | getOperation => inferInstanceAs (DecidableEq OperationRequest)
  | bind => inferInstanceAs (DecidableEq BindRequest)
  | unbind => inferInstanceAs (DecidableEq UnbindRequest)
  | getBinding => inferInstanceAs (DecidableEq BindingRequest)
  | checkAvailability => inferInstanceAs (DecidableEq Unit)

end Endpoint

/-- A call: an endpoint and what is asked of it. -/
structure Call where
  endpoint : Endpoint
  request : endpoint.Request
deriving DecidableEq

/-! ## Checks -/

/-- What has to hold before a request is sent. -/
inductive Check
  /-- A text is not empty. -/
  | present (field value : String)
  /-- The version is new enough. -/
  | atLeast (version : Version)
  /-- Alpha features are on. -/
  | alpha (feature : String)
deriving DecidableEq, Repr

/-- Carries a check out. -/
def Check.run (version : Version) (alpha : Bool) : Check → Except Error Unit
  | .present field value =>
    if value.isEmpty then .error (.invalidRequest (.missing field)) else .ok ()
  | .atLeast required =>
    if required ≤ version then .ok () else .error (.notAllowed (.versionTooLow required version))
  | .alpha feature =>
    if alpha then .ok () else .error (.notAllowed (.alphaDisabled feature))

/-- A check that is only made when something is asked for. -/
def Check.when (asked : Bool) (check : Check) : List Check :=
  if asked then [check] else []

/-- A context came with version 2.12. -/
def Check.context (context : Option Json.Dictionary) : List Check :=
  Check.when context.isSome (.atLeast .v2_12)

/-- An identity came with version 2.13. -/
def Check.identity (identity : Option OriginatingIdentity) : List Check :=
  Check.when identity.isSome (.atLeast .v2_13)

/-- The checks of a call in the order in which they are made. The first that fails decides. -/
def Call.checks : Call → List Check
  | ⟨.getCatalog, ()⟩ => []
  | ⟨.provisionInstance, r⟩ =>
    [.present "instance_id" r.instanceId, .present "service_id" r.serviceId, .present "plan_id" r.planId,
      .present "organization_guid" r.organizationGuid, .present "space_guid" r.spaceGuid]
      ++ Check.context r.context ++ Check.identity r.originatingIdentity
  | ⟨.updateInstance, r⟩ =>
    [.present "instance_id" r.instanceId, .present "service_id" r.serviceId]
      ++ Check.context r.context ++ Check.identity r.originatingIdentity
      ++ Check.when r.maintenanceInfo.isSome (.alpha "maintenance_info")
  | ⟨.deprovisionInstance, r⟩ =>
    [.present "instance_id" r.instanceId, .present "service_id" r.serviceId, .present "plan_id" r.planId]
      ++ Check.identity r.originatingIdentity
  | ⟨.getInstance, r⟩ => [.atLeast .v2_14, .present "instance_id" r.instanceId]
  | ⟨.listInstances, _⟩ => [.atLeast .v2_14]
  | ⟨.getOperation, r⟩ =>
    .present "instance_id" r.instanceId :: match r.bindingId with
      | some id => [.atLeast .v2_14, .present "binding_id" id]
      | none => []
  | ⟨.bind, r⟩ =>
    [.present "binding_id" r.bindingId, .present "instance_id" r.instanceId, .present "service_id" r.serviceId,
      .present "plan_id" r.planId]
      ++ Check.context r.context ++ Check.identity r.originatingIdentity
      ++ Check.when r.acceptsIncomplete (.alpha "asynchronous bindings")
  | ⟨.unbind, r⟩ =>
    [.present "instance_id" r.instanceId, .present "binding_id" r.bindingId, .present "service_id" r.serviceId,
      .present "plan_id" r.planId]
      ++ Check.identity r.originatingIdentity
      ++ Check.when r.acceptsIncomplete (.alpha "asynchronous bindings")
  | ⟨.getBinding, r⟩ => [.atLeast .v2_14, .present "instance_id" r.instanceId, .present "binding_id" r.bindingId]
  | ⟨.checkAvailability, ()⟩ => []

/-! ## Drafts -/

/-- A request before it is addressed to a broker: the segments behind the broker's path, the pairs of the
query, the body and the identity. -/
structure Draft where
  method : Http.Method
  segments : List String
  query : List (String × String)
  body : Option String
  identity : Option OriginatingIdentity
deriving DecidableEq

/-- The segments of an instance. -/
def instanceSegments (instanceId : String) : List String :=
  ["v2", "service_instances", instanceId]

/-- The segments of a binding. -/
def bindingSegments (instanceId bindingId : String) : List String :=
  instanceSegments instanceId ++ ["service_bindings", bindingId]

/-- Tells the broker that it may go on working after it has answered. -/
def acceptsIncomplete (accepts : Bool) : List (String × String) :=
  if accepts then [("accepts_incomplete", "true")] else []

/-- A parameter that may be absent. -/
def parameter? (name : String) (value : Option String) : List (String × String) :=
  match value with
  | some v => [(name, v)]
  | none => []

/-- Where the health of a broker is asked for unless the configuration says otherwise. -/
def defaultHealthEndpoint : String := "/v2/service_instances"

/-- The pieces of a path between slashes; empty ones do not count. -/
def pathPieces (path : String) : List String :=
  ((splitChars '/' path.toList).filter (!·.isEmpty)).map String.ofList

/-- What a call sends. The health endpoint is the only setting that it depends on. -/
def Call.draft (healthEndpoint : Option String) : Call → Draft
  | ⟨.getCatalog, ()⟩ => ⟨.get, ["v2", "catalog"], [], none, none⟩
  | ⟨.provisionInstance, r⟩ =>
    ⟨.put, instanceSegments r.instanceId, acceptsIncomplete r.acceptsIncomplete,
      some (ProvisionBody.shape.encode r.body), r.originatingIdentity⟩
  | ⟨.updateInstance, r⟩ =>
    ⟨.patch, instanceSegments r.instanceId, acceptsIncomplete r.acceptsIncomplete,
      some (UpdateBody.shape.encode r.body), r.originatingIdentity⟩
  | ⟨.deprovisionInstance, r⟩ =>
    ⟨.delete, instanceSegments r.instanceId,
      [("service_id", r.serviceId), ("plan_id", r.planId)] ++ acceptsIncomplete r.acceptsIncomplete,
      none, r.originatingIdentity⟩
  | ⟨.getInstance, r⟩ => ⟨.get, instanceSegments r.instanceId, [], none, none⟩
  | ⟨.listInstances, r⟩ =>
    ⟨.get, ["v2", "service_instances"],
      parameter? "page" (r.page.map (toString ·.toNat)) ++ parameter? "page_size" (r.pageSize.map (toString ·.toNat)),
      none, none⟩
  | ⟨.getOperation, r⟩ =>
    ⟨.get,
      (match r.bindingId with
        | some id => bindingSegments r.instanceId id
        | none => instanceSegments r.instanceId) ++ ["last_operation"],
      parameter? "service_id" r.serviceId ++ parameter? "plan_id" r.planId
        ++ parameter? "operation" ((r.operationKey.filter (!·.text.isEmpty)).map OperationKey.text),
      none, none⟩
  | ⟨.bind, r⟩ =>
    ⟨.put, bindingSegments r.instanceId r.bindingId, acceptsIncomplete r.acceptsIncomplete,
      some (BindBody.shape.encode r.body), r.originatingIdentity⟩
  | ⟨.unbind, r⟩ =>
    ⟨.delete, bindingSegments r.instanceId r.bindingId,
      [("service_id", r.serviceId), ("plan_id", r.planId)] ++ acceptsIncomplete r.acceptsIncomplete,
      none, r.originatingIdentity⟩
  | ⟨.getBinding, r⟩ => ⟨.get, bindingSegments r.instanceId r.bindingId, [], none, none⟩
  | ⟨.checkAvailability, ()⟩ =>
    ⟨.head, pathPieces (healthEndpoint.getD defaultHealthEndpoint), [], none, none⟩

end ServiceBroker
