/-
Service bindings: what is sent to make, remove and read them, what comes back, and credentials that
remember the binding they were issued for.
-/
import ServiceBroker.Instance

namespace ServiceBroker

open Json (Shape Fields)

/-- What an instance is bound to. -/
structure BindResource where
  appGuid : Option String
  route : Option String
deriving DecidableEq

/-- The JSON form of what an instance is bound to. -/
def BindResource.shape : Shape BindResource :=
  .view (.record "BindResource" (.optional "app_guid" .text (.optional "route" .text .nil)))
    (fun (appGuid, route, ()) => ⟨appGuid, route⟩)
    (fun r => (r.appGuid, r.route, ()))

/-- Asks for a new binding. -/
structure BindRequest where
  bindingId : String
  instanceId : String
  acceptsIncomplete : Bool
  serviceId : String
  planId : String
  appGuid : Option String
  bindResource : Option BindResource
  parameters : Option Json.Dictionary
  context : Option Json.Dictionary
  originatingIdentity : Option OriginatingIdentity
deriving DecidableEq

/-- The part of a bind request that is its body. -/
structure BindBody where
  serviceId : String
  planId : String
  appGuid : Option String
  bindResource : Option BindResource
  parameters : Option Json.Dictionary
  context : Option Json.Dictionary
deriving DecidableEq

/-- The body of a bind request. -/
def BindRequest.body (r : BindRequest) : BindBody :=
  ⟨r.serviceId, r.planId, r.appGuid, r.bindResource, r.parameters, r.context⟩

/-- The JSON form of a bind body. -/
def BindBody.shape : Shape BindBody :=
  .view (.record "BindRequestBody"
      (.required "service_id" .text
        (.required "plan_id" .text
          (.optional "app_guid" .text
            (.optional "bind_resource" BindResource.shape
              (.optional "parameters" .dictionary
                (.optional "context" .dictionary .nil)))))))
    (fun (serviceId, planId, appGuid, bindResource, parameters, context, ()) =>
      ⟨serviceId, planId, appGuid, bindResource, parameters, context⟩)
    (fun b => (b.serviceId, b.planId, b.appGuid, b.bindResource, b.parameters, b.context, ()))

/-- What came of a bind request. -/
structure BindOutcome where
  isAsync : Bool
  credentials : Option Json.Dictionary
  syslogDrainUrl : Option String
  routeServiceUrl : Option String
  volumeMounts : Option (List Json.Free)
  operationKey : Option OperationKey
deriving DecidableEq

/-- The body of an answer to making or reading a binding. -/
structure BindingBody where
  credentials : Option Json.Dictionary
  syslogDrainUrl : Option String
  routeServiceUrl : Option String
  volumeMounts : Option (List Json.Free)
  parameters : Option Json.Dictionary
  operation : Option OperationKey
deriving DecidableEq

/-- The JSON form of that body. -/
def BindingBody.shape : Shape BindingBody :=
  .view (.record "BindingBody"
      (.optional "credentials" .dictionary
        (.optional "syslog_drain_url" .text
          (.optional "route_service_url" .text
            (.optional "volume_mounts" (.list .free)
              (.optional "parameters" .dictionary
                (.optional "operation" OperationKey.shape .nil)))))))
    (fun (credentials, syslogDrainUrl, routeServiceUrl, volumeMounts, parameters, operation, ()) =>
      ⟨credentials, syslogDrainUrl, routeServiceUrl, volumeMounts, parameters, operation⟩)
    (fun b => (b.credentials, b.syslogDrainUrl, b.routeServiceUrl, b.volumeMounts, b.parameters, b.operation, ()))

/-- Asks for the removal of a binding. -/
structure UnbindRequest where
  instanceId : String
  bindingId : String
  acceptsIncomplete : Bool
  serviceId : String
  planId : String
  originatingIdentity : Option OriginatingIdentity
deriving DecidableEq

/-- Asks for one binding. -/
structure BindingRequest where
  instanceId : String
  bindingId : String
deriving DecidableEq

/-- A binding as the broker knows it. -/
structure BindingDetails where
  credentials : Option Json.Dictionary
  syslogDrainUrl : Option String
  routeServiceUrl : Option String
  volumeMounts : Option (List Json.Free)
  parameters : Option Json.Dictionary
deriving DecidableEq

/-! ## Credentials -/

/-- Credentials and where they belong: the binding's id, an `@`, and the tenant. -/
structure Credential where
  values : Json.Dictionary
  guidAtTenant : String
deriving DecidableEq

namespace Credential

/-- Credentials of a binding, issued for a tenant. -/
def issue (bindingId tenant : String) (values : Json.Dictionary) : Credential :=
  ⟨values, bindingId ++ "@" ++ tenant⟩

/-- The credentials that a bind request gave; a broker that goes on working has none to give. -/
def ofOutcome? (bindingId tenant : String) (outcome : BindOutcome) : Option Credential :=
  outcome.credentials.map (issue bindingId tenant)

/-- The binding that credentials belong to: what stands before the first `@`. -/
def bindingId (c : Credential) : String :=
  String.ofList (c.guidAtTenant.toList.takeWhile (· != '@'))

/-- Whether credentials belong to a binding. -/
def belongsTo (c : Credential) (bindingId : String) : Bool :=
  c.bindingId == bindingId

end Credential

end ServiceBroker
