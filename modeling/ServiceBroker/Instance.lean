/-
Service instances: what is sent to make, change, remove and read them, and what comes back.
Identifiers travel in the path and flags in the query; the `Body` types are what the broker reads.
-/
import ServiceBroker.Catalog
import ServiceBroker.Identity
import ServiceBroker.Operation

namespace ServiceBroker

open Json (Shape Fields)

/-! ## Provisioning -/

/-- Asks for a new instance. -/
structure ProvisionRequest where
  instanceId : String
  acceptsIncomplete : Bool
  serviceId : String
  planId : String
  organizationGuid : String
  spaceGuid : String
  parameters : Option Json.Dictionary
  context : Option Json.Dictionary
  originatingIdentity : Option OriginatingIdentity
deriving DecidableEq

/-- The part of a provision request that is its body. -/
structure ProvisionBody where
  serviceId : String
  planId : String
  organizationGuid : String
  spaceGuid : String
  parameters : Option Json.Dictionary
  context : Option Json.Dictionary
deriving DecidableEq

/-- The body of a provision request. -/
def ProvisionRequest.body (r : ProvisionRequest) : ProvisionBody :=
  ⟨r.serviceId, r.planId, r.organizationGuid, r.spaceGuid, r.parameters, r.context⟩

/-- The JSON form of a provision body. -/
def ProvisionBody.shape : Shape ProvisionBody :=
  .view (.record "ProvisionRequestBody"
      (.required "service_id" .text
        (.required "plan_id" .text
          (.required "organization_guid" .text
            (.required "space_guid" .text
              (.optional "parameters" .dictionary
                (.optional "context" .dictionary .nil)))))))
    (fun (serviceId, planId, organizationGuid, spaceGuid, parameters, context, ()) =>
      ⟨serviceId, planId, organizationGuid, spaceGuid, parameters, context⟩)
    (fun b => (b.serviceId, b.planId, b.organizationGuid, b.spaceGuid, b.parameters, b.context, ()))

/-- What came of making or changing an instance. An operation key is there when the broker goes on
working. -/
structure InstanceOutcome where
  isAsync : Bool
  dashboardUrl : Option String
  operationKey : Option OperationKey
deriving DecidableEq

/-- The body of an answer to making or changing an instance. -/
structure InstanceBody where
  dashboardUrl : Option String
  operation : Option OperationKey
deriving DecidableEq

/-- The JSON form of that body. -/
def InstanceBody.shape : Shape InstanceBody :=
  .view (.record "InstanceOperationBody"
      (.optional "dashboard_url" .text (.optional "operation" OperationKey.shape .nil)))
    (fun (dashboardUrl, operation, ()) => ⟨dashboardUrl, operation⟩)
    (fun b => (b.dashboardUrl, b.operation, ()))

/-! ## Updating -/

/-- What an instance was before a change. -/
structure PreviousValues where
  planId : Option String
  serviceId : Option String
  organizationId : Option String
  spaceId : Option String
  maintenanceInfo : Option MaintenanceInfo
deriving DecidableEq

/-- The JSON form of an instance's earlier values. -/
def PreviousValues.shape : Shape PreviousValues :=
  .view (.record "PreviousValues"
      (.optional "plan_id" .text
        (.optional "service_id" .text
          (.optional "organization_id" .text
            (.optional "space_id" .text
              (.optional "maintenance_info" MaintenanceInfo.shape .nil))))))
    (fun (planId, serviceId, organizationId, spaceId, maintenanceInfo, ()) =>
      ⟨planId, serviceId, organizationId, spaceId, maintenanceInfo⟩)
    (fun v => (v.planId, v.serviceId, v.organizationId, v.spaceId, v.maintenanceInfo, ()))

/-- Asks for a change of an instance. Without a plan the current one stays. -/
structure UpdateRequest where
  instanceId : String
  acceptsIncomplete : Bool
  serviceId : String
  planId : Option String
  parameters : Option Json.Dictionary
  previousValues : Option PreviousValues
  context : Option Json.Dictionary
  maintenanceInfo : Option MaintenanceInfo
  originatingIdentity : Option OriginatingIdentity
deriving DecidableEq

/-- The part of an update request that is its body. -/
structure UpdateBody where
  serviceId : String
  planId : Option String
  parameters : Option Json.Dictionary
  previousValues : Option PreviousValues
  context : Option Json.Dictionary
  maintenanceInfo : Option MaintenanceInfo
deriving DecidableEq

/-- The body of an update request. -/
def UpdateRequest.body (r : UpdateRequest) : UpdateBody :=
  ⟨r.serviceId, r.planId, r.parameters, r.previousValues, r.context, r.maintenanceInfo⟩

/-- The JSON form of an update body. -/
def UpdateBody.shape : Shape UpdateBody :=
  .view (.record "UpdateInstanceRequestBody"
      (.required "service_id" .text
        (.optional "plan_id" .text
          (.optional "parameters" .dictionary
            (.optional "previous_values" PreviousValues.shape
              (.optional "context" .dictionary
                (.optional "maintenance_info" MaintenanceInfo.shape .nil)))))))
    (fun (serviceId, planId, parameters, previousValues, context, maintenanceInfo, ()) =>
      ⟨serviceId, planId, parameters, previousValues, context, maintenanceInfo⟩)
    (fun b => (b.serviceId, b.planId, b.parameters, b.previousValues, b.context, b.maintenanceInfo, ()))

/-! ## Deprovisioning -/

/-- Asks for the removal of an instance. -/
structure DeprovisionRequest where
  instanceId : String
  acceptsIncomplete : Bool
  serviceId : String
  planId : String
  originatingIdentity : Option OriginatingIdentity
deriving DecidableEq

/-- What came of a removal. -/
structure RemovalOutcome where
  isAsync : Bool
  operationKey : Option OperationKey
deriving DecidableEq

/-! ## Reading -/

/-- Asks for one instance. -/
structure InstanceRequest where
  instanceId : String
deriving DecidableEq

/-- An instance as the broker knows it. -/
structure InstanceDetails where
  serviceId : String
  planId : String
  dashboardUrl : Option String
  parameters : Option Json.Dictionary
  maintenanceInfo : Option MaintenanceInfo
deriving DecidableEq

/-- The JSON form of an instance. -/
def InstanceDetails.shape : Shape InstanceDetails :=
  .view (.record "GetInstanceResponse"
      (.required "service_id" .text
        (.required "plan_id" .text
          (.optional "dashboard_url" .text
            (.optional "parameters" .dictionary
              (.optional "maintenance_info" MaintenanceInfo.shape .nil))))))
    (fun (serviceId, planId, dashboardUrl, parameters, maintenanceInfo, ()) =>
      ⟨serviceId, planId, dashboardUrl, parameters, maintenanceInfo⟩)
    (fun i => (i.serviceId, i.planId, i.dashboardUrl, i.parameters, i.maintenanceInfo, ()))

/-- Asks for a page of the list of instances. -/
structure InstancesRequest where
  page : Option UInt32
  pageSize : Option UInt32
deriving DecidableEq

/-- An instance in a list. -/
structure InstanceSummary where
  instanceId : String
  serviceId : String
  planId : String
  dashboardUrl : Option String
deriving DecidableEq

/-- The JSON form of an instance in a list. -/
def InstanceSummary.shape : Shape InstanceSummary :=
  .view (.record "InstanceSummary"
      (.required "instance_id" .text
        (.required "service_id" .text
          (.required "plan_id" .text
            (.optional "dashboard_url" .text .nil)))))
    (fun (instanceId, serviceId, planId, dashboardUrl, ()) => ⟨instanceId, serviceId, planId, dashboardUrl⟩)
    (fun i => (i.instanceId, i.serviceId, i.planId, i.dashboardUrl, ()))

/-- A page of the list of instances. The last page names no next one. -/
structure InstancesPage where
  instances : List InstanceSummary
  nextPage : Option UInt32
deriving DecidableEq

/-- The JSON form of a page. -/
def InstancesPage.shape : Shape InstancesPage :=
  .view (.record "ListInstancesResponse"
      (.listed "instances" InstanceSummary.shape (.optional "next_page" .uint32 .nil)))
    (fun (instances, nextPage, ()) => ⟨instances, nextPage⟩)
    (fun p => (p.instances, p.nextPage, ()))

end ServiceBroker
