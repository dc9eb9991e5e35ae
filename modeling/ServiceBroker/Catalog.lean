/-
The catalog of a broker: services, their plans, and the parameters these take. Newer versions of the
API and alpha features added fields; `Catalog.pruned` removes what a client must not see, and leaves
everything else, the order included, as it is.
-/
import ServiceBroker.Json.Shape
import ServiceBroker.Version

namespace ServiceBroker

open Json (Shape Fields)

/-- A number of 32 bits. -/
def Json.Shape.uint32 : Shape UInt32 := .view (.count 32) UInt32.ofBitVec UInt32.toBitVec

/-- A number of 64 bits. -/
def Json.Shape.uint64 : Shape UInt64 := .view (.count 64) UInt64.ofBitVec UInt64.toBitVec

/-! ## Types -/

/-- What a plan needs for its upkeep. -/
structure MaintenanceInfo where
  version : Option String
  description : Option String
deriving DecidableEq, Inhabited

/-- A JSON schema for parameters. -/
structure InputSchema where
  parameters : Option Json.Free
deriving DecidableEq

/-- The parameters for making and changing an instance. -/
structure InstanceSchema where
  create : Option InputSchema
  update : Option InputSchema
deriving DecidableEq

/-- The parameters for making a binding. -/
structure BindingSchema where
  create : Option InputSchema
deriving DecidableEq

/-- The parameters that a plan takes. -/
structure Schemas where
  serviceInstance : Option InstanceSchema
  serviceBinding : Option BindingSchema
deriving DecidableEq

/-- A plan of a service. -/
structure Plan where
  id : String
  name : String
  description : String
  free : Option Bool
  bindable : Option Bool
  metadata : Option Json.Dictionary
  schemas : Option Schemas
  maintenanceInfo : Option MaintenanceInfo
  maximumPollingDuration : Option UInt64
  planUpdateable : Option Bool
deriving DecidableEq

/-- The client that a service's dashboard signs in with. -/
structure DashboardClient where
  id : String
  secret : String
  redirectUri : Option String
deriving DecidableEq

/-- A service and its plans. -/
structure Service where
  id : String
  name : String
  description : String
  tags : List String
  requires : List String
  bindable : Bool
  instancesRetrievable : Option Bool
  bindingsRetrievable : Option Bool
  planUpdateable : Option Bool
  dashboardClient : Option DashboardClient
  metadata : Option Json.Dictionary
  plans : List Plan
deriving DecidableEq

/-- What a broker offers. -/
structure Catalog where
  services : List Service
deriving DecidableEq, Inhabited

/-! ## Shapes -/

/-- The JSON form of upkeep information. -/
def MaintenanceInfo.shape : Shape MaintenanceInfo :=
  .view (.record "MaintenanceInfo" (.optional "version" .text (.optional "description" .text .nil)))
    (fun (version, description, ()) => ⟨version, description⟩)
    (fun m => (m.version, m.description, ()))

/-- The JSON form of a parameter schema. -/
def InputSchema.shape : Shape InputSchema :=
  .view (.record "InputParametersSchema" (.optional "parameters" .free .nil))
    (fun (parameters, ()) => ⟨parameters⟩)
    (fun s => (s.parameters, ()))

/-- The JSON form of the schemas for instances. -/
def InstanceSchema.shape : Shape InstanceSchema :=
  .view (.record "ServiceInstanceSchema"
      (.optional "create" InputSchema.shape (.optional "update" InputSchema.shape .nil)))
    (fun (create, update, ()) => ⟨create, update⟩)
    (fun s => (s.create, s.update, ()))

/-- The JSON form of the schemas for bindings. -/
def BindingSchema.shape : Shape BindingSchema :=
  .view (.record "ServiceBindingSchema" (.optional "create" InputSchema.shape .nil))
    (fun (create, ()) => ⟨create⟩)
    (fun s => (s.create, ()))

/-- The JSON form of a plan's schemas. -/
def Schemas.shape : Shape Schemas :=
  .view (.record "Schemas"
      (.optional "service_instance" InstanceSchema.shape
        (.optional "service_binding" BindingSchema.shape .nil)))
    (fun (serviceInstance, serviceBinding, ()) => ⟨serviceInstance, serviceBinding⟩)
    (fun s => (s.serviceInstance, s.serviceBinding, ()))

/-- The JSON form of a plan. -/
def Plan.shape : Shape Plan :=
  .view (.record "Plan"
      (.required "id" .text
        (.required "name" .text
          (.required "description" .text
            (.optional "free" .bool
              (.optional "bindable" .bool
                (.optional "metadata" .dictionary
                  (.optional "schemas" Schemas.shape
                    (.optional "maintenance_info" MaintenanceInfo.shape
                      (.optional "maximum_polling_duration" .uint64
                        (.optional "plan_updateable" .bool .nil)))))))))))
    (fun (id, name, description, free, bindable, metadata, schemas, maintenanceInfo,
        maximumPollingDuration, planUpdateable, ()) =>
      ⟨id, name, description, free, bindable, metadata, schemas, maintenanceInfo, maximumPollingDuration,
        planUpdateable⟩)
    (fun p => (p.id, p.name, p.description, p.free, p.bindable, p.metadata, p.schemas, p.maintenanceInfo,
      p.maximumPollingDuration, p.planUpdateable, ()))

/-- The JSON form of a dashboard's client. -/
def DashboardClient.shape : Shape DashboardClient :=
  .view (.record "DashboardClient"
      (.required "id" .text (.required "secret" .text (.optional "redirect_uri" .text .nil))))
    (fun (id, secret, redirectUri, ()) => ⟨id, secret, redirectUri⟩)
    (fun c => (c.id, c.secret, c.redirectUri, ()))

/-- The JSON form of a service. -/
def Service.shape : Shape Service :=
  .view (.record "Service"
      (.required "id" .text
        (.required "name" .text
          (.required "description" .text
            (.listedUnlessEmpty "tags" .text
              (.listedUnlessEmpty "requires" .text
                (.required "bindable" .bool
                  (.optional "instances_retrievable" .bool
                    (.optional "bindings_retrievable" .bool
                      (.optional "plan_updateable" .bool
                        (.optional "dashboard_client" DashboardClient.shape
                          (.optional "metadata" .dictionary
                            (.listed "plans" Plan.shape .nil)))))))))))))
    (fun (id, name, description, tags, requires, bindable, instancesRetrievable, bindingsRetrievable,
        planUpdateable, dashboardClient, metadata, plans, ()) =>
      ⟨id, name, description, tags, requires, bindable, instancesRetrievable, bindingsRetrievable,
        planUpdateable, dashboardClient, metadata, plans⟩)
    (fun s => (s.id, s.name, s.description, s.tags, s.requires, s.bindable, s.instancesRetrievable,
      s.bindingsRetrievable, s.planUpdateable, s.dashboardClient, s.metadata, s.plans, ()))

/-- The JSON form of a catalog. -/
def Catalog.shape : Shape Catalog :=
  .view (.record "CatalogResponse" (.listed "services" Service.shape .nil))
    (fun (services, ()) => ⟨services⟩)
    (fun c => (c.services, ()))

/-! ## Pruning -/

/-- What a client of a version, with or without alpha features, sees of a plan. -/
def Plan.pruned (version : Version) (alpha : Bool) (p : Plan) : Plan :=
  { p with
    schemas := if version < .v2_13 then none else p.schemas
    maintenanceInfo := if alpha then p.maintenanceInfo else none
    maximumPollingDuration := if alpha then p.maximumPollingDuration else none
    planUpdateable := if alpha then p.planUpdateable else none }

/-- What a client sees of a service. -/
def Service.pruned (version : Version) (alpha : Bool) (s : Service) : Service :=
  { s with
    instancesRetrievable := if version < .v2_14 then none else s.instancesRetrievable
    bindingsRetrievable := if version < .v2_14 then none else s.bindingsRetrievable
    plans := s.plans.map (Plan.pruned version alpha) }

/-- What a client sees of a catalog. -/
def Catalog.pruned (version : Version) (alpha : Bool) (c : Catalog) : Catalog :=
  ⟨c.services.map (Service.pruned version alpha)⟩

/-! ## Looking up -/

/-- The first service with an id. -/
def Catalog.service? (c : Catalog) (id : String) : Option Service :=
  c.services.find? (·.id == id)

/-- The first plan with an id. -/
def Service.plan? (s : Service) (id : String) : Option Plan :=
  s.plans.find? (·.id == id)

end ServiceBroker
