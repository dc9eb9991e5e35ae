/-
Random catalogs for trying out whatever consumes catalogs. Names follow from places alone; identifiers,
tags and flags are drawn.
-/
import ServiceBroker.Catalog
import ServiceBroker.Random

namespace ServiceBroker

/-- How large the catalogs are. -/
structure Generator where
  services : Nat := 3
  plansPerService : Nat := 2
  tagsPerService : Nat := 2
deriving DecidableEq, Repr

namespace Generator

open ServiceBroker.Random (Draw)

/-- The names of services. -/
def serviceNames : List String :=
  ["redis", "postgres", "mysql", "rabbitmq", "kafka", "mongodb", "elastic", "memcached"]

/-- The names of plans. -/
def planNames : List String := ["nano", "small", "medium", "large", "xlarge"]

/-- The tags that a service may have. -/
def tags : List String := ["cache", "database", "queue", "sql", "nosql", "search"]

/-- The name of the service at a place. When the names are used up they come again with a number. -/
def serviceName (index : Nat) : String :=
  let base := serviceNames.getD (index % serviceNames.length) ""
  if index < serviceNames.length then base else s!"{base}-{index / serviceNames.length}"

/-- The name of the plan at a place. When the names are used up they come again. -/
def planName (index : Nat) : String :=
  planNames.getD (index % planNames.length) ""

/-- The plan at a place. The first one is free. -/
def plan (service : String) (index : Nat) : Draw Plan := do
  let id ← Random.guid
  let size := planName index
  return { id, name := size, description := s!"{size} {service} plan", free := some (index == 0), bindable := none,
           metadata := none, schemas := none, maintenanceInfo := none, maximumPollingDuration := none,
           planUpdateable := none }

/-- The plans from a place on. -/
def plans (service : String) (index : Nat) : Nat → Draw (List Plan)
  | 0 => return []
  | count + 1 => do
    let p ← plan service index
    return p :: (← plans service (index + 1) count)

/-- Words below this bound are four in five. -/
def fourInFive : UInt64 := 14757395258967642112

/-- The service at a place. -/
def service (g : Generator) (index : Nat) : Draw Service := do
  let name := serviceName index
  let chosen ← Random.sample tags.length (min g.tagsPerService tags.length)
  let plans ← plans name 0 g.plansPerService
  let id ← Random.guid
  let bindable ← Random.chance fourInFive
  let planUpdateable ← Random.bool
  return { id, name, description := s!"{name} service", tags := chosen.map (tags.getD · ""), requires := [], bindable,
           instancesRetrievable := none, bindingsRetrievable := none, planUpdateable := some planUpdateable,
           dashboardClient := none, metadata := none, plans }

/-- The services from a place on. -/
def servicesFrom (g : Generator) (index : Nat) : Nat → Draw (List Service)
  | 0 => return []
  | count + 1 => do
    let s ← g.service index
    return s :: (← g.servicesFrom (index + 1) count)

/-- A random catalog. -/
def generate (g : Generator) : Draw Catalog := do
  return ⟨← g.servicesFrom 0 g.services⟩

end Generator

end ServiceBroker
