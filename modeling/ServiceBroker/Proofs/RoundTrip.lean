/-
The data model as JSON. Every type of the model has a sound shape, so its values come back from their
compact text exactly as they were: what is absent, what is there but empty, and in which order lists stand.
Main statement: `DataType.round_trip`.
-/
import ServiceBroker.Binding
import ServiceBroker.Proofs.Json.Writing

namespace ServiceBroker

open Json (Shape)

/-! ## The shapes of the model -/

@[simp] theorem Json.Shape.sound_uint32 : Shape.uint32.Sound :=
  Json.sound_word (by decide) fun _ => rfl

@[simp] theorem Json.Shape.sound_uint64 : Shape.uint64.Sound :=
  Json.sound_word (by decide) fun _ => rfl

theorem OperationKey.sound_shape : OperationKey.shape.Sound := by
  rw [OperationKey.shape, Shape.Sound, Shape.Lawful]
  exact ⟨⟨Json.sound_text.1, fun _ => rfl⟩, trivial⟩

@[simp] theorem MaintenanceInfo.sound_shape : MaintenanceInfo.shape.Sound :=
  Json.sound_structure (by simp) fun _ => rfl

@[simp] theorem InputSchema.sound_shape : InputSchema.shape.Sound :=
  Json.sound_structure (by simp) fun _ => rfl

@[simp] theorem InstanceSchema.sound_shape : InstanceSchema.shape.Sound :=
  Json.sound_structure (by simp) fun _ => rfl

@[simp] theorem BindingSchema.sound_shape : BindingSchema.shape.Sound :=
  Json.sound_structure (by simp) fun _ => rfl

@[simp] theorem Schemas.sound_shape : Schemas.shape.Sound :=
  Json.sound_structure (by simp) fun _ => rfl

theorem Plan.sound_shape : Plan.shape.Sound :=
  Json.sound_structure (by simp [Json.sound_text.1]) fun _ => rfl

@[simp] theorem DashboardClient.sound_shape : DashboardClient.shape.Sound :=
  Json.sound_structure (by simp [Json.sound_text.1]) fun _ => rfl

theorem Service.sound_shape : Service.shape.Sound :=
  Json.sound_structure (by simp [Json.sound_text.1, Json.sound_bool.1, Plan.sound_shape.1]) fun _ => rfl

theorem Catalog.sound_shape : Catalog.shape.Sound :=
  Json.sound_structure (by simp [Service.sound_shape.1]) fun _ => rfl

theorem PreviousValues.sound_shape : PreviousValues.shape.Sound :=
  Json.sound_structure (by simp) fun _ => rfl

theorem BindResource.sound_shape : BindResource.shape.Sound :=
  Json.sound_structure (by simp) fun _ => rfl

theorem InstanceDetails.sound_shape : InstanceDetails.shape.Sound :=
  Json.sound_structure (by simp [Json.sound_text.1]) fun _ => rfl

theorem InstanceSummary.sound_shape : InstanceSummary.shape.Sound :=
  Json.sound_structure (by simp [Json.sound_text.1]) fun _ => rfl

theorem InstancesPage.sound_shape : InstancesPage.shape.Sound :=
  Json.sound_structure (by simp [InstanceSummary.sound_shape.1]) fun _ => rfl

/-! ## The data model -/

/-- The types of the data model. -/
inductive DataType
  | catalog
  | service
  | dashboardClient
  | plan
  | schemas
  | maintenanceInfo
  | previousValues
  | bindResource
  | instanceDetails
  | instancesPage
  | instanceSummary
  | operationKey

namespace DataType

/-- The values of a type. -/
abbrev Value : DataType → Type
  | catalog => Catalog
  | service => Service
  | dashboardClient => DashboardClient
  | plan => Plan
  | schemas => Schemas
  | maintenanceInfo => MaintenanceInfo
  | previousValues => PreviousValues
  | bindResource => BindResource
  | instanceDetails => InstanceDetails
  | instancesPage => InstancesPage
  | instanceSummary => InstanceSummary
  | operationKey => OperationKey

/-- The JSON form of a type. -/
def shape : (t : DataType) → Shape t.Value
  | catalog => Catalog.shape
  | service => Service.shape
  | dashboardClient => DashboardClient.shape
  | plan => Plan.shape
  | schemas => Schemas.shape
  | maintenanceInfo => MaintenanceInfo.shape
  | previousValues => PreviousValues.shape
  | bindResource => BindResource.shape
  | instanceDetails => InstanceDetails.shape
  | instancesPage => InstancesPage.shape
  | instanceSummary => InstanceSummary.shape
  | operationKey => OperationKey.shape

theorem sound_shape : (t : DataType) → t.shape.Sound
  | catalog => Catalog.sound_shape
  | service => Service.sound_shape
  | dashboardClient => DashboardClient.sound_shape
  | plan => Plan.sound_shape
  | schemas => Schemas.sound_shape
  | maintenanceInfo => MaintenanceInfo.sound_shape
  | previousValues => PreviousValues.sound_shape
  | bindResource => BindResource.sound_shape
  | instanceDetails => InstanceDetails.sound_shape
  | instancesPage => InstancesPage.sound_shape
  | instanceSummary => InstanceSummary.sound_shape
  | operationKey => OperationKey.sound_shape

/-- The compact text of a value decodes as exactly that value, and so does what is written of any body that
decodes as the value. The free parts of a value are its dictionaries, which are objects, and the parameters
of its schemas, which may not be `null`. -/
theorem round_trip (t : DataType) (v : t.Value) (hi : ∀ j ∈ t.shape.freeParts v, j.Integral)
    (hn : ∀ j ∈ t.shape.freeParts v, j ≠ .null) (hd : (t.shape.write v).depth ≤ 127) :
    t.shape.decode (Utf8.encode (t.shape.encode v)) = .ok v ∧
      ∀ body, t.shape.decode body = .ok v →
        t.shape.decode (Utf8.encode (t.shape.encode v)) = t.shape.decode body := by
  have h := t.shape.decode_encode v t.sound_shape.1 (fun j hj => ⟨hi j hj, hn j hj⟩) hd
  exact ⟨h, fun body hb => h.trans hb.symm⟩

end DataType

/-- A plan with what can be mistaken for absent: an empty dictionary, upkeep that says nothing, and a schema
for bindings without any. -/
def Plan.sparse : Plan where
  id := "p"
  name := ""
  description := "\n\"\\é"
  free := some false
  bindable := none
  metadata := some .empty
  schemas :=
    some ⟨some ⟨some ⟨some ⟨.array [.null, .bool true], ⟨trivial, trivial, trivial⟩⟩⟩, some ⟨none⟩⟩, some ⟨none⟩⟩
  maintenanceInfo := some ⟨none, some ""⟩
  maximumPollingDuration := some 18446744073709551615
  planUpdateable := none

theorem DataType.round_trip_sparsePlan :
    (∀ j ∈ DataType.plan.shape.freeParts Plan.sparse, j.Integral) ∧
    (∀ j ∈ DataType.plan.shape.freeParts Plan.sparse, j ≠ .null) ∧
    (DataType.plan.shape.write Plan.sparse).depth ≤ 127 ∧
    DataType.plan.shape.decode (Utf8.encode (DataType.plan.shape.encode Plan.sparse)) = .ok Plan.sparse := by
  have hparts : DataType.plan.shape.freeParts Plan.sparse = [.object [], .array [.null, .bool true]] := by
    rfl
  have hi : ∀ j ∈ DataType.plan.shape.freeParts Plan.sparse, j.Integral := by
    rw [hparts]
    simp only [List.mem_cons, List.not_mem_nil, or_false]
    rintro j (rfl | rfl)
    · exact .object .nil
    · exact .array (.cons .null (.cons (.bool true) .nil))
  have hn : ∀ j ∈ DataType.plan.shape.freeParts Plan.sparse, j ≠ .null := by
    rw [hparts]
    simp
  have hd : (DataType.plan.shape.write Plan.sparse).depth ≤ 127 := by
    decide +kernel
  exact ⟨hi, hn, hd, (DataType.round_trip .plan Plan.sparse hi hn hd).1⟩

end ServiceBroker
