/-
What the body of a request says. Provisioning, updating and binding write some fields of what is asked into the body,
and all other calls leave it empty. Nothing else has a part in the body, neither the identifiers of the path nor the
client, and nothing of the fields is lost: bodies are the same exactly if the fields are (`body_perform`). A field that
is absent, one that is there but empty and one that has something in it are three different fields.
-/
import ServiceBroker.Proofs.Paths
import ServiceBroker.Proofs.RoundTrip

namespace ServiceBroker

/-! ## Free parts -/

namespace Json

/-- A shape whose values have no free parts. -/
def Shape.Fixed (shape : Shape α) : Prop :=
  ∀ a, shape.freeParts a = []

@[simp] theorem fixed_text : Shape.text.Fixed := by
  intro s
  rw [Shape.freeParts]

@[simp] theorem freeParts_text (s : String) : Shape.text.freeParts s = [] :=
  fixed_text s

@[simp] theorem Shape.Fixed.flatMap {shape : Shape α} (h : shape.Fixed) (as : List α) :
    as.flatMap shape.freeParts = [] :=
  List.flatMap_eq_nil_iff.2 fun a _ => h a

@[simp] theorem flatMap_dictionary (ds : List Dictionary) :
    ds.flatMap Shape.dictionary.freeParts = ds.map Dictionary.toJson := by
  rw [List.map_eq_flatMap]
  rfl

@[simp] theorem freeParts_nil (u : Unit) : Fields.nil.freeParts u = [] := by
  rw [Fields.freeParts]

@[simp] theorem freeParts_required {name : String} {shape : Shape α} {rest : Fields ρ σ} (a : α) (r : ρ) :
    (Fields.required name shape rest).freeParts (a, r) = shape.freeParts a ++ rest.freeParts r := by
  rw [Fields.required, Fields.freeParts]

@[simp] theorem freeParts_optional {name : String} {shape : Shape α} {rest : Fields ρ σ} (a : Option α) (r : ρ) :
    (Fields.optional name shape rest).freeParts (a, r) = a.toList.flatMap shape.freeParts ++ rest.freeParts r := by
  rw [Fields.optional, Fields.freeParts]
  cases a with
  | none =>
    rw [Shape.freeParts]
    rfl
  | some a => rw [Shape.freeParts, Option.toList_some, List.flatMap_singleton]

theorem freeParts_structure {name : String} {fields : Fields ρ σ} {build : ρ → β} {parts : β → ρ} (b : β) :
    (Shape.view (.record name fields) build parts).freeParts b = fields.freeParts (parts b) := by
  rw [Shape.freeParts, Shape.freeParts]

end Json

@[simp] theorem MaintenanceInfo.fixed_shape : MaintenanceInfo.shape.Fixed := by
  intro m
  rw [shape, Json.freeParts_structure]
  simp

@[simp] theorem PreviousValues.fixed_shape : PreviousValues.shape.Fixed := by
  intro v
  rw [shape, Json.freeParts_structure]
  simp

@[simp] theorem BindResource.fixed_shape : BindResource.shape.Fixed := by
  intro r
  rw [shape, Json.freeParts_structure]
  simp

theorem ProvisionBody.freeParts_shape (b : ProvisionBody) :
    shape.freeParts b = (b.parameters.toList ++ b.context.toList).map Json.Dictionary.toJson := by
  rw [shape, Json.freeParts_structure]
  simp

theorem UpdateBody.freeParts_shape (b : UpdateBody) :
    shape.freeParts b = (b.parameters.toList ++ b.context.toList).map Json.Dictionary.toJson := by
  rw [shape, Json.freeParts_structure]
  simp

theorem BindBody.freeParts_shape (b : BindBody) :
    shape.freeParts b = (b.parameters.toList ++ b.context.toList).map Json.Dictionary.toJson := by
  rw [shape, Json.freeParts_structure]
  simp

theorem ProvisionBody.sound_shape : ProvisionBody.shape.Sound :=
  Json.sound_structure (by simp [Json.sound_text.1]) fun _ => rfl

theorem UpdateBody.sound_shape : UpdateBody.shape.Sound :=
  Json.sound_structure (by simp [Json.sound_text.1, PreviousValues.sound_shape]) fun _ => rfl

theorem BindBody.sound_shape : BindBody.shape.Sound :=
  Json.sound_structure (by simp [Json.sound_text.1, BindResource.sound_shape]) fun _ => rfl

/-! ## What belongs in a body -/

namespace Endpoint

/-- The calls that send a body. -/
def SendsBody (e : Endpoint) : Prop :=
  e = .provisionInstance ∨ e = .updateInstance ∨ e = .bind

/-- What is free in a request: its parameters and its context. -/
def freeForm : (e : Endpoint) → e.Request → List Json.Dictionary
  | .provisionInstance, r | .updateInstance, r | .bind, r => r.parameters.toList ++ r.context.toList
  | _, _ => []

/-- Two requests agree in every field that belongs in the body. -/
def AgreeInBody : (e : Endpoint) → e.Request → e.Request → Prop
  | .provisionInstance, r, r' =>
    r.serviceId = r'.serviceId ∧ r.planId = r'.planId ∧ r.organizationGuid = r'.organizationGuid ∧
      r.spaceGuid = r'.spaceGuid ∧ r.parameters = r'.parameters ∧ r.context = r'.context
  | .updateInstance, r, r' =>
    r.serviceId = r'.serviceId ∧ r.planId = r'.planId ∧ r.parameters = r'.parameters ∧
      r.previousValues = r'.previousValues ∧ r.context = r'.context ∧ r.maintenanceInfo = r'.maintenanceInfo
  | .bind, r, r' =>
    r.serviceId = r'.serviceId ∧ r.planId = r'.planId ∧ r.appGuid = r'.appGuid ∧
      r.bindResource = r'.bindResource ∧ r.parameters = r'.parameters ∧ r.context = r'.context
  | _, _, _ => True

end Endpoint

/-- Values whose free parts are dictionaries without doubles are written alike only if they are the same. -/
theorem encode_eq_iff {shape : Json.Shape α} {a b : α} {free : α → List Json.Dictionary} (hs : shape.Sound)
    (hparts : ∀ a, shape.freeParts a = (free a).map Json.Dictionary.toJson)
    (hfree : ∀ d ∈ free a ++ free b, d.toJson.Integral) :
    Utf8.encode (shape.encode a) = Utf8.encode (shape.encode b) ↔ a = b := by
  have hobject {a : α} (hi : ∀ d ∈ free a, d.toJson.Integral) : ∀ j ∈ shape.freeParts a, j.Integral ∧ j ≠ .null := by
    intro j hj
    rw [hparts] at hj
    obtain ⟨d, hd, rfl⟩ := List.mem_map.1 hj
    exact ⟨hi d hd, nofun⟩
  obtain ⟨ha, hb⟩ := List.forall_mem_append.1 hfree
  constructor
  · exact shape.eq_of_encode_eq hs.1 (hobject ha) (hobject hb)
  · rintro rfl
    rfl

namespace Call

/-- The body of a call, which is empty if there is none. -/
def bodyBytes (healthEndpoint : Option String) (call : Call) : List UInt8 :=
  Utf8.encode ((call.draft healthEndpoint).body.getD "")

theorem isSome_body_iff (healthEndpoint : Option String) (call : Call) :
    (call.draft healthEndpoint).body.isSome = true ↔ call.endpoint.SendsBody := by
  obtain ⟨endpoint, r⟩ := call
  cases endpoint <;> simp [draft, Endpoint.SendsBody]

/-- Bodies are the same exactly if all fields are that belong in them. -/
theorem bodyBytes_eq_iff (health health' : Option String) (e : Endpoint) (r r' : e.Request)
    (hfree : ∀ d ∈ e.freeForm r ++ e.freeForm r', d.toJson.Integral) :
    bodyBytes health ⟨e, r⟩ = bodyBytes health' ⟨e, r'⟩ ↔ e.AgreeInBody r r' := by
  cases e with
  | provisionInstance =>
    have h := encode_eq_iff (a := r.body) (b := r'.body) ProvisionBody.sound_shape ProvisionBody.freeParts_shape hfree
    refine h.trans ?_
    simp [ProvisionRequest.body, Endpoint.AgreeInBody]
  | updateInstance =>
    have h := encode_eq_iff (a := r.body) (b := r'.body) UpdateBody.sound_shape UpdateBody.freeParts_shape hfree
    refine h.trans ?_
    simp [UpdateRequest.body, Endpoint.AgreeInBody]
  | bind =>
    have h := encode_eq_iff (a := r.body) (b := r'.body) BindBody.sound_shape BindBody.freeParts_shape hfree
    refine h.trans ?_
    simp [BindRequest.body, Endpoint.AgreeInBody]
  | _ =>
    -- Both bodies are empty, and there is nothing to agree in.
    exact iff_of_true rfl trivial

end Call

/-! ## Requests -/

namespace Client

theorem body_prepare {c : Client} {call : Call} {request : Http.Request} (h : c.prepare call = .ok request) :
    Utf8.encode request.body = call.bodyBytes c.healthEndpoint := by
  rw [((prepare_eq_ok_iff c call request).1 h).2.eq]
  rfl

/-- A media type is told exactly if there is a body. -/
theorem contentType_headers (c : Client) (d : Draft) :
    "content-type" ∈ (c.headers d).map Prod.fst ↔ d.body.isSome = true := by
  unfold headers
  cases c.auth <;> cases d.identity <;> cases d.body <;> simp [versionHeader, authHeader, identityHeader]

/-- Two requests of the same call, sent by any two clients, have the same body exactly if they agree in every field
that belongs in it, so long as nothing that is free in them has a double in it. Calls that send no body have an empty
one, and tell no media type. -/
theorem body_perform (c c' : Client) (health health' : Cache.Health) (cache cache' : Cache) (e : Endpoint)
    (r r' : e.Request) (d d' : Delivery) (request request' : Http.Request)
    (hfree : ∀ free ∈ e.freeForm r ++ e.freeForm r', free.toJson.Integral)
    (hs : request ∈ (c.perform health cache ⟨e, r⟩ d).1.sent)
    (hs' : request' ∈ (c'.perform health' cache' ⟨e, r'⟩ d').1.sent) :
    (Utf8.encode request.body = Utf8.encode request'.body ↔ e.AgreeInBody r r') ∧
    ("content-type" ∈ request.headers.map Prod.fst ↔ e.SendsBody) ∧
    (¬ e.SendsBody → request.body = "") := by
  have hp := prepare_of_mem_sent hs
  have hp' := prepare_of_mem_sent hs'
  have hrequest := ((prepare_eq_ok_iff c ⟨e, r⟩ request).1 hp).2.eq
  have hbody := Call.isSome_body_iff c.healthEndpoint ⟨e, r⟩
  refine ⟨?_, ?_, ?_⟩
  · rw [body_prepare hp, body_prepare hp']
    exact Call.bodyBytes_eq_iff _ _ e r r' hfree
  · rw [hrequest, ← hbody]
    exact contentType_headers c _
  · intro hnone
    rw [← hbody, Option.not_isSome_iff_eq_none] at hnone
    rw [hrequest, hnone]
    rfl

/-- Two updates of an instance: with no value that may be absent, and with empty ones. -/
def updates : UpdateRequest × UpdateRequest :=
  (⟨"i", false, "s", none, none, none, none, none, none⟩,
    ⟨"i", false, "s", some "", some .empty, some ⟨none, none, none, none, none⟩, none, none, none⟩)

/-- What is sent for an update with a body. -/
def sentUpdate (body : String) : Http.Request :=
  ⟨.patch, "http://[::1]/osb/v2/service_instances/i",
    [("x-broker-api-version", "2.14"), ("accept", "application/json"), ("content-type", "application/json")], body⟩

/-- What is sent for both. -/
def sentUpdates : Http.Request × Http.Request :=
  (sentUpdate "\x7b\"service_id\":\"s\"\x7d",
    sentUpdate
      "\x7b\"service_id\":\"s\",\"plan_id\":\"\",\"parameters\":\x7b\x7d,\"previous_values\":\x7b\x7d\x7d")

/-- Empty values are sent and are told from absent ones. -/
theorem body_perform_updates :
    (∀ free ∈ Endpoint.updateInstance.freeForm updates.1 ++ Endpoint.updateInstance.freeForm updates.2,
      free.toJson.Integral) ∧
    sentUpdates.1 ∈ (loopback.perform ⟨.sound, true⟩ .empty ⟨.updateInstance, updates.1⟩ .blank).1.sent ∧
    sentUpdates.2 ∈ (loopback.perform ⟨.sound, true⟩ .empty ⟨.updateInstance, updates.2⟩ .blank).1.sent ∧
    ¬ Endpoint.updateInstance.AgreeInBody updates.1 updates.2 := by
  have hfree : ∀ free ∈ Endpoint.updateInstance.freeForm updates.1 ++ Endpoint.updateInstance.freeForm updates.2,
      free.toJson.Integral := by
    intro free hmem
    obtain rfl : free = .empty := by simpa [Endpoint.freeForm, updates] using hmem
    exact .object .nil
  have hs : sentUpdates.1 ∈
      (loopback.perform ⟨.sound, true⟩ .empty ⟨.updateInstance, updates.1⟩ .blank).1.sent := by decide +kernel
  have hs' : sentUpdates.2 ∈
      (loopback.perform ⟨.sound, true⟩ .empty ⟨.updateInstance, updates.2⟩ .blank).1.sent := by decide +kernel
  obtain ⟨hagree, _⟩ := body_perform _ _ _ _ _ _ _ _ _ _ _ _ _ hfree hs hs'
  have hbodies : Utf8.encode sentUpdates.1.body ≠ Utf8.encode sentUpdates.2.body := by decide +kernel
  exact ⟨hfree, hs, hs', fun h => hbodies (hagree.2 h)⟩

end Client

end ServiceBroker
