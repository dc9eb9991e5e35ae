/-
Fields that have to be there. An answer is stated by the value of a document if each of its mandatory fields stands
there, at every depth; nothing is said of the fields that may be missing. A call that reads such an answer from a body
gives one that the body states, and tells of every other body that it is not legible (`stated_perform`). There is one
exception: an instance that is described with nothing is taken for one without a service and a plan.
-/
import ServiceBroker.Proofs.Json.Supply
import ServiceBroker.Proofs.OperationKeys

namespace ServiceBroker

open Endpoint (Vacant)
open Json (Node Document Shape Supplied)

/-! ## What a document states -/

/-- The service and the plan of an instance stand in a document. -/
structure InstanceDetails.StatedBy (i : InstanceDetails) (node : Node) : Prop where
  serviceId : node.SaysText "service_id" 0 i.serviceId
  planId : node.SaysText "plan_id" 1 i.planId

/-- The three ids of an instance stand in a document. -/
structure InstanceSummary.StatedBy (i : InstanceSummary) (node : Node) : Prop where
  instanceId : node.SaysText "instance_id" 0 i.instanceId
  serviceId : node.SaysText "service_id" 1 i.serviceId
  planId : node.SaysText "plan_id" 2 i.planId

/-- A document states every instance of a page. -/
structure InstancesPage.StatedBy (p : InstancesPage) (node : Node) : Prop where
  instances : node.SaysList "instances" 0 InstanceSummary.StatedBy p.instances

/-- The word for the state of an operation stands in a document. -/
structure OperationStatus.StatedBy (s : OperationStatus) (node : Node) : Prop where
  word : node.SaysText "state" 0 s.state.label
  state : s.state = .ofLabel s.state.label

/-- The client of a dashboard stands in a document with its secret. -/
structure DashboardClient.StatedBy (c : DashboardClient) (node : Node) : Prop where
  id : node.SaysText "id" 0 c.id
  secret : node.SaysText "secret" 1 c.secret

/-- A plan stands in a document. -/
structure Plan.StatedBy (p : Plan) (node : Node) : Prop where
  id : node.SaysText "id" 0 p.id
  name : node.SaysText "name" 1 p.name
  description : node.SaysText "description" 2 p.description

/-- A service stands in a document, and so do its plans and the client of its dashboard. -/
structure Service.StatedBy (s : Service) (node : Node) : Prop where
  id : node.SaysText "id" 0 s.id
  name : node.SaysText "name" 1 s.name
  description : node.SaysText "description" 2 s.description
  bindable : node.SaysBool "bindable" 5 s.bindable
  dashboardClient : node.SaysIfAny "dashboard_client" 9 DashboardClient.StatedBy s.dashboardClient
  plans : node.SaysList "plans" 11 Plan.StatedBy s.plans

/-- A document states every service of a catalog. -/
structure Catalog.StatedBy (c : Catalog) (node : Node) : Prop where
  services : node.SaysList "services" 0 Service.StatedBy c.services

namespace Endpoint

/-- The calls whose answers have fields that have to be there. -/
def mandating : List Endpoint :=
  [getCatalog, getInstance, listInstances, getOperation]

/-- The mandatory fields of an answer stand in a document. -/
def StatedBy (node : Node) : (e : Endpoint) → e.Answer → Prop
  | getCatalog, a => Catalog.StatedBy a node
  | getInstance, a => InstanceDetails.StatedBy a node
  | listInstances, a => InstancesPage.StatedBy a node
  | getOperation, a => OperationStatus.StatedBy a node
  | _, _ => True

end Endpoint

/-! ## What is read is stated -/

section Read

variable {budget : Nat} {node : Node}

theorem InstanceDetails.statedBy_of_read {i : InstanceDetails} (h : shape.read budget node = .ok i) :
    i.StatedBy node := by
  obtain ⟨inner, ⟨serviceId, planId, _⟩, hfrom, rfl⟩ := Json.from_of_read_structure (by decide) h
  obtain ⟨hservice, hplan, _⟩ := hfrom
  exact ⟨hservice.saysText, hplan.saysText⟩

theorem InstanceSummary.statedBy_of_read {i : InstanceSummary} (h : shape.read budget node = .ok i) :
    i.StatedBy node := by
  obtain ⟨inner, ⟨instanceId, serviceId, planId, _⟩, hfrom, rfl⟩ := Json.from_of_read_structure (by decide) h
  obtain ⟨hinstance, hservice, hplan, _⟩ := hfrom
  exact ⟨hinstance.saysText, hservice.saysText, hplan.saysText⟩

theorem InstancesPage.statedBy_of_read {p : InstancesPage} (h : shape.read budget node = .ok p) : p.StatedBy node := by
  obtain ⟨inner, ⟨instances, _⟩, hfrom, rfl⟩ := Json.from_of_read_structure (by decide) h
  exact ⟨hfrom.1.saysList InstanceSummary.statedBy_of_read⟩

/-- One more word and its state. -/
theorem OperationState.label_ite {word known : String} {state other : OperationState} (hs : state.label = known)
    (ho : other.label = word) : (if word = known then state else other).label = word := by
  split
  · next h => rw [hs, h]
  · exact ho

/-- The word of a state is kept as it came. -/
theorem OperationState.label_ofLabel (word : String) : (ofLabel word).label = word := by
  unfold ofLabel
  repeat refine label_ite rfl ?_
  rfl

/-- The state of an operation is read from a text, whatever this is. -/
theorem OperationState.said_of_supplied {name : String} {place : Nat} {s : OperationState}
    (h : Supplied budget shape .required (node.said name place) s) :
    ∃ word, node.SaysText name place word ∧ s = .ofLabel word := by
  obtain ⟨value, hone, hread⟩ := h.read_of_required
  obtain ⟨word, hword, rfl⟩ := Json.read_view_eq_ok_iff.1 hread
  obtain ⟨stop, rfl⟩ := Json.eq_text_of_read hword
  exact ⟨word, ⟨stop, hone⟩, rfl⟩

theorem OperationBody.statedBy_of_read {b : OperationBody} (h : shape.read budget node = .ok b) (r : Http.Reply) :
    (b.polled r).StatedBy node := by
  obtain ⟨inner, ⟨state, _⟩, hfrom, rfl⟩ := Json.from_of_read_structure (by decide) h
  obtain ⟨word, hword, rfl⟩ := OperationState.said_of_supplied hfrom.1
  constructor
  · show node.SaysText "state" 0 (OperationState.ofLabel word).label
    rwa [OperationState.label_ofLabel]
  · show OperationState.ofLabel word = .ofLabel (OperationState.ofLabel word).label
    rw [OperationState.label_ofLabel]

theorem DashboardClient.statedBy_of_read {c : DashboardClient} (h : shape.read budget node = .ok c) :
    c.StatedBy node := by
  obtain ⟨inner, ⟨id, secret, _⟩, hfrom, rfl⟩ := Json.from_of_read_structure (by decide) h
  obtain ⟨hid, hsecret, _⟩ := hfrom
  exact ⟨hid.saysText, hsecret.saysText⟩

theorem Plan.statedBy_of_read {p : Plan} (h : shape.read budget node = .ok p) : p.StatedBy node := by
  obtain ⟨inner, ⟨id, name, description, _⟩, hfrom, rfl⟩ := Json.from_of_read_structure (by decide) h
  obtain ⟨hid, hname, hdescription, _⟩ := hfrom
  exact ⟨hid.saysText, hname.saysText, hdescription.saysText⟩

theorem Service.statedBy_of_read {s : Service} (h : shape.read budget node = .ok s) : s.StatedBy node := by
  obtain ⟨inner, ⟨id, name, description, tags, requires, bindable, instancesRetrievable, bindingsRetrievable,
    planUpdateable, dashboardClient, metadata, plans, _⟩, hfrom, rfl⟩ := Json.from_of_read_structure (by decide) h
  obtain ⟨hid, hname, hdescription, _, _, hbindable, _, _, _, hclient, _, hplans, _⟩ := hfrom
  exact ⟨hid.saysText, hname.saysText, hdescription.saysText, hbindable.saysBool,
    hclient.saysIfAny DashboardClient.statedBy_of_read, hplans.saysList Plan.statedBy_of_read⟩

theorem Catalog.statedBy_of_read {c : Catalog} (h : shape.read budget node = .ok c) : c.StatedBy node := by
  obtain ⟨inner, ⟨services, _⟩, hfrom, rfl⟩ := Json.from_of_read_structure (by decide) h
  exact ⟨hfrom.1.saysList Service.statedBy_of_read⟩

end Read

/-! ## Pruning -/

section Pruned

variable {node : Node} (version : Version) (alpha : Bool)

theorem Service.StatedBy.pruned {s : Service} (h : s.StatedBy node) : (s.pruned version alpha).StatedBy node where
  id := h.id
  name := h.name
  description := h.description
  bindable := h.bindable
  dashboardClient := h.dashboardClient
  plans := h.plans.map (Plan.pruned version alpha) fun _ _ hp => ⟨hp.id, hp.name, hp.description⟩

/-- What a client must not see of a catalog may be missing anyway. -/
theorem Catalog.StatedBy.pruned {c : Catalog} (h : c.StatedBy node) : (c.pruned version alpha).StatedBy node where
  services := h.services.map (Service.pruned version alpha) fun _ _ hs => hs.pruned version alpha

end Pruned

/-! ## Calls -/

section Answers

variable {e : Endpoint} {alpha : Bool} {r : Http.Reply} {answer : e.Answer}

/-- What is answered is stated by the body, unless an instance is described with nothing. -/
theorem statedBy_iff_of_answer (he : e ∈ Endpoint.mandating) (hs : r.status = 200)
    (ha : e.answer alpha r = .ok answer) :
    e.StatedBy (Document.ofBytes r.body).root answer ↔ ¬ (e = .getInstance ∧ Vacant r.body) := by
  unfold Endpoint.answer at ha
  rw [hs] at ha
  simp only [Endpoint.mandating, List.mem_cons, List.not_mem_nil, or_false] at he
  rcases he with rfl | rfl | rfl | rfl
  · refine iff_of_true ?_ fun h => nomatch h.1
    rcases Endpoint.decodeOr_eq_ok_iff.1 ha with ⟨hv, rfl⟩ | ⟨_, hd⟩
    · exact ⟨.inl ⟨Json.said_of_blank hv _ _, rfl⟩⟩
    · exact Catalog.statedBy_of_read (Json.read_of_decode hd)
  · rcases Endpoint.decodeOr_eq_ok_iff.1 ha with ⟨hv, rfl⟩ | ⟨hv, hd⟩
    · refine iff_of_false ?_ fun h => h ⟨rfl, hv⟩
      rintro ⟨⟨stop, hservice⟩, _⟩
      rw [Json.said_of_blank hv] at hservice
      cases hservice
    · exact iff_of_true (InstanceDetails.statedBy_of_read (Json.read_of_decode hd)) fun h => hv h.2
  · refine iff_of_true ?_ fun h => nomatch h.1
    rcases Endpoint.decodeOr_eq_ok_iff.1 ha with ⟨hv, rfl⟩ | ⟨_, hd⟩
    · exact ⟨.inl ⟨Json.said_of_blank hv _ _, rfl⟩⟩
    · exact InstancesPage.statedBy_of_read (Json.read_of_decode hd)
  · refine iff_of_true ?_ fun h => nomatch h.1
    obtain ⟨body, hd, rfl⟩ := map_eq_ok_iff.1 ha
    exact OperationBody.statedBy_of_read (Json.read_of_decode (mapError_eq_ok_iff.1 hd)) r

end Answers

namespace Client

variable {c : Client} {health : Cache.Health} {cache : Cache} {call : Call} {r : Http.Reply}

/-- What the call tells comes from what is answered; a catalog is pruned on the way. -/
theorem statedBy_iff_of_result (he : call.endpoint ∈ Endpoint.mandating) (hs : r.status = 200)
    (h : (c.perform health cache call (.reply r)).1.sent ≠ []) {answer : call.endpoint.Answer}
    (ha : (c.perform health cache call (.reply r)).1.result = .ok answer) :
    call.endpoint.StatedBy (Document.ofBytes r.body).root answer ↔
      ¬ (call.endpoint = .getInstance ∧ Vacant r.body) := by
  by_cases hcatalog : call.endpoint = .getCatalog
  · obtain ⟨hkept, request, hp⟩ := prepare_of_sent h
    obtain ⟨endpoint, q⟩ := call
    obtain rfl : endpoint = .getCatalog := hcatalog
    refine iff_of_true ?_ fun h => nomatch h.1
    have hresult : (c.getCatalog health cache (.reply r)).1.result = .ok answer := ha
    rw [getCatalog_of_not_find hkept, result_exchange_of_prepare hp] at hresult
    obtain ⟨catalog, hcatalog, rfl⟩ := map_eq_ok_iff.1 hresult
    have hstated := (statedBy_iff_of_answer (e := .getCatalog) he hs hcatalog).2 fun h => nomatch h.1
    exact Catalog.StatedBy.pruned c.version c.alpha hstated
  · exact statedBy_iff_of_answer he hs (answer_of_result hcatalog ha)

/-- A call for the catalog, an instance, a page of instances or an operation that is sent and replied to with status
200. The value of the body shows whatever the body spells. An answer has the mandatory fields that this value states,
unless an instance is described with nothing. An error says why the body does not decode, and this is what is told of
every body that states no answer, but for the same exception. -/
theorem stated_perform (c : Client) (health : Cache.Health) (cache : Cache) (call : Call) (r : Http.Reply)
    (he : call.endpoint ∈ Endpoint.mandating) (hs : r.status = 200)
    (h : (c.perform health cache call (.reply r)).1.sent ≠ []) :
    (∀ content, Json.SpellsDocument r.body content → (Document.ofBytes r.body).root.Shows content) ∧
    (∀ answer, (c.perform health cache call (.reply r)).1.result = .ok answer →
      (call.endpoint.StatedBy (Document.ofBytes r.body).root answer ↔
        ¬ (call.endpoint = .getInstance ∧ Vacant r.body))) ∧
    (∀ error, (c.perform health cache call (.reply r)).1.result = .error error →
      ∃ fault, error = .httpStatus ⟨200, none, none, some fault⟩) ∧
    ((∀ answer, ¬ call.endpoint.StatedBy (Document.ofBytes r.body).root answer) →
      ¬ (call.endpoint = .getInstance ∧ Vacant r.body) →
      ∃ fault, (c.perform health cache call (.reply r)).1.result =
        .error (.httpStatus ⟨200, none, none, some fault⟩)) := by
  have hgrants : r.status ∈ call.endpoint.grants c.alpha := by
    rw [hs]
    simp only [Endpoint.mandating, List.mem_cons, List.not_mem_nil, or_false] at he
    rcases he with he | he | he | he <;> rw [he] <;> exact List.mem_singleton_self 200
  have herror : ∀ error, (c.perform health cache call (.reply r)).1.result = .error error →
      ∃ fault, error = .httpStatus ⟨200, none, none, some fault⟩ := by
    intro error hr
    have hout := outcome_perform c health cache call r h
    rw [hr] at hout
    cases hout with
    | garbled fault =>
      rw [hs]
      exact ⟨fault, rfl⟩
    | explained b hn => exact absurd hgrants hn
    | unexplained fault hn => exact absurd hgrants hn
    | unavailable hn => exact absurd hgrants hn
  refine ⟨fun content hcontent => Json.shows_root hcontent, fun answer ha => statedBy_iff_of_result he hs h ha,
    herror, ?_⟩
  intro hnone hexcept
  cases hr : (c.perform health cache call (.reply r)).1.result with
  | ok answer => exact absurd ((statedBy_iff_of_result he hs h hr).2 hexcept) (hnone answer)
  | error error =>
    obtain ⟨fault, rfl⟩ := herror error hr
    exact ⟨fault, rfl⟩

end Client

/-- A reply that describes an instance, the plan in front of the service. -/
def Http.Reply.described : Http.Reply :=
  ⟨200, [], Utf8.encode "\x7b\"plan_id\":\"p\",\"service_id\":\"s\"\x7d"⟩

namespace Client

theorem stated_perform_described :
    (loopback.perform ⟨.sound, true⟩ .empty (.finding "i") (.reply .described)).1.result =
      .ok ⟨"s", "p", none, none, none⟩ ∧
    InstanceDetails.StatedBy ⟨"s", "p", none, none, none⟩ (Document.ofBytes Http.Reply.described.body).root := by
  have hresult : (loopback.perform ⟨.sound, true⟩ .empty (.finding "i") (.reply .described)).1.result =
      .ok ⟨"s", "p", none, none, none⟩ := by
    refine (toOption_eq_some_iff (α := InstanceDetails)).1 ?_
    decide +kernel
  have hstated := (stated_perform loopback ⟨.sound, true⟩ .empty (.finding "i") .described (by decide) rfl
    (by decide +kernel)).2.1 _ hresult
  refine ⟨hresult, hstated.2 ?_⟩
  rintro ⟨-, hv⟩
  exact absurd (hv 123 (by decide +kernel)) (by decide)

/-- An instance that is described with nothing has an answer all the same: no service, no plan. -/
theorem not_stated_blank :
    (loopback.perform ⟨.sound, true⟩ .empty (.finding "i") .blank).1.sent ≠ [] ∧
    (loopback.perform ⟨.sound, true⟩ .empty (.finding "i") .blank).1.result = .ok ⟨"", "", none, none, none⟩ ∧
    ¬ InstanceDetails.StatedBy ⟨"", "", none, none, none⟩ (Document.ofBytes []).root := by
  refine ⟨by decide +kernel, ?_, ?_⟩
  · refine (toOption_eq_some_iff (α := InstanceDetails)).1 ?_
    decide +kernel
  · rintro ⟨⟨stop, hservice⟩, _⟩
    have hv : Vacant [] := nofun
    rw [Json.said_of_blank hv] at hservice
    cases hservice

end Client

end ServiceBroker
