/-
Where requests go. Each call has its segments behind the path of the broker, with one for each identifier that
it names (`Call.route`), and a broker that knows the protocol can tell from the method and the segments which
call it is (`resource?_route`). A request goes there exactly if the identifiers are names; requests of such
calls go to the same place only if they are for the same resource. Main statement: `path_perform`. An
identifier that is no name can go where another one goes (`sent_removing_tab`).
-/
import ServiceBroker.Proofs.Outcome
import ServiceBroker.Proofs.Url.Extension

namespace ServiceBroker

namespace Call

/-! ## Resources -/

/-- The instance that a call is about, if it is about one. -/
def instanceId? : Call → Option String
  | ⟨.provisionInstance, r⟩ => some r.instanceId
  | ⟨.updateInstance, r⟩ => some r.instanceId
  | ⟨.deprovisionInstance, r⟩ => some r.instanceId
  | ⟨.getInstance, r⟩ => some r.instanceId
  | ⟨.getOperation, r⟩ => some r.instanceId
  | ⟨.bind, r⟩ => some r.instanceId
  | ⟨.unbind, r⟩ => some r.instanceId
  | ⟨.getBinding, r⟩ => some r.instanceId
  | ⟨.getCatalog, _⟩ | ⟨.listInstances, _⟩ | ⟨.checkAvailability, _⟩ => none

/-- The binding that a call is about, if it is about one. -/
def bindingId? : Call → Option String
  | ⟨.getOperation, r⟩ => r.bindingId
  | ⟨.bind, r⟩ => some r.bindingId
  | ⟨.unbind, r⟩ => some r.bindingId
  | ⟨.getBinding, r⟩ => some r.bindingId
  | _ => none

/-- The identifiers that a call puts into its path. -/
def identifiers (call : Call) : List String :=
  call.instanceId?.toList ++ call.bindingId?.toList

/-- The segments of a call behind the major version: those of the protocol, and in their places the identifiers,
which `write` writes. -/
def places (write : String → String) (call : Call) : List String :=
  match call.instanceId?, call.bindingId? with
  | none, _ => [if call.endpoint = .getCatalog then "catalog" else "service_instances"]
  | some instanceId, none => ["service_instances", write instanceId] ++ operation
  | some instanceId, some bindingId =>
    ["service_instances", write instanceId, "service_bindings", write bindingId] ++ operation
where
  /-- The segment of an operation. -/
  operation : List String := if call.endpoint = .getOperation then ["last_operation"] else []

/-- The segments of a call behind the path of the broker. -/
def route (write : String → String) (call : Call) : List String :=
  "v2" :: call.places write

end Call

/-- What a broker that knows the protocol takes a request for, by its method and the segments behind its own path:
an operation, the instance and the binding. -/
def resource? : Http.Method → List String → Option (Endpoint × Option String × Option String)
  | .get, ["v2", "catalog"] => some (.getCatalog, none, none)
  | .get, ["v2", "service_instances"] => some (.listInstances, none, none)
  | .put, ["v2", "service_instances", i] => some (.provisionInstance, some i, none)
  | .patch, ["v2", "service_instances", i] => some (.updateInstance, some i, none)
  | .delete, ["v2", "service_instances", i] => some (.deprovisionInstance, some i, none)
  | .get, ["v2", "service_instances", i] => some (.getInstance, some i, none)
  | .get, ["v2", "service_instances", i, "last_operation"] => some (.getOperation, some i, none)
  | .put, ["v2", "service_instances", i, "service_bindings", b] => some (.bind, some i, some b)
  | .delete, ["v2", "service_instances", i, "service_bindings", b] => some (.unbind, some i, some b)
  | .get, ["v2", "service_instances", i, "service_bindings", b] => some (.getBinding, some i, some b)
  | .get, ["v2", "service_instances", i, "service_bindings", b, "last_operation"] =>
    some (.getOperation, some i, some b)
  | _, _ => none

variable {call call' : Call}

/-- The broker finds what the call is for. -/
theorem resource?_route (write : String → String) (healthEndpoint : Option String)
    (he : call.endpoint ≠ .checkAvailability) :
    resource? (call.draft healthEndpoint).method (call.route write) =
      some (call.endpoint, call.instanceId?.map write, call.bindingId?.map write) := by
  obtain ⟨endpoint, r⟩ := call
  cases endpoint with
  | getOperation =>
    obtain ⟨instanceId, bindingId, _⟩ := r
    cases bindingId <;> rfl
  | checkAvailability => exact absurd rfl he
  | _ => rfl

theorem segments_draft (healthEndpoint : Option String) (he : call.endpoint ≠ .checkAvailability) :
    (call.draft healthEndpoint).segments = call.route id := by
  obtain ⟨endpoint, r⟩ := call
  cases endpoint with
  | getOperation =>
    obtain ⟨instanceId, bindingId, _⟩ := r
    cases bindingId <;> rfl
  | checkAvailability => exact absurd rfl he
  | _ => rfl

/-- The segments of the protocol behind its major version. -/
def protocolSegments : List String :=
  ["catalog", "service_instances", "service_bindings", "last_operation"]

theorem escaped_protocolSegments (special : Bool) : ∀ s ∈ protocolSegments, Url.escaped special s = s := by
  cases special <;> decide

theorem isName_protocolSegments : ∀ s ∈ protocolSegments, Url.IsName s := by
  decide

/-- The segments of the protocol need no escapes. -/
theorem map_escaped_places (special : Bool) (call : Call) :
    (call.places id).map (Url.escaped special) = call.places (Url.escaped special) := by
  have h := escaped_protocolSegments special
  simp only [protocolSegments, List.forall_mem_cons] at h
  obtain ⟨hcatalog, hinstances, hbindings, hoperation, _⟩ := h
  unfold Call.places Call.places.operation
  split <;> split_ifs <;> simp [hcatalog, hinstances, hbindings, hoperation]

/-- A binding is named only along with its instance. -/
theorem bindingId?_of_instanceId? (h : call.instanceId? = none) : call.bindingId? = none := by
  obtain ⟨endpoint, r⟩ := call
  cases endpoint <;> first | rfl | cases h

theorem isName_places_iff (call : Call) :
    (∀ text ∈ call.places id, Url.IsName text) ↔ ∀ identifier ∈ call.identifiers, Url.IsName identifier := by
  have h := isName_protocolSegments
  simp only [protocolSegments, List.forall_mem_cons] at h
  obtain ⟨hcatalog, hinstances, hbindings, hoperation, _⟩ := h
  unfold Call.places Call.places.operation Call.identifiers
  split
  · next hi =>
    rw [hi, bindingId?_of_instanceId? hi]
    split_ifs <;> simp [hcatalog, hinstances]
  · next instanceId hi hb =>
    rw [hi, hb]
    split_ifs <;> simp [hinstances, hoperation]
  · next instanceId bindingId hi hb =>
    rw [hi, hb]
    split_ifs <;> simp [hinstances, hbindings, hoperation]

namespace Client

variable {c : Client} {health : Cache.Health} {cache : Cache} {d : Delivery} {request : Http.Request}

/-! ## Requests -/

/-- The path of a client's broker with the segments of a call behind it, each identifier as one segment. -/
def path (c : Client) (call : Call) : String :=
  (Url.Path.segments (c.url.base ++ call.route (Url.escaped (Url.isSpecialScheme c.url.scheme)))).render

/-- A client takes from its configuration what it does not read from the URL. -/
theorem ofConfig_eq_ok_iff {config : Config} :
    ofConfig config = .ok c ↔ ∃ url, ∃ h : url.isBase = true, Url.parse config.url = .ok url ∧
      c = ⟨config.name, url, config.version, config.auth, config.alpha, config.healthEndpoint, config.keepsCatalog,
        h⟩ := by
  unfold ofConfig
  constructor
  · intro h
    split at h
    · cases h
    · next url hurl =>
      split_ifs at h with hbase
      exact ⟨url, hbase, hurl, (Except.ok.inj h).symm⟩
  · rintro ⟨url, hbase, hurl, rfl⟩
    rw [hurl]
    exact dif_pos hbase

theorem parse_ofConfig {config : Config} (h : ofConfig config = .ok c) : Url.parse config.url = .ok c.url := by
  obtain ⟨url, _, hurl, rfl⟩ := ofConfig_eq_ok_iff.1 h
  exact hurl

theorem separated_ofConfig {config : Config} (h : ofConfig config = .ok c) : c.url.Separated :=
  Url.parse_separated (parse_ofConfig h)

theorem prepare_of_mem_sent (h : request ∈ (c.perform health cache call d).1.sent) :
    c.prepare call = .ok request := by
  obtain ⟨hk, request', hp⟩ := prepare_of_sent (List.ne_nil_of_mem h)
  rw [sent_perform_of_not_findsKept hk, hp] at h
  obtain rfl := List.mem_singleton.1 h
  exact hp

/-- The client was made for a URL with segments. -/
theorem exists_segments (c : Client) : ∃ list, c.url.path = .segments list := by
  have h := c.isBase
  unfold Url.isBase at h
  split at h
  · cases h
  · next list hp => exact ⟨list, hp⟩

/-- What is asked for: the URL of the broker with the segments of the call behind its path. -/
theorem target_prepare (he : call.endpoint ≠ .checkAvailability) (h : c.prepare call = .ok request) :
    Http.target ((c.url.extend ("v2" :: call.places id)).withPairs (call.draft c.healthEndpoint).query).render =
      .ok request.target := by
  have ht := ((prepare_eq_ok_iff c call request).1 h).2.target
  unfold locate at ht
  rwa [segments_draft _ he] at ht

/-- The path that is asked for, whatever the identifiers are. -/
theorem path_prepare (hu : c.url.Separated) (he : call.endpoint ≠ .checkAvailability)
    (h : c.prepare call = .ok request) :
    request.path = (Url.Path.segments (c.url.extension (call.places id))).render := by
  obtain ⟨list, hp⟩ := c.exists_segments
  exact Url.path_of_extended_target hu hp (target_prepare he h)

theorem method_prepare (h : c.prepare call = .ok request) :
    request.method = (call.draft c.healthEndpoint).method := by
  rw [((prepare_eq_ok_iff c call request).1 h).2.eq]

theorem route_escaped (special : Bool) (call : Call) :
    call.route (Url.escaped special) = ("v2" :: call.places id).map (Url.escaped special) := by
  rw [List.map_cons, Url.escaped_v2, map_escaped_places]
  rfl

theorem segmented_path (hu : c.url.Separated) (call : Call) :
    Url.Segmented (c.url.base ++ call.route (Url.escaped (Url.isSpecialScheme c.url.scheme))) := by
  obtain ⟨list, hp⟩ := c.exists_segments
  rw [route_escaped]
  exact Url.Segmented.append_iff.2 ⟨Url.segmented_base hu hp, Url.segmented_map_escaped _ _⟩

/-- A request goes to its place exactly if the identifiers are names. -/
theorem path_prepare_iff (hu : c.url.Separated) (he : call.endpoint ≠ .checkAvailability)
    (h : c.prepare call = .ok request) :
    request.path = c.path call ↔ ∀ identifier ∈ call.identifiers, Url.IsName identifier := by
  obtain ⟨list, hp⟩ := c.exists_segments
  rw [path_prepare hu he h, path, ← isName_places_iff, ← Url.extension_eq_iff hu hp, ← route_escaped]
  exact ⟨Url.render_segments_injective (Url.isPath_extension hu hp _).2.1 (segmented_path hu call),
    fun heq => by rw [heq]⟩

/-- Different resources have different places. -/
theorem resource_of_path (hu : c.url.Separated) (he : call.endpoint ≠ .checkAvailability)
    (he' : call'.endpoint ≠ .checkAvailability)
    (hm : (call.draft c.healthEndpoint).method = (call'.draft c.healthEndpoint).method)
    (hpath : c.path call = c.path call') :
    call.endpoint = call'.endpoint ∧ call.instanceId? = call'.instanceId? ∧ call.bindingId? = call'.bindingId? := by
  have hroute := List.append_cancel_left
    (Url.render_segments_injective (segmented_path hu call) (segmented_path hu call') hpath)
  -- The broker finds both resources with escaped identifiers, from the same method and segments.
  have h := resource?_route (Url.escaped (Url.isSpecialScheme c.url.scheme)) c.healthEndpoint he
  rw [hm, hroute, resource?_route _ c.healthEndpoint he'] at h
  obtain ⟨hendpoint, hids⟩ := Prod.mk.inj (Option.some.inj h)
  obtain ⟨hinstance, hbinding⟩ := Prod.mk.inj hids
  have hinj := Option.map_injective (Url.escaped_injective (Url.isSpecialScheme c.url.scheme))
  exact ⟨hendpoint.symm, hinj hinstance.symm, hinj hbinding.symm⟩

/-- Where the request of a call goes: to the place of the call, exactly if all identifiers in it are names. Of two
calls with names, the requests go to the same place in the same way only if the calls are for the same operation
on the same instance and the same binding. -/
theorem path_perform {config : Config} (hc : ofConfig config = .ok c) (health health' : Cache.Health)
    (cache cache' : Cache) (call call' : Call) (d d' : Delivery) (request request' : Http.Request)
    (he : call.endpoint ≠ .checkAvailability) (he' : call'.endpoint ≠ .checkAvailability)
    (hs : request ∈ (c.perform health cache call d).1.sent)
    (hs' : request' ∈ (c.perform health' cache' call' d').1.sent) :
    (request.path = c.path call ↔ ∀ identifier ∈ call.identifiers, Url.IsName identifier) ∧
    ((∀ identifier ∈ call.identifiers ++ call'.identifiers, Url.IsName identifier) →
      request.method = request'.method → request.path = request'.path →
      call.endpoint = call'.endpoint ∧ call.instanceId? = call'.instanceId? ∧
        call.bindingId? = call'.bindingId?) := by
  have hu := separated_ofConfig hc
  have hp := prepare_of_mem_sent hs
  have hp' := prepare_of_mem_sent hs'
  refine ⟨path_prepare_iff hu he hp, fun hn hm hpath => ?_⟩
  obtain ⟨hn, hn'⟩ := List.forall_mem_append.1 hn
  rw [(path_prepare_iff hu he hp).2 hn, (path_prepare_iff hu he' hp').2 hn'] at hpath
  rw [method_prepare hp, method_prepare hp'] at hm
  exact resource_of_path hu he he' hm hpath

end Client

/-! ## Slashes and tabs -/

/-- The client of a broker on the same machine. -/
def Client.loopback : Client :=
  ⟨"osb-client", ⟨"http", some ⟨"", none, "[::1]", none⟩, .segments ["osb", ""], none, none⟩, .latest, none, false,
    none, false, rfl⟩

theorem Client.ofConfig_loopback : ofConfig (.ofUrl "http://[::1]/osb/") = .ok loopback :=
  toOption_eq_some_iff.1 (by decide +kernel)

/-- What this client sends for an instance. -/
def Http.Request.loopback (method : Method) (behind : String) : Http.Request :=
  ⟨method, "http://[::1]/osb/v2/service_instances/" ++ behind,
    [("x-broker-api-version", "2.14"), ("accept", "application/json")], ""⟩

/-- A reply that grants a call and says nothing. -/
def Delivery.blank : Delivery := .reply ⟨200, [], []⟩

/-- An instance is asked for. -/
def Call.finding (instanceId : String) : Call :=
  ⟨.getInstance, ⟨instanceId⟩⟩

/-- The last operation on an instance is asked for. -/
def Call.polling (instanceId : String) : Call :=
  ⟨.getOperation, ⟨instanceId, none, none, none, none⟩⟩

/-- An instance is to be removed. -/
def Call.removing (instanceId : String) : Call :=
  ⟨.deprovisionInstance, ⟨instanceId, false, "s", "p", none⟩⟩

namespace Client

/-- An instance with a slash in its identifier is not taken for an operation on another one. -/
theorem path_perform_slash :
    Http.Request.loopback .get "a%2Flast_operation" ∈
      (loopback.perform ⟨.sound, true⟩ .empty (.finding "a/last_operation") .blank).1.sent ∧
    Http.Request.loopback .get "a/last_operation" ∈
      (loopback.perform ⟨.sound, true⟩ .empty (.polling "a") .blank).1.sent ∧
    ((Http.Request.loopback .get "a%2Flast_operation").path = loopback.path (.finding "a/last_operation") ↔
      ∀ identifier ∈ (Call.finding "a/last_operation").identifiers, Url.IsName identifier) ∧
    (Http.Request.loopback .get "a%2Flast_operation").path ≠
      (Http.Request.loopback .get "a/last_operation").path := by
  have h : Http.Request.loopback .get "a%2Flast_operation" ∈
      (loopback.perform ⟨.sound, true⟩ .empty (.finding "a/last_operation") .blank).1.sent := by decide +kernel
  have h' : Http.Request.loopback .get "a/last_operation" ∈
      (loopback.perform ⟨.sound, true⟩ .empty (.polling "a") .blank).1.sent := by decide +kernel
  have hp := path_perform ofConfig_loopback _ _ _ _ _ _ _ _ _ _ (by decide) (by decide) h h'
  exact ⟨h, h', hp.1, fun hpath => absurd (hp.2 (by decide) rfl hpath).1 (by decide)⟩

/-- An instance with a tab in its identifier cannot be removed: the request removes the one without. -/
theorem sent_removing_tab :
    ofConfig (.ofUrl "http://[::1]/osb/") = .ok loopback ∧
    (loopback.perform ⟨.sound, true⟩ .empty (.removing "a\tb") .blank).1.sent =
      [.loopback .delete "ab?service_id=s&plan_id=p"] ∧
    (loopback.perform ⟨.sound, true⟩ .empty (.removing "ab") .blank).1.sent =
      [.loopback .delete "ab?service_id=s&plan_id=p"] ∧
    (Call.removing "a\tb").instanceId? ≠ (Call.removing "ab").instanceId? :=
  ⟨ofConfig_loopback, by decide +kernel, by decide +kernel, by decide⟩

end Client

end ServiceBroker
