/-
What needs alpha features, at a client that has them off. A call that asks for such a feature is refused and sends
nothing; no query is given one. Of the two places where the body of a request can have maintenance information,
that of the instance is guarded, and that of the values before the change is not: a body has the information exactly
if those values have it (`alpha_perform`).
-/
import ServiceBroker.Proofs.Confinement
import ServiceBroker.Proofs.Json.Names

namespace ServiceBroker

open Json (Content Fields Shape SpellsDocument)

/-- The members of bodies whose values are free. -/
def Call.freeMembers : List String := ["parameters", "context"]

@[simp] theorem Call.mem_freeMembers {member : String} :
    member ∈ freeMembers ↔ member = "parameters" ∨ member = "context" := by
  simp [freeMembers]

/-! ## Names in bodies -/

namespace Json

variable {free : List String} {name field : String} {shape : Shape α} {rest : Fields ρ σ} {r : ρ}

@[simp] theorem not_names_text (s : String) : ¬ (Content.ofJson (Shape.text.write s)).Names free name :=
  id

@[simp] theorem membersName_required {a : α} :
    Content.MembersName free name (Content.ofMembers ((Fields.required field shape rest).write (a, r))) ↔
      (field = name ∨ (field ∉ free ∧ (Content.ofJson (shape.write a)).Names free name)) ∨
        Content.MembersName free name (Content.ofMembers (rest.write r)) :=
  or_assoc.symm

@[simp] theorem membersName_optional {a : Option α} :
    Content.MembersName free name (Content.ofMembers ((Fields.optional field shape rest).write (a, r))) ↔
      (∃ v, a = some v ∧ (field = name ∨ (field ∉ free ∧ (Content.ofJson (shape.write v)).Names free name))) ∨
        Content.MembersName free name (Content.ofMembers (rest.write r)) := by
  cases a with
  | none =>
    refine ⟨.inr, ?_⟩
    rintro (⟨_, hv, _⟩ | h)
    · cases hv
    · exact h
  | some v =>
    constructor
    · rintro (h | h | h)
      · exact .inl ⟨v, rfl, .inl h⟩
      · exact .inl ⟨v, rfl, .inr h⟩
      · exact .inr h
    · rintro (⟨_, ⟨⟩, h | h⟩ | h)
      · exact .inl h
      · exact .inr (.inl h)
      · exact .inr (.inr h)

@[simp] theorem names_structure {label : String} {build : ρ → β} {parts : β → ρ} {b : β} :
    (Content.ofJson ((Shape.view (.record label rest) build parts).write b)).Names free name ↔
      Content.MembersName free name (Content.ofMembers (rest.write (parts b))) :=
  Iff.rfl

@[simp] theorem not_membersName_nil : ¬ Content.MembersName free name (Content.ofMembers (Fields.nil.write ())) :=
  id

end Json

section Bodies

open Json

theorem names_previousValues (v : PreviousValues) :
    (Content.ofJson (PreviousValues.shape.write v)).Names Call.freeMembers "maintenance_info" ↔
      v.maintenanceInfo.isSome = true := by
  unfold PreviousValues.shape
  simp [Option.isSome_iff_exists]

theorem names_updateBody (b : UpdateBody) :
    (Content.ofJson (UpdateBody.shape.write b)).Names Call.freeMembers "maintenance_info" ↔
      b.maintenanceInfo.isSome = true ∨ (b.previousValues.bind PreviousValues.maintenanceInfo).isSome = true := by
  unfold UpdateBody.shape
  simp [names_previousValues, ← Option.isSome_iff_exists, Option.isSome_bind, Option.any_eq_true, or_comm]

theorem not_names_provisionBody (b : ProvisionBody) :
    ¬ (Content.ofJson (ProvisionBody.shape.write b)).Names Call.freeMembers "maintenance_info" := by
  unfold ProvisionBody.shape
  simp

theorem not_names_bindBody (b : BindBody) :
    ¬ (Content.ofJson (BindBody.shape.write b)).Names Call.freeMembers "maintenance_info" := by
  unfold BindBody.shape BindResource.shape
  simp

end Bodies

namespace Call

/-- The maintenance information that a call gives of an instance before a change. -/
def earlierMaintenance? : Call → Option MaintenanceInfo
  | ⟨.updateInstance, r⟩ => r.previousValues.bind PreviousValues.maintenanceInfo
  | _ => none

/-- A feature, if it is asked for. -/
def featureIf (asked : Bool) (feature : String) : Option String :=
  if asked then some feature else none

/-- The feature that a call asks for, if it needs alpha features. -/
def alphaFeature? : Call → Option String
  | ⟨.updateInstance, r⟩ => featureIf r.maintenanceInfo.isSome "maintenance_info"
  | ⟨.bind, r⟩ => featureIf r.acceptsIncomplete "asynchronous bindings"
  | ⟨.unbind, r⟩ => featureIf r.acceptsIncomplete "asynchronous bindings"
  | _ => none

theorem featureIf_eq_none_iff {asked : Bool} {feature : String} : featureIf asked feature = none ↔ asked = false := by
  cases asked <;> simp [featureIf]

theorem featureIf_eq_some_iff {asked : Bool} {feature feature' : String} :
    featureIf asked feature = some feature' ↔ asked = true ∧ feature = feature' := by
  cases asked <;> simp [featureIf]

/-! ## Drafts -/

variable {call : Call}

/-- The body of a call that asks for no feature has maintenance information exactly if it is of the values before the
change. -/
theorem exists_tree {healthEndpoint : Option String} {body : String} (ha : call.alphaFeature? = none)
    (hb : (call.draft healthEndpoint).body = some body) :
    ∃ tree : Json, body = tree.render ∧
      ((Content.ofJson tree).Names freeMembers "maintenance_info" ↔ call.earlierMaintenance?.isSome = true) := by
  obtain ⟨endpoint, r⟩ := call
  cases endpoint with
  | provisionInstance =>
    obtain rfl := Option.some.inj hb
    exact ⟨_, rfl, iff_of_false (not_names_provisionBody _) Bool.false_ne_true⟩
  | bind =>
    obtain rfl := Option.some.inj hb
    exact ⟨_, rfl, iff_of_false (not_names_bindBody _) Bool.false_ne_true⟩
  | updateInstance =>
    obtain rfl := Option.some.inj hb
    have hinfo : r.maintenanceInfo.isSome = false := featureIf_eq_none_iff.1 ha
    refine ⟨_, rfl, (names_updateBody _).trans ?_⟩
    simp [UpdateRequest.body, hinfo, earlierMaintenance?]
  | _ => cases hb

/-- No binding is asked for or removed later without alpha features. -/
theorem query_draft {healthEndpoint : Option String} (ha : call.alphaFeature? = none)
    (he : call.endpoint = .bind ∨ call.endpoint = .unbind) :
    ∀ pair ∈ (call.draft healthEndpoint).query, pair.1 ≠ "accepts_incomplete" := by
  obtain ⟨endpoint, r⟩ := call
  rcases he with rfl | rfl
  · have hr : r.acceptsIncomplete = false := featureIf_eq_none_iff.1 ha
    simp [draft, hr, acceptsIncomplete]
  · have hr : r.acceptsIncomplete = false := featureIf_eq_none_iff.1 ha
    simp [draft, hr, acceptsIncomplete]

/-! ## Demands -/

/-- What a call demands that asks for a feature: other things first, which fail for a text that is missing or are a
refusal, and the feature at last. -/
theorem demands_of_alphaFeature {feature : String} (h : call.alphaFeature? = some feature) (version : Version) :
    ∃ (others : List Demand) (asked : Prop), asked ∧
      (∀ x ∈ others, (∃ field text, x = .filled field text) ∨ ∃ refusal, x.error = .notAllowed refusal) ∧
      ∀ enabled, call.demands version enabled = others ++ [.alpha feature asked enabled] := by
  obtain ⟨endpoint, r⟩ := call
  cases endpoint with
  | updateInstance =>
    obtain ⟨hasked, rfl⟩ := featureIf_eq_some_iff.1 h
    exact ⟨[.filled "instance_id" r.instanceId, .filled "service_id" r.serviceId,
      .since .v2_12 r.context.isSome version, .since .v2_13 r.originatingIdentity.isSome version], _, hasked,
      by simp [Demand.since], fun _ => rfl⟩
  | bind =>
    obtain ⟨hasked, rfl⟩ := featureIf_eq_some_iff.1 h
    exact ⟨[.filled "binding_id" r.bindingId, .filled "instance_id" r.instanceId, .filled "service_id" r.serviceId,
      .filled "plan_id" r.planId, .since .v2_12 r.context.isSome version,
      .since .v2_13 r.originatingIdentity.isSome version], _, hasked, by simp [Demand.since], fun _ => rfl⟩
  | unbind =>
    obtain ⟨hasked, rfl⟩ := featureIf_eq_some_iff.1 h
    exact ⟨[.filled "instance_id" r.instanceId, .filled "binding_id" r.bindingId, .filled "service_id" r.serviceId,
      .filled "plan_id" r.planId, .since .v2_13 r.originatingIdentity.isSome version], _, hasked,
      by simp [Demand.since], fun _ => rfl⟩
  | _ => cases h

/-- If no text is missing, whatever is not met of a call that asks for a feature is a refusal. -/
theorem exists_refusal {feature : String} (h : call.alphaFeature? = some feature) {version : Version} {enabled : Bool}
    (hfilled : ∀ field text, Demand.filled field text ∈ call.demands version enabled → text ≠ "") {x : Demand}
    (hx : x ∈ call.demands version enabled) (hn : ¬ x.met) : ∃ refusal, x.error = .notAllowed refusal := by
  obtain ⟨others, asked, _, hothers, hdemands⟩ := demands_of_alphaFeature h version
  have hmem := hx
  rw [hdemands] at hmem
  rcases List.mem_append.1 hmem with hother | hlast
  · rcases hothers x hother with ⟨field, text, rfl⟩ | hrefusal
    · exact absurd (hfilled field text hx) hn
    · exact hrefusal
  · rw [List.mem_singleton.1 hlast]
    exact ⟨_, rfl⟩

end Call

theorem Demand.exists_first_unmet {ds : List Demand} (h : ∃ x ∈ ds, ¬ x.met) :
    ∃ before x after, ds = before ++ x :: after ∧ (∀ b ∈ before, b.met) ∧ ¬ x.met := by
  induction ds with
  | nil =>
    obtain ⟨x, hx, _⟩ := h
    cases hx
  | cons x ds ih =>
    by_cases hx : x.met
    · obtain ⟨y, hy, hn⟩ := h
      rcases List.mem_cons.1 hy with rfl | hy
      · exact absurd hx hn
      · obtain ⟨before, z, after, rfl, hbefore, hz⟩ := ih ⟨y, hy, hn⟩
        exact ⟨x :: before, z, after, rfl, List.forall_mem_cons.2 ⟨hx, hbefore⟩, hz⟩
    · exact ⟨[], x, ds, rfl, nofun, hx⟩

namespace Client

variable {c : Client} {health : Cache.Health} {cache : Cache} {call : Call} {d : Delivery} {request : Http.Request}

/-! ## Requests -/

/-- A call that asks for a feature sends nothing. It fails with a refusal unless a text is missing, and the feature is
what is refused if nothing else is wrong. -/
theorem refused_perform (halpha : c.alpha = false) {feature : String} (hf : call.alphaFeature? = some feature) :
    (c.perform health cache call d).1.sent = [] ∧
    ((∀ field text, Demand.filled field text ∈ call.demands c.version c.alpha → text ≠ "") →
      ∃ refusal, (c.perform health cache call d).1.result = .error (.notAllowed refusal)) ∧
    ((∀ x ∈ call.demands c.version true, x.met) →
      (c.perform health cache call d).1.result = .error (.notAllowed (.alphaDisabled feature))) := by
  obtain ⟨others, asked, hasked, _, hdemands⟩ := Call.demands_of_alphaFeature hf c.version
  have hlast : ¬ (Demand.alpha feature asked c.alpha).met := by
    rw [halpha]
    exact fun h => Bool.false_ne_true (h hasked)
  have hmem : Demand.alpha feature asked c.alpha ∈ call.demands c.version c.alpha := by
    rw [hdemands]
    exact List.mem_append_right _ (List.mem_singleton_self _)
  have hk : ¬ c.FindsKept health cache call := fun hk => endpoint_ne_of_mem_demands hmem hk.1
  -- The feature is not met, so some demand is the first that is not: the feature itself, or one before it.
  obtain ⟨before, x, after, hsplit, hbefore, hx⟩ := Demand.exists_first_unmet ⟨_, hmem, hlast⟩
  have hp := prepare_eq_error c call hsplit hbefore hx
  refine ⟨sent_perform_of_prepare_error hp, fun hfilled => ?_, fun hmet => ?_⟩
  · have hxmem : x ∈ call.demands c.version c.alpha := by
      rw [hsplit]
      exact List.mem_append_right _ (List.mem_cons_self ..)
    obtain ⟨refusal, hrefusal⟩ := Call.exists_refusal hf hfilled hxmem hx
    exact ⟨refusal, by rw [result_perform_of_prepare_error hk hp, hrefusal]⟩
  · rw [hdemands] at hmet
    have hp := prepare_eq_error c call (hdemands c.alpha)
      (fun b hb => hmet b (List.mem_append_left _ hb)) hlast
    exact result_perform_of_prepare_error hk hp

/-- What a client sends that has alpha features off. A body is empty or a document, which has maintenance information
outside of free values exactly if the call gives it with the values before a change. The query of a request for a
binding adds no pair that lets the broker go on working. A call that asks for a feature is refused. -/
theorem alpha_perform {config : Config} (hc : ofConfig config = .ok c) (halpha : c.alpha = false)
    (health : Cache.Health) (cache : Cache) (call : Call) (d : Delivery) :
    (∀ request ∈ (c.perform health cache call d).1.sent,
      (request.body = "" ∨ ∃ content, SpellsDocument (Utf8.encode request.body) content) ∧
      (∀ content, SpellsDocument (Utf8.encode request.body) content →
        (content.Names Call.freeMembers "maintenance_info" ↔ call.earlierMaintenance?.isSome = true)) ∧
      (call.endpoint = .bind ∨ call.endpoint = .unbind → ∃ added : List (String × String),
        request.pairs = c.url.pairs ++ added.map Percent.pairBytes ∧
          ∀ pair ∈ added, pair.1 ≠ "accepts_incomplete")) ∧
    ∀ feature, call.alphaFeature? = some feature →
      (c.perform health cache call d).1.sent = [] ∧
      ((∀ field text, Demand.filled field text ∈ call.demands c.version c.alpha → text ≠ "") →
        ∃ refusal, (c.perform health cache call d).1.result = .error (.notAllowed refusal)) ∧
      ((∀ x ∈ call.demands c.version true, x.met) →
        (c.perform health cache call d).1.result = .error (.notAllowed (.alphaDisabled feature))) := by
  refine ⟨fun request hs => ?_, fun feature hf => refused_perform halpha hf⟩
  have hp := prepare_of_mem_sent hs
  have hbuilds := ((prepare_eq_ok_iff c call request).1 hp).2
  have hbody : request.body = (call.draft c.healthEndpoint).body.getD "" := by rw [hbuilds.eq]
  have hnone : call.alphaFeature? = none := by
    refine Option.eq_none_iff_forall_ne_some.2 fun feature hf => ?_
    rw [(refused_perform halpha hf).1] at hs
    cases hs
  have hpairs (he : call.endpoint = .bind ∨ call.endpoint = .unbind) : ∃ added : List (String × String),
      request.pairs = c.url.pairs ++ added.map Percent.pairBytes ∧ ∀ pair ∈ added, pair.1 ≠ "accepts_incomplete" := by
    have hne : call.endpoint ≠ .checkAvailability := by
      rcases he with he | he <;> rw [he] <;> decide
    exact ⟨_, pairs_prepare (separated_ofConfig hc) (unhashed_ofConfig hc) hne hp, Call.query_draft hnone he⟩
  cases hb : (call.draft c.healthEndpoint).body with
  | none =>
    rw [hb] at hbody
    refine ⟨.inl hbody, fun content h => ?_, hpairs⟩
    rw [hbody] at h
    exact absurd h Json.not_spellsDocument_nil
  | some body =>
    obtain ⟨tree, rfl, htree⟩ := Call.exists_tree hnone hb
    rw [hb] at hbody
    obtain ⟨hspells, hnames⟩ := Json.names_of_spells_render tree
    rw [show request.body = tree.render from hbody]
    exact ⟨.inr hspells, fun content h => (hnames content h _ _).trans htree, hpairs⟩

end Client

/-- An instance is to be changed that had maintenance information before. -/
def Call.updatingMaintained : Call :=
  ⟨.updateInstance, ⟨"i", false, "s", none, none, some ⟨none, none, none, none, some ⟨some "2", none⟩⟩, none, none,
    none⟩⟩

/-- What is sent to change this instance. -/
def Http.Request.updatingMaintained : Http.Request :=
  ⟨.patch, "http://[::1]/osb/v2/service_instances/i",
    [("x-broker-api-version", "2.14"), ("accept", "application/json"), ("content-type", "application/json")],
    "\x7b\"service_id\":\"s\",\"previous_values\":\x7b\"maintenance_info\":\x7b\"version\":\"2\"\x7d\x7d\x7d"⟩

namespace Client

/-- The information is in every document that the body can be read as. -/
theorem alpha_perform_updatingMaintained :
    loopback.alpha = false ∧
    Http.Request.updatingMaintained ∈
      (loopback.perform ⟨.sound, true⟩ .empty .updatingMaintained .blank).1.sent ∧
    ∀ content, SpellsDocument (Utf8.encode Http.Request.updatingMaintained.body) content →
      content.Names Call.freeMembers "maintenance_info" := by
  have hs : Http.Request.updatingMaintained ∈
      (loopback.perform ⟨.sound, true⟩ .empty .updatingMaintained .blank).1.sent := by decide +kernel
  obtain ⟨hsent, _⟩ := alpha_perform ofConfig_loopback rfl ⟨.sound, true⟩ .empty .updatingMaintained .blank
  exact ⟨rfl, hs, fun content h => ((hsent _ hs).2.1 content h).2 rfl⟩

/-- Maintenance information leaves a client that has alpha features off. -/
theorem sent_updatingMaintained :
    ofConfig (.ofUrl "http://[::1]/osb/") = .ok loopback ∧ loopback.alpha = false ∧
    (loopback.perform ⟨.sound, true⟩ .empty .updatingMaintained .blank).1.sent =
      [.updatingMaintained] :=
  ⟨ofConfig_loopback, rfl, by decide +kernel⟩

end Client

end ServiceBroker
