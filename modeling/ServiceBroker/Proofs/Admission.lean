/-
Which calls are sent. A call makes demands on its request and on its client, one after another. A call
that meets all of them and whose request can be built sends that one request; every other call sends
nothing, and the first demand that is not met decides its error. A catalog that is kept needs no request.
-/
import ServiceBroker.Client
import ServiceBroker.Proofs.Except

namespace ServiceBroker

/-! ## Demands -/

/-- What a call demands, and the error of a call that does not meet it. -/
structure Demand where
  met : Prop
  error : Error

namespace Demand

/-- A text is not empty. -/
def filled (field text : String) : Demand :=
  ⟨text ≠ "", .invalidRequest (.missing field)⟩

/-- A text that may be left out is not empty. -/
def filledIfGiven (field : String) (text : Option String) : Demand :=
  ⟨text ≠ some "", .invalidRequest (.missing field)⟩

/-- What is asked for is as old as the version in use. -/
def since (required : Version) (asked : Prop) (current : Version) : Demand :=
  ⟨asked → required ≤ current, .notAllowed (.versionTooLow required current)⟩

/-- What is asked for needs alpha features. -/
def alpha (feature : String) (asked : Prop) (enabled : Bool) : Demand :=
  ⟨asked → enabled = true, .notAllowed (.alphaDisabled feature)⟩

/-- How demands made one after another come out: the first that is not met decides. -/
inductive Settle : List Demand → Except Error Unit → Prop
  | done : Settle [] (.ok ())
  | unmet {d : Demand} {ds : List Demand} : ¬ d.met → Settle (d :: ds) (.error d.error)
  | met {d : Demand} {ds : List Demand} {r : Except Error Unit} : d.met → Settle ds r → Settle (d :: ds) r

end Demand

open Demand in
/-- What a call demands of its request, in order, from a client of a version with or without alpha
features. -/
def Call.demands (version : Version) (enabled : Bool) : Call → List Demand
  | ⟨.getCatalog, ()⟩ | ⟨.checkAvailability, ()⟩ => []
  | ⟨.provisionInstance, r⟩ =>
    [filled "instance_id" r.instanceId, filled "service_id" r.serviceId, filled "plan_id" r.planId,
      filled "organization_guid" r.organizationGuid, filled "space_guid" r.spaceGuid,
      since .v2_12 r.context.isSome version, since .v2_13 r.originatingIdentity.isSome version]
  | ⟨.updateInstance, r⟩ =>
    [filled "instance_id" r.instanceId, filled "service_id" r.serviceId,
      since .v2_12 r.context.isSome version, since .v2_13 r.originatingIdentity.isSome version,
      alpha "maintenance_info" r.maintenanceInfo.isSome enabled]
  | ⟨.deprovisionInstance, r⟩ =>
    [filled "instance_id" r.instanceId, filled "service_id" r.serviceId, filled "plan_id" r.planId,
      since .v2_13 r.originatingIdentity.isSome version]
  | ⟨.getInstance, r⟩ => [since .v2_14 True version, filled "instance_id" r.instanceId]
  | ⟨.listInstances, _⟩ => [since .v2_14 True version]
  | ⟨.getOperation, r⟩ =>
    [filled "instance_id" r.instanceId, since .v2_14 r.bindingId.isSome version,
      filledIfGiven "binding_id" r.bindingId]
  | ⟨.bind, r⟩ =>
    [filled "binding_id" r.bindingId, filled "instance_id" r.instanceId, filled "service_id" r.serviceId,
      filled "plan_id" r.planId, since .v2_12 r.context.isSome version,
      since .v2_13 r.originatingIdentity.isSome version,
      alpha "asynchronous bindings" r.acceptsIncomplete enabled]
  | ⟨.unbind, r⟩ =>
    [filled "instance_id" r.instanceId, filled "binding_id" r.bindingId, filled "service_id" r.serviceId,
      filled "plan_id" r.planId, since .v2_13 r.originatingIdentity.isSome version,
      alpha "asynchronous bindings" r.acceptsIncomplete enabled]
  | ⟨.getBinding, r⟩ =>
    [since .v2_14 True version, filled "instance_id" r.instanceId, filled "binding_id" r.bindingId]

namespace Demand

/-! ## What a settlement says -/

variable {ds ds' : List Demand} {r r' : Except Error Unit}

theorem Settle.met_of_ok (h : Settle ds r) (hr : r = .ok ()) : ∀ d ∈ ds, d.met := by
  induction h with
  | done => simp
  | unmet => cases hr
  | met hd _ ih =>
    intro d hm
    rcases List.mem_cons.1 hm with rfl | hm
    · exact hd
    · exact ih hr d hm

theorem Settle.exists_unmet (h : Settle ds r) {e : Error} (hr : r = .error e) : ∃ d ∈ ds, ¬ d.met := by
  induction h with
  | done => cases hr
  | @unmet d ds hd => exact ⟨d, List.mem_cons_self .., hd⟩
  | met _ _ ih =>
    obtain ⟨d, hm, hd⟩ := ih hr
    exact ⟨d, List.mem_cons_of_mem _ hm, hd⟩

/-- A settlement succeeds exactly if every demand is met. -/
theorem Settle.eq_ok_iff (h : Settle ds r) : r = .ok () ↔ ∀ d ∈ ds, d.met := by
  refine ⟨h.met_of_ok, fun hm => ?_⟩
  rcases r with e | ⟨⟩
  · obtain ⟨d, hd, hn⟩ := h.exists_unmet rfl
    exact absurd (hm d hd) hn
  · rfl

/-- A demand that is not met decides if all demands before it are met. -/
theorem Settle.eq_error {before after : List Demand} {d : Demand} (h : Settle (before ++ d :: after) r)
    (hb : ∀ b ∈ before, b.met) (hd : ¬ d.met) : r = .error d.error := by
  induction before with
  | nil =>
    cases h with
    | unmet => rfl
    | met hm => exact absurd hm hd
  | cons b before ih =>
    cases h with
    | unmet hn => exact absurd (hb b (List.mem_cons_self ..)) hn
    | met _ h => exact ih h fun b' hb' => hb b' (List.mem_cons_of_mem _ hb')

theorem Settle.append (h : Settle ds r) (h' : Settle ds' r') : Settle (ds ++ ds') (r >>= fun _ => r') := by
  induction h with
  | done => exact h'
  | unmet hd => exact .unmet hd
  | met hd _ ih => exact .met hd ih

/-! ## Checks settle demands -/

section Checks

variable {version : Version} {enabled : Bool} {cs cs' : List Check}

/-- Checks that are carried out as demands settle. -/
def SettledBy (version : Version) (enabled : Bool) (ds : List Demand) (cs : List Check) : Prop :=
  Settle ds (cs.forM (Check.run version enabled))

theorem SettledBy.append (h : SettledBy version enabled ds cs) (h' : SettledBy version enabled ds' cs') :
    SettledBy version enabled (ds ++ ds') (cs ++ cs') := by
  unfold SettledBy
  rw [List.forM_eq_forM, List.forM_append]
  exact Settle.append h h'

theorem settledBy_singleton {d : Demand} {c : Check} (hm : d.met → c.run version enabled = .ok ())
    (hu : ¬ d.met → c.run version enabled = .error d.error) : SettledBy version enabled [d] [c] := by
  have hc : [c].forM (Check.run version enabled) = c.run version enabled := by
    rw [List.forM_eq_forM, List.forM_cons, List.forM_nil]
    cases c.run version enabled <;> rfl
  unfold SettledBy
  rw [hc]
  by_cases hd : d.met
  · rw [hm hd]; exact .met hd .done
  · rw [hu hd]; exact .unmet hd

theorem SettledBy.cons {d : Demand} {c : Check} (h : SettledBy version enabled [d] [c])
    (h' : SettledBy version enabled ds cs) : SettledBy version enabled (d :: ds) (c :: cs) :=
  h.append h'

theorem settledBy_filled (field text : String) :
    SettledBy version enabled [filled field text] [.present field text] :=
  settledBy_singleton (fun h => by simpa [Check.run, filled] using h) (fun h => by simp_all [Check.run, filled])

theorem settledBy_since (required : Version) :
    SettledBy version enabled [since required True version] [.atLeast required] :=
  settledBy_singleton (fun h => by simp_all [Check.run, since]) (fun h => by simp_all [Check.run, since])

theorem settledBy_filledIfGiven (field text : String) :
    SettledBy version enabled [filledIfGiven field (some text)] [.present field text] :=
  settledBy_singleton (fun h => by simpa [Check.run, filledIfGiven] using h)
    (fun h => by simp_all [Check.run, filledIfGiven])

/-- Demands that are met anyway need no checks. -/
theorem settledBy_nil (h : ∀ d ∈ ds, d.met) : SettledBy version enabled ds [] := by
  induction ds with
  | nil => exact .done
  | cons d ds ih => exact .met (h d (List.mem_cons_self ..)) (ih fun d' hd' => h d' (List.mem_cons_of_mem _ hd'))

/-- A check that is made only when something is asked for settles a demand that says nothing otherwise. -/
theorem settledBy_when {d : Demand} {c : Check} {asked : Bool} (hm : asked = false → d.met)
    (hc : asked = true → SettledBy version enabled [d] [c]) :
    SettledBy version enabled [d] (Check.when asked c) := by
  cases asked with
  | false => exact settledBy_nil (by simpa using hm rfl)
  | true => exact hc rfl

theorem settledBy_whenSince (required : Version) (asked : Bool) :
    SettledBy version enabled [since required asked version] (Check.when asked (.atLeast required)) :=
  settledBy_when (fun h => by simp [since, h]) fun h => by subst h; simpa using settledBy_since required

theorem settledBy_whenAlpha (feature : String) (asked : Bool) :
    SettledBy version enabled [alpha feature asked enabled] (Check.when asked (.alpha feature)) :=
  settledBy_when (fun h => by simp [alpha, h]) fun h =>
    settledBy_singleton (fun hm => by simp_all [Check.run, alpha]) (fun hu => by simp_all [Check.run, alpha])

/-- What instances and bindings have in common: a context and an identity. -/
theorem settledBy_common (context : Option Json.Dictionary) (identity : Option OriginatingIdentity) :
    SettledBy version enabled [since .v2_12 context.isSome version, since .v2_13 identity.isSome version]
      (Check.context context ++ Check.identity identity) :=
  (settledBy_whenSince .v2_12 _).append (settledBy_whenSince .v2_13 _)

variable (version enabled) in
/-- The checks of a call settle what it demands. -/
theorem settledBy_checks (call : Call) :
    SettledBy version enabled (call.demands version enabled) call.checks := by
  obtain ⟨endpoint, r⟩ := call
  cases endpoint with
  | getCatalog => exact settledBy_nil nofun
  | checkAvailability => exact settledBy_nil nofun
  | provisionInstance =>
    exact .cons (settledBy_filled ..) <| .cons (settledBy_filled ..) <| .cons (settledBy_filled ..) <|
      .cons (settledBy_filled ..) <| .cons (settledBy_filled ..) <| settledBy_common ..
  | updateInstance =>
    exact .cons (settledBy_filled ..) <| .cons (settledBy_filled ..) <|
      (settledBy_common r.context r.originatingIdentity).append (settledBy_whenAlpha ..)
  | deprovisionInstance =>
    exact .cons (settledBy_filled ..) <| .cons (settledBy_filled ..) <| .cons (settledBy_filled ..) <|
      settledBy_whenSince ..
  | getInstance => exact .cons (settledBy_since ..) <| settledBy_filled ..
  | listInstances => exact settledBy_since ..
  | getOperation =>
    obtain ⟨instanceId, bindingId, serviceId, planId, key⟩ := r
    cases bindingId with
    | none => exact .cons (settledBy_filled ..) <| settledBy_nil (by simp [since, filledIfGiven])
    | some id =>
      exact .cons (settledBy_filled ..) <| .cons (settledBy_whenSince .v2_14 true) <| settledBy_filledIfGiven ..
  | bind =>
    exact .cons (settledBy_filled ..) <| .cons (settledBy_filled ..) <| .cons (settledBy_filled ..) <|
      .cons (settledBy_filled ..) <|
      (settledBy_common r.context r.originatingIdentity).append (settledBy_whenAlpha ..)
  | unbind =>
    exact .cons (settledBy_filled ..) <| .cons (settledBy_filled ..) <| .cons (settledBy_filled ..) <|
      .cons (settledBy_filled ..) <| (settledBy_whenSince ..).append (settledBy_whenAlpha ..)
  | getBinding =>
    exact .cons (settledBy_since ..) <| .cons (settledBy_filled ..) <| settledBy_filled ..

end Checks

end Demand

/-- The same request with another value in the headers of a name. -/
def Http.Request.withHeader (r : Http.Request) (name value : String) : Http.Request :=
  { r with headers := r.headers.map fun h => if h.1 = name then (name, value) else h }

namespace Client

/-! ## Requests -/

/-- A request says what a draft says, and its target and all its header values can be sent. -/
structure Builds (c : Client) (d : Draft) (request : Http.Request) : Prop where
  target : Http.target (c.locate d).render = .ok request.target
  headerValues : ∀ h ∈ c.headers d, Http.isHeaderValue h.2 = true
  eq : request = ⟨d.method, request.target, c.headers d, d.body.getD ""⟩

theorem address_eq_ok_iff (c : Client) (d : Draft) (request : Http.Request) :
    c.address d = .ok request ↔ c.Builds d request := by
  unfold address
  cases ht : Http.target (c.locate d).render with
  | error f =>
    refine ⟨fun h => (by cases h), fun h => ?_⟩
    have := h.target
    rw [ht] at this; cases this
  | ok target =>
    simp only [bind, Except.bind]
    split
    · rename_i hv
      constructor
      · intro h; cases h
        exact ⟨ht, List.all_eq_true.1 hv, rfl⟩
      · intro h
        have := h.target
        rw [ht] at this; cases this
        rw [h.eq]; rfl
    · rename_i hv
      refine ⟨fun h => (by cases h), fun h => absurd (List.all_eq_true.2 h.headerValues) hv⟩

/-- A client whose headers differ in the value of one name builds the same requests but for this value, or none for
the same reason. -/
theorem address_withHeader {c c' : Client} {d : Draft} {name value : String} (hurl : c'.url = c.url)
    (hheaders : c'.headers d = (c.headers d).map fun h => if h.1 = name then (name, value) else h)
    (hlegal : (c'.headers d).all (fun h => Http.isHeaderValue h.2) =
      (c.headers d).all fun h => Http.isHeaderValue h.2) :
    c'.address d = (c.address d).map (·.withHeader name value) := by
  have hlocate : c'.locate d = c.locate d := by
    unfold locate
    rw [hurl]
  unfold address
  rw [hlocate]
  cases Http.target (c.locate d).render with
  | error f => rfl
  | ok target =>
    simp only [bind, Except.bind, hlegal]
    split
    · simp only [hheaders]
      rfl
    · rfl

theorem check_eq_ok_iff (c : Client) (call : Call) :
    c.check call = .ok () ↔ ∀ d ∈ call.demands c.version c.alpha, d.met :=
  (Demand.settledBy_checks c.version c.alpha call).eq_ok_iff

/-- A call is prepared exactly if it meets its demands and its request can be built. -/
theorem prepare_eq_ok_iff (c : Client) (call : Call) (request : Http.Request) :
    c.prepare call = .ok request ↔
      (∀ d ∈ call.demands c.version c.alpha, d.met) ∧ c.Builds (call.draft c.healthEndpoint) request := by
  rw [← check_eq_ok_iff, ← address_eq_ok_iff]
  unfold prepare
  rcases c.check call with e | ⟨⟩
  · simp [bind, Except.bind]
  · exact mapError_eq_ok_iff.trans (and_iff_right rfl).symm

/-- The first demand that is not met is why a call is not prepared. -/
theorem prepare_eq_error (c : Client) (call : Call) {before after : List Demand} {d : Demand}
    (hs : call.demands c.version c.alpha = before ++ d :: after) (hb : ∀ b ∈ before, b.met) (hd : ¬ d.met) :
    c.prepare call = .error d.error := by
  have hc : c.check call = .error d.error := by
    have h := Demand.settledBy_checks c.version c.alpha call
    unfold Demand.SettledBy at h
    rw [hs] at h
    exact h.eq_error hb hd
  unfold prepare
  rw [hc]; rfl

/-! ## Sending -/

/-- The call is one for the catalog, and the client finds one that was kept. -/
def FindsKept (c : Client) (health : Cache.Health) (cache : Cache) (call : Call) : Prop :=
  call.endpoint = .getCatalog ∧ c.keepsCatalog = true ∧ ∃ catalog, health.read.find cache = some catalog

variable {c : Client} {health : Cache.Health} {cache : Cache} {call : Call} {d : Delivery}

theorem sent_exchange : (c.exchange call d).sent = (c.prepare call).toOption.toList := by
  unfold exchange
  cases c.prepare call <;> rfl

theorem getCatalog_of_find {catalog : Catalog} (hk : c.keepsCatalog = true)
    (hf : health.read.find cache = some catalog) :
    c.getCatalog health cache d = (⟨.ok (c.prune catalog), []⟩, cache) := by
  unfold getCatalog
  rw [if_pos hk, hf]

/-- Without a kept catalog, a call for the catalog is like any other call up to the pruning. -/
theorem getCatalog_of_not_find (h : ¬ c.FindsKept health cache ⟨.getCatalog, ()⟩) :
    (c.getCatalog health cache d).1 =
      ⟨(c.exchange ⟨.getCatalog, ()⟩ d).result.map c.prune, (c.exchange ⟨.getCatalog, ()⟩ d).sent⟩ := by
  have hn : (if c.keepsCatalog = true then health.read.find cache else none) = none := by
    split
    · rename_i hk
      cases hf : health.read.find cache with
      | none => rfl
      | some catalog => exact absurd ⟨rfl, hk, catalog, hf⟩ h
    · rfl
  unfold getCatalog
  rw [hn]
  simp only
  cases (c.exchange ⟨.getCatalog, ()⟩ d).result <;> rfl

theorem perform_eq_exchange (h : call.endpoint ≠ .getCatalog) :
    c.perform health cache call d = (c.exchange call d, cache) := by
  obtain ⟨endpoint, r⟩ := call
  cases endpoint with
  | getCatalog => exact absurd rfl h
  | _ => rfl

/-- Of two clients that see the same of a catalog, the calls differ as their exchanges do. -/
theorem perform_of_exchange {c' : Client} (resent : List Http.Request → List Http.Request)
    (hkeeps : c'.keepsCatalog = c.keepsCatalog) (hprune : ∀ catalog, c'.prune catalog = c.prune catalog)
    (hnil : resent [] = [])
    (hexchange : ∀ call d, c'.exchange call d = ⟨(c.exchange call d).result, resent (c.exchange call d).sent⟩) :
    c'.perform health cache call d =
      (⟨(c.perform health cache call d).1.result, resent (c.perform health cache call d).1.sent⟩,
        (c.perform health cache call d).2) := by
  by_cases he : call.endpoint = .getCatalog
  · obtain ⟨endpoint, r⟩ := call
    subst he
    show c'.getCatalog health cache d =
      (⟨(c.getCatalog health cache d).1.result, resent (c.getCatalog health cache d).1.sent⟩,
        (c.getCatalog health cache d).2)
    unfold getCatalog
    rw [hkeeps, hexchange]
    generalize c.exchange ⟨.getCatalog, ()⟩ d = fetch
    cases (if c.keepsCatalog = true then health.read.find cache else none) with
    | some catalog => simp only [hprune, hnil]
    | none =>
      obtain ⟨result, sent⟩ := fetch
      cases result with
      | error e => rfl
      | ok catalog => simp only [hprune]
  · rw [perform_eq_exchange he, perform_eq_exchange he, hexchange]

theorem sent_perform_of_findsKept (h : c.FindsKept health cache call) :
    (c.perform health cache call d).1.sent = [] := by
  obtain ⟨endpoint, r⟩ := call
  obtain ⟨rfl, hk, catalog, hf⟩ := h
  show (c.getCatalog health cache d).1.sent = []
  rw [getCatalog_of_find hk hf]

theorem sent_perform_of_not_findsKept (h : ¬ c.FindsKept health cache call) :
    (c.perform health cache call d).1.sent = (c.prepare call).toOption.toList := by
  rw [← sent_exchange (d := d)]
  by_cases he : call.endpoint = .getCatalog
  · obtain ⟨endpoint, r⟩ := call
    subst he
    show (c.getCatalog health cache d).1.sent = _
    rw [getCatalog_of_not_find h]
  · rw [perform_eq_exchange he]

/-- A call that finds a kept catalog is answered with it. -/
theorem result_perform_of_findsKept (h : c.FindsKept health cache call) :
    ∃ answer, (c.perform health cache call d).1.result = .ok answer := by
  obtain ⟨endpoint, r⟩ := call
  obtain ⟨rfl, hk, catalog, hf⟩ := h
  refine ⟨c.prune catalog, ?_⟩
  show (c.getCatalog health cache d).1.result = _
  rw [getCatalog_of_find hk hf]

/-- Any other call comes to what its exchange comes to; only a catalog is pruned on the way. -/
theorem result_perform_of_not_findsKept (h : ¬ c.FindsKept health cache call) :
    ∃ f, (c.perform health cache call d).1.result = (c.exchange call d).result.map f := by
  by_cases he : call.endpoint = .getCatalog
  · obtain ⟨endpoint, r⟩ := call
    subst he
    cases r
    refine ⟨c.prune, ?_⟩
    show (c.getCatalog health cache d).1.result = _
    rw [getCatalog_of_not_find h]
  · refine ⟨id, ?_⟩
    rw [perform_eq_exchange he, Except.map_id]
    rfl

theorem result_perform_of_prepare_error {e : Error} (hk : ¬ c.FindsKept health cache call)
    (hp : c.prepare call = .error e) : (c.perform health cache call d).1.result = .error e := by
  obtain ⟨f, hf⟩ := result_perform_of_not_findsKept (d := d) hk
  have hexchange : (c.exchange call d).result = .error e := by
    unfold exchange
    rw [hp]
  rw [hf, hexchange]
  rfl

theorem sent_perform_of_prepare_error {e : Error} (hp : c.prepare call = .error e) :
    (c.perform health cache call d).1.sent = [] := by
  by_cases hk : c.FindsKept health cache call
  · exact sent_perform_of_findsKept hk
  · rw [sent_perform_of_not_findsKept hk, hp]
    rfl

theorem endpoint_ne_of_mem_demands {version : Version} {enabled : Bool} {x : Demand}
    (h : x ∈ call.demands version enabled) : call.endpoint ≠ .getCatalog := by
  obtain ⟨endpoint, r⟩ := call
  rintro rfl
  cases h

/-- A call sends one request exactly if it finds no kept catalog, meets all demands and can be built; the
request is the one that is built. Otherwise it sends none. The first demand that is not met is its error. -/
theorem sent_perform (c : Client) (health : Cache.Health) (cache : Cache) (call : Call) (d : Delivery) :
    (∀ request, (c.perform health cache call d).1.sent = [request] ↔
      ¬ c.FindsKept health cache call ∧ (∀ x ∈ call.demands c.version c.alpha, x.met) ∧
        c.Builds (call.draft c.healthEndpoint) request) ∧
    ((c.perform health cache call d).1.sent = [] ∨ ∃ request, (c.perform health cache call d).1.sent = [request]) ∧
    ∀ before x after, call.demands c.version c.alpha = before ++ x :: after → (∀ b ∈ before, b.met) → ¬ x.met →
      (c.perform health cache call d).1.result = .error x.error := by
  refine ⟨fun request => ?_, ?_, fun before x after hs hb hx => ?_⟩
  · by_cases hk : c.FindsKept health cache call
    · simp [sent_perform_of_findsKept hk, hk]
    · rw [sent_perform_of_not_findsKept hk, ← prepare_eq_ok_iff]
      cases c.prepare call <;> simp [hk, Except.toOption]
  · by_cases hk : c.FindsKept health cache call
    · exact .inl (sent_perform_of_findsKept hk)
    · rw [sent_perform_of_not_findsKept hk]
      cases c.prepare call with
      | error e => exact .inl rfl
      | ok request => exact .inr ⟨request, rfl⟩
  · have hm : x ∈ call.demands c.version c.alpha := by simp [hs]
    have hk : ¬ c.FindsKept health cache call := fun hk => endpoint_ne_of_mem_demands hm hk.1
    exact result_perform_of_prepare_error hk (prepare_eq_error c call hs hb hx)

end Client

end ServiceBroker
