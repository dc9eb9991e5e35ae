/-
What the query of a request says: first what the query of the broker's own URL says, then the parameters of the call
(`Call.parameters`) with their texts as they are, whatever signs are in them (`query_perform`). Nothing is put behind
the broker's query for a call without parameters, so it is sent as it stands, or not at all. Any text may be appended
to the path here: calls for the health of the broker go to a path that the configuration chooses.
-/
import ServiceBroker.Proofs.Confinement

namespace ServiceBroker

/-! ## Parameters -/

/-- What the query of a request may say besides the query of the broker's URL. -/
inductive Parameter
  | serviceId
  | planId
  | operation
  | page
  | pageSize
  | acceptsIncomplete

namespace Parameter

/-- Every parameter, in the order in which they are sent. -/
def all : List Parameter :=
  [serviceId, planId, operation, page, pageSize, acceptsIncomplete]

/-- The name of a parameter. -/
def name : Parameter → String
  | serviceId => "service_id"
  | planId => "plan_id"
  | operation => "operation"
  | page => "page"
  | pageSize => "page_size"
  | acceptsIncomplete => "accepts_incomplete"

end Parameter

namespace Call

/-- The value that a call gives to a parameter. -/
def value? : Call → Parameter → Option String
  | ⟨.deprovisionInstance, r⟩, .serviceId | ⟨.unbind, r⟩, .serviceId => some r.serviceId
  | ⟨.deprovisionInstance, r⟩, .planId | ⟨.unbind, r⟩, .planId => some r.planId
  | ⟨.getOperation, r⟩, .serviceId => r.serviceId
  | ⟨.getOperation, r⟩, .planId => r.planId
  | ⟨.getOperation, r⟩, .operation => (r.operationKey.map OperationKey.text).filter (· ≠ "")
  | ⟨.listInstances, r⟩, .page => r.page.map fun n => toString n.toNat
  | ⟨.listInstances, r⟩, .pageSize => r.pageSize.map fun n => toString n.toNat
  | ⟨.provisionInstance, r⟩, .acceptsIncomplete | ⟨.updateInstance, r⟩, .acceptsIncomplete
  | ⟨.deprovisionInstance, r⟩, .acceptsIncomplete | ⟨.bind, r⟩, .acceptsIncomplete
  | ⟨.unbind, r⟩, .acceptsIncomplete => if r.acceptsIncomplete then some "true" else none
  | _, _ => none

/-- The parameters that a call has values for. -/
def parameters (call : Call) : List (String × String) :=
  Parameter.all.flatMap fun p => parameter? p.name (call.value? p)

theorem acceptsIncomplete_eq (accepts : Bool) :
    acceptsIncomplete accepts = parameter? "accepts_incomplete" (if accepts then some "true" else none) := by
  cases accepts <;> rfl

theorem filled_operationKey (key : Option OperationKey) :
    (key.filter (!·.text.isEmpty)).map OperationKey.text = (key.map OperationKey.text).filter (· ≠ "") := by
  cases key with
  | none => rfl
  | some key =>
    rw [Option.map_some, Option.filter_some, Option.filter_some]
    by_cases hk : key.text = ""
    · rw [if_neg (by simp [hk]), if_neg (by simp [hk])]
      rfl
    · rw [if_pos (by simp [hk]), if_pos (by simp [hk])]
      rfl

/-- A call sends its parameters and nothing else in its query. -/
theorem query_eq_parameters (call : Call) (healthEndpoint : Option String) :
    (call.draft healthEndpoint).query = call.parameters := by
  obtain ⟨endpoint, r⟩ := call
  cases endpoint with
  | getCatalog => rfl
  | getInstance => rfl
  | getBinding => rfl
  | checkAvailability => rfl
  | provisionInstance | updateInstance | bind =>
    show acceptsIncomplete r.acceptsIncomplete = parameter? "accepts_incomplete" _ ++ []
    rw [List.append_nil, acceptsIncomplete_eq]
    rfl
  | deprovisionInstance | unbind =>
    show _ ++ acceptsIncomplete r.acceptsIncomplete = _ :: _ :: (parameter? "accepts_incomplete" _ ++ [])
    rw [List.append_nil, acceptsIncomplete_eq]
    rfl
  | listInstances =>
    show parameter? "page" _ ++ parameter? "page_size" _ = parameter? "page" _ ++ (parameter? "page_size" _ ++ [])
    rw [List.append_nil]
    rfl
  | getOperation =>
    show _ ++ parameter? "operation" _ = _ ++ (_ ++ (parameter? "operation" _ ++ []))
    rw [List.append_nil, filled_operationKey, List.append_assoc]
    rfl

end Call

namespace Client

variable {c : Client} {call : Call} {request : Http.Request}

/-- Where a draft goes, the parts of the URL stay apart. -/
theorem separated_locate (hu : c.url.Separated) (d : Draft) : (c.locate d).Separated :=
  (hu.extend d.segments).withPairs d.query

theorem query_locate (c : Client) (d : Draft) : (c.locate d).query = (c.url.withPairs d.query).query := by
  unfold locate Url.extend
  split
  · rfl
  · unfold Url.withPairs
    split <;> rfl

theorem segments_locate (c : Client) (d : Draft) : ∃ list, (c.locate d).path = .segments list := by
  obtain ⟨list, hp⟩ := c.exists_segments
  unfold locate Url.extend Url.withPairs
  rw [hp]
  dsimp only
  split <;> exact ⟨_, rfl⟩

/-- Every request asks what the URL of the broker asks with the parameters of the call behind it. -/
theorem query?_prepare (hu : c.url.Separated) (hq : c.url.Unhashed) (h : c.prepare call = .ok request) :
    request.query? = (c.url.withPairs call.parameters).query := by
  obtain ⟨_, hbuilds⟩ := (prepare_eq_ok_iff c call request).1 h
  -- The path makes no difference: it holds neither the sign that begins a query nor the one that ends it.
  have hquery := c.query_locate (call.draft c.healthEndpoint)
  have hhash : (c.locate (call.draft c.healthEndpoint)).Unhashed := by
    intro q hmem
    rw [hquery] at hmem
    exact hq.withPairs _ q hmem
  obtain ⟨list, hp⟩ := c.segments_locate (call.draft c.healthEndpoint)
  rw [Url.query?_of_target (separated_locate hu _) hhash hp hbuilds.target, hquery, Call.query_eq_parameters]

/-- The query of a request says what the broker's own says, and then what the parameters of the call say, each with
the text that it was given. Without parameters it is the broker's own, and there is none if the broker has none. -/
theorem query_perform {config : Config} (hc : ofConfig config = .ok c) (health : Cache.Health) (cache : Cache)
    (call : Call) (d : Delivery) (request : Http.Request)
    (hs : request ∈ (c.perform health cache call d).1.sent) :
    request.pairs = c.url.pairs ++ call.parameters.map Percent.pairBytes ∧
    (call.parameters = [] → request.query? = c.url.query) := by
  have hquery := query?_prepare (separated_ofConfig hc) (unhashed_ofConfig hc) (prepare_of_mem_sent hs)
  constructor
  · rw [← Url.pairs_withPairs]
    exact Url.pairs_of_query? hquery
  · intro hnone
    rw [hquery, hnone]
    rfl

/-- The client of a broker whose URL has a query of its own, with nothing behind its last sign. -/
def querying : Client :=
  { loopback with
    url := ⟨"http", some ⟨"", none, "[::1]", none⟩, .segments ["osb", ""], some "a=1&", none⟩, isBase := rfl }

/-- An operation is asked for whose key looks like more of the query. -/
def hostilePolling : Call :=
  ⟨.getOperation, ⟨"i", none, some "s+é", none, some ⟨"50% &page=2"⟩⟩⟩

theorem query_perform_hostile :
    ofConfig (.ofUrl "http://[::1]/osb/?a=1&") = .ok querying ∧
    Http.Request.loopback .get "i/last_operation?a=1&&service_id=s%2B%C3%A9&operation=50%25+%26page%3D2" ∈
      (querying.perform ⟨.sound, true⟩ .empty hostilePolling .blank).1.sent ∧
    (Http.Request.loopback .get
        "i/last_operation?a=1&&service_id=s%2B%C3%A9&operation=50%25+%26page%3D2").pairs =
      [("a", "1"), ("service_id", "s+é"), ("operation", "50% &page=2")].map Percent.pairBytes := by
  have hc : ofConfig (.ofUrl "http://[::1]/osb/?a=1&") = .ok querying := toOption_eq_some_iff.1 (by decide +kernel)
  have hs : Http.Request.loopback .get "i/last_operation?a=1&&service_id=s%2B%C3%A9&operation=50%25+%26page%3D2" ∈
      (querying.perform ⟨.sound, true⟩ .empty hostilePolling .blank).1.sent := by decide +kernel
  obtain ⟨hpairs, _⟩ := query_perform hc _ _ _ _ _ hs
  refine ⟨hc, hs, hpairs.trans ?_⟩
  decide +kernel

end Client

end ServiceBroker
