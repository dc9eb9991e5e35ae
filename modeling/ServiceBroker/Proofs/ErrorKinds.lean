/-
The errors that calls come to. Whatever configuration a client was made from, and however many calls it makes, a call
fails with one of few kinds of errors: its request is invalid or not allowed, the broker is not heard, or the broker
refuses (`errors_play`). A health check is never refused in advance, and when the broker refuses one, this is told by an
error of its own. The URL of a client never stands in the way, nor does the body of a request: segments can be appended
to the URL, whatever they are, and every body is a JSON document.
-/
import ServiceBroker.Proofs.Json.Names
import ServiceBroker.Proofs.Secrets

namespace ServiceBroker

/-! ## Kinds of errors -/

/-- The errors that a call to an endpoint may come to. -/
inductive Endpoint.MayFail (e : Endpoint) : Error → Prop
  | invalid (reason : InvalidRequest) : MayFail e (.invalidRequest reason)
  | notAllowed (refusal : Refusal) : e ≠ .checkAvailability → MayFail e (.notAllowed refusal)
  | unheard (cause : AnyError) : MayFail e (.transport cause)
  | refused (failure : HttpFailure) : e ≠ .checkAvailability → MayFail e (.httpStatus failure)
  | unavailable (failure : Unavailable) : e = .checkAvailability → MayFail e (.unavailable failure)

/-- Appends segments to the path of a URL, or says that the URL is no base. -/
def Url.tryExtend (u : Url) (segments : List String) : Except Error Url :=
  match u.path with
  | .whole _ => .error (.config (.notABase u.render))
  | .segments _ => .ok (u.extend segments)

theorem Url.tryExtend_of_isBase {u : Url} (h : u.isBase = true) (segments : List String) :
    u.tryExtend segments = .ok (u.extend segments) ∧ (u.extend segments).isBase = true := by
  unfold isBase at h
  unfold tryExtend
  cases hp : u.path with
  | whole text =>
    rw [hp] at h
    cases h
  | segments list =>
    constructor
    · rfl
    · unfold extend isBase
      rw [hp]

/-! ## Before a request is sent -/

variable {call : Call} {version : Version} {enabled : Bool} {e : Error}

/-- Of checks that are carried out one after another, the one that fails says why. -/
theorem exists_of_forM_run {checks : List Check} (h : checks.forM (Check.run version enabled) = .error e) :
    ∃ check ∈ checks, check.run version enabled = .error e := by
  obtain ⟨before, check, after, rfl, -, hrun⟩ := forM_eq_error_iff.1 h
  exact ⟨check, List.mem_append_right _ List.mem_cons_self, hrun⟩

theorem mayFail_of_run {endpoint : Endpoint} {check : Check} (he : endpoint ≠ .checkAvailability)
    (h : check.run version enabled = .error e) : endpoint.MayFail e := by
  cases check with
  | present field value =>
    by_cases hv : value.isEmpty = true
    · obtain rfl := Except.error.inj ((if_pos hv).symm.trans h)
      exact .invalid _
    · exact absurd ((if_neg hv).symm.trans h) nofun
  | atLeast required =>
    by_cases hv : required ≤ version
    · exact absurd ((if_pos hv).symm.trans h) nofun
    · obtain rfl := Except.error.inj ((if_neg hv).symm.trans h)
      exact .notAllowed _ he
  | alpha feature =>
    cases enabled with
    | true => cases h
    | false =>
      cases h
      exact .notAllowed _ he

theorem checks_checkAvailability (h : call.endpoint = .checkAvailability) : call.checks = [] := by
  obtain ⟨endpoint, r⟩ := call
  subst h
  rfl

/-- A body of a call is the text of a tree. -/
theorem Call.exists_render {healthEndpoint : Option String} {body : String}
    (h : (call.draft healthEndpoint).body = some body) : ∃ tree : Json, body = tree.render := by
  obtain ⟨endpoint, r⟩ := call
  cases endpoint with
  | provisionInstance =>
    obtain rfl := Option.some.inj h
    exact ⟨_, rfl⟩
  | updateInstance =>
    obtain rfl := Option.some.inj h
    exact ⟨_, rfl⟩
  | bind =>
    obtain rfl := Option.some.inj h
    exact ⟨_, rfl⟩
  | _ => cases h

namespace Client

variable {c : Client} {health : Cache.Health} {cache : Cache} {d : Delivery}

theorem mayFail_of_check (h : c.check call = .error e) : call.endpoint.MayFail e := by
  obtain ⟨check, hmem, hrun⟩ := exists_of_forM_run h
  apply mayFail_of_run _ hrun
  intro he
  rw [checks_checkAvailability he] at hmem
  cases hmem

theorem mayFail_of_prepare (h : c.prepare call = .error e) : call.endpoint.MayFail e := by
  unfold prepare at h
  cases hc : c.check call with
  | error e' =>
    rw [hc] at h
    cases h
    exact mayFail_of_check hc
  | ok =>
    rw [hc] at h
    cases ha : c.address (call.draft c.healthEndpoint) with
    | ok request =>
      rw [ha] at h
      cases h
    | error fault =>
      rw [ha] at h
      cases h
      exact .invalid _

/-! ## What comes back -/

theorem mayFail_of_outcome {alpha : Bool} {endpoint : Endpoint} {r : Http.Reply}
    {x : Except Error endpoint.Answer} (h : endpoint.Outcome alpha r x) (hx : x = .error e) : endpoint.MayFail e := by
  cases h with
  | granted answer => cases hx
  | garbled fault hg hl =>
    cases hx
    apply Endpoint.MayFail.refused
    -- a health check that is granted is not looked at any further
    rintro rfl
    exact hl (.inl hg)
  | explained b _ he =>
    cases hx
    exact .refused _ he
  | unexplained fault _ he =>
    cases hx
    exact .refused _ he
  | unavailable _ he =>
    cases hx
    exact .unavailable _ he

theorem mayFail_of_exchange (h : (c.exchange call d).result = .error e) : call.endpoint.MayFail e := by
  unfold exchange at h
  cases hp : c.prepare call with
  | error e' =>
    rw [hp] at h
    cases h
    exact mayFail_of_prepare hp
  | ok request =>
    rw [hp] at h
    cases d with
    | lost cause =>
      cases h
      exact .unheard cause
    | reply r => exact mayFail_of_outcome (Endpoint.outcome_answer c.alpha call.endpoint r) h

/-! ## Runs -/

/-- One call: whatever is kept and whatever comes back, its error is of one of the kinds. -/
theorem mayFail_of_perform (h : (c.perform health cache call d).1.result = .error e) : call.endpoint.MayFail e := by
  by_cases hk : c.FindsKept health cache call
  · obtain ⟨answer, ha⟩ := result_perform_of_findsKept (d := d) hk
    rw [ha] at h
    cases h
  · obtain ⟨f, hf⟩ := result_perform_of_not_findsKept (d := d) hk
    rw [hf, map_eq_error_iff] at h
    exact mayFail_of_exchange h

/-- Any number of calls: what one leaves in the cache makes no error of the next one. -/
theorem mayFail_of_play (occasions : List Occasion) {episode : Episode}
    (h : episode ∈ (c.play cache occasions).1) (he : episode.exchange.result = .error e) :
    episode.call.endpoint.MayFail e := by
  induction occasions generalizing cache with
  | nil => cases h
  | cons o rest ih =>
    rcases List.mem_cons.1 h with rfl | h
    · exact mayFail_of_perform he
    · exact ih h

/-- A client that was made from a configuration keeps the URL that the configuration gives. In any run of calls, every
error is one that the endpoint may fail with. Segments can be appended to the URL, whatever they are, and give a URL
that they could be appended to as well; with the pairs of the query, this is where a draft is sent. A body that is sent
is a JSON document. -/
theorem errors_play {config : Config} (h : ofConfig config = .ok c) :
    Url.parse config.url = .ok c.url ∧
    (∀ cache occasions, ∀ episode ∈ (c.play cache occasions).1, ∀ e,
      episode.exchange.result = .error e → episode.call.endpoint.MayFail e) ∧
    (∀ d : Draft, ∃ url, c.url.tryExtend d.segments = .ok url ∧ url.isBase = true ∧
      c.locate d = url.withPairs d.query) ∧
    ∀ (call : Call) (body : String), (call.draft c.healthEndpoint).body = some body →
      ∃ content, Json.SpellsDocument (Utf8.encode body) content := by
  refine ⟨parse_ofConfig h, fun cache occasions episode hmem e he => mayFail_of_play occasions hmem he, ?_, ?_⟩
  · intro d
    obtain ⟨hextend, hbase⟩ := Url.tryExtend_of_isBase c.isBase d.segments
    exact ⟨_, hextend, hbase, rfl⟩
  · intro call body hbody
    obtain ⟨tree, rfl⟩ := Call.exists_render hbody
    exact (Json.names_of_spells_render tree).1

end Client

/-- The health is asked for, an instance without a name is looked for, and one is to be removed. -/
def Occasion.threeFailing : List Occasion :=
  [⟨⟨.checkAvailability, ()⟩, ⟨.sound, true⟩, .reply ⟨503, [], []⟩⟩,
    ⟨.finding "", ⟨.sound, true⟩, .blank⟩, ⟨.removing "a", ⟨.sound, true⟩, .reply ⟨503, [], []⟩⟩]

namespace Client

/-- Each of the three calls fails, and each in its own way. -/
theorem errors_play_loopback :
    ofConfig (.ofUrl "http://[::1]/osb/") = .ok loopback ∧
    (loopback.play .empty Occasion.threeFailing).1.map (·.exchange.result.toOption.isSome) = [false, false, false] ∧
    ∀ episode ∈ (loopback.play .empty Occasion.threeFailing).1, ∀ e,
      episode.exchange.result = .error e → episode.call.endpoint.MayFail e := by
  refine ⟨ofConfig_loopback, by decide +kernel, ?_⟩
  exact (errors_play ofConfig_loopback).2.1 .empty Occasion.threeFailing

end Client

end ServiceBroker
