/-
Slashes in a configuration. A client of a URL whose path has one more slash at its end makes the same requests, and so
does one that asks for the health of the broker with more slashes between the pieces, or in front of them or behind
them (`actsLike_slashed`). What carries this is that a client never reads the path of its broker but to put something
behind it, and takes one slash away from the end before it does.
-/
import ServiceBroker.Proofs.Confinement
import ServiceBroker.Proofs.Secrets
import ServiceBroker.Proofs.Text.Pieces
import ServiceBroker.Proofs.Url.Slash

namespace ServiceBroker

/-! ## Paths -/

namespace Url

variable {u : Url} {list list' : List String}

/-- The text of a URL's path less one slash at its end, unless it is the root. -/
def trimmed (u : Url) : List Char :=
  let text := u.path.render.toList
  if text = [] ∨ text = ['/'] then ['/'] else if text.getLast? = some '/' then text.dropLast else text

theorem extend_congr (hp : u.path = .segments list) (h : popIfEmpty list' = popIfEmpty list) (texts : List String) :
    ({ u with path := .segments list' } : Url).extend texts = u.extend texts := by
  unfold extend
  rw [hp]
  dsimp only
  rw [h]

theorem popIfEmpty_ne_nil (h : list ≠ []) : popIfEmpty list ≠ [] := by
  unfold popIfEmpty
  split_ifs with hlast
  · intro hnil
    have hlength := congrArg List.length hnil
    simp at hlast hlength
    omega
  · exact h

/-- With nothing put behind it, the path is asked for less one slash at its end. -/
theorem slashed_asked_popIfEmpty (hu : u.Separated) (hp : u.path = .segments list) :
    slashed (asked (popIfEmpty list)) = u.trimmed := by
  have htext : u.path.render.toList = slashed list := by rw [hp, toList_render_segments]
  have hpop := slashed_popIfEmpty (hu.segments list hp)
  unfold trimmed
  dsimp only
  rw [htext]
  cases list with
  | nil => rfl
  | cons s list =>
    rw [asked_of_ne_nil (popIfEmpty_ne_nil (List.cons_ne_nil _ _)), hpop]
    have hne : slashed (s :: list) ≠ [] := List.cons_ne_nil _ _
    generalize slashed (s :: list) = text at hne
    by_cases hroot : text = ['/']
    · rw [if_neg fun h => h.1 hroot, if_pos (.inr hroot), hroot]
    · rw [if_neg (not_or.2 ⟨hne, hroot⟩)]
      exact ite_congr (propext (and_iff_right hroot)) (fun _ => rfl) fun _ => rfl

end Url

namespace Client

variable {c c' : Client}

/-! ## Clients that act alike -/

/-- Whatever calls are made, with whatever replies, the requests, the results and what is left in the cache are the
same. -/
def ActsLike (c' c : Client) : Prop :=
  ∀ cache occasions, c'.play cache occasions = c.play cache occasions

/-- The same settings, but perhaps for the path of the broker and the health endpoint, of which the same is made. -/
structure Alike (c' c : Client) : Prop where
  version : c'.version = c.version
  auth : c'.auth = c.auth
  alpha : c'.alpha = c.alpha
  keepsCatalog : c'.keepsCatalog = c.keepsCatalog
  extend : ∀ texts, c'.url.extend texts = c.url.extend texts
  draft : ∀ call : Call, call.draft c'.healthEndpoint = call.draft c.healthEndpoint

namespace Alike

variable (h : c'.Alike c)
include h

theorem address (d : Draft) : c'.address d = c.address d := by
  have hlocate : c'.locate d = c.locate d := by
    unfold locate
    rw [h.extend]
  have hheaders : c'.headers d = c.headers d := by
    unfold headers
    rw [h.version, h.auth]
  unfold Client.address
  rw [hlocate, hheaders]

theorem prepare (call : Call) : c'.prepare call = c.prepare call := by
  have hcheck : c'.check call = c.check call := by
    unfold check
    rw [h.version, h.alpha]
  unfold Client.prepare
  rw [hcheck, h.draft, h.address]

theorem exchange (call : Call) (d : Delivery) : c'.exchange call d = c.exchange call d := by
  unfold Client.exchange
  rw [h.prepare, h.alpha]

theorem perform (health : Cache.Health) (cache : Cache) (call : Call) (d : Delivery) :
    c'.perform health cache call d = c.perform health cache call d := by
  have hprune (catalog : Catalog) : c'.prune catalog = c.prune catalog := by
    unfold prune
    rw [h.version, h.alpha]
  exact perform_of_exchange id h.keepsCatalog hprune rfl h.exchange

/-- Each call finds the cache that it would find with the other client. -/
theorem actsLike : c'.ActsLike c := by
  intro cache occasions
  induction occasions generalizing cache with
  | nil => rfl
  | cons o rest ih => simp only [play, h.perform, ih]

end Alike

/-- One more slash in its URL leaves a client that is alike. -/
theorem exists_ofConfig_withSlash {config : Config} (hc : ofConfig config = .ok c)
    (hs : c.url.scheme = "http" ∨ c.url.scheme = "https")
    (hpath : Url.writtenPath config.url = [] ∨ c.url.path.render.toList.getLast? ≠ some '/') :
    ∃ c', ofConfig { config with url := Url.withSlash config.url } = .ok c' ∧ c'.Alike c := by
  obtain ⟨url, hbase, hurl, rfl⟩ := ofConfig_eq_ok_iff.1 hc
  replace hs : url.scheme = "http" ∨ url.scheme = "https" := hs
  have hspecial : Url.isSpecialScheme url.scheme = true := by rcases hs with h | h <;> rw [h] <;> rfl
  have hfile : url.scheme ≠ "file" := by rcases hs with h | h <;> rw [h] <;> decide
  obtain ⟨list, list', hp, hslash, hpop⟩ := Url.parse_withSlash hurl hspecial hfile hpath
  exact ⟨_, ofConfig_eq_ok_iff.2 ⟨_, rfl, hslash, rfl⟩, rfl, rfl, rfl, rfl, Url.extend_congr hp hpop, fun _ => rfl⟩

/-! ## Health endpoints -/

/-- The same client with another health endpoint, or none. -/
def probing (c : Client) (healthEndpoint : Option String) : Client :=
  { c with healthEndpoint := healthEndpoint }

theorem ofConfig_probing {config : Config} (hc : ofConfig config = .ok c) (healthEndpoint : Option String) :
    ofConfig { config with healthEndpoint := healthEndpoint } = .ok (c.probing healthEndpoint) := by
  obtain ⟨url, hbase, hurl, rfl⟩ := ofConfig_eq_ok_iff.1 hc
  exact ofConfig_eq_ok_iff.2 ⟨url, hbase, hurl, rfl⟩

/-- Of a health endpoint only the pieces are looked at. -/
theorem alike_probing (c : Client) (endpoint endpoint' : Option String)
    (h : pathPieces (endpoint'.getD defaultHealthEndpoint) = pathPieces (endpoint.getD defaultHealthEndpoint)) :
    (c.probing endpoint').Alike (c.probing endpoint) := by
  refine ⟨rfl, rfl, rfl, rfl, fun _ => rfl, fun call => ?_⟩
  -- No other call depends on the endpoint.
  obtain ⟨e, r⟩ := call
  cases e with
  | checkAvailability => exact congrArg (Draft.mk .head · [] none none) h
  | _ => rfl

end Client

/-- The broker is asked for its health. -/
abbrev Call.availability : Call :=
  ⟨.checkAvailability, ()⟩

/-- A request to the path of the broker itself. -/
def Draft.probe : Draft :=
  ⟨.head, [], [], none, none⟩

namespace Client

variable {c : Client} {request : Http.Request}

theorem builds_probing (endpoint : Option String) (draft : Draft) :
    (c.probing endpoint).Builds draft request ↔ c.Builds draft request := by
  rw [← address_eq_ok_iff, ← address_eq_ok_iff]
  rfl

theorem sent_availability_iff {text : String} (h : pathPieces text = []) (health : Cache.Health) (cache : Cache)
    (d : Delivery) :
    ((c.probing (some text)).perform health cache .availability d).1.sent = [request] ↔ c.Builds .probe request := by
  have hk : ¬ (c.probing (some text)).FindsKept health cache .availability := fun hk => nomatch hk.1
  have hdraft : Call.availability.draft (c.probing (some text)).healthEndpoint = .probe :=
    congrArg (Draft.mk .head · [] none none) h
  rw [sent_perform_of_not_findsKept hk, Option.toList_eq_singleton_iff, toOption_eq_some_iff, prepare_eq_ok_iff,
    hdraft, builds_probing]
  exact and_iff_right nofun

/-- With nothing put behind its path the broker itself is asked. -/
theorem destination_probe (hu : c.url.Separated) (hq : c.url.Unhashed) (h : c.Builds .probe request) :
    ∃ a, c.url.authority = some a ∧
      request.destination = .ofParts c.url.scheme a.render.toList (String.ofList c.url.trimmed) c.url.query := by
  obtain ⟨list, hp⟩ := c.exists_segments
  have hextend : c.url.extend [] = { c.url with path := .segments (Url.popIfEmpty list) } := by
    unfold Url.extend
    rw [hp]
    rfl
  have ht : Http.target (c.url.extend []).render = .ok request.target := h.target
  have hu' := hu.extend []
  rw [hextend] at ht hu'
  obtain ⟨a, ha, hdest⟩ := Url.destination_of_target hu' hq rfl ht
  rw [← String.ofList_toList (s := (Url.Path.segments _).render), Url.toList_render_segments,
    Url.slashed_asked_popIfEmpty hu hp] at hdest
  exact ⟨a, ha, hdest⟩

/-! ## Slashes -/

/-- Slashes in a configuration do not matter. A URL of HTTP whose path is not written, or does not end in a slash,
makes a client that acts like that of the same URL with one more slash at the end of its path. Two health endpoints
with the same pieces between slashes make clients that act alike; one that is not set is like the one of the protocol.
A health endpoint without pieces asks for the path of the broker itself less one slash at its end, unless it is the
root; the request is sent if it can be built. -/
theorem actsLike_slashed {config : Config} (hc : ofConfig config = .ok c) :
    (c.url.scheme = "http" ∨ c.url.scheme = "https" →
      Url.writtenPath config.url = [] ∨ c.url.path.render.toList.getLast? ≠ some '/' →
      ∃ c', ofConfig { config with url := Url.withSlash config.url } = .ok c' ∧ c'.ActsLike c) ∧
    (∀ endpoint, ofConfig { config with healthEndpoint := endpoint } = .ok (c.probing endpoint)) ∧
    (∀ pieces text text', Pieced text.toList pieces → Pieced text'.toList pieces →
      (c.probing (some text')).ActsLike (c.probing (some text))) ∧
    (c.probing none).ActsLike (c.probing (some "/v2/service_instances")) ∧
    ∀ text, Pieced text.toList [] → ∀ health cache d request,
      (((c.probing (some text)).perform health cache .availability d).1.sent = [request] ↔ c.Builds .probe request) ∧
      (c.Builds .probe request → request.method = .head ∧ ∃ a, c.url.authority = some a ∧
        request.destination = .ofParts c.url.scheme a.render.toList (String.ofList c.url.trimmed) c.url.query) := by
  refine ⟨fun hs hpath => ?_, ofConfig_probing hc, fun pieces text text' h h' => ?_, ?_, fun text h => ?_⟩
  · obtain ⟨c', hc', halike⟩ := exists_ofConfig_withSlash hc hs hpath
    exact ⟨c', hc', halike.actsLike⟩
  · have hpieces : pathPieces text' = pathPieces text := by rw [pathPieces_eq_iff.2 h, pathPieces_eq_iff.2 h']
    exact (alike_probing c (some text) (some text') hpieces).actsLike
  · exact (alike_probing c (some defaultHealthEndpoint) none rfl).actsLike
  · intro health cache d request
    refine ⟨sent_availability_iff (pathPieces_eq_iff.2 h) health cache d, fun hbuilds => ⟨?_, ?_⟩⟩
    · rw [hbuilds.eq]
      rfl
    · exact destination_probe (separated_ofConfig hc) (unhashed_ofConfig hc) hbuilds

/-- The client of a broker on the same machine that is asked with a query. -/
def queried : Client :=
  { loopback with
    url := ⟨"http", some ⟨"", none, "[::1]", none⟩, .segments ["osb"], some "tenant=a", none⟩
    isBase := rfl }

/-- One more slash in front of the query, others around the pieces of a health endpoint, and one that is nothing but
slashes. -/
theorem actsLike_slashed_queried :
    ofConfig (.ofUrl "http://[::1]/osb?tenant=a") = .ok queried ∧
    (∃ c', ofConfig (.ofUrl "http://[::1]/osb/?tenant=a") = .ok c' ∧ c'.ActsLike queried) ∧
    (queried.probing (some "healthz//live/")).ActsLike (queried.probing (some "/healthz/live")) ∧
    (queried.probing none).ActsLike (queried.probing (some "/v2/service_instances")) ∧
    ((queried.probing (some "//")).perform ⟨.sound, true⟩ .empty .availability .blank).1.sent =
      [⟨.head, "http://[::1]/osb?tenant=a",
        [("x-broker-api-version", "2.14"), ("accept", "application/json")], ""⟩] := by
  have hc : ofConfig (.ofUrl "http://[::1]/osb?tenant=a") = .ok queried := toOption_eq_some_iff.1 (by decide +kernel)
  have hslash : Url.withSlash "http://[::1]/osb?tenant=a" = "http://[::1]/osb/?tenant=a" := by decide +kernel
  obtain ⟨hurl, _, hpieces, hdefault, hnone⟩ := actsLike_slashed hc
  obtain ⟨c', hc', hacts⟩ := hurl (.inl rfl) (.inr (by decide))
  refine ⟨hc, ⟨c', ?_, hacts⟩, ?_, hdefault, ?_⟩
  · rw [← hslash]
    exact hc'
  · exact hpieces ["healthz", "live"] _ _ (pathPieces_eq_iff.1 (by decide)) (pathPieces_eq_iff.1 (by decide))
  · refine ((hnone "//" (.slash (.slash .nil))) _ _ _ _).1.2 ((address_eq_ok_iff ..).1 ?_)
    exact toOption_eq_some_iff.1 (by decide +kernel)

end Client

end ServiceBroker
