/-
Where a secret shows. Two clients that differ in a password, or in a token, show the same description, and whatever
calls they make, they get the same results and leave the same cache behind. They send the same requests but for one
header (`play_sameButSecret`). What carries this is that a secret never decides whether a request can be built.
-/
import ServiceBroker.Proofs.Inquiry.Provenance
import ServiceBroker.Proofs.Paths
import ServiceBroker.Proofs.Text.Base64

namespace ServiceBroker

/-! ## Header values -/

theorem isHeaderValue_append (s t : String) :
    Http.isHeaderValue (s ++ t) = (Http.isHeaderValue s && Http.isHeaderValue t) := by
  simp [Http.isHeaderValue]

/-- Neither a symbol nor the sign that fills up is a control character. -/
theorem Base64.isHeaderValue_encode (bytes : List UInt8) : Http.isHeaderValue (Base64.encode bytes) = true := by
  have hsymbols : Http.isHeaderValue Base64.alphabet = true := by decide
  apply List.all_eq_true.2
  intro c hc
  rcases (Base64.isPadded_encode bytes).mem hc with hc | rfl
  · exact List.all_eq_true.1 hsymbols c hc
  · rfl

/-! ## Credentials -/

namespace Auth

/-- Credentials that differ in the secret at most: in the password of a name, or in a token that makes a header value
if the other one does. -/
inductive SameButSecret : Auth → Auth → Prop
  | password (username password password' : String) :
    SameButSecret (.basic username password) (.basic username password')
  | token {token token' : String} (h : Http.isHeaderValue token' = Http.isHeaderValue token) :
    SameButSecret (.bearer token) (.bearer token')

variable {auth auth' : Auth}

theorem SameButSecret.describe (h : auth.SameButSecret auth') : auth'.describe = auth.describe := by
  cases h <;> rfl

/-- A name and a password can always be sent, whatever they hold. A token is sent as it is. -/
theorem SameButSecret.isHeaderValue_header (h : auth.SameButSecret auth') :
    Http.isHeaderValue auth'.header = Http.isHeaderValue auth.header := by
  cases h with
  | password username password password' =>
    simp [Auth.header, Base64.encodeText, isHeaderValue_append, Base64.isHeaderValue_encode]
  | token h => simp [Auth.header, isHeaderValue_append, h]

end Auth

/-! ## Runs -/

/-- A call, how the cache fares during it, and what becomes of its request. -/
structure Occasion where
  call : Call
  health : Cache.Health
  delivery : Delivery

/-- A call and what came of it. -/
structure Episode where
  call : Call
  exchange : Exchange call.endpoint.Answer

/-- The same result, and requests with another value in the headers of a name. -/
def Exchange.withHeader {α : Type} (e : Exchange α) (name value : String) : Exchange α :=
  ⟨e.result, e.sent.map (·.withHeader name value)⟩

/-- The same result, and requests with another value in the headers of a name. -/
def Episode.withHeader (e : Episode) (name value : String) : Episode :=
  ⟨e.call, e.exchange.withHeader name value⟩

namespace Client

/-- Makes calls one after another. What one leaves in the cache, the next one finds. -/
def play (c : Client) (cache : Cache) : List Occasion → List Episode × Cache
  | [] => ([], cache)
  | o :: rest =>
    let now := c.perform o.health cache o.call o.delivery
    let later := c.play now.2 rest
    (⟨o.call, now.1⟩ :: later.1, later.2)

/-- The same client with other credentials. -/
def authorized (c : Client) (auth : Auth) : Client :=
  { c with auth := some auth }

/-! ## Two secrets -/

section Secrets

variable {c : Client} {auth auth' : Auth}

theorem describe_authorized (h : c.auth = some auth) (hs : auth.SameButSecret auth') :
    (c.authorized auth').describe = c.describe := by
  have hauth : (c.authorized auth').auth = some auth' := rfl
  unfold describe
  rw [hauth, h]
  dsimp only
  rw [hs.describe]
  rfl

theorem headers_authorized (h : c.auth = some auth) (auth' : Auth) (d : Draft) :
    (c.authorized auth').headers d =
      (c.headers d).map fun h => if h.1 = authHeader then (authHeader, auth'.header) else h := by
  obtain ⟨method, segments, query, body, identity⟩ := d
  cases identity <;> cases body <;> simp [headers, authorized, h, versionHeader, authHeader, identityHeader]

theorem address_authorized (h : c.auth = some auth) (hs : auth.SameButSecret auth') (d : Draft) :
    (c.authorized auth').address d = (c.address d).map (·.withHeader authHeader auth'.header) := by
  refine address_withHeader rfl (headers_authorized h auth' d) ?_
  simp [headers, authorized, h, hs.isHeaderValue_header]

/-- No check looks at the credentials. -/
theorem prepare_authorized (h : c.auth = some auth) (hs : auth.SameButSecret auth') (call : Call) :
    (c.authorized auth').prepare call = (c.prepare call).map (·.withHeader authHeader auth'.header) := by
  have hcheck : (c.authorized auth').check call = c.check call := rfl
  have hdraft : call.draft (c.authorized auth').healthEndpoint = call.draft c.healthEndpoint := rfl
  unfold prepare
  rw [hcheck, hdraft, address_authorized h hs]
  cases c.check call with
  | error e => rfl
  | ok => cases c.address (call.draft c.healthEndpoint) <;> rfl

theorem exchange_authorized (h : c.auth = some auth) (hs : auth.SameButSecret auth') (call : Call) (d : Delivery) :
    (c.authorized auth').exchange call d = (c.exchange call d).withHeader authHeader auth'.header := by
  unfold exchange
  rw [prepare_authorized h hs]
  cases c.prepare call <;> rfl

/-- One call with another secret: the same but for the one header. -/
theorem perform_authorized (h : c.auth = some auth) (hs : auth.SameButSecret auth') (health : Cache.Health)
    (cache : Cache) (call : Call) (d : Delivery) :
    (c.authorized auth').perform health cache call d =
      ((c.perform health cache call d).1.withHeader authHeader auth'.header, (c.perform health cache call d).2) := by
  exact perform_of_exchange (List.map (·.withHeader authHeader auth'.header)) rfl (fun _ => rfl) rfl
    (exchange_authorized h hs)

/-- Any number of calls: each finds the cache that it would find with the other secret. -/
theorem play_authorized (h : c.auth = some auth) (hs : auth.SameButSecret auth') (occasions : List Occasion)
    (cache : Cache) :
    (c.authorized auth').play cache occasions =
      ((c.play cache occasions).1.map (·.withHeader authHeader auth'.header), (c.play cache occasions).2) := by
  induction occasions generalizing cache with
  | nil => rfl
  | cons o rest ih =>
    simp only [play, perform_authorized h hs, ih]
    rfl

theorem ofConfig_authorized {config : Config} {c' : Client} (hc : ofConfig { config with auth := some auth } = .ok c)
    (hc' : ofConfig { config with auth := some auth' } = .ok c') : c.auth = some auth ∧ c' = c.authorized auth' := by
  obtain ⟨url, _, hurl, rfl⟩ := ofConfig_eq_ok_iff.1 hc
  obtain ⟨url', _, hurl', rfl⟩ := ofConfig_eq_ok_iff.1 hc'
  obtain rfl := Except.ok.inj (hurl.symm.trans hurl')
  exact ⟨rfl, rfl⟩

/-- Clients whose configurations differ in the secret at most, and calls that they make on equal caches with the same
replies. Both are shown the same, and so are their credentials. The results are equal, errors included, and so are the
caches in the end; the requests are equal but for the value of the one header that carries the credentials. -/
theorem play_sameButSecret {config : Config} {c' : Client} (hs : auth.SameButSecret auth')
    (hc : ofConfig { config with auth := some auth } = .ok c)
    (hc' : ofConfig { config with auth := some auth' } = .ok c') (cache : Cache) (occasions : List Occasion) :
    auth'.describe = auth.describe ∧ c'.describe = c.describe ∧
      c'.play cache occasions =
        ((c.play cache occasions).1.map (·.withHeader authHeader auth'.header), (c.play cache occasions).2) := by
  obtain ⟨h, rfl⟩ := ofConfig_authorized hc hc'
  exact ⟨hs.describe, describe_authorized h hs, play_authorized h hs occasions cache⟩

end Secrets

/-- A client of a broker on the same machine that has a password and keeps the catalog. -/
def admin (password : String) : Client :=
  { loopback with auth := some (.basic "admin" password), keepsCatalog := true }

end Client

/-- The catalog is asked for twice, and an instance is to be removed. -/
def Occasion.catalogTwice : List Occasion :=
  [⟨⟨.getCatalog, ()⟩, ⟨.sound, true⟩, .retrievable⟩, ⟨⟨.getCatalog, ()⟩, ⟨.sound, true⟩, .blank⟩,
    ⟨.removing "a", ⟨.sound, true⟩, .blank⟩]

namespace Client

/-- With each password two requests are sent. The second call for the catalog is told what the first one brought. -/
theorem play_sameButSecret_admin :
    ((admin "a").play .empty Occasion.catalogTwice).1.map (·.exchange.sent.length) = [1, 0, 1] ∧
    (admin "b").play .empty Occasion.catalogTwice =
      (((admin "a").play .empty Occasion.catalogTwice).1.map (·.withHeader authHeader "Basic YWRtaW46Yg=="),
        ((admin "a").play .empty Occasion.catalogTwice).2) := by
  let config : Config := { Config.ofUrl "http://[::1]/osb/" with keepsCatalog := true }
  have hc : ofConfig { config with auth := some (.basic "admin" "a") } = .ok (admin "a") :=
    toOption_eq_some_iff.1 (by decide +kernel)
  have hc' : ofConfig { config with auth := some (.basic "admin" "b") } = .ok (admin "b") :=
    toOption_eq_some_iff.1 (by decide +kernel)
  obtain ⟨_, _, hplay⟩ := play_sameButSecret (.password "admin" "a" "b") hc hc' .empty Occasion.catalogTwice
  have hheader : (Auth.basic "admin" "b").header = "Basic YWRtaW46Yg==" := by decide +kernel
  rw [hheader] at hplay
  constructor
  · decide +kernel
  · exact hplay

end Client

end ServiceBroker
