/-
A client of one broker. A call is checked, addressed and sent; what comes back is read as the call's
answer. Nothing is tried twice. The catalog may be kept in a cache, and is pruned for every caller.
-/
import ServiceBroker.Answer
import ServiceBroker.Cache
import ServiceBroker.Config

namespace ServiceBroker

/-! ## Clients -/

/-- A client of one broker, whose URL can be extended by the paths of the calls. -/
structure Client where
  name : String
  url : Url
  version : Version
  auth : Option Auth
  alpha : Bool
  healthEndpoint : Option String
  keepsCatalog : Bool
  isBase : url.isBase = true
deriving DecidableEq

namespace Client

/-- The client that a configuration describes. -/
def ofConfig (config : Config) : Except Error Client :=
  match Url.parse config.url with
  | .error f => .error (.invalidUrl f)
  | .ok url =>
    if h : url.isBase = true then
      .ok ⟨config.name, url, config.version, config.auth, config.alpha, config.healthEndpoint,
        config.keepsCatalog, h⟩
    else .error (.config (.notABase url.render))

/-- A client as it may be shown: without secrets. -/
def describe (c : Client) : String :=
  let auth := match c.auth with
    | some a => "Some(" ++ a.describe ++ ")"
    | none => "None"
  "Client \x7b name: " ++ Quoted.quote c.name ++ ", url: " ++ Quoted.quote c.url.render
    ++ ", api_version: " ++ c.version.describe ++ ", auth: " ++ auth
    ++ s!", enable_alpha_features: {c.alpha}, .. " ++ "\x7d"

end Client

/-! ## Requests -/

/-- The name of the header that carries the version. -/
def versionHeader : String := "x-broker-api-version"

/-- The name of the header that carries the credentials. -/
def authHeader : String := "authorization"

/-- The name of the header that carries the identity. -/
def identityHeader : String := "x-broker-api-originating-identity"

/-- What is sent and what is wanted. -/
def jsonMediaType : String := "application/json"

namespace Client

/-- The URL of a draft: the broker's, extended by the draft's segments and pairs. -/
def locate (c : Client) (d : Draft) : Url :=
  (c.url.extend d.segments).withPairs d.query

/-- The headers of a draft. -/
def headers (c : Client) (d : Draft) : List (String × String) :=
  [(versionHeader, c.version.label), ("accept", jsonMediaType)]
    ++ (c.auth.map fun a => (authHeader, a.header)).toList
    ++ (d.identity.map fun i => (identityHeader, i.header)).toList
    ++ (d.body.map fun _ => ("content-type", jsonMediaType)).toList

/-- Addresses a draft to the broker. -/
def address (c : Client) (d : Draft) : Except Http.Fault Http.Request := do
  let target ← Http.target (c.locate d).render
  let headers := c.headers d
  if headers.all fun h => Http.isHeaderValue h.2 then
    return ⟨d.method, target, headers, d.body.getD ""⟩
  else throw .header

/-- Carries out the checks of a call. -/
def check (c : Client) (call : Call) : Except Error Unit :=
  call.checks.forM (Check.run c.version c.alpha)

/-- The request of a call, unless a check fails or the request cannot be built. -/
def prepare (c : Client) (call : Call) : Except Error Http.Request := do
  c.check call
  (c.address (call.draft c.healthEndpoint)).mapError fun f => .invalidRequest (.unbuildable f)

end Client

/-! ## Answers -/

/-- What becomes of a request: it is replied to, or the reply is lost on the way. -/
inductive Delivery
  | reply (r : Http.Reply)
  | lost (cause : AnyError)

/-- The answer that a delivery brings. -/
def Delivery.answer (alpha : Bool) (e : Endpoint) : Delivery → Except Error e.Answer
  | .reply r => e.answer alpha r
  | .lost cause => .error (.transport cause)

/-- What comes of a call, and the requests that were sent for it. -/
structure Exchange (α : Type) where
  result : Except Error α
  sent : List Http.Request

namespace Client

/-- Makes a call, without regard to what is kept. `d` is what becomes of its request. -/
def exchange (c : Client) (call : Call) (d : Delivery) : Exchange call.endpoint.Answer :=
  match c.prepare call with
  | .ok request => ⟨d.answer c.alpha call.endpoint, [request]⟩
  | .error e => ⟨.error e, []⟩

/-! ## The catalog -/

/-- What a client sees of a catalog. -/
def prune (c : Client) (catalog : Catalog) : Catalog :=
  catalog.pruned c.version c.alpha

/-- Makes a call for the catalog. A catalog that is kept is not asked for again. What is kept is never
pruned, so clients of different versions can share it. No fault of the cache reaches the caller. -/
def getCatalog (c : Client) (health : Cache.Health) (cache : Cache) (d : Delivery) :
    Exchange Catalog × Cache :=
  match if c.keepsCatalog then health.read.find cache else none with
  | some catalog => (⟨.ok (c.prune catalog), []⟩, cache)
  | none =>
    let fetch := c.exchange ⟨.getCatalog, ()⟩ d
    match fetch.result with
    | .ok catalog =>
      (⟨.ok (c.prune catalog), fetch.sent⟩, if c.keepsCatalog then cache.keep health.writable catalog else cache)
    | .error e => (⟨.error e, fetch.sent⟩, cache)

/-- Makes a call. `d` is what becomes of its request, if one is sent. -/
def perform (c : Client) (health : Cache.Health) (cache : Cache) (call : Call) (d : Delivery) :
    Exchange call.endpoint.Answer × Cache :=
  match call with
  | ⟨.getCatalog, ()⟩ => c.getCatalog health cache d
  | call => (c.exchange call d, cache)

end Client

end ServiceBroker
