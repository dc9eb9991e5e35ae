/-
What a client needs to talk to a broker, and reading it from environment variables.
-/
import ServiceBroker.Error
import ServiceBroker.Text.Base64

namespace ServiceBroker

/-! ## Credentials -/

/-- Credentials presented with every request. -/
inductive Auth
  | basic (username password : String)
  | bearer (token : String)
deriving DecidableEq, Repr

/-- The credentials as the authorization header carries them. -/
def Auth.header : Auth → String
  | .basic username password => "Basic " ++ Base64.encodeText (username ++ ":" ++ password)
  | .bearer token => "Bearer " ++ token

/-- The credentials as they may be shown: without the secret. -/
def Auth.describe : Auth → String
  | .basic username _ =>
    "Basic \x7b username: " ++ Quoted.quote username ++ ", password: \"<redacted>\" \x7d"
  | .bearer _ => "Bearer \x7b token: \"<redacted>\" \x7d"

/-- The credentials that a user name, a password and a token make. A name with a password comes before
a token. -/
def Auth.choose : (username password token : Option String) → Option Auth
  | some username, some password, _ => some (.basic username password)
  | _, _, some token => some (.bearer token)
  | _, _, none => none

/-! ## Configuration -/

/-- How to talk to a broker. The timeout counts seconds. -/
structure Config where
  name : String
  url : String
  version : Version
  auth : Option Auth
  alpha : Bool
  timeout : Option UInt64
  healthEndpoint : Option String
  keepsCatalog : Bool
deriving DecidableEq, Repr

/-- The configuration that a URL alone makes: the newest version, no credentials, no alpha features. -/
def Config.ofUrl (url : String) : Config where
  name := "osb-client"
  url := url
  version := .latest
  auth := none
  alpha := false
  timeout := none
  healthEndpoint := none
  keepsCatalog := false

/-- The version with a label. -/
def Version.parse (label : String) : Except Error Version :=
  match Version.parse? label with
  | some v => .ok v
  | none => .error (.config (.unknownVersion label))

/-! ## Environment -/

/-- The texts of the variables that are set. -/
structure Environment where
  brokerUrl : Option String := none
  apiVersion : Option String := none
  username : Option String := none
  password : Option String := none
  bearerToken : Option String := none
  enableAlpha : Option String := none
  timeoutSecs : Option String := none
  healthEndpoint : Option String := none
deriving DecidableEq, Repr

/-- The environment as the variables give it. -/
def Environment.ofVariables (get? : String → Option String) : Environment where
  brokerUrl := get? "OSB_BROKER_URL"
  apiVersion := get? "OSB_API_VERSION"
  username := get? "OSB_USERNAME"
  password := get? "OSB_PASSWORD"
  bearerToken := get? "OSB_BEARER_TOKEN"
  enableAlpha := get? "OSB_ENABLE_ALPHA_FEATURES"
  timeoutSecs := get? "OSB_TIMEOUT_SECS"
  healthEndpoint := get? "OSB_HEALTH_ENDPOINT"

/-- Why the environment makes no configuration. -/
inductive Environment.Fault
  | noUrl
  | version (text : String) (error : ConfigFault)
  | timeout (text : String) (fault : Numeral.Fault)
deriving DecidableEq, Repr

/-- The wording of a fault, and of what it came from. -/
def Environment.Fault.chain : Environment.Fault → List String
  | .noUrl => ["OSB_BROKER_URL environment variable not set", "environment variable not found"]
  | .version text fault =>
    s!"OSB_API_VERSION has unsupported value {text}" :: (Error.config fault).chain
  | .timeout text fault => [s!"OSB_TIMEOUT_SECS is not a number: {text}", fault.message]

/-- The version that a variable names; the newest if it is not set. -/
def Environment.readVersion : Option String → Except Environment.Fault Version
  | none => .ok .latest
  | some text =>
    match Version.parse? text with
    | some v => .ok v
    | none => .error (.version text (.unknownVersion text))

/-- The timeout that a variable names, if it is set. -/
def Environment.readTimeout : Option String → Except Environment.Fault (Option UInt64)
  | none => .ok none
  | some text =>
    match Numeral.read 0x10000000000000000 text with
    | .ok n => .ok (some (UInt64.ofNat n))
    | .error f => .error (.timeout text f)

/-- The configuration that the environment makes. -/
def Config.ofEnvironment (env : Environment) : Except Environment.Fault Config := do
  let some url := env.brokerUrl | throw .noUrl
  let version ← Environment.readVersion env.apiVersion
  let timeout ← Environment.readTimeout env.timeoutSecs
  return { Config.ofUrl url with
    version := version
    auth := Auth.choose env.username env.password env.bearerToken
    alpha := env.enableAlpha == some "true"
    timeout := timeout
    healthEndpoint := env.healthEndpoint }

end ServiceBroker
