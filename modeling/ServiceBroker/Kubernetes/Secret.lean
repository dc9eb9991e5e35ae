/-
Configurations that a cluster keeps as secrets. A secret is asked for by namespace and name; its data
are bytes by key, of which four matter: `url`, `username`, `password` and `token`.
-/
import ServiceBroker.Config
import ServiceBroker.Http.Status

namespace ServiceBroker.Kubernetes

open Json (Node Members Items Fault)

/-! ## Reading objects of the API -/

/-- The fault of a value that should be an object of the API. A list is entered before it is refused. -/
def notResource (expected : String) : Node → Fault
  | .array _ (.close stop) => ⟨.wrongType .sequence expected, stop⟩
  | .array _ (.item next _ _) => ⟨.wrongType .sequence expected, next - 1⟩
  | .array _ (.broken kept _ _) => ⟨.wrongType .sequence expected, kept.offset⟩
  | node => node.mistyped expected

/-- Reads a text. -/
def readText : Node → Except Fault String
  | .text (.ok s) _ => .ok s
  | node => .error (node.mistyped "a string")

/-- Reads a truth value. -/
def readBool : Node → Except Fault Bool
  | .bool b _ => .ok b
  | node => .error (node.mistyped "a boolean")

/-- Reads a number of 64 bits with a sign. -/
def readInteger : Node → Except Fault Int
  | .number (.ok (.integer i fits)) stop =>
    if i < 0x8000000000000000 then .ok i else .error ⟨.wrongValue (.number (.integer i fits)) "i64", stop⟩
  | node => .error (node.mistyped "i64")

/-- Reads bytes in Base64. Nothing stands for no bytes. -/
def readBytes : Node → Except Fault (List UInt8)
  | .null _ => .ok []
  | .text (.ok s) stop => (Base64.decode (Utf8.encode s)).mapError fun f => ⟨.refused f.message, stop⟩
  | node => .error (node.mistyped "a base64-encoded string")

/-- Reads a value or `null`. -/
def readOption (read : Node → Except Fault α) : Node → Except Fault (Option α)
  | .null _ => .ok none
  | node => (read node).map some

/-- Passes over a value. -/
def skip (node : Node) : Except Fault Unit :=
  match node.skipFault? with
  | some f => .error f
  | none => .ok ()

/-- Reads a list. -/
def readList (read : Node → Except Fault α) : Node → Except Fault (List α)
  | .array _ items => items.collect read
  | node => .error (node.mistyped "a sequence")

/-- The entries of a map. Of two with one key the later one counts. -/
def collectMap (read : Node → Except Fault α) : Members → List (String × α) → Except Fault (List (String × α))
  | .close _, entries => .ok entries
  | .member (.ok name) _ value _ rest, entries => do
    let a ← read value
    collectMap read rest ((name, a) :: entries.filter (·.1 != name))
  | .member (.error f) _ _ _ _, _ => .error f
  | .broken kept _, _ => .error kept

/-- Reads a map. -/
def readMap (read : Node → Except Fault α) : Node → Except Fault (List (String × α))
  | .object _ members => collectMap read members []
  | node => .error (node.mistyped "a map")

/-- Reads the members of an object one after another. `take` gets what has been read so far, a name, a
value, and where reading stands behind that value. -/
def readMembers (take : σ → String → Node → Nat → Except Fault σ) : Members → σ → Except Fault σ
  | .close _, s => .ok s
  | .member (.ok name) _ value behind rest, s => do
    let s ← take s name value behind
    readMembers take rest s
  | .member (.error f) _ _ _ _, _ => .error f
  | .broken kept _, _ => .error kept

/-! ## Secrets -/

/-- The form of each kind of entry in an object's metadata. Nothing of it is kept. -/
def checkMetadataEntry (name : String) (value : Node) : Except Fault Unit :=
  if ["creationTimestamp", "deletionTimestamp", "generateName", "name", "namespace", "resourceVersion", "selfLink",
      "uid"].contains name then (readOption readText value).map fun _ => ()
  else if ["annotations", "labels"].contains name then (readOption (readMap readText) value).map fun _ => ()
  else if ["deletionGracePeriodSeconds", "generation"].contains name then
    (readOption readInteger value).map fun _ => ()
  else if name = "finalizers" then (readOption (readList readText) value).map fun _ => ()
  else if ["managedFields", "ownerReferences"].contains name then
    (readOption (readList skip) value).map fun _ => ()
  else skip value

/-- Checks an object's metadata. -/
def checkMetadata : Node → Except Fault Unit
  | .object _ members => readMembers (fun () name value _ => checkMetadataEntry name value) members ()
  | node => .error (notResource "ObjectMeta" node)

/-- What a secret holds: bytes by key, if there are any. -/
structure Secret where
  data : Option (List (String × List UInt8))
deriving DecidableEq, Repr

namespace Secret

/-- Checks that an object is of the wanted version and kind. -/
def checkTag (wanted : String) (value : Node) (behind : Nat) : Except Fault Unit := do
  let s ← readText value
  if s ≠ wanted then throw ⟨.wrongValue (.text s) wanted, behind⟩

/-- Reads a member of a secret. A member that comes again counts again, and unknown ones are skipped. -/
def take (s : Secret) (name : String) (value : Node) (behind : Nat) : Except Fault Secret := do
  if name = "apiVersion" then
    checkTag "v1" value behind
    return s
  else if name = "kind" then
    checkTag "Secret" value behind
    return s
  else if name = "data" then
    return { s with data := ← readOption (readMap readBytes) value }
  else
    if name = "immutable" then
      let _ ← readOption readBool value
    else if name = "metadata" then
      let _ ← readOption checkMetadata value
    else if name = "stringData" then
      let _ ← readOption (readMap readText) value
    else if name = "type" then
      let _ ← readOption readText value
    else skip value
    return s

/-- Reads a secret. -/
def read : Node → Except Fault Secret
  | .object _ members => readMembers take members ⟨none⟩
  | node => .error (notResource "Secret" node)

/-- The path under which the API has a secret. -/
def path («namespace» name : String) : String :=
  "/api/v1/namespaces/" ++ «namespace» ++ "/secrets/" ++ name

/-- The target of the question for a secret. -/
def target («namespace» name : String) : Except Error String :=
  if name.isEmpty then .error .unnamed
  else (Http.target (path «namespace» name)).mapError .unbuildable

end Secret

/-! ## Replies -/

/-- What the API answers, or why it was not heard. -/
inductive Delivery
  | reply (status : Nat) (body : List UInt8)
  | lost (message : String) (sources : List String)
deriving DecidableEq, Repr

/-- The failure that a reply reports. One that says nothing that can be read is reported as its text. -/
def failure (status : Nat) (text : String) : Status :=
  match Status.shape.decode (Utf8.encode text) with
  | .ok s => s
  | .error _ =>
    ⟨Http.describeFailure status, Quoted.quote text, "Failed to parse error data", UInt16.ofNat status⟩

/-- The secret that a delivery brings. -/
def Delivery.secret : Delivery → Except Error Secret
  | .lost message sources => .error (.service message sources)
  | .reply status body => do
    let text ← (Utf8.decode body).mapError .notText
    if Http.isFailureStatus status then throw (.api (failure status text))
    (Json.decodeWith Secret.read body).mapError .undecodable

/-! ## Configurations -/

/-- The text under a key, without blanks around it. -/
def Secret.text? (data : List (String × List UInt8)) (name key : String) :
    Except ConfigFault (Option String) :=
  match data.lookup key with
  | none => .ok none
  | some bytes =>
    match Utf8.decode bytes with
    | .ok s => .ok (some (trimBlank s))
    | .error f => .error (.secretNotText key name f)

/-- The configuration that a secret holds. All four keys are read, needed or not. -/
def Secret.config (s : Secret) («namespace» name : String) : Except ConfigFault Config := do
  let some data := s.data | throw (.secretWithoutData «namespace» name)
  let some url ← text? data name "url" | throw (.secretWithoutKey «namespace» name "url")
  let username ← text? data name "username"
  let password ← text? data name "password"
  let token ← text? data name "token"
  return { Config.ofUrl url with
    name := «namespace» ++ "/" ++ name
    auth := Auth.choose username password token }

/-- What is asked of the API. -/
structure Question where
  method : Http.Method
  target : String
deriving DecidableEq, Repr

/-- Loads a configuration from a cluster: the result, and what was asked for. -/
def loadConfig («namespace» name : String) (d : Delivery) :
    Except ServiceBroker.Error Config × List Question :=
  match Secret.target «namespace» name with
  | .error e => (.error (.kubernetes e), [])
  | .ok target =>
    (match d.secret with
      | .error e => .error (.kubernetes e)
      | .ok s => (s.config «namespace» name).mapError .config, [⟨.get, target⟩])

end ServiceBroker.Kubernetes
