/-
What the headers of a request tell. An identity is sent as the platform, a space and the description in Base64, which
has no space; so a platform with spaces does no harm, and the last space tells the two apart
(`OriginatingIdentity.readFrom_header`). A name and a password are sent in Base64 as one text.
-/
import ServiceBroker.Proofs.Paths
import ServiceBroker.Proofs.Text.Base64
import ServiceBroker.Proofs.Text.Joined

namespace ServiceBroker

/-! ## Bytes in Base64 -/

/-- A text is padded Base64 of the standard alphabet, and the given bytes are decoded from it. -/
structure Base64.Stands (text : String) (bytes : List UInt8) : Prop where
  padded : IsPadded text
  decoded : decode (Utf8.encode text) = .ok bytes

theorem Base64.stands_encode (bytes : List UInt8) : Stands (encode bytes) bytes :=
  ⟨isPadded_encode bytes, decode_encode bytes⟩

/-- A text stands for no other bytes. -/
theorem Base64.Stands.unique {text : String} {bytes bytes' : List UInt8} (h : Stands text bytes)
    (h' : Stands text bytes') : bytes = bytes' :=
  Except.ok.inj (h.decoded.symm.trans h'.decoded)

theorem Base64.Stands.no_space {text : String} {bytes : List UInt8} (h : Stands text bytes) : ' ' ∉ text.toList := by
  intro hspace
  rcases h.padded.mem hspace with h | h
  · exact absurd h (by decide)
  · exact absurd h (by decide)

/-! ## Identities -/

/-- A text cut at its last space. -/
structure CutAtLastSpace (text front back : String) : Prop where
  joined : text = front ++ " " ++ back
  last : ' ' ∉ back.toList

theorem CutAtLastSpace.unique {text front back front' back' : String} (h : CutAtLastSpace text front back)
    (h' : CutAtLastSpace text front' back') : front = front' ∧ back = back' := by
  have hlist : front.toList ++ ' ' :: back.toList = front'.toList ++ ' ' :: back'.toList := by
    have := congrArg String.toList (h.joined.symm.trans h'.joined)
    simpa [List.append_assoc] using this
  obtain ⟨hfront, hback⟩ := eq_of_append_cons_eq_of_back hlist h.last h'.last
  exact ⟨String.toList_inj.1 hfront, String.toList_inj.1 hback⟩

namespace OriginatingIdentity

variable {i j : OriginatingIdentity} {text : String}

/-- What an identity is read back from: the platform stands in front of the last space, and behind it the description
in Base64. -/
def ReadFrom (i : OriginatingIdentity) (text : String) : Prop :=
  ∃ encoded, CutAtLastSpace text i.platform encoded ∧ Base64.Stands encoded (Utf8.encode i.value)

theorem readFrom_header (i : OriginatingIdentity) : i.ReadFrom i.header := by
  have hstands := Base64.stands_encode (Utf8.encode i.value)
  exact ⟨_, ⟨rfl, hstands.no_space⟩, hstands⟩

/-- One identity at most is read from a text. -/
theorem ReadFrom.unique (h : i.ReadFrom text) (h' : j.ReadFrom text) : i = j := by
  obtain ⟨platform, value⟩ := i
  obtain ⟨platform', value'⟩ := j
  obtain ⟨encoded, hcut, hstands⟩ := h
  obtain ⟨encoded', hcut', hstands'⟩ := h'
  dsimp only at hcut hstands hcut' hstands'
  obtain ⟨rfl, rfl⟩ := hcut.unique hcut'
  obtain rfl := Utf8.encode_injective (hstands.unique hstands')
  rfl

theorem readFrom_header_iff : j.ReadFrom i.header ↔ j = i := by
  constructor
  · intro h
    exact h.unique i.readFrom_header
  · rintro rfl
    exact j.readFrom_header

theorem header_injective : Function.Injective header := by
  intro i j h
  have hi := i.readFrom_header
  rw [h] at hi
  exact hi.unique j.readFrom_header

end OriginatingIdentity

/-! ## Names and passwords -/

theorem Auth.stands_basic (username password : String) :
    ∃ encoded, (Auth.basic username password).header = "Basic " ++ encoded ∧
      Base64.Stands encoded (Utf8.encode username ++ Utf8.encode ":" ++ Utf8.encode password) := by
  refine ⟨Base64.encodeText (username ++ ":" ++ password), rfl, ?_⟩
  rw [← Utf8.encode_append, ← Utf8.encode_append]
  exact Base64.stands_encode _

/-! ## Requests -/

/-- The identity in the request of a call. Some calls have no place for one. -/
def Call.identity? : Call → Option OriginatingIdentity
  | ⟨.provisionInstance, r⟩ => r.originatingIdentity
  | ⟨.updateInstance, r⟩ => r.originatingIdentity
  | ⟨.deprovisionInstance, r⟩ => r.originatingIdentity
  | ⟨.bind, r⟩ => r.originatingIdentity
  | ⟨.unbind, r⟩ => r.originatingIdentity
  | _ => none

/-- The values of the headers of a name, in order. -/
def Http.Request.values (r : Request) (name : String) : List String :=
  (r.headers.filter (·.1 == name)).map Prod.snd

theorem Call.identity_draft (call : Call) (healthEndpoint : Option String) :
    (call.draft healthEndpoint).identity = call.identity? := by
  obtain ⟨endpoint, r⟩ := call
  cases endpoint <;> rfl

namespace Client

variable {c : Client} {call : Call} {request : Http.Request}

/-- The credentials and the identity have a header each, and no other header of theirs is sent. -/
theorem values_of_prepare (h : c.prepare call = .ok request) :
    request.values authHeader = (c.auth.map Auth.header).toList ∧
    request.values identityHeader = (call.identity?.map OriginatingIdentity.header).toList := by
  rw [((prepare_eq_ok_iff c call request).1 h).2.eq, ← call.identity_draft c.healthEndpoint]
  unfold Http.Request.values headers
  generalize call.draft c.healthEndpoint = d
  cases c.auth <;> cases d.identity <;> cases d.body <;> constructor <;> rfl

/-- An identity, and no other one, is read back from its header, so no two identities have the same; a name and a
password are read back as one text. A request that is sent carries the identity that it was made with, and the
credentials of its client, and none if there are none. -/
theorem headers_perform (c : Client) (health : Cache.Health) (cache : Cache) (call : Call) (d : Delivery) :
    (∀ i j : OriginatingIdentity, j.ReadFrom i.header ↔ j = i) ∧
    Function.Injective OriginatingIdentity.header ∧
    (∀ username password, ∃ encoded, (Auth.basic username password).header = "Basic " ++ encoded ∧
      Base64.Stands encoded (Utf8.encode username ++ Utf8.encode ":" ++ Utf8.encode password)) ∧
    ∀ request ∈ (c.perform health cache call d).1.sent,
      request.values identityHeader = (call.identity?.map OriginatingIdentity.header).toList ∧
      request.values authHeader = (c.auth.map Auth.header).toList := by
  refine ⟨fun i j => OriginatingIdentity.readFrom_header_iff, OriginatingIdentity.header_injective,
    Auth.stands_basic, ?_⟩
  intro request hs
  obtain ⟨hauth, hidentity⟩ := values_of_prepare (prepare_of_mem_sent hs)
  exact ⟨hidentity, hauth⟩

/-- A client whose name and password have colons. -/
def colons : Client :=
  { loopback with auth := some (.basic "a:" ":b") }

end Client

/-- An instance is to be removed on behalf of a user of a platform with spaces in its name. -/
def Call.removingFor (platform value : String) : Call :=
  ⟨.deprovisionInstance, ⟨"i", false, "s", "p", some ⟨platform, value⟩⟩⟩

/-- What is sent for it. -/
def Http.Request.removingFor : Request :=
  ⟨.delete, "http://[::1]/osb/v2/service_instances/i?service_id=s&plan_id=p",
    [("x-broker-api-version", "2.14"), ("accept", "application/json"), ("authorization", "Basic YTo6OmI="),
      ("x-broker-api-originating-identity", "my cloud e30=")], ""⟩

theorem Client.headers_perform_spaced :
    Http.Request.removingFor ∈
      (colons.perform ⟨.sound, true⟩ .empty (.removingFor "my cloud" "{}") .blank).1.sent ∧
    Http.Request.removingFor.values identityHeader = ["my cloud e30="] ∧
    Http.Request.removingFor.values authHeader = ["Basic YTo6OmI="] ∧
    OriginatingIdentity.ReadFrom ⟨"my cloud", "{}"⟩ "my cloud e30=" := by
  have hs : Http.Request.removingFor ∈
      (colons.perform ⟨.sound, true⟩ .empty (.removingFor "my cloud" "{}") .blank).1.sent := by decide +kernel
  obtain ⟨hread, -, -, hsent⟩ :=
    headers_perform colons ⟨.sound, true⟩ .empty (.removingFor "my cloud" "{}") .blank
  obtain ⟨hidentity, hauth⟩ := hsent _ hs
  have hheader : OriginatingIdentity.header ⟨"my cloud", "{}"⟩ = "my cloud e30=" := by decide +kernel
  refine ⟨hs, hidentity.trans ?_, hauth.trans ?_, hheader ▸ (hread _ _).2 rfl⟩
  · decide +kernel
  · decide +kernel

end ServiceBroker
