/-
The keys of operations. A broker that accepts a call for later hands out a key: what the body of its reply says
of the operation, else the location, else nothing (`Hands`). A question about the operation that is asked with
the key holds it unchanged, whatever characters it has; an empty key is not sent (`key_perform`).
-/
import ServiceBroker.Proofs.Classification
import ServiceBroker.Proofs.Confinement
import ServiceBroker.Proofs.Json.Origin

namespace ServiceBroker

open Json (Content Shape Fields SpellsDocument contentsOf contentsBut)

/-! ## Locations -/

/-- The first header with the name of a location has this text, which is printable ASCII with spaces and tabs. -/
def Http.Reply.Locates (r : Http.Reply) (text : String) : Prop :=
  ∃ before name after, r.headers = before ++ (name, Utf8.encode text) :: after ∧ name.toLower = "location" ∧
    (∀ h ∈ before, h.1.toLower ≠ "location") ∧ ∀ c ∈ text.toList, c = '\t' ∨ (32 ≤ c.toNat ∧ c.toNat < 127)

namespace Http

theorem isHeaderText_iff (b : UInt8) : isHeaderText b = true ↔ b = 9 ∨ (32 ≤ b.toNat ∧ b.toNat < 127) := by
  simp only [isHeaderText, Bool.or_eq_true, Bool.and_eq_true, decide_eq_true_eq, UInt8.le_iff_toNat_le,
    UInt8.lt_iff_toNat_lt, or_comm]
  rfl

theorem encode_ofList_map {value : List UInt8} (h : ∀ b ∈ value, b.toNat < 128) :
    Utf8.encode (String.ofList (value.map fun b => Char.ofNat b.toNat)) = value := by
  unfold Utf8.encode
  rw [String.toList_ofList]
  induction value with
  | nil => rfl
  | cons b value ih =>
    obtain ⟨hb, hvalue⟩ := List.forall_mem_cons.1 h
    rw [List.map_cons, List.flatMap_cons, Utf8.utf8EncodeChar_one hb, ih hvalue]
    rfl

theorem encode_eq_map {text : String} (h : ∀ c ∈ text.toList, c.toNat < 128) :
    Utf8.encode text = text.toList.map fun c => UInt8.ofNat c.toNat := by
  unfold Utf8.encode
  generalize text.toList = cs at h ⊢
  induction cs with
  | nil => rfl
  | cons c cs ih =>
    obtain ⟨hc, hcs⟩ := List.forall_mem_cons.1 h
    have hbyte : (UInt8.ofNat c.toNat).toNat = c.toNat := Utf8.toNat_ofNat_of_lt (by omega)
    have hone : String.utf8EncodeChar (Char.ofNat (UInt8.ofNat c.toNat).toNat) = [UInt8.ofNat c.toNat] :=
      Utf8.utf8EncodeChar_one (by omega)
    rw [hbyte, Char.ofNat_toNat] at hone
    rw [List.flatMap_cons, hone, ih hcs, List.map_cons, List.singleton_append]

/-- What is read from the value of a header is the text that these bytes are, if it is printable. -/
theorem headerText_iff {value : List UInt8} {text : String} :
    (value.all isHeaderText = true ∧ String.ofList (value.map fun b => Char.ofNat b.toNat) = text) ↔
      value = Utf8.encode text ∧ ∀ c ∈ text.toList, c = '\t' ∨ (32 ≤ c.toNat ∧ c.toNat < 127) := by
  constructor
  · rintro ⟨hall, rfl⟩
    have hbytes : ∀ b ∈ value, b = 9 ∨ (32 ≤ b.toNat ∧ b.toNat < 127) := fun b hb =>
      (isHeaderText_iff b).1 (List.all_eq_true.1 hall b hb)
    have hascii : ∀ b ∈ value, b.toNat < 128 := by
      intro b hb
      rcases hbytes b hb with rfl | hb
      · decide
      · omega
    refine ⟨(encode_ofList_map hascii).symm, fun c hc => ?_⟩
    rw [String.toList_ofList] at hc
    obtain ⟨b, hb, rfl⟩ := List.mem_map.1 hc
    rcases hbytes b hb with rfl | hrange
    · exact .inl rfl
    · rw [Percent.toNat_ofNat_of_lt (hascii b hb)]
      exact .inr hrange
  · rintro ⟨rfl, hchars⟩
    have hascii : ∀ c ∈ text.toList, c.toNat < 128 := by
      intro c hc
      rcases hchars c hc with rfl | hc
      · decide
      · omega
    have hbyte : ∀ c ∈ text.toList, (UInt8.ofNat c.toNat).toNat = c.toNat := by
      intro c hc
      have hlt := hascii c hc
      exact Utf8.toNat_ofNat_of_lt (by omega)
    rw [encode_eq_map hascii]
    constructor
    · rw [List.all_map, List.all_eq_true]
      intro c hc
      refine (isHeaderText_iff _).2 ?_
      rw [hbyte c hc]
      rcases hchars c hc with rfl | hrange
      · exact .inl rfl
      · exact .inr hrange
    · rw [List.map_map, List.map_congr_left (g := id), List.map_id, String.ofList_toList]
      intro c hc
      rw [Function.comp_apply, hbyte c hc, Char.ofNat_toNat, id_eq]

theorem header?_eq_some_iff {r : Reply} {name text : String} :
    r.header? name = some text ↔ ∃ h, r.headers.find? (·.1.toLower == name) = some h ∧
      h.2.all isHeaderText = true ∧ String.ofList (h.2.map fun b => Char.ofNat b.toNat) = text := by
  unfold Reply.header?
  cases r.headers.find? (·.1.toLower == name) with
  | none => simp
  | some h => simp

theorem header?_location_eq_some_iff (r : Reply) (text : String) :
    r.header? "location" = some text ↔ r.Locates text := by
  rw [header?_eq_some_iff]
  simp only [headerText_iff, List.find?_eq_some_iff_append]
  constructor
  · rintro ⟨⟨name, _⟩, ⟨hname, before, after, hheaders, hbefore⟩, rfl, hchars⟩
    exact ⟨before, name, after, hheaders, by simpa using hname, fun h hh => by simpa using hbefore h hh, hchars⟩
  · rintro ⟨before, name, after, hheaders, hname, hbefore, hchars⟩
    exact ⟨(name, Utf8.encode text),
      ⟨by simpa using hname, before, after, hheaders, fun h hh => by simpa using hbefore h hh⟩, rfl, hchars⟩

end Http

/-! ## What a body says of the operation -/

/-- The item of an array at a place says a text, or there is no such item and no text. -/
def Json.Content.SaysAt (items : List Content) (place : Nat) (text : Option String) : Prop :=
  items[place]? = some (.ofText? text) ∨ (items[place]? = none ∧ text = none)

namespace Endpoint

/-- Where the key stands in a body that lists its fields. -/
def keyPlace : Endpoint → Nat
  | deprovisionInstance | unbind => 0
  | bind => 5
  | _ => 1

/-- A content says the key of an operation: an object in the member of that name, and an array in its place. -/
inductive KeySaid (e : Endpoint) : Content → Option String → Prop
  | object {contents text} : Content.Says contents "operation" text → KeySaid e (.object contents) text
  | array {items text} : Content.SaysAt items e.keyPlace text → KeySaid e (.array items) text

/-- The key that a body decodes to, as the body of a call that was accepted for later. -/
def decodedKey : Endpoint → List UInt8 → Except Json.Error (Option OperationKey)
  | provisionInstance, body | updateInstance, body => (InstanceBody.shape.decode body).map InstanceBody.operation
  | deprovisionInstance, body | unbind, body => (AcceptedBody.shape.decode body).map AcceptedBody.operation
  | bind, body => (BindingBody.shape.decode body).map BindingBody.operation
  | _, _ => .ok none

/-- What a body says of the operation: nothing if it is left out, else what it decodes to, which is what the document
says, however it is written. -/
inductive SaysKey (e : Endpoint) (body : List UInt8) : Option String → Prop
  | vacant : Vacant body → SaysKey e body none
  | decoded {text} : ¬ Vacant body → e.decodedKey body = .ok (text.map OperationKey.mk) →
      (∀ content said, SpellsDocument body content → e.KeySaid content said → said = text) → SaysKey e body text

/-- The key in an answer. -/
def answerKey : (e : Endpoint) → e.Answer → Option OperationKey
  | provisionInstance, a => a.operationKey
  | updateInstance, a => a.operationKey
  | deprovisionInstance, a => a.operationKey
  | bind, a => a.operationKey
  | unbind, a => a.operationKey
  | _, _ => none

end Endpoint

/-- The key that a reply hands out: what the body says, else the location, else nothing. -/
inductive Http.Reply.Hands (r : Http.Reply) : Option String → String → Prop
  | said (text) : Hands r (some text) text
  | located {text} : r.Locates text → Hands r none text
  | blank : (∀ text, ¬ r.Locates text) → Hands r none ""

theorem reads_key? (budget : Nat) (text : Option String) :
    (Shape.option OperationKey.shape).Reads budget (.ofText? text) (text.map OperationKey.mk) := by
  cases text with
  | none => exact Json.reads_none budget _
  | some s => exact Json.reads_some (Json.reads_view (Json.reads_text budget s) rfl) (by simp [Json.Content.ofText?])

theorem Json.Content.SaysAt.tail {items : List Content} {place : Nat} {text : Option String}
    (h : Content.SaysAt items (place + 1) text) : Content.SaysAt items.tail place text := by
  unfold Content.SaysAt at *
  rwa [List.getElem?_tail]

section Fields

variable {budget : Nat} {rest : Fields ρ σ} {contents : List (String × Content)} {items : List Content}
  {key : Option OperationKey} {r : ρ} {text : Option String}

theorem key_of_filledFrom
    (h : (Fields.optional "operation" OperationKey.shape rest).FilledFrom budget contents (key, r))
    (hs : Content.Says contents "operation" text) : key = text.map OperationKey.mk := by
  rcases h.1 with ⟨content, hone, hgives⟩ | ⟨habsent, hp⟩
  · rcases hs with hc | ⟨hc, _⟩ <;> rw [hone] at hc
    · obtain ⟨rfl, _⟩ := List.cons.inj hc
      exact hgives.eq (reads_key? budget text)
    · cases hc
  · rcases hs with hc | ⟨_, rfl⟩
    · rw [habsent] at hc
      cases hc
    · exact (Option.some.inj hp).symm

theorem key_of_listedFrom (h : (Fields.optional "operation" OperationKey.shape rest).ListedFrom budget items (key, r))
    (hs : Content.SaysAt items 0 text) : key = text.map OperationKey.mk := by
  unfold Content.SaysAt at hs
  rw [← List.head?_eq_getElem?] at hs
  rcases h.1 with ⟨content, hhead, hgives⟩ | ⟨rfl, hp⟩
  · rcases hs with hc | ⟨hc, _⟩ <;> rw [hhead] at hc
    · obtain rfl := Option.some.inj hc
      exact hgives.eq (reads_key? budget text)
    · cases hc
  · rcases hs with hc | ⟨_, rfl⟩
    · cases hc
    · exact (Option.some.inj hp).symm

end Fields

section Bodies

variable {e : Endpoint} {budget : Nat} {content : Content} {text : Option String}

theorem InstanceBody.key_of_gives {b : InstanceBody} (he : e.keyPlace = 1)
    (h : InstanceBody.shape.Gives budget content b) (hs : e.KeySaid content text) :
    b.operation = text.map OperationKey.mk := by
  obtain ⟨⟨dashboardUrl, key, _⟩, hr, rfl⟩ := Json.gives_of_gives_view h
  cases hs with
  | object hs =>
    obtain ⟨_, hf⟩ := Json.filledFrom_of_gives (by decide) hr
    exact key_of_filledFrom hf.2 (hs.but (by decide))
  | array hs =>
    rw [he] at hs
    obtain ⟨_, hl⟩ := Json.listedFrom_of_gives hr
    exact key_of_listedFrom hl.2 hs.tail

theorem AcceptedBody.key_of_gives {b : AcceptedBody} (he : e.keyPlace = 0)
    (h : AcceptedBody.shape.Gives budget content b) (hs : e.KeySaid content text) :
    b.operation = text.map OperationKey.mk := by
  obtain ⟨⟨key, _⟩, hr, rfl⟩ := Json.gives_of_gives_view h
  cases hs with
  | object hs =>
    obtain ⟨_, hf⟩ := Json.filledFrom_of_gives (by decide) hr
    exact key_of_filledFrom hf hs
  | array hs =>
    rw [he] at hs
    obtain ⟨_, hl⟩ := Json.listedFrom_of_gives hr
    exact key_of_listedFrom hl hs

theorem BindingBody.key_of_gives {b : BindingBody} (he : e.keyPlace = 5) (h : BindingBody.shape.Gives budget content b)
    (hs : e.KeySaid content text) : b.operation = text.map OperationKey.mk := by
  obtain ⟨⟨credentials, syslogDrainUrl, routeServiceUrl, volumeMounts, parameters, key, _⟩, hr, rfl⟩ :=
    Json.gives_of_gives_view h
  cases hs with
  | object hs =>
    obtain ⟨_, hf⟩ := Json.filledFrom_of_gives (by decide) hr
    exact key_of_filledFrom hf.2.2.2.2.2
      (((((hs.but (by decide)).but (by decide)).but (by decide)).but (by decide)).but (by decide))
  | array hs =>
    rw [he] at hs
    obtain ⟨_, hl⟩ := Json.listedFrom_of_gives hr
    exact key_of_listedFrom hl.2.2.2.2.2 hs.tail.tail.tail.tail.tail

/-- A body that decodes says of the operation what it decodes to. -/
theorem Endpoint.key_of_decodedKey {body : List UInt8} {key : Option OperationKey} (he : 202 ∈ e.grants true)
    (h : e.decodedKey body = .ok key) (hb : SpellsDocument body content) (hs : e.KeySaid content text) :
    key = text.map OperationKey.mk := by
  have hmap {β : Type} {shape : Shape β} {f : β → Option OperationKey} (h : (shape.decode body).map f = .ok key) :
      ∃ b, shape.Gives Json.maxDepth content b ∧ f b = key := by
    obtain ⟨b, hd, hkey⟩ := map_eq_ok_iff.1 h
    exact ⟨b, Json.gives_of_decode hd hb, hkey⟩
  cases e with
  | provisionInstance | updateInstance =>
    obtain ⟨b, hb, rfl⟩ := hmap h
    exact b.key_of_gives rfl hb hs
  | deprovisionInstance | unbind =>
    obtain ⟨b, hb, rfl⟩ := hmap h
    exact b.key_of_gives rfl hb hs
  | bind =>
    obtain ⟨b, hb, rfl⟩ := hmap h
    exact b.key_of_gives rfl hb hs
  | getCatalog | getInstance | listInstances | getOperation | getBinding | checkAvailability =>
    exact absurd he (by decide)

end Bodies

/-! ## Handing out -/

theorem Http.Reply.hands_operationKey (r : Http.Reply) (said : Option String) :
    r.Hands said (r.operationKey (said.map OperationKey.mk)).text := by
  unfold operationKey
  cases said with
  | some text => exact .said text
  | none =>
    cases hl : r.header? "location" with
    | some text => exact .located ((Http.header?_location_eq_some_iff r text).1 hl)
    | none =>
      refine .blank fun text ht => ?_
      rw [(Http.header?_location_eq_some_iff r text).2 ht] at hl
      cases hl

/-- A body that may be left out is read if it is not. -/
theorem Endpoint.decodeOr_eq_ok_iff {r : Http.Reply} {shape : Shape α} {blank a : α} :
    r.decodeOr blank shape = .ok a ↔
      (Vacant r.body ∧ a = blank) ∨ (¬ Vacant r.body ∧ shape.decode r.body = .ok a) := by
  rw [← isBlankBody_iff]
  unfold Http.Reply.decodeOr Http.Reply.decode
  split_ifs with hv
  · simp [hv, eq_comm]
  · simp [hv, mapError_eq_ok_iff]

/-- The answer to a call that was accepted for later holds the key. -/
theorem Endpoint.answerKey_of_accepted {e : Endpoint} {alpha : Bool} {r : Http.Reply} {answer : e.Answer}
    (hg : 202 ∈ e.grants alpha) (hs : r.status = 202) (ha : e.answer alpha r = .ok answer) :
    ∃ key, e.answerKey answer = some (r.operationKey key) ∧
      ((Vacant r.body ∧ key = none) ∨ (¬ Vacant r.body ∧ e.decodedKey r.body = .ok key)) := by
  have hread {β : Type} {shape : Shape β} {blank : β} {f : β → Option OperationKey} {g : β → e.Answer}
      (ha : (r.decodeOr blank shape).map g = .ok answer) (hblank : f blank = none)
      (hg : ∀ b, e.answerKey (g b) = some (r.operationKey (f b)))
      (hk : e.decodedKey r.body = (shape.decode r.body).map f) :
      ∃ key, e.answerKey answer = some (r.operationKey key) ∧
        ((Vacant r.body ∧ key = none) ∨ (¬ Vacant r.body ∧ e.decodedKey r.body = .ok key)) := by
    obtain ⟨b, hb, rfl⟩ := map_eq_ok_iff.1 ha
    refine ⟨_, hg b, ?_⟩
    rcases decodeOr_eq_ok_iff.1 hb with ⟨hv, rfl⟩ | ⟨hv, hd⟩
    · exact .inl ⟨hv, hblank⟩
    · rw [hk, hd]
      exact .inr ⟨hv, rfl⟩
  unfold Endpoint.answer at ha
  rw [hs] at ha
  cases e with
  | provisionInstance => exact hread ha rfl (fun _ => rfl) rfl
  | updateInstance => exact hread ha rfl (fun _ => rfl) rfl
  | deprovisionInstance => exact hread ha rfl (fun _ => rfl) rfl
  | bind =>
    cases alpha with
    | false => exact absurd hg (by decide)
    | true => exact hread ha rfl (fun _ => rfl) rfl
  | unbind =>
    cases alpha with
    | false => exact absurd hg (by decide)
    | true => exact hread ha rfl (fun _ => rfl) rfl
  | getCatalog | getInstance | listInstances | getOperation | getBinding | checkAvailability =>
    exact absurd hg (by cases alpha <;> decide)

namespace Client

variable {c : Client} {health : Cache.Health} {cache : Cache} {call : Call} {r : Http.Reply}

theorem answer_of_result (he : call.endpoint ≠ .getCatalog) {answer : call.endpoint.Answer}
    (h : (c.perform health cache call (.reply r)).1.result = .ok answer) :
    call.endpoint.answer c.alpha r = .ok answer := by
  rw [perform_eq_exchange he] at h
  cases hp : c.prepare call with
  | error e =>
    unfold exchange at h
    rw [hp] at h
    cases h
  | ok request =>
    rw [result_exchange_of_prepare hp] at h
    exact h

/-- A question about an operation holds the key, unless it is empty. -/
theorem query_polling {q : OperationRequest} {key : OperationKey} (h : q.operationKey = some key) :
    parameter? "operation" ((q.operationKey.filter (!·.text.isEmpty)).map OperationKey.text) =
      if key.text = "" then [] else [("operation", key.text)] := by
  rw [h, Option.filter_some]
  by_cases hk : key.text = ""
  · rw [if_pos hk, hk]
    rfl
  · rw [if_neg hk, if_pos (by simpa using hk)]
    rfl

/-- A call that is accepted for later answers with a key: what the body says of the operation, else the location, else
nothing. Whoever asks for an operation with this key, of whatever instance or binding, sends the key as it is behind
what the query of the broker's URL and the ids of the service and the plan say; an empty key is not sent. -/
theorem key_perform (c : Client) (health : Cache.Health) (cache : Cache) (call : Call) (r : Http.Reply)
    (answer : call.endpoint.Answer) (hg : 202 ∈ call.endpoint.grants c.alpha) (hs : r.status = 202)
    (hr : (c.perform health cache call (.reply r)).1.result = .ok answer) :
    ∃ key said, call.endpoint.answerKey answer = some key ∧ call.endpoint.SaysKey r.body said ∧
      r.Hands said key.text ∧
      ∀ (config : Config) (poller : Client), ofConfig config = .ok poller →
        ∀ (health : Cache.Health) (cache : Cache) (q : OperationRequest) (d : Delivery) (request : Http.Request),
          q.operationKey = some key → request ∈ (poller.perform health cache ⟨.getOperation, q⟩ d).1.sent →
          request.pairs = poller.url.pairs ++ (parameter? "service_id" q.serviceId ++ parameter? "plan_id" q.planId ++
            if key.text = "" then [] else [("operation", key.text)]).map Percent.pairBytes := by
  have he : call.endpoint ≠ .getCatalog := by
    intro he
    rw [he] at hg
    exact absurd hg (by cases c.alpha <;> decide)
  obtain ⟨key, hkey, hsaid⟩ := Endpoint.answerKey_of_accepted hg hs (answer_of_result he hr)
  obtain ⟨said, rfl⟩ : ∃ said : Option String, said.map OperationKey.mk = key :=
    ⟨key.map OperationKey.text, by cases key <;> rfl⟩
  refine ⟨_, said, hkey, ?_, r.hands_operationKey said, ?_⟩
  · -- What the body decodes to is what every reading of the document says.
    rcases hsaid with ⟨hv, hk⟩ | ⟨hv, hk⟩
    · obtain rfl := Option.map_eq_none_iff.1 hk
      exact .vacant hv
    · refine .decoded hv hk fun content text hb hs => ?_
      have hgrants : 202 ∈ call.endpoint.grants true := by
        revert hg
        cases call.endpoint <;> cases c.alpha <;> simp [Endpoint.grants]
      have hkeys := Endpoint.key_of_decodedKey hgrants hk hb hs
      exact (Option.map_injective (fun _ _ h => congrArg OperationKey.text h) hkeys).symm
  · intro config poller hc health cache q d request hq hs
    have hne : Endpoint.getOperation ≠ .checkAvailability := by decide
    rw [pairs_prepare (separated_ofConfig hc) (unhashed_ofConfig hc) hne (prepare_of_mem_sent hs), ← query_polling hq]
    rfl

end Client

/-- An instance is asked for, now or later. -/
def Call.provisionLater : Call :=
  ⟨.provisionInstance, ⟨"i", true, "s", "p", "o", "t", none, none, none⟩⟩

/-- A reply that accepts a call for later, with a location and a key that has an ampersand in it. -/
def Http.Reply.acceptedKey : Http.Reply :=
  ⟨202, [("Location", Utf8.encode "/jobs/1")], Utf8.encode "\x7b\"operation\":\"a\\u0026b c\"\x7d"⟩

/-- The last operation on an instance is asked for with a key. -/
def Call.pollingKey (key : String) : Call :=
  ⟨.getOperation, ⟨"i", none, none, none, some ⟨key⟩⟩⟩

namespace Client

/-- An ampersand in a key does not end the pair that holds it. -/
theorem key_perform_ampersand :
    (loopback.perform ⟨.sound, true⟩ .empty .provisionLater (.reply .acceptedKey)).1.result =
      .ok ⟨true, none, some ⟨"a&b c"⟩⟩ ∧
    Http.Request.loopback .get "i/last_operation?operation=a%26b+c" ∈
      (loopback.perform ⟨.sound, true⟩ .empty (.pollingKey "a&b c") .blank).1.sent ∧
    (Http.Request.loopback .get "i/last_operation?operation=a%26b+c").pairs =
      loopback.url.pairs ++ [Percent.pairBytes ("operation", "a&b c")] := by
  have hresult : (loopback.perform ⟨.sound, true⟩ .empty .provisionLater (.reply .acceptedKey)).1.result =
      .ok ⟨true, none, some ⟨"a&b c"⟩⟩ := by
    refine (toOption_eq_some_iff (α := InstanceOutcome)).1 ?_
    decide +kernel
  have hs : Http.Request.loopback .get "i/last_operation?operation=a%26b+c" ∈
      (loopback.perform ⟨.sound, true⟩ .empty (.pollingKey "a&b c") .blank).1.sent := by decide +kernel
  obtain ⟨key, _, hkey, _, _, hpoll⟩ := key_perform loopback _ _ _ _ _ (by decide) rfl hresult
  obtain rfl := Option.some.inj hkey
  exact ⟨hresult, hs, hpoll _ _ ofConfig_loopback _ _ _ _ _ rfl hs⟩

end Client

end ServiceBroker
