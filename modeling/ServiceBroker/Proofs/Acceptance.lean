/-
Calls that are accepted for later. An answer tells in three ways that the broker goes on working: it says so, it holds
the key to ask with, and it came with status 202; none of them is found without the others. Bindings are only accepted
for later if the client has alpha features, and then nothing that the body says of credentials gets through. What a
binding that is ready holds are the credentials of the body, as they are (`acceptance_perform`).
-/
import ServiceBroker.Proofs.Json.Meaning
import ServiceBroker.Proofs.OperationKeys

namespace ServiceBroker

open Json (Document Shape)

namespace Endpoint

/-- The calls that a broker may accept for later. -/
def deferring : List Endpoint :=
  [provisionInstance, updateInstance, deprovisionInstance, bind, unbind]

/-- The answer says that the broker goes on working. -/
def isLater : (e : Endpoint) → e.Answer → Bool
  | provisionInstance, a => a.isAsync
  | updateInstance, a => a.isAsync
  | deprovisionInstance, a => a.isAsync
  | bind, a => a.isAsync
  | unbind, a => a.isAsync
  | _, _ => false

/-- An answer says that the broker goes on working if it has a key, and if the status says so. -/
structure Marked (e : Endpoint) (status : Nat) (answer : e.Answer) : Prop where
  status : e.isLater answer = true ↔ status = 202
  key : e.isLater answer = true ↔ (e.answerKey answer).isSome = true

theorem Marked.done {e : Endpoint} {status : Nat} {answer : e.Answer} (hs : status ≠ 202)
    (hl : e.isLater answer = false) (hk : e.answerKey answer = none) : e.Marked status answer := by
  constructor
  · simp [hl, hs]
  · simp [hl, hk]

theorem Marked.later {e : Endpoint} {status : Nat} {answer : e.Answer} {key : OperationKey} (hs : status = 202)
    (hl : e.isLater answer = true) (hk : e.answerKey answer = some key) : e.Marked status answer := by
  constructor
  · simp [hl, hs]
  · simp [hl, hk]

variable {e : Endpoint} {alpha : Bool} {r : Http.Reply} {answer : e.Answer}

theorem mem_grants_of_answer (h : e.answer alpha r = .ok answer) : r.status ∈ e.grants alpha := by
  by_contra hg
  rw [answer_of_not_mem_grants hg] at h
  cases h

/-- A binding is ready, or is accepted for later by a client with alpha features. -/
theorem bind_cases {outcome : BindOutcome} (h : bind.answer alpha r = .ok outcome) :
    (r.status = 202 ∧ alpha = true ∧ ∃ body : BindingBody, outcome = body.accepted r) ∨
      (r.status ≠ 202 ∧
        ∃ body : BindingBody, r.decodeOr .blank BindingBody.shape = .ok body ∧ outcome = body.ready) := by
  have hg := mem_grants_of_answer h
  unfold Endpoint.answer at h
  cases alpha with
  | false =>
    simp only [grants, Bool.false_eq_true, if_false, List.mem_cons, List.not_mem_nil, or_false] at hg
    rcases hg with hs | hs <;> rw [hs] at h <;> obtain ⟨body, hd, rfl⟩ := map_eq_ok_iff.1 h <;>
      exact .inr ⟨by omega, body, hd, rfl⟩
  | true =>
    simp only [grants, if_true, List.mem_cons, List.not_mem_nil, or_false] at hg
    rcases hg with hs | hs | hs <;> rw [hs] at h <;> obtain ⟨body, hd, rfl⟩ := map_eq_ok_iff.1 h
    · exact .inr ⟨by omega, body, hd, rfl⟩
    · exact .inr ⟨by omega, body, hd, rfl⟩
    · exact .inl ⟨hs, rfl, body, rfl⟩

/-- Each status that grants one of these calls is answered in one of two ways. -/
theorem marked_of_answer (he : e ∈ deferring) (h : e.answer alpha r = .ok answer) : e.Marked r.status answer := by
  have hg := mem_grants_of_answer h
  simp only [deferring, List.mem_cons, List.not_mem_nil, or_false] at he
  rcases he with rfl | rfl | rfl | rfl | rfl
  · unfold Endpoint.answer at h
    simp only [grants, List.mem_cons, List.not_mem_nil, or_false] at hg
    rcases hg with hs | hs | hs <;> rw [hs] at h <;> obtain ⟨body, _, rfl⟩ := map_eq_ok_iff.1 h
    · exact .done (by omega) rfl rfl
    · exact .done (by omega) rfl rfl
    · exact .later hs rfl rfl
  · unfold Endpoint.answer at h
    simp only [grants, List.mem_cons, List.not_mem_nil, or_false] at hg
    rcases hg with hs | hs <;> rw [hs] at h <;> obtain ⟨body, _, rfl⟩ := map_eq_ok_iff.1 h
    · exact .done (by omega) rfl rfl
    · exact .later hs rfl rfl
  · unfold Endpoint.answer at h
    simp only [grants, List.mem_cons, List.not_mem_nil, or_false] at hg
    rcases hg with hs | hs | hs <;> rw [hs] at h
    · obtain rfl := Except.ok.inj h
      exact .done (by omega) rfl rfl
    · obtain ⟨body, _, rfl⟩ := map_eq_ok_iff.1 h
      exact .later hs rfl rfl
    · obtain rfl := Except.ok.inj h
      exact .done (by omega) rfl rfl
  · rcases bind_cases h with ⟨hs, _, body, rfl⟩ | ⟨hs, body, _, rfl⟩
    · exact .later hs rfl rfl
    · exact .done hs rfl rfl
  · unfold Endpoint.answer at h
    by_cases hs : r.status = 202
    · rw [hs] at h hg
      cases alpha with
      | false => exact absurd hg (by decide)
      | true =>
        obtain ⟨body, _, rfl⟩ := map_eq_ok_iff.1 h
        exact .later hs rfl rfl
    · have hfixed : r.status = 200 ∨ r.status = 410 := by
        cases alpha <;> simp [grants, hs] at hg <;> exact hg
      rcases hfixed with hs' | hs' <;> rw [hs'] at h <;> obtain rfl := Except.ok.inj h <;> exact .done hs rfl rfl

/-- Without alpha features, no status grants a binding for later. -/
theorem alpha_of_grants (he : e = bind ∨ e = unbind) (h : 202 ∈ e.grants alpha) : alpha = true := by
  cases alpha with
  | true => rfl
  | false => rcases he with rfl | rfl <;> exact absurd h (by decide)

end Endpoint

/-! ## Credentials -/

/-- The credentials of a body that is read are those that the document says, if any. -/
theorem BindingBody.saysIfAny_credentials {r : Http.Reply} {body : BindingBody}
    (h : r.decodeOr .blank shape = .ok body) :
    (Document.ofBytes r.body).root.SaysIfAny "credentials" 0 (fun values value => value.Means values.toJson)
      body.credentials := by
  rcases Endpoint.decodeOr_eq_ok_iff.1 h with ⟨hv, rfl⟩ | ⟨_, hd⟩
  · exact .inl (Json.said_of_blank hv _ _)
  · obtain ⟨inner, ⟨credentials, _⟩, hfrom, rfl⟩ := Json.from_of_read_structure (by decide) (Json.read_of_decode hd)
    exact hfrom.1.saysIfAny Json.means_of_read_dictionary

theorem Credential.values_ofOutcome? (bindingId tenant : String) (outcome : BindOutcome) :
    (ofOutcome? bindingId tenant outcome).map values = outcome.credentials := by
  unfold ofOutcome?
  cases outcome.credentials <;> rfl

namespace Client

/-- Whatever is replied to a call that can be accepted for later: if it is answered, the answer says that the broker
goes on working exactly if the status is 202, and exactly if it has a key; of a binding it says so only to a client
with alpha features. A binding that is accepted for later has nothing but the key, and makes no credentials. A binding
that is ready makes them exactly if the body has some other than `null`, and their values are those of the body. -/
theorem acceptance_perform (c : Client) (health : Cache.Health) (cache : Cache) (r : Http.Reply) :
    (∀ (call : Call) (answer : call.endpoint.Answer), call.endpoint ∈ Endpoint.deferring →
      (c.perform health cache call (.reply r)).1.result = .ok answer →
      (call.endpoint.isLater answer = true ↔ r.status = 202) ∧
      (call.endpoint.isLater answer = true ↔ (call.endpoint.answerKey answer).isSome = true) ∧
      (call.endpoint = .bind ∨ call.endpoint = .unbind → call.endpoint.isLater answer = true → c.alpha = true)) ∧
    ∀ (q : BindRequest) (outcome : BindOutcome) (bindingId tenant : String),
      (c.perform health cache ⟨.bind, q⟩ (.reply r)).1.result = .ok outcome →
      (outcome.isAsync = true → outcome = ⟨true, none, none, none, none, outcome.operationKey⟩ ∧
        Credential.ofOutcome? bindingId tenant outcome = none) ∧
      (outcome.isAsync = false →
        (Document.ofBytes r.body).root.SaysIfAny "credentials" 0 (fun values value => value.Means values.toJson)
          ((Credential.ofOutcome? bindingId tenant outcome).map Credential.values)) := by
  constructor
  · intro call answer he h
    have hne : call.endpoint ≠ .getCatalog := by
      intro hcatalog
      rw [hcatalog] at he
      exact absurd he (by decide)
    have ha := answer_of_result hne h
    obtain ⟨hstatus, hkey⟩ := Endpoint.marked_of_answer he ha
    refine ⟨hstatus, hkey, fun hbinding hlater => ?_⟩
    have hg := Endpoint.mem_grants_of_answer ha
    rw [hstatus.1 hlater] at hg
    exact Endpoint.alpha_of_grants hbinding hg
  · intro q outcome bindingId tenant h
    have hne : (⟨.bind, q⟩ : Call).endpoint ≠ .getCatalog := nofun
    have ha : Endpoint.bind.answer c.alpha r = .ok outcome := answer_of_result hne h
    rw [Credential.values_ofOutcome?]
    rcases Endpoint.bind_cases ha with ⟨_, _, body, rfl⟩ | ⟨_, body, hd, rfl⟩
    · exact ⟨fun _ => ⟨rfl, rfl⟩, nofun⟩
    · exact ⟨nofun, fun _ => BindingBody.saysIfAny_credentials hd⟩

end Client

/-- A reply with credentials, in which a name comes twice. -/
def Http.Reply.credentialed (status : Nat) : Http.Reply :=
  ⟨status, [], Utf8.encode "\x7b\"credentials\":\x7b\"u\":\"a\",\"u\":\"b\"\x7d\x7d"⟩

namespace Client

/-- The same body, for a binding that is ready and for one that is not: the first has the credentials, the other one
has a key. -/
theorem acceptance_perform_credentialed :
    (∃ outcome credential, ((keeper .v2_14 true).perform ⟨.sound, true⟩ .empty .bindLater
        (.reply (.credentialed 201))).1.result = .ok outcome ∧
      Credential.ofOutcome? "b" "t" outcome = some credential ∧ credential.values.members = [("u", .text "b")] ∧
      (Document.ofBytes (Http.Reply.credentialed 201).body).root.SaysIfAny "credentials" 0
        (fun values value => value.Means values.toJson) (some credential.values)) ∧
    ∃ outcome, ((keeper .v2_14 true).perform ⟨.sound, true⟩ .empty .bindLater
        (.reply (.credentialed 202))).1.result = .ok outcome ∧
      Endpoint.bind.isLater outcome = true ∧ Credential.ofOutcome? "b" "t" outcome = none := by
  have hready : ((keeper .v2_14 true).perform ⟨.sound, true⟩ .empty .bindLater
      (.reply (.credentialed 201))).1.result =
        .ok ⟨false, some (Json.Dictionary.empty.insert "u" ⟨.text "b", trivial⟩), none, none, none, none⟩ := by
    refine (toOption_eq_some_iff (α := BindOutcome)).1 ?_
    decide +kernel
  have hlater : ((keeper .v2_14 true).perform ⟨.sound, true⟩ .empty .bindLater
      (.reply (.credentialed 202))).1.result = .ok ⟨true, none, none, none, none, some ⟨""⟩⟩ := by
    refine (toOption_eq_some_iff (α := BindOutcome)).1 ?_
    decide +kernel
  constructor
  · refine ⟨_, _, hready, rfl, rfl, ?_⟩
    exact ((acceptance_perform _ _ _ _).2 _ _ "b" "t" hready).2 rfl
  · refine ⟨_, hlater, ?_, ?_⟩
    · exact ((acceptance_perform _ _ _ _).1 .bindLater _ (by decide) hlater).1.2 rfl
    · exact (((acceptance_perform _ _ _ _).2 _ _ "b" "t" hlater).1 rfl).2

end Client

end ServiceBroker
