/-
What comes of a call whose request was replied to. The status decides whether the broker grants the call;
the body of a grant has to be legible, unless it is not looked at, and the body of a refusal says what it
can. The statuses are gone through once, in `grantReading_of_mem_grants`. Main statement: `outcome_perform`, the
outcome of every call for every reply.
-/
import ServiceBroker.Proofs.Inquiry.Provenance

namespace ServiceBroker

/-- A shape of some type. -/
structure Json.Form where
  type : Type
  shape : Json.Shape type

/-- Why a body has not a shape, if it has not. -/
def Json.Shape.fault? (shape : Json.Shape α) (body : List UInt8) : Option Json.Error :=
  match shape.decode body with
  | .ok _ => none
  | .error e => some e

namespace Endpoint

/-! ## Grants -/

/-- The statuses that grant a call. A binding is only granted for later to a client with alpha features. -/
def grants (alpha : Bool) : Endpoint → List Nat
  | provisionInstance => [200, 201, 202]
  | updateInstance => [200, 202]
  | deprovisionInstance => [200, 202, 410]
  | bind => if alpha then [200, 201, 202] else [200, 201]
  | unbind => if alpha then [200, 202, 410] else [200, 410]
  | getCatalog | getInstance | listInstances | getOperation | getBinding | checkAvailability => [200]

/-- The statuses that grant a call without a look at the body. -/
def grantsUnread : Endpoint → List Nat
  | deprovisionInstance | unbind => [200, 410]
  | checkAvailability => [200]
  | _ => []

/-- What the body of a grant is read as. A health check reads nothing. -/
def grantForm? : Endpoint → Option Json.Form
  | getCatalog => some ⟨_, Catalog.shape⟩
  | provisionInstance | updateInstance => some ⟨_, InstanceBody.shape⟩
  | deprovisionInstance | unbind => some ⟨_, AcceptedBody.shape⟩
  | getInstance => some ⟨_, InstanceDetails.shape⟩
  | listInstances => some ⟨_, InstancesPage.shape⟩
  | getOperation => some ⟨_, OperationBody.shape⟩
  | bind | getBinding => some ⟨_, BindingBody.shape⟩
  | checkAvailability => none

/-- Why the body of a grant does not decode as what the call reads from it. -/
def bodyFault? (e : Endpoint) (body : List UInt8) : Option Json.Error :=
  e.grantForm?.bind fun form => form.shape.fault? body

/-- A body of nothing but spaces, tabs, line breaks and form feeds. -/
def Vacant (body : List UInt8) : Prop :=
  ∀ b ∈ body, b ∈ ([9, 10, 12, 13, 32] : List UInt8)

/-- The body of a grant can be used: it is not looked at, or decodes, or may be left out and is. What state
an operation is in has to be said. -/
def Legible (e : Endpoint) (r : Http.Reply) : Prop :=
  r.status ∈ e.grantsUnread ∨ e.bodyFault? r.body = none ∨ (e ≠ getOperation ∧ Vacant r.body)

/-- What comes of a call that is replied to. -/
inductive Outcome (alpha : Bool) (e : Endpoint) (r : Http.Reply) : Except Error e.Answer → Prop
  | granted (answer : e.Answer) : r.status ∈ e.grants alpha → e.Legible r → Outcome alpha e r (.ok answer)
  | garbled (fault : Json.Error) : r.status ∈ e.grants alpha → ¬ e.Legible r → e.bodyFault? r.body = some fault →
      Outcome alpha e r (.error (.httpStatus ⟨r.status, none, none, some fault⟩))
  | explained (b : FailureBody) : r.status ∉ e.grants alpha → e ≠ checkAvailability →
      FailureBody.shape.decode r.body = .ok b →
      Outcome alpha e r (.error (.httpStatus ⟨r.status, b.error, b.description, none⟩))
  | unexplained (fault : Json.Error) : r.status ∉ e.grants alpha → e ≠ checkAvailability →
      FailureBody.shape.decode r.body = .error fault →
      Outcome alpha e r (.error (.httpStatus ⟨r.status, none, none, some fault⟩))
  | unavailable : r.status ∉ e.grants alpha → e = checkAvailability →
      Outcome alpha e r (.error (.unavailable ⟨r.status⟩))

variable {alpha : Bool} {e : Endpoint} {r : Http.Reply}

theorem Outcome.map {x : Except Error e.Answer} (h : Outcome alpha e r x) (f : e.Answer → e.Answer) :
    Outcome alpha e r (x.map f) := by
  cases h with
  | granted answer hg hl => exact .granted (f answer) hg hl
  | garbled fault hg hl hf => exact .garbled fault hg hl hf
  | explained b hg he hb => exact .explained b hg he hb
  | unexplained fault hg he hb => exact .unexplained fault hg he hb
  | unavailable hg he => exact .unavailable hg he

/-! ## Bodies -/

theorem isBlankBody_iff (body : List UInt8) : isBlankBody body = true ↔ Vacant body := by
  unfold isBlankBody Vacant
  rw [List.all_eq_true]
  refine forall₂_congr fun b _ => ?_
  simp only [isBlankByte, List.mem_cons, List.not_mem_nil, or_false, Bool.or_eq_true, decide_eq_true_eq]
  constructor
  · rintro ((((h | h) | h) | h) | h) <;> simp [h]
  · rintro (h | h | h | h | h) <;> simp [h]

/-- A body that is neither ignored nor left out is legible exactly if it decodes. -/
theorem outcome_decode (hg : r.status ∈ e.grants alpha) (hu : r.status ∉ e.grantsUnread)
    (hv : e ≠ getOperation → ¬ Vacant r.body) {shape : Json.Shape α}
    (hf : e.bodyFault? r.body = shape.fault? r.body) (f : α → e.Answer) :
    Outcome alpha e r ((r.decode shape).map f) := by
  unfold Http.Reply.decode
  unfold Json.Shape.fault? at hf
  cases hd : shape.decode r.body with
  | ok a =>
    rw [hd] at hf
    exact .granted (f a) hg (.inr (.inl hf))
  | error fault =>
    rw [hd] at hf
    refine .garbled fault hg (fun hl => ?_) hf
    rcases hl with hl | hl | ⟨hne, hl⟩
    · exact hu hl
    · rw [hf] at hl; cases hl
    · exact hv hne hl

/-- A body that may be left out is legible also if it is. -/
theorem outcome_decodeOr (hg : r.status ∈ e.grants alpha) (hu : r.status ∉ e.grantsUnread)
    (ho : e ≠ getOperation) {shape : Json.Shape α} (hf : e.bodyFault? r.body = shape.fault? r.body)
    (default : α) (f : α → e.Answer) : Outcome alpha e r ((r.decodeOr default shape).map f) := by
  unfold Http.Reply.decodeOr
  split
  · rename_i hb
    exact .granted (f default) hg (.inr (.inr ⟨ho, (isBlankBody_iff _).1 hb⟩))
  · rename_i hb
    exact outcome_decode hg hu (fun _ hv => hb ((isBlankBody_iff _).2 hv)) hf f

/-! ## Statuses -/

/-- How a status that grants a call is read. Its answer stands fixed, or it is made of the headers and of what the body
decodes to; the state of an operation has to be there. -/
inductive GrantReading (alpha : Bool) (e : Endpoint) (status : Nat) : Prop
  | fixed (answer : e.Answer) : status ∈ e.grantsUnread →
      (∀ headers body, e.answer alpha ⟨status, headers, body⟩ = .ok answer) → GrantReading alpha e status
  | optional (form : Json.Form) (default : form.type) (make : List (String × List UInt8) → form.type → e.Answer) :
      status ∉ e.grantsUnread → e ≠ getOperation → e.grantForm? = some form →
      (∀ headers body, e.answer alpha ⟨status, headers, body⟩ =
        (Http.Reply.decodeOr default form.shape ⟨status, headers, body⟩).map (make headers)) →
      GrantReading alpha e status
  | needed (form : Json.Form) (make : List (String × List UInt8) → form.type → e.Answer) :
      status ∉ e.grantsUnread → e = getOperation → e.grantForm? = some form →
      (∀ headers body, e.answer alpha ⟨status, headers, body⟩ =
        (Http.Reply.decode form.shape ⟨status, headers, body⟩).map (make headers)) → GrantReading alpha e status

/-- Every status that grants a call is read in one of these ways. -/
theorem grantReading_of_mem_grants {status : Nat} (hg : status ∈ e.grants alpha) : e.GrantReading alpha status := by
  have hself : ∀ {α : Type} (x : Except Error α), x = x.map id := fun x => by cases x <;> rfl
  -- A key or a time to wait that is not in the body is in the headers, so a reply without its body tells it as well.
  cases e with
  | getCatalog =>
    obtain rfl := List.mem_singleton.1 hg
    exact .optional ⟨_, Catalog.shape⟩ Catalog.blank (fun _ => id) (by decide) (by decide) rfl fun _ _ => hself _
  | getInstance =>
    obtain rfl := List.mem_singleton.1 hg
    exact .optional ⟨_, InstanceDetails.shape⟩ .blank (fun _ => id) (by decide) (by decide) rfl fun _ _ => hself _
  | listInstances =>
    obtain rfl := List.mem_singleton.1 hg
    exact .optional ⟨_, InstancesPage.shape⟩ .blank (fun _ => id) (by decide) (by decide) rfl fun _ _ => hself _
  | getOperation =>
    obtain rfl := List.mem_singleton.1 hg
    exact .needed ⟨_, OperationBody.shape⟩ (fun headers b => b.polled ⟨200, headers, []⟩) (by decide) rfl rfl
      fun _ _ => rfl
  | getBinding =>
    obtain rfl := List.mem_singleton.1 hg
    exact .optional ⟨_, BindingBody.shape⟩ .blank (fun _ b => b.details) (by decide) (by decide) rfl fun _ _ => rfl
  | checkAvailability =>
    obtain rfl := List.mem_singleton.1 hg
    exact .fixed () (by decide) fun _ _ => rfl
  | provisionInstance =>
    simp only [grants, List.mem_cons, List.not_mem_nil, or_false] at hg
    rcases hg with rfl | rfl | rfl
    · exact .optional ⟨_, InstanceBody.shape⟩ .blank (fun _ b => b.ready) (by decide) (by decide) rfl fun _ _ => rfl
    · exact .optional ⟨_, InstanceBody.shape⟩ .blank (fun _ b => b.ready) (by decide) (by decide) rfl fun _ _ => rfl
    · exact .optional ⟨_, InstanceBody.shape⟩ .blank (fun headers b => b.accepted ⟨202, headers, []⟩) (by decide)
        (by decide) rfl fun _ _ => rfl
  | updateInstance =>
    simp only [grants, List.mem_cons, List.not_mem_nil, or_false] at hg
    rcases hg with rfl | rfl
    · exact .optional ⟨_, InstanceBody.shape⟩ .blank (fun _ b => b.ready) (by decide) (by decide) rfl fun _ _ => rfl
    · exact .optional ⟨_, InstanceBody.shape⟩ .blank (fun headers b => b.accepted ⟨202, headers, []⟩) (by decide)
        (by decide) rfl fun _ _ => rfl
  | deprovisionInstance =>
    simp only [grants, List.mem_cons, List.not_mem_nil, or_false] at hg
    rcases hg with rfl | rfl | rfl
    · exact .fixed .removed (by decide) fun _ _ => rfl
    · exact .optional ⟨_, AcceptedBody.shape⟩ .blank (fun headers b => b.accepted ⟨202, headers, []⟩) (by decide)
        (by decide) rfl fun _ _ => rfl
    · exact .fixed .removed (by decide) fun _ _ => rfl
  | bind =>
    cases alpha
    · simp only [grants, Bool.false_eq_true, if_false, List.mem_cons, List.not_mem_nil, or_false] at hg
      rcases hg with rfl | rfl <;>
        exact .optional ⟨_, BindingBody.shape⟩ .blank (fun _ b => b.ready) (by decide) (by decide) rfl fun _ _ => rfl
    · simp only [grants, if_true, List.mem_cons, List.not_mem_nil, or_false] at hg
      rcases hg with rfl | rfl | rfl
      · exact .optional ⟨_, BindingBody.shape⟩ .blank (fun _ b => b.ready) (by decide) (by decide) rfl fun _ _ => rfl
      · exact .optional ⟨_, BindingBody.shape⟩ .blank (fun _ b => b.ready) (by decide) (by decide) rfl fun _ _ => rfl
      · exact .optional ⟨_, BindingBody.shape⟩ .blank (fun headers b => b.accepted ⟨202, headers, []⟩) (by decide)
          (by decide) rfl fun _ _ => rfl
  | unbind =>
    cases alpha
    · simp only [grants, Bool.false_eq_true, if_false, List.mem_cons, List.not_mem_nil, or_false] at hg
      rcases hg with rfl | rfl <;> exact .fixed .removed (by decide) fun _ _ => rfl
    · simp only [grants, if_true, List.mem_cons, List.not_mem_nil, or_false] at hg
      rcases hg with rfl | rfl | rfl
      · exact .fixed .removed (by decide) fun _ _ => rfl
      · exact .optional ⟨_, AcceptedBody.shape⟩ .blank (fun headers b => b.accepted ⟨202, headers, []⟩) (by decide)
          (by decide) rfl fun _ _ => rfl
      · exact .fixed .removed (by decide) fun _ _ => rfl

theorem bodyFault?_of_grantForm? {form : Json.Form} (h : e.grantForm? = some form) (body : List UInt8) :
    e.bodyFault? body = form.shape.fault? body := by
  rw [bodyFault?, h, Option.bind_some]

/-- Every status that grants nothing is a failure. -/
theorem reading_of_not_mem_grants {status : Nat} (hg : status ∉ e.grants alpha) :
    e.reading alpha status = .failure := by
  cases alpha <;> unfold reading <;> split <;> simp_all [grants]

theorem answer_of_not_mem_grants (hg : r.status ∉ e.grants alpha) : e.answer alpha r = .error (e.failure r) := by
  unfold answer
  rw [reading_of_not_mem_grants hg]

/-- Only a health check looks at the status alone. -/
theorem failure_of_ne (he : e ≠ checkAvailability) (r : Http.Reply) : e.failure r = r.failure := by
  cases e <;> first | rfl | exact absurd rfl he

theorem outcome_failure (hg : r.status ∉ e.grants alpha) : Outcome alpha e r (.error (e.failure r)) := by
  by_cases he : e = checkAvailability
  · subst he
    exact .unavailable hg rfl
  · rw [failure_of_ne he, Http.Reply.failure, HttpFailure.ofResponse]
    cases hd : FailureBody.shape.decode r.body with
    | ok b => exact .explained b hg he hd
    | error fault => exact .unexplained fault hg he hd

/-- What comes of a reply that grants the call: each of the statuses is read in its own way. -/
theorem outcome_of_mem_grants (hg : r.status ∈ e.grants alpha) : Outcome alpha e r (e.answer alpha r) := by
  obtain ⟨status, headers, body⟩ := r
  cases grantReading_of_mem_grants hg with
  | fixed answer hu ha =>
    rw [ha]
    exact .granted answer hg (.inl hu)
  | optional form default make hu ho hf ha =>
    rw [ha]
    exact outcome_decodeOr hg hu ho (bodyFault?_of_grantForm? hf body) default (make headers)
  | needed form make hu ho hf ha =>
    rw [ha]
    exact outcome_decode hg hu (fun hne => absurd ho hne) (bodyFault?_of_grantForm? hf body) (make headers)

/-- What comes of a reply. -/
theorem outcome_answer (alpha : Bool) (e : Endpoint) (r : Http.Reply) : Outcome alpha e r (e.answer alpha r) := by
  by_cases hg : r.status ∈ e.grants alpha
  · exact outcome_of_mem_grants hg
  · rw [answer_of_not_mem_grants hg]
    exact outcome_failure hg

end Endpoint

namespace Client

variable {c : Client} {health : Cache.Health} {cache : Cache} {call : Call} {d : Delivery}

/-- A call that sent its request was prepared, and found no catalog that was kept. -/
theorem prepare_of_sent (h : (c.perform health cache call d).1.sent ≠ []) :
    ¬ c.FindsKept health cache call ∧ ∃ request, c.prepare call = .ok request := by
  have hk : ¬ c.FindsKept health cache call := fun hk => h (sent_perform_of_findsKept hk)
  rw [sent_perform_of_not_findsKept hk] at h
  cases hp : c.prepare call with
  | error e => rw [hp] at h; exact absurd rfl h
  | ok request => exact ⟨hk, request, rfl⟩

theorem result_exchange_of_prepare {request : Http.Request} (hp : c.prepare call = .ok request) :
    (c.exchange call d).result = d.answer c.alpha call.endpoint := by
  unfold exchange
  rw [hp]

/-- A call that sent its request answers what the reply to it says; only a catalog is pruned on the way. -/
theorem result_perform_of_sent (h : (c.perform health cache call d).1.sent ≠ []) :
    ∃ f, (c.perform health cache call d).1.result = (d.answer c.alpha call.endpoint).map f := by
  obtain ⟨hk, request, hp⟩ := prepare_of_sent h
  obtain ⟨f, hf⟩ := result_perform_of_not_findsKept (d := d) hk
  rw [result_exchange_of_prepare hp] at hf
  exact ⟨f, hf⟩

/-- What comes of a call that sent its request and is replied to. -/
theorem outcome_perform (c : Client) (health : Cache.Health) (cache : Cache) (call : Call) (r : Http.Reply)
    (h : (c.perform health cache call (.reply r)).1.sent ≠ []) :
    call.endpoint.Outcome c.alpha r (c.perform health cache call (.reply r)).1.result := by
  obtain ⟨f, hf⟩ := result_perform_of_sent h
  rw [hf]
  exact (Endpoint.outcome_answer c.alpha call.endpoint r).map f

end Client

/-- A binding is asked for, now or later. -/
def Call.bindLater : Call :=
  ⟨.bind, ⟨"b", "i", true, "s", "p", none, none, none, none, none⟩⟩

/-- A reply that accepts a call for later, with a form feed as its body. -/
def Http.Reply.acceptedBlank : Http.Reply := ⟨202, [], [12]⟩

theorem Client.outcome_perform_acceptedBlank :
    ((Client.keeper .v2_14 true).perform ⟨.sound, true⟩ .empty .bindLater (.reply .acceptedBlank)).1.sent ≠ [] ∧
    Endpoint.bind.Outcome true .acceptedBlank
      ((Client.keeper .v2_14 true).perform ⟨.sound, true⟩ .empty .bindLater (.reply .acceptedBlank)).1.result := by
  have h : ((Client.keeper .v2_14 true).perform ⟨.sound, true⟩ .empty .bindLater
      (.reply .acceptedBlank)).1.sent ≠ [] := by
    decide +kernel
  exact ⟨h, Client.outcome_perform _ _ _ _ _ h⟩

end ServiceBroker
