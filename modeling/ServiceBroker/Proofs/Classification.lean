/-
Telling failures apart. A conflict and a resource that is gone are known by the status; a broken rule by the
status and by what the body says, however the body says it. No error is more than one of these (`failures_told_apart`).
-/
import ServiceBroker.Proofs.Json.Shapes
import ServiceBroker.Proofs.Outcome

namespace ServiceBroker

open Json (Content Shape SpellsDocument contentsOf contentsBut)

/-! ## What a body says -/

/-- A text, or `null` in its place. -/
def Json.Content.ofText? : Option String → Content
  | none => .null
  | some s => .text (some s)

/-- Members say a text of a name, or say nothing of it and there is no text. -/
def Json.Content.Says (contents : List (String × Content)) (name : String) (text : Option String) : Prop :=
  contentsOf name contents = [.ofText? text] ∨ (contentsOf name contents = [] ∧ text = none)

/-- A content says what is in the body of a failure: an object in members of these names, among any others
and in any order, and an array in two items. -/
inductive FailureBody.SaidBy (b : FailureBody) : Content → Prop
  | object {contents} : Content.Says contents "error" b.error → Content.Says contents "description" b.description →
      SaidBy b (.object contents)
  | array : SaidBy b (.array [.ofText? b.error, .ofText? b.description])

theorem reads_text? (budget : Nat) (text : Option String) :
    (Shape.option .text).Reads budget (.ofText? text) text := by
  cases text with
  | none => exact Json.reads_none budget _
  | some s => exact Json.reads_some (Json.reads_text budget s) (by simp [Json.Content.ofText?])

/-- A field that may be left out is filled with the text that members say of it. -/
theorem fills_text? {budget : Nat} {contents : List (String × Content)} {name : String} {text : Option String}
    {hidden : Option String → Bool} {rest : Json.Fields ρ σ} {r : ρ} (h : Content.Says contents name text)
    (hr : rest.Fills budget (contentsBut name contents) r) :
    (Json.Fields.cons name (.option .text) (.byName none) hidden rest).Fills budget contents (text, r) := by
  rcases h with hc | ⟨hc, rfl⟩
  · exact .named hc (reads_text? budget text) hr
  · rw [Json.contentsBut_of_absent hc] at hr
    exact .missing hc rfl hr

theorem Json.Content.Says.but {contents : List (String × Content)} {name other : String} {text : Option String}
    (h : Content.Says contents name text) (hne : name ≠ other) :
    Content.Says (contentsBut other contents) name text := by
  unfold Content.Says
  rwa [Json.contentsOf_contentsBut hne]

/-- The body of a failure decodes as what it says, whatever way it is written. -/
theorem FailureBody.decode_of_saidBy {b : FailureBody} {content : Content} {body : List UInt8}
    (hs : b.SaidBy content) (hb : SpellsDocument body content) : FailureBody.shape.decode body = .ok b := by
  refine Shape.Reads.decode ?_ hb
  unfold FailureBody.shape
  cases hs with
  | object he hd =>
    exact Json.reads_view (Json.reads_record (fills_text? he (fills_text? (hd.but (by decide)) .nil))) rfl
  | array =>
    exact Json.reads_view
      (Json.reads_record_listed (.cons (reads_text? _ b.error) (.cons (reads_text? _ b.description) .nil))) rfl

/-! ## Failures -/

/-- What a failure can be told to be. -/
inductive HttpFailure.Kind
  | conflict
  | gone
  | broken (rule : HttpFailure.Rule)

/-- The status of a kind. -/
def HttpFailure.Kind.status : HttpFailure.Kind → Nat
  | .conflict => 409
  | .gone => 410
  | .broken _ => 422

/-- The body of a failure that refers to a rule. -/
def HttpFailure.Rule.body (rule : HttpFailure.Rule) : FailureBody :=
  ⟨some rule.word, some rule.description⟩

/-- A failure refers to a rule exactly if its status is 422 and both of its texts are the rule's. -/
theorem HttpFailure.breaks_iff (h : HttpFailure) (rule : HttpFailure.Rule) :
    h.breaks rule = true ↔
      h.status = 422 ∧ h.errorMessage = some rule.word ∧ h.description = some rule.description := by
  simp only [HttpFailure.breaks, Bool.and_eq_true, beq_iff_eq, and_assoc]

namespace AnyError

variable {err : AnyError} {status : Nat} {body : List UInt8}

/-- The error is told to be of a kind, by the predicate that looks for that kind. -/
def isOf (err : AnyError) : HttpFailure.Kind → Bool
  | .conflict => err.isConflict
  | .gone => err.isGone
  | .broken rule => err.breaks rule

/-- The predicates tell of an error what a status and a body explain. -/
structure Tells (err : AnyError) (status : Nat) (body : List UInt8) : Prop where
  conflict : err.isConflict = true ↔ status = 409
  gone : err.isGone = true ↔ status = 410
  rule (rule : HttpFailure.Rule) :
    err.breaks rule = true ↔ status = 422 ∧ FailureBody.shape.decode body = .ok rule.body
  /-- How the body is written makes no difference. -/
  spelled {content : Content} {b : FailureBody} (rule : HttpFailure.Rule) : SpellsDocument body content →
    b.SaidBy content → (err.breaks rule = true ↔ status = 422 ∧ b = rule.body)
  /-- A body that does not decode leaves only what the status says. -/
  undecoded {fault : Json.Error} (kind : HttpFailure.Kind) : FailureBody.shape.decode body = .error fault →
    err.isOf kind = true → status = 409 ∨ status = 410

/-- It is enough to know what the predicates say of the status and of the decoded body. -/
theorem Tells.of_rule (hc : err.isConflict = true ↔ status = 409) (hg : err.isGone = true ↔ status = 410)
    (hr : ∀ rule, err.breaks rule = true ↔ status = 422 ∧ FailureBody.shape.decode body = .ok rule.body) :
    err.Tells status body where
  conflict := hc
  gone := hg
  rule := hr
  spelled rule hb hs := by
    rw [hr rule, FailureBody.decode_of_saidBy hs hb, Except.ok.injEq]
  undecoded kind hf hk := by
    cases kind with
    | conflict => exact .inl (hc.1 hk)
    | gone => exact .inr (hg.1 hk)
    | broken rule =>
      have h := ((hr rule).1 hk).2
      rw [hf] at h
      cases h

/-- The predicates look at the failure behind an error only. -/
theorem Tells.of_httpFailure {h : HttpFailure} (he : err.httpFailure? = some h) (hs : h.status = status)
    (hr : ∀ rule, h.breaks rule = true ↔ status = 422 ∧ FailureBody.shape.decode body = .ok rule.body) :
    err.Tells status body := by
  have hany : ∀ p, err.httpFailure?.any p = p h := by
    intro p
    rw [he]
    rfl
  refine .of_rule ?_ ?_ fun rule => ?_
  · rw [isConflict, hany, HttpFailure.isConflict, beq_iff_eq, hs]
  · rw [isGone, hany, HttpFailure.isGone, beq_iff_eq, hs]
  · rw [breaks, hany]
    exact hr rule

/-- What is told of a failure whose body decodes. -/
theorem tells_explained {b : FailureBody} (hb : FailureBody.shape.decode body = .ok b)
    (he : err.httpFailure? = some ⟨status, b.error, b.description, none⟩) : err.Tells status body := by
  refine .of_httpFailure he rfl fun rule => ?_
  obtain ⟨error, description⟩ := b
  rw [HttpFailure.breaks_iff, hb, Except.ok.injEq, HttpFailure.Rule.body, FailureBody.mk.injEq]

/-- What is told of a failure without texts, if its status or its body says that no rule is broken. -/
theorem tells_silent {fault : Json.Error} (he : err.httpFailure? = some (.undecodable status fault))
    (hb : status = 422 → ∀ b, FailureBody.shape.decode body ≠ .ok b) : err.Tells status body := by
  refine .of_httpFailure he rfl fun rule => ?_
  rw [HttpFailure.breaks_iff]
  constructor
  · rintro ⟨_, hm, _⟩
    cases hm
  · rintro ⟨h422, hd⟩
    exact absurd hd (hb h422 _)

/-- What is told of the failure that a status and a body describe. -/
theorem tells_ofResponse (he : err.httpFailure? = some (.ofResponse status body)) : err.Tells status body := by
  unfold HttpFailure.ofResponse at he
  cases hd : FailureBody.shape.decode body with
  | ok b =>
    rw [hd] at he
    exact tells_explained hd he
  | error fault =>
    rw [hd] at he
    refine tells_silent he fun _ b hb => ?_
    rw [hd] at hb
    cases hb

/-- An error of a kind has a failure behind it, whose status is that of the kind. -/
theorem exists_of_isOf {kind : HttpFailure.Kind} (h : err.isOf kind = true) :
    ∃ f, err.httpFailure? = some f ∧ f.status = kind.status ∧
      ∀ rule, kind = .broken rule → f.errorMessage = some rule.word := by
  cases he : err.httpFailure? with
  | none => cases kind <;> simp [isOf, isConflict, isGone, breaks, he] at h
  | some f =>
    refine ⟨f, rfl, ?_⟩
    cases kind with
    | conflict =>
      have hs : f.status = 409 := by simpa [isOf, isConflict, he, HttpFailure.isConflict] using h
      exact ⟨hs, nofun⟩
    | gone =>
      have hs : f.status = 410 := by simpa [isOf, isGone, he, HttpFailure.isGone] using h
      exact ⟨hs, nofun⟩
    | broken rule =>
      have hb : f.breaks rule = true := by simpa [isOf, breaks, he] using h
      obtain ⟨hs, hm, _⟩ := (HttpFailure.breaks_iff f rule).1 hb
      exact ⟨hs, fun _ hk => by cases hk; exact hm⟩

/-- No error is of two kinds. -/
theorem isOf_unique {kind kind' : HttpFailure.Kind} (h : err.isOf kind = true) (h' : err.isOf kind' = true) :
    kind = kind' := by
  obtain ⟨f, hf, hs, hm⟩ := exists_of_isOf h
  obtain ⟨f', hf', hs', hm'⟩ := exists_of_isOf h'
  obtain rfl : f = f' := Option.some.inj (hf.symm.trans hf')
  have hk : kind.status = kind'.status := hs.symm.trans hs'
  -- The statuses of different kinds differ, except that all rules share one; these differ in their words.
  cases kind with
  | conflict => cases kind' <;> first | rfl | cases hk
  | gone => cases kind' <;> first | rfl | cases hk
  | broken rule =>
    cases kind' with
    | broken rule' =>
      have hw : rule.word = rule'.word := Option.some.inj ((hm rule rfl).symm.trans (hm' rule' rfl))
      cases rule <;> cases rule' <;> first | rfl | exact absurd hw (by decide)
    | _ => cases hk

end AnyError

/-! ## Failures of calls -/

namespace Endpoint

variable {alpha : Bool} {e : Endpoint} {r : Http.Reply} {err : Error}

theorem grants_of_grantsUnread (h : r.status ∈ e.grantsUnread) : r.status ∈ e.grants alpha := by
  revert h
  cases e <;> cases alpha <;> simp [grantsUnread, grants] <;> omega

/-- A status that grants a call without a look at the body is no error. -/
theorem Outcome.not_mem_grantsUnread (h : Outcome alpha e r (.error err)) : r.status ∉ e.grantsUnread := by
  intro hu
  cases h with
  | garbled fault hg hl hf => exact hl (.inl hu)
  | explained b hg he hb => exact hg (grants_of_grantsUnread hu)
  | unexplained fault hg he hb => exact hg (grants_of_grantsUnread hu)
  | unavailable hg he => exact hg (grants_of_grantsUnread hu)

/-- No call is granted by the status of a broken rule. -/
theorem not_mem_grants_422 : 422 ∉ e.grants alpha := by
  cases e <;> cases alpha <;> decide

/-- What is told of the error that comes of a call. -/
theorem Outcome.tells (h : Outcome alpha e r (.error err)) (he : e ≠ checkAvailability) :
    (AnyError.client err).Tells r.status r.body := by
  cases h with
  | garbled fault hg hl hf =>
    exact AnyError.tells_silent rfl fun h422 => absurd (h422 ▸ hg) not_mem_grants_422
  | explained b hg _ hb => exact AnyError.tells_explained hb rfl
  | unexplained fault hg _ hb =>
    refine AnyError.tells_silent rfl fun _ b hb' => ?_
    rw [hb] at hb'
    cases hb'
  | unavailable hg hc => exact absurd hc he

end Endpoint

/-- The error of a call that sent its request comes of the reply. -/
theorem Client.outcome_of_error {c : Client} {health : Cache.Health} {cache : Cache} {call : Call} {r : Http.Reply}
    {err : Error} (hs : (c.perform health cache call (.reply r)).1.sent ≠ [])
    (he : (c.perform health cache call (.reply r)).1.result = .error err) :
    call.endpoint.Outcome c.alpha r (.error err) := by
  obtain ⟨f, hf⟩ := Client.result_perform_of_sent hs
  rw [← he, hf]
  exact (Endpoint.outcome_answer c.alpha call.endpoint r).map f

/-- What the predicates tell: of the failure that a status and a body describe, alone or as the error of a
call; of the error of every call that sent its request; and of any error, which is of one kind at most. No
removal fails because what it is to remove is gone. -/
theorem failures_told_apart :
    (∀ status body, (AnyError.bare (.httpStatus (.ofResponse status body))).Tells status body ∧
      (AnyError.client (.httpStatus (.ofResponse status body))).Tells status body) ∧
    (∀ (c : Client) health cache (call : Call) r err, call.endpoint ≠ .checkAvailability →
      (c.perform health cache call (.reply r)).1.sent ≠ [] →
      (c.perform health cache call (.reply r)).1.result = .error err →
      (AnyError.client err).Tells r.status r.body ∧
        (call.endpoint = .deprovisionInstance ∨ call.endpoint = .unbind →
          (AnyError.client err).isGone = false)) ∧
    (∀ (err : AnyError) kind kind', err.isOf kind = true → err.isOf kind' = true → kind = kind') := by
  refine ⟨fun status body => ⟨AnyError.tells_ofResponse rfl, AnyError.tells_ofResponse rfl⟩, ?_,
    fun err kind kind' => AnyError.isOf_unique⟩
  intro c health cache call r err he hs herr
  have ho := Client.outcome_of_error hs herr
  have ht := ho.tells he
  refine ⟨ht, fun hremoval => Bool.eq_false_iff.2 fun hgone => ho.not_mem_grantsUnread ?_⟩
  rw [ht.gone.1 hgone]
  rcases hremoval with h | h <;> rw [h] <;> decide

/-- An instance is asked for. -/
def Call.lookUp : Call :=
  ⟨.getInstance, ⟨"i"⟩⟩

/-- A reply that refers to a rule, in an array and with an escape. -/
def Http.Reply.busy : Http.Reply :=
  ⟨422, [], Utf8.encode
    "[ \"Concurrency\\u0045rror\", \"Another operation for this service instance is in progress.\"]"⟩

theorem failures_told_apart_busy :
    ∃ err, ((Client.keeper .v2_14 true).perform ⟨.sound, true⟩ .empty .lookUp (.reply .busy)).1.sent ≠ [] ∧
      ((Client.keeper .v2_14 true).perform ⟨.sound, true⟩ .empty .lookUp (.reply .busy)).1.result = .error err ∧
      (AnyError.client err).breaks .concurrency = true ∧ (AnyError.client err).isConflict = false := by
  have hs : ((Client.keeper .v2_14 true).perform ⟨.sound, true⟩ .empty .lookUp (.reply .busy)).1.sent ≠ [] := by
    decide +kernel
  have hr : ((Client.keeper .v2_14 true).perform ⟨.sound, true⟩ .empty .lookUp (.reply .busy)).1.result =
      .error Http.Reply.busy.failure := by
    obtain ⟨f, hf⟩ := Client.result_perform_of_sent hs
    rw [hf]
    rfl
  have hd : FailureBody.shape.decode Http.Reply.busy.body = .ok HttpFailure.Rule.concurrency.body := by
    have h : (FailureBody.shape.decode Http.Reply.busy.body).toOption = some HttpFailure.Rule.concurrency.body := by
      decide +kernel
    revert h
    cases FailureBody.shape.decode Http.Reply.busy.body <;> simp [Except.toOption]
  obtain ⟨_, hcalls, hunique⟩ := failures_told_apart
  obtain ⟨ht, _⟩ := hcalls _ _ _ .lookUp .busy _ (by decide) hs hr
  have hb := (ht.rule .concurrency).2 ⟨rfl, hd⟩
  exact ⟨_, hs, hr, hb, Bool.eq_false_iff.2 fun hc => nomatch hunique _ .conflict (.broken .concurrency) hc hb⟩

end ServiceBroker
