/-
What polling tells. A broker may use any text as its word for the state of an operation. A known state is made of one
word only (`OperationState.ofLabel_eq_iff`), and every other word is kept in a state of its own, so the word is not
lost: whatever is asked of the state is answered from the word alone (`OperationStatus.Reports`). A question that is
sent and replied to with a body that decodes tells the state and the description of this body (`polled_perform`).
-/
import ServiceBroker.Proofs.Json.Meaning
import ServiceBroker.Proofs.MandatoryFields

namespace ServiceBroker

open Json (Document SpellsDocument)

/-! ## States -/

namespace OperationState

variable {s : OperationState} {word : String}

theorem ofLabel_label (h : s.isKnown = true) : ofLabel s.label = s := by
  cases s with
  | unknown word => cases h
  | _ => rfl

/-- A known state is made of its own word only. -/
theorem ofLabel_eq_iff (h : s.isKnown = true) : ofLabel word = s ↔ word = s.label := by
  constructor
  · rintro rfl
    exact (label_ofLabel word).symm
  · rintro rfl
    exact ofLabel_label h

theorem ofLabel_injective : Function.Injective ofLabel :=
  Function.LeftInverse.injective label_ofLabel

theorem isDone_iff : s.isDone = true ↔ s = done ∨ s = succeeded := by
  cases s <;> simp [isDone]

theorem isFailure_iff : s.isFailure = true ↔ s = error ∨ s = failed ∨ s = cancelled ∨ s = timeout := by
  cases s <;> simp [isFailure]

theorem isDone_ofLabel : (ofLabel word).isDone = true ↔ word ∈ ["done", "succeeded"] := by
  rw [isDone_iff, ofLabel_eq_iff rfl, ofLabel_eq_iff rfl]
  simp only [label, List.mem_cons, List.not_mem_nil, or_false]

theorem isFailure_ofLabel :
    (ofLabel word).isFailure = true ↔ word ∈ ["error", "failed", "cancelled", "timeout"] := by
  rw [isFailure_iff, ofLabel_eq_iff rfl, ofLabel_eq_iff rfl, ofLabel_eq_iff rfl, ofLabel_eq_iff rfl]
  simp only [label, List.mem_cons, List.not_mem_nil, or_false]

theorem isInProgress_ofLabel : (ofLabel word).isInProgress = true ↔
    word ∉ ["done", "succeeded", "error", "failed", "cancelled", "timeout"] := by
  show _ ↔ word ∉ ["done", "succeeded"] ++ ["error", "failed", "cancelled", "timeout"]
  rw [List.mem_append, not_or, ← isDone_ofLabel, ← isFailure_ofLabel, isInProgress]
  simp only [Bool.and_eq_true, Bool.not_eq_true', Bool.not_eq_true]

/-- An operation has ended well, or badly, or not at all. -/
theorem count_classes (s : OperationState) : [s.isDone, s.isFailure, s.isInProgress].count true = 1 := by
  cases s <;> rfl

/-- The text of a state is read as the state that its word stands for. -/
theorem decode_encode (s : OperationState) : shape.decode (Utf8.encode (shape.encode s)) = .ok (ofLabel s.label) := by
  have hreads : shape.Reads Json.maxDepth (.text (some s.label)) (ofLabel s.label) :=
    Json.reads_view (Json.reads_text Json.maxDepth s.label) rfl
  exact hreads.decode (Json.spells_render (.text s.label))

end OperationState

/-! ## Reports -/

/-- All that an answer tells of the state of an operation is what the broker's word tells. -/
structure OperationStatus.Reports (s : OperationStatus) (word : String) : Prop where
  label : s.state.label = word
  wording : toString s.state = word
  written : OperationState.shape.write s.state = .text word
  oneClass : [s.state.isDone, s.state.isFailure, s.state.isInProgress].count true = 1
  isDone : s.state.isDone = true ↔ word ∈ ["done", "succeeded"]
  isFailure : s.state.isFailure = true ↔ word ∈ ["error", "failed", "cancelled", "timeout"]
  isInProgress : s.state.isInProgress = true ↔
    word ∉ ["done", "succeeded", "error", "failed", "cancelled", "timeout"]
  failure : ∀ f, s.failure? = some f ↔ s.state.isFailure = true ∧ f.state = word

theorem OperationStatus.failure?_eq_some_iff {s : OperationStatus} {f : OperationFailure} :
    s.failure? = some f ↔ s.state.isFailure = true ∧ f.state = s.state.label := by
  obtain ⟨state⟩ := f
  unfold failure?
  split
  · next hf => simp [hf, eq_comm]
  · next hf => simp [hf]

theorem OperationStatus.reports_ofLabel {s : OperationStatus} {word : String} (h : s.state = .ofLabel word) :
    s.Reports word := by
  have hlabel : s.state.label = word := by rw [h, OperationState.label_ofLabel]
  refine ⟨hlabel, hlabel, congrArg Json.text hlabel, s.state.count_classes, ?_, ?_, ?_, fun f => ?_⟩
  · rw [h, OperationState.isDone_ofLabel]
  · rw [h, OperationState.isFailure_ofLabel]
  · rw [h, OperationState.isInProgress_ofLabel]
  · rw [failure?_eq_some_iff, hlabel]

/-! ## Bodies -/

/-- A description stands in a document, or it is left out, or it is `null`. -/
def Json.Node.Describes (node : Json.Node) : Option String → Prop :=
  node.SaysIfAny "description" 1 fun text value => value.Means (.text text)

theorem OperationBody.told_of_read {budget : Nat} {node : Json.Node} {b : OperationBody}
    (h : shape.read budget node = .ok b) :
    ∃ word, node.SaysText "state" 0 word ∧ b.state = .ofLabel word ∧ node.Describes b.description := by
  obtain ⟨inner, ⟨state, description, _⟩, hfrom, rfl⟩ := Json.from_of_read_structure (by decide) h
  obtain ⟨hstate, hdescription, _⟩ := hfrom
  obtain ⟨word, hword, rfl⟩ := OperationState.said_of_supplied hstate
  refine ⟨word, hword, rfl, hdescription.saysIfAny fun {_ value text} htext => ?_⟩
  obtain ⟨stop, rfl⟩ := Json.eq_text_of_read htext
  exact .text text stop

/-! ## Calls -/

namespace Client

/-- What is asked about an operation is answered from a body that decodes. -/
theorem result_polling {c : Client} {health : Cache.Health} {cache : Cache} {q : OperationRequest} {r : Http.Reply}
    (hs : r.status = 200) (h : (c.perform health cache ⟨.getOperation, q⟩ (.reply r)).1.sent ≠ [])
    {body : OperationBody} (hd : OperationBody.shape.decode r.body = .ok body) :
    (c.perform health cache ⟨.getOperation, q⟩ (.reply r)).1.result = .ok (body.polled r) := by
  obtain ⟨_, request, hp⟩ := prepare_of_sent h
  rw [perform_eq_exchange (by exact nofun), result_exchange_of_prepare hp]
  show Endpoint.getOperation.answer c.alpha r = .ok (body.polled r)
  unfold Endpoint.answer
  rw [hs]
  exact map_eq_ok_iff.2 ⟨body, mapError_eq_ok_iff.2 hd, rfl⟩

/-- A question about an operation that is sent and replied to with status 200 and a body that decodes. The value of the
body shows whatever the body spells. The answer reports the word that stands for the state there, whatever text it is,
and the description. Different words make different states, and the text of a state is read as the same state. -/
theorem polled_perform (c : Client) (health : Cache.Health) (cache : Cache) (q : OperationRequest) (r : Http.Reply)
    (hs : r.status = 200) (h : (c.perform health cache ⟨.getOperation, q⟩ (.reply r)).1.sent ≠ [])
    {body : OperationBody} (hd : OperationBody.shape.decode r.body = .ok body) :
    (∀ content, SpellsDocument r.body content → (Document.ofBytes r.body).root.Shows content) ∧
    (∃ word status, (c.perform health cache ⟨.getOperation, q⟩ (.reply r)).1.result = .ok status ∧
      (Document.ofBytes r.body).root.SaysText "state" 0 word ∧ status.Reports word ∧
      (Document.ofBytes r.body).root.Describes status.description) ∧
    Function.Injective OperationState.ofLabel ∧
    ∀ word, OperationState.shape.decode (Utf8.encode (OperationState.shape.encode (.ofLabel word))) =
      .ok (.ofLabel word) := by
  refine ⟨fun content hcontent => Json.shows_root hcontent, ?_, OperationState.ofLabel_injective, fun word => ?_⟩
  · obtain ⟨word, hword, hstate, hdescription⟩ := OperationBody.told_of_read (Json.read_of_decode hd)
    exact ⟨word, body.polled r, result_polling hs h hd, hword, OperationStatus.reports_ofLabel hstate, hdescription⟩
  · rw [OperationState.decode_encode, OperationState.label_ofLabel]

end Client

/-- A reply that tells of a failure; the word is spelled with an escape, and the description is `null`. -/
def Http.Reply.failedOperation : Http.Reply :=
  ⟨200, [], Utf8.encode "\x7b\"description\":null,\"state\":\"f\\u0061iled\"\x7d"⟩

theorem Client.polled_perform_failed :
    ∃ status : OperationStatus,
      (loopback.perform ⟨.sound, true⟩ .empty (.polling "i") (.reply .failedOperation)).1.result = .ok status ∧
      status.Reports "failed" ∧ status.failure? = some ⟨"failed"⟩ ∧ status.description = none := by
  have hresult : (loopback.perform ⟨.sound, true⟩ .empty (.polling "i") (.reply .failedOperation)).1.result =
      .ok ⟨.failed, none, none⟩ := by
    refine (toOption_eq_some_iff (α := OperationStatus)).1 ?_
    decide +kernel
  have hdecode : OperationBody.shape.decode Http.Reply.failedOperation.body = .ok ⟨.failed, none⟩ := by
    refine toOption_eq_some_iff.1 ?_
    decide +kernel
  obtain ⟨-, ⟨word, status, hstatus, -, hreports, -⟩, -⟩ := polled_perform loopback ⟨.sound, true⟩ .empty
    ⟨"i", none, none, none, none⟩ .failedOperation rfl (by decide +kernel) hdecode
  obtain rfl : status = ⟨.failed, none, none⟩ := Except.ok.inj (hstatus.symm.trans hresult)
  obtain rfl : "failed" = word := hreports.label
  exact ⟨_, hresult, hreports, (hreports.failure _).2 ⟨rfl, rfl⟩, rfl⟩

end ServiceBroker
