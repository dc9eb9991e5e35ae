/-
Replies of newer brokers. A broker may say more than a client knows of, and say it in another order: an object that is
read as a record may get members whose names are no fields, and its members may be put in another order, at any depth
and any number of times. What was decoded is decoded again, and every call comes to what it came to before
(`tolerant_perform`). A call sees nothing of a body but what it decodes to, and whether it is blank
(`answer_withBody`).
-/
import Mathlib.Logic.Relation
import ServiceBroker.Proofs.Json.Rendering
import ServiceBroker.Proofs.Json.Soundness
import ServiceBroker.Proofs.Json.Tolerance
import ServiceBroker.Proofs.Outcome

namespace ServiceBroker

/-! ## Bodies that differ in what does not matter -/

namespace Json

variable {α : Type} {shape : Shape α} {body body' : List UInt8}

/-- An object or an array is no blank. -/
theorem Shape.Varies.bracket {bs bs' : List UInt8} (h : shape.Varies bs bs') :
    (91 ∈ bs ∨ 123 ∈ bs) ∧ (91 ∈ bs' ∨ 123 ∈ bs') := by
  have harray : ∀ g items, 91 ∈ arrayBytes g items := fun _ _ => List.mem_cons_self ..
  have hobject : ∀ g entries, 123 ∈ objectBytes g entries := fun _ _ => List.mem_cons_self ..
  induction h with
  | order | more | field => exact ⟨.inr (hobject ..), .inr (hobject ..)⟩
  | place | item => exact ⟨.inl (harray ..), .inl (harray ..)⟩
  | option _ ih | view _ ih => exact ih

theorem isBlankBody_of_bracket {g bs g' : List UInt8} (h : 91 ∈ bs ∨ 123 ∈ bs) :
    isBlankBody (g ++ bs ++ g') = false := by
  have hmem : ∀ b ∈ bs, b ∈ g ++ bs ++ g' := fun b hb =>
    List.mem_append_left _ (List.mem_append_right _ hb)
  rw [isBlankBody, List.all_eq_false]
  rcases h with h | h
  · exact ⟨91, hmem _ h, by decide⟩
  · exact ⟨123, hmem _ h, by decide⟩

theorem Shape.VariesDocument.isBlankBody_eq (h : shape.VariesDocument body body') :
    isBlankBody body' = isBlankBody body := by
  obtain ⟨g, bs, g₁, g', bs', g₁', _, _, _, _, rfl, rfl, hv⟩ := h
  obtain ⟨hb, hb'⟩ := hv.bracket
  rw [isBlankBody_of_bracket hb, isBlankBody_of_bracket hb']

/-- Any number of such differences leave a body what it was, if it decodes. -/
theorem decode_of_reflTransGen {a : α} (ha : shape.decode body = .ok a)
    (h : Relation.ReflTransGen shape.VariesDocument body body') :
    shape.decode body' = .ok a ∧ isBlankBody body' = isBlankBody body := by
  induction h with
  | refl => exact ⟨ha, rfl⟩
  | tail _ hstep ih =>
    obtain ⟨hdecode, hblank⟩ := ih
    refine ⟨?_, hstep.isBlankBody_eq.trans hblank⟩
    rw [← toOption_eq_some_iff, ← toOption_decode_of_varies hstep, hdecode]
    rfl

/-- A form sees no difference between two bodies. -/
structure Form.Same (form : Form) (body body' : List UInt8) : Prop where
  decode : form.shape.decode body' = form.shape.decode body
  blank : isBlankBody body' = isBlankBody body

end Json

open Json (Form)

/-! ## What a call sees of a body -/

namespace Endpoint

/-- What the body of a reply with a status is read as, if it is looked at. -/
def form? (alpha : Bool) (e : Endpoint) (status : Nat) : Option Form :=
  if status ∈ e.grants alpha then if status ∈ e.grantsUnread then none else e.grantForm?
  else if e = checkAvailability then none
  else some ⟨_, FailureBody.shape⟩

variable {alpha : Bool} {e : Endpoint} {r : Http.Reply} {status : Nat} {headers : List (String × List UInt8)}
  {body body' : List UInt8}

theorem decode_withBody {α : Type} {shape : Json.Shape α} (h : Form.Same ⟨α, shape⟩ body body') :
    Http.Reply.decode shape ⟨status, headers, body'⟩ = Http.Reply.decode shape ⟨status, headers, body⟩ := by
  unfold Http.Reply.decode
  dsimp only
  rw [show shape.decode body' = shape.decode body from h.decode]

theorem decodeOr_withBody {α : Type} {shape : Json.Shape α} (h : Form.Same ⟨α, shape⟩ body body') (default : α) :
    Http.Reply.decodeOr default shape ⟨status, headers, body'⟩ =
      Http.Reply.decodeOr default shape ⟨status, headers, body⟩ := by
  unfold Http.Reply.decodeOr
  dsimp only
  rw [h.blank, decode_withBody h]

theorem failure_withBody (h : e ≠ checkAvailability → Form.Same ⟨_, FailureBody.shape⟩ body body') :
    e.failure ⟨status, headers, body'⟩ = e.failure ⟨status, headers, body⟩ := by
  by_cases he : e = checkAvailability
  · subst he
    rfl
  · have hdecode : FailureBody.shape.decode body' = FailureBody.shape.decode body := (h he).decode
    have hreason : HttpFailure.ofResponse status body' = HttpFailure.ofResponse status body := by
      unfold HttpFailure.ofResponse
      rw [hdecode]
    rw [failure_of_ne he, failure_of_ne he]
    exact congrArg Error.httpStatus hreason

/-- A grant that is read is read from nothing but what the body decodes to. -/
theorem answer_grant (hg : status ∈ e.grants alpha)
    (h : ∀ form ∈ e.form? alpha status, form.Same body body') :
    e.answer alpha ⟨status, headers, body'⟩ = e.answer alpha ⟨status, headers, body⟩ := by
  rw [form?, if_pos hg] at h
  cases grantReading_of_mem_grants hg with
  | fixed answer _ ha => rw [ha, ha]
  | optional form default make hu _ hf ha =>
    rw [if_neg hu, hf] at h
    rw [ha, ha, decodeOr_withBody (h form rfl)]
  | needed form make hu _ hf ha =>
    rw [if_neg hu, hf] at h
    rw [ha, ha, decode_withBody (h form rfl)]

/-- An answer depends on nothing but what the body decodes to, and whether it is blank. -/
theorem answer_withBody (h : ∀ form ∈ e.form? alpha r.status, form.Same r.body body') :
    e.answer alpha { r with body := body' } = e.answer alpha r := by
  obtain ⟨status, headers, body⟩ := r
  by_cases hg : status ∈ e.grants alpha
  · exact answer_grant hg h
  · have hf : ∀ b, e.answer alpha ⟨status, headers, b⟩ = .error (e.failure ⟨status, headers, b⟩) := fun _ =>
      answer_of_not_mem_grants hg
    dsimp only
    rw [hf, hf, failure_withBody]
    intro he
    refine h _ ?_
    rw [form?, if_neg hg, if_neg he]
    rfl

end Endpoint

namespace Client

/-- Two deliveries that bring the same answer make no difference. -/
theorem perform_of_answer_eq (c : Client) (health : Cache.Health) (cache : Cache) {call : Call} {d d' : Delivery}
    (h : d'.answer c.alpha call.endpoint = d.answer c.alpha call.endpoint) :
    c.perform health cache call d' = c.perform health cache call d := by
  have hexchange : c.exchange call d' = c.exchange call d := by
    unfold exchange
    rw [h]
  by_cases he : call.endpoint = .getCatalog
  · obtain ⟨endpoint, request⟩ := call
    subst he
    show c.getCatalog health cache d' = c.getCatalog health cache d
    unfold getCatalog
    rw [show c.exchange ⟨.getCatalog, ()⟩ d' = c.exchange ⟨.getCatalog, ()⟩ d from hexchange]
  · rw [perform_eq_exchange he, perform_eq_exchange he, hexchange]

/-- Whatever a shape decodes is JSON, and decodes to the same value once objects that are read as records have more
members or their members stand in another order; and every call comes to the same then. -/
theorem tolerant_perform :
    (∀ {α : Type} (shape : Json.Shape α) (body : List UInt8) (a : α), shape.decode body = .ok a →
      Json.IsDocument body ∧
        ∀ body', Relation.ReflTransGen shape.VariesDocument body body' → shape.decode body' = .ok a) ∧
    ∀ (c : Client) (health : Cache.Health) (cache : Cache) (call : Call) (r : Http.Reply) (body' : List UInt8),
      (∀ form ∈ call.endpoint.form? c.alpha r.status, (∃ a, form.shape.decode r.body = .ok a) ∧
        Relation.ReflTransGen form.shape.VariesDocument r.body body') →
      c.perform health cache call (.reply { r with body := body' }) = c.perform health cache call (.reply r) := by
  constructor
  · intro α shape body a ha
    exact ⟨Json.isDocument_of_decode ha, fun body' h => (Json.decode_of_reflTransGen ha h).1⟩
  · intro c health cache call r body' h
    refine c.perform_of_answer_eq health cache (Endpoint.answer_withBody ?_)
    intro form hform
    obtain ⟨⟨a, ha⟩, hvaried⟩ := h form hform
    obtain ⟨hdecode, hblank⟩ := Json.decode_of_reflTransGen ha hvaried
    exact ⟨hdecode.trans ha.symm, hblank⟩

end Client

/-! ## Pages -/

namespace InstancesPage

open Json (Entry IsValue SpellsExponent SpellsWhole arrayBytes bytesOf digitBytes gap_nil objectBytes)

/-- A member without blanks, its name printed. -/
def member (name : String) (value : List UInt8) : Entry :=
  ⟨[], bytesOf (name.toList.flatMap Json.renderChar), [], ⟨[], value, []⟩⟩

/-- The members of an instance in a list. -/
def summary : List Entry :=
  [member "instance_id" (bytesOf (Json.renderText "i")), member "service_id" (bytesOf (Json.renderText "s")),
    member "plan_id" (bytesOf (Json.renderText "p"))]

/-- The list of one instance. -/
def listing (summary : List Entry) : Entry :=
  member "instances" (arrayBytes [] [⟨[], objectBytes [] summary, []⟩])

/-- A page as an older broker writes it. -/
def older : List UInt8 :=
  objectBytes [] [listing summary]

/-- The same page from a newer broker, with a number that is out of range behind a name that is no field. -/
def newer : List UInt8 :=
  objectBytes [] [member "weight" [49, 101, 57, 57, 57], listing summary.reverse]

theorem spaced_member (name : String) (value : List UInt8) : (member name value).Spaced :=
  ⟨gap_nil, (Json.spellsChars_flatMap _).passes, gap_nil, ⟨gap_nil, gap_nil⟩⟩

theorem proper_member (name : String) {value : List UInt8} (h : IsValue value) : (member name value).Proper :=
  ⟨spaced_member name value, h⟩

theorem isValue_text (s : String) : IsValue (bytesOf (Json.renderText s)) := by
  rw [Json.bytesOf_renderText]
  exact .text (Json.spellsChars_flatMap _).passes

theorem isValue_object {entries : List Entry} (h : ∀ e ∈ entries, e.Proper) : IsValue (objectBytes [] entries) :=
  .object gap_nil (fun e he => (h e he).spaced) fun e he => (h e he).value

theorem proper_summary : ∀ e ∈ summary, e.Proper := by
  simp only [summary, List.forall_mem_cons]
  exact ⟨proper_member _ (isValue_text _), proper_member _ (isValue_text _), proper_member _ (isValue_text _), nofun⟩

theorem proper_listing {summary : List Entry} (h : ∀ e ∈ summary, e.Proper) : (listing summary).Proper := by
  refine proper_member _ (.array gap_nil ?_ ?_)
  · exact List.forall_mem_singleton.2 ⟨gap_nil, gap_nil⟩
  · exact List.forall_mem_singleton.2 (isValue_object h)

/-- An exponent no double has. -/
theorem isValue_outOfRange : IsValue [49, 101, 57, 57, 57] := by
  have hwhole : SpellsWhole (digitBytes [1]) [1] := .figures (by decide) ⟨by decide, by decide⟩
  have hexponent : SpellsExponent (101 :: digitBytes [9, 9, 9]) (some (false, [9, 9, 9])) :=
    .unsigned (.inl rfl) ⟨by decide, by decide⟩
  exact .number (.unsigned hwhole .absent hexponent)

/-- First the members of the instance change places, then the page gets one more. -/
theorem varied_newer : Relation.ReflTransGen shape.VariesDocument older newer := by
  have hperm : (summary.map Entry.said).Perm (summary.reverse.map Entry.said) :=
    (List.reverse_perm summary).symm.map Entry.said
  have hreversed : ∀ e ∈ summary.reverse, e.Proper := fun e he => proper_summary e (List.mem_reverse.1 he)
  have hinstance : InstanceSummary.shape.Varies (objectBytes [] summary) (objectBytes [] summary.reverse) :=
    .view (.order gap_nil gap_nil proper_summary (fun e he => (hreversed e he).spaced) hperm)
  have hlist : (Json.Shape.list InstanceSummary.shape).Varies
      (arrayBytes [] ([] ++ ⟨[], objectBytes [] summary, []⟩ :: []))
      (arrayBytes []
        ([] ++ Json.Item.holding ⟨[], objectBytes [] summary, []⟩ (objectBytes [] summary.reverse) :: [])) :=
    .item gap_nil nofun ⟨gap_nil, gap_nil⟩ hinstance
  have hplaces : shape.Varies (objectBytes [] ([] ++ listing summary :: []))
      (objectBytes [] ([] ++ (listing summary).holding _ :: [])) :=
    .view (.field gap_nil nofun (spaced_member ..) (Json.spellsChars_flatMap _) .here hlist)
  have hmore : shape.Varies (objectBytes [] ([] ++ [listing summary.reverse])) newer :=
    .view (.more gap_nil gap_nil (List.forall_mem_singleton.2 (proper_listing hreversed))
      (proper_member _ isValue_outOfRange) (Json.spellsChars_flatMap _) (by decide +kernel))
  have hdocument : ∀ {bs bs'}, shape.Varies bs bs' → shape.VariesDocument bs bs' := fun hv =>
    ⟨[], _, [], [], _, [], gap_nil, gap_nil, gap_nil, gap_nil, by simp, by simp, hv⟩
  exact .tail (.single (hdocument hplaces)) (hdocument hmore)

/-- A page without instances. -/
def vacant : Entry :=
  member "instances" [91, 93]

/-- A member named by a surrogate that stands alone. -/
def unnameable : Entry :=
  ⟨[], [92, 117, 100, 56, 48, 48], [], ⟨[], [49], []⟩⟩

/-- Not every name that can be written is a text. A member whose name is none is not passed over, though it names no
field either. -/
theorem intolerant_unnameable :
    shape.decode (objectBytes [] [vacant]) = .ok ⟨[], none⟩ ∧ unnameable.Proper ∧
      (∀ name, Json.contentsIn unnameable.name ≠ .ok name) ∧
      ∀ page, shape.decode (objectBytes [] [vacant, unnameable]) ≠ .ok page := by
  have hproper : unnameable.Proper :=
    ⟨⟨gap_nil, .code rfl .nil, gap_nil, ⟨gap_nil, gap_nil⟩⟩, .number (.unsigned (.figures (by decide)
      ⟨by decide, by decide⟩ : SpellsWhole (digitBytes [1]) [1]) .absent .absent)⟩
  have hvacant : (shape.decode (objectBytes [] [vacant])).toOption = some ⟨[], none⟩ := by decide +kernel
  have hrefused : (shape.decode (objectBytes [] [vacant, unnameable])).toOption = none := by decide +kernel
  have hname : (Json.contentsIn unnameable.name).toOption = none := by decide +kernel
  refine ⟨toOption_eq_some_iff.1 hvacant, hproper, ?_, ?_⟩
  · intro name h
    rw [h] at hname
    cases hname
  · intro page h
    rw [h] at hrefused
    cases hrefused

end InstancesPage

/-- Instances are asked for. -/
def Call.listing : Call :=
  ⟨.listInstances, ⟨none, none⟩⟩

/-- A reply that grants a call. -/
def Http.Reply.granting (body : List UInt8) : Http.Reply := ⟨200, [], body⟩

theorem Client.tolerant_perform_newer :
    InstancesPage.shape.decode InstancesPage.newer = .ok ⟨[⟨"i", "s", "p", none⟩], none⟩ ∧
    (Client.keeper .v2_14 true).perform ⟨.sound, true⟩ .empty .listing (.reply (.granting InstancesPage.newer)) =
      (Client.keeper .v2_14 true).perform ⟨.sound, true⟩ .empty .listing (.reply (.granting InstancesPage.older)) := by
  have holder : InstancesPage.shape.decode InstancesPage.older = .ok ⟨[⟨"i", "s", "p", none⟩], none⟩ :=
    toOption_eq_some_iff.1 (by decide +kernel)
  obtain ⟨hdecode, hperform⟩ := Client.tolerant_perform
  refine ⟨(hdecode _ _ _ holder).2 _ InstancesPage.varied_newer, ?_⟩
  refine hperform _ _ _ .listing (.granting InstancesPage.older) InstancesPage.newer ?_
  intro form hform
  obtain rfl := Option.some.inj (show some _ = some form from hform)
  exact ⟨⟨_, holder⟩, InstancesPage.varied_newer⟩

end ServiceBroker
