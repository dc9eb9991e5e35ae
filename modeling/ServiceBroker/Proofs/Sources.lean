/-
What errors came from. A failure is looked for in an error, then in what that came from, and so on to the end
(`find_eq_or`, `find_eq_none_iff`). An error that came from another one is no failure itself unless the other has
nothing to tell, so an error that is told apart is told apart in the same way however it is wrapped
(`found_in_wraps`). A transport error shows the source of its cause as its own: its cause is passed over, and what
that came from is not. So a transport error is told to be exactly what the source of its cause is told to be, however
it is wrapped (`transport_classified_iff`), and is taken for a failure of the broker if there is one behind its cause
(`transport_classified_proxied`).
-/
import Mathlib.Logic.Relation
import ServiceBroker.Proofs.Classification

namespace ServiceBroker

/-! ## Sources -/

/-- Texts as errors: the first came from the second, and so on. -/
def AnyError.ofTexts (message : String) : List String → AnyError
  | [] => .plain message
  | next :: rest => .wrapped message (ofTexts next rest)

/-- What a failure says that it came from. -/
def Structured.source? : Structured → Option AnyError
  | .httpStatus h => h.responseError.map fun e => .plain e.message
  | _ => none

mutual

/-- What an error of a call came from, if it came from anything. A transport error gives the source of its cause for its
own; what an error of a cluster came from is known as texts. -/
def Error.source? : Error → Option AnyError
  | .transport cause => cause.source?
  | .structured e => e.source?
  | .serialize e => some (.plain e.message)
  | .invalidUrl f => some (.plain f.message)
  | .kubernetes e => some (.ofTexts e.message e.sources)
  | .invalidRequest _ | .config _ => none

/-- What an error came from, if it came from anything. -/
def AnyError.source? : AnyError → Option AnyError
  | .client e => e.source?
  | .bare e => e.source?
  | .plain _ => none
  | .wrapped _ inner => some inner

end

namespace AnyError

/-- The failure that an error is, whatever it came from. -/
def own? : AnyError → Option Structured
  | .client (.structured e) | .bare e => some e
  | _ => none

/-- One error came from the other, at any number of steps. -/
def CameFrom : AnyError → AnyError → Prop :=
  Relation.TransGen fun e source => e.source? = some source

/-- An error in contexts, or in errors that came from it. -/
def within (messages : List String) (e : AnyError) : AnyError :=
  messages.foldr .wrapped e

variable {e source cause : AnyError} {pick : Structured → Option α}

/-- A failure came from a message at most: from the fault in its body. -/
theorem plain_of_source?_structured {s : Structured} (h : s.source? = some source) :
    ∃ message, source = .plain message := by
  cases s with
  | httpStatus f =>
    obtain ⟨fault, _, rfl⟩ := Option.map_eq_some_iff.1 h
    exact ⟨_, rfl⟩
  | _ => cases h

theorem chain_ofTexts (message : String) (rest : List String) : (ofTexts message rest).chain = message :: rest := by
  induction rest generalizing message with
  | nil => rfl
  | cons next rest ih => rw [ofTexts, AnyError.chain, ih]

theorem chain_structured (e : Structured) : e.chain = e.message :: (e.source?.map AnyError.chain).getD [] := by
  cases e with
  | httpStatus h => cases hr : h.responseError <;> simp [Structured.chain, Structured.source?, AnyError.chain, hr]
  | _ => rfl

/-- The sources are what is shown below the message of an error. -/
theorem chain_eq (e : AnyError) : e.chain = e.message :: (e.source?.map AnyError.chain).getD [] := by
  suffices h : ∃ message, e.chain = message :: (e.source?.map AnyError.chain).getD [] by
    obtain ⟨message, h⟩ := h
    rw [AnyError.message, h, List.headD_cons]
  match e with
  | .client (.transport cause) => exact ⟨cause.message, chain_eq cause⟩
  | .client (.structured e) | .bare e => exact ⟨e.message, chain_structured e⟩
  | .client (.kubernetes e) => exact ⟨_, congrArg (List.cons _) (chain_ofTexts e.message e.sources).symm⟩
  | .client (.serialize _) | .client (.invalidUrl _) => exact ⟨_, rfl⟩
  | .client (.invalidRequest _) | .client (.config _) | .plain _ | .wrapped _ _ => exact ⟨_, rfl⟩

theorem length_chain_lt (h : e.source? = some source) : source.chain.length < e.chain.length := by
  rw [chain_eq e, h]
  simp

/-! ## Looking for failures -/

/-- No text is a failure that can be told apart. -/
theorem find_ofTexts (message : String) (rest : List String) : (ofTexts message rest).find pick = none := by
  induction rest generalizing message with
  | nil => rfl
  | cons next rest ih => exact ih next

theorem find_source_structured (s : Structured) : s.source?.bind (find pick) = none := by
  cases hs : s.source? with
  | none => rfl
  | some source =>
    obtain ⟨message, rfl⟩ := plain_of_source?_structured hs
    rfl

theorem findBehind_eq (cause : AnyError) : cause.findBehind pick = cause.source?.bind (find pick) := by
  match cause with
  | .client (.transport cause) =>
    rw [findBehind, findBehind_eq cause]
    rfl
  | .client (.structured s) | .bare s =>
    rw [show (AnyError.source? _) = s.source? from rfl, find_source_structured]
    rfl
  | .client (.kubernetes e) => exact (find_ofTexts e.message e.sources).symm
  | .wrapped _ inner => rfl
  | .client (.serialize _) | .client (.invalidUrl _) => rfl
  | .client (.invalidRequest _) | .client (.config _) | .plain _ => rfl

/-- A failure is looked for in an error first, then in its source. -/
theorem find_eq_or (e : AnyError) : e.find pick = (e.own?.bind pick).or (e.source?.bind (find pick)) := by
  match e with
  | .client (.transport cause) => exact findBehind_eq cause
  | .client (.structured s) | .bare s =>
    show pick s = (pick s).or (s.source?.bind (find pick))
    rw [find_source_structured, Option.or_none]
  | .client (.kubernetes e) => exact (find_ofTexts e.message e.sources).symm
  | .wrapped _ inner => rfl
  | .client (.serialize _) | .client (.invalidUrl _) => rfl
  | .client (.invalidRequest _) | .client (.config _) | .plain _ => rfl

/-- Nothing is found exactly if there is nothing to find, in the error and in all that it came from. -/
theorem find_eq_none_iff (e : AnyError) :
    e.find pick = none ↔ e.own?.bind pick = none ∧ ∀ e', e.CameFrom e' → e'.own?.bind pick = none := by
  -- What an error came from shows a shorter chain.
  induction hn : e.chain.length using Nat.strong_induction_on generalizing e with
  | _ n ih =>
    subst hn
    rw [find_eq_or, Option.or_eq_none_iff]
    refine and_congr_right fun _ => ?_
    cases hs : e.source? with
    | none =>
      refine iff_of_true rfl fun e' he' => ?_
      obtain ⟨source, hsource, _⟩ := Relation.TransGen.head'_iff.1 he'
      rw [hs] at hsource
      cases hsource
    | some source =>
      rw [Option.bind_some, ih _ (length_chain_lt hs) source rfl]
      constructor
      · rintro ⟨hown, hrest⟩ e' he'
        obtain ⟨_, hsource, he'⟩ := Relation.TransGen.head'_iff.1 he'
        obtain rfl := Option.some.inj (hs.symm.trans hsource)
        rcases Relation.reflTransGen_iff_eq_or_transGen.1 he' with rfl | he'
        · exact hown
        · exact hrest e' he'
      · intro h
        exact ⟨h source (.single hs), fun e' he' => h e' (.head hs he')⟩

theorem find_within (messages : List String) (e : AnyError) : (e.within messages).find pick = e.find pick := by
  induction messages with
  | nil => rfl
  | cons message messages ih => exact ih

/-! ## Wraps -/

section Wraps

variable {w inner err : AnyError}

/-- Errors with the same failure behind them are of the same kinds. -/
theorem isOf_congr {e' : AnyError} (h : e.httpFailure? = e'.httpFailure?) (kind : HttpFailure.Kind) :
    e.isOf kind = e'.isOf kind := by
  cases kind <;> simp only [isOf, isConflict, isGone, breaks, h]

/-- The broker is busy with another operation. -/
def busy : AnyError :=
  let rule := HttpFailure.Rule.concurrency
  .client (.httpStatus ⟨422, some rule.word, some rule.description, none⟩)

end Wraps

/-! ## Transport errors -/

/-- A transport error came from what its cause came from. -/
theorem cameFrom_transport_iff : (AnyError.client (.transport cause)).CameFrom e ↔ cause.CameFrom e := by
  unfold CameFrom
  rw [Relation.TransGen.head'_iff, Relation.TransGen.head'_iff]
  rfl

theorem httpFailure?_transport (cause : AnyError) (messages : List String) :
    ((AnyError.client (.transport cause)).within messages).httpFailure? = cause.source?.bind httpFailure? := by
  unfold httpFailure?
  rw [find_within]
  exact findBehind_eq cause

theorem httpFailure?_eq_none_iff (e : AnyError) :
    e.httpFailure? = none ↔
      (∀ h, e.own? ≠ some (.httpStatus h)) ∧ ∀ e' h, e.CameFrom e' → e'.own? ≠ some (.httpStatus h) := by
  have hown (e : AnyError) : (e.own?.bind fun
      | .httpStatus h => some h
      | _ => none) = none ↔ ∀ h, e.own? ≠ some (.httpStatus h) := by
    rcases e.own? with _ | (_ | _ | _ | _) <;> simp
  refine (find_eq_none_iff e).trans (and_congr (hown e) ⟨fun h e' f he' => ?_, fun h e' he' => ?_⟩)
  · exact (hown e').1 (h e' he') f
  · exact (hown e').2 fun f => h e' f he'

theorem isOf_of_httpFailure?_eq_none (h : e.httpFailure? = none) (kind : HttpFailure.Kind) : e.isOf kind = false := by
  cases kind <;> simp only [isOf, isConflict, isGone, breaks, h] <;> rfl

/-- What a transport error is told to be, in any number of wraps: it is taken for a failure of the broker exactly
if its cause came from one, at any number of steps, and is of a kind exactly if the source of its cause is. Where
its cause came from none, it is of no kind. -/
theorem transport_classified_iff (cause : AnyError) (messages : List String) :
    let err := (AnyError.client (.transport cause)).within messages
    (err.isHttp = true ↔ ∃ e h, cause.CameFrom e ∧ e.own? = some (.httpStatus h)) ∧
    (∀ kind, err.isOf kind = true ↔ ∃ source, cause.source? = some source ∧ source.isOf kind = true) ∧
    ((∀ e h, cause.CameFrom e → e.own? ≠ some (.httpStatus h)) →
      err.httpFailure? = none ∧ ∀ kind, err.isOf kind = false) := by
  intro err
  have hnone : err.httpFailure? = none ↔ ∀ e h, cause.CameFrom e → e.own? ≠ some (.httpStatus h) := by
    have herr : err.httpFailure? = (AnyError.client (.transport cause)).httpFailure? := find_within messages _
    rw [herr, httpFailure?_eq_none_iff]
    simp only [cameFrom_transport_iff]
    exact and_iff_right (by simp [own?])
  refine ⟨?_, fun kind => ?_, fun h => ⟨hnone.2 h, isOf_of_httpFailure?_eq_none (hnone.2 h)⟩⟩
  · rw [isHttp, Option.isSome_iff_ne_none, ne_eq, hnone]
    push Not
    rfl
  · -- The failure behind the error is the one behind the source of the cause.
    have herr := httpFailure?_transport cause messages
    cases hs : cause.source? with
    | none =>
      rw [hs] at herr
      exact iff_of_false (Bool.eq_false_iff.1 (isOf_of_httpFailure?_eq_none herr kind)) (by simp)
    | some source =>
      rw [hs] at herr
      rw [isOf_congr herr]
      simp

/-- A proxy that was told of a conflict and fails for it makes the broker's conflict out of a broker that was not
heard. -/
theorem transport_classified_proxied :
    let err := Error.transport (.wrapped "proxy" (.client (.httpStatus ⟨409, none, none, none⟩)))
    err.isTransport = true ∧ (AnyError.client err).httpFailure? = some ⟨409, none, none, none⟩ ∧
      (AnyError.client err).isOf .conflict = true := by
  decide

end AnyError

end ServiceBroker
