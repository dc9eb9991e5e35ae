/-
What a version and alpha features open. A check that is met in one setting is met in every wider one, and a call sends
the same request there but for the version in its header; a request that is invalid in a wider setting is invalid in
the narrower one too, unless it is refused there before it comes to that (`opened_perform`). Everything follows from
how one check behaves in two settings (`Check.run_widened`).
-/
import ServiceBroker.Proofs.AlphaFeatures
import ServiceBroker.Proofs.Inquiry.Isolation

namespace ServiceBroker

/-- A configuration with a version at least as new, with alpha features if the other one has them, and with everything
else as in the other one. -/
structure Config.WidenedTo (config wider : Config) : Prop where
  version : config.version ≤ wider.version
  alpha : config.alpha = true → wider.alpha = true
  same : wider = { config with version := wider.version, alpha := wider.alpha }

/-! ## Checks -/

section Checks

variable {version version' : Version} {alpha alpha' : Bool}

/-- A check comes out the same in a wider setting, or is a refusal in the narrower one. -/
theorem Check.run_widened (hv : version ≤ version') (ha : alpha = true → alpha' = true) (check : Check) :
    check.run version' alpha' = check.run version alpha ∨
      ∃ refusal, check.run version alpha = .error (.notAllowed refusal) := by
  cases check with
  | present field value => exact .inl rfl
  | atLeast required =>
    by_cases hr : required ≤ version
    · have hr' : required ≤ version' := Nat.le_trans hr hv
      exact .inl ((if_pos hr').trans (if_pos hr).symm)
    · exact .inr ⟨_, if_neg hr⟩
  | alpha feature =>
    cases alpha with
    | true =>
      rw [ha rfl]
      exact .inl rfl
    | false => exact .inr ⟨_, rfl⟩

/-- So do checks one after another: up to the first refusal they come out the same. -/
theorem Check.forM_widened (hv : version ≤ version') (ha : alpha = true → alpha' = true) (checks : List Check) :
    checks.forM (Check.run version' alpha') = checks.forM (Check.run version alpha) ∨
      ∃ refusal, checks.forM (Check.run version alpha) = .error (.notAllowed refusal) := by
  simp only [List.forM_eq_forM]
  induction checks with
  | nil => exact .inl rfl
  | cons check checks ih =>
    rw [List.forM_cons, List.forM_cons]
    rcases check.run_widened hv ha with hsame | ⟨refusal, hrefused⟩
    · rw [hsame]
      cases check.run version alpha with
      | error e => exact .inl rfl
      | ok => exact ih
    · rw [hrefused]
      exact .inr ⟨refusal, rfl⟩

end Checks

namespace Client

variable {c : Client} {health : Cache.Health} {cache : Cache} {call : Call} {d : Delivery}

/-! ## Requests -/

section Requests

variable {version : Version} {alpha : Bool}

/-- A call is prepared in a wider setting as in the narrower one, but for the version in the header, or is refused in
the narrower one. -/
theorem prepare_widened (hv : c.version ≤ version) (ha : c.alpha = true → alpha = true) (call : Call) :
    (c.regated version alpha).prepare call = (c.prepare call).map (·.withHeader versionHeader version.label) ∨
      ∃ refusal, c.prepare call = .error (.notAllowed refusal) := by
  have hcheck : (c.regated version alpha).check call = c.check call ∨
      ∃ refusal, c.check call = .error (.notAllowed refusal) := Check.forM_widened hv ha call.checks
  have hdraft : call.draft (c.regated version alpha).healthEndpoint = call.draft c.healthEndpoint := rfl
  unfold prepare
  rcases hcheck with hsame | ⟨refusal, hrefused⟩
  · rw [hsame, hdraft, address_regated]
    cases c.check call with
    | error e => exact .inl rfl
    | ok => cases c.address (call.draft c.healthEndpoint) <;> exact .inl rfl
  · rw [hrefused]
    exact .inr ⟨refusal, rfl⟩

theorem findsKept_regated :
    (c.regated version alpha).FindsKept health cache call ↔ c.FindsKept health cache call :=
  Iff.rfl

end Requests

theorem ofConfig_widened {config wider : Config} (hw : config.WidenedTo wider) {c' : Client}
    (hc : ofConfig config = .ok c) (hc' : ofConfig wider = .ok c') :
    c.version = config.version ∧ c.alpha = config.alpha ∧ c' = c.regated wider.version wider.alpha := by
  rw [hw.same] at hc'
  obtain ⟨url, _, hurl, rfl⟩ := ofConfig_eq_ok_iff.1 hc
  obtain ⟨url', _, hurl', rfl⟩ := ofConfig_eq_ok_iff.1 hc'
  obtain rfl := Except.ok.inj (hurl.symm.trans hurl')
  exact ⟨rfl, rfl, rfl⟩

/-! ## Refusals -/

/-- No reply makes a request invalid. -/
theorem answer_ne_invalidRequest (alpha : Bool) (e : Endpoint) (d : Delivery) (reason : InvalidRequest) :
    d.answer alpha e ≠ .error (.invalidRequest reason) := by
  intro h
  cases d with
  | lost cause => cases h
  | reply r =>
    have ho := Endpoint.outcome_answer alpha e r
    rw [show e.answer alpha r = .error (.invalidRequest reason) from h] at ho
    cases ho

/-- A call that fails for an invalid request looked for no catalog or found none, and its request could not be
prepared. -/
theorem prepare_of_result_invalidRequest {reason : InvalidRequest}
    (h : (c.perform health cache call d).1.result = .error (.invalidRequest reason)) :
    ¬ c.FindsKept health cache call ∧ c.prepare call = .error (.invalidRequest reason) := by
  have hk : ¬ c.FindsKept health cache call := by
    intro hk
    obtain ⟨answer, hanswer⟩ := result_perform_of_findsKept (d := d) hk
    rw [hanswer] at h
    cases h
  refine ⟨hk, ?_⟩
  cases hp : c.prepare call with
  | error e =>
    rw [result_perform_of_prepare_error hk hp] at h
    obtain rfl := Except.error.inj h
    rfl
  | ok request =>
    have hs : (c.perform health cache call d).1.sent ≠ [] := by
      rw [sent_perform_of_not_findsKept hk, hp]
      exact List.cons_ne_nil _ _
    obtain ⟨f, hf⟩ := result_perform_of_sent hs
    rw [hf] at h
    exact (answer_ne_invalidRequest _ _ _ _ (map_eq_error_iff.1 h)).elim

/-! ## Settings -/

/-- What a wider setting changes for a call, whatever the replies are. A request that is sent in the narrower setting
is sent in the wider one too, and is the same but for the value of the version header. A request that is invalid in the
wider setting is invalid for the same reason in the narrower one, or is refused there, and is sent in neither. -/
theorem opened_perform {config wider : Config} (hw : config.WidenedTo wider) {c' : Client}
    (hc : ofConfig config = .ok c) (hc' : ofConfig wider = .ok c') (health : Cache.Health) (cache : Cache) (call : Call)
    (d d' : Delivery) :
    (∀ request ∈ (c.perform health cache call d).1.sent,
      (c'.perform health cache call d').1.sent = [request.withHeader versionHeader wider.version.label]) ∧
    ∀ reason, (c'.perform health cache call d').1.result = .error (.invalidRequest reason) →
      (c'.perform health cache call d').1.sent = [] ∧ (c.perform health cache call d).1.sent = [] ∧
      ((c.perform health cache call d).1.result = .error (.invalidRequest reason) ∨
        ∃ refusal, (c.perform health cache call d).1.result = .error (.notAllowed refusal)) := by
  obtain ⟨hversion, halpha, rfl⟩ := ofConfig_widened hw hc hc'
  have hprepare := prepare_widened (hversion ▸ hw.version) (halpha ▸ hw.alpha) call
  constructor
  · intro request hs
    obtain ⟨hk, _, _⟩ := prepare_of_sent (List.ne_nil_of_mem hs)
    have hp := prepare_of_mem_sent hs
    rcases hprepare with hsame | ⟨refusal, hrefused⟩
    · rw [sent_perform_of_not_findsKept (findsKept_regated.not.2 hk), hsame, hp]
      rfl
    · rw [hp] at hrefused
      cases hrefused
  · intro reason hinvalid
    obtain ⟨hk', hp'⟩ := prepare_of_result_invalidRequest hinvalid
    have hk := findsKept_regated.not.1 hk'
    refine ⟨sent_perform_of_prepare_error hp', ?_⟩
    rcases hprepare with hsame | ⟨refusal, hrefused⟩
    · rw [hp'] at hsame
      have hp := map_eq_error_iff.1 hsame.symm
      exact ⟨sent_perform_of_prepare_error hp, .inl (result_perform_of_prepare_error hk hp)⟩
    · exact ⟨sent_perform_of_prepare_error hrefused, .inr ⟨refusal, result_perform_of_prepare_error hk hrefused⟩⟩

end Client

/-- How to reach a broker on the same machine in the oldest version. -/
def Config.oldest : Config :=
  { Config.ofUrl "http://[::1]/osb/" with version := .v2_11 }

/-- How to reach it in the newest version and with alpha features. -/
def Config.widest : Config :=
  { Config.ofUrl "http://[::1]/osb/" with alpha := true }

/-- What is sent for a removal in the oldest version. -/
def Http.Request.removal : Http.Request :=
  ⟨.delete, "http://[::1]/osb/v2/service_instances/a?service_id=s&plan_id=p",
    [("x-broker-api-version", "2.11"), ("accept", "application/json")], ""⟩

namespace Client

/-- A removal is sent in both settings. To look up an instance without an identifier is invalid in the newest version,
and refused in the oldest one before the identifier is looked at. -/
theorem opened_perform_oldest :
    Config.oldest.WidenedTo .widest ∧
    ((loopback.regated .v2_11 false).perform ⟨.sound, true⟩ .empty (.removing "a") .blank).1.sent = [.removal] ∧
    ((loopback.regated .v2_14 true).perform ⟨.sound, true⟩ .empty (.removing "a") .blank).1.sent =
      [Http.Request.removal.withHeader versionHeader "2.14"] ∧
    ((loopback.regated .v2_14 true).perform ⟨.sound, true⟩ .empty (.finding "") .blank).1.result =
      .error (.invalidRequest (.missing "instance_id")) ∧
    ∃ refusal, ((loopback.regated .v2_11 false).perform ⟨.sound, true⟩ .empty (.finding "") .blank).1.result =
      .error (.notAllowed refusal) := by
  have hw : Config.oldest.WidenedTo .widest := ⟨by decide, nofun, rfl⟩
  have hc : ofConfig .oldest = .ok (loopback.regated .v2_11 false) := toOption_eq_some_iff.1 (by decide +kernel)
  have hc' : ofConfig .widest = .ok (loopback.regated .v2_14 true) := toOption_eq_some_iff.1 (by decide +kernel)
  have hsent : ((loopback.regated .v2_11 false).perform ⟨.sound, true⟩ .empty (.removing "a") .blank).1.sent =
      [.removal] := by decide +kernel
  obtain ⟨hopened, _⟩ := opened_perform hw hc hc' ⟨.sound, true⟩ .empty (.removing "a") .blank .blank
  obtain ⟨_, hinvalid⟩ := opened_perform hw hc hc' ⟨.sound, true⟩ .empty (.finding "") .blank .blank
  refine ⟨hw, hsent, hopened .removal (hsent ▸ List.mem_cons_self), rfl, ?_⟩
  obtain ⟨_, _, hsame | hrefused⟩ := hinvalid _ rfl
  · cases hsame
  · exact hrefused

end Client

end ServiceBroker
