/-
Clients of different versions on one cache. What an inquiry answers does not depend on the version or the
alpha features of any client but its own: with other settings of the other clients the same events can
take place, the cache goes through the same states, and the inquiry answers the same.
-/
import ServiceBroker.Proofs.Inquiry.Provenance

namespace ServiceBroker

/-! ## Other settings -/

/-- A client with another version and other alpha features. -/
def Client.regated (c : Client) (version : Version) (alpha : Bool) : Client :=
  { c with version := version, alpha := alpha }

theorem isHeaderValue_label (v : Version) : Http.isHeaderValue v.label = true := by
  cases v <;> decide

theorem Client.headers_regated (c : Client) (version : Version) (alpha : Bool) (d : Draft) :
    (c.regated version alpha).headers d =
      (c.headers d).map fun h => if h.1 = versionHeader then (versionHeader, version.label) else h := by
  unfold headers regated
  cases c.auth <;> cases d.identity <;> cases d.body <;> rfl

/-- The version decides neither whether a request can be built nor why it cannot, and is found in its own header
only. -/
theorem Client.address_regated (c : Client) (version : Version) (alpha : Bool) (d : Draft) :
    (c.regated version alpha).address d = (c.address d).map (·.withHeader versionHeader version.label) := by
  refine address_withHeader rfl (c.headers_regated version alpha d) ?_
  simp [headers, regated, isHeaderValue_label]

theorem Client.prepare_getCatalog (c : Client) :
    c.prepare ⟨.getCatalog, ()⟩ =
      (c.address (Call.draft none ⟨.getCatalog, ()⟩)).mapError fun f => .invalidRequest (.unbuildable f) := by
  have hc : c.check ⟨.getCatalog, ()⟩ = .ok () := rfl
  have hd : Call.draft c.healthEndpoint ⟨.getCatalog, ()⟩ = Call.draft none ⟨.getCatalog, ()⟩ := rfl
  rw [prepare, hc, hd]
  generalize c.address (Call.draft none ⟨.getCatalog, ()⟩) = addressed
  cases addressed <;> rfl

theorem Client.prepare_regated (c : Client) (version : Version) (alpha : Bool) :
    ((c.regated version alpha).prepare ⟨.getCatalog, ()⟩).map (fun _ => ()) =
      (c.prepare ⟨.getCatalog, ()⟩).map (fun _ => ()) := by
  rw [prepare_getCatalog, prepare_getCatalog, address_regated]
  cases c.address (Call.draft none ⟨.getCatalog, ()⟩) <;> rfl

namespace Inquiry

/-- The same stage as two clients see it that differ in their version and alpha features at most. -/
inductive Stage.Alike (c c' : Client) : Stage → Stage → Prop
  | waiting : Alike c c' .waiting .waiting
  | entered : Alike c c' .entered .entered
  | missed : Alike c c' .missed .missed
  | asked (request request' : Http.Request) : Alike c c' (.asked request) (.asked request')
  | fetched (catalog : Catalog) : Alike c c' (.fetched catalog) (.fetched catalog)
  | leaving (answer : Except Error Catalog) :
    Alike c c' (.leaving (answer.map c.prune)) (.leaving (answer.map c'.prune))
  | finished (answer : Except Error Catalog) :
    Alike c c' (.finished (answer.map c.prune)) (.finished (answer.map c'.prune))
  | dropped : Alike c c' .dropped .dropped

theorem Stage.Alike.result?_eq {c : Client} {stage twin : Stage} (h : Stage.Alike c c stage twin) :
    twin.result? = stage.result? := by
  cases h <;> rfl

/-- A move that one client makes can be made by the other, with the same effect on the room. -/
theorem Moves.alike {c : Client} {version : Version} {alpha : Bool} {m : Move} {stage stage' twin : Stage}
    {room room' : Room} (h : Moves c m stage room stage' room')
    (ha : Stage.Alike c (c.regated version alpha) stage twin) :
    ∃ twin', Moves (c.regated version alpha) m twin room twin' room' ∧
      Stage.Alike c (c.regated version alpha) stage' twin' := by
  have hp := c.prepare_regated version alpha
  cases h with
  | lock hl => cases ha; exact ⟨_, .lock hl, .entered⟩
  | @hit how room catalog hf => cases ha; exact ⟨_, .hit hf, .leaving (.ok catalog)⟩
  | miss hf => cases ha; exact ⟨_, .miss hf, .missed⟩
  | send h =>
    cases ha
    rw [h] at hp
    cases hp' : (c.regated version alpha).prepare ⟨.getCatalog, ()⟩ with
    | error e => rw [hp'] at hp; cases hp
    | ok request => exact ⟨_, .send hp', .asked ..⟩
  | @unbuilt room e h =>
    cases ha
    rw [h] at hp
    cases hp' : (c.regated version alpha).prepare ⟨.getCatalog, ()⟩ with
    | error e' => rw [hp'] at hp; cases hp; exact ⟨_, .unbuilt hp', .leaving (.error _)⟩
    | ok request => rw [hp'] at hp; cases hp
  | brought hd =>
    cases ha
    exact ⟨_, .brought (answer_getCatalog_alpha c.alpha alpha _ ▸ hd), .fetched _⟩
  | failed hd =>
    cases ha
    exact ⟨_, .failed (answer_getCatalog_alpha c.alpha alpha _ ▸ hd), .leaving (.error _)⟩
  | @store works catalog => cases ha; exact ⟨_, .store, .leaving (.ok catalog)⟩
  | unlock => cases ha; exact ⟨_, .unlock, .finished _⟩
  | resign => cases ha; exact ⟨_, .resign, .dropped⟩
  | giveUp => cases ha; exact ⟨_, .giveUp, .dropped⟩
  | cutOff => cases ha; exact ⟨_, .cutOff, .dropped⟩

/-- A crowd whose clients have other versions and other alpha features. -/
def Crowd.regated (crowd : Crowd) (version : Nat → Version) (alpha : Nat → Bool) : Crowd :=
  ⟨fun k => (crowd.client k).regated (version k) (alpha k), crowd.asker⟩

/-- States that differ in nothing but what clients of other versions and alpha features see. -/
structure State.Alike (crowd crowd' : Crowd) (s s' : State) : Prop where
  cache : s'.cache = s.cache
  locked : s'.locked = s.locked
  stage : ∀ i, Stage.Alike (crowd.clientOf i) (crowd'.clientOf i) (s.stage i) (s'.stage i)

section Regated

variable {crowd : Crowd} {version : Nat → Version} {alpha : Nat → Bool} {s s' t : State}

theorem State.Alike.initial (version : Nat → Version) (alpha : Nat → Bool) (cache : Cache) :
    State.Alike crowd (crowd.regated version alpha) (.initial crowd cache)
      (.initial (crowd.regated version alpha) cache) := by
  refine ⟨rfl, rfl, fun i => ?_⟩
  show Stage.Alike _ _ (Stage.first (crowd.clientOf i)) (Stage.first (crowd.clientOf i))
  unfold Stage.first
  split
  · exact .waiting
  · exact .missed

theorem State.Alike.step {e : Event} (ha : State.Alike crowd (crowd.regated version alpha) s t)
    (h : s.step crowd e = some s') :
    ∃ t', t.step (crowd.regated version alpha) e = some t' ∧
      State.Alike crowd (crowd.regated version alpha) s' t' := by
  cases e with
  | clear => cases h; exact ⟨_, rfl, rfl, ha.locked, ha.stage⟩
  | move i m =>
    obtain ⟨stage, room, hm, rfl⟩ := State.step_move_iff.1 h
    obtain ⟨twin, hm', hs⟩ := hm.alike (ha.stage i)
    have hroom : s.room crowd i = t.room (crowd.regated version alpha) i := by
      simp only [State.room, ha.cache, ha.locked]; rfl
    rw [hroom] at hm'
    refine ⟨_, State.step_move_iff.2 ⟨twin, room, hm', rfl⟩, rfl, ?_, fun j => ?_⟩
    · simp only [State.behind, ha.locked]; rfl
    · by_cases hj : j = i
      · subst hj
        rw [State.behind_stage_self, State.behind_stage_self]
        exact hs
      · simp only [State.behind, replace_of_ne _ _ hj]
        exact ha.stage j

theorem State.Alike.run {events : List Event} (h : State.run crowd s events = some s')
    (ha : State.Alike crowd (crowd.regated version alpha) s t) :
    ∃ t', State.run (crowd.regated version alpha) t events = some t' ∧
      State.Alike crowd (crowd.regated version alpha) s' t' := by
  refine State.run_induction (P := fun es s' => ∃ t', State.run (crowd.regated version alpha) t es = some t' ∧
    State.Alike crowd (crowd.regated version alpha) s' t') ⟨t, rfl, ha⟩ ?_ h
  rintro before e after s s' _ _ ⟨t, hr, ha⟩ hst
  obtain ⟨t', ht, ha'⟩ := ha.step hst
  exact ⟨t', (State.run_concat_iff before e).2 ⟨t, hr, ht⟩, ha'⟩

end Regated

/-! ## The shared cache -/

/-- What holds of a cache that clients share, behind any run from the empty cache. -/
structure Isolated (crowd : Crowd) (events : List Event) (s : State) : Prop where
  /-- An entry is a complete catalog that was brought to one of the clients. -/
  entry : ∀ key catalog, s.cache.get? key = some catalog → key = Cache.catalogKey ∧ Brought events s catalog
  /-- No move of an inquiry whose fetch fails changes the cache. -/
  failure : ∀ i, FetchFails events i → ∀ before m after s₁ s₂, events = before ++ .move i m :: after →
    State.run crowd (.initial crowd .empty) before = some s₁ → s₁.step crowd (.move i m) = some s₂ →
    s₂.cache = s₁.cache
  /-- An answer is a catalog that was brought to one of the clients, pruned for the client that asked. -/
  answer : ∀ i result, s.stage i = .finished (.ok result) → ∃ catalog, Brought events s catalog ∧
    result = catalog.pruned (crowd.clientOf i).version (crowd.clientOf i).alpha
  /-- With other settings of other clients the cache and the results are the same. -/
  settings : ∀ version alpha, ∃ t, State.run (crowd.regated version alpha)
      (.initial (crowd.regated version alpha) .empty) events = some t ∧ t.cache = s.cache ∧
    ∀ i, (crowd.regated version alpha).clientOf i = crowd.clientOf i →
      (t.stage i).result? = (s.stage i).result?

/-- In whatever order inquiries move and the cache is cleared, a shared cache holds nothing but complete
catalogs, and what one client gets from it depends on no setting of another. -/
theorem shared_cache_isolates (crowd : Crowd) (events : List Event) (s : State)
    (h : State.run crowd (.initial crowd .empty) events = some s) : Isolated crowd events s := by
  have hp := provenance_of_run h
  constructor
  · intro key catalog hc
    obtain ⟨hk, hf⟩ := hp.cache key catalog hc
    exact ⟨hk, hf.brought h⟩
  · intro i hf before m after s₁ s₂ he h₁ h₂
    exact cache_eq_of_fetchFails h hf he h₁ h₂
  · intro i result hs
    obtain ⟨catalog, hf, hres⟩ := hp.answers i result (.inr hs)
    exact ⟨catalog, hf.brought h, hres⟩
  · intro version alpha
    obtain ⟨t, ht, ha⟩ := (State.Alike.initial version alpha .empty).run h
    refine ⟨t, ht, ha.cache, fun i hi => ?_⟩
    have hs := ha.stage i
    rw [hi] at hs
    exact hs.result?_eq

/-- An old client and a new one with alpha features, on one cache. -/
def oldAndNew : Crowd where
  client
    | 0 => .keeper .v2_11 false
    | _ => .keeper .v2_14 true
  asker := id

/-- The old client fetches a catalog, and the new one finds it. -/
def newAfterOld : List Event :=
  [.move 0 .lock, .move 0 (.read .sound), .move 0 .send, .move 0 (.receive .retrievable), .move 0 (.store true),
    .move 1 .lock, .move 1 (.read .sound), .move 0 .unlock, .move 1 .unlock]

/-- The old client's pruning takes nothing away from the new one. -/
theorem shared_cache_isolates_newAfterOld : ∃ s,
    State.run oldAndNew (.initial oldAndNew .empty) newAfterOld = some s ∧
    s.answer? 0 = some ⟨[.retrievable none]⟩ ∧ s.answer? 1 = some ⟨[.retrievable (some true)]⟩ ∧
    Isolated oldAndNew newAfterOld s := by
  have hr : (State.run oldAndNew (.initial oldAndNew .empty) newAfterOld).map
      (fun s => (s.answer? 0, s.answer? 1)) =
      some (some ⟨[.retrievable none]⟩, some ⟨[.retrievable (some true)]⟩) := by
    decide +kernel
  obtain ⟨s, hs, hres⟩ := Option.map_eq_some_iff.1 hr
  obtain ⟨h0, h1⟩ := Prod.mk.inj hres
  exact ⟨s, hs, h0, h1, shared_cache_isolates oldAndNew newAfterOld s hs⟩

end Inquiry

end ServiceBroker
