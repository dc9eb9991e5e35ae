/-
Where catalogs come from. Whatever clients share a cache, and in whatever order their inquiries move, the
cache holds nothing but complete catalogs that replies brought, a fetch that fails leaves it alone, and
every answer is such a catalog, pruned for the client that asked and for no other.
-/
import ServiceBroker.Proofs.Admission
import ServiceBroker.Proofs.Inquiry.Run

namespace ServiceBroker

/-! ## Replies that bring a catalog -/

theorem reading_getCatalog (alpha : Bool) (status : Nat) :
    Endpoint.reading alpha .getCatalog status =
      if status = 200 then .body (·.decodeOr Catalog.blank Catalog.shape) else .failure := by
  split
  · rename_i h; subst h; rfl
  · rename_i h
    unfold Endpoint.reading
    split <;> simp_all

/-- A delivery brings a catalog if it is a reply with status 200 and a body that decodes to it. -/
def Delivery.Brings (d : Delivery) (catalog : Catalog) : Prop :=
  ∃ r, d = .reply r ∧ r.status = 200 ∧ r.decodeOr Catalog.blank Catalog.shape = .ok catalog

theorem answer_getCatalog_eq_ok_iff {alpha : Bool} {d : Delivery} {catalog : Catalog} :
    d.answer alpha .getCatalog = .ok catalog ↔ d.Brings catalog := by
  cases d with
  | lost cause => simp [Delivery.answer, Delivery.Brings]
  | reply r =>
    simp only [Delivery.answer, Endpoint.answer, reading_getCatalog, Delivery.Brings, Delivery.reply.injEq,
      exists_eq_left']
    by_cases hs : r.status = 200
    · simp [hs]
    · simp [hs]

/-- A delivery that brings no catalog is heard as an error. -/
theorem answer_getCatalog_of_not_brings (alpha : Bool) {d : Delivery} (h : ∀ catalog, ¬ d.Brings catalog) :
    ∃ e, d.answer alpha .getCatalog = .error e := by
  cases ha : d.answer alpha .getCatalog with
  | error e => exact ⟨e, rfl⟩
  | ok catalog => exact absurd (answer_getCatalog_eq_ok_iff.1 ha) (h catalog)

/-- Alpha features make no difference to what a delivery brings. -/
theorem answer_getCatalog_alpha (alpha alpha' : Bool) (d : Delivery) :
    d.answer alpha .getCatalog = d.answer alpha' .getCatalog := by
  cases d with
  | lost cause => rfl
  | reply r => simp only [Delivery.answer, Endpoint.answer, reading_getCatalog]

namespace Inquiry

/-! ## Provenance -/

/-- An inquiry that sent its request received a delivery that brought a catalog. -/
def Brought (events : List Event) (s : State) (catalog : Catalog) : Prop :=
  ∃ i request d, (i, request) ∈ s.sent ∧ .move i (.receive d) ∈ events ∧ d.Brings catalog

/-- An inquiry received a delivery that brought no catalog: its request was lost, or the reply had another
status than 200, or its body did not decode. -/
def FetchFails (events : List Event) (i : Nat) : Prop :=
  ∃ d, .move i (.receive d) ∈ events ∧ ∀ catalog, ¬ d.Brings catalog

/-- An inquiry heard of a catalog. -/
def Fetches (crowd : Crowd) (events : List Event) (catalog : Catalog) : Prop :=
  ∃ i d, .move i (.receive d) ∈ events ∧ d.answer (crowd.clientOf i).alpha .getCatalog = .ok catalog

/-- The stage is behind an answer that holds a catalog. -/
def Stage.Answers (stage : Stage) (result : Catalog) : Prop :=
  stage = .leaving (.ok result) ∨ stage = .finished (.ok result)

/-- The cache and the answers hold nothing but catalogs that were fetched. -/
structure Provenance (crowd : Crowd) (events : List Event) (s : State) : Prop where
  cache : ∀ key catalog, s.cache.get? key = some catalog →
    key = Cache.catalogKey ∧ Fetches crowd events catalog
  answers : ∀ i result, (s.stage i).Answers result →
    ∃ catalog, Fetches crowd events catalog ∧ result = (crowd.clientOf i).prune catalog

variable {crowd : Crowd} {events : List Event} {s s' : State} {cache : Cache} {i : Nat} {m : Move}

theorem Fetches.mono {catalog : Catalog} (h : Fetches crowd events catalog) (es : List Event) :
    Fetches crowd (events ++ es) catalog := by
  obtain ⟨i, d, hd, ha⟩ := h
  exact ⟨i, d, List.mem_append_left _ hd, ha⟩

theorem fetches_of_fetched (h : State.run crowd (.initial crowd cache) events = some s) {catalog : Catalog}
    (hs : s.stage i = .fetched catalog) : Fetches crowd events catalog := by
  obtain ⟨d, hd, ha⟩ := (trail_of_run h i).receive_of_fetched hs
  exact ⟨i, d, mem_movesOf.1 hd, ha⟩

theorem Fetches.brought (h : State.run crowd (.initial crowd cache) events = some s) {catalog : Catalog}
    (hf : Fetches crowd events catalog) : Brought events s catalog := by
  obtain ⟨i, d, hd, ha⟩ := hf
  obtain ⟨hs, request, hp⟩ := (trail_of_run h i).send_of_receive (mem_movesOf.2 hd)
  have hsent : (i, request) ∈ s.sent := (mem_sent_iff h i request).2 ⟨mem_movesOf.1 hs, hp⟩
  exact ⟨i, request, d, hsent, hd, answer_getCatalog_eq_ok_iff.1 ha⟩

theorem get?_of_find {how : Cache.Read} {catalog : Catalog} (h : how.find cache = some catalog) :
    cache.get? Cache.catalogKey = some catalog := by
  cases how with
  | sound => exact h
  | forgetful => cases h
  | failing => cases h

/-- Whatever a store leaves in the cache was there before or is what was stored. -/
theorem get?_stored {c : Client} {works : Bool} {catalog stored : Catalog} {room : Room} {key : String}
    (h : (room.stored c works stored).cache.get? key = some catalog) :
    room.cache.get? key = some catalog ∨ (key = Cache.catalogKey ∧ catalog = stored) := by
  unfold Room.stored at h
  split at h
  · simp only [Cache.keep] at h
    split at h
    · by_cases hk : key = Cache.catalogKey
      · subst hk
        rw [Cache.get?_set_self] at h; cases h
        exact .inr ⟨rfl, rfl⟩
      · rw [Cache.get?_set_of_ne _ _ hk] at h
        exact .inl h
    · exact .inl h
  · exact .inl h

theorem left_cache (c : Client) (room : Room) : (room.left c).cache = room.cache := by
  unfold Room.left
  split <;> rfl

/-- Only the storing of a fetched catalog changes the cache. -/
theorem Moves.cache_eq {c : Client} {stage stage' : Stage} {room room' : Room}
    (h : Moves c m stage room stage' room') (hs : ∀ catalog, stage ≠ .fetched catalog) : room'.cache = room.cache := by
  cases h with
  | @store works catalog => exact absurd rfl (hs catalog)
  | unlock => exact left_cache c room
  | giveUp => exact left_cache c room
  | cutOff => exact left_cache c room
  | _ => rfl

/-- What a move leaves in the cache was fetched. -/
theorem Provenance.move_cache (hp : Provenance crowd events s)
    (hr : State.run crowd (.initial crowd cache) events = some s) {stage : Stage} {room : Room}
    (hm : Moves (crowd.clientOf i) m (s.stage i) (s.room crowd i) stage room)
    {key : String} {catalog : Catalog} (hc : room.cache.get? key = some catalog) :
    key = Cache.catalogKey ∧ Fetches crowd events catalog := by
  generalize hst : s.stage i = stage₀ at hm
  by_cases hf : ∃ fetched, stage₀ = .fetched fetched
  · obtain ⟨fetched, rfl⟩ := hf
    cases hm with
    | store =>
      rcases get?_stored hc with hc | ⟨rfl, rfl⟩
      · exact hp.cache key catalog hc
      · exact ⟨rfl, fetches_of_fetched hr hst⟩
  · push Not at hf
    rw [hm.cache_eq hf] at hc
    exact hp.cache key catalog hc

/-- An inquiry answers a copy of what it found in the cache or of what it fetched, or as it did before its move. -/
theorem Moves.copy_of_answers {c : Client} {stage stage' : Stage} {room room' : Room} {result : Catalog}
    (h : Moves c m stage room stage' room') (ha : stage'.Answers result) :
    (∃ catalog, room.cache.get? Cache.catalogKey = some catalog ∧ result = c.prune catalog) ∨
    (∃ works catalog, m = .store works ∧ stage = .fetched catalog ∧ result = c.prune catalog) ∨
    stage.Answers result := by
  rcases ha with rfl | rfl
  · cases h with
    | hit hf => exact .inl ⟨_, get?_of_find hf, rfl⟩
    | store => exact .inr (.inl ⟨_, _, rfl, rfl, rfl⟩)
  · cases h with
    | unlock => exact .inr (.inr (.inl rfl))

/-- What an inquiry answers behind its move was fetched. -/
theorem Provenance.move_answers (hp : Provenance crowd events s)
    (hr : State.run crowd (.initial crowd cache) events = some s) {stage : Stage} {room : Room}
    (hm : Moves (crowd.clientOf i) m (s.stage i) (s.room crowd i) stage room) {result : Catalog}
    (ha : stage.Answers result) :
    ∃ catalog, Fetches crowd events catalog ∧ result = (crowd.clientOf i).prune catalog := by
  rcases hm.copy_of_answers ha with ⟨catalog, hc, hres⟩ | ⟨_, catalog, _, hst, hres⟩ | ha
  · exact ⟨catalog, (hp.cache _ _ hc).2, hres⟩
  · exact ⟨catalog, fetches_of_fetched hr hst, hres⟩
  · exact hp.answers i result ha

theorem provenance_of_run (h : State.run crowd (.initial crowd .empty) events = some s) :
    Provenance crowd events s := by
  refine State.run_induction (P := Provenance crowd) ?_ ?_ h
  · refine ⟨fun key catalog hc => ?_, fun i result ha => ?_⟩
    · rw [State.initial, Cache.get?_empty] at hc; cases hc
    · simp only [State.initial, Stage.first] at ha
      split at ha <;> rcases ha with ha | ha <;> cases ha
  · intro before e after s s' _ hr hp hst
    cases e with
    | clear =>
      cases hst
      refine ⟨fun key catalog hc => ?_, fun i result ha => ?_⟩
      · rw [Cache.get?_empty] at hc; cases hc
      · obtain ⟨catalog, hf, hres⟩ := hp.answers i result ha
        exact ⟨catalog, hf.mono _, hres⟩
    | move i m =>
      obtain ⟨stage, room, hm, rfl⟩ := State.step_move_iff.1 hst
      refine ⟨fun key catalog hc => ?_, fun j result ha => ?_⟩
      · exact (hp.move_cache hr hm hc).imp_right (·.mono _)
      · have hj : ∃ catalog, Fetches crowd before catalog ∧ result = (crowd.clientOf j).prune catalog := by
          by_cases hji : j = i
          · subst hji
            rw [State.behind_stage_self] at ha
            exact hp.move_answers hr hm ha
          · simp only [State.behind, replace_of_ne _ _ hji] at ha
            exact hp.answers j result ha
        obtain ⟨catalog, hf, hres⟩ := hj
        exact ⟨catalog, hf.mono _, hres⟩

/-! ## Failures -/

/-- An inquiry whose fetch fails never changes the cache, before or after. -/
theorem cache_eq_of_fetchFails (h : State.run crowd (.initial crowd cache) events = some s)
    (hf : FetchFails events i) {before after : List Event} {s₁ s₂ : State}
    (he : events = before ++ .move i m :: after) (h₁ : State.run crowd (.initial crowd cache) before = some s₁)
    (h₂ : s₁.step crowd (.move i m) = some s₂) : s₂.cache = s₁.cache := by
  obtain ⟨stage, room, hm, rfl⟩ := State.step_move_iff.1 h₂
  refine hm.cache_eq fun catalog hs => ?_
  -- a fetched catalog and a failure cannot both show at the end of the run
  obtain ⟨d, hd, ha⟩ := (trail_of_run h₁ i).receive_of_fetched hs
  obtain ⟨d', hd', hnone⟩ := hf
  obtain ⟨e, ha'⟩ := answer_getCatalog_of_not_brings (crowd.clientOf i).alpha hnone
  have hd : .receive d ∈ movesOf i events := by
    rw [he, movesOf_append]
    exact List.mem_append_left _ hd
  have hok := (trail_of_run h i).shows_of_receive hd
  have herr := (trail_of_run h i).shows_of_receive (mem_movesOf.2 hd')
  rw [ha] at hok
  rw [ha'] at herr
  generalize s.stage i = stage at hok herr
  cases hok <;> cases herr

/-! ## Answers on a small scale -/

/-- The catalog that an inquiry answered, if it did. -/
def State.answer? (s : State) (i : Nat) : Option Catalog :=
  (s.stage i).result?.bind Except.toOption

end Inquiry

/-- A client of the broker at `http://b` that keeps the catalog. -/
def Client.keeper (version : Version) (alpha : Bool) : Client :=
  ⟨"b", ⟨"http", some ⟨"", none, "b", none⟩, .segments [""], none, none⟩, version, none, alpha, none, true, rfl⟩

/-- A service that a version may or may not show to be retrievable. -/
def Service.retrievable (shown : Option Bool) : Service :=
  ⟨"s", "s", "s", [], [], true, shown, none, none, none, none, []⟩

/-- A reply that brings this service. -/
def Delivery.retrievable : Delivery :=
  .reply ⟨200, [], Utf8.encode ("\x7b\"services\":[\x7b\"id\":\"s\",\"name\":\"s\",\"description\":\"s\"," ++
    "\"bindable\":true,\"instances_retrievable\":true,\"plans\":[]\x7d]\x7d")⟩

end ServiceBroker
