/-
What becomes of the first catalog that is stored. In a cache that is not cleared and does not fail, a catalog
stays until another is stored in its place. That takes an inquiry that looks into the cache before the first
one is stored and stores its own afterwards; and it is an inquiry of another client, for those of one client
take turns.
-/
import ServiceBroker.Proofs.Inquiry.Provenance
import ServiceBroker.Proofs.Inquiry.Turns

namespace ServiceBroker.Inquiry

/-! ## What is kept -/

/-- The catalog that the cache keeps for the clients. -/
def State.kept? (s : State) : Option Catalog := s.cache.get? Cache.catalogKey

/-- Every client keeps the catalog. -/
def Crowd.Keeps (crowd : Crowd) : Prop := ∀ i, (crowd.clientOf i).keepsCatalog = true

/-- Reads find what is kept, stores succeed, and nobody clears the cache. -/
def Event.Faithful : Event → Prop
  | .move _ (.read how) => how = .sound
  | .move _ (.store works) => works = true
  | .move _ _ => True
  | .clear => False

section

variable {crowd : Crowd} {s s' : State} {events : List Event} {i : Nat}

/-- A store leaves its catalog in the cache, and no other event changes what is kept. -/
theorem kept?_of_step (hk : crowd.Keeps) {e : Event} (he : e.Faithful) (h : s.step crowd e = some s') :
    (∃ i catalog, e = .move i (.store true) ∧ s.stage i = .fetched catalog ∧
      s'.stage i = .leaving (.ok ((crowd.clientOf i).prune catalog)) ∧ s'.kept? = some catalog) ∨
    ((∀ i works, e ≠ .move i (.store works)) ∧ s'.kept? = s.kept?) := by
  cases e with
  | clear => exact he.elim
  | move i m =>
    obtain ⟨stage, room, hm, rfl⟩ := State.step_move_iff.1 h
    generalize hst : s.stage i = stage₀ at hm
    by_cases hs : ∃ works, m = .store works
    · obtain ⟨works, rfl⟩ := hs
      cases hm with
      | @store works catalog =>
        cases he
        refine .inl ⟨i, catalog, rfl, hst, State.behind_stage_self, ?_⟩
        simp only [State.kept?, State.behind, Room.stored, hk i, if_true, Cache.keep]
        exact Cache.get?_set_self ..
    · refine .inr ⟨?_, ?_⟩
      · rintro j works ⟨rfl, rfl⟩
        exact hs ⟨works, rfl⟩
      · show room.cache.get? Cache.catalogKey = s.cache.get? Cache.catalogKey
        rw [hm.cache_eq]
        · rfl
        · rintro catalog rfl
          cases hm
          exact hs ⟨_, rfl⟩

/-- A catalog is kept exactly if one was stored. -/
theorem kept?_ne_none_iff (hk : crowd.Keeps) (hf : ∀ e ∈ events, e.Faithful)
    (h : State.run crowd (.initial crowd .empty) events = some s) :
    s.kept? ≠ none ↔ ∃ i works, .move i (.store works) ∈ events := by
  refine State.run_induction
    (P := fun es s => s.kept? ≠ none ↔ ∃ i works, .move i (.store works) ∈ es) ?_ ?_ h
  · simp [State.kept?, State.initial, Cache.get?_empty]
  · intro before e after s s' he _ ih hst
    rcases kept?_of_step hk (hf e (by simp [he])) hst with ⟨i, catalog, rfl, _, _, hc⟩ | ⟨hns, hc⟩
    · simp only [hc, ne_eq, reduceCtorEq, not_false_eq_true, true_iff]
      exact ⟨i, true, by simp⟩
    · rw [hc, ih]
      constructor
      · rintro ⟨i, works, hm⟩
        exact ⟨i, works, List.mem_append_left _ hm⟩
      · rintro ⟨i, works, hm⟩
        rcases List.mem_append.1 hm with hm | hm
        · exact ⟨i, works, hm⟩
        · exact absurd (List.mem_singleton.1 hm).symm (hns i works)

/-! ## Overtaking -/

/-- The stages of an inquiry that found no catalog and has stored none yet. -/
def Stage.lacks : Stage → Bool
  | .missed | .asked _ | .fetched _ => true
  | _ => false

theorem Stage.holds_of_lacks {stage : Stage} (h : stage.lacks = true) : stage.holds = true := by
  cases stage <;> first | rfl | cases h

theorem Trail.read_of_lacks {c : Client} {ms : List Move} {stage : Stage} (hk : c.keepsCatalog = true)
    (h : Trail c ms stage) (hl : stage.lacks = true) : ∃ how, .read how ∈ ms := by
  induction h with
  | first => simp [Stage.first, hk, Stage.lacks] at hl
  | next _ hm ih =>
    cases hm with
    | @miss how => exact ⟨how, by simp⟩
    | send | brought =>
      obtain ⟨how, hr⟩ := ih rfl
      exact ⟨how, List.mem_append_left _ hr⟩
    | _ => cases hl

/-- An inquiry comes to lack a catalog by looking into the cache in vain. -/
theorem Moves.miss_of_lacks {c : Client} {m : Move} {stage stage' : Stage} {room room' : Room}
    (h : Moves c m stage room stage' room') (hl : stage'.lacks = true) :
    stage.lacks = true ∨ ∃ how, m = .read how ∧ how.find room.cache = none := by
  cases h with
  | miss hf => exact .inr ⟨_, rfl, hf⟩
  | send | brought => exact .inl rfl
  | _ => cases hl

/-- Behind a look of one inquiry into the cache, an inquiry of another client stored a catalog. -/
def Overtaken (crowd : Crowd) (events : List Event) (i j : Nat) : Prop :=
  crowd.asker i ≠ crowd.asker j ∧ ∃ before how between works after,
    events = before ++ .move i (.read how) :: between ++ .move j (.store works) :: after

theorem Overtaken.append {j : Nat} (h : Overtaken crowd events i j) (es : List Event) :
    Overtaken crowd (events ++ es) i j := by
  obtain ⟨ha, before, how, between, works, after, rfl⟩ := h
  exact ⟨ha, before, how, between, works, after ++ es, by simp⟩

/-- An inquiry that lacks a catalog while another one stores its own was overtaken: it looked into the cache before,
and is of another client, for otherwise both would hold the lock. -/
theorem overtaken_of_store (hk : crowd.Keeps) (h : State.run crowd (.initial crowd .empty) events = some s)
    (hl : (s.stage i).lacks = true) {j : Nat} {catalog : Catalog} (hj : s.stage j = .fetched catalog) (hne : i ≠ j)
    (works : Bool) : Overtaken crowd (events ++ [.move j (.store works)]) i j := by
  have hasker : crowd.asker i ≠ crowd.asker j := by
    intro ha
    refine hne ((turns_of_run h).alone i j (hk i) ha (Stage.holds_of_lacks hl) ?_)
    rw [hj]
    rfl
  obtain ⟨how, hread⟩ := (trail_of_run h i).read_of_lacks (hk i) hl
  obtain ⟨front, back, rfl⟩ := List.append_of_mem (mem_movesOf.1 hread)
  exact ⟨hasker, front, how, back, works, [], by simp⟩

/-- While an inquiry still lacks a catalog, one is kept only if it was overtaken. -/
theorem overtaken_of_lacks (hk : crowd.Keeps) (hf : ∀ e ∈ events, e.Faithful)
    (h : State.run crowd (.initial crowd .empty) events = some s) (hl : (s.stage i).lacks = true)
    (hc : s.kept? ≠ none) : ∃ j, Overtaken crowd events i j := by
  suffices ∀ i, (s.stage i).lacks = true → s.kept? ≠ none → ∃ j, Overtaken crowd events i j from this i hl hc
  refine State.run_induction (P := fun es s => ∀ i, (s.stage i).lacks = true → s.kept? ≠ none →
    ∃ j, Overtaken crowd es i j) ?_ ?_ h
  · intro i _ hc
    exact absurd (Cache.get?_empty _) hc
  · intro before e after s s' he hr ih hst i hl hc
    have hfe : e.Faithful := hf e (by simp [he])
    by_cases hold : (s.stage i).lacks = true ∧ s.kept? ≠ none
    · obtain ⟨j, hj⟩ := ih i hold.1 hold.2
      exact ⟨j, hj.append _⟩
    rcases kept?_of_step hk hfe hst with ⟨j, catalog, rfl, hj, hj', hkept⟩ | ⟨_, hkept⟩
    · -- the first catalog is stored just now, while `i` lacks one
      have hne : i ≠ j := by
        rintro rfl
        rw [hj'] at hl
        cases hl
      have hsame : s'.stage i = s.stage i := by
        obtain ⟨stage, room, _, rfl⟩ := State.step_move_iff.1 hst
        exact State.behind_stage_of_ne hne
      rw [hsame] at hl
      exact ⟨j, overtaken_of_store hk hr hl hj hne true⟩
    · -- otherwise `i` came to lack one just now, but then none is kept
      rw [hkept] at hc
      refine absurd hc ?_
      cases e with
      | clear => exact hfe.elim
      | move k m =>
        obtain ⟨stage, room, hm, rfl⟩ := State.step_move_iff.1 hst
        by_cases hik : i = k
        · subst hik
          rw [State.behind_stage_self] at hl
          rcases hm.miss_of_lacks hl with hl | ⟨how, rfl, hnone⟩
          · exact absurd ⟨hl, hc⟩ hold
          · cases hfe
            exact not_not.2 hnone
        · rw [State.behind_stage_of_ne hik] at hl
          exact absurd ⟨hl, hc⟩ hold

/-! ## The first catalog -/

/-- A catalog is stored where one is kept. -/
def Replaced (crowd : Crowd) (events : List Event) : Prop :=
  ∃ before i works after s, events = before ++ .move i (.store works) :: after ∧
    State.run crowd (.initial crowd .empty) before = some s ∧ s.kept? ≠ none

/-- What is kept is replaced exactly if an inquiry stores that was overtaken. -/
theorem replaced_iff_overtaken (hk : crowd.Keeps) (hf : ∀ e ∈ events, e.Faithful)
    (h : State.run crowd (.initial crowd .empty) events = some s) :
    Replaced crowd events ↔ ∃ before i works after j, events = before ++ .move i (.store works) :: after ∧
      Overtaken crowd before i j := by
  constructor
  · rintro ⟨before, i, works, after, s₁, rfl, hr, hc⟩
    have hl : (s₁.stage i).lacks = true := by
      obtain ⟨t, hst, _⟩ := State.run_cons (State.run_rest hr h)
      obtain ⟨stage, room, hm, _⟩ := State.step_move_iff.1 hst
      generalize s₁.stage i = stage₀ at hm
      cases hm
      rfl
    obtain ⟨j, hj⟩ := overtaken_of_lacks hk (fun e he => hf e (List.mem_append_left _ he)) hr hl hc
    exact ⟨before, i, works, after, j, rfl, hj⟩
  · rintro ⟨before, i, works, after, j, rfl, _, front, how, between, works', back, rfl⟩
    obtain ⟨s₁, hr, _⟩ := State.run_split h
    refine ⟨_, i, works, after, s₁, rfl, hr, ?_⟩
    refine (kept?_ne_none_iff hk (fun e he => hf e (List.mem_append_left _ he)) hr).2 ⟨j, works', ?_⟩
    simp

/-- The first catalog that is stored is kept, and every answer is a copy of it, pruned for its client. -/
structure FirstKept (crowd : Crowd) (events : List Event) (s : State) : Prop where
  kept : ∀ before after s₁ catalog, events = before ++ after →
    State.run crowd (.initial crowd .empty) before = some s₁ → s₁.kept? = some catalog →
    s.kept? = some catalog
  once : ∀ before i works between j works' after,
    events ≠ before ++ .move i (.store works) :: between ++ .move j (.store works') :: after
  answer : ∀ i result, s.stage i = .finished (.ok result) →
    ∃ catalog, s.kept? = some catalog ∧ result = (crowd.clientOf i).prune catalog

/-- No event of a run in which nothing is replaced changes what is kept. -/
theorem kept?_stays (hk : crowd.Keeps) (hn : ¬ Replaced crowd events) {before after : List Event} {e : Event}
    (he : events = before ++ e :: after) (hf : e.Faithful)
    (hr : State.run crowd (.initial crowd .empty) before = some s) (hst : s.step crowd e = some s')
    {catalog : Catalog} (hc : s.kept? = some catalog) : s'.kept? = some catalog := by
  rcases kept?_of_step hk hf hst with ⟨i, stored, rfl, _⟩ | ⟨_, hkept⟩
  · exact absurd ⟨before, i, true, after, s, he, hr, by simp [hc]⟩ hn
  · rw [hkept]
    exact hc

/-- What is kept stays, if it is not replaced. -/
theorem kept?_of_not_replaced (hk : crowd.Keeps) (hf : ∀ e ∈ events, e.Faithful)
    (h : State.run crowd (.initial crowd .empty) events = some s) (hn : ¬ Replaced crowd events)
    {before after : List Event} {s₁ : State} {catalog : Catalog} (he : events = before ++ after)
    (hr : State.run crowd (.initial crowd .empty) before = some s₁) (hc : s₁.kept? = some catalog) :
    s.kept? = some catalog := by
  subst he
  refine State.run_induction (P := fun _ s => s.kept? = some catalog) hc ?_ (State.run_rest hr h)
  intro front e back s s' he hr₁ ih hst
  have hpart : before ++ after = before ++ front ++ e :: back := by rw [he, List.append_assoc]
  exact kept?_stays hk hn hpart (hf e (by simp [he])) (State.run_trans hr hr₁) hst ih

/-- Answers are copies of what is kept, if it is not replaced. -/
theorem answers_of_not_replaced (hk : crowd.Keeps) (hf : ∀ e ∈ events, e.Faithful)
    (h : State.run crowd (.initial crowd .empty) events = some s) (hn : ¬ Replaced crowd events)
    {result : Catalog} (ha : (s.stage i).Answers result) :
    ∃ catalog, s.kept? = some catalog ∧ result = (crowd.clientOf i).prune catalog := by
  suffices ∀ i result, (s.stage i).Answers result →
      ∃ catalog, s.kept? = some catalog ∧ result = (crowd.clientOf i).prune catalog from this i result ha
  refine State.run_induction (P := fun _ s => ∀ i result, (s.stage i).Answers result →
    ∃ catalog, s.kept? = some catalog ∧ result = (crowd.clientOf i).prune catalog) ?_ ?_ h
  · intro i result ha
    simp only [State.initial, Stage.first, hk i, if_true] at ha
    rcases ha with ha | ha <;> cases ha
  · intro before e after s s' he hr ih hst i result ha
    have hfe : e.Faithful := hf e (by simp [he])
    -- nothing is stored over what is kept, so what an answer was copied from is still there
    have hbefore : (s.stage i).Answers result →
        ∃ catalog, s'.kept? = some catalog ∧ result = (crowd.clientOf i).prune catalog := by
      intro ha
      obtain ⟨catalog, hc, hres⟩ := ih i result ha
      exact ⟨catalog, kept?_stays hk hn he hfe hr hst hc, hres⟩
    cases e with
    | clear => exact hfe.elim
    | move k m =>
      obtain ⟨stage, room, hm, rfl⟩ := State.step_move_iff.1 hst
      by_cases hik : i = k
      · subst hik
        rw [State.behind_stage_self] at ha
        rcases hm.copy_of_answers ha with ⟨catalog, hc, hres⟩ | ⟨works, catalog, rfl, hfetched, hres⟩ | ha
        · exact ⟨catalog, kept?_stays hk hn he hfe hr hst hc, hres⟩
        · rcases kept?_of_step hk hfe hst with ⟨j, stored, hj, hf', _, hc⟩ | ⟨hns, _⟩
          · cases hj
            obtain rfl := Stage.fetched.inj (hfetched.symm.trans hf')
            exact ⟨catalog, hc, hres⟩
          · exact absurd rfl (hns i works)
        · exact hbefore ha
      · rw [State.behind_stage_of_ne hik] at ha
        exact hbefore ha

theorem firstKept_of_not_overtaken (hk : crowd.Keeps) (hf : ∀ e ∈ events, e.Faithful)
    (h : State.run crowd (.initial crowd .empty) events = some s)
    (hno : ∀ before i works after j, events = before ++ .move i (.store works) :: after →
      ¬ Overtaken crowd before i j) : FirstKept crowd events s := by
  have hn : ¬ Replaced crowd events := by
    intro hr
    obtain ⟨before, i, works, after, j, he, ho⟩ := (replaced_iff_overtaken hk hf h).1 hr
    exact hno before i works after j he ho
  constructor
  · intro before after s₁ catalog he hr hc
    exact kept?_of_not_replaced hk hf h hn he hr hc
  · rintro before i works between j works' after rfl
    obtain ⟨s₁, hr, _⟩ := State.run_split h
    refine hn ⟨_, j, works', after, s₁, rfl, hr, ?_⟩
    exact (kept?_ne_none_iff hk (fun e he => hf e (List.mem_append_left _ he)) hr).2 ⟨i, works, by simp⟩
  · intro i result hs
    exact answers_of_not_replaced hk hf h hn (.inr hs)

/-- The first catalog is kept exactly if no inquiry stores that was overtaken by one of another client. -/
theorem firstKept_iff_not_overtaken (hk : crowd.Keeps) (hf : ∀ e ∈ events, e.Faithful)
    (h : State.run crowd (.initial crowd .empty) events = some s) :
    FirstKept crowd events s ↔ ∀ before i works after j, events = before ++ .move i (.store works) :: after →
      ¬ Overtaken crowd before i j := by
  refine ⟨fun hfirst before i works after j he ho => ?_, firstKept_of_not_overtaken hk hf h⟩
  obtain ⟨before, i, works, after, s₁, rfl, hr, hc⟩ :=
    (replaced_iff_overtaken hk hf h).2 ⟨before, i, works, after, j, he, ho⟩
  -- something is kept already, so something was stored already
  obtain ⟨k, works', hs⟩ := (kept?_ne_none_iff hk (fun e he => hf e (List.mem_append_left _ he)) hr).1 hc
  obtain ⟨front, between, rfl⟩ := List.append_of_mem hs
  exact hfirst.once front k works' between i works after rfl

end

/-! ## Two clients that both fetch -/

/-- Two clients of one version, each with its own lock. -/
def apart : Crowd where
  client _ := .keeper .v2_14 false
  asker := id

/-- Both look into the cache before either stores. The broker withdraws its only service in between. -/
def bothMiss : List Event :=
  [.move 0 .lock, .move 0 (.read .sound), .move 1 .lock, .move 1 (.read .sound), .move 0 .send, .move 1 .send,
    .move 0 (.receive .retrievable),
    .move 1 (.receive (.reply ⟨200, [], Utf8.encode "\x7b\"services\":[]\x7d"⟩)),
    .move 0 (.store true), .move 1 (.store true), .move 0 .unlock, .move 1 .unlock]

/-- Clients that were built separately do not keep the first catalog: the second that is stored replaces it,
and their answers differ. -/
theorem not_firstKept_bothMiss : ∃ s, apart.Keeps ∧ (∀ e ∈ bothMiss, e.Faithful) ∧
    State.run apart (.initial apart .empty) bothMiss = some s ∧
    s.answer? 0 = some ⟨[.retrievable (some true)]⟩ ∧ s.answer? 1 = some ⟨[]⟩ ∧ s.kept? = some ⟨[]⟩ ∧
    ¬ FirstKept apart bothMiss s := by
  have hf : ∀ e ∈ bothMiss, e.Faithful := by simp [bothMiss, Event.Faithful]
  have hr : (State.run apart (.initial apart .empty) bothMiss).map
      (fun s => (s.answer? 0, s.answer? 1, s.kept?)) =
      some (some ⟨[.retrievable (some true)]⟩, some ⟨[]⟩, some ⟨[]⟩) := by
    decide +kernel
  obtain ⟨s, hs, hres⟩ := Option.map_eq_some_iff.1 hr
  simp only [Prod.mk.injEq] at hres
  obtain ⟨h0, h1, hc⟩ := hres
  refine ⟨s, fun _ => rfl, hf, hs, h0, h1, hc, fun hfirst => ?_⟩
  exact hfirst.once (bothMiss.take 8) 0 true [] 1 true [.move 0 .unlock, .move 1 .unlock] rfl

end ServiceBroker.Inquiry
