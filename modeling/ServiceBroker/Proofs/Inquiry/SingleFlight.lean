/-
One fetch at a time. Clones of a client that keeps the catalog share its lock and its cache: however they
interleave, fail and are dropped, at most one of their requests is out at any moment, none is sent once a
catalog is kept, and every request that was sent is accounted for.
-/
import ServiceBroker.Proofs.Inquiry.Keeping
import Mathlib.Data.Set.Card

namespace ServiceBroker.Inquiry

/-! ## What becomes of a request -/

/-- What has become of the request of an inquiry that sent one. -/
inductive Fate
  | underWay
  | cutOff
  | failed
  | brought
deriving DecidableEq

/-- The fate of a request, as the stage of its inquiry shows it. -/
def Stage.fate : Stage → Fate
  | .dropped => .cutOff
  | .leaving (.error _) | .finished (.error _) => .failed
  | .leaving (.ok _) | .finished (.ok _) => .brought
  | _ => .underWay

theorem Stage.fate_finished (result : Except Error Catalog) :
    (Stage.finished result).fate = (Stage.leaving result).fate := by
  cases result <;> rfl

/-- The stages before a request is sent. -/
def Stage.early : Stage → Bool
  | .waiting | .entered | .missed => true
  | _ => false

theorem Moves.early_of_early {c : Client} {m : Move} {stage stage' : Stage} {room room' : Room}
    (h : Moves c m stage room stage' room') (hs : stage'.early = true) : stage.early = true := by
  cases h <;> first | rfl | cases hs

namespace Trail

variable {c : Client} {ms : List Move} {stage : Stage}

theorem early_of_send (h : Trail c ms stage) (hs : .send ∈ ms) : stage.early = false := by
  induction h with
  | first => cases hs
  | @next ms m stage stage' room room' _ hm ih =>
    by_contra he
    have he : stage'.early = true := by simpa using he
    rcases List.mem_append.1 hs with hs | hs
    · have hold := ih hs
      rw [hm.early_of_early he] at hold
      cases hold
    · rw [List.mem_singleton] at hs
      subst hs
      cases hm <;> cases he

/-- A catalog that was stored came with a reply to an own request. -/
theorem of_store {works : Bool} (h : Trail c ms stage) (hs : .store works ∈ ms) :
    .send ∈ ms ∧ stage.fate = .brought := by
  induction h with
  | first => cases hs
  | @next ms m stage stage' room room' ht hm ih =>
    rcases List.mem_append.1 hs with hs | hs
    · obtain ⟨hsend, hfate⟩ := ih hs
      refine ⟨List.mem_append_left _ hsend, ?_⟩
      cases hm with
      | unlock =>
        rw [Stage.fate_finished]
        exact hfate
      | _ => cases hfate
    · rw [List.mem_singleton] at hs
      subst hs
      cases hm with
      | store =>
        obtain ⟨d, hd, _⟩ := ht.receive_of_fetched rfl
        exact ⟨List.mem_append_left _ (ht.send_of_receive hd).1, rfl⟩

/-- Whoever sent a request and has a catalog has stored it. -/
theorem store_of_send (h : Trail c ms stage) (hs : .send ∈ ms) (hb : stage.fate = .brought) :
    ∃ works, .store works ∈ ms := by
  induction h with
  | first => cases hs
  | @next ms m stage stage' room room' ht hm ih =>
    cases hm with
    | hit =>
      have he := ht.early_of_send (by simpa using hs)
      cases he
    | @store works => exact ⟨works, by simp⟩
    | unlock =>
      rw [Stage.fate_finished] at hb
      obtain ⟨works, hw⟩ := ih (by simpa using hs) hb
      exact ⟨works, List.mem_append_left _ hw⟩
    | _ => cases hb

end Trail

/-- An inquiry was dropped when its request was out. -/
def CutOff (s : State) (i : Nat) : Prop :=
  s.stage i = .dropped ∧ ∃ request, (i, request) ∈ s.sent

/-- The request of an inquiry is out, or the catalog that it brought is about to be stored. -/
def UnderWay (s : State) (i : Nat) : Prop :=
  (∃ request, s.stage i = .asked request) ∨ ∃ catalog, s.stage i = .fetched catalog

/-- An inquiry stored a catalog. -/
def Stores (events : List Event) (i : Nat) : Prop :=
  ∃ works, .move i (.store works) ∈ events

section

variable {crowd : Crowd} {cache : Cache} {events : List Event} {s : State} {i : Nat}

/-- The inquiries that sent a request, in order. -/
def State.senders (s : State) : List Nat := s.sent.map Prod.fst

theorem mem_senders_iff (h : State.run crowd (.initial crowd cache) events = some s) {request : Http.Request}
    (hp : (crowd.clientOf i).prepare ⟨.getCatalog, ()⟩ = .ok request) :
    i ∈ s.senders ↔ .send ∈ movesOf i events := by
  simp only [State.senders, List.mem_map, Prod.exists, exists_and_right, exists_eq_right, mem_sent_iff h,
    mem_movesOf, hp, Except.ok.injEq, exists_and_left, exists_eq', and_true]

/-- No inquiry sends twice. -/
theorem nodup_senders (h : State.run crowd (.initial crowd cache) events = some s) : s.senders.Nodup := by
  refine State.run_induction (P := fun _ s => s.senders.Nodup) ?_ ?_ h
  · exact List.nodup_nil
  · intro before e after s s' _ hr ih hst
    cases e with
    | clear => cases hst; exact ih
    | move i m =>
      obtain ⟨stage, room, hm, rfl⟩ := State.step_move_iff.1 hst
      generalize hst₀ : s.stage i = stage₀ at hm
      have hsenders : (s.behind crowd i m stage room).senders =
        s.senders ++ (sentBy i m stage).map Prod.fst := by
        simp [State.senders, State.behind]
      rw [hsenders]
      cases hm with
      | send hp =>
        -- who sent before is past sending
        have hfresh : i ∉ s.senders := by
          rw [mem_senders_iff hr hp]
          intro hs
          have he := (trail_of_run hr i).early_of_send hs
          rw [hst₀] at he
          cases he
        show (s.senders ++ [i]).Nodup
        rw [List.nodup_append]
        refine ⟨ih, List.nodup_singleton i, ?_⟩
        intro j hj k hk hjk
        rw [List.mem_singleton] at hk
        rw [hjk, hk] at hj
        exact hfresh hj
      | _ => simpa [sentBy] using ih

/-! ## Counting requests -/

theorem length_eq_countP_fate {α : Type} (fate : α → Fate) (l : List α) :
    l.length = l.countP (fate · = .failed) + l.countP (fate · = .cutOff) + l.countP (fate · = .underWay) +
      l.countP (fate · = .brought) := by
  induction l with
  | nil => rfl
  | cons a l ih =>
    simp only [List.length_cons, List.countP_cons, ih]
    cases fate a <;> simp <;> omega

/-- A set of inquiries whose requests share a fate is as large as this fate is frequent among the senders. -/
theorem ncard_eq_countP_fate (h : State.run crowd (.initial crowd cache) events = some s) {fate : Fate}
    {t : Set Nat} (ht : ∀ i, i ∈ t ↔ i ∈ s.senders ∧ (s.stage i).fate = fate) :
    t.ncard = s.senders.countP fun i => (s.stage i).fate = fate := by
  have he : t = (s.senders.filter fun i => (s.stage i).fate = fate).toFinset := by
    ext i
    simp [ht]
  have hn := (nodup_senders h).filter fun i => (s.stage i).fate = fate
  rw [he, Set.ncard_coe_finset, List.toFinset_card_of_nodup hn, List.countP_eq_length_filter]

theorem fetchFails_iff (h : State.run crowd (.initial crowd cache) events = some s) {request : Http.Request}
    (hp : (crowd.clientOf i).prepare ⟨.getCatalog, ()⟩ = .ok request) :
    FetchFails events i ↔ i ∈ s.senders ∧ (s.stage i).fate = .failed := by
  have ht := trail_of_run h i
  rw [mem_senders_iff h hp]
  constructor
  · rintro ⟨d, hd, hnone⟩
    have hd := mem_movesOf.2 hd
    obtain ⟨e, he⟩ := answer_getCatalog_of_not_brings (crowd.clientOf i).alpha hnone
    have hshows := ht.shows_of_receive hd
    rw [he] at hshows
    refine ⟨(ht.send_of_receive hd).1, ?_⟩
    generalize s.stage i = stage at hshows
    cases hshows <;> rfl
  · rintro ⟨_, hfate⟩
    have herr : ∃ e, s.stage i = .leaving (.error e) ∨ s.stage i = .finished (.error e) := by
      generalize s.stage i = stage at hfate
      cases stage with
      | leaving result | finished result =>
        cases result with
        | error e => exact ⟨e, by simp⟩
        | ok _ => cases hfate
      | _ => cases hfate
    obtain ⟨e, he⟩ := herr
    rcases ht.receive_of_error he with ⟨d, hd, ha⟩ | hp'
    · refine ⟨d, mem_movesOf.1 hd, fun catalog hb => ?_⟩
      rw [answer_getCatalog_eq_ok_iff.2 hb] at ha
      cases ha
    · rw [hp] at hp'
      cases hp'

theorem cutOff_iff : CutOff s i ↔ i ∈ s.senders ∧ (s.stage i).fate = .cutOff := by
  have hf : (s.stage i).fate = .cutOff ↔ s.stage i = .dropped := by
    generalize s.stage i = stage
    cases stage with
    | leaving result | finished result => cases result <;> simp [Stage.fate]
    | _ => simp [Stage.fate]
  simp only [CutOff, State.senders, List.mem_map, Prod.exists, exists_and_right, exists_eq_right, hf]
  exact and_comm

theorem underWay_iff (h : State.run crowd (.initial crowd cache) events = some s) {request : Http.Request}
    (hp : (crowd.clientOf i).prepare ⟨.getCatalog, ()⟩ = .ok request) :
    UnderWay s i ↔ i ∈ s.senders ∧ (s.stage i).fate = .underWay := by
  have ht := trail_of_run h i
  rw [mem_senders_iff h hp]
  constructor
  · rintro (⟨request, hs⟩ | ⟨catalog, hs⟩)
    · rw [hs]
      exact ⟨(ht.send_of_asked hs).1, rfl⟩
    · obtain ⟨d, hd, _⟩ := ht.receive_of_fetched hs
      rw [hs]
      exact ⟨(ht.send_of_receive hd).1, rfl⟩
  · rintro ⟨hsend, hfate⟩
    have he := ht.early_of_send hsend
    unfold UnderWay
    generalize s.stage i = stage at hfate he
    cases stage with
    | asked request => exact .inl ⟨request, rfl⟩
    | fetched catalog => exact .inr ⟨catalog, rfl⟩
    | leaving result | finished result => cases result <;> cases hfate
    | dropped => cases hfate
    | _ => cases he

theorem stores_iff (h : State.run crowd (.initial crowd cache) events = some s) {request : Http.Request}
    (hp : (crowd.clientOf i).prepare ⟨.getCatalog, ()⟩ = .ok request) :
    Stores events i ↔ i ∈ s.senders ∧ (s.stage i).fate = .brought := by
  have ht := trail_of_run h i
  rw [mem_senders_iff h hp]
  constructor
  · rintro ⟨works, hs⟩
    exact ht.of_store (mem_movesOf.2 hs)
  · rintro ⟨hsend, hfate⟩
    obtain ⟨works, hs⟩ := ht.store_of_send hsend hfate
    exact ⟨works, mem_movesOf.1 hs⟩

/-- Every request failed, was cut off, is under way, or brought a catalog that was stored. -/
theorem length_sent (h : State.run crowd (.initial crowd cache) events = some s)
    (hp : ∀ i, ∃ request, (crowd.clientOf i).prepare ⟨.getCatalog, ()⟩ = .ok request) :
    s.sent.length = {i | FetchFails events i}.ncard + {i | CutOff s i}.ncard + {i | UnderWay s i}.ncard +
      {i | Stores events i}.ncard := by
  choose request hp using hp
  have hfailed := ncard_eq_countP_fate h (t := {i | FetchFails events i}) fun i => fetchFails_iff h (hp i)
  have hcut := ncard_eq_countP_fate h (t := {i | CutOff s i}) fun i => cutOff_iff
  have hunder := ncard_eq_countP_fate h (t := {i | UnderWay s i}) fun i => underWay_iff h (hp i)
  have hstores := ncard_eq_countP_fate h (t := {i | Stores events i}) fun i => stores_iff h (hp i)
  have hlength : s.sent.length = s.senders.length := by simp [State.senders]
  rw [hlength, length_eq_countP_fate fun i => (s.stage i).fate, hfailed, hcut, hunder, hstores]

end

/-! ## Clones -/

section

variable {c : Client} {events : List Event} {s : State} {i : Nat}

theorem keeps_clones (hk : c.keepsCatalog = true) : (Crowd.clones c).Keeps := fun _ => hk

/-- Clones of a client that keeps the catalog: whoever stores was not overtaken. -/
theorem firstKept_clones (hk : c.keepsCatalog = true) (hf : ∀ e ∈ events, e.Faithful)
    (h : State.run (.clones c) (.initial (.clones c) .empty) events = some s) :
    FirstKept (.clones c) events s := by
  refine firstKept_of_not_overtaken (keeps_clones hk) hf h ?_
  rintro before i works after j _ ⟨ha, _⟩
  exact ha rfl

/-- While a clone has found no catalog and stored none, none is kept. -/
theorem kept?_of_lacks (hk : c.keepsCatalog = true) (hf : ∀ e ∈ events, e.Faithful)
    (h : State.run (.clones c) (.initial (.clones c) .empty) events = some s)
    (hl : (s.stage i).lacks = true) : s.kept? = none := by
  by_contra hc
  obtain ⟨j, ha, _⟩ := overtaken_of_lacks (keeps_clones hk) hf h hl hc
  exact ha rfl

/-- Nothing is sent once a catalog is kept. -/
theorem sent_eq_of_kept? (hk : c.keepsCatalog = true) (hf : ∀ e ∈ events, e.Faithful)
    (h : State.run (.clones c) (.initial (.clones c) .empty) events = some s) {before after : List Event}
    {s₁ : State} (he : events = before ++ after)
    (hr : State.run (.clones c) (.initial (.clones c) .empty) before = some s₁) (hc : s₁.kept? ≠ none) :
    s.sent = s₁.sent := by
  subst he
  refine State.run_induction (P := fun _ s => s.sent = s₁.sent) rfl ?_ (State.run_rest hr h)
  intro front e back s s' he hr₁ ih hst
  rw [← ih]
  cases e with
  | clear => cases hst; rfl
  | move i m =>
    obtain ⟨stage, room, hm, rfl⟩ := State.step_move_iff.1 hst
    have hrun := State.run_trans hr hr₁
    have hf₁ : ∀ e ∈ before ++ front, e.Faithful := by
      intro e he'
      refine hf e ?_
      rw [he]
      simp only [List.mem_append, List.mem_cons] at he' ⊢
      tauto
    -- whoever is about to send lacks a catalog, and then none would be kept
    have hlacks : (s.stage i).lacks = false := by
      by_contra hl
      have hnone := kept?_of_lacks hk hf₁ hrun (by simpa using hl)
      obtain ⟨catalog, hs₁⟩ := Option.ne_none_iff_exists'.1 hc
      rw [(firstKept_clones hk hf₁ hrun).kept before front s₁ catalog rfl hr hs₁] at hnone
      cases hnone
    generalize s.stage i = stage₀ at hm hlacks
    cases hm with
    | send => cases hlacks
    | unbuilt => cases hlacks
    | _ => simp [State.behind, sentBy]

theorem stores_unique {crowd : Crowd} {j : Nat} (hfirst : FirstKept crowd events s) (hi : Stores events i)
    (hj : Stores events j) : i = j := by
  obtain ⟨works, hi⟩ := hi
  obtain ⟨works', hj⟩ := hj
  obtain ⟨before, after, rfl⟩ := List.append_of_mem hi
  rcases List.mem_append.1 hj with hj | hj
  · obtain ⟨front, between, rfl⟩ := List.append_of_mem hj
    exact absurd rfl (hfirst.once front j works' between i works after)
  · rcases List.mem_cons.1 hj with hj | hj
    · cases hj
      rfl
    · obtain ⟨between, back, rfl⟩ := List.append_of_mem hj
      exact absurd (by simp) (hfirst.once before i works between j works' back)

/-- One catalog was stored if one is kept, and none otherwise. -/
theorem ncard_stores (hk : c.keepsCatalog = true) (hf : ∀ e ∈ events, e.Faithful)
    (h : State.run (.clones c) (.initial (.clones c) .empty) events = some s) :
    {i | Stores events i}.ncard = if s.kept?.isSome then 1 else 0 := by
  have hiff := kept?_ne_none_iff (keeps_clones hk) hf h
  by_cases hc : s.kept? = none
  · have hempty : {i | Stores events i} = ∅ := by
      ext i
      simp only [Set.mem_ofPred_eq, Set.mem_empty_iff_false, iff_false]
      rintro ⟨works, hs⟩
      exact hiff.2 ⟨i, works, hs⟩ hc
    simp [hempty, hc]
  · obtain ⟨i, works, hs⟩ := hiff.1 hc
    have hone : {i | Stores events i} = {i} := by
      ext j
      simp only [Set.mem_ofPred_eq, Set.mem_singleton_iff]
      constructor
      · intro hj
        exact stores_unique (firstKept_clones hk hf h) hj ⟨works, hs⟩
      · rintro rfl
        exact ⟨works, hs⟩
    simp [hone, Option.isSome_iff_ne_none.2 hc]

/-- What holds of calls for the catalog on clones of one client, whatever has happened so far. -/
structure SingleFlight (c : Client) (request : Http.Request) (events : List Event) (s : State) : Prop
    extends FirstKept (.clones c) events s where
  /-- At most one request is out, or has brought a catalog that is about to be stored. -/
  alone : ∀ i j, UnderWay s i → UnderWay s j → i = j
  /-- Then no catalog is kept yet. -/
  vacant : ∀ i, UnderWay s i → s.kept? = none
  /-- Once a catalog is kept no request is sent. -/
  quiet : ∀ before after s₁, events = before ++ after →
    State.run (.clones c) (.initial (.clones c) .empty) before = some s₁ → s₁.kept? ≠ none → s.sent = s₁.sent
  /-- An error is that of a request which the same inquiry sent. -/
  error : ∀ i e, s.stage i = .finished (.error e) → (i, request) ∈ s.sent ∧
    ∃ d, .move i (.receive d) ∈ events ∧ d.answer c.alpha .getCatalog = .error e
  /-- Every request failed, was cut off, is under way, or brought the catalog that is kept. -/
  count : s.sent.length = {i | FetchFails events i}.ncard + {i | CutOff s i}.ncard + {i | UnderWay s i}.ncard +
    if s.kept?.isSome then 1 else 0

/-- However calls for the catalog on clones of one client interleave, fail and are dropped, they fetch one
at a time, and for the last time when a catalog is stored. -/
theorem clones_fetch_once (c : Client) (request : Http.Request) (events : List Event) (s : State)
    (hk : c.keepsCatalog = true) (hp : c.prepare ⟨.getCatalog, ()⟩ = .ok request)
    (hf : ∀ e ∈ events, e.Faithful)
    (h : State.run (.clones c) (.initial (.clones c) .empty) events = some s) :
    SingleFlight c request events s := by
  have hlacks : ∀ i, UnderWay s i → (s.stage i).lacks = true := by
    rintro i (⟨request, hs⟩ | ⟨catalog, hs⟩) <;> rw [hs] <;> rfl
  refine { firstKept_clones hk hf h with alone := ?_, vacant := ?_, quiet := ?_, error := ?_, count := ?_ }
  · intro i j hi hj
    have hholds : ∀ i, UnderWay s i → (s.stage i).holds = true := fun i hi => Stage.holds_of_lacks (hlacks i hi)
    exact (turns_of_run h).alone i j hk rfl (hholds i hi) (hholds j hj)
  · intro i hi
    exact kept?_of_lacks hk hf h (hlacks i hi)
  · intro before after s₁ he hr hc
    exact sent_eq_of_kept? hk hf h he hr hc
  · intro i e hs
    rcases (trail_of_run h i).receive_of_error (.inr hs) with ⟨d, hd, ha⟩ | hp'
    · obtain ⟨hsend, _⟩ := (trail_of_run h i).send_of_receive hd
      exact ⟨(mem_sent_iff h i request).2 ⟨mem_movesOf.1 hsend, hp⟩, d, mem_movesOf.1 hd, ha⟩
    · have hp' : c.prepare ⟨.getCatalog, ()⟩ = .error e := hp'
      rw [hp] at hp'
      cases hp'
  · rw [length_sent h fun _ => ⟨request, hp⟩, ncard_stores hk hf h]

end

/-- One fetch fails, one is cut off, one brings a catalog, and a fourth call finds it. -/
def fourCalls : List Event :=
  [.move 0 .lock, .move 0 (.read .sound), .move 0 .send, .move 0 (.receive (.reply ⟨503, [], []⟩)),
    .move 0 .unlock, .move 1 .lock, .move 1 (.read .sound), .move 1 .send, .move 1 .drop,
    .move 2 .lock, .move 2 (.read .sound), .move 2 .send, .move 2 (.receive .retrievable), .move 2 (.store true),
    .move 2 .unlock, .move 3 .lock, .move 3 (.read .sound), .move 3 .unlock]

theorem clones_fetch_once_fourCalls : ∃ request s,
    (Client.keeper .v2_11 false).keepsCatalog = true ∧
    (Client.keeper .v2_11 false).prepare ⟨.getCatalog, ()⟩ = .ok request ∧ (∀ e ∈ fourCalls, e.Faithful) ∧
    State.run (.clones (.keeper .v2_11 false)) (.initial (.clones (.keeper .v2_11 false)) .empty) fourCalls =
      some s ∧
    s.answer? 3 = some ⟨[.retrievable none]⟩ ∧ SingleFlight (.keeper .v2_11 false) request fourCalls s := by
  have hp : ∃ request, (Client.keeper .v2_11 false).prepare ⟨.getCatalog, ()⟩ = .ok request := by
    have hok : ((Client.keeper .v2_11 false).prepare ⟨.getCatalog, ()⟩).isOk = true := by decide +kernel
    revert hok
    cases (Client.keeper .v2_11 false).prepare ⟨.getCatalog, ()⟩ with
    | error e => intro hok; cases hok
    | ok request => exact fun _ => ⟨request, rfl⟩
  have hf : ∀ e ∈ fourCalls, e.Faithful := by simp [fourCalls, Event.Faithful]
  have hr : (State.run (.clones (.keeper .v2_11 false)) (.initial (.clones (.keeper .v2_11 false)) .empty)
      fourCalls).map (·.answer? 3) = some (some ⟨[.retrievable none]⟩) := by
    decide +kernel
  obtain ⟨request, hp⟩ := hp
  obtain ⟨s, hs, h3⟩ := Option.map_eq_some_iff.1 hr
  exact ⟨request, s, rfl, hp, hf, hs, h3, clones_fetch_once _ request fourCalls s rfl hp hf hs⟩

end ServiceBroker.Inquiry
