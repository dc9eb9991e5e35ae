/-
What can happen when inquiries run side by side. `Moves` lists every move with the stage and the room
before and after it; a run is a chain of moves and clearings; and the trail of an inquiry is what it did
itself in a run, which alone determines its stage up to what it found in the cache.
-/
import ServiceBroker.Inquiry
import Mathlib.Data.List.Induction

namespace ServiceBroker.Inquiry

/-! ## Moves -/

/-- The room with the lock of a client that keeps the catalog set free. -/
def Room.left (c : Client) (room : Room) : Room :=
  if c.keepsCatalog then { room with locked := false } else room

/-- The room with a catalog stored by a client, if it keeps the catalog. -/
def Room.stored (c : Client) (works : Bool) (catalog : Catalog) (room : Room) : Room :=
  if c.keepsCatalog then { room with cache := room.cache.keep works catalog } else room

/-- The moves of an inquiry, with the stage and the room before and after them. -/
inductive Moves (c : Client) : Move → Stage → Room → Stage → Room → Prop
  | lock {room : Room} : room.locked = false →
    Moves c .lock .waiting room .entered { room with locked := true }
  | hit {how : Cache.Read} {room : Room} {catalog : Catalog} : how.find room.cache = some catalog →
    Moves c (.read how) .entered room (.leaving (.ok (c.prune catalog))) room
  | miss {how : Cache.Read} {room : Room} : how.find room.cache = none →
    Moves c (.read how) .entered room .missed room
  | send {room : Room} {request : Http.Request} : c.prepare ⟨.getCatalog, ()⟩ = .ok request →
    Moves c .send .missed room (.asked request) room
  | unbuilt {room : Room} {e : Error} : c.prepare ⟨.getCatalog, ()⟩ = .error e →
    Moves c .send .missed room (.leaving (.error e)) room
  | brought {d : Delivery} {request : Http.Request} {room : Room} {catalog : Catalog} :
    d.answer c.alpha .getCatalog = .ok catalog →
    Moves c (.receive d) (.asked request) room (.fetched catalog) room
  | failed {d : Delivery} {request : Http.Request} {room : Room} {e : Error} :
    d.answer c.alpha .getCatalog = .error e →
    Moves c (.receive d) (.asked request) room (.leaving (.error e)) room
  | store {works : Bool} {catalog : Catalog} {room : Room} :
    Moves c (.store works) (.fetched catalog) room (.leaving (.ok (c.prune catalog)))
      (room.stored c works catalog)
  | unlock {result : Except Error Catalog} {room : Room} :
    Moves c .unlock (.leaving result) room (.finished result) (room.left c)
  | resign {room : Room} : Moves c .drop .waiting room .dropped room
  | giveUp {room : Room} : Moves c .drop .missed room .dropped (room.left c)
  | cutOff {request : Http.Request} {room : Room} : Moves c .drop (.asked request) room .dropped (room.left c)

theorem moves_of_step {c : Client} {m : Move} {stage stage' : Stage} {room room' : Room}
    (h : step c m stage room = some (stage', room')) : Moves c m stage room stage' room' := by
  cases m with
  | lock =>
    cases stage <;> simp only [step, reduceCtorEq] at h
    split at h
    · cases h
    · rename_i hl
      cases h; exact .lock (by simpa using hl)
  | read how =>
    cases stage <;> simp only [step, reduceCtorEq] at h
    cases hf : how.find room.cache with
    | none => rw [hf] at h; cases h; exact .miss hf
    | some catalog => rw [hf] at h; cases h; exact .hit hf
  | send =>
    cases stage <;> simp only [step, reduceCtorEq] at h
    cases hp : c.prepare ⟨.getCatalog, ()⟩ with
    | error e => rw [hp] at h; cases h; exact .unbuilt hp
    | ok request => rw [hp] at h; cases h; exact .send hp
  | receive d =>
    cases stage <;> simp only [step, reduceCtorEq] at h
    cases hd : d.answer c.alpha .getCatalog with
    | error e => rw [hd] at h; cases h; exact .failed hd
    | ok catalog => rw [hd] at h; cases h; exact .brought hd
  | store works =>
    cases stage <;> simp only [step, reduceCtorEq] at h
    cases h; exact .store
  | unlock =>
    cases stage <;> simp only [step, reduceCtorEq] at h
    cases h; exact .unlock
  | drop =>
    cases stage <;> simp only [step, reduceCtorEq] at h
    · cases h; exact .resign
    · cases h; exact .giveUp
    · cases h; exact .cutOff

theorem step_of_moves {c : Client} {m : Move} {stage stage' : Stage} {room room' : Room}
    (h : Moves c m stage room stage' room') : step c m stage room = some (stage', room') := by
  cases h with
  | lock hl => simp [step, hl]
  | hit hf => simp [step, hf, Stage.looked]
  | miss hf => simp [step, hf, Stage.looked]
  | send hp => simp [step, hp, Stage.prepared]
  | unbuilt hp => simp [step, hp, Stage.prepared]
  | brought hd => simp [step, hd, Stage.delivered]
  | failed hd => simp [step, hd, Stage.delivered]
  | _ => rfl

/-! ## Runs -/

namespace State

variable {crowd : Crowd} {s s' s₀ : State} {i : Nat} {m : Move} {events : List Event}

/-- The room that an inquiry is in. -/
def room (crowd : Crowd) (s : State) (i : Nat) : Room := ⟨s.cache, s.locked (crowd.asker i)⟩

/-- The state behind a move of an inquiry. -/
def behind (crowd : Crowd) (s : State) (i : Nat) (m : Move) (stage : Stage) (room : Room) : State :=
  ⟨room.cache, replace s.locked (crowd.asker i) room.locked, replace s.stage i stage,
    s.sent ++ sentBy i m stage⟩

theorem behind_stage_self {stage : Stage} {room : Room} : (s.behind crowd i m stage room).stage i = stage :=
  replace_self ..

theorem behind_stage_of_ne {j : Nat} (h : j ≠ i) {stage : Stage} {room : Room} :
    (s.behind crowd i m stage room).stage j = s.stage j :=
  replace_of_ne _ _ h

theorem step_move_iff : s.step crowd (.move i m) = some s' ↔ ∃ stage room,
    Moves (crowd.clientOf i) m (s.stage i) (s.room crowd i) stage room ∧
      s.behind crowd i m stage room = s' := by
  simp only [step, Option.map_eq_some_iff, Prod.exists]
  constructor
  · rintro ⟨stage, room, h, rfl⟩
    exact ⟨stage, room, moves_of_step h, rfl⟩
  · rintro ⟨stage, room, h, rfl⟩
    exact ⟨stage, room, step_of_moves h, rfl⟩

theorem run_append (before after : List Event) :
    run crowd s (before ++ after) = (run crowd s before).bind fun t => run crowd t after := by
  simp only [run, List.foldlM_append, bind]

theorem run_concat_iff (before : List Event) (e : Event) :
    run crowd s₀ (before ++ [e]) = some s' ↔
      ∃ s, run crowd s₀ before = some s ∧ s.step crowd e = some s' := by
  simp [run, Option.bind_eq_some_iff]

/-- A run that has come to an end has come through all its states. -/
theorem run_split {before after : List Event} (h : run crowd s₀ (before ++ after) = some s') :
    ∃ s, run crowd s₀ before = some s ∧ run crowd s after = some s' := by
  rw [run_append] at h
  exact Option.bind_eq_some_iff.1 h

theorem run_rest {before after : List Event} (hb : run crowd s₀ before = some s)
    (h : run crowd s₀ (before ++ after) = some s') : run crowd s after = some s' := by
  rw [run_append, hb] at h
  exact h

theorem run_trans {before after : List Event} (hb : run crowd s₀ before = some s)
    (h : run crowd s after = some s') : run crowd s₀ (before ++ after) = some s' := by
  rw [run_append, hb]
  exact h

theorem run_cons {e : Event} (h : run crowd s (e :: events) = some s') :
    ∃ t, s.step crowd e = some t ∧ run crowd t events = some s' := by
  simp only [run, List.foldlM_cons] at h
  exact Option.bind_eq_some_iff.1 h

/-- What holds at the start and is kept by every event of a run holds behind the run. -/
theorem run_induction {P : List Event → State → Prop} (h0 : P [] s₀)
    (hs : ∀ before e after s s', events = before ++ e :: after → run crowd s₀ before = some s → P before s →
      s.step crowd e = some s' → P (before ++ [e]) s')
    (h : run crowd s₀ events = some s) : P events s := by
  suffices ∀ before after s, events = before ++ after → run crowd s₀ before = some s → P before s from
    this events [] s (by simp) h
  intro before
  induction before using List.reverseRecOn with
  | nil => intro after s _ h; cases h; exact h0
  | append_singleton before e ih =>
    intro after s' he h
    obtain ⟨s, hr, hst⟩ := (run_concat_iff before e).1 h
    rw [List.append_assoc] at he
    exact hs before e after s s' he hr (ih _ s he hr) hst

end State

/-! ## Trails -/

/-- The moves of one inquiry among all events. -/
def movesOf (i : Nat) (events : List Event) : List Move :=
  events.filterMap fun
    | .move j m => if j = i then some m else none
    | .clear => none

@[simp] theorem movesOf_append (i : Nat) (es es' : List Event) :
    movesOf i (es ++ es') = movesOf i es ++ movesOf i es' := List.filterMap_append

@[simp] theorem movesOf_self (i : Nat) (m : Move) : movesOf i [.move i m] = [m] := by simp [movesOf]

theorem movesOf_of_ne {i j : Nat} (h : j ≠ i) (m : Move) : movesOf i [.move j m] = [] := by simp [movesOf, h]

@[simp] theorem movesOf_clear (i : Nat) : movesOf i [.clear] = [] := rfl

theorem mem_movesOf {i : Nat} {m : Move} {events : List Event} :
    m ∈ movesOf i events ↔ .move i m ∈ events := by
  induction events with
  | nil => simp [movesOf]
  | cons e events ih =>
    rw [← List.singleton_append, movesOf_append, List.mem_append, ih]
    cases e with
    | clear => simp
    | move j m' =>
      by_cases hj : j = i
      · subst hj; simp
      · simp [movesOf_of_ne hj, Ne.symm hj]

/-- What an inquiry of a client can do, and the stage that it reaches by it. -/
inductive Trail (c : Client) : List Move → Stage → Prop
  | first : Trail c [] (.first c)
  | next {ms : List Move} {m : Move} {stage stage' : Stage} {room room' : Room} :
    Trail c ms stage → Moves c m stage room stage' room' → Trail c (ms ++ [m]) stage'

/-- In a run every inquiry leaves a trail, whatever the others do. -/
theorem trail_of_run {crowd : Crowd} {cache : Cache} {events : List Event} {s : State}
    (h : State.run crowd (.initial crowd cache) events = some s) (i : Nat) :
    Trail (crowd.clientOf i) (movesOf i events) (s.stage i) := by
  refine State.run_induction
    (P := fun es s => Trail (crowd.clientOf i) (movesOf i es) (s.stage i)) .first ?_ h
  intro before e after s s' _ _ ih hst
  rw [movesOf_append]
  cases e with
  | clear => cases hst; simpa using ih
  | move j m =>
    obtain ⟨stage, room, hm, rfl⟩ := State.step_move_iff.1 hst
    by_cases hj : j = i
    · subst hj
      simpa [State.behind] using ih.next hm
    · simpa [State.behind, movesOf_of_ne hj, replace_of_ne _ _ (Ne.symm hj)] using ih

/-- What a stage shows of the answer that the inquiry heard. -/
inductive Stage.Shows (c : Client) : Except Error Catalog → Stage → Prop
  | fetched (catalog : Catalog) : Stage.Shows c (.ok catalog) (.fetched catalog)
  | leaving (answer : Except Error Catalog) : Stage.Shows c answer (.leaving (answer.map c.prune))
  | finished (answer : Except Error Catalog) : Stage.Shows c answer (.finished (answer.map c.prune))

namespace Trail

variable {c : Client} {ms : List Move} {stage : Stage} {d : Delivery} {catalog : Catalog} {e : Error}

/-- Whatever an inquiry heard shows from then on. -/
theorem shows_of_receive (h : Trail c ms stage) (hd : .receive d ∈ ms) :
    stage.Shows c (d.answer c.alpha .getCatalog) := by
  induction h with
  | first => cases hd
  | @next ms m stage stage' room room' _ hm ih =>
    rcases List.mem_append.1 hd with hd | hd
    · have hs := ih hd
      generalize d.answer c.alpha .getCatalog = answer at hs
      cases hs with
      | fetched catalog => cases hm; exact .leaving _
      | leaving => cases hm; exact .finished _
      | finished => cases hm
    · rw [List.mem_singleton] at hd
      subst hd
      cases hm with
      | brought hd => rw [hd]; exact .fetched _
      | failed hd => rw [hd]; exact .leaving _

/-- A catalog that was fetched came with a delivery. -/
theorem receive_of_fetched (h : Trail c ms stage) (hs : stage = .fetched catalog) :
    ∃ d, .receive d ∈ ms ∧ d.answer c.alpha .getCatalog = .ok catalog := by
  cases h with
  | first => unfold Stage.first at hs; split at hs <;> cases hs
  | next _ hm =>
    subst hs
    cases hm with
    | brought hd => exact ⟨_, by simp, hd⟩

/-- A failure came with a delivery, unless there was no request to send. -/
theorem receive_of_error (h : Trail c ms stage)
    (hs : stage = .leaving (.error e) ∨ stage = .finished (.error e)) :
    (∃ d, .receive d ∈ ms ∧ d.answer c.alpha .getCatalog = .error e) ∨
      c.prepare ⟨.getCatalog, ()⟩ = .error e := by
  induction h with
  | first => unfold Stage.first at hs; split at hs <;> rcases hs with hs | hs <;> cases hs
  | next _ hm ih =>
    rcases hs with rfl | rfl
    · cases hm with
      | unbuilt hp => exact .inr hp
      | failed hd => exact .inl ⟨_, by simp, hd⟩
    · cases hm with
      | unlock =>
        rcases ih (.inl rfl) with ⟨d, hd, he⟩ | hp
        · exact .inl ⟨d, List.mem_append_left _ hd, he⟩
        · exact .inr hp

/-- Only a request that was sent is replied to. -/
theorem send_of_asked {request : Http.Request} (h : Trail c ms stage) (hs : stage = .asked request) :
    .send ∈ ms ∧ c.prepare ⟨.getCatalog, ()⟩ = .ok request := by
  cases h with
  | first => unfold Stage.first at hs; split at hs <;> cases hs
  | next _ hm =>
    subst hs
    cases hm with
    | send hp => exact ⟨by simp, hp⟩

theorem send_of_receive (h : Trail c ms stage) (hd : .receive d ∈ ms) :
    .send ∈ ms ∧ ∃ request, c.prepare ⟨.getCatalog, ()⟩ = .ok request := by
  induction h with
  | first => cases hd
  | next ht hm ih =>
    rcases List.mem_append.1 hd with hd | hd
    · exact (ih hd).imp_left (List.mem_append_left _)
    · rw [List.mem_singleton] at hd
      subst hd
      cases hm with
      | brought =>
        obtain ⟨hs, hp⟩ := ht.send_of_asked rfl
        exact ⟨List.mem_append_left _ hs, _, hp⟩
      | failed =>
        obtain ⟨hs, hp⟩ := ht.send_of_asked rfl
        exact ⟨List.mem_append_left _ hs, _, hp⟩

end Trail

/-! ## Requests that were sent -/

/-- A request was sent exactly if its inquiry made the move to send it and it could be built. -/
theorem mem_sent_iff {crowd : Crowd} {cache : Cache} {events : List Event} {s : State}
    (h : State.run crowd (.initial crowd cache) events = some s) (i : Nat) (request : Http.Request) :
    (i, request) ∈ s.sent ↔
      .move i .send ∈ events ∧ (crowd.clientOf i).prepare ⟨.getCatalog, ()⟩ = .ok request := by
  refine State.run_induction (P := fun es s => (i, request) ∈ s.sent ↔ .move i .send ∈ es ∧
    (crowd.clientOf i).prepare ⟨.getCatalog, ()⟩ = .ok request) ?_ ?_ h
  · simp [State.initial]
  · intro before e after s s' _ _ ih hst
    cases e with
    | clear => cases hst; simpa using ih
    | move j m =>
      obtain ⟨stage, room, hm, rfl⟩ := State.step_move_iff.1 hst
      generalize s.stage j = stage₀ at hm
      cases hm with
      | send hp =>
        simp only [State.behind, sentBy, List.mem_append, ih, List.mem_singleton, Prod.mk.injEq,
          Event.move.injEq, and_true]
        constructor
        · rintro (⟨hs, hp'⟩ | ⟨rfl, rfl⟩)
          · exact ⟨.inl hs, hp'⟩
          · exact ⟨.inr rfl, hp⟩
        · rintro ⟨hs | rfl, hp'⟩
          · exact .inl ⟨hs, hp'⟩
          · rw [hp] at hp'; cases hp'
            exact .inr ⟨rfl, rfl⟩
      | unbuilt hp =>
        simp only [State.behind, sentBy, List.append_nil, ih, List.mem_append, List.mem_singleton,
          Event.move.injEq, and_true]
        constructor
        · rintro ⟨hs, hp'⟩; exact ⟨.inl hs, hp'⟩
        · rintro ⟨hs | rfl, hp'⟩
          · exact ⟨hs, hp'⟩
          · rw [hp] at hp'; cases hp'
      | _ => simpa [State.behind, sentBy] using ih

end ServiceBroker.Inquiry
