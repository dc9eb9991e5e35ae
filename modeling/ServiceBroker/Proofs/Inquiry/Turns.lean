/-
The lock of a client that keeps the catalog. Of all the inquiries of such a client at most one has its turn,
from taking the lock to giving it back, whatever is dropped in between and whatever other clients do.
-/
import ServiceBroker.Proofs.Inquiry.Run

namespace ServiceBroker.Inquiry

/-- The stages of an inquiry that has its turn. -/
def Stage.holds : Stage → Bool
  | .entered | .missed | .asked _ | .fetched _ | .leaving _ => true
  | .waiting | .finished _ | .dropped => false

/-- A turn is taken when the lock is free, and the lock is free again behind it. -/
theorem Moves.turn {c : Client} {m : Move} {stage stage' : Stage} {room room' : Room}
    (hk : c.keepsCatalog = true) (h : Moves c m stage room stage' room') :
    (stage.holds = false ∧ room.locked = false ∧ stage'.holds = true ∧ room'.locked = true) ∨
    (stage.holds = true ∧ stage'.holds = true ∧ room'.locked = room.locked) ∨
    (stage.holds = true ∧ stage'.holds = false ∧ room'.locked = false) ∨
    (stage.holds = false ∧ stage'.holds = false ∧ room'.locked = room.locked) := by
  have hleft : ∀ room : Room, (room.left c).locked = false := by
    intro room
    simp [Room.left, hk]
  have hstored : ∀ (room : Room) works catalog, (room.stored c works catalog).locked = room.locked := by
    intro room works catalog
    simp [Room.stored, hk]
  cases h with
  | lock hl => exact .inl ⟨rfl, hl, rfl, rfl⟩
  | store => exact .inr (.inl ⟨rfl, rfl, hstored ..⟩)
  | unlock => exact .inr (.inr (.inl ⟨rfl, rfl, hleft _⟩))
  | giveUp => exact .inr (.inr (.inl ⟨rfl, rfl, hleft _⟩))
  | cutOff => exact .inr (.inr (.inl ⟨rfl, rfl, hleft _⟩))
  | resign => exact .inr (.inr (.inr ⟨rfl, rfl, rfl⟩))
  | _ => exact .inr (.inl ⟨rfl, rfl, rfl⟩)

/-- The inquiries of a client that keeps the catalog take turns. -/
structure Turns (crowd : Crowd) (s : State) : Prop where
  locked : ∀ i, (crowd.clientOf i).keepsCatalog = true → (s.stage i).holds = true →
    s.locked (crowd.asker i) = true
  alone : ∀ i j, (crowd.clientOf i).keepsCatalog = true → crowd.asker i = crowd.asker j →
    (s.stage i).holds = true → (s.stage j).holds = true → i = j

section

variable {crowd : Crowd} {s : State} {i : Nat} {m : Move} {stage : Stage} {room : Room}

theorem clientOf_eq {i j : Nat} (h : crowd.asker i = crowd.asker j) :
    crowd.clientOf i = crowd.clientOf j := by
  unfold Crowd.clientOf
  rw [h]

theorem Turns.initial (crowd : Crowd) (cache : Cache) : Turns crowd (.initial crowd cache) := by
  have hw : ∀ i, (crowd.clientOf i).keepsCatalog = true →
      ((State.initial crowd cache).stage i).holds = false := by
    intro i hk
    simp [State.initial, Stage.first, hk, Stage.holds]
  constructor
  · intro i hk hi
    rw [hw i hk] at hi
    cases hi
  · intro i j hk _ hi
    rw [hw i hk] at hi
    cases hi

/-- Nobody else of the same client has a turn before or behind a move that takes, keeps or ends one. -/
theorem Turns.others (ht : Turns crowd s)
    (hm : Moves (crowd.clientOf i) m (s.stage i) (s.room crowd i) stage room)
    {j : Nat} (hk : (crowd.clientOf i).keepsCatalog = true) (ho : crowd.asker i = crowd.asker j) (hj : j ≠ i)
    (hh : (s.stage j).holds = true) :
    (s.stage i).holds = false ∧ stage.holds = false ∧ room.locked = true := by
  have hkj : (crowd.clientOf j).keepsCatalog = true := by rwa [← clientOf_eq ho]
  have hl : (s.room crowd i).locked = true := by
    show s.locked (crowd.asker i) = true
    rw [ho]
    exact ht.locked j hkj hh
  have hi : (s.stage i).holds = false := by
    by_contra hi
    exact hj (ht.alone i j hk ho (by simpa using hi) hh).symm
  rcases hm.turn hk with ⟨_, hf, _⟩ | ⟨h, _⟩ | ⟨h, _⟩ | ⟨_, hs, hr⟩
  · rw [hl] at hf; cases hf
  · rw [hi] at h; cases h
  · rw [hi] at h; cases h
  · exact ⟨hi, hs, hr.trans hl⟩

theorem Turns.move (ht : Turns crowd s)
    (hm : Moves (crowd.clientOf i) m (s.stage i) (s.room crowd i) stage room) :
    Turns crowd (s.behind crowd i m stage room) := by
  constructor
  · intro j hk hj
    show replace s.locked (crowd.asker i) room.locked (crowd.asker j) = true
    by_cases ho : crowd.asker j = crowd.asker i
    · rw [ho, replace_self]
      have hki : (crowd.clientOf i).keepsCatalog = true := by rwa [← clientOf_eq ho]
      by_cases hji : j = i
      · subst hji
        rw [State.behind_stage_self] at hj
        rcases hm.turn hk with ⟨_, _, _, hl⟩ | ⟨hh, _, hr⟩ | ⟨_, hs, _⟩ | ⟨_, hs, _⟩
        · exact hl
        · exact hr.trans (ht.locked j hk hh)
        · rw [hs] at hj; cases hj
        · rw [hs] at hj; cases hj
      · rw [State.behind_stage_of_ne hji] at hj
        exact (ht.others hm hki ho.symm hji hj).2.2
    · have hji : j ≠ i := fun h => ho (by rw [h])
      rw [State.behind_stage_of_ne hji] at hj
      rw [replace_of_ne _ _ ho]
      exact ht.locked j hk hj
  · intro j k hk ho hj hk'
    by_contra hne
    -- two of one client had no turn at once before, and whoever took its turn now found nobody else
    by_cases hji : j = i
    · subst hji
      have hkj : k ≠ j := Ne.symm hne
      rw [State.behind_stage_self] at hj
      rw [State.behind_stage_of_ne hkj] at hk'
      obtain ⟨_, hs, _⟩ := ht.others hm hk ho hkj hk'
      rw [hs] at hj; cases hj
    · rw [State.behind_stage_of_ne hji] at hj
      by_cases hki : k = i
      · subst hki
        rw [State.behind_stage_self] at hk'
        obtain ⟨_, hs, _⟩ := ht.others hm (by rwa [← clientOf_eq ho]) ho.symm hji hj
        rw [hs] at hk'; cases hk'
      · rw [State.behind_stage_of_ne hki] at hk'
        exact hne (ht.alone j k hk ho hj hk')

end

/-- Whatever happens, the inquiries of a client that keeps the catalog take turns. -/
theorem turns_of_run {crowd : Crowd} {cache : Cache} {events : List Event} {s : State}
    (h : State.run crowd (.initial crowd cache) events = some s) : Turns crowd s := by
  refine State.run_induction (P := fun _ s => Turns crowd s) (.initial crowd cache) ?_ h
  intro before e after s s' _ _ ht hst
  cases e with
  | clear =>
    cases hst
    exact ⟨ht.locked, ht.alone⟩
  | move i m =>
    obtain ⟨stage, room, hm, rfl⟩ := State.step_move_iff.1 hst
    exact ht.move hm

end ServiceBroker.Inquiry
