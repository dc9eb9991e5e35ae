/-
Steps that may fail. What is made of two steps succeeds exactly if the first does, and then the second with what the
first gave; readers are taken apart with these, step by step.
-/

namespace ServiceBroker

variable {ε ε' α β : Type} {x : Except ε α} {b : β}

theorem bind_eq_ok_iff {f : α → Except ε β} : x >>= f = .ok b ↔ ∃ a, x = .ok a ∧ f a = .ok b := by
  cases x with
  | error e => simp [bind, Except.bind]
  | ok a => simp [bind, Except.bind]

theorem map_eq_ok_iff {f : α → β} : x.map f = .ok b ↔ ∃ a, x = .ok a ∧ f a = b := by
  cases x with
  | error e => simp [Except.map]
  | ok a => simp [Except.map]

theorem map_eq_error_iff {f : α → β} {e : ε} : x.map f = .error e ↔ x = .error e := by
  cases x with
  | error e => simp [Except.map]
  | ok a => simp [Except.map]

theorem mapError_eq_ok_iff {f : ε → ε'} {a : α} : x.mapError f = .ok a ↔ x = .ok a := by
  cases x with
  | error e =>
    show Except.error (f e) = .ok a ↔ _
    simp
  | ok b =>
    show Except.ok b = .ok a ↔ _
    simp

theorem mapError_eq_error_iff {f : ε → ε'} {e : ε'} : x.mapError f = .error e ↔ ∃ e', e = f e' ∧ x = .error e' := by
  cases x with
  | error e' =>
    show Except.error (f e') = .error e ↔ _
    simp [eq_comm]
  | ok b =>
    show Except.ok b = .error e ↔ _
    simp

theorem toOption_eq_some_iff {a : α} : x.toOption = some a ↔ x = .ok a := by
  cases x with
  | error e => simp [Except.toOption]
  | ok a => simp [Except.toOption]

/-! ## Checks in a row -/

/-- A row of checks fails with the fault of the first check that fails. -/
theorem forM_eq_error_iff {f : α → Except ε Unit} {l : List α} {e : ε} :
    l.forM f = .error e ↔
      ∃ before a after, l = before ++ a :: after ∧ (∀ b ∈ before, f b = .ok ()) ∧ f a = .error e := by
  induction l with
  | nil =>
    constructor
    · intro h
      cases h
    · rintro ⟨before, a, after, h, -⟩
      cases before <;> cases h
  | cons a l ih =>
    rw [List.forM_eq_forM, List.forM_cons, ← List.forM_eq_forM]
    cases ha : f a with
    | error e' =>
      constructor
      · intro h
        exact ⟨[], a, l, rfl, nofun, ha.trans h⟩
      · rintro ⟨_ | ⟨b, before⟩, c, after, h, hbefore, hc⟩
        · obtain ⟨rfl, rfl⟩ := List.cons.inj h
          exact ha.symm.trans hc
        · obtain ⟨rfl, rfl⟩ := List.cons.inj h
          cases ha.symm.trans (hbefore a List.mem_cons_self)
    | ok =>
      show l.forM f = .error e ↔ _
      rw [ih]
      constructor
      · rintro ⟨before, c, after, rfl, hbefore, hc⟩
        exact ⟨a :: before, c, after, rfl, List.forall_mem_cons.2 ⟨ha, hbefore⟩, hc⟩
      · rintro ⟨_ | ⟨b, before⟩, c, after, h, hbefore, hc⟩
        · obtain ⟨rfl, rfl⟩ := List.cons.inj h
          cases ha.symm.trans hc
        · obtain ⟨rfl, rfl⟩ := List.cons.inj h
          exact ⟨before, c, after, rfl, (List.forall_mem_cons.1 hbefore).2, hc⟩

/-! ## Without the reason -/

theorem toOption_bind (x : Except ε α) (f : α → Except ε β) :
    (x >>= f).toOption = x.toOption.bind fun a => (f a).toOption := by
  cases x <;> rfl

theorem toOption_map (x : Except ε α) (f : α → β) : (x.map f).toOption = x.toOption.map f := by
  cases x <;> rfl

theorem toOption_mapError (x : Except ε α) (f : ε → ε') : (x.mapError f).toOption = x.toOption := by
  cases x <;> rfl

end ServiceBroker
