/-
Two pieces joined by a sign. Another pair of pieces makes the same whole only if one front piece goes on, behind the
sign, where the other one ends (`append_cons_eq_iff`). So the whole is cut in one way at the first sign, and in one way
at the last.
-/

namespace ServiceBroker

variable {α : Type} {x : α} {xs ys xs' ys' : List α}

/-- A text that is cut at the same sign twice, the first time not behind the second: the cuts are one, or something
stands between them. -/
theorem exists_append_cons_iff :
    (∃ zs, xs' = xs ++ zs ∧ x :: ys = zs ++ x :: ys') ↔
      (xs = xs' ∧ ys = ys') ∨ ∃ zs, xs' = xs ++ x :: zs ∧ ys = zs ++ x :: ys' := by
  constructor
  · rintro ⟨zs, rfl, h⟩
    cases zs with
    | nil => exact .inl ⟨(List.append_nil xs).symm, (List.cons.inj h).2⟩
    | cons z zs =>
      obtain ⟨rfl, rfl⟩ := List.cons.inj h
      exact .inr ⟨zs, rfl, rfl⟩
  · rintro (⟨rfl, rfl⟩ | ⟨zs, rfl, rfl⟩)
    · exact ⟨[], (List.append_nil xs).symm, rfl⟩
    · exact ⟨x :: zs, rfl, rfl⟩

theorem append_cons_eq_iff :
    xs ++ x :: ys = xs' ++ x :: ys' ↔
      (xs = xs' ∧ ys = ys') ∨ (∃ zs, xs = xs' ++ x :: zs ∧ ys' = zs ++ x :: ys) ∨
        ∃ zs, xs' = xs ++ x :: zs ∧ ys = zs ++ x :: ys' := by
  rw [List.append_eq_append_iff, exists_append_cons_iff, exists_append_cons_iff]
  constructor
  · rintro ((h | h) | (⟨rfl, rfl⟩ | h))
    · exact .inl h
    · exact .inr (.inr h)
    · exact .inl ⟨rfl, rfl⟩
    · exact .inr (.inl h)
  · rintro (h | h | h)
    · exact .inl (.inl h)
    · exact .inr (.inr h)
    · exact .inl (.inr h)

/-- The cut at the first sign. -/
theorem eq_of_append_cons_eq_of_front (h : xs ++ x :: ys = xs' ++ x :: ys') (hx : x ∉ xs) (hx' : x ∉ xs') :
    xs = xs' ∧ ys = ys' := by
  rcases append_cons_eq_iff.1 h with h | ⟨zs, rfl, _⟩ | ⟨zs, rfl, _⟩
  · exact h
  · exact absurd (List.mem_append_right _ List.mem_cons_self) hx
  · exact absurd (List.mem_append_right _ List.mem_cons_self) hx'

/-- The cut at the last sign. -/
theorem eq_of_append_cons_eq_of_back (h : xs ++ x :: ys = xs' ++ x :: ys') (hx : x ∉ ys) (hx' : x ∉ ys') :
    xs = xs' ∧ ys = ys' := by
  rcases append_cons_eq_iff.1 h with h | ⟨zs, _, rfl⟩ | ⟨zs, _, rfl⟩
  · exact h
  · exact absurd (List.mem_append_right _ List.mem_cons_self) hx'
  · exact absurd (List.mem_append_right _ List.mem_cons_self) hx

end ServiceBroker
