/-
The pieces of a path. A path is slashes, any number of them anywhere, and pieces between them that hold no slash and
are not empty; it has one sequence of such pieces (`pathPieces_eq_iff`).
-/
import Mathlib.Data.List.TakeWhile
import ServiceBroker.Call

namespace ServiceBroker

/-- A text between slashes: the pieces that are not empty, in order. A piece goes as far as the next slash. -/
inductive Pieced : List Char → List String → Prop
  | nil : Pieced [] []
  | slash {cs : List Char} {pieces : List String} (h : Pieced cs pieces) : Pieced ('/' :: cs) pieces
  | piece {cs front : List Char} {pieces : List String} (hne : front ≠ []) (hslash : '/' ∉ front)
    (hend : ∀ c ∈ cs.head?, c = '/') (h : Pieced cs pieces) : Pieced (front ++ cs) (String.ofList front :: pieces)

variable {cs front : List Char} {pieces : List String}

theorem splitChars_eq_splitOn (separator : Char) (cs : List Char) : splitChars separator cs = cs.splitOn separator := by
  induction cs with
  | nil => rfl
  | cons c cs ih =>
    obtain ⟨first, more, hmore⟩ := List.exists_cons_of_ne_nil (List.splitOn_ne_nil separator cs)
    rw [List.splitOn_cons_eq_if_modifyHead, splitChars, ih, hmore]
    simp only [beq_iff_eq, List.modifyHead_cons]

theorem filter_splitChars_append (hne : front ≠ []) (hslash : '/' ∉ front) (hend : ∀ c ∈ cs.head?, c = '/') :
    (splitChars '/' (front ++ cs)).filter (!·.isEmpty) = front :: (splitChars '/' cs).filter (!·.isEmpty) := by
  rw [splitChars_eq_splitOn, splitChars_eq_splitOn]
  cases cs with
  | nil =>
    rw [List.append_nil, List.splitOn_eq_singleton hslash]
    simp [hne]
  | cons c cs =>
    obtain rfl := hend c rfl
    rw [List.splitOn_append_cons_self_of_not_mem hslash]
    simp [hne, List.splitOn_cons_eq_if_modifyHead]

theorem Pieced.eq (h : Pieced cs pieces) : ((splitChars '/' cs).filter (!·.isEmpty)).map String.ofList = pieces := by
  induction h with
  | nil => rfl
  | slash _ ih => exact ih
  | piece hne hslash hend _ ih => rw [filter_splitChars_append hne hslash hend, List.map_cons, ih]

theorem exists_pieced (cs : List Char) : ∃ pieces, Pieced cs pieces := by
  -- Behind a slash, and behind a first piece, stands a shorter text.
  induction hn : cs.length using Nat.strongRecOn generalizing cs with
  | ind n ih =>
    subst hn
    by_cases hfront : cs.takeWhile (· != '/') = []
    · cases cs with
      | nil => exact ⟨[], .nil⟩
      | cons c cs =>
        obtain rfl : c = '/' := by
          by_contra hc
          rw [List.takeWhile_cons_of_pos (by simpa using hc)] at hfront
          cases hfront
        obtain ⟨pieces, h⟩ := ih _ (Nat.lt_succ_self _) cs rfl
        exact ⟨pieces, .slash h⟩
    · have hsplit : cs.takeWhile (· != '/') ++ cs.dropWhile (· != '/') = cs := List.takeWhile_append_dropWhile
      have hlength := congrArg List.length hsplit
      rw [List.length_append] at hlength
      have hpos := List.length_pos_iff.2 hfront
      obtain ⟨pieces, h⟩ := ih (cs.dropWhile (· != '/')).length (by omega) _ rfl
      have hslash : '/' ∉ cs.takeWhile (· != '/') := fun h => by simpa using List.mem_takeWhile_imp h
      have hend : ∀ c ∈ (cs.dropWhile (· != '/')).head?, c = '/' := by
        intro c hc
        have hhead := List.head?_dropWhile_not (· != '/') cs
        rw [hc] at hhead
        simpa using hhead
      have hpiece := Pieced.piece hfront hslash hend h
      rw [hsplit] at hpiece
      exact ⟨_, hpiece⟩

/-- The pieces that are asked for are those that a text has. -/
theorem pathPieces_eq_iff {text : String} : pathPieces text = pieces ↔ Pieced text.toList pieces := by
  constructor
  · rintro rfl
    obtain ⟨pieces, h⟩ := exists_pieced text.toList
    rwa [← h.eq] at h
  · exact Pieced.eq

end ServiceBroker
