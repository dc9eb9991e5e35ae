/-
Where a document breaks off. What is kept of a document is held to more rules than what is skipped, so whatever a shape
reads could have been skipped (`Shape.skipFault?_of_read`).
-/
import ServiceBroker.Json.Shape
import ServiceBroker.Proofs.Except

namespace ServiceBroker.Json

/-! ## Free values -/

mutual

theorem Node.skipFault?_of_toFree {budget : Nat} {j : Free} :
    (node : Node) → node.toFree budget = .ok j → node.skipFault? = none
  | .null _, _ | .bool _ _, _ | .number _ _, _ | .text _ _, _ => rfl
  | .array _ items, h => by
    rw [Node.toFree] at h
    obtain ⟨inner, _, h⟩ := bind_eq_ok_iff.1 h
    obtain ⟨read, hread, _⟩ := bind_eq_ok_iff.1 h
    exact items.skipFault?_of_toFree hread
  | .object _ members, h => by
    rw [Node.toFree] at h
    obtain ⟨inner, _, h⟩ := bind_eq_ok_iff.1 h
    obtain ⟨read, hread, _⟩ := bind_eq_ok_iff.1 h
    exact members.skipFault?_of_toDictionary hread
  | .broken _ _, h => by
    rw [Node.toFree] at h
    cases h

theorem Items.skipFault?_of_toFree {budget : Nat} {js : { items : List Json // CanonicalItems items }} :
    (items : Items) → items.toFree budget = .ok js → items.skipFault? = none
  | .close _, _ => rfl
  | .item _ value rest, h => by
    rw [Items.toFree] at h
    obtain ⟨j, hj, h⟩ := bind_eq_ok_iff.1 h
    obtain ⟨more, hmore, _⟩ := bind_eq_ok_iff.1 h
    exact Option.or_eq_none_iff.2 ⟨value.skipFault?_of_toFree hj, rest.skipFault?_of_toFree hmore⟩
  | .broken _ _ _, h => by
    rw [Items.toFree] at h
    cases h

theorem Members.skipFault?_of_toDictionary {budget : Nat} {d d' : Dictionary} :
    (members : Members) → members.toDictionary budget d = .ok d' → members.skipFault? = none
  | .close _, _ => rfl
  | .member (.ok name) _ value _ rest, h => by
    rw [Members.toDictionary] at h
    obtain ⟨j, hj, h⟩ := bind_eq_ok_iff.1 h
    exact Option.or_eq_none_iff.2 ⟨value.skipFault?_of_toFree hj, rest.skipFault?_of_toDictionary h⟩
  | .member (.error _) _ _ _ _, h => by
    rw [Members.toDictionary] at h
    cases h
  | .broken _ _, h => by
    rw [Members.toDictionary] at h
    cases h

end

/-! ## Shapes -/

theorem Items.skipFault?_of_collect {α : Type} {f : Node → Except Fault α}
    (hf : ∀ {node a}, f node = .ok a → node.skipFault? = none) {as : List α} :
    (items : Items) → items.collect f = .ok as → items.skipFault? = none
  | .close _, _ => rfl
  | .item _ value rest, h => by
    rw [Items.collect] at h
    obtain ⟨a, ha, h⟩ := bind_eq_ok_iff.1 h
    obtain ⟨more, hmore, _⟩ := bind_eq_ok_iff.1 h
    exact Option.or_eq_none_iff.2 ⟨hf ha, rest.skipFault?_of_collect hf hmore⟩
  | .broken _ _ _, h => by
    rw [Items.collect] at h
    cases h

/-- A member is either taken or skipped; neither goes past a break. -/
theorem Members.skipFault?_of_foldFields {σ : Type} {take : σ → String → Nat → Node → Option (Except Fault σ)}
    (ht : ∀ {s name stop node s'}, take s name stop node = some (.ok s') → node.skipFault? = none) {out : σ × Nat} :
    (members : Members) → (s : σ) → members.foldFields take s = .ok out → members.skipFault? = none
  | .close _, _, _ => rfl
  | .member (.ok name) stop value _ rest, s, h => by
    rw [Members.foldFields] at h
    split at h
    · rename_i result hresult
      obtain ⟨s', hs', h⟩ := bind_eq_ok_iff.1 (show result >>= _ = _ from h)
      subst hs'
      exact Option.or_eq_none_iff.2 ⟨ht hresult, rest.skipFault?_of_foldFields ht s' h⟩
    · split at h
      · cases h
      · rename_i hskip
        exact Option.or_eq_none_iff.2 ⟨hskip, rest.skipFault?_of_foldFields ht s h⟩
  | .member (.error _) _ _ _ _, _, h => by
    rw [Members.foldFields] at h
    cases h
  | .broken _ _, _, h => by
    rw [Members.foldFields] at h
    cases h

mutual

theorem Shape.skipFault?_of_read : {α : Type} → (shape : Shape α) → {budget : Nat} → {node : Node} → {a : α} →
    shape.read budget node = .ok a → node.skipFault? = none
  | _, .text, budget, node, _, h => by
    cases node with
    | text _ _ => rfl
    | _ => cases h
  | _, .bool, budget, node, _, h => by
    cases node with
    | bool _ _ => rfl
    | _ => cases h
  | _, .count width, budget, node, _, h => by
    cases node with
    | number _ _ => rfl
    | _ => cases h
  | _, .free, budget, node, _, h => by
    rw [Shape.read] at h
    exact node.skipFault?_of_toFree h
  | _, .dictionary, budget, node, _, h => by
    cases node with
    | object start members =>
      rw [Shape.read] at h
      obtain ⟨inner, _, h⟩ := bind_eq_ok_iff.1 h
      exact members.skipFault?_of_toDictionary h
    | _ => cases h
  | _, .list item, budget, node, _, h => by
    cases node with
    | array start items =>
      rw [Shape.read] at h
      obtain ⟨inner, _, h⟩ := bind_eq_ok_iff.1 h
      exact items.skipFault?_of_collect item.skipFault?_of_read h
    | _ => cases h
  | _, .option shape, budget, node, _, h => by
    cases node with
    | null _ => rfl
    | _ =>
      rw [Shape.read] at h
      · obtain ⟨a, ha, _⟩ := map_eq_ok_iff.1 h
        exact shape.skipFault?_of_read ha
      · nofun
  | _, .record name fields, budget, node, _, h => by
    cases node with
    | object start members =>
      rw [Shape.read] at h
      obtain ⟨inner, _, h⟩ := bind_eq_ok_iff.1 h
      obtain ⟨out, hout, _⟩ := bind_eq_ok_iff.1 h
      exact members.skipFault?_of_foldFields fields.skipFault?_of_take _ hout
    | array start items =>
      rw [Shape.read] at h
      obtain ⟨inner, _, h⟩ := bind_eq_ok_iff.1 h
      exact fields.skipFault?_of_readItems h
    | _ => cases h
  | _, .view shape build parts, budget, node, _, h => by
    rw [Shape.read] at h
    obtain ⟨a, ha, _⟩ := map_eq_ok_iff.1 h
    exact shape.skipFault?_of_read ha

theorem Fields.skipFault?_of_take : {ρ σ : Type} → (fields : Fields ρ σ) → {budget : Nat} → {s : σ} → {name : String} →
    {stop : Nat} → {node : Node} → {s' : σ} → fields.take budget s name stop node = some (.ok s') →
    node.skipFault? = none
  | _, _, .nil, _, _, _, _, _, _, h => by cases h
  | _, _, .cons field shape presence hidden rest, budget, (slot, slots), name, stop, node, s', h => by
    unfold Fields.take at h
    -- the member names this field, or one of the others
    split at h
    · cases slot with
      | some _ => cases h
      | none =>
        obtain ⟨a, ha, _⟩ := map_eq_ok_iff.1 (Option.some.inj h)
        exact shape.skipFault?_of_read ha
    · obtain ⟨result, hresult, h⟩ := Option.map_eq_some_iff.1 h
      obtain ⟨slots', rfl, _⟩ := map_eq_ok_iff.1 h
      exact rest.skipFault?_of_take hresult

theorem Fields.skipFault?_of_readItems : {ρ σ : Type} → (fields : Fields ρ σ) → {budget : Nat} → {wanted : String} →
    {index : Nat} → {items : Items} → {r : ρ} → fields.readItems budget wanted index items = .ok r →
    items.skipFault? = none
  | _, _, .nil, budget, wanted, index, items, _, h => by
    cases items with
    | close _ => rfl
    | _ => cases h
  | _, _, .cons name shape presence hidden rest, budget, wanted, index, items, _, h => by
    cases items with
    | close _ => rfl
    | item next value items =>
      rw [Fields.readItems] at h
      obtain ⟨a, ha, h⟩ := bind_eq_ok_iff.1 h
      obtain ⟨more, hmore, _⟩ := bind_eq_ok_iff.1 h
      exact Option.or_eq_none_iff.2 ⟨shape.skipFault?_of_read ha, rest.skipFault?_of_readItems hmore⟩
    | broken _ _ _ => cases h

end

end ServiceBroker.Json
