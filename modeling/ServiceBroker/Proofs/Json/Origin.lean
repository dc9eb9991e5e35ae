/-
Where the values of a record come from. `Shapes` tells what is read from a content that is known in full; here a
record has been read, and each of its fields is found to be what the content says of it, or to be missing there
(`filledFrom_of_gives`, `listedFrom_of_gives`). Nothing need be known of the other fields. What the document supplies
is known already; it remains to be seen that the content says the same.
-/
import ServiceBroker.Proofs.Json.Supply

namespace ServiceBroker.Json

/-- A value was read from a document that shows a content, within a budget of nested lists and objects. -/
def Shape.Gives (budget : Nat) (shape : Shape α) (content : Content) (a : α) : Prop :=
  ∃ node : Node, node.Shows content ∧ shape.read budget node = .ok a

/-- The fields of a record come from the members of an object. A field comes from the only member with its name,
or there is none and it may be missing. -/
def Fields.FilledFrom (budget : Nat) : {ρ σ : Type} → Fields ρ σ → List (String × Content) → ρ → Prop
  | _, _, .nil, _, _ => True
  | _, _, .cons name shape presence _ rest, contents, (a, r) =>
    ((∃ content, contentsOf name contents = [content] ∧ shape.Gives budget content a) ∨
      (contentsOf name contents = [] ∧ presence.named? = some a)) ∧
    rest.FilledFrom budget (contentsBut name contents) r

/-- The fields of a record come from the items of an array, in order. Fields behind the last item may be missing. -/
def Fields.ListedFrom (budget : Nat) : {ρ σ : Type} → Fields ρ σ → List Content → ρ → Prop
  | _, _, .nil, items, _ => items = []
  | _, _, .cons _ shape presence _ rest, items, (a, r) =>
    ((∃ content, items.head? = some content ∧ shape.Gives budget content a) ∨
      (items = [] ∧ presence.placed? = some a)) ∧
    rest.ListedFrom budget items.tail r

variable {budget : Nat} {shape : Shape α} {content : Content} {a b : α}

/-- If every document that shows a content is read as one value, so was this one. -/
theorem Shape.Gives.eq (h : shape.Gives budget content a) (hr : shape.Reads budget content b) : a = b := by
  obtain ⟨node, hn, ha⟩ := h
  exact Except.ok.inj (ha.symm.trans (hr node hn))

theorem gives_of_decode {bytes : List UInt8} (h : shape.decode bytes = .ok a) (hb : SpellsDocument bytes content) :
    shape.Gives maxDepth content a := by
  obtain ⟨node, hn, hd⟩ := decodeWith_of_spells hb (shape.read maxDepth)
  unfold Shape.decode at h
  rw [hd] at h
  exact ⟨node, hn, mapError_eq_ok_iff.1 h⟩

theorem gives_of_gives_view {build : α → β} {parts : β → α} {b : β}
    (h : (Shape.view shape build parts).Gives budget content b) : ∃ a, shape.Gives budget content a ∧ build a = b := by
  obtain ⟨node, hn, hr⟩ := h
  rw [Shape.read] at hr
  obtain ⟨a, ha, hbuild⟩ := map_eq_ok_iff.1 hr
  exact ⟨a, ⟨node, hn, ha⟩, hbuild⟩

/-! ## Objects -/

/-- What stands in an object for a name shows what its content says of the name. -/
theorem Members.Shows.valuesOf {members : Members} {contents : List (String × Content)} (h : members.Shows contents)
    (name : String) : List.Forall₂ Node.Shows (members.valuesOf name) (contentsOf name contents) := by
  induction contents generalizing members with
  | nil =>
    cases h
    exact .nil
  | cons c contents ih =>
    cases h with
    | member n stop behind hv hr =>
      rw [Members.valuesOf]
      by_cases hn : n = name
      · subst hn
        rw [if_pos rfl, contentsOf, List.filter_cons_of_pos (by simp), List.map_cons]
        exact .cons hv (ih hr)
      · rw [if_neg hn, contentsOf_cons_of_ne (Ne.symm hn)]
        exact ih hr

/-- Fields that are supplied by what shows contents come from the contents. What one field takes out is of no concern to
the others, which have other names. -/
theorem filledFrom_of_from {said : String → List Node} : {ρ σ : Type} → (fields : Fields ρ σ) → fields.names.Nodup →
    {contents : List (String × Content)} →
    (∀ name ∈ fields.names, List.Forall₂ Node.Shows (said name) (contentsOf name contents)) → {r : ρ} →
    fields.From budget (fun name _ => said name) r → fields.FilledFrom budget contents r
  | _, _, .nil, _, _, _, _, _ => trivial
  | _, _, .cons name shape presence hidden rest, hd, contents, hs, (a, r), hfrom => by
    obtain ⟨hsupplied, hrest⟩ := hfrom
    obtain ⟨hname, hd⟩ := List.nodup_cons.1 hd
    have hshows := hs name (List.mem_cons_self ..)
    constructor
    · rcases hsupplied with ⟨node, hone, hread⟩ | ⟨hnone, hp⟩
      · rw [show said name = [node] from hone] at hshows
        obtain ⟨content, _, hv, hnil, hcontents⟩ := List.forall₂_cons_left_iff.1 hshows
        rw [List.forall₂_nil_left_iff.1 hnil] at hcontents
        exact .inl ⟨content, hcontents, node, hv, hread⟩
      · rw [show said name = [] from hnone] at hshows
        exact .inr ⟨List.forall₂_nil_left_iff.1 hshows, hp⟩
    · refine filledFrom_of_from rest hd (fun other ho => ?_) hrest
      have hne : other ≠ name := by
        rintro rfl
        exact hname ho
      rw [contentsOf_contentsBut hne]
      exact hs other (List.mem_cons_of_mem _ ho)

theorem filledFrom_of_gives {fields : Fields ρ σ} (hd : fields.names.Nodup) {name : String}
    {contents : List (String × Content)} {r : ρ} (h : (Shape.record name fields).Gives budget (.object contents) r) :
    ∃ budget, fields.FilledFrom budget contents r := by
  obtain ⟨_, ⟨⟩, hr⟩ := h
  next members start hm =>
    obtain ⟨inner, hfrom⟩ := from_of_read hd hr
    exact ⟨inner, filledFrom_of_from fields hd (fun name _ => hm.valuesOf name) hfrom⟩

/-! ## Arrays -/

/-- Fields that were read from an array come from its items. -/
theorem listedFrom_of_readItems {wanted : String} : {ρ σ : Type} → (fields : Fields ρ σ) → {items : Items} →
    {contents : List Content} → items.Shows contents → {index : Nat} → {r : ρ} →
    fields.readItems budget wanted index items = .ok r → fields.ListedFrom budget contents r
  | _, _, .nil, _, _, .close _, _, _, _ => rfl
  | _, _, .nil, _, _, .item _ _ _, _, _, h => by
    rw [Fields.readItems] at h
    cases h
  | _, _, .cons name shape presence hidden rest, _, _, @Items.Shows.item value content items contents next hv hi,
      index, (a, r), h => by
    obtain ⟨ha, hmore⟩ := readItems_item_eq_ok_iff.1 h
    exact ⟨.inl ⟨content, rfl, value, hv, ha⟩, listedFrom_of_readItems rest hi hmore⟩
  | _, _, .cons name shape presence hidden rest, _, _, .close stop, index, (a, r), h => by
    obtain ⟨hp, hmore⟩ := readItems_close_eq_ok_iff.1 h
    exact ⟨.inr ⟨rfl, hp⟩, listedFrom_of_readItems rest (.close stop) hmore⟩

theorem listedFrom_of_gives {fields : Fields ρ σ} {name : String} {contents : List Content} {r : ρ}
    (h : (Shape.record name fields).Gives budget (.array contents) r) :
    ∃ budget, fields.ListedFrom budget contents r := by
  obtain ⟨_, ⟨⟩, hr⟩ := h
  next items start hi =>
    rw [Shape.read] at hr
    obtain ⟨inner, _, hr⟩ := bind_eq_ok_iff.1 hr
    exact ⟨inner, listedFrom_of_readItems fields hi hr⟩

end ServiceBroker.Json
