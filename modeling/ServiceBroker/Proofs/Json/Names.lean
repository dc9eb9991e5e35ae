/-
The names in a document. A name is looked for among the members of every object, except inside the values of some
members, whose contents are free. However a document is read, it has the same names (`names_of_spells`), and a
printed tree has the names of the tree, whatever numbers are in it (`names_of_spells_render`).
-/
import ServiceBroker.Proofs.Json.Doubles
import ServiceBroker.Proofs.Json.Contents

namespace ServiceBroker.Json

mutual

/-- A content has a member of a name, outside of the values of free members. -/
def Content.Names (free : List String) (name : String) : Content → Prop
  | .null | .bool _ | .number _ | .text _ => False
  | .array items => Content.ItemsName free name items
  | .object members => Content.MembersName free name members

/-- One of the items has a member of a name. -/
def Content.ItemsName (free : List String) (name : String) : List Content → Prop
  | [] => False
  | item :: rest => item.Names free name ∨ Content.ItemsName free name rest

/-- One of the members has a name, or has in its value a member of that name. -/
def Content.MembersName (free : List String) (name : String) : List (String × Content) → Prop
  | [] => False
  | (member, value) :: rest =>
    member = name ∨ (member ∉ free ∧ value.Names free name) ∨ Content.MembersName free name rest

end

variable {free : List String} {name : String}

/-! ## Documents -/

mutual

/-- What a document shows has the same names, whatever its numbers and texts are taken for. -/
theorem Node.Shows.names_iff {node : Node} {content content' : Content} (h : node.Shows content)
    (h' : node.Shows content') : content.Names free name ↔ content'.Names free name := by
  cases h with
  | null | bool | number | text =>
    cases h'
    exact Iff.rfl
  | array _ h =>
    cases h' with
    | array _ h' => exact h.names_iff h'
  | object _ h =>
    cases h' with
    | object _ h' => exact h.names_iff h'

theorem Items.Shows.names_iff {items : Items} {contents contents' : List Content} (h : items.Shows contents)
    (h' : items.Shows contents') : Content.ItemsName free name contents ↔ Content.ItemsName free name contents' := by
  cases h with
  | close =>
    cases h'
    exact Iff.rfl
  | item _ hv hr =>
    cases h' with
    | item _ hv' hr' => exact or_congr (hv.names_iff hv') (hr.names_iff hr')

theorem Members.Shows.names_iff {members : Members} {contents contents' : List (String × Content)}
    (h : members.Shows contents) (h' : members.Shows contents') :
    Content.MembersName free name contents ↔ Content.MembersName free name contents' := by
  cases h with
  | close =>
    cases h'
    exact Iff.rfl
  | member _ _ _ hv hr =>
    cases h' with
    | member _ _ _ hv' hr' =>
      exact or_congr Iff.rfl (or_congr (and_congr Iff.rfl (hv.names_iff hv')) (hr.names_iff hr'))

end

/-- All contents that the same bytes spell have the same names. -/
theorem names_of_spells {bytes : List UInt8} {content content' : Content} (h : SpellsDocument bytes content)
    (h' : SpellsDocument bytes content') : content.Names free name ↔ content'.Names free name := by
  obtain ⟨_, hs, hs'⟩ := exists_shows_of_spells h h'
  exact hs.names_iff hs'

theorem not_spellsDocument_nil {content : Content} : ¬ SpellsDocument [] content := by
  rintro ⟨g, bs, g', _, h, _, hnil⟩
  have hpos := length_pos_of_spells h
  have hlength := congrArg List.length hnil
  simp only [List.length_nil, List.length_append] at hlength
  omega

/-! ## Printed trees -/

-- Numbers are printed as some number, which need not be the one that is in the tree.
mutual

/-- A printed tree spells a content with the names of the tree. -/
theorem exists_spells : (j : Json) → ∃ content, Spells (bytesOf (renderChars j)) content ∧
    ∀ free name, content.Names free name ↔ (Content.ofJson j).Names free name
  | .null => ⟨_, .null, fun _ _ => Iff.rfl⟩
  | .bool true => ⟨_, .true, fun _ _ => Iff.rfl⟩
  | .bool false => ⟨_, .false, fun _ _ => Iff.rfl⟩
  | .number n => by
    obtain ⟨value, h⟩ := spells_number n
    exact ⟨_, h, fun _ _ => Iff.rfl⟩
  | .text s => ⟨_, spells_text s, fun _ _ => Iff.rfl⟩
  | .array items => by
    by_cases hi : items = []
    · subst hi
      exact ⟨_, .emptyArray gap_nil, fun _ _ => Iff.rfl⟩
    · obtain ⟨contents, h, hn⟩ := exists_spellsItems items hi
      exact ⟨_, .array h, hn⟩
  | .object members => by
    by_cases hm : members = []
    · subst hm
      exact ⟨_, .emptyObject gap_nil, fun _ _ => Iff.rfl⟩
    · obtain ⟨contents, h, hn⟩ := exists_spellsMembers members hm
      exact ⟨_, .object h, hn⟩

theorem exists_spellsItems : (items : List Json) → items ≠ [] → ∃ contents,
    SpellsItems (bytesOf (renderItems items)) contents ∧
      ∀ free name, Content.ItemsName free name contents ↔ Content.ItemsName free name (Content.ofItems items)
  | [], hne => absurd rfl hne
  | [j], _ => by
    obtain ⟨content, h, hn⟩ := exists_spells j
    refine ⟨[content], ?_, fun free name => or_congr (hn free name) Iff.rfl⟩
    rw [renderItems, bytesOf_append]
    exact spellsItems_singleton h
  | j :: k :: rest, _ => by
    obtain ⟨content, h, hn⟩ := exists_spells j
    obtain ⟨contents, hi, hin⟩ := exists_spellsItems (k :: rest) (List.cons_ne_nil k rest)
    refine ⟨content :: contents, ?_, fun free name => or_congr (hn free name) (hin free name)⟩
    rw [renderItems, bytesOf_append, bytesOf_cons]
    · exact spellsItems_cons h hi
    · nofun

theorem exists_spellsMembers : (members : List (String × Json)) → members ≠ [] → ∃ contents,
    SpellsMembers (bytesOf (renderMembers members)) contents ∧
      ∀ free name, Content.MembersName free name contents ↔ Content.MembersName free name (Content.ofMembers members)
  | [], hne => absurd rfl hne
  | [(member, j)], _ => by
    obtain ⟨content, h, hn⟩ := exists_spells j
    refine ⟨[(member, content)], ?_, fun free name =>
      or_congr Iff.rfl (or_congr (and_congr Iff.rfl (hn free name)) Iff.rfl)⟩
    rw [renderMembers, bytesOf_append, bytesOf_append, bytesOf_cons]
    exact spellsMembers_singleton h
  | (member, j) :: m :: rest, _ => by
    obtain ⟨content, h, hn⟩ := exists_spells j
    obtain ⟨contents, hm, hmn⟩ := exists_spellsMembers (m :: rest) (List.cons_ne_nil m rest)
    refine ⟨(member, content) :: contents, ?_, fun free name =>
      or_congr Iff.rfl (or_congr (and_congr Iff.rfl (hn free name)) (hmn free name))⟩
    rw [renderMembers, bytesOf_append, bytesOf_append, bytesOf_cons, bytesOf_cons]
    · exact spellsMembers_cons h hm
    · nofun

end

/-- The text of a tree is a document, and has the names of the tree. -/
theorem names_of_spells_render (j : Json) :
    (∃ content, SpellsDocument (Utf8.encode (render j)) content) ∧
      ∀ content, SpellsDocument (Utf8.encode (render j)) content →
        ∀ free name, content.Names free name ↔ (Content.ofJson j).Names free name := by
  obtain ⟨content, h, hn⟩ := exists_spells j
  have hdocument : SpellsDocument (Utf8.encode (render j)) content := by
    refine ⟨[], bytesOf (renderChars j), [], gap_nil, h, gap_nil, ?_⟩
    unfold Utf8.encode render
    rw [String.toList_ofList, List.nil_append, List.append_nil]
    rfl
  exact ⟨⟨content, hdocument⟩, fun content' h' free name => (names_of_spells h' hdocument).trans (hn free name)⟩

end ServiceBroker.Json
