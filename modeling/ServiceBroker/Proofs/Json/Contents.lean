/-
What a document says. Bytes that spell a content are read to the end, and the document that comes of it shows that
content (`ofBytes_of_spells`). A value that spells a content is one by its syntax, so the tree it is read as is known
already (`Spells.readAs`); here it only remains to be seen that the tree shows the content.
-/
import ServiceBroker.Proofs.Json.Syntax

namespace ServiceBroker.Json

/-! ## What a document shows -/

mutual

/-- A value in a document is what a content says. A number or a text without a value can be anything. -/
inductive Node.Shows : Node → Content → Prop
  | null (stop : Nat) : Node.Shows (.null stop) .null
  | bool (b : Bool) (stop : Nat) : Node.Shows (.bool b stop) (.bool b)
  | number {value content} (stop : Nat) : (∀ n, content = some n → value = .ok n) →
      Node.Shows (.number value stop) (.number content)
  | text {value content} (stop : Nat) : (∀ s, content = some s → value = .ok s) →
      Node.Shows (.text value stop) (.text content)
  | array {items contents} (start : Nat) : Items.Shows items contents →
      Node.Shows (.array start items) (.array contents)
  | object {members contents} (start : Nat) : Members.Shows members contents →
      Node.Shows (.object start members) (.object contents)

/-- The items of an array are what contents say, one by one. -/
inductive Items.Shows : Items → List Content → Prop
  | close (stop : Nat) : Items.Shows (.close stop) []
  | item {value content rest contents} (next : Nat) : Node.Shows value content → Items.Shows rest contents →
      Items.Shows (.item next value rest) (content :: contents)

/-- The members of an object have the names and the values that contents say. -/
inductive Members.Shows : Members → List (String × Content) → Prop
  | close (stop : Nat) : Members.Shows (.close stop) []
  | member {value content rest contents} (name : String) (stop behind : Nat) : Node.Shows value content →
      Members.Shows rest contents →
      Members.Shows (.member (.ok name) stop value behind rest) ((name, content) :: contents)

end

mutual

/-- Nothing is wrong with a value that shows a content, if it is only passed over. -/
theorem Node.Shows.skipFault? {node : Node} {content : Content} (h : node.Shows content) :
    node.skipFault? = none := by
  cases h with
  | null | bool | number | text => rfl
  | array _ h => exact h.skipFault?
  | object _ h => exact h.skipFault?

theorem Items.Shows.skipFault? {items : Items} {contents : List Content} (h : items.Shows contents) :
    items.skipFault? = none := by
  cases h with
  | close => rfl
  | item _ hv hr => rw [Items.skipFault?, hv.skipFault?, hr.skipFault?]; rfl

theorem Members.Shows.skipFault? {members : Members} {contents : List (String × Content)}
    (h : members.Shows contents) : members.skipFault? = none := by
  cases h with
  | close => rfl
  | member _ _ _ hv hr => rw [Members.skipFault?, hv.skipFault?, hr.skipFault?]; rfl

end

/-! ## Trees without places -/

mutual

/-- What a value shows does not depend on where it stands. -/
theorem Node.shows_of_erase : (node : Node) → {content : Content} → node.erase.Shows content → node.Shows content
  | .null _, _, h => by
    cases h
    exact .null _
  | .bool _ _, _, h => by
    cases h
    exact .bool _ _
  | .number _ _, _, .number _ h => .number _ fun n hn => mapError_eq_ok_iff.1 (h n hn)
  | .text _ _, _, .text _ h => .text _ fun s hs => mapError_eq_ok_iff.1 (h s hs)
  | .array _ items, _, .array _ h => .array _ (items.shows_of_erase h)
  | .object _ members, _, .object _ h => .object _ (members.shows_of_erase h)
  | .broken _ _, _, h => nomatch h

theorem Items.shows_of_erase : (items : Items) → {contents : List Content} → items.erase.Shows contents →
    items.Shows contents
  | .close _, _, .close _ => .close _
  | .item _ value rest, _, .item _ hv hr => .item _ (value.shows_of_erase hv) (rest.shows_of_erase hr)
  | .broken _ _ _, _, h => nomatch h

theorem Members.shows_of_erase : (members : Members) → {contents : List (String × Content)} →
    members.erase.Shows contents → members.Shows contents
  | .close _, _, .close _ => .close _
  | .member (.ok _) _ value _ rest, _, .member _ _ _ hv hr =>
    .member _ _ _ (value.shows_of_erase hv) (rest.shows_of_erase hr)
  | .member (.error _) _ _ _ _, _, h => nomatch h
  | .broken _ _, _, h => nomatch h

end

/-- A member of a tree has the name and shows the content. -/
def MemberShows (member : Except Fault String × Node) (content : String × Content) : Prop :=
  member.1 = .ok content.1 ∧ member.2.Shows content.2

theorem Items.shows_ofList {trees : List Node} {contents : List Content} (h : List.Forall₂ Node.Shows trees contents) :
    (Items.ofList trees).Shows contents := by
  induction h with
  | nil => exact .close 0
  | cons hv _ ih => exact .item 0 hv ih

theorem Members.shows_ofList {members : List (Except Fault String × Node)} {contents : List (String × Content)}
    (h : List.Forall₂ MemberShows members contents) : (Members.ofList members).Shows contents := by
  induction h with
  | nil => exact .close 0
  | @cons member content _ _ hm _ ih =>
    obtain ⟨name, value⟩ := member
    obtain ⟨rfl, hv⟩ := hm
    exact .member _ 0 0 hv ih

/-! ## Values -/

theorem number?_eq_some_iff {l : Decimal.Literal} {n : Number} :
    number? l = some n ↔ eraseFault (keepNumber l 0 0) = .ok n :=
  toOption_eq_some_iff.trans mapError_eq_ok_iff.symm

-- The recursion is on the bytes, as it is on what a value is made of.
mutual

/-- A value that spells a content is read as a tree that shows it. -/
theorem Spells.readAs {bs : List UInt8} {content : Content} (h : Spells bs content) :
    ∃ tree, ReadAs bs tree ∧ tree.Shows content := by
  cases h with
  | null => exact ⟨_, readAs_null, .null 0⟩
  | true => exact ⟨_, readAs_true, .bool _ 0⟩
  | false => exact ⟨_, readAs_false, .bool _ 0⟩
  | number hl => exact ⟨_, readAs_literal hl, .number 0 fun n hn => number?_eq_some_iff.1 hn⟩
  | text hs =>
    refine ⟨_, readAs_quoted hs.passes, .text 0 fun s h => ?_⟩
    rw [contentsIn_of_spells hs, Option.some.inj h]
  | noText hp => exact ⟨_, readAs_quoted hp, .text 0 fun s h => nomatch h⟩
  | emptyArray hg =>
    have h := readAs_array hg .nil
    rw [arrayBytes, List.map_nil, commaed_nil, List.append_nil] at h
    exact ⟨_, h, .array 0 (.close 0)⟩
  | array hi =>
    obtain ⟨i, items, trees, hread, hshows, rfl⟩ := hi.readAs
    exact ⟨_, readAs_array gap_nil hread, .array 0 (Items.shows_ofList hshows)⟩
  | emptyObject hg =>
    have h := readAs_object hg .nil
    rw [objectBytes, List.map_nil, commaed_nil, List.append_nil] at h
    exact ⟨_, h, .object 0 (.close 0)⟩
  | object hm =>
    obtain ⟨e, entries, members, hread, hshows, rfl⟩ := hm.readAs
    exact ⟨_, readAs_object gap_nil hread, .object 0 (Members.shows_ofList hshows)⟩

theorem SpellsItems.readAs {bs : List UInt8} {contents : List Content} (h : SpellsItems bs contents) :
    ∃ (i : Item) (items : List Item) (trees : List Node), List.Forall₂ Item.ReadAs (i :: items) trees ∧
      List.Forall₂ Node.Shows trees contents ∧ bs = commaed ((i :: items).map Item.bytes) ++ [93] := by
  cases h with
  | @last g v g' item hg hv hg' =>
    obtain ⟨tree, hr, hs⟩ := hv.readAs
    refine ⟨⟨g, v, g'⟩, [], [tree], .cons ⟨⟨hg, hg'⟩, hr⟩ .nil, .cons hs .nil, ?_⟩
    rw [List.map_cons, List.map_nil, commaed_singleton]
    rfl
  | @more g v g' bs item items hg hv hg' hrest =>
    obtain ⟨tree, hr, hs⟩ := hv.readAs
    obtain ⟨i, written, trees, hread, hshows, rfl⟩ := hrest.readAs
    refine ⟨⟨g, v, g'⟩, i :: written, tree :: trees, .cons ⟨⟨hg, hg'⟩, hr⟩ hread, .cons hs hshows, ?_⟩
    simp only [List.map_cons, commaed_cons_cons, Item.bytes, List.append_assoc, List.cons_append]

theorem SpellsMembers.readAs {bs : List UInt8} {contents : List (String × Content)} (h : SpellsMembers bs contents) :
    ∃ (e : Entry) (entries : List Entry) (members : List (Except Fault String × Node)),
      List.Forall₂ Entry.ReadAs (e :: entries) members ∧ List.Forall₂ MemberShows members contents ∧
      bs = commaed ((e :: entries).map Entry.bytes) ++ [125] := by
  cases h with
  | @last g name cs g₁ g₂ v g₃ value hg hname hg₁ hg₂ hv hg₃ =>
    obtain ⟨tree, hr, hs⟩ := hv.readAs
    have hentry : Entry.ReadAs ⟨g, name, g₁, ⟨g₂, v, g₃⟩⟩ (.ok (String.ofList cs), tree) :=
      ⟨⟨hg, hname.passes, hg₁, ⟨hg₂, hg₃⟩⟩, contentsIn_of_spells hname, hr⟩
    refine ⟨_, [], _, .cons hentry .nil, .cons ⟨rfl, hs⟩ .nil, ?_⟩
    rw [List.map_cons, List.map_nil, commaed_singleton]
    simp only [Entry.bytes, Item.bytes, List.append_assoc, List.cons_append]
  | @more g name cs g₁ g₂ v g₃ bs value members hg hname hg₁ hg₂ hv hg₃ hrest =>
    obtain ⟨tree, hr, hs⟩ := hv.readAs
    obtain ⟨e, entries, members, hread, hshows, rfl⟩ := hrest.readAs
    have hentry : Entry.ReadAs ⟨g, name, g₁, ⟨g₂, v, g₃⟩⟩ (.ok (String.ofList cs), tree) :=
      ⟨⟨hg, hname.passes, hg₁, ⟨hg₂, hg₃⟩⟩, contentsIn_of_spells hname, hr⟩
    refine ⟨_, e :: entries, _, .cons hentry hread, .cons ⟨rfl, hs⟩ hshows, ?_⟩
    simp only [List.map_cons, commaed_cons_cons, Entry.bytes, Item.bytes, List.append_assoc, List.cons_append]

end

theorem length_pos_of_spells {bs : List UInt8} {content : Content} (h : Spells bs content) : 0 < bs.length := by
  obtain ⟨tree, hr, _⟩ := h.readAs
  exact hr.length_pos

/-! ## Documents -/

/-- A document is read to its end. -/
theorem ofBytes_of_spells {bytes : List UInt8} {content : Content} (h : SpellsDocument bytes content) :
    ∃ node, Document.ofBytes bytes = ⟨node, none⟩ ∧ node.Shows content := by
  obtain ⟨g, bs, g', hg, hb, hg', rfl⟩ := h
  obtain ⟨tree, hr, hs⟩ := hb.readAs
  obtain ⟨node, hd, rfl⟩ := ofBytes_of_readAs hr hg hg'
  exact ⟨node, hd, node.shows_of_erase hs⟩

theorem shows_root {bytes : List UInt8} {content : Content} (h : SpellsDocument bytes content) :
    (Document.ofBytes bytes).root.Shows content := by
  obtain ⟨node, hd, hs⟩ := ofBytes_of_spells h
  rw [hd]
  exact hs

/-- Contents that the same bytes spell are shown by one document. -/
theorem exists_shows_of_spells {bytes : List UInt8} {content content' : Content} (h : SpellsDocument bytes content)
    (h' : SpellsDocument bytes content') : ∃ node : Node, node.Shows content ∧ node.Shows content' := by
  exact ⟨_, shows_root h, shows_root h'⟩

/-- What is read from a document is read from a value that shows its content. -/
theorem decodeWith_of_spells {bytes : List UInt8} {content : Content} (h : SpellsDocument bytes content)
    (keep : Node → Except Fault α) :
    ∃ node : Node, node.Shows content ∧ decodeWith keep bytes = (keep node).mapError (·.locate bytes) := by
  obtain ⟨node, hd, hs⟩ := ofBytes_of_spells h
  refine ⟨node, hs, ?_⟩
  unfold decodeWith
  rw [hd]
  dsimp only
  cases keep node <;> rfl

end ServiceBroker.Json
