/-
What a shape writes, it reads back. A shape is lawful if its parts are: the fields of a record have names of
their own and what is left out of an object is what its absence means. The compact text of a value of a
lawful shape decodes as that value (`decode_encode`).
-/
import ServiceBroker.Proofs.Json.Rendering
import ServiceBroker.Proofs.Json.Shapes

namespace ServiceBroker.Json

/-! ## Depth -/

mutual

/-- How many lists and objects of a tree stand inside each other. -/
def depth : Json → Nat
  | .null | .bool _ | .number _ | .text _ => 0
  | .array items => depthItems items + 1
  | .object members => depthMembers members + 1

/-- The depth of the deepest item. -/
def depthItems : List Json → Nat
  | [] => 0
  | j :: rest => max j.depth (depthItems rest)

/-- The depth of the deepest member. -/
def depthMembers : List (String × Json) → Nat
  | [] => 0
  | (_, j) :: rest => max j.depth (depthMembers rest)

end

/-! ## Free values -/

theorem insertMember_append {name : String} {value : Json} {members : List (String × Json)}
    (h : ∀ m ∈ members, m.1 < name) : insertMember name value members = members ++ [(name, value)] := by
  induction members with
  | nil => rfl
  | cons m members ih =>
    obtain ⟨n, v⟩ := m
    have hn : n < name := h (n, v) (List.mem_cons_self ..)
    have hne : ¬ name = n := fun e => String.lt_irrefl n (e ▸ hn)
    have hlt : ¬ name < n := fun hl => String.lt_irrefl n (String.lt_trans hn hl)
    rw [insertMember, if_neg hne, if_neg hlt, ih fun m hm => h m (List.mem_cons_of_mem _ hm), List.cons_append]

mutual

/-- A tree whose objects are dictionaries is read as it is. -/
theorem toFree_of_shows : (j : Json) → (hc : j.Canonical) → (budget : Nat) → j.depth ≤ budget → {node : Node} →
    node.Shows (.ofJson j) → node.toFree budget = .ok ⟨j, hc⟩
  | .null, _, _, _, _, .null _ => rfl
  | .bool _, _, _, _, _, .bool _ _ => rfl
  | .number n, _, _, _, _, .number _ hn => by rw [hn n rfl, Node.toFree]
  | .text s, _, _, _, _, .text _ hs => by rw [hs s rfl, Node.toFree]
  | .array items, hc, 0, hd, _, _ => absurd hd (by rw [depth]; omega)
  | .array items, hc, budget + 1, hd, _, .array start hi => by
    rw [depth, Nat.add_le_add_iff_right] at hd
    rw [Node.toFree, enter]
    simp only [bind, Except.bind, toItems_of_shows items hc budget hd hi]
    rfl
  | .object members, hc, 0, hd, _, _ => absurd hd (by rw [depth]; omega)
  | .object members, hc, budget + 1, hd, _, .object start hm => by
    rw [depth, Nat.add_le_add_iff_right] at hd
    obtain ⟨⟨members', hr, hm'⟩, hread, he⟩ := toDictionary_of_shows members .empty hc.1 hc.2 budget hd hm
    obtain rfl : members' = members := he
    rw [Node.toFree, enter]
    simp only [bind, Except.bind, hread]
    rfl

theorem toItems_of_shows : (items : List Json) → (hc : CanonicalItems items) → (budget : Nat) →
    depthItems items ≤ budget → {nodes : Items} → nodes.Shows (Content.ofItems items) →
    nodes.toFree budget = .ok ⟨items, hc⟩
  | [], _, _, _, _, .close _ => rfl
  | j :: rest, hc, budget, hd, _, .item _ hv hr => by
    rw [depthItems] at hd
    rw [Items.toFree, toFree_of_shows j hc.1 budget (by omega) hv]
    simp only [bind, Except.bind, toItems_of_shows rest hc.2 budget (by omega) hr]
    rfl

/-- Members whose names rise are entered one behind the other. -/
theorem toDictionary_of_shows : (members : List (String × Json)) → (d : Dictionary) →
    Rising (d.members ++ members) → CanonicalMembers members → (budget : Nat) → depthMembers members ≤ budget →
    {nodes : Members} → nodes.Shows (Content.ofMembers members) →
    ∃ d', nodes.toDictionary budget d = .ok d' ∧ d'.members = d.members ++ members
  | [], d, _, _, _, _, _, .close _ => ⟨d, rfl, (List.append_nil _).symm⟩
  | (name, j) :: rest, d, hr, hc, budget, hd, _, .member _ _ _ hv hrest => by
    rw [depthMembers] at hd
    have hbefore : ∀ m ∈ d.members, m.1 < name := fun m hm =>
      (List.pairwise_append.1 hr).2.2 m hm (name, j) (List.mem_cons_self ..)
    -- As the names rise, none was met before and each comes last.
    have hinsert : (d.insert name ⟨j, hc.1⟩).members = d.members ++ [(name, j)] := insertMember_append hbefore
    have hr' : Rising ((d.insert name ⟨j, hc.1⟩).members ++ rest) := by
      rw [hinsert, List.append_assoc]
      exact hr
    obtain ⟨d', hread, he⟩ := toDictionary_of_shows rest _ hr' hc.2 budget (by omega) hrest
    refine ⟨d', ?_, ?_⟩
    · rw [Members.toDictionary, toFree_of_shows j hc.1 budget (by omega) hv]
      exact hread
    · rw [he, hinsert, List.append_assoc]
      rfl

end

theorem reads_free {budget : Nat} (j : Free) (h : j.json.depth ≤ budget) :
    Shape.free.Reads budget (.ofJson j.json) j := by
  intro node hn
  rw [Shape.read]
  exact toFree_of_shows j.json j.canonical budget h hn

theorem reads_dictionary {budget : Nat} (d : Dictionary) (h : depthMembers d.members ≤ budget) :
    Shape.dictionary.Reads (budget + 1) (.ofJson d.toJson) d := by
  rintro node ⟨⟩
  next hm =>
    obtain ⟨⟨members', hr, hc⟩, hread, he⟩ := toDictionary_of_shows d.members .empty d.rising d.canonical budget h hm
    obtain rfl : members' = d.members := he
    rw [Shape.read, enter]
    exact hread

/-! ## Lawful shapes -/

/-- The names of the fields of a record. -/
def Fields.names : Fields ρ σ → List String
  | .nil => []
  | .cons name _ _ _ rest => name :: rest.names

/-- A shape that never stands for `null`, except for a free one. -/
def Shape.NotNull : Shape α → Prop
  | .option _ => False
  | .view shape _ _ => shape.NotNull
  | _ => True

mutual

/-- Nothing is lost between writing and reading: a word fits a number, `null` is no value under an option,
and a view is read as what it was written from. -/
def Shape.Lawful : Shape α → Prop
  | .text | .bool | .free | .dictionary => True
  | .count width => width ≤ 64
  | .list item => item.Lawful
  | .option shape => shape.Lawful ∧ shape.NotNull
  | .record _ fields => fields.Lawful
  | .view shape build parts => shape.Lawful ∧ ∀ b, build (parts b) = b

/-- No two fields have one name, and a value that is left out is what the field is when it is missing. -/
def Fields.Lawful : Fields ρ σ → Prop
  | .nil => True
  | .cons name shape presence hidden rest =>
    shape.Lawful ∧ name ∉ rest.names ∧ (∀ a, hidden a = true → presence.named? = some a) ∧ rest.Lawful

end

/-- A lawful shape that can stand under an option. -/
def Shape.Sound (shape : Shape α) : Prop :=
  shape.Lawful ∧ shape.NotNull

@[simp] theorem sound_text : Shape.text.Sound :=
  ⟨trivial, trivial⟩

@[simp] theorem sound_bool : Shape.bool.Sound :=
  ⟨trivial, trivial⟩

@[simp] theorem sound_free : Shape.free.Sound :=
  ⟨trivial, trivial⟩

@[simp] theorem sound_dictionary : Shape.dictionary.Sound :=
  ⟨trivial, trivial⟩

/-- A word of at most 64 bits is sound. -/
theorem sound_word {width : Nat} {build : BitVec width → β} {parts : β → BitVec width} (hw : width ≤ 64)
    (hb : ∀ b, build (parts b) = b) : (Shape.view (.count width) build parts).Sound :=
  ⟨⟨hw, hb⟩, trivial⟩

/-- A record seen as a structure is sound if its fields are lawful. -/
theorem sound_structure {name : String} {fields : Fields ρ σ} {build : ρ → β} {parts : β → ρ}
    (hf : fields.Lawful) (hb : ∀ b, build (parts b) = b) :
    (Shape.view (.record name fields) build parts).Sound :=
  ⟨⟨hf, hb⟩, trivial⟩

section Usual

variable {name : String} {shape : Shape α} {rest : Fields ρ σ}

@[simp] theorem names_nil : Fields.nil.names = [] := rfl

@[simp] theorem names_required : (Fields.required name shape rest).names = name :: rest.names := rfl

@[simp] theorem names_optional : (Fields.optional name shape rest).names = name :: rest.names := rfl

@[simp] theorem names_listed : (Fields.listed name shape rest).names = name :: rest.names := rfl

@[simp] theorem names_listedUnlessEmpty :
    (Fields.listedUnlessEmpty name shape rest).names = name :: rest.names := rfl

@[simp] theorem lawful_list : (Shape.list shape).Lawful ↔ shape.Lawful := Iff.rfl

@[simp] theorem lawful_option : (Shape.option shape).Lawful ↔ shape.Sound := Iff.rfl

@[simp] theorem lawful_nil : Fields.nil.Lawful := trivial

theorem lawful_cons {presence : Presence α} {hidden : α → Bool} :
    (Fields.cons name shape presence hidden rest).Lawful ↔ shape.Lawful ∧ name ∉ rest.names ∧
      (∀ a, hidden a = true → presence.named? = some a) ∧ rest.Lawful :=
  Iff.rfl

@[simp] theorem lawful_required :
    (Fields.required name shape rest).Lawful ↔ shape.Lawful ∧ name ∉ rest.names ∧ rest.Lawful := by
  rw [Fields.required, lawful_cons]
  simp

@[simp] theorem lawful_optional :
    (Fields.optional name shape rest).Lawful ↔ shape.Sound ∧ name ∉ rest.names ∧ rest.Lawful := by
  have hnone : ∀ a : Option α, a.isNone = true → (Presence.optional none).named? = some a := by
    intro a ha
    rw [Option.isNone_iff_eq_none.1 ha]
    rfl
  rw [Fields.optional, lawful_cons, lawful_option]
  exact ⟨fun ⟨hs, hn, _, hr⟩ => ⟨hs, hn, hr⟩, fun ⟨hs, hn, hr⟩ => ⟨hs, hn, hnone, hr⟩⟩

@[simp] theorem lawful_listed :
    (Fields.listed name shape rest).Lawful ↔ shape.Lawful ∧ name ∉ rest.names ∧ rest.Lawful := by
  rw [Fields.listed, lawful_cons, lawful_list]
  simp

@[simp] theorem lawful_listedUnlessEmpty :
    (Fields.listedUnlessEmpty name shape rest).Lawful ↔ shape.Lawful ∧ name ∉ rest.names ∧ rest.Lawful := by
  have hempty : ∀ as : List α, as.isEmpty = true → (Presence.optional []).named? = some as := by
    intro as has
    rw [List.isEmpty_iff.1 has]
    rfl
  rw [Fields.listedUnlessEmpty, lawful_cons, lawful_list]
  exact ⟨fun ⟨hs, hn, _, hr⟩ => ⟨hs, hn, hr⟩, fun ⟨hs, hn, hr⟩ => ⟨hs, hn, hempty, hr⟩⟩

end Usual

mutual

/-- The parts of a value whose contents are not fixed in advance. -/
def Shape.freeParts : Shape α → α → List Json
  | .text, _ | .bool, _ | .count _, _ => []
  | .free, j => [j.json]
  | .dictionary, d => [d.toJson]
  | .list item, as => as.flatMap item.freeParts
  | .option _, none => []
  | .option shape, some a => shape.freeParts a
  | .record _ fields, r => fields.freeParts r
  | .view shape _ parts, b => shape.freeParts (parts b)

/-- The free parts of the fields of a record. -/
def Fields.freeParts : Fields ρ σ → ρ → List Json
  | .nil, () => []
  | .cons _ shape _ _ rest, (a, r) => shape.freeParts a ++ rest.freeParts r

end

/-! ## What is written -/

/-- Whatever is written under an option can be told from `null`. -/
theorem write_ne_null : (shape : Shape α) → (a : α) → shape.NotNull → (∀ j ∈ shape.freeParts a, j ≠ .null) →
    shape.write a ≠ .null
  | .text, _, _, _ | .bool, _, _, _ | .count _, _, _, _ | .dictionary, _, _, _ | .list _, _, _, _
  | .record _ _, _, _, _ => by
    rw [Shape.write]
    nofun
  | .free, j, _, h => by
    rw [Shape.write]
    exact h j.json (by rw [Shape.freeParts]; exact List.mem_singleton_self _)
  | .view shape _ parts, b, hn, h => by
    rw [Shape.NotNull] at hn
    rw [Shape.freeParts] at h
    rw [Shape.write]
    exact write_ne_null shape (parts b) hn h

/-- A word of at most 64 bits is a number. -/
theorem fits_toNat {width : Nat} (h : width ≤ 64) (n : BitVec width) : Number.Fits n.toNat := by
  have hn : n.toNat < 2 ^ 64 := Nat.lt_of_lt_of_le n.isLt (Nat.pow_le_pow_right Nat.two_pos h)
  omega

theorem integral_countNumber {width : Nat} (h : width ≤ 64) (n : BitVec width) :
    Integral (.number (countNumber n)) := by
  unfold countNumber
  rw [dif_pos (fits_toNat h n)]
  exact .integer _ _

theorem reads_countNumber {width : Nat} (h : width ≤ 64) (budget : Nat) (n : BitVec width) :
    (Shape.count width).Reads budget (.ofJson (.number (countNumber n))) n := by
  unfold countNumber
  rw [dif_pos (fits_toNat h n)]
  exact reads_count budget n rfl

theorem integralItems_map {f : α → Json} {as : List α} (h : ∀ a ∈ as, (f a).Integral) :
    IntegralItems (as.map f) := by
  induction as with
  | nil => exact .nil
  | cons a as ih => exact .cons (h a (List.mem_cons_self ..)) (ih fun b hb => h b (List.mem_cons_of_mem _ hb))

theorem depth_le_depthItems {f : α → Json} {as : List α} {a : α} (h : a ∈ as) :
    (f a).depth ≤ depthItems (as.map f) := by
  induction as with
  | nil => cases h
  | cons b as ih =>
    rw [List.map_cons, depthItems]
    rcases List.mem_cons.1 h with rfl | h
    · exact Nat.le_max_left ..
    · exact (ih h).trans (Nat.le_max_right ..)

mutual

/-- Only free parts can hold doubles. -/
theorem integral_write : (shape : Shape α) → (a : α) → shape.Lawful → (∀ j ∈ shape.freeParts a, j.Integral) →
    (shape.write a).Integral
  | .text, s, _, _ => by
    rw [Shape.write]
    exact .text s
  | .bool, b, _, _ => by
    rw [Shape.write]
    exact .bool b
  | .count width, n, hl, _ => by
    rw [Shape.Lawful] at hl
    rw [Shape.write]
    exact integral_countNumber hl n
  | .free, j, _, h => by
    rw [Shape.write]
    exact h j.json (by rw [Shape.freeParts]; exact List.mem_singleton_self _)
  | .dictionary, d, _, h => by
    rw [Shape.write]
    exact h d.toJson (by rw [Shape.freeParts]; exact List.mem_singleton_self _)
  | .list item, as, hl, h => by
    rw [Shape.Lawful] at hl
    rw [Shape.freeParts] at h
    rw [Shape.write]
    exact .array (integralItems_map fun a ha =>
      integral_write item a hl fun j hj => h j (List.mem_flatMap.2 ⟨a, ha, hj⟩))
  | .option shape, none, _, _ => by
    rw [Shape.write]
    exact .null
  | .option shape, some a, hl, h => by
    rw [Shape.Lawful] at hl
    rw [Shape.freeParts] at h
    rw [Shape.write]
    exact integral_write shape a hl.1 h
  | .record _ fields, r, hl, h => by
    rw [Shape.Lawful] at hl
    rw [Shape.freeParts] at h
    rw [Shape.write]
    exact .object (integralMembers_write fields r hl h)
  | .view shape _ parts, b, hl, h => by
    rw [Shape.Lawful] at hl
    rw [Shape.freeParts] at h
    rw [Shape.write]
    exact integral_write shape (parts b) hl.1 h

theorem integralMembers_write : (fields : Fields ρ σ) → (r : ρ) → fields.Lawful →
    (∀ j ∈ fields.freeParts r, j.Integral) → IntegralMembers (fields.write r)
  | .nil, _, _, _ => by
    rw [Fields.write]
    exact .nil
  | .cons name shape presence hidden rest, (a, r), hl, h => by
    rw [Fields.Lawful] at hl
    rw [Fields.freeParts] at h
    have hr := integralMembers_write rest r hl.2.2.2 fun j hj => h j (List.mem_append_right _ hj)
    rw [Fields.write]
    split_ifs
    · exact hr
    · exact .cons (integral_write shape a hl.1 fun j hj => h j (List.mem_append_left _ hj)) hr

end

/-- Members are written under the names of the fields. -/
theorem contentsOf_write : (fields : Fields ρ σ) → (r : ρ) → {name : String} → name ∉ fields.names →
    contentsOf name (Content.ofMembers (fields.write r)) = []
  | .nil, _, _, _ => by
    rw [Fields.write]
    rfl
  | .cons field shape presence hidden rest, (a, r), name, h => by
    rw [Fields.names, List.mem_cons, not_or] at h
    have hr := contentsOf_write rest r h.2
    rw [Fields.write]
    split_ifs
    · exact hr
    · rw [Content.ofMembers, contentsOf, List.filter_cons_of_neg (by simpa using Ne.symm h.1)]
      exact hr

theorem ofJson_ne_null {j : Json} (h : j ≠ .null) : Content.ofJson j ≠ .null := by
  cases j <;> first | exact absurd rfl h | nofun

theorem forall₂_ofItems {R : Content → α → Prop} {f : α → Json} {as : List α}
    (h : ∀ a ∈ as, R (.ofJson (f a)) a) : List.Forall₂ R (Content.ofItems (as.map f)) as := by
  induction as with
  | nil => exact .nil
  | cons a as ih => exact .cons (h a (List.mem_cons_self ..)) (ih fun b hb => h b (List.mem_cons_of_mem _ hb))

/-! ## What is written is read back -/

-- The recursion is on the shape. A list or a record takes one from the budget, and is one deeper than its parts.
mutual

/-- A value of a lawful shape is read from every document that shows what was written. -/
theorem reads_write : (shape : Shape α) → (a : α) → shape.Lawful → (∀ j ∈ shape.freeParts a, j ≠ .null) →
    (budget : Nat) → (shape.write a).depth ≤ budget → shape.Reads budget (.ofJson (shape.write a)) a
  | .text, s, _, _, budget, _ => by
    rw [Shape.write]
    exact reads_text budget s
  | .bool, b, _, _, budget, _ => by
    rw [Shape.write]
    exact reads_bool budget b
  | .count width, n, hl, _, budget, _ => by
    rw [Shape.Lawful] at hl
    rw [Shape.write]
    exact reads_countNumber hl budget n
  | .free, j, _, _, budget, hd => by
    rw [Shape.write] at hd ⊢
    exact reads_free j hd
  | .dictionary, d, _, _, 0, hd => absurd hd (by rw [Shape.write, Dictionary.toJson, depth]; omega)
  | .dictionary, d, _, _, budget + 1, hd => by
    rw [Shape.write, Dictionary.toJson, depth, Nat.add_le_add_iff_right] at hd
    rw [Shape.write]
    exact reads_dictionary d hd
  | .list item, as, _, _, 0, hd => absurd hd (by rw [Shape.write, depth]; omega)
  | .list item, as, hl, h, budget + 1, hd => by
    rw [Shape.Lawful] at hl
    rw [Shape.freeParts] at h
    rw [Shape.write, depth, Nat.add_le_add_iff_right] at hd
    rw [Shape.write]
    exact reads_list (forall₂_ofItems fun a ha =>
      reads_write item a hl (fun j hj => h j (List.mem_flatMap.2 ⟨a, ha, hj⟩)) budget
        ((depth_le_depthItems ha).trans hd))
  | .option shape, none, _, _, budget, _ => by
    rw [Shape.write]
    exact reads_none budget shape
  | .option shape, some a, hl, h, budget, hd => by
    rw [Shape.Lawful] at hl
    rw [Shape.freeParts] at h
    rw [Shape.write] at hd ⊢
    exact reads_some (reads_write shape a hl.1 h budget hd) (ofJson_ne_null (write_ne_null shape a hl.2 h))
  | .record _ fields, r, _, _, 0, hd => absurd hd (by rw [Shape.write, depth]; omega)
  | .record _ fields, r, hl, h, budget + 1, hd => by
    rw [Shape.Lawful] at hl
    rw [Shape.freeParts] at h
    rw [Shape.write, depth, Nat.add_le_add_iff_right] at hd
    rw [Shape.write]
    exact reads_record (fills_write fields r hl h budget hd)
  | .view shape _ parts, b, hl, h, budget, hd => by
    rw [Shape.Lawful] at hl
    rw [Shape.freeParts] at h
    rw [Shape.write] at hd ⊢
    exact reads_view (reads_write shape (parts b) hl.1 h budget hd) (hl.2 b)

theorem fills_write : (fields : Fields ρ σ) → (r : ρ) → fields.Lawful → (∀ j ∈ fields.freeParts r, j ≠ .null) →
    (budget : Nat) → depthMembers (fields.write r) ≤ budget →
    fields.Fills budget (Content.ofMembers (fields.write r)) r
  | .nil, _, _, _, _, _ => .nil
  | .cons name shape presence hidden rest, (a, r), hl, h, budget, hd => by
    rw [Fields.Lawful] at hl
    obtain ⟨hshape, hname, hhidden, hrest⟩ := hl
    rw [Fields.freeParts] at h
    have habsent := contentsOf_write rest r hname
    have hr := fills_write rest r hrest (fun j hj => h j (List.mem_append_right _ hj)) budget
    rw [Fields.write] at hd ⊢
    split_ifs at hd ⊢ with hh
    · exact .missing habsent (hhidden a hh) (hr hd)
    · rw [depthMembers] at hd
      have ha := reads_write shape a hshape (fun j hj => h j (List.mem_append_left _ hj)) budget (by omega)
      rw [Content.ofMembers]
      refine .named (contentsOf_cons habsent) ha ?_
      rw [contentsBut_cons habsent]
      exact hr (by omega)

end

/-- The compact text of a value of a lawful shape decodes as the value: if its free parts hold no doubles and
are not `null`, and if it is not too deep. -/
theorem Shape.decode_encode (shape : Shape α) (a : α) (hl : shape.Lawful)
    (hfree : ∀ j ∈ shape.freeParts a, j.Integral ∧ j ≠ .null) (hd : (shape.write a).depth ≤ maxDepth) :
    shape.decode (Utf8.encode (shape.encode a)) = .ok a := by
  have hr := reads_write shape a hl (fun j hj => (hfree j hj).2) maxDepth hd
  exact hr.decode (spells_render (integral_write shape a hl fun j hj => (hfree j hj).1))

/-- Values that are written alike are the same, however deep they are. -/
theorem Shape.eq_of_encode_eq (shape : Shape α) {a b : α} (hl : shape.Lawful)
    (ha : ∀ j ∈ shape.freeParts a, j.Integral ∧ j ≠ .null) (hb : ∀ j ∈ shape.freeParts b, j.Integral ∧ j ≠ .null)
    (h : Utf8.encode (shape.encode a) = Utf8.encode (shape.encode b)) : a = b := by
  have hsa := spells_render (integral_write shape a hl fun j hj => (ha j hj).1)
  have hsb := spells_render (integral_write shape b hl fun j hj => (hb j hj).1)
  unfold Shape.encode at h
  rw [h] at hsa
  obtain ⟨node, hna, hnb⟩ := exists_shows_of_spells hsa hsb
  -- A budget for the deeper one of both is enough to read the one document as either value.
  have hra := reads_write shape a hl (fun j hj => (ha j hj).2) _ (Nat.le_max_left _ (shape.write b).depth) node hna
  have hrb := reads_write shape b hl (fun j hj => (hb j hj).2) _ (Nat.le_max_right (shape.write a).depth _) node hnb
  exact Except.ok.inj (hra.symm.trans hrb)

end ServiceBroker.Json
