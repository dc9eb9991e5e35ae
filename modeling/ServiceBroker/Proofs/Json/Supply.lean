/-
What a document supplies. A record is read from an object by the names of its members, and from an array by the places
of its items; `Node.said` is what stands there for a field. Whenever a record has been read, each of its fields was read
from the one value that stands for it, or nothing stands for it and the field may be missing (`from_of_read`). What has
been said of each name so far is carried along the members (`Fields.Known`), and the two loops of reading end in the
same relation.
-/
import ServiceBroker.Proofs.Json.Shapes
import ServiceBroker.Proofs.Json.Writing

namespace ServiceBroker.Json

/-! ## What stands in a document -/

/-- The values of the members with a name, in order. -/
def Members.valuesOf (name : String) : Members → List Node
  | .close _ | .broken _ _ => []
  | .member (.ok n) _ value _ rest => if n = name then value :: rest.valuesOf name else rest.valuesOf name
  | .member (.error _) _ _ _ rest => rest.valuesOf name

/-- The items, in order. -/
def Items.values : Items → List Node
  | .close _ | .broken _ _ _ => []
  | .item _ value rest => value :: rest.values

/-- What stands for a field of a record: in an object the members with its name, in an array the item at its place. -/
def Node.said (node : Node) (name : String) (place : Nat) : List Node :=
  match node with
  | .object _ members => members.valuesOf name
  | .array _ items => items.values[place]?.toList
  | _ => []

/-- A field is read from the only value that stands for it, or there is none and it may be missing. -/
def Supplied (budget : Nat) (shape : Shape α) (presence : Presence α) (values : List Node) (a : α) : Prop :=
  (∃ node, values = [node] ∧ shape.read budget node = .ok a) ∨ (values = [] ∧ presence.named? = some a)

/-- The fields of a record are supplied, each by what is said of its name or of its place. -/
def Fields.From (budget : Nat) : {ρ σ : Type} → Fields ρ σ → (String → Nat → List Node) → ρ → Prop
  | _, _, .nil, _, _ => True
  | _, _, .cons name shape presence _ rest, said, (a, r) =>
    Supplied budget shape presence (said name 0) a ∧ rest.From budget (fun name place => said name (place + 1)) r

variable {budget : Nat}

/-! ## Objects -/

/-- What is known of the fields of a record once something was said of each name: a field of which nothing was said is
not known yet, and one of which something was said is read from it. -/
def Fields.Known (budget : Nat) : {ρ σ : Type} → Fields ρ σ → (String → List Node) → σ → Prop
  | _, _, .nil, _, _ => True
  | _, _, .cons name shape _ _ rest, said, (slot, slots) =>
    ((slot = none ∧ said name = []) ∨ ∃ node a, slot = some a ∧ said name = [node] ∧ shape.read budget node = .ok a) ∧
    rest.Known budget said slots

/-- One more value is said of a name. -/
def saying (said : String → List Node) (name : String) (node : Node) : String → List Node :=
  fun n => if n = name then said n ++ [node] else said n

section Fold

variable {said : String → List Node} {name : String} {node : Node}

theorem saying_self : saying said name node name = said name ++ [node] := if_pos rfl

theorem saying_of_ne {other : String} (h : other ≠ name) : saying said name node other = said other := if_neg h

theorem known_unknown : {ρ σ : Type} → (fields : Fields ρ σ) → fields.Known budget (fun _ => []) fields.unknown
  | _, _, .nil => trivial
  | _, _, .cons _ _ _ _ rest => ⟨.inl ⟨rfl, rfl⟩, known_unknown rest⟩

/-- What is said of other names changes nothing. -/
theorem known_saying_of_not_mem : {ρ σ : Type} → (fields : Fields ρ σ) → {slots : σ} → name ∉ fields.names →
    fields.Known budget said slots → fields.Known budget (saying said name node) slots
  | _, _, .nil, _, _, _ => trivial
  | _, _, .cons field _ _ _ rest, (slot, slots), hn, hk => by
    obtain ⟨hslot, hrest⟩ := hk
    rw [Fields.names, List.mem_cons, not_or] at hn
    refine ⟨?_, known_saying_of_not_mem rest hn.2 hrest⟩
    rwa [saying_of_ne (Ne.symm hn.1)]

/-- A member that no field takes has no field's name. -/
theorem not_mem_names_of_take : {ρ σ : Type} → (fields : Fields ρ σ) → {slots : σ} → {stop : Nat} →
    fields.take budget slots name stop node = none → name ∉ fields.names
  | _, _, .nil, _, _, _ => List.not_mem_nil
  | _, _, .cons field _ _ _ rest, (slot, slots), stop, h => by
    rw [Fields.names, List.mem_cons, not_or]
    unfold Fields.take at h
    split at h
    · split at h <;> cases h
    · next hne => exact ⟨Ne.symm hne, not_mem_names_of_take rest (Option.map_eq_none_iff.1 h)⟩

/-- A member that a field takes is the first one with its name, and gives the field its value. -/
theorem known_saying_of_take : {ρ σ : Type} → (fields : Fields ρ σ) → {slots slots' : σ} → {stop : Nat} →
    fields.names.Nodup → fields.take budget slots name stop node = some (.ok slots') →
    fields.Known budget said slots → fields.Known budget (saying said name node) slots'
  | _, _, .nil, _, _, _, _, h, _ => nomatch h
  | _, _, .cons field shape presence hidden rest, (slot, slots), slots', stop, hd, h, hk => by
    obtain ⟨hslot, hrest⟩ := hk
    obtain ⟨hfield, hd⟩ := List.nodup_cons.1 hd
    by_cases hn : field = name
    · subst hn
      rcases hslot with ⟨rfl, hnone⟩ | ⟨first, a, rfl, _, _⟩
      · rw [take_of_eq] at h
        obtain ⟨a, ha, rfl⟩ := map_eq_ok_iff.1 (Option.some.inj h)
        refine ⟨.inr ⟨node, a, rfl, ?_, ha⟩, known_saying_of_not_mem rest hfield hrest⟩
        rw [saying_self, hnone, List.nil_append]
      · -- a second member with the name is refused
        unfold Fields.take at h
        rw [if_pos rfl] at h
        cases h
    · rw [take_of_ne hn] at h
      obtain ⟨result, ht, h⟩ := Option.map_eq_some_iff.1 h
      obtain ⟨slots'', rfl, rfl⟩ := map_eq_ok_iff.1 h
      refine ⟨?_, known_saying_of_take rest hd ht hrest⟩
      rwa [saying_of_ne hn]

theorem saying_valuesOf (name : String) (stop behind : Nat) (value : Node) (rest : Members) :
    (fun n => saying said name value n ++ rest.valuesOf n) =
      fun n => said n ++ (Members.member (.ok name) stop value behind rest).valuesOf n := by
  funext n
  rw [Members.valuesOf]
  by_cases hn : n = name
  · rw [hn, saying_self, if_pos rfl, List.append_assoc, List.singleton_append]
  · rw [saying_of_ne hn, if_neg (Ne.symm hn)]

/-- All members: what they say comes behind what was said before. -/
theorem known_of_foldFields {ρ σ : Type} {fields : Fields ρ σ} (hd : fields.names.Nodup) {slots' : σ} {stop : Nat} :
    {said : String → List Node} → {slots : σ} → (members : Members) →
    members.foldFields (fields.take budget) slots = .ok (slots', stop) → fields.Known budget said slots →
    fields.Known budget (fun n => said n ++ members.valuesOf n) slots'
  | said, slots, .close _, h, hk => by
    cases h
    simpa only [Members.valuesOf, List.append_nil] using hk
  | said, slots, .member (.ok name) place value behind rest, h, hk => by
    rw [← saying_valuesOf]
    rw [Members.foldFields] at h
    cases ht : fields.take budget slots name place value with
    | none =>
      rw [ht] at h
      dsimp only at h
      split at h
      · cases h
      · exact known_of_foldFields hd rest h (known_saying_of_not_mem fields (not_mem_names_of_take fields ht) hk)
    | some result =>
      rw [ht] at h
      obtain ⟨slots'', rfl, h⟩ := bind_eq_ok_iff.1 (show result >>= _ = _ from h)
      exact known_of_foldFields hd rest h (known_saying_of_take fields hd ht hk)
  | _, _, .member (.error _) _ _ _ _, h, _ => nomatch h
  | _, _, .broken _ _, h, _ => nomatch h

/-- In the end, the fields that are not known may be missing. -/
theorem from_of_finish : {ρ σ : Type} → (fields : Fields ρ σ) → {slots : σ} → {r : ρ} →
    fields.Known budget said slots → fields.finish slots = .ok r → fields.From budget (fun name _ => said name) r
  | _, _, .nil, _, _, _, _ => trivial
  | _, _, .cons name shape presence hidden rest, (slot, slots), (a, r), hk, h => by
    obtain ⟨hslot, hrest⟩ := hk
    obtain ⟨ha, hmore⟩ := finish_cons_eq_ok_iff.1 h
    refine ⟨?_, from_of_finish rest hrest hmore⟩
    rcases hslot with ⟨rfl, hnone⟩ | ⟨node, a', rfl, hone, hread⟩
    · exact .inr ⟨hnone, ha⟩
    · obtain rfl := Option.some.inj ha
      exact .inl ⟨node, hone, hread⟩

end Fold

/-! ## Arrays -/

theorem Presence.named?_of_placed? {presence : Presence α} {a : α} (h : presence.placed? = some a) :
    presence.named? = some a := by
  cases presence with
  | optional default => exact h
  | required => cases h
  | byName default => cases h

/-- Items are read one after another; fields behind the last one may be missing. -/
theorem from_of_readItems {wanted : String} : {ρ σ : Type} → (fields : Fields ρ σ) → {items : Items} → {index : Nat} →
    {r : ρ} → fields.readItems budget wanted index items = .ok r →
    fields.From budget (fun _ place => items.values[place]?.toList) r
  | _, _, .nil, _, _, _, _ => trivial
  | _, _, .cons name shape presence hidden rest, .item next value items, index, (a, r), h => by
    obtain ⟨ha, hmore⟩ := readItems_item_eq_ok_iff.1 h
    refine ⟨.inl ⟨value, rfl, ha⟩, ?_⟩
    simpa only [Items.values, List.getElem?_cons_succ] using from_of_readItems rest hmore
  | _, _, .cons name shape presence hidden rest, .close stop, index, (a, r), h => by
    obtain ⟨hp, hmore⟩ := readItems_close_eq_ok_iff.1 h
    refine ⟨.inr ⟨rfl, Presence.named?_of_placed? hp⟩, ?_⟩
    simpa only [Items.values, List.getElem?_nil] using from_of_readItems rest hmore
  | _, _, .cons _ _ _ _ _, .broken _ _ _, _, _, h => by
    rw [Fields.readItems] at h
    cases h

/-! ## Records -/

/-- A record that was read is supplied by what it was read from. -/
theorem from_of_read {fields : Fields ρ σ} (hd : fields.names.Nodup) {name : String} {node : Node} {r : ρ}
    (h : (Shape.record name fields).read budget node = .ok r) : ∃ inner, fields.From inner node.said r := by
  cases node with
  | object start members =>
    rw [Shape.read] at h
    obtain ⟨inner, _, h⟩ := bind_eq_ok_iff.1 h
    obtain ⟨⟨slots, stop⟩, hf, h⟩ := bind_eq_ok_iff.1 h
    have hk := known_of_foldFields hd members hf (known_unknown fields)
    exact ⟨inner, from_of_finish fields hk (mapError_eq_ok_iff.1 h)⟩
  | array start items =>
    rw [Shape.read] at h
    obtain ⟨inner, _, h⟩ := bind_eq_ok_iff.1 h
    exact ⟨inner, from_of_readItems fields h⟩
  | _ => cases h

theorem read_view_eq_ok_iff {shape : Shape α} {build : α → β} {parts : β → α} {node : Node} {b : β} :
    (Shape.view shape build parts).read budget node = .ok b ↔ ∃ a, shape.read budget node = .ok a ∧ build a = b := by
  rw [Shape.read]
  exact map_eq_ok_iff

/-- A structure that was read is built from a record that was. -/
theorem from_of_read_structure {fields : Fields ρ σ} (hd : fields.names.Nodup) {name : String} {build : ρ → β}
    {parts : β → ρ} {node : Node} {b : β}
    (h : (Shape.view (.record name fields) build parts).read budget node = .ok b) :
    ∃ inner r, fields.From inner node.said r ∧ build r = b := by
  obtain ⟨r, hr, hb⟩ := read_view_eq_ok_iff.1 h
  obtain ⟨inner, hfrom⟩ := from_of_read hd hr
  exact ⟨inner, r, hfrom, hb⟩

/-- What is decoded was read from the value of the document. -/
theorem read_of_decode {shape : Shape α} {bytes : List UInt8} {a : α} (h : shape.decode bytes = .ok a) :
    shape.read maxDepth (Document.ofBytes bytes).root = .ok a := by
  unfold Shape.decode decodeWith at h
  obtain ⟨a', ha, h⟩ := bind_eq_ok_iff.1 (mapError_eq_ok_iff.1 h)
  generalize (Document.ofBytes bytes).trailing = trailing at h
  cases trailing with
  | none =>
    obtain rfl := Except.ok.inj h
    exact ha
  | some f => cases h

/-! ## Documents without a value -/

theorem skipGap_of_blank {bytes : List UInt8} (h : ∀ b ∈ bytes, b ∈ ([9, 10, 12, 13, 32] : List UInt8)) (offset : Nat) :
    (skipGap offset bytes).rest = [] ∨ ∃ rest, (skipGap offset bytes).rest = 12 :: rest := by
  induction bytes generalizing offset with
  | nil => exact .inl rfl
  | cons b bytes ih =>
    obtain ⟨hb, hbytes⟩ := List.forall_mem_cons.1 h
    rw [skipGap]
    by_cases hgap : isGap b = true
    · rw [if_pos hgap]
      exact ih hbytes (offset + 1)
    · rw [if_neg hgap]
      simp only [List.mem_cons, List.not_mem_nil, or_false] at hb
      rcases hb with rfl | rfl | rfl | rfl | rfl
      · exact absurd rfl hgap
      · exact absurd rfl hgap
      · exact .inr ⟨bytes, rfl⟩
      · exact absurd rfl hgap
      · exact absurd rfl hgap

/-- Nothing stands in a document of blanks. A form feed counts as one, though reading breaks off at it. -/
theorem said_of_blank {bytes : List UInt8} (h : ∀ b ∈ bytes, b ∈ ([9, 10, 12, 13, 32] : List UInt8)) (name : String)
    (place : Nat) : (Document.ofBytes bytes).root.said name place = [] := by
  have hroot : ∃ kept skipped, (Document.ofBytes bytes).root = .broken kept skipped := by
    unfold Document.ofBytes
    dsimp only
    rw [readNode]
    dsimp only [Cursor.skipGap]
    rcases skipGap_of_blank h 0 with hrest | ⟨rest, hrest⟩
    · rw [hrest]
      exact ⟨_, _, rfl⟩
    · rw [hrest]
      exact ⟨_, _, rfl⟩
  obtain ⟨kept, skipped, hroot⟩ := hroot
  rw [hroot]
  rfl

/-! ## Fields of the usual kinds -/

namespace Node

variable {α β : Type}

/-- A text stands for a field, and nothing else does. -/
def SaysText (node : Node) (name : String) (place : Nat) (s : String) : Prop :=
  ∃ stop, node.said name place = [.text (.ok s) stop]

/-- A truth value stands for a field, and nothing else does. -/
def SaysBool (node : Node) (name : String) (place : Nat) (b : Bool) : Prop :=
  ∃ stop, node.said name place = [.bool b stop]

/-- A list stands for a field and states each of its values, or nothing stands there and the list is empty. -/
def SaysList (node : Node) (name : String) (place : Nat) (states : α → Node → Prop) (as : List α) : Prop :=
  (node.said name place = [] ∧ as = []) ∨
    ∃ start items, node.said name place = [.array start items] ∧ List.Forall₂ states as items.values

/-- What stands for a field states its value; a field without a value is left out, or is `null`. -/
def SaysIfAny (node : Node) (name : String) (place : Nat) (states : α → Node → Prop) : Option α → Prop
  | none => node.said name place = [] ∨ ∃ stop, node.said name place = [.null stop]
  | some a => ∃ value, node.said name place = [value] ∧ (∀ stop, value ≠ .null stop) ∧ states a value

theorem SaysList.map {node : Node} {name : String} {place : Nat} {states : α → Node → Prop} {states' : β → Node → Prop}
    {as : List α} (h : node.SaysList name place states as) (f : α → β)
    (hf : ∀ a value, states a value → states' (f a) value) : node.SaysList name place states' (as.map f) := by
  rcases h with ⟨hnone, rfl⟩ | ⟨start, items, hone, hall⟩
  · exact .inl ⟨hnone, rfl⟩
  · exact .inr ⟨start, items, hone, List.forall₂_map_left_iff.2 (hall.imp hf)⟩

end Node

theorem forall₂_of_collect {α : Type} {f : Node → Except Fault α} :
    {as : List α} → (items : Items) → items.collect f = .ok as →
    List.Forall₂ (fun a node => f node = .ok a) as items.values
  | _, .close _, h => by
    cases h
    exact .nil
  | _, .item _ value rest, h => by
    rw [Items.collect] at h
    obtain ⟨a, ha, h⟩ := bind_eq_ok_iff.1 h
    obtain ⟨more, hmore, h⟩ := bind_eq_ok_iff.1 h
    obtain rfl := Except.ok.inj h
    exact .cons ha (forall₂_of_collect rest hmore)
  | _, .broken _ _ _, h => nomatch h

theorem eq_text_of_read {value : Node} {s : String} (h : Shape.text.read budget value = .ok s) :
    ∃ stop, value = .text (.ok s) stop := by
  cases value with
  | text said stop =>
    cases said with
    | error f => cases h
    | ok s' =>
      obtain rfl := Except.ok.inj h
      exact ⟨stop, rfl⟩
  | _ => cases h

namespace Supplied

variable {node : Node} {name : String} {place : Nat} {shape : Shape α} {states : α → Node → Prop}

theorem read_of_required {values : List Node} {a : α} (h : Supplied budget shape .required values a) :
    ∃ node, values = [node] ∧ shape.read budget node = .ok a := by
  rcases h with h | ⟨_, h⟩
  · exact h
  · cases h

theorem saysText {s : String} (h : Supplied budget .text .required (node.said name place) s) :
    node.SaysText name place s := by
  obtain ⟨value, hone, hread⟩ := h.read_of_required
  obtain ⟨stop, rfl⟩ := eq_text_of_read hread
  exact ⟨stop, hone⟩

theorem saysBool {b : Bool} (h : Supplied budget .bool .required (node.said name place) b) :
    node.SaysBool name place b := by
  obtain ⟨value, hone, hread⟩ := h.read_of_required
  cases value with
  | bool b' stop =>
    obtain rfl := Except.ok.inj hread
    exact ⟨stop, hone⟩
  | _ => cases hread

/-- A list that may be missing says what its items say once they are read. -/
theorem saysList {as : List α} (h : Supplied budget (.list shape) (.optional []) (node.said name place) as)
    (hstates : ∀ {inner : Nat} {value : Node} {a : α}, shape.read inner value = .ok a → states a value) :
    node.SaysList name place states as := by
  rcases h with ⟨value, hone, hread⟩ | ⟨hnone, hp⟩
  · cases value with
    | array start items =>
      rw [Shape.read] at hread
      obtain ⟨inner, _, hread⟩ := bind_eq_ok_iff.1 hread
      exact .inr ⟨start, items, hone, (forall₂_of_collect items hread).imp fun _ _ hitem => hstates hitem⟩
    | _ => cases hread
  · obtain rfl := Option.some.inj hp
    exact .inl ⟨hnone, rfl⟩

/-- A value that may be missing says what it says once it is read. -/
theorem saysIfAny {a : Option α} (h : Supplied budget (.option shape) (.optional none) (node.said name place) a)
    (hstates : ∀ {inner : Nat} {value : Node} {a : α}, shape.read inner value = .ok a → states a value) :
    node.SaysIfAny name place states a := by
  rcases h with ⟨value, hone, hread⟩ | ⟨hnone, hp⟩
  · by_cases hnull : ∃ stop, value = .null stop
    · obtain ⟨stop, rfl⟩ := hnull
      rw [Shape.read] at hread
      obtain rfl := Except.ok.inj hread
      exact .inr ⟨stop, hone⟩
    · have hne : ∀ stop, value ≠ .null stop := fun stop hs => hnull ⟨stop, hs⟩
      rw [read_option_of_ne hne] at hread
      obtain ⟨b, hb, rfl⟩ := map_eq_ok_iff.1 hread
      exact ⟨value, hone, hne, hstates hb⟩
  · obtain rfl := Option.some.inj hp
    exact .inl hnone

end Supplied

end ServiceBroker.Json
