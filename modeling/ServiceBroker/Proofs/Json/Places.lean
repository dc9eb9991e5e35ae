/-
Places in a document. A document remembers where its parts stand, so that a fault can be placed; what is read from it
does not depend on them. Two documents that are the same once their places are erased are read alike (`read_erase`).
-/
import ServiceBroker.Json.Shape
import ServiceBroker.Proofs.Except

namespace ServiceBroker.Json

variable {α σ : Type}

/-- The fault that stands for every fault once it does not matter which. -/
def Fault.erased : Fault := ⟨.endInValue, 0⟩

/-- Contents whose fault does not matter. -/
def eraseFault (x : Except Fault α) : Except Fault α :=
  x.mapError fun _ => .erased

@[simp] theorem eraseFault_ok (a : α) : eraseFault (.ok a) = .ok a := rfl

@[simp] theorem eraseFault_error (f : Fault) : eraseFault (.error f : Except Fault α) = .error .erased := rfl

mutual

/-- A document without its places. -/
def Node.erase : Node → Node
  | .null _ => .null 0
  | .bool b _ => .bool b 0
  | .number value _ => .number (eraseFault value) 0
  | .text value _ => .text (eraseFault value) 0
  | .array _ items => .array 0 items.erase
  | .object _ members => .object 0 members.erase
  | .broken _ _ => .broken .erased .erased

/-- Items without their places. -/
def Items.erase : Items → Items
  | .close _ => .close 0
  | .item _ value rest => .item 0 value.erase rest.erase
  | .broken _ _ _ => .broken .erased .erased .erased

/-- Members without their places. -/
def Members.erase : Members → Members
  | .close _ => .close 0
  | .member name _ value _ rest => .member (eraseFault name) 0 value.erase 0 rest.erase
  | .broken _ _ => .broken .erased .erased

end

/-! ## Looking without keeping -/

mutual

theorem Node.isSome_skipFault?_erase : (node : Node) → node.erase.skipFault?.isSome = node.skipFault?.isSome
  | .null _ | .bool _ _ | .number _ _ | .text _ _ | .broken _ _ => rfl
  | .array _ items => items.isSome_skipFault?_erase
  | .object _ members => members.isSome_skipFault?_erase

theorem Items.isSome_skipFault?_erase : (items : Items) → items.erase.skipFault?.isSome = items.skipFault?.isSome
  | .close _ | .broken _ _ _ => rfl
  | .item _ value rest => by
    simp only [Items.erase, Items.skipFault?, Option.isSome_or, value.isSome_skipFault?_erase,
      rest.isSome_skipFault?_erase]

theorem Members.isSome_skipFault?_erase :
    (members : Members) → members.erase.skipFault?.isSome = members.skipFault?.isSome
  | .close _ | .broken _ _ => rfl
  | .member _ _ value _ rest => by
    simp only [Members.erase, Members.skipFault?, Option.isSome_or, value.isSome_skipFault?_erase,
      rest.isSome_skipFault?_erase]

end

/-! ## Free values -/

theorem toOption_enter (budget start : Nat) : (enter budget start).toOption = (enter budget 0).toOption := by
  cases budget <;> rfl

mutual

theorem Node.toFree_erase (budget : Nat) :
    (node : Node) → (node.erase.toFree budget).toOption = (node.toFree budget).toOption
  | .null _ | .bool _ _ | .number (.ok _) _ | .text (.ok _) _ => by
    simp only [Node.erase, eraseFault_ok, Node.toFree]
  | .number (.error _) _ | .text (.error _) _ | .broken _ _ => by
    simp only [Node.erase, eraseFault_error, Node.toFree, Except.toOption]
  | .array start items => by
    simp only [Node.erase, Node.toFree, toOption_bind, toOption_enter budget start, items.toFree_erase]
  | .object start members => by
    simp only [Node.erase, Node.toFree, toOption_bind, toOption_enter budget start, members.toDictionary_erase]

theorem Items.toFree_erase (budget : Nat) :
    (items : Items) → (items.erase.toFree budget).toOption = (items.toFree budget).toOption
  | .close _ | .broken _ _ _ => by simp only [Items.erase, Items.toFree, Except.toOption]
  | .item _ value rest => by
    simp only [Items.erase, Items.toFree, toOption_bind, value.toFree_erase, rest.toFree_erase]

theorem Members.toDictionary_erase (budget : Nat) :
    (members : Members) → (d : Dictionary) →
      (members.erase.toDictionary budget d).toOption = (members.toDictionary budget d).toOption
  | .close _, d | .broken _ _, d => by simp only [Members.erase, Members.toDictionary, Except.toOption]
  | .member (.ok name) _ value _ rest, d => by
    simp only [Members.erase, eraseFault_ok, Members.toDictionary, toOption_bind, value.toFree_erase,
      rest.toDictionary_erase]
  | .member (.error _) _ _ _ _, d => by
    simp only [Members.erase, eraseFault_error, Members.toDictionary, Except.toOption]

end

/-! ## Shapes -/

theorem Items.collect_erase {f : Node → Except Fault α} (hf : ∀ node, (f node.erase).toOption = (f node).toOption) :
    (items : Items) → (items.erase.collect f).toOption = (items.collect f).toOption
  | .close _ | .broken _ _ _ => rfl
  | .item _ value rest => by
    simp only [Items.erase, Items.collect, toOption_bind, hf, rest.collect_erase hf]

/-- Members are passed over alike if single members are taken alike, wherever they stand. -/
theorem Members.foldFields_erase {take : σ → String → Nat → Node → Option (Except Fault σ)}
    (ht : ∀ s name stop stop' node,
      (take s name stop node.erase).map Except.toOption = (take s name stop' node).map Except.toOption) :
    (members : Members) → (s : σ) →
      (members.erase.foldFields take s).toOption.map Prod.fst = (members.foldFields take s).toOption.map Prod.fst
  | .close _, s | .broken _ _, s => rfl
  | .member (.error _) _ _ _ _, s => rfl
  | .member (.ok name) stop value _ rest, s => by
    have hrest := rest.foldFields_erase ht
    have htaken := ht s name 0 stop value
    have hskipped := value.isSome_skipFault?_erase
    simp only [Members.erase, eraseFault_ok, Members.foldFields]
    cases hl : take s name 0 value.erase with
    | none =>
      cases hr : take s name stop value with
      | some r => simp [hl, hr] at htaken
      | none =>
        cases hs : value.skipFault? with
        | some f =>
          obtain ⟨f', hf'⟩ := Option.isSome_iff_exists.1 (hskipped.trans (by simp [hs]))
          simp [hf', Except.toOption]
        | none =>
          have hn : value.erase.skipFault? = none := by simpa [hs] using hskipped
          simpa [hn] using hrest s
    | some l =>
      cases hr : take s name stop value with
      | none => simp [hl, hr] at htaken
      | some r =>
        have hlr : l.toOption = r.toOption := by simpa [hl, hr] using htaken
        show ((l >>= _).toOption).map _ = ((r >>= _).toOption).map _
        simp only [toOption_bind, hlr]
        cases r.toOption with
        | none => rfl
        | some s' => exact hrest s'

theorem readCount_erase (width : Nat) (node : Node) :
    (readCount width node.erase).toOption = (readCount width node).toOption := by
  unfold readCount
  cases node with
  | number value stop =>
    cases value with
    | error f => rfl
    | ok n =>
      cases n with
      | integer i fits => dsimp only [Node.erase, eraseFault_ok]; split <;> rfl
      | double f => rfl
  | _ => rfl

theorem map_toOption_map {ε β : Type} (x : Option (Except ε α)) (f : α → β) :
    (x.map (Except.map f)).map Except.toOption = (x.map Except.toOption).map (Option.map f) := by
  cases x with
  | none => rfl
  | some x => simp only [Option.map_some, toOption_map]

/-- What is read from an object, without regard to what is wrong with it if nothing is. -/
theorem toOption_read_object {ρ σ : Type} (name : String) (fields : Fields ρ σ) (budget start : Nat)
    (members : Members) :
    ((Shape.record name fields).read budget (.object start members)).toOption =
      (enter budget 0).toOption.bind fun inner =>
        ((members.foldFields (fields.take inner) fields.unknown).toOption.map Prod.fst).bind fun slots =>
          (fields.finish slots).toOption := by
  rw [Shape.read, toOption_bind, toOption_enter]
  refine congrArg _ (funext fun inner => ?_)
  rw [toOption_bind, Option.bind_map]
  refine congrArg _ (funext fun out => ?_)
  exact toOption_mapError ..

mutual

theorem Shape.read_erase : {α : Type} → (shape : Shape α) → (budget : Nat) → (node : Node) →
    (shape.read budget node.erase).toOption = (shape.read budget node).toOption
  | _, .text, budget, node => by
    cases node with
    | text value stop => cases value <;> simp [Node.erase, Shape.read, Except.toOption]
    | _ => simp [Node.erase, Shape.read, Except.toOption]
  | _, .bool, budget, node => by
    cases node <;> simp [Node.erase, Shape.read, Except.toOption]
  | _, .count width, budget, node => by
    simp only [Shape.read]
    exact readCount_erase width node
  | _, .free, budget, node => by
    simp only [Shape.read]
    exact node.toFree_erase budget
  | _, .dictionary, budget, node => by
    cases node with
    | object start members =>
      simp only [Node.erase, Shape.read, toOption_bind, toOption_enter budget start, members.toDictionary_erase]
    | _ => simp [Node.erase, Shape.read, Except.toOption]
  | _, .list item, budget, node => by
    cases node with
    | array start items =>
      simp only [Node.erase, Shape.read, toOption_bind, toOption_enter budget start,
        items.collect_erase (item.read_erase _)]
    | _ => simp [Node.erase, Shape.read, Except.toOption]
  | _, .option shape, budget, node => by
    cases node with
    | null stop => simp only [Node.erase, Shape.read]
    | _ =>
      rw [Shape.read, Shape.read, toOption_map, toOption_map, shape.read_erase]
      · nofun
      · nofun
  | _, .record name fields, budget, node => by
    cases node with
    | object start members =>
      simp only [Node.erase, toOption_read_object, members.foldFields_erase (fields.take_erase _)]
    | array start items =>
      simp only [Node.erase, Shape.read, toOption_bind, toOption_enter budget start, fields.readItems_erase]
    | _ => simp [Node.erase, Shape.read, Except.toOption]
  | _, .view shape build parts, budget, node => by
    rw [Shape.read, Shape.read, toOption_map, toOption_map, shape.read_erase]

theorem Fields.take_erase : {ρ σ : Type} → (fields : Fields ρ σ) → (budget : Nat) → (s : σ) → (name : String) →
    (stop stop' : Nat) → (node : Node) →
    (fields.take budget s name stop node.erase).map Except.toOption =
      (fields.take budget s name stop' node).map Except.toOption
  | _, _, .nil, budget, s, name, stop, stop', node => by simp only [Fields.take]
  | _, _, .cons field shape presence hidden rest, budget, (slot, slots), name, stop, stop', node => by
    simp only [Fields.take]
    split
    · cases slot with
      | some a => rfl
      | none => simp only [Option.map_some, toOption_map, shape.read_erase]
    · have hrest := rest.take_erase budget slots name stop stop' node
      rw [map_toOption_map, map_toOption_map, hrest]

theorem Fields.readItems_erase : {ρ σ : Type} → (fields : Fields ρ σ) → (budget : Nat) → (wanted : String) →
    (index : Nat) → (items : Items) →
    (fields.readItems budget wanted index items.erase).toOption =
      (fields.readItems budget wanted index items).toOption
  | _, _, .nil, budget, wanted, index, items => by
    cases items <;> simp [Items.erase, Fields.readItems, Except.toOption]
  | _, _, .cons name shape presence hidden rest, budget, wanted, index, items => by
    cases items with
    | close stop =>
      simp only [Items.erase, Fields.readItems]
      cases presence.placed? with
      | none => rfl
      | some a =>
        have hrest := rest.readItems_erase budget wanted (index + 1) (.close stop)
        rw [Items.erase] at hrest
        simp only [toOption_bind, hrest]
    | item next value items =>
      simp only [Items.erase, Fields.readItems, toOption_bind, shape.read_erase, rest.readItems_erase]
    | broken kept skipped surplus => simp [Items.erase, Fields.readItems, Except.toOption]

end

end ServiceBroker.Json
