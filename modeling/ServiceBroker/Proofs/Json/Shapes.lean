/-
What a shape makes of a content. `shape.Reads budget content a` states that `a` is read from every document
that shows the content, however it is written. A record is settled field by field: each field is found by
its name, wherever it stands and whatever stands around it.
-/
import ServiceBroker.Json.Shape
import ServiceBroker.Proofs.Json.Contents

namespace ServiceBroker.Json

/-- Every document that shows a content is read as a value, within a budget of nested lists and objects. -/
def Shape.Reads (budget : Nat) (shape : Shape α) (content : Content) (a : α) : Prop :=
  ∀ node : Node, node.Shows content → shape.read budget node = .ok a

/-- A document that spells a content is decoded as what the shape makes of the content. -/
theorem Shape.Reads.decode {shape : Shape α} {content : Content} {a : α} (h : shape.Reads maxDepth content a)
    {bytes : List UInt8} (hb : SpellsDocument bytes content) : shape.decode bytes = .ok a := by
  obtain ⟨node, hs, hd⟩ := decodeWith_of_spells hb (shape.read maxDepth)
  unfold Shape.decode
  rw [hd, h node hs]
  rfl

variable {budget : Nat} {shape : Shape α} {content : Content} {a : α}

/-! ## Scalars -/

theorem reads_text (budget : Nat) (s : String) : Shape.text.Reads budget (.text (some s)) s := by
  rintro node ⟨⟩
  next hs => rw [hs s rfl, Shape.read]

theorem reads_bool (budget : Nat) (b : Bool) : Shape.bool.Reads budget (.bool b) b := by
  rintro node ⟨⟩
  rw [Shape.read]

theorem reads_count {width : Nat} (budget : Nat) (n : BitVec width) {i : Int} {fits : Number.Fits i}
    (h : i = n.toNat) : (Shape.count width).Reads budget (.number (some (.integer i fits))) n := by
  subst h
  rintro node ⟨⟩
  next hs =>
    rw [hs _ rfl, Shape.read, readCount, if_pos ⟨by omega, Int.ofNat_lt.2 n.isLt⟩]
    simp

/-! ## Wrappers -/

theorem reads_view {build : α → β} {parts : β → α} {b : β} (h : shape.Reads budget content a)
    (hb : build a = b) : (Shape.view shape build parts).Reads budget content b := by
  intro node hn
  rw [Shape.read, h node hn, ← hb]
  rfl

theorem reads_none (budget : Nat) (shape : Shape α) : (Shape.option shape).Reads budget .null none := by
  rintro node ⟨⟩
  rw [Shape.read]

theorem read_option_of_ne {node : Node} (h : ∀ stop, node ≠ .null stop) :
    (Shape.option shape).read budget node = (shape.read budget node).map some := by
  rw [Shape.read]
  intro _ _ stop _ _ hn
  exact h stop hn

theorem reads_some (h : shape.Reads budget content a) (hc : content ≠ .null) :
    (Shape.option shape).Reads budget content (some a) := by
  intro node hn
  have hne : ∀ stop, node ≠ .null stop := by
    rintro stop rfl
    cases hn
    exact hc rfl
  rw [read_option_of_ne hne, h node hn]
  rfl

theorem reads_list {items : List Content} {as : List α} (h : List.Forall₂ (shape.Reads budget) items as) :
    (Shape.list shape).Reads (budget + 1) (.array items) as := by
  have hcollect : ∀ node : Items, node.Shows items → node.collect (shape.read budget) = .ok as := by
    induction h with
    | nil =>
      rintro node ⟨⟩
      rfl
    | cons ha _ ih =>
      rintro node ⟨⟩
      next hv hr =>
        rw [Items.collect, ha _ hv, ih _ hr]
        rfl
  rintro node ⟨⟩
  next hi =>
    rw [Shape.read]
    exact hcollect _ hi

/-! ## Records -/

/-- The values that contents say of a name, in order. -/
def contentsOf (name : String) (contents : List (String × Content)) : List Content :=
  (contents.filter fun c => decide (c.1 = name)).map Prod.snd

/-- What contents say of other names. -/
def contentsBut (name : String) (contents : List (String × Content)) : List (String × Content) :=
  contents.filter fun c => decide (c.1 ≠ name)

/-- A name of which nothing is said takes nothing away. -/
theorem contentsBut_of_absent {name : String} {contents : List (String × Content)}
    (h : contentsOf name contents = []) : contentsBut name contents = contents := by
  refine List.filter_eq_self.2 fun c hc => ?_
  rw [contentsOf, List.map_eq_nil_iff, List.filter_eq_nil_iff] at h
  simpa using h c hc

theorem contentsOf_cons_of_ne {name other : String} (h : name ≠ other) (content : Content)
    (contents : List (String × Content)) :
    contentsOf name ((other, content) :: contents) = contentsOf name contents := by
  simp [contentsOf, Ne.symm h]

theorem contentsBut_cons_of_ne {name other : String} (h : name ≠ other) (content : Content)
    (contents : List (String × Content)) :
    contentsBut name ((other, content) :: contents) = (other, content) :: contentsBut name contents :=
  List.filter_cons_of_pos (by simpa using Ne.symm h)

theorem contentsOf_cons {name : String} {content : Content} {contents : List (String × Content)}
    (h : contentsOf name contents = []) : contentsOf name ((name, content) :: contents) = [content] := by
  rw [contentsOf, List.filter_cons_of_pos (by simp), List.map_cons]
  exact congrArg (content :: ·) h

theorem contentsBut_cons {name : String} {content : Content} {contents : List (String × Content)}
    (h : contentsOf name contents = []) : contentsBut name ((name, content) :: contents) = contents := by
  rw [contentsBut, List.filter_cons_of_neg (by simp)]
  exact contentsBut_of_absent h

/-- What is said of one name is not changed by what is said of another. -/
theorem contentsOf_contentsBut {name other : String} (h : name ≠ other) (contents : List (String × Content)) :
    contentsOf name (contentsBut other contents) = contentsOf name contents := by
  unfold contentsOf contentsBut
  rw [List.filter_filter]
  congr 1
  refine List.filter_congr fun c _ => ?_
  by_cases hn : c.1 = name
  · simp [hn, h]
  · simp [hn]

/-- The fields of a record are filled with values from the members of an object. A field is named once, or
is not named and may be missing; what is said of other names makes no difference. -/
inductive Fields.Fills (budget : Nat) : {ρ σ : Type} → Fields ρ σ → List (String × Content) → ρ → Prop
  | nil {contents} : Fills budget .nil contents ()
  | named {α ρ σ name} {shape : Shape α} {presence hidden} {rest : Fields ρ σ} {contents content a r} :
      contentsOf name contents = [content] → shape.Reads budget content a →
      Fills budget rest (contentsBut name contents) r →
      Fills budget (.cons name shape presence hidden rest) contents (a, r)
  | missing {α ρ σ name} {shape : Shape α} {presence hidden} {rest : Fields ρ σ} {contents a r} :
      contentsOf name contents = [] → presence.named? = some a → Fills budget rest contents r →
      Fills budget (.cons name shape presence hidden rest) contents (a, r)

/-- The fields of a record are listed in the items of an array. -/
inductive Fields.Lists (budget : Nat) : {ρ σ : Type} → Fields ρ σ → List Content → ρ → Prop
  | nil : Lists budget .nil [] ()
  | cons {α ρ σ name} {shape : Shape α} {presence hidden} {rest : Fields ρ σ} {content contents a r} :
      shape.Reads budget content a → Lists budget rest contents r →
      Lists budget (.cons name shape presence hidden rest) (content :: contents) (a, r)

section Record

variable {name : String} {presence : Presence α} {hidden : α → Bool} {rest : Fields ρ σ} {members : Members}
  {contents : List (String × Content)}

theorem take_of_eq (slots : σ) (stop : Nat) (node : Node) :
    (Fields.cons name shape presence hidden rest).take budget (none, slots) name stop node =
      some ((shape.read budget node).map fun a => (some a, slots)) := by
  rw [Fields.take.eq_def]
  simp

theorem take_of_ne {other : String} (h : name ≠ other) (slot : Option α) (slots : σ) (stop : Nat) (node : Node) :
    (Fields.cons name shape presence hidden rest).take budget (slot, slots) other stop node =
      (rest.take budget slots other stop node).map (·.map fun slots => (slot, slots)) := by
  rw [Fields.take.eq_def]
  simp [h]

/-- Members that no field takes are passed over. -/
theorem foldFields_nil (h : members.Shows contents) :
    ∃ stop, members.foldFields (Fields.nil.take budget) () = .ok ((), stop) := by
  induction contents generalizing members with
  | nil =>
    cases h with
    | close stop => exact ⟨stop, rfl⟩
  | cons c contents ih =>
    cases h with
    | member n stop behind hv hr =>
      obtain ⟨stop', h'⟩ := ih hr
      refine ⟨stop', ?_⟩
      rw [Members.foldFields, hv.skipFault?]
      exact h'

/-- A field that no member names stays as it is. -/
theorem foldFields_absent (h : members.Shows contents) (hc : contentsOf name contents = []) (slot : Option α)
    (slots : σ) :
    members.foldFields ((Fields.cons name shape presence hidden rest).take budget) (slot, slots) =
      (members.foldFields (rest.take budget) slots).map fun (slots, stop) => ((slot, slots), stop) := by
  induction contents generalizing members slots with
  | nil =>
    cases h
    rfl
  | cons c contents ih =>
    cases h with
    | member n stop behind hv hr =>
      have hn : ¬ name = n := by
        rintro rfl
        simp [contentsOf] at hc
      rw [contentsOf_cons_of_ne hn] at hc
      rw [Members.foldFields, Members.foldFields, take_of_ne hn]
      cases ht : rest.take budget slots n stop _ with
      | none =>
        simp only [Option.map_none, hv.skipFault?]
        exact ih hr hc slots
      | some result =>
        cases result with
        | error f => rfl
        | ok slots' => exact ih hr hc slots'

/-- A field that one member names is read from it; what is left are the other members. -/
theorem foldFields_named (h : members.Shows contents) (hc : contentsOf name contents = [content])
    (ha : shape.Reads budget content a) :
    ∃ others : Members, others.Shows (contentsBut name contents) ∧ ∀ slots,
      members.foldFields ((Fields.cons name shape presence hidden rest).take budget) (none, slots) =
        (others.foldFields (rest.take budget) slots).map fun (slots, stop) => ((some a, slots), stop) := by
  induction contents generalizing members with
  | nil => cases hc
  | cons c contents ih =>
    cases h with
    | @member value said more _ n stop behind hv hr =>
      -- The member that names the field is left out; the others are folded alike in front of it and behind it.
      by_cases hn : name = n
      · subst hn
        simp only [contentsOf, decide_true, List.filter_cons_of_pos, List.map_cons, List.cons.injEq] at hc
        obtain ⟨rfl, hc⟩ := hc
        refine ⟨more, by rwa [contentsBut_cons hc], fun slots => ?_⟩
        rw [Members.foldFields, take_of_eq, ha _ hv]
        exact foldFields_absent hr hc (some a) slots
      · rw [contentsOf_cons_of_ne hn] at hc
        obtain ⟨others, ho, hf⟩ := ih hr hc
        refine ⟨.member (.ok n) stop value behind others, ?_, fun slots => ?_⟩
        · rw [contentsBut_cons_of_ne hn]
          exact .member n stop behind hv ho
        rw [Members.foldFields, Members.foldFields, take_of_ne hn]
        cases ht : rest.take budget slots n stop value with
        | none =>
          simp only [Option.map_none, hv.skipFault?]
          exact hf slots
        | some result =>
          cases result with
          | error f => rfl
          | ok slots' => exact hf slots'

/-- In the end a field is what was read into its slot, or what it is when it is missing. -/
theorem finish_cons_eq_ok_iff {slot : Option α} {slots : σ} {r : ρ} :
    (Fields.cons name shape presence hidden rest).finish (slot, slots) = .ok (a, r) ↔
      slot.or presence.named? = some a ∧ rest.finish slots = .ok r := by
  rw [Fields.finish]
  cases slot.or presence.named? with
  | none => exact ⟨nofun, fun h => nomatch h.1⟩
  | some a' =>
    constructor
    · intro h
      obtain ⟨more, hmore, h⟩ := bind_eq_ok_iff.1 (show rest.finish slots >>= _ = _ from h)
      cases h
      exact ⟨rfl, hmore⟩
    · rintro ⟨ha, hr⟩
      cases ha
      rw [hr]
      rfl

/-- Fields that are filled are read from every object that shows their contents. -/
theorem foldFields_of_fills {ρ σ : Type} {fields : Fields ρ σ} {r : ρ} (h : fields.Fills budget contents r)
    (hm : members.Shows contents) :
    ∃ slots stop, members.foldFields (fields.take budget) fields.unknown = .ok (slots, stop) ∧
      fields.finish slots = .ok r := by
  induction h generalizing members with
  | nil =>
    obtain ⟨stop, hs⟩ := foldFields_nil hm
    exact ⟨(), stop, hs, rfl⟩
  | @named α ρ σ name shape presence hidden rest contents content a r hc ha _ ih =>
    obtain ⟨others, ho, hf⟩ := foldFields_named hm hc ha
    obtain ⟨slots, stop, hs, hr⟩ := ih ho
    refine ⟨(some a, slots), stop, ?_, finish_cons_eq_ok_iff.2 ⟨rfl, hr⟩⟩
    rw [Fields.unknown, hf, hs]
    rfl
  | @missing α ρ σ name shape presence hidden rest contents a r hc hp _ ih =>
    obtain ⟨slots, stop, hs, hr⟩ := ih hm
    refine ⟨(none, slots), stop, ?_, finish_cons_eq_ok_iff.2 ⟨hp, hr⟩⟩
    rw [Fields.unknown, foldFields_absent hm hc, hs]
    rfl

end Record

theorem reads_record {fields : Fields ρ σ} {name : String} {contents : List (String × Content)} {r : ρ}
    (h : fields.Fills budget contents r) : (Shape.record name fields).Reads (budget + 1) (.object contents) r := by
  rintro node ⟨⟩
  next hm =>
    obtain ⟨slots, stop, hs, hr⟩ := foldFields_of_fills h hm
    rw [Shape.read, enter]
    simp only [bind, Except.bind, hs, hr]
    rfl

section Listed

variable {ρ σ : Type} {name : String} {presence : Presence α} {hidden : α → Bool} {rest : Fields ρ σ}
  {wanted : String} {index : Nat} {r : ρ}

/-- A field is read from the item in its place, and the others from the items behind it. -/
theorem readItems_item_eq_ok_iff {next : Nat} {value : Node} {items : Items} :
    (Fields.cons name shape presence hidden rest).readItems budget wanted index (.item next value items) =
        .ok (a, r) ↔
      shape.read budget value = .ok a ∧ rest.readItems budget wanted (index + 1) items = .ok r := by
  rw [Fields.readItems]
  constructor
  · intro h
    obtain ⟨a', ha, h⟩ := bind_eq_ok_iff.1 h
    obtain ⟨more, hmore, h⟩ := bind_eq_ok_iff.1 h
    cases h
    exact ⟨ha, hmore⟩
  · rintro ⟨ha, hr⟩
    rw [ha, hr]
    rfl

/-- Where no item is left, a field is what it is when it is missing there. -/
theorem readItems_close_eq_ok_iff {stop : Nat} :
    (Fields.cons name shape presence hidden rest).readItems budget wanted index (.close stop) = .ok (a, r) ↔
      presence.placed? = some a ∧ rest.readItems budget wanted (index + 1) (.close stop) = .ok r := by
  rw [Fields.readItems]
  cases presence.placed? with
  | none => exact ⟨nofun, fun h => nomatch h.1⟩
  | some a' =>
    constructor
    · intro h
      obtain ⟨more, hmore, h⟩ := bind_eq_ok_iff.1 h
      cases h
      exact ⟨rfl, hmore⟩
    · rintro ⟨ha, hr⟩
      cases ha
      rw [hr]
      rfl

end Listed

/-- Fields that are listed are read from every array that shows their contents. -/
theorem readItems_of_lists {ρ σ : Type} {fields : Fields ρ σ} {contents : List Content} {r : ρ}
    (h : fields.Lists budget contents r) {items : Items} (hi : items.Shows contents) (wanted : String)
    (index : Nat) : fields.readItems budget wanted index items = .ok r := by
  induction h generalizing items index with
  | nil =>
    cases hi
    rw [Fields.readItems]
  | cons ha _ ih =>
    cases hi with
    | item next hv hr => exact readItems_item_eq_ok_iff.2 ⟨ha _ hv, ih hr _⟩

theorem reads_record_listed {fields : Fields ρ σ} {name : String} {contents : List Content} {r : ρ}
    (h : fields.Lists budget contents r) : (Shape.record name fields).Reads (budget + 1) (.array contents) r := by
  rintro node ⟨⟩
  next hi =>
    rw [Shape.read]
    exact readItems_of_lists h hi _ _

end ServiceBroker.Json
