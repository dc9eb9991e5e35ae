/-
What does not matter in a document. An object that is read as a record may have its members in any order, and more
members than the record has fields: what stands behind a name that is no field is passed over. `Shape.Varies` relates
two documents that differ in this at one place that a shape looks at, at any depth; both are read alike, whatever
the shape is (`toOption_decode_of_varies`). That taking one member and then another one is the same as the other way
round carries the proof (`Fields.step_comm`).
-/
import Mathlib.Data.List.Perm.Basic
import ServiceBroker.Proofs.Json.Syntax
import ServiceBroker.Proofs.Json.Writing

namespace ServiceBroker.Json

section Reading

variable {α β ρ σ : Type}

/-! ## Members of a record -/

namespace Fields

variable {budget : Nat}

/-- The field with a name has a shape. If there are several, the first one counts. -/
inductive Named : {ρ σ α : Type} → Fields ρ σ → String → Shape α → Prop
  | here {α ρ σ name} {shape : Shape α} {presence hidden} {rest : Fields ρ σ} :
      Named (.cons name shape presence hidden rest) name shape
  | there {α β ρ σ name other} {shape : Shape α} {first : Shape β} {presence hidden} {rest : Fields ρ σ} :
      other ≠ name → Named rest name shape → Named (.cons other first presence hidden rest) name shape

/-- The field at a place has a shape. -/
inductive At : {ρ σ α : Type} → Fields ρ σ → Nat → Shape α → Prop
  | zero {α ρ σ name} {shape : Shape α} {presence hidden} {rest : Fields ρ σ} :
      At (.cons name shape presence hidden rest) 0 shape
  | succ {α β ρ σ name n} {shape : Shape α} {first : Shape β} {presence hidden} {rest : Fields ρ σ} :
      At rest n shape → At (.cons name first presence hidden rest) (n + 1) shape

/-- What is known of the fields behind a member that names one of them. -/
def put (budget : Nat) (fields : Fields ρ σ) (slots : σ) (name : String) (value : Node) : Option σ :=
  (fields.take budget slots name 0 value).bind Except.toOption

/-- What is known of the fields behind a member. A member that names none of them can be passed over, or not. -/
def step (budget : Nat) (fields : Fields ρ σ) (slots : σ) (member : Except Fault String × Node) : Option σ :=
  member.1.toOption.bind fun name =>
    if name ∈ fields.names then fields.put budget slots name member.2
    else if member.2.skipFault?.isSome then none else some slots

section Cons

variable {name other : String} {shape : Shape α} {presence : Presence α} {hidden : α → Bool} {rest : Fields ρ σ}

theorem put_cons_self (slot : Option α) (slots : σ) (value : Node) :
    (Fields.cons name shape presence hidden rest).put budget (slot, slots) name value =
      if slot.isSome then none else (shape.read budget value).toOption.map fun a => (some a, slots) := by
  unfold put
  cases slot with
  | none =>
    rw [take_of_eq]
    exact toOption_map ..
  | some a =>
    rw [take.eq_def]
    simp [Except.toOption]

theorem put_cons_of_ne (h : name ≠ other) (slot : Option α) (slots : σ) (value : Node) :
    (Fields.cons name shape presence hidden rest).put budget (slot, slots) other value =
      (rest.put budget slots other value).map fun slots => (slot, slots) := by
  unfold put
  rw [take_of_ne h]
  cases rest.take budget slots other 0 value with
  | none => rfl
  | some result => exact toOption_map ..

/-- The first field and another one are filled in either order. -/
theorem put_comm_cons (h : name ≠ other) (slots : Option α × σ) (value value' : Node) :
    (((Fields.cons name shape presence hidden rest).put budget slots name value).bind fun s =>
        (Fields.cons name shape presence hidden rest).put budget s other value') =
      ((Fields.cons name shape presence hidden rest).put budget slots other value').bind fun s =>
        (Fields.cons name shape presence hidden rest).put budget s name value := by
  obtain ⟨slot, slots⟩ := slots
  cases slot with
  | some a => simp [put_cons_self, put_cons_of_ne h, Option.bind_map]
  | none =>
    simp only [put_cons_self, put_cons_of_ne h, Option.bind_map, Function.comp_def, Option.isSome_none,
      Bool.false_eq_true, if_false]
    cases (shape.read budget value).toOption <;> cases rest.put budget slots other value' <;> rfl

end Cons

/-- Two fields are filled in either order, or in neither. -/
theorem put_comm : {ρ σ : Type} → (fields : Fields ρ σ) → (slots : σ) → (name name' : String) → (value value' : Node) →
    ((fields.put budget slots name value).bind fun s => fields.put budget s name' value') =
      (fields.put budget slots name' value').bind fun s => fields.put budget s name value
  | _, _, .nil, slots, name, name', value, value' => by
    simp [put, take]
  | _, _, .cons field shape presence hidden rest, (slot, slots), name, name', value, value' => by
    by_cases hn : field = name
    · subst hn
      by_cases hn' : field = name'
      · -- the same field twice is refused either way
        subst hn'
        cases slot <;> simp [put_cons_self, Option.bind_map]
      · exact put_comm_cons hn' _ value value'
    · by_cases hn' : field = name'
      · subst hn'
        exact (put_comm_cons hn _ value' value).symm
      · have hrest := congrArg (Option.map fun s => (slot, s)) (rest.put_comm slots name name' value value')
        simp only [put_cons_of_ne hn, put_cons_of_ne hn', Option.bind_map, Function.comp_def]
        simpa only [Option.map_bind, Function.comp_def] using hrest

/-- A name that is no field's is not taken, and every other one is. -/
theorem take_eq_none_iff : {ρ σ : Type} → (fields : Fields ρ σ) → (slots : σ) → (name : String) → (place : Nat) →
    (value : Node) → (fields.take budget slots name place value = none ↔ name ∉ fields.names)
  | _, _, .nil, slots, name, place, value => by simp [take, names]
  | _, _, .cons field shape presence hidden rest, (slot, slots), name, place, value => by
    by_cases hn : field = name
    · subst hn
      rw [take.eq_def]
      cases slot <;> simp [names]
    · rw [take_of_ne hn, Option.map_eq_none_iff, rest.take_eq_none_iff, names]
      simp [Ne.symm hn]

theorem step_comm (fields : Fields ρ σ) (slots : σ) (m m' : Except Fault String × Node) :
    ((fields.step budget slots m).bind fun s => fields.step budget s m') =
      (fields.step budget slots m').bind fun s => fields.step budget s m := by
  obtain ⟨name | name, value⟩ := m
  · simp [step, Except.toOption]
  obtain ⟨name' | name', value'⟩ := m'
  · simp [step, Except.toOption]
  simp only [step, Except.toOption, Option.bind_some]
  by_cases hn : name ∈ fields.names
  · by_cases hn' : name' ∈ fields.names
    · simp only [hn, hn', if_true]
      exact fields.put_comm slots name name' value value'
    · simp only [hn, hn', if_true, if_false]
      split <;> simp
  · by_cases hn' : name' ∈ fields.names
    · simp only [hn, hn', if_true, if_false]
      split <;> simp
    · simp only [hn, hn', if_false]
      split <;> split <;> simp [*]

/-- Passing over members one by one. -/
theorem toOption_foldFields (fields : Fields ρ σ) (members : List (Except Fault String × Node)) (slots : σ) :
    ((Members.ofList members).foldFields (fields.take budget) slots).toOption.map Prod.fst =
      members.foldlM (fields.step budget) slots := by
  induction members generalizing slots with
  | nil => rfl
  | cons m members ih =>
    obtain ⟨name | name, value⟩ := m
    · rfl
    have htake : fields.take budget slots name 0 value = none ↔ name ∉ fields.names :=
      fields.take_eq_none_iff slots name 0 value
    rw [List.foldlM_cons, Members.ofList, Members.foldFields, step]
    cases ht : fields.take budget slots name 0 value with
    | none =>
      have hn : name ∉ fields.names := htake.1 ht
      cases hs : value.skipFault? with
      | some f => simp [hn, Except.toOption]
      | none => simpa [hn, hs, Except.toOption] using ih slots
    | some result =>
      have hn : name ∈ fields.names := by
        by_contra hn
        rw [htake.2 hn] at ht
        cases ht
      cases result with
      | error f => simp [hn, put, ht, Except.toOption, Except.bind]
      | ok slots' => simpa [hn, put, ht, Except.toOption, Except.bind] using ih slots'

end Fields

/-! ## Trees that are read alike -/

/-- The same is read from two trees, or nothing from either. -/
def Shape.Alike (shape : Shape α) (tree tree' : Node) : Prop :=
  ∀ budget, (shape.read budget tree).toOption = (shape.read budget tree').toOption

section Alike

variable {budget : Nat} {shape : Shape α} {tree tree' : Node}

theorem foldlM_perm {f : σ → β → Option σ} (hf : ∀ s a b, ((f s a).bind fun t => f t b) = (f s b).bind fun t => f t a)
    {as bs : List β} (h : as.Perm bs) (s : σ) : as.foldlM f s = bs.foldlM f s := by
  induction h generalizing s with
  | nil => rfl
  | cons a _ ih =>
    rw [List.foldlM_cons, List.foldlM_cons]
    exact congrArg _ (funext ih)
  | swap a b as =>
    have hswap := congrArg (Option.bind · fun t => as.foldlM f t) (hf s b a)
    simpa only [List.foldlM_cons, Option.bind_eq_bind, Option.bind_assoc] using hswap
  | trans _ _ ih ih' => exact (ih s).trans (ih' s)

theorem alike_object {name : String} {fields : Fields ρ σ} {members members' : List (Except Fault String × Node)}
    (h : ∀ budget slots, members.foldlM (fields.step budget) slots = members'.foldlM (fields.step budget) slots) :
    (Shape.record name fields).Alike (.object 0 (.ofList members)) (.object 0 (.ofList members')) := by
  intro budget
  simp only [toOption_read_object, Fields.toOption_foldFields, h]

theorem Fields.Named.mem_names {ρ σ α : Type} {fields : Fields ρ σ} {name : String} {shape : Shape α}
    (hn : fields.Named name shape) : name ∈ fields.names := by
  induction hn with
  | here => exact List.mem_cons_self ..
  | there _ _ ih => exact List.mem_cons_of_mem _ ih

theorem Fields.put_of_alike {ρ σ α : Type} {fields : Fields ρ σ} {name : String} {shape : Shape α}
    (hn : fields.Named name shape) (h : shape.Alike tree tree') (slots : σ) :
    fields.put budget slots name tree = fields.put budget slots name tree' := by
  induction hn with
  | here =>
    obtain ⟨slot, slots⟩ := slots
    rw [put_cons_self, put_cons_self, h budget]
  | there hne _ ih =>
    obtain ⟨slot, slots⟩ := slots
    rw [put_cons_of_ne hne, put_cons_of_ne hne, ih h]

/-- A member that names a field may hold anything that is read alike. -/
theorem Fields.step_of_alike {ρ σ α : Type} {fields : Fields ρ σ} {name : String} {shape : Shape α}
    (hn : fields.Named name shape) (h : shape.Alike tree tree') (slots : σ) :
    fields.step budget slots (.ok name, tree) = fields.step budget slots (.ok name, tree') := by
  simp only [step, Except.toOption, Option.bind_some, hn.mem_names, if_true]
  exact put_of_alike hn h slots

/-- So may an item in a field's place. -/
theorem Fields.readItems_of_alike {ρ σ α : Type} {fields : Fields ρ σ} {n : Nat} {shape : Shape α}
    (hn : fields.At n shape) (h : shape.Alike tree tree') (wanted : String) (index : Nat) {before : List Node}
    (hlength : before.length = n) (after : List Node) :
    (fields.readItems budget wanted index (.ofList (before ++ tree :: after))).toOption =
      (fields.readItems budget wanted index (.ofList (before ++ tree' :: after))).toOption := by
  induction hn generalizing before index with
  | zero =>
    obtain rfl := List.length_eq_zero_iff.1 hlength
    simp only [List.nil_append, Items.ofList, readItems, toOption_bind, h budget]
  | succ _ ih =>
    cases before with
    | nil => cases hlength
    | cons first before =>
      simp only [List.cons_append, Items.ofList, readItems, toOption_bind, ih h _ (Nat.succ.inj hlength)]

theorem alike_listed {name : String} {fields : Fields ρ σ} {before : List Node}
    (hn : fields.At before.length shape) (h : shape.Alike tree tree') (after : List Node) :
    (Shape.record name fields).Alike (.array 0 (.ofList (before ++ tree :: after)))
      (.array 0 (.ofList (before ++ tree' :: after))) := by
  intro budget
  simp only [Shape.read, toOption_bind, Fields.readItems_of_alike hn h _ _ rfl]

theorem alike_list (h : shape.Alike tree tree') (before after : List Node) :
    (Shape.list shape).Alike (.array 0 (.ofList (before ++ tree :: after)))
      (.array 0 (.ofList (before ++ tree' :: after))) := by
  have hcollect : ∀ budget, ((Items.ofList (before ++ tree :: after)).collect (shape.read budget)).toOption =
      ((Items.ofList (before ++ tree' :: after)).collect (shape.read budget)).toOption := by
    intro budget
    induction before with
    | nil => simp only [List.nil_append, Items.ofList, Items.collect, toOption_bind, h budget]
    | cons first before ih => simp only [List.cons_append, Items.ofList, Items.collect, toOption_bind, ih]
  intro budget
  simp only [Shape.read, toOption_bind, hcollect]

theorem alike_option (h : shape.Alike tree tree') (hn : ∀ stop, tree ≠ .null stop) (hn' : ∀ stop, tree' ≠ .null stop) :
    (Shape.option shape).Alike tree tree' := by
  intro budget
  rw [read_option_of_ne hn, read_option_of_ne hn', toOption_map, toOption_map, h budget]

theorem alike_view (h : shape.Alike tree tree') (build : α → β) (parts : β → α) :
    (Shape.view shape build parts).Alike tree tree' := by
  intro budget
  rw [Shape.read, Shape.read, toOption_map, toOption_map, h budget]

end Alike

end Reading

/-! ## Documents that differ in what does not matter -/

/-- The same item with another value. -/
def Item.holding (i : Item) (value : List UInt8) : Item :=
  { i with value := value }

/-- The same member with another value. -/
def Entry.holding (e : Entry) (value : List UInt8) : Entry :=
  { e with item := e.item.holding value }

/-- What a member says, without the blanks in it: the bytes of its name and of its value. -/
def Entry.said (e : Entry) : List UInt8 × List UInt8 :=
  (e.name, e.item.value)

/-- Two values that differ in one object which the shape reads as a record: in the order of its members and the blanks
between them, or in a member whose name is no field. -/
inductive Shape.Varies : {α : Type} → Shape α → List UInt8 → List UInt8 → Prop
  /-- The members stand in another order, with other blanks. -/
  | order {ρ σ name} {fields : Fields ρ σ} {g g'} {entries entries' : List Entry} : Gap g → Gap g' →
      (∀ e ∈ entries, e.Proper) → (∀ e ∈ entries', e.Spaced) → (entries.map Entry.said).Perm (entries'.map Entry.said) →
      Varies (.record name fields) (objectBytes g entries) (objectBytes g' entries')
  /-- There is one member more. -/
  | more {ρ σ name} {fields : Fields ρ σ} {g g' before after} {e : Entry} {cs} : Gap g → Gap g' →
      (∀ e ∈ before ++ after, e.Proper) → e.Proper → SpellsChars e.name cs → String.ofList cs ∉ fields.names →
      Varies (.record name fields) (objectBytes g (before ++ after)) (objectBytes g' (before ++ e :: after))
  /-- The difference is in the value of a field. -/
  | field {α ρ σ name} {shape : Shape α} {fields : Fields ρ σ} {g before after} {e : Entry} {cs value} : Gap g →
      (∀ e ∈ before ++ after, e.Proper) → e.Spaced → SpellsChars e.name cs → fields.Named (String.ofList cs) shape →
      Varies shape e.item.value value →
      Varies (.record name fields) (objectBytes g (before ++ e :: after))
        (objectBytes g (before ++ e.holding value :: after))
  /-- It is in an item that stands in a field's place. -/
  | place {α ρ σ name} {shape : Shape α} {fields : Fields ρ σ} {g before after} {i : Item} {value} : Gap g →
      (∀ i ∈ before ++ after, i.Proper) → i.Spaced → fields.At before.length shape → Varies shape i.value value →
      Varies (.record name fields) (arrayBytes g (before ++ i :: after))
        (arrayBytes g (before ++ i.holding value :: after))
  /-- It is in an item of a list. -/
  | item {α} {shape : Shape α} {g before after} {i : Item} {value} : Gap g → (∀ i ∈ before ++ after, i.Proper) →
      i.Spaced → Varies shape i.value value →
      Varies (.list shape) (arrayBytes g (before ++ i :: after)) (arrayBytes g (before ++ i.holding value :: after))
  | option {α} {shape : Shape α} {bs bs'} : Varies shape bs bs' → Varies (.option shape) bs bs'
  | view {α β} {shape : Shape α} {build : α → β} {parts : β → α} {bs bs'} : Varies shape bs bs' →
      Varies (.view shape build parts) bs bs'

/-- Members in another order are read as the same names and trees in another order, whatever blanks are around them. -/
theorem readAs_of_perm {entries entries' : List Entry} {members : List (Except Fault String × Node)}
    (hperm : (entries.map Entry.said).Perm (entries'.map Entry.said)) (h : List.Forall₂ Entry.ReadAs entries members)
    (hspaced : ∀ e ∈ entries', e.Spaced) :
    ∃ members', List.Forall₂ Entry.ReadAs entries' members' ∧ members.Perm members' := by
  have hsays : List.Forall₂ (fun said member => contentsIn said.1 = member.1 ∧ ReadAs said.2 member.2)
      (entries.map Entry.said) members :=
    List.forall₂_map_left_iff.2 (h.imp fun _ _ he => ⟨he.name, he.value⟩)
  obtain ⟨members', hsays', hperm'⟩ := List.perm_comp_forall₂ hperm.symm hsays
  refine ⟨members', ?_, hperm'.symm⟩
  refine (List.forall₂_and_left _ _).2 ⟨hspaced, List.forall₂_map_left_iff.1 hsays'⟩ |>.imp ?_
  rintro e member ⟨hs, hname, hvalue⟩
  exact ⟨hs, hname, hvalue⟩

/-- Whatever value an item holds, the array around it is read as the same trees around the value's own. -/
theorem exists_readAs_array_around {g : List UInt8} {before after : List Item} {i : Item} (hg : Gap g)
    (hproper : ∀ i ∈ before ++ after, i.Proper) (hspaced : i.Spaced) :
    ∃ ts ts' : List Node, ts.length = before.length ∧ ∀ value tree, ReadAs value tree →
      ReadAs (arrayBytes g (before ++ i.holding value :: after)) (.array 0 (.ofList (ts ++ tree :: ts'))) := by
  obtain ⟨hbefore, hafter⟩ := List.forall_mem_append.1 hproper
  obtain ⟨ts, hread⟩ := readAs_of_properItems hbefore
  obtain ⟨ts', hread'⟩ := readAs_of_properItems hafter
  refine ⟨ts, ts', hread.length_eq.symm, fun value tree h => ?_⟩
  have hitem : (i.holding value).ReadAs tree := ⟨⟨hspaced.lead, hspaced.trail⟩, h⟩
  exact readAs_array hg (List.rel_append hread (.cons hitem hread'))

/-- The same of the value of a member, and of its name. -/
theorem exists_readAs_object_around {g : List UInt8} {before after : List Entry} {e : Entry} {cs : List Char}
    (hg : Gap g) (hproper : ∀ e ∈ before ++ after, e.Proper) (hspaced : e.Spaced) (hname : SpellsChars e.name cs) :
    ∃ ms ms' : List (Except Fault String × Node), ∀ value tree, ReadAs value tree →
      ReadAs (objectBytes g (before ++ e.holding value :: after))
        (.object 0 (.ofList (ms ++ (.ok (String.ofList cs), tree) :: ms'))) := by
  obtain ⟨hbefore, hafter⟩ := List.forall_mem_append.1 hproper
  obtain ⟨ms, hread⟩ := readAs_of_properEntries hbefore
  obtain ⟨ms', hread'⟩ := readAs_of_properEntries hafter
  refine ⟨ms, ms', fun value tree h => ?_⟩
  have hentry : (e.holding value).ReadAs (.ok (String.ofList cs), tree) :=
    ⟨⟨hspaced.lead, hspaced.name, hspaced.trail, ⟨hspaced.item.lead, hspaced.item.trail⟩⟩,
      contentsIn_of_spells hname, h⟩
  exact readAs_object hg (List.rel_append hread (.cons hentry hread'))

/-- Values that differ in what does not matter are read as trees that are read alike. -/
theorem Shape.Varies.alike {α : Type} {shape : Shape α} {bs bs' : List UInt8} (h : shape.Varies bs bs') :
    ∃ tree tree', ReadAs bs tree ∧ ReadAs bs' tree' ∧ (∀ stop, tree ≠ .null stop) ∧ (∀ stop, tree' ≠ .null stop) ∧
      shape.Alike tree tree' := by
  induction h with
  | @order _ _ _ fields _ _ _ _ hg hg' hproper hspaced hperm =>
    obtain ⟨members, hread⟩ := readAs_of_properEntries hproper
    obtain ⟨members', hread', hperm'⟩ := readAs_of_perm hperm hread hspaced
    exact ⟨_, _, readAs_object hg hread, readAs_object hg' hread', nofun, nofun,
      alike_object fun budget slots => foldlM_perm fields.step_comm hperm' slots⟩
  | @more _ _ _ fields _ _ _ _ e cs hg hg' hproper he hname habsent =>
    obtain ⟨hbefore, hafter⟩ := List.forall_mem_append.1 hproper
    obtain ⟨ms, hread⟩ := readAs_of_properEntries hbefore
    obtain ⟨ms', hread'⟩ := readAs_of_properEntries hafter
    obtain ⟨tree, ht, hskip⟩ := readAs_of_isValue he.value
    have hentry : e.ReadAs (.ok (String.ofList cs), tree) := ⟨he.spaced, contentsIn_of_spells hname, ht⟩
    refine ⟨_, _, readAs_object hg (List.rel_append hread hread'),
      readAs_object hg' (List.rel_append hread (.cons hentry hread')), nofun, nofun, alike_object ?_⟩
    intro budget slots
    -- whatever is known of the fields, it is the same behind the new member
    have hpassed : ∀ s, fields.step budget s (.ok (String.ofList cs), tree) = some s := by
      intro s
      simp [Fields.step, Except.toOption, habsent, hskip]
    simp only [List.foldlM_append, List.foldlM_cons, hpassed]
    rfl
  | @field _ _ _ _ _ fields _ _ _ e cs value hg hproper hspaced hname hnamed _ ih =>
    obtain ⟨tree, tree', ht, ht', _, _, halike⟩ := ih
    obtain ⟨ms, ms', hread⟩ := exists_readAs_object_around hg hproper hspaced hname
    refine ⟨_, _, hread _ _ ht, hread _ _ ht', nofun, nofun, alike_object ?_⟩
    intro budget slots
    simp only [List.foldlM_append, List.foldlM_cons, Fields.step_of_alike hnamed halike]
  | @place _ _ _ _ _ fields _ _ _ i value hg hproper hspaced hat _ ih =>
    obtain ⟨tree, tree', ht, ht', _, _, halike⟩ := ih
    obtain ⟨ts, ts', hlength, hread⟩ := exists_readAs_array_around hg hproper hspaced
    exact ⟨_, _, hread _ _ ht, hread _ _ ht', nofun, nofun, alike_listed (hlength ▸ hat) halike ts'⟩
  | @item _ _ _ _ _ i value hg hproper hspaced _ ih =>
    obtain ⟨tree, tree', ht, ht', _, _, halike⟩ := ih
    obtain ⟨ts, ts', _, hread⟩ := exists_readAs_array_around hg hproper hspaced
    exact ⟨_, _, hread _ _ ht, hread _ _ ht', nofun, nofun, alike_list halike ts ts'⟩
  | option _ ih =>
    obtain ⟨tree, tree', hr, hr', hn, hn', halike⟩ := ih
    exact ⟨tree, tree', hr, hr', hn, hn', alike_option halike hn hn'⟩
  | view _ ih =>
    obtain ⟨tree, tree', hr, hr', hn, hn', halike⟩ := ih
    exact ⟨tree, tree', hr, hr', hn, hn', alike_view halike _ _⟩

/-- Documents whose values differ in what does not matter, with any blanks around them. -/
def Shape.VariesDocument {α : Type} (shape : Shape α) (bytes bytes' : List UInt8) : Prop :=
  ∃ g bs g₁ g' bs' g₁', Gap g ∧ Gap g₁ ∧ Gap g' ∧ Gap g₁' ∧ bytes = g ++ bs ++ g₁ ∧ bytes' = g' ++ bs' ++ g₁' ∧
    shape.Varies bs bs'

/-- Documents that differ in what does not matter are decoded as the same value, or neither is decoded. -/
theorem toOption_decode_of_varies {α : Type} {shape : Shape α} {bytes bytes' : List UInt8}
    (h : shape.VariesDocument bytes bytes') : (shape.decode bytes).toOption = (shape.decode bytes').toOption := by
  obtain ⟨g, bs, g₁, g', bs', g₁', hg, hg₁, hg', hg₁', rfl, rfl, hv⟩ := h
  obtain ⟨tree, tree', ht, ht', _, _, halike⟩ := hv.alike
  rw [toOption_decode ht hg hg₁, toOption_decode ht' hg' hg₁', halike]

end ServiceBroker.Json
