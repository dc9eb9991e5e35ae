/-
What a value in a document means. An object means a dictionary: the names of its members, and for each name what the
last member with it means. A value that is kept as it is, whatever its form, is kept as the tree that it means
(`Node.means_of_toFree`). The members are entered one after another, so what has to be carried along is that an entry
stays as it is until its name comes again.
-/
import ServiceBroker.Proofs.Json.Supply

namespace ServiceBroker.Json

/-- A value in a document means a tree. -/
inductive Node.Means : Node → Json → Prop
  | null (stop : Nat) : Means (.null stop) .null
  | bool (b : Bool) (stop : Nat) : Means (.bool b stop) (.bool b)
  | number (n : Number) (stop : Nat) : Means (.number (.ok n) stop) (.number n)
  | text (s : String) (stop : Nat) : Means (.text (.ok s) stop) (.text s)
  | array {items : Items} {js : List Json} (start : Nat) :
      List.Forall₂ Means items.values js → Means (.array start items) (.array js)
  | object {members : Members} {entries : List (String × Json)} (start : Nat) : Rising entries →
      (∀ name, members.valuesOf name = [] ↔ ∀ j, (name, j) ∉ entries) →
      (∀ name value j, (members.valuesOf name).getLast? = some value → (name, j) ∈ entries → Means value j) →
      Means (.object start members) (.object entries)

/-! ## Entries -/

section Entries

variable {name other : String} {value j : Json} {members : List (String × Json)}

theorem mem_insertMember_of_ne (hn : other ≠ name) :
    (other, j) ∈ insertMember name value members ↔ (other, j) ∈ members := by
  induction members with
  | nil => simp [insertMember, hn]
  | cons m members ih =>
    obtain ⟨n, v⟩ := m
    rw [insertMember]
    split_ifs with he hlt
    · subst he
      simp [hn]
    · simp [hn]
    · simp only [List.mem_cons, ih]

theorem mem_insertMember_self (h : Rising members) : (name, j) ∈ insertMember name value members ↔ j = value := by
  -- the names behind a greater one are greater still
  have habove : ∀ {v : Json} {members : List (String × Json)}, (∀ m ∈ members, name < m.1) → (name, v) ∉ members :=
    fun hm hmem => String.lt_irrefl name (hm _ hmem)
  unfold Rising at h
  induction members with
  | nil => simp [insertMember]
  | cons m members ih =>
    obtain ⟨n, v⟩ := m
    obtain ⟨hn, hrest⟩ := List.pairwise_cons.1 h
    rw [insertMember]
    split_ifs with he hlt
    · subst he
      simp [habove hn]
    · have hall : ∀ m ∈ (n, v) :: members, name < m.1 := by
        intro m hm
        rcases List.mem_cons.1 hm with rfl | hm
        · exact hlt
        · exact String.lt_trans hlt (hn m hm)
      rw [List.mem_cons, Prod.mk.injEq, or_iff_left (habove hall), and_iff_right rfl]
    · simp [he, ih hrest]

end Entries

/-! ## Values that are kept -/

mutual

theorem Node.means_of_toFree {budget : Nat} {j : Free} : (node : Node) → node.toFree budget = .ok j → node.Means j.json
  | .null stop, h => by
    obtain rfl := Except.ok.inj h
    exact .null stop
  | .bool b stop, h => by
    obtain rfl := Except.ok.inj h
    exact .bool b stop
  | .number (.ok n) stop, h => by
    rw [Node.toFree] at h
    obtain rfl := Except.ok.inj h
    exact .number n stop
  | .number (.error _) _, h => nomatch h
  | .text (.ok s) stop, h => by
    rw [Node.toFree] at h
    obtain rfl := Except.ok.inj h
    exact .text s stop
  | .text (.error _) _, h => nomatch h
  | .array start items, h => by
    rw [Node.toFree] at h
    obtain ⟨inner, _, h⟩ := bind_eq_ok_iff.1 h
    obtain ⟨js, hjs, h⟩ := bind_eq_ok_iff.1 h
    obtain rfl := Except.ok.inj h
    exact .array start (items.means_of_toFree hjs)
  | .object start members, h => by
    rw [Node.toFree] at h
    obtain ⟨inner, _, h⟩ := bind_eq_ok_iff.1 h
    obtain ⟨d, hd, h⟩ := bind_eq_ok_iff.1 h
    obtain rfl := Except.ok.inj h
    obtain ⟨hold, hnew⟩ := members.entries_of_toDictionary hd
    refine .object start d.rising (fun name => ⟨fun hnone j => ?_, fun hnone => ?_⟩) ?_
    · rw [hold name hnone j]
      exact List.not_mem_nil
    · by_contra hne
      obtain ⟨j, _, hj⟩ := hnew name _ (List.getLast?_eq_some_getLast hne)
      exact hnone j ((hj j).2 rfl)
    · intro name value j hlast hmem
      obtain ⟨j', hmeans, hj⟩ := hnew name value hlast
      obtain rfl := (hj j).1 hmem
      exact hmeans
  | .broken _ _, h => nomatch h

theorem Items.means_of_toFree {budget : Nat} {js : { items : List Json // CanonicalItems items }} :
    (items : Items) → items.toFree budget = .ok js → List.Forall₂ Node.Means items.values js.val
  | .close _, h => by
    obtain rfl := Except.ok.inj h
    exact .nil
  | .item _ value rest, h => by
    rw [Items.toFree] at h
    obtain ⟨j, hj, h⟩ := bind_eq_ok_iff.1 h
    obtain ⟨more, hmore, h⟩ := bind_eq_ok_iff.1 h
    obtain rfl := Except.ok.inj h
    exact .cons (value.means_of_toFree hj) (rest.means_of_toFree hmore)
  | .broken _ _ _, h => nomatch h

/-- An entry stays unless a member has its name, and then it is what the last one means. -/
theorem Members.entries_of_toDictionary {budget : Nat} {d d' : Dictionary} :
    (members : Members) → members.toDictionary budget d = .ok d' →
    (∀ name, members.valuesOf name = [] → ∀ j, (name, j) ∈ d'.members ↔ (name, j) ∈ d.members) ∧
    ∀ name value, (members.valuesOf name).getLast? = some value →
      ∃ j, value.Means j ∧ ∀ j', (name, j') ∈ d'.members ↔ j' = j
  | .close _, h => by
    obtain rfl := Except.ok.inj h
    exact ⟨fun _ _ _ => Iff.rfl, nofun⟩
  | .member (.ok n) _ first _ rest, h => by
    rw [Members.toDictionary] at h
    obtain ⟨j₀, hj₀, h⟩ := bind_eq_ok_iff.1 h
    obtain ⟨hold, hnew⟩ := rest.entries_of_toDictionary h
    constructor
    · intro name hnone j
      rw [Members.valuesOf] at hnone
      split_ifs at hnone with hn
      exact (hold name hnone j).trans (mem_insertMember_of_ne (Ne.symm hn))
    · intro name value hlast
      rw [Members.valuesOf] at hlast
      split_ifs at hlast with hn
      · subst hn
        by_cases hnone : rest.valuesOf n = []
        · rw [hnone] at hlast
          obtain rfl := Option.some.inj hlast
          exact ⟨j₀.json, first.means_of_toFree hj₀, fun j' => (hold n hnone j').trans (mem_insertMember_self d.rising)⟩
        · rw [List.getLast?_cons_of_ne_nil hnone] at hlast
          exact hnew n value hlast
      · exact hnew name value hlast
  | .member (.error _) _ _ _ _, h => nomatch h
  | .broken _ _, h => nomatch h

end

/-- A dictionary that was read is what the value means that it was read from. -/
theorem means_of_read_dictionary {budget : Nat} {node : Node} {d : Dictionary}
    (h : Shape.dictionary.read budget node = .ok d) : node.Means d.toJson := by
  cases node with
  | object start members =>
    rw [Shape.read] at h
    have hfree : (Node.object start members).toFree budget = .ok d.toFree := by
      obtain ⟨inner, hinner, hd⟩ := bind_eq_ok_iff.1 h
      rw [Node.toFree]
      exact bind_eq_ok_iff.2 ⟨inner, hinner, bind_eq_ok_iff.2 ⟨d, hd, rfl⟩⟩
    exact (Node.object start members).means_of_toFree hfree
  | _ => cases h

end ServiceBroker.Json
