/-
Credentials and the bindings they were issued for. The id of the binding stands in front of an `@` and the tenant behind
it, and nothing keeps an `@` out of either. What is read back is what stands in front of the first one, so credentials
belong to their binding exactly if its id has no `@`, and to the binding of a shorter id otherwise. Two pairs of an id
and a tenant are joined to one text exactly if one id goes on, behind an `@`, where the other one ends
(`tagged_eq_iff`); then at most one of the ids has no `@` (`traced_of_made`).
-/
import ServiceBroker.Proofs.Acceptance
import ServiceBroker.Proofs.Text.Joined

namespace ServiceBroker

namespace Credential

/-- Credentials that were issued for a binding and a tenant: as such, or as what came of a bind request. -/
inductive Made (bindingId tenant : String) : Credential → Prop
  | issued (values : Json.Dictionary) : Made bindingId tenant (issue bindingId tenant values)
  | bound {outcome : BindOutcome} {c : Credential} : ofOutcome? bindingId tenant outcome = some c →
      Made bindingId tenant c

variable {b t b' t' other : String} {c c' : Credential}

theorem Made.guidAtTenant_eq (h : Made b t c) : c.guidAtTenant = b ++ "@" ++ t := by
  cases h with
  | issued values => rfl
  | bound h =>
    obtain ⟨values, _, rfl⟩ := Option.map_eq_some_iff.1 h
    rfl

theorem toList_tagged (b t : String) : (b ++ "@" ++ t).toList = b.toList ++ '@' :: t.toList := by
  rw [String.toList_append, String.toList_append, List.append_assoc]
  rfl

theorem eq_tagged {text : String} {front back : List Char} (h : text.toList = front ++ '@' :: back) :
    text = .ofList front ++ "@" ++ .ofList back := by
  rw [← String.toList_inj, toList_tagged, String.toList_ofList, String.toList_ofList, h]

/-! ## Reading the binding back -/

theorem takeWhile_eq_self_of_not_mem {xs : List Char} (h : '@' ∉ xs) : xs.takeWhile (· != '@') = xs := by
  apply List.takeWhile_eq_self_iff.2
  intro x hx
  rw [bne_iff_ne]
  rintro rfl
  exact h hx

theorem takeWhile_append_at (xs ys : List Char) :
    (xs ++ '@' :: ys).takeWhile (· != '@') = xs.takeWhile (· != '@') := by
  induction xs with
  | nil => rfl
  | cons x xs ih => rw [List.cons_append, List.takeWhile_cons, List.takeWhile_cons, ih]

/-- In front of the first `@` stands everything, or what an `@` stands behind. -/
theorem takeWhile_at_eq_iff {xs ys : List Char} :
    xs.takeWhile (· != '@') = ys ↔ '@' ∉ ys ∧ (xs = ys ∨ ∃ more, xs = ys ++ '@' :: more) := by
  constructor
  · rintro rfl
    refine ⟨fun h => by simpa using List.mem_takeWhile_imp h, ?_⟩
    have hsplit := List.takeWhile_append_dropWhile (p := (· != '@')) (l := xs)
    have hhead := List.head?_dropWhile_not (· != '@') xs
    cases hd : xs.dropWhile (· != '@') with
    | nil =>
      rw [hd, List.append_nil] at hsplit
      exact .inl hsplit.symm
    | cons x more =>
      rw [hd] at hsplit hhead
      obtain rfl : x = '@' := by simpa using hhead
      exact .inr ⟨more, hsplit.symm⟩
  · rintro ⟨hys, rfl | ⟨more, rfl⟩⟩
    · exact takeWhile_eq_self_of_not_mem hys
    · rw [takeWhile_append_at, takeWhile_eq_self_of_not_mem hys]

theorem Made.bindingId_eq_iff (h : Made b t c) :
    c.bindingId = other ↔ '@' ∉ other.toList ∧ (b = other ∨ ∃ more, b = other ++ "@" ++ more) := by
  have hlist : c.bindingId = other ↔ b.toList.takeWhile (· != '@') = other.toList := by
    rw [bindingId, h.guidAtTenant_eq, toList_tagged, takeWhile_append_at, ← String.toList_inj, String.toList_ofList]
  have hmore : (∃ more, b.toList = other.toList ++ '@' :: more) ↔ ∃ more, b = other ++ "@" ++ more := by
    constructor
    · rintro ⟨more, hb⟩
      exact ⟨.ofList more, by simpa only [String.ofList_toList] using eq_tagged hb⟩
    · rintro ⟨more, rfl⟩
      exact ⟨more.toList, toList_tagged other more⟩
  rw [hlist, takeWhile_at_eq_iff, String.toList_inj, hmore]

/-! ## Telling pairs apart -/

/-- Two pairs are joined to the same text if they are the same, or if one id goes on where the other one ends. -/
theorem tagged_eq_iff :
    b ++ "@" ++ t = b' ++ "@" ++ t' ↔
      (b = b' ∧ t = t') ∨ (∃ more, b = b' ++ "@" ++ more ∧ t' = more ++ "@" ++ t) ∨
        ∃ more, b' = b ++ "@" ++ more ∧ t = more ++ "@" ++ t' := by
  constructor
  · intro h
    have hlist := congrArg String.toList h
    rw [toList_tagged, toList_tagged, append_cons_eq_iff] at hlist
    rcases hlist with ⟨hb, ht⟩ | ⟨zs, hb, ht⟩ | ⟨zs, hb, ht⟩
    · exact .inl ⟨String.toList_inj.1 hb, String.toList_inj.1 ht⟩
    · refine .inr (.inl ⟨.ofList zs, ?_, ?_⟩)
      · simpa only [String.ofList_toList] using eq_tagged hb
      · simpa only [String.ofList_toList] using eq_tagged ht
    · refine .inr (.inr ⟨.ofList zs, ?_, ?_⟩)
      · simpa only [String.ofList_toList] using eq_tagged hb
      · simpa only [String.ofList_toList] using eq_tagged ht
  · rintro (⟨rfl, rfl⟩ | ⟨more, rfl, rfl⟩ | ⟨more, rfl, rfl⟩)
    · rfl
    · simp only [String.append_assoc]
    · simp only [String.append_assoc]

theorem mem_tagged : '@' ∈ (b ++ "@" ++ t).toList := by
  rw [toList_tagged]
  exact List.mem_append_right _ List.mem_cons_self

/-- What credentials tell of the binding and the tenant they were issued for. The binding is read back exactly if its id
has no `@`. They belong to the one binding whose id has no `@` and is that id, or the part of it in front of an `@`; so
a binding whose id has one never has credentials that belong to it. Two pairs are told apart unless one id goes on where
the other one ends, and always if neither id has an `@`. -/
theorem traced_of_made (h : Made b t c) (h' : Made b' t' c') :
    (c.bindingId = b ↔ '@' ∉ b.toList) ∧
    (∀ other, c.belongsTo other = true ↔
      '@' ∉ other.toList ∧ (b = other ∨ ∃ more, b = other ++ "@" ++ more)) ∧
    (c.guidAtTenant = c'.guidAtTenant ↔
      (b = b' ∧ t = t') ∨ (∃ more, b = b' ++ "@" ++ more ∧ t' = more ++ "@" ++ t) ∨
        ∃ more, b' = b ++ "@" ++ more ∧ t = more ++ "@" ++ t') ∧
    ('@' ∉ b.toList →
      (∀ other, c.belongsTo other = true ↔ other = b) ∧
      ('@' ∉ b'.toList → (c.guidAtTenant = c'.guidAtTenant ↔ b = b' ∧ t = t'))) := by
  have hbelongs (other : String) : c.belongsTo other = true ↔ c.bindingId = other := beq_iff_eq
  have hguid : c.guidAtTenant = c'.guidAtTenant ↔ b ++ "@" ++ t = b' ++ "@" ++ t' := by
    rw [h.guidAtTenant_eq, h'.guidAtTenant_eq]
  refine ⟨?_, fun other => (hbelongs other).trans h.bindingId_eq_iff, hguid.trans tagged_eq_iff,
    fun hb => ⟨fun other => ?_, fun hb' => ?_⟩⟩
  · exact h.bindingId_eq_iff.trans (and_iff_left (.inl rfl))
  · rw [hbelongs, h.bindingId_eq_iff]
    constructor
    · rintro ⟨_, rfl | ⟨more, rfl⟩⟩
      · rfl
      · exact absurd mem_tagged hb
    · rintro rfl
      exact ⟨hb, .inl rfl⟩
  · rw [hguid, tagged_eq_iff]
    constructor
    · rintro (h | ⟨more, rfl, _⟩ | ⟨more, rfl, _⟩)
      · exact h
      · exact absurd mem_tagged hb
      · exact absurd mem_tagged hb'
    · exact .inl

end Credential

/-- A binding is asked for. -/
def Call.binding (bindingId : String) : Call :=
  ⟨.bind, ⟨bindingId, "i", false, "s", "p", none, none, none, none, none⟩⟩

namespace Credential

/-- What the credentials of a reply are. -/
def replied : Json.Dictionary := Json.Dictionary.empty.insert "u" ⟨.text "b", trivial⟩

/-- A tenant may have an `@`. -/
theorem traced_of_made_tenant :
    Made "b" "t@u" (issue "b" "t@u" replied) ∧ Made "c" "u" (issue "c" "u" replied) ∧ '@' ∉ "b".toList ∧
    (issue "b" "t@u" replied).bindingId = "b" ∧
    ((issue "b" "t@u" replied).guidAtTenant = (issue "c" "u" replied).guidAtTenant ↔ "b" = "c" ∧ "t@u" = "u") := by
  have h : Made "b" "t@u" (issue "b" "t@u" replied) := .issued replied
  have h' : Made "c" "u" (issue "c" "u" replied) :=
    .bound
      (show ofOutcome? "c" "u" ⟨false, some replied, none, none, none, none⟩ = some (issue "c" "u" replied) from rfl)
  have hb : '@' ∉ "b".toList := by decide
  obtain ⟨hread, _, _, hapart⟩ := traced_of_made h h'
  exact ⟨h, h', hb, hread.2 hb, (hapart hb).2 (by decide)⟩

/-- A binding whose id has an `@` is asked for and is ready; its credentials belong to another binding, and are taken
for those that another tenant has of that one. -/
theorem not_traced_at :
    ∃ outcome c, (Client.loopback.perform ⟨.sound, true⟩ .empty (.binding "a@b")
        (.reply (.credentialed 201))).1.result = .ok outcome ∧
      ofOutcome? "a@b" "t" outcome = some c ∧ c.bindingId = "a" ∧ c.belongsTo "a@b" = false ∧ c.belongsTo "a" = true ∧
      c.guidAtTenant = (issue "a" "b@t" replied).guidAtTenant := by
  refine ⟨⟨false, some replied, none, none, none, none⟩, issue "a@b" "t" replied, ?_, rfl, ?_⟩
  · refine (toOption_eq_some_iff (α := BindOutcome)).1 ?_
    decide +kernel
  · decide +kernel

end Credential

end ServiceBroker
