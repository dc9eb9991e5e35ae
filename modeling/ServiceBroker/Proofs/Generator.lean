/-
The shape of every catalog that is made, whatever the dice show. Services and plans are made one after another, each
from its place (`Row`); so a property that one service has from its place, all of them have (`generate_yields`). Names
follow from places alone: no two services share one, and the names of plans come again after five of them.
-/
import ServiceBroker.Generator
import ServiceBroker.Proofs.Random
import ServiceBroker.Proofs.Text.Joined
import Mathlib.Data.List.GetD
import Mathlib.Data.List.Nodup

namespace ServiceBroker

open ServiceBroker.Random (Draw IsGuid)
open ServiceBroker.Random.Draw (yields_true yields_pure)

/-! ## Rows -/

/-- As many things as asked for, each of them made at its place. Places count from a start on. -/
structure Row {α : Type} (made : Nat → α → Prop) (start count : Nat) (l : List α) : Prop where
  length : l.length = count
  made : ∀ i a, l[i]? = some a → made (start + i) a

namespace Row

variable {α β : Type} {made : Nat → α → Prop} {start count : Nat} {a : α} {l : List α}

theorem nil : Row made start 0 [] :=
  ⟨rfl, nofun⟩

theorem cons (ha : made start a) (h : Row made (start + 1) count l) : Row made start (count + 1) (a :: l) := by
  constructor
  · rw [List.length_cons, h.length]
  · rintro (_ | i) b hb
    · cases hb
      exact ha
    · have hrest := h.made i b hb
      rwa [Nat.add_assoc, Nat.add_comm 1 i] at hrest

theorem exists_place (h : Row made start count l) (ha : a ∈ l) : ∃ i, made i a := by
  obtain ⟨i, hi⟩ := List.mem_iff_getElem?.1 ha
  exact ⟨start + i, h.made i a hi⟩

/-- What follows from places is the same in every row. -/
theorem map_eq {f : α → β} {see : Nat → β} (h : Row made start count l) (hsee : ∀ i a, made i a → f a = see i) :
    l.map f = (List.range' start count).map see := by
  apply List.ext_getElem
  · rw [List.length_map, List.length_map, List.length_range', h.length]
  · intro i hi hi'
    rw [List.length_map] at hi
    rw [List.getElem_map, List.getElem_map, List.getElem_range', Nat.one_mul]
    exact hsee _ _ (h.made i l[i] (List.getElem?_eq_getElem hi))

end Row

namespace Generator

/-! ## Names -/

/-- The texts of a table differ, so they tell places apart. -/
theorem eq_of_getD_eq {table : List String} (ht : table.Nodup) {i j : Nat} (hi : i < table.length)
    (hj : j < table.length) (h : table.getD i "" = table.getD j "") : i = j := by
  rw [List.getD_eq_getElem _ _ hi, List.getD_eq_getElem _ _ hj] at h
  exact (ht.getElem_inj_iff).1 h

theorem mod_eq_of_getD_eq {table : List String} (ht : table.Nodup) (hpos : 0 < table.length) {i j : Nat}
    (h : table.getD (i % table.length) "" = table.getD (j % table.length) "") : i % table.length = j % table.length :=
  eq_of_getD_eq ht (Nat.mod_lt i hpos) (Nat.mod_lt j hpos) h

theorem getD_mem {table : List String} {i : Nat} (hi : i < table.length) : table.getD i "" ∈ table := by
  rw [List.getD_eq_getElem _ _ hi]
  exact List.getElem_mem hi

theorem toList_serviceName (index : Nat) : (serviceName index).toList =
    (serviceNames.getD (index % serviceNames.length) "").toList ++
      if index < serviceNames.length then [] else '-' :: (index / serviceNames.length).repr.toList := by
  unfold serviceName
  dsimp only
  split
  · rw [List.append_nil]
  · show (_ ++ "-" ++ Nat.repr _).toList = _
    rw [String.toList_append, String.toList_append, List.append_assoc]
    rfl

theorem toDigits_injective : Function.Injective (Nat.toDigits 10) :=
  Function.LeftInverse.injective (g := fun digits => Nat.ofDigitChars 10 digits 0)
    fun _ => Nat.ofDigitChars_toDigits (by decide) (by decide)

/-- No name of the table has a hyphen. -/
theorem hyphen_notMem (index : Nat) : '-' ∉ (serviceNames.getD (index % serviceNames.length) "").toList := by
  have hall : ∀ text ∈ serviceNames, '-' ∉ text.toList := by decide
  exact hall _ (getD_mem (Nat.mod_lt index (by decide)))

theorem mod_eq_of_toList_eq {i j : Nat} (h : (serviceNames.getD (i % serviceNames.length) "").toList =
    (serviceNames.getD (j % serviceNames.length) "").toList) : i % serviceNames.length = j % serviceNames.length :=
  mod_eq_of_getD_eq (by decide) (by decide) (String.toList_inj.1 h)

/-- The first hyphen in a name is where the number begins, so the text in front of it gives the place in the table, and
the number how often the table was gone through. -/
theorem serviceName_injective : Function.Injective serviceName := by
  intro i j h
  have hlist := congrArg String.toList h
  rw [toList_serviceName, toList_serviceName] at hlist
  by_cases hi : i < serviceNames.length
  · by_cases hj : j < serviceNames.length
    · rw [if_pos hi, if_pos hj, List.append_nil, List.append_nil] at hlist
      have hmod := mod_eq_of_toList_eq hlist
      rwa [Nat.mod_eq_of_lt hi, Nat.mod_eq_of_lt hj] at hmod
    · -- only a name that comes again has a hyphen
      rw [if_pos hi, if_neg hj, List.append_nil] at hlist
      have hmem := hyphen_notMem i
      rw [hlist] at hmem
      simp at hmem
  · by_cases hj : j < serviceNames.length
    · rw [if_neg hi, if_pos hj, List.append_nil] at hlist
      have hmem := hyphen_notMem j
      rw [← hlist] at hmem
      simp at hmem
    · rw [if_neg hi, if_neg hj] at hlist
      obtain ⟨hfront, hback⟩ := eq_of_append_cons_eq_of_front hlist (hyphen_notMem i) (hyphen_notMem j)
      rw [Nat.toList_repr, Nat.toList_repr] at hback
      have hdiv := toDigits_injective hback
      have hmod := mod_eq_of_toList_eq hfront
      rw [← Nat.div_add_mod i serviceNames.length, ← Nat.div_add_mod j serviceNames.length, hdiv, hmod]

theorem planName_eq_iff {i j : Nat} : planName i = planName j ↔ i % planNames.length = j % planNames.length := by
  constructor
  · exact mod_eq_of_getD_eq (by decide) (by decide)
  · intro h
    unfold planName
    rw [h]

end Generator

/-! ## Plans and services -/

/-- A plan that was made at a place. -/
structure Plan.MadeAt (index : Nat) (p : Plan) : Prop where
  id : IsGuid p.id
  name : p.name = Generator.planName index
  free : p.free = some (decide (index = 0))

/-- A service that was made at a place. -/
structure Service.MadeAt (g : Generator) (index : Nat) (s : Service) : Prop where
  id : IsGuid s.id
  name : s.name = Generator.serviceName index
  tags : s.tags.length = min g.tagsPerService Generator.tags.length
  tagsDiffer : s.tags.Nodup
  tagsKnown : ∀ tag ∈ s.tags, tag ∈ Generator.tags
  plans : Row Plan.MadeAt 0 g.plansPerService s.plans

namespace Generator

theorem plan_yields (service : String) (index : Nat) : (plan service index).Yields (Plan.MadeAt index) := by
  refine Random.guid_yields.bind ?_
  intro id hid
  exact yields_pure ⟨hid, rfl, rfl⟩

theorem plans_yields (service : String) (index count : Nat) :
    (plans service index count).Yields (Row Plan.MadeAt index count) := by
  induction count generalizing index with
  | zero => exact yields_pure .nil
  | succ count ih =>
    refine (plan_yields service index).bind ?_
    intro p hp
    refine (ih (index + 1)).bind ?_
    intro l hl
    exact yields_pure (hl.cons hp)

variable {g : Generator}

theorem service_yields (g : Generator) (index : Nat) : (g.service index).Yields (Service.MadeAt g index) := by
  have hsample := Random.sample_yields (Nat.min_le_right g.tagsPerService tags.length)
  refine hsample.bind ?_
  intro chosen hchosen
  refine (plans_yields _ 0 g.plansPerService).bind ?_
  intro plans hplans
  refine Random.guid_yields.bind ?_
  intro id hid
  refine (yields_true _).bind ?_
  rintro bindable -
  refine (yields_true _).bind ?_
  rintro planUpdateable -
  apply yields_pure
  constructor
  · exact hid
  · rfl
  · exact (List.length_map _).trans hchosen.length
  · -- different places in the table of tags, which has no tag twice
    apply List.Nodup.map_on _ hchosen.nodup
    intro i hi j hj h
    exact eq_of_getD_eq (by decide) (hchosen.lt i hi) (hchosen.lt j hj) h
  · intro tag htag
    obtain ⟨i, hi, rfl⟩ := List.mem_map.1 htag
    exact getD_mem (hchosen.lt i hi)
  · exact hplans

theorem servicesFrom_yields (g : Generator) (index count : Nat) :
    (g.servicesFrom index count).Yields (Row (Service.MadeAt g) index count) := by
  induction count generalizing index with
  | zero => exact yields_pure .nil
  | succ count ih =>
    refine (g.service_yields index).bind ?_
    intro s hs
    refine (ih (index + 1)).bind ?_
    intro l hl
    exact yields_pure (hl.cons hs)

/-- A catalog is a row of services. -/
theorem generate_yields (g : Generator) :
    g.generate.Yields fun catalog => Row (Service.MadeAt g) 0 g.services catalog.services := by
  refine (g.servicesFrom_yields 0 g.services).bind ?_
  intro services h
  exact yields_pure h

/-! ## Catalogs -/

variable {dice : Random.Dice} {position position' : Nat} {catalog : Catalog}

/-- As many services as asked for, no two of one name. Each has as many plans as asked for, of which the first one is
free and no other; as many tags as asked for as long as there are such, no two alike; and identifiers of its own and for
its plans. -/
theorem generate_shape (h : g.generate.from? dice position = some (catalog, position')) :
    catalog.services.length = g.services ∧ (catalog.services.map Service.name).Nodup ∧
    ∀ s ∈ catalog.services,
      IsGuid s.id ∧
      s.plans.length = g.plansPerService ∧
      (∀ i p, s.plans[i]? = some p → p.free = some (decide (i = 0)) ∧ IsGuid p.id) ∧
      s.tags.length = min g.tagsPerService 6 ∧ s.tags.Nodup ∧ ∀ tag ∈ s.tags, tag ∈ tags := by
  have hrow := g.generate_yields dice position catalog position' h
  refine ⟨hrow.length, ?_, ?_⟩
  · rw [hrow.map_eq fun i s hs => hs.name]
    exact List.Nodup.map serviceName_injective List.nodup_range'
  · intro s hs
    obtain ⟨index, hmade⟩ := hrow.exists_place hs
    refine ⟨hmade.id, hmade.plans.length, ?_, hmade.tags, hmade.tagsDiffer, hmade.tagsKnown⟩
    intro i p hp
    have hplan := hmade.plans.made i p hp
    rw [Nat.zero_add] at hplan
    exact ⟨hplan.free, hplan.id⟩

/-- Nine services, so that a name comes again with a number, and more tags than there are. -/
theorem generate_shape_nine :
    ∃ catalog position, (generate ⟨9, 2, 7⟩).from? ⟨Random.words 42, 64⟩ 0 = some (catalog, position) ∧
      catalog.services.length = 9 ∧ ∀ s ∈ catalog.services, s.tags.length = 6 := by
  have hfrom : ((generate ⟨9, 2, 7⟩).from? ⟨Random.words 42, 64⟩ 0).isSome := by decide +kernel
  obtain ⟨⟨catalog, position⟩, h⟩ := Option.isSome_iff_exists.1 hfrom
  obtain ⟨hlength, -, hservices⟩ := generate_shape h
  exact ⟨catalog, position, h, hlength, fun s hs => (hservices s hs).2.2.2.1⟩

/-- Two plans of one service share a name exactly if their places differ by a multiple of five, as many names as there
are; so all names differ exactly if no more plans than that are asked for. -/
theorem generate_planNames (h : g.generate.from? dice position = some (catalog, position')) :
    ∀ s ∈ catalog.services,
      (∀ i j p q, s.plans[i]? = some p → s.plans[j]? = some q → (p.name = q.name ↔ i % 5 = j % 5)) ∧
      ((s.plans.map Plan.name).Nodup ↔ g.plansPerService ≤ 5) := by
  intro s hs
  obtain ⟨index, hmade⟩ := (g.generate_yields dice position catalog position' h).exists_place hs
  have hplans := hmade.plans
  constructor
  · intro i j p q hp hq
    rw [(hplans.made i p hp).name, (hplans.made j q hq).name, Nat.zero_add, Nat.zero_add]
    exact planName_eq_iff
  · rw [hplans.map_eq fun i p hp => hp.name]
    constructor
    · -- the sixth name is the first one again
      intro hnodup
      by_contra hmore
      have hagain : (0 : Nat) = 5 := by
        apply List.inj_on_of_nodup_map hnodup
        · exact List.mem_range'_1.2 (by omega)
        · exact List.mem_range'_1.2 (by omega)
        · rfl
      cases hagain
    · intro hle
      apply List.Nodup.map_on _ List.nodup_range'
      intro i hi j hj hname
      have hmod : i % 5 = j % 5 := planName_eq_iff.1 hname
      have hi := List.mem_range'_1.1 hi
      have hj := List.mem_range'_1.1 hj
      omega

theorem generate_planNames_three :
    ∃ catalog position, (generate ⟨1, 3, 0⟩).from? ⟨Random.words 7, 0⟩ 0 = some (catalog, position) ∧
      ∀ s ∈ catalog.services, (s.plans.map Plan.name).Nodup := by
  have hfrom : ((generate ⟨1, 3, 0⟩).from? ⟨Random.words 7, 0⟩ 0).isSome := by decide +kernel
  obtain ⟨⟨catalog, position⟩, h⟩ := Option.isSome_iff_exists.1 hfrom
  exact ⟨catalog, position, h, fun s hs => (generate_planNames h s hs).2.2 (by decide)⟩

/-- Of six plans the last one has the name of the first. -/
theorem generate_sixPlans :
    ∃ catalog position, (generate ⟨1, 6, 0⟩).from? ⟨Random.words 0, 0⟩ 0 = some (catalog, position) ∧
      ∃ s ∈ catalog.services, s.plans.map Plan.name = ["nano", "small", "medium", "large", "xlarge", "nano"] ∧
        ¬ (s.plans.map Plan.name).Nodup := by
  have hnames : ((generate ⟨1, 6, 0⟩).from? ⟨Random.words 0, 0⟩ 0).map
      (fun result => result.1.services.map fun s => s.plans.map Plan.name) =
        some [["nano", "small", "medium", "large", "xlarge", "nano"]] := by decide +kernel
  obtain ⟨⟨catalog, position⟩, h, hservices⟩ := Option.map_eq_some_iff.1 hnames
  obtain ⟨s, hs, hplans⟩ := List.map_eq_singleton_iff.1 hservices
  refine ⟨catalog, position, h, s, hs ▸ List.mem_singleton_self s, hplans, ?_⟩
  rw [hplans]
  decide

end Generator

end ServiceBroker
