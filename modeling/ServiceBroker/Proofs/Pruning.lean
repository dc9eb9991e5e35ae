/-
Pruning a catalog. What a client sees is said field by field: every field that can be taken away is seen from some
version on, or with alpha features, and everything else is seen as it is, each plan and service at its place. Pruning
gives the one catalog that is seen in this way, and finds in it what it finds in the whole one (`Catalog.pruned_exact`).
A field that was taken away is taken away again by every later pruning. So two prunings are one pruning, for the older
of the two versions and with alpha features only if both have them (`Catalog.pruned_meet`).
-/
import Mathlib.Data.List.Forall2
import Mathlib.Data.Option.Defs
import ServiceBroker.Catalog

namespace ServiceBroker

namespace Version

variable {v w bound : Version}

theorem ordinal_min (v w : Version) : (min v w).ordinal = min v.ordinal w.ordinal := by
  show (if v.ordinal ≤ w.ordinal then v else w).ordinal = _
  split <;> omega

theorem min_lt_iff : min v w < bound ↔ v < bound ∨ w < bound := by
  show (min v w).ordinal < bound.ordinal ↔ v.ordinal < bound.ordinal ∨ w.ordinal < bound.ordinal
  rw [ordinal_min]
  omega

theorem min_eq_left (h : v ≤ w) : min v w = v :=
  if_pos h

theorem min_comm (v w : Version) : min v w = min w v := by
  cases v <;> cases w <;> rfl

theorem min_self (v : Version) : min v v = v :=
  min_eq_left (Nat.le_refl v.ordinal)

theorem not_latest_lt : ¬ latest < bound := by
  cases bound <;> decide

end Version

/-! ## What a client sees -/

/-- A field is seen as it is where it is open, and is missing elsewhere. -/
def SeenIf (opened : Prop) (field seen : Option α) : Prop :=
  (opened → seen = field) ∧ (¬ opened → seen = none)

/-- What a client sees of a plan. Its schemas came with version 2.13; three fields are for alpha features. With these
four given back, it is the plan. -/
structure Plan.Seen (version : Version) (alpha : Bool) (p seen : Plan) : Prop where
  schemas : SeenIf (.v2_13 ≤ version) p.schemas seen.schemas
  maintenanceInfo : SeenIf (alpha = true) p.maintenanceInfo seen.maintenanceInfo
  maximumPollingDuration : SeenIf (alpha = true) p.maximumPollingDuration seen.maximumPollingDuration
  planUpdateable : SeenIf (alpha = true) p.planUpdateable seen.planUpdateable
  rest :
    { seen with
      schemas := p.schemas
      maintenanceInfo := p.maintenanceInfo
      maximumPollingDuration := p.maximumPollingDuration
      planUpdateable := p.planUpdateable } = p

/-- What a client sees of a service: every plan at its place, as much of it as is open. What can be retrieved came with
version 2.14. -/
structure Service.Seen (version : Version) (alpha : Bool) (s seen : Service) : Prop where
  instancesRetrievable : SeenIf (.v2_14 ≤ version) s.instancesRetrievable seen.instancesRetrievable
  bindingsRetrievable : SeenIf (.v2_14 ≤ version) s.bindingsRetrievable seen.bindingsRetrievable
  plans : List.Forall₂ (Plan.Seen version alpha) s.plans seen.plans
  rest :
    { seen with
      instancesRetrievable := s.instancesRetrievable
      bindingsRetrievable := s.bindingsRetrievable
      plans := s.plans } = s

/-- What a client sees of a catalog: every service at its place, as much of it as is open. -/
def Catalog.Seen (version : Version) (alpha : Bool) (c seen : Catalog) : Prop :=
  List.Forall₂ (Service.Seen version alpha) c.services seen.services

section Seen

variable {v bound : Version} {a : Bool} {opened : Prop} {field seen seen' : Option α}

theorem SeenIf.unique (h : SeenIf opened field seen) (h' : SeenIf opened field seen') : seen = seen' := by
  by_cases ho : opened
  · rw [h.1 ho, h'.1 ho]
  · rw [h.2 ho, h'.2 ho]

theorem seenIf_since : SeenIf (bound ≤ v) field (if v < bound then none else field) := by
  have hlt : v < bound ↔ ¬ bound ≤ v := Nat.not_le.symm
  constructor
  · intro ho
    rw [if_neg (hlt.not.2 (not_not.2 ho))]
  · intro ho
    rw [if_pos (hlt.2 ho)]

theorem seenIf_alpha : SeenIf (a = true) field (if a then field else none) := by
  constructor
  · intro ho
    rw [if_pos ho]
  · intro ho
    rw [if_neg ho]

/-- A list is seen item by item in one way only, if every item is. -/
theorem forall₂_iff_eq_map {see : β → γ → Prop} {f : β → γ} (h : ∀ x y, see x y ↔ f x = y) {xs : List β} {ys : List γ} :
    List.Forall₂ see xs ys ↔ ys = xs.map f := by
  have hsee : see = fun x y => f x = y := by
    funext x y
    exact propext (h x y)
  rw [hsee, ← List.forall₂_map_left_iff, List.forall₂_eq_eq_eq, eq_comm]

theorem Plan.seen_pruned (p : Plan) : p.Seen v a (p.pruned v a) where
  schemas := seenIf_since
  maintenanceInfo := seenIf_alpha
  maximumPollingDuration := seenIf_alpha
  planUpdateable := seenIf_alpha
  rest := rfl

theorem Plan.Seen.unique {p q q' : Plan} (h : p.Seen v a q) (h' : p.Seen v a q') : q = q' := by
  have hrest := h.rest.trans h'.rest.symm
  simp only [Plan.mk.injEq] at hrest
  obtain ⟨hid, hname, hdescription, hfree, hbindable, hmetadata, -⟩ := hrest
  rw [Plan.mk.injEq]
  exact ⟨hid, hname, hdescription, hfree, hbindable, hmetadata, h.schemas.unique h'.schemas,
    h.maintenanceInfo.unique h'.maintenanceInfo, h.maximumPollingDuration.unique h'.maximumPollingDuration,
    h.planUpdateable.unique h'.planUpdateable⟩

theorem Plan.seen_iff (p q : Plan) : p.Seen v a q ↔ p.pruned v a = q :=
  ⟨p.seen_pruned.unique, fun h => h ▸ p.seen_pruned⟩

theorem Service.seen_pruned (s : Service) : s.Seen v a (s.pruned v a) where
  instancesRetrievable := seenIf_since
  bindingsRetrievable := seenIf_since
  plans := (forall₂_iff_eq_map Plan.seen_iff).2 rfl
  rest := rfl

theorem Service.Seen.unique {s t t' : Service} (h : s.Seen v a t) (h' : s.Seen v a t') : t = t' := by
  have hplans : t.plans = t'.plans :=
    ((forall₂_iff_eq_map Plan.seen_iff).1 h.plans).trans ((forall₂_iff_eq_map Plan.seen_iff).1 h'.plans).symm
  have hrest := h.rest.trans h'.rest.symm
  simp only [Service.mk.injEq] at hrest
  obtain ⟨hid, hname, hdescription, htags, hrequires, hbindable, -, -, hupdateable, hclient, hmetadata, -⟩ := hrest
  rw [Service.mk.injEq]
  exact ⟨hid, hname, hdescription, htags, hrequires, hbindable, h.instancesRetrievable.unique h'.instancesRetrievable,
    h.bindingsRetrievable.unique h'.bindingsRetrievable, hupdateable, hclient, hmetadata, hplans⟩

theorem Service.seen_iff (s t : Service) : s.Seen v a t ↔ s.pruned v a = t :=
  ⟨s.seen_pruned.unique, fun h => h ▸ s.seen_pruned⟩

theorem Catalog.seen_iff (c d : Catalog) : c.Seen v a d ↔ c.pruned v a = d := by
  refine (forall₂_iff_eq_map Service.seen_iff).trans ?_
  rw [Catalog.pruned, ← Catalog.mk.injEq, eq_comm]

end Seen

/-! ## Looking up -/

section Found

variable (version : Version) (alpha : Bool)

/-- The first plan with an id is found at the same place: pruning keeps every id. -/
theorem Service.plan?_pruned (s : Service) (id : String) :
    (s.pruned version alpha).plan? id = (s.plan? id).map (Plan.pruned version alpha) :=
  List.find?_map

theorem Catalog.service?_pruned (c : Catalog) (id : String) :
    (c.pruned version alpha).service? id = (c.service? id).map (Service.pruned version alpha) :=
  List.find?_map

theorem rel_map_of_forall {see : β → γ → Prop} {f : β → γ} (h : ∀ x, see x (f x)) (found : Option β) :
    Option.Rel see found (found.map f) := by
  cases found with
  | none => exact .none
  | some x => exact .some (h x)

/-- Pruning gives the one catalog that a client sees: the same services with the same plans in the same order, less the
fields that are not open to it, and nothing else is changed. A service that is looked up in it is what the client sees
of the service that the whole catalog has for the id, and so is a plan that is looked up in that; where the whole
catalog has none, it has none. -/
theorem Catalog.pruned_exact (c : Catalog) :
    (∀ seen, c.Seen version alpha seen ↔ seen = c.pruned version alpha) ∧
    (∀ id, Option.Rel (Service.Seen version alpha) (c.service? id) ((c.pruned version alpha).service? id)) ∧
    ∀ id planId, Option.Rel (Plan.Seen version alpha) ((c.service? id).bind (·.plan? planId))
      (((c.pruned version alpha).service? id).bind (·.plan? planId)) := by
  refine ⟨fun seen => (c.seen_iff seen).trans eq_comm, fun id => ?_, fun id planId => ?_⟩
  · rw [service?_pruned]
    exact rel_map_of_forall Service.seen_pruned _
  · have hplan : ((c.pruned version alpha).service? id).bind (·.plan? planId) =
        ((c.service? id).bind (·.plan? planId)).map (Plan.pruned version alpha) := by
      rw [service?_pruned, Option.bind_map, Option.map_bind]
      congr 1
      funext s
      exact s.plan?_pruned version alpha planId
    rw [hplan]
    exact rel_map_of_forall Plan.seen_pruned _

end Found

/-! ## Pruning twice -/

section Gates

variable (v w bound : Version) (a b : Bool) (field : Option α)

/-- A field that is kept from a version on is kept by two clients if the older one keeps it. -/
theorem gated_by_version_twice :
    (if w < bound then none else if v < bound then none else field) = if min v w < bound then none else field := by
  by_cases hv : v < bound <;> by_cases hw : w < bound <;> simp [Version.min_lt_iff, hv, hw]

theorem gated_by_alpha_twice :
    (if b then (if a then field else none) else none) = if a && b then field else none := by
  cases a <;> cases b <;> rfl

end Gates

/-! ## Plans and services -/

theorem Plan.pruned_pruned (p : Plan) (v w : Version) (a b : Bool) :
    (p.pruned v a).pruned w b = p.pruned (min v w) (a && b) := by
  unfold Plan.pruned
  simp only [gated_by_version_twice, gated_by_alpha_twice]

theorem Plan.pruned_latest (p : Plan) : p.pruned .latest true = p := by
  unfold Plan.pruned
  simp only [Version.not_latest_lt, if_false, if_true]

theorem Service.pruned_pruned (s : Service) (v w : Version) (a b : Bool) :
    (s.pruned v a).pruned w b = s.pruned (min v w) (a && b) := by
  have hplans : (s.plans.map (Plan.pruned v a)).map (Plan.pruned w b) =
      s.plans.map (Plan.pruned (min v w) (a && b)) := by
    rw [List.map_map]
    exact List.map_congr_left fun p _ => p.pruned_pruned v w a b
  unfold Service.pruned
  simp only [gated_by_version_twice, hplans]

theorem Service.pruned_latest (s : Service) : s.pruned .latest true = s := by
  have hplans : s.plans.map (Plan.pruned .latest true) = s.plans :=
    List.map_id'' Plan.pruned_latest s.plans
  unfold Service.pruned
  simp only [Version.not_latest_lt, if_false, hplans]

/-! ## Catalogs -/

namespace Catalog

variable (c : Catalog) (v w : Version) (a b : Bool)

theorem pruned_pruned : (c.pruned v a).pruned w b = c.pruned (min v w) (a && b) := by
  unfold Catalog.pruned
  rw [List.map_map]
  congr 1
  exact List.map_congr_left fun s _ => s.pruned_pruned v w a b

theorem pruned_latest : c.pruned .latest true = c := by
  unfold Catalog.pruned
  rw [List.map_id'' Service.pruned_latest]

/-- A catalog with every field in it that some clients do not see. -/
def gated : Catalog :=
  let plan : Plan :=
    ⟨"p", "p", "p", some true, none, none, some ⟨none, none⟩, some ⟨some "2", none⟩, some 600, some true⟩
  ⟨[⟨"s", "s", "s", [], [], true, some true, some false, some true, none, none, [plan, { plan with id := "q" }]⟩]⟩

/-- Only the newest version with alpha features takes nothing away. -/
theorem sees_all_of_pruned_eq_self (h : ∀ c : Catalog, c.pruned v a = c) : v = .latest ∧ a = true := by
  have hgated := h gated
  revert hgated
  cases v <;> cases a <;> decide +kernel

/-- Two prunings are one, for the older version and for alpha features that both have; versions are compared by age.
Pruning again changes nothing, the order of prunings makes no difference, and a newer version gets nothing back that an
older one lost. The newest version with alpha features sees everything, and no other client does. -/
theorem pruned_meet :
    (c.pruned v a).pruned w b = c.pruned (min v w) (a && b) ∧
    (min v w).ordinal = min v.ordinal w.ordinal ∧
    (c.pruned v a).pruned v a = c.pruned v a ∧
    (c.pruned v a).pruned w b = (c.pruned w b).pruned v a ∧
    (v ≤ w → (c.pruned v a).pruned w b = c.pruned v (a && b)) ∧
    c.pruned .latest true = c ∧
    ((∀ other : Catalog, other.pruned v a = other) → v = .latest ∧ a = true) := by
  refine ⟨c.pruned_pruned v w a b, Version.ordinal_min v w, ?_, ?_, ?_, c.pruned_latest,
    sees_all_of_pruned_eq_self v a⟩
  · rw [pruned_pruned, Version.min_self, Bool.and_self]
  · rw [pruned_pruned, pruned_pruned, Version.min_comm, Bool.and_comm]
  · intro h
    rw [pruned_pruned, Version.min_eq_left h]

/-- The schemas that version 2.12 does not see are not given back to version 2.14. -/
theorem pruned_meet_gated :
    Version.v2_12 ≤ .v2_14 ∧ (gated.pruned .v2_12 true).pruned .v2_14 true = gated.pruned .v2_12 true ∧
    gated.pruned .v2_12 true ≠ gated.pruned .v2_14 true := by
  have hle : Version.v2_12 ≤ .v2_14 := by decide
  obtain ⟨_, _, _, _, hnewer, _⟩ := pruned_meet gated .v2_12 .v2_14 true true
  exact ⟨hle, hnewer hle, by decide +kernel⟩

end Catalog

end ServiceBroker
