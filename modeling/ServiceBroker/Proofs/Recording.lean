/-
What a stand-in writes down. Each call is written down as it was made and answered by the setting of its endpoint
(`perform_eq`). Copies can be made of a stand-in and of its copies, and all of them write into the log of the original
that they come from. Whatever is done with any number of copies, in any order, each of them shows the calls that were
made on its kin since their log was cleared, and answers as the original was told to (`recorded_run`).
-/
import Mathlib.Data.List.DropRight
import Mathlib.Logic.Function.Basic
import ServiceBroker.Fake

namespace ServiceBroker.Fake

/-! ## Settings -/

/-- The wiring of a stand-in: every call is written down as it was made, and is answered by the setting of its own
endpoint. -/
theorem perform_eq (f : Fake) (log : List Call) (call : Call) :
    f.perform log call = react log call (f.reaction call.endpoint) call.request := by
  obtain ⟨endpoint, request⟩ := call
  cases endpoint <;> rfl

theorem use_call (f : Fake) (log : List Call) (call : Call) :
    f.use log (.call call) =
      (.answer call
        (match f.reaction call.endpoint with
          | some react => react call.request
          | none => .error (.invalidRequest .unexpectedCall)), log ++ [call]) := by
  rw [use, perform_eq]
  cases f.reaction call.endpoint <;> rfl

@[simp]
theorem use_look (f : Fake) (log : List Call) : f.use log .look = (.calls log, log) := rfl

@[simp]
theorem use_clear (f : Fake) (log : List Call) : f.use log .clear = (.cleared, []) := rfl

/-! ## Copies -/

/-- A copy of a stand-in: how it answers, and the original whose log it shares. An original is its own first copy. -/
structure Copy where
  fake : Fake
  original : Nat

/-- All copies, in the order in which they were made, and the logs of the originals. -/
structure Scene where
  copies : List Copy
  originals : Nat
  log : Nat → List Call

/-- What can be done: an original is made, a copy is copied, or a copy is used. -/
inductive Deed
  | make (f : Fake)
  | copy (k : Nat)
  | use (k : Nat) (u : Use)

/-- The deed adds a copy. -/
def Deed.adds : Deed → Bool
  | .make _ | .copy _ => true
  | .use .. => false

namespace Scene

/-- Nothing has been made yet. -/
def bare : Scene := ⟨[], 0, fun _ => []⟩

/-- The scene behind a deed. Only a copy that exists can be copied or used. -/
def step (s : Scene) : Deed → Option Scene
  | .make f => some ⟨s.copies ++ [⟨f, s.originals⟩], s.originals + 1, Function.update s.log s.originals []⟩
  | .copy k => s.copies[k]?.map fun c => { s with copies := s.copies ++ [c] }
  | .use k u => s.copies[k]?.map fun c =>
      { s with log := Function.update s.log c.original (c.fake.use (s.log c.original) u).2 }

/-- The scene behind deeds that are done one after another. -/
def run (s : Scene) (deeds : List Deed) : Option Scene :=
  deeds.foldlM step s

/-- What a use of a copy shows. -/
def shows (s : Scene) (k : Nat) (u : Use) : Option Shown :=
  s.copies[k]?.map fun c => (c.fake.use (s.log c.original) u).1

/-- The original that a copy comes from. -/
def original? (s : Scene) (k : Nat) : Option Nat :=
  s.copies[k]?.map Copy.original

/-! ## Histories -/

/-- The deed clears the log of an original. -/
def clears (s : Scene) (n : Nat) : Deed → Bool
  | .use k .clear => s.original? k == some n
  | _ => false

/-- The call that a deed makes on a copy of an original. -/
def callOn (s : Scene) (n : Nat) : Deed → Option Call
  | .use k (.call c) => if s.original? k = some n then some c else none
  | _ => none

/-- The calls that were made on copies of an original since its log was cleared, or at all if it never was. -/
def callsSince (s : Scene) (n : Nat) (deeds : List Deed) : List Call :=
  (deeds.rtakeWhile fun d => !s.clears n d).filterMap (s.callOn n)

variable {s s' t : Scene} {d : Deed} {deeds before after : List Deed} {k n : Nat} {c : Copy}

theorem callsSince_add (h : d.adds = true) : s.callsSince n (deeds ++ [d]) = s.callsSince n deeds := by
  unfold callsSince
  cases d with
  | make f => simp [clears, callOn]
  | copy k => simp [clears, callOn]
  | use k u => cases h

/-- The history of an original goes on as its log does: only by what is done with its copies. -/
theorem callsSince_use (f : Fake) (h : s.original? k = some n) (m : Nat) (u : Use) :
    s.callsSince m (deeds ++ [.use k u]) =
      if m = n then (f.use (s.callsSince m deeds) u).2 else s.callsSince m deeds := by
  have hn : s.original? k = some m ↔ m = n := by
    rw [h, Option.some.injEq]
    exact eq_comm
  unfold callsSince
  cases u with
  | call call =>
    by_cases hm : m = n
    · simp [clears, callOn, hm, use_call, h]
    · simp [clears, callOn, hn, hm]
  | look => simp [clears, callOn]
  | clear =>
    by_cases hm : m = n
    · simp [clears, hm, h]
    · simp [clears, callOn, hn, hm]

/-! ## Runs -/

theorem run_append (before after : List Deed) :
    s.run (before ++ after) = some s' ↔ ∃ t, s.run before = some t ∧ t.run after = some s' := by
  unfold run
  rw [List.foldlM_append]
  exact Option.bind_eq_some_iff

theorem run_concat (before : List Deed) (d : Deed) :
    s.run (before ++ [d]) = some s' ↔ ∃ t, s.run before = some t ∧ t.step d = some s' := by
  rw [run_append]
  simp [run]

theorem run_cons (d : Deed) (after : List Deed) :
    s.run (d :: after) = some s' ↔ ∃ t, s.step d = some t ∧ t.run after = some s' := by
  unfold run
  rw [List.foldlM_cons]
  exact Option.bind_eq_some_iff

/-- Copies stay what they are. -/
theorem copies_step (h : s.step d = some s') : s.copies <+: s'.copies := by
  cases d with
  | make f =>
    cases h
    exact List.prefix_append ..
  | copy k =>
    obtain ⟨c, _, rfl⟩ := Option.map_eq_some_iff.1 h
    exact List.prefix_append ..
  | use k u =>
    obtain ⟨c, _, rfl⟩ := Option.map_eq_some_iff.1 h
    exact List.prefix_rfl

theorem copies_run (h : s.run deeds = some s') : s.copies <+: s'.copies := by
  induction deeds using List.reverseRecOn generalizing s' with
  | nil =>
    cases h
    exact List.prefix_rfl
  | append_singleton before d ih =>
    obtain ⟨t, hr, hs⟩ := (run_concat before d).1 h
    exact (ih hr).trans (copies_step hs)

theorem copy_of_prefix (h : s.copies <+: s'.copies) (hk : s.copies[k]? = some c) : s'.copies[k]? = some c := by
  obtain ⟨more, hmore⟩ := h
  obtain ⟨hlt, _⟩ := List.getElem?_eq_some_iff.1 hk
  rw [← hmore, List.getElem?_append_left hlt]
  exact hk

theorem length_step (h : s.step d = some s') : s'.copies.length = s.copies.length + [d].countP Deed.adds := by
  cases d with
  | make f =>
    cases h
    simp [Deed.adds]
  | copy k =>
    obtain ⟨c, _, rfl⟩ := Option.map_eq_some_iff.1 h
    simp [Deed.adds]
  | use k u =>
    obtain ⟨c, _, rfl⟩ := Option.map_eq_some_iff.1 h
    simp [Deed.adds]

theorem length_run (h : bare.run deeds = some s) : s.copies.length = deeds.countP Deed.adds := by
  induction deeds using List.reverseRecOn generalizing s with
  | nil =>
    cases h
    rfl
  | append_singleton before d ih =>
    obtain ⟨t, hr, hs⟩ := (run_concat before d).1 h
    rw [length_step hs, ih hr, List.countP_append]

/-- Copies come from originals that were made, and an original that was not made yet has an empty log. -/
structure Sound (s : Scene) : Prop where
  made : ∀ c ∈ s.copies, c.original < s.originals
  fresh : ∀ n, s.originals ≤ n → s.log n = []

theorem Sound.step (hs : s.Sound) (h : s.step d = some s') : s'.Sound := by
  cases d with
  | make f =>
    cases h
    constructor
    · intro c hc
      rcases List.mem_append.1 hc with hc | hc
      · exact Nat.lt_succ_of_lt (hs.made c hc)
      · obtain rfl := List.mem_singleton.1 hc
        exact Nat.lt_succ_self _
    · intro n hn
      show Function.update s.log s.originals [] n = []
      rw [Function.update_of_ne (Nat.ne_of_gt hn)]
      exact hs.fresh n (Nat.le_of_succ_le hn)
  | copy k =>
    obtain ⟨c, hk, rfl⟩ := Option.map_eq_some_iff.1 h
    refine ⟨?_, hs.fresh⟩
    intro c' hc
    rcases List.mem_append.1 hc with hc | hc
    · exact hs.made c' hc
    · obtain rfl := List.mem_singleton.1 hc
      exact hs.made c' (List.mem_of_getElem? hk)
  | use k u =>
    obtain ⟨c, hk, rfl⟩ := Option.map_eq_some_iff.1 h
    refine ⟨hs.made, ?_⟩
    intro n hn
    have hlt := hs.made c (List.mem_of_getElem? hk)
    have hne : n ≠ c.original := Nat.ne_of_gt (Nat.lt_of_lt_of_le hlt hn)
    show Function.update s.log c.original _ n = []
    rw [Function.update_of_ne hne]
    exact hs.fresh n hn

theorem Sound.run (h : bare.run deeds = some s) : s.Sound := by
  induction deeds using List.reverseRecOn generalizing s with
  | nil =>
    cases h
    exact ⟨fun c hc => absurd hc List.not_mem_nil, fun n _ => rfl⟩
  | append_singleton before d ih =>
    obtain ⟨t, hr, hs⟩ := (run_concat before d).1 h
    exact (ih hr).step hs

/-! ## Logs -/

/-- One deed changes the logs as it changes the histories. Whose copy is whose is asked of a later scene `t`. -/
theorem log_step (hs : s.Sound) (ht : s'.copies <+: t.copies) (hlog : ∀ n, s.log n = t.callsSince n deeds)
    (h : s.step d = some s') : ∀ n, s'.log n = t.callsSince n (deeds ++ [d]) := by
  intro n
  cases d with
  | make f =>
    cases h
    rw [callsSince_add rfl, ← hlog]
    show Function.update s.log s.originals [] n = s.log n
    by_cases hn : n = s.originals
    · rw [hn, Function.update_self, hs.fresh _ (Nat.le_refl _)]
    · exact Function.update_of_ne hn ..
  | copy k =>
    obtain ⟨c, _, rfl⟩ := Option.map_eq_some_iff.1 h
    rw [callsSince_add rfl, ← hlog]
  | use k u =>
    obtain ⟨c, hk, rfl⟩ := Option.map_eq_some_iff.1 h
    have horiginal : t.original? k = some c.original := by
      rw [original?, copy_of_prefix ht hk]
      rfl
    rw [callsSince_use c.fake horiginal, ← hlog]
    show Function.update s.log c.original (c.fake.use (s.log c.original) u).2 n = _
    by_cases hn : n = c.original
    · rw [hn, Function.update_self, if_pos rfl]
    · rw [Function.update_of_ne hn, if_neg hn]

/-- Behind every run the logs are the histories. -/
theorem log_run (h : bare.run deeds = some s) (n : Nat) : s.log n = s.callsSince n deeds := by
  -- the induction is on what has been done so far; the scene in the end says whose copy is whose
  suffices ∀ t : Scene, s.copies <+: t.copies → ∀ n, s.log n = t.callsSince n deeds from this s List.prefix_rfl n
  intro t ht
  induction deeds using List.reverseRecOn generalizing s with
  | nil =>
    cases h
    intro n
    rfl
  | append_singleton before d ih =>
    obtain ⟨s₀, hr, hs⟩ := (run_concat before d).1 h
    exact log_step (Sound.run hr) ht (ih hr ((copies_step hs).trans ht)) hs

/-! ## Origins -/

/-- A new original has a log of its own. -/
theorem made_of_run {f : Fake} (h : bare.run (before ++ .make f :: after) = some s) :
    ∃ c, s.copies[before.countP Deed.adds]? = some c ∧ c.fake = f ∧
      ∀ j < before.countP Deed.adds, s.original? j ≠ some c.original := by
  obtain ⟨s₀, hr, h⟩ := (run_append before _).1 h
  obtain ⟨s₁, hs, hrest⟩ := (run_cons _ after).1 h
  cases hs
  have hprefix := copies_run hrest
  rw [← length_run hr]
  refine ⟨⟨f, s₀.originals⟩, copy_of_prefix hprefix (List.getElem?_concat_length ..), rfl, ?_⟩
  intro j hj
  have hnow := copy_of_prefix ((List.prefix_append ..).trans hprefix) (List.getElem?_eq_getElem hj)
  have hlt := (Sound.run hr).made _ (List.getElem_mem hj)
  simp only [original?, hnow, Option.map_some, ne_eq, Option.some.injEq]
  omega

/-- A copy answers and writes as what it was copied from. -/
theorem copied_of_run (h : bare.run (before ++ .copy k :: after) = some s) :
    ∃ c, s.copies[k]? = some c ∧ s.copies[before.countP Deed.adds]? = some c := by
  obtain ⟨s₀, hr, h⟩ := (run_append before _).1 h
  obtain ⟨s₁, hs, hrest⟩ := (run_cons _ after).1 h
  obtain ⟨c, hk, rfl⟩ := Option.map_eq_some_iff.1 hs
  have hprefix := copies_run hrest
  rw [← length_run hr]
  exact ⟨c, copy_of_prefix ((List.prefix_append ..).trans hprefix) hk,
    copy_of_prefix hprefix (List.getElem?_concat_length ..)⟩

/-- What the copies show behind deeds that were done one after another. -/
structure Recorded (deeds : List Deed) (s : Scene) : Prop where
  /-- An original is a copy that shares its log with no earlier copy. -/
  made : ∀ before f after, deeds = before ++ .make f :: after →
    ∃ c, s.copies[before.countP Deed.adds]? = some c ∧ c.fake = f ∧
      ∀ j < before.countP Deed.adds, s.original? j ≠ some c.original
  /-- A copy is like what it was copied from, and shares its log. -/
  copied : ∀ before k after, deeds = before ++ .copy k :: after →
    ∃ c, s.copies[k]? = some c ∧ s.copies[before.countP Deed.adds]? = some c
  /-- The log shows every call on any copy of the same original since it was cleared, oldest first, and no other. -/
  log : ∀ k c, s.copies[k]? = some c → s.shows k .look = some (.calls (s.callsSince c.original deeds))
  /-- A call is answered by the reaction to its endpoint, and refused if there is none. -/
  answer : ∀ k c (call : Call), s.copies[k]? = some c →
    s.shows k (.call call) = some (.answer call
      (match c.fake.reaction call.endpoint with
        | some react => react call.request
        | none => .error (.invalidRequest .unexpectedCall)))
  /-- Nothing but a copy is needed to use it. -/
  usable : ∀ k c u, s.copies[k]? = some c → (s.step (.use k u)).isSome = true

/-- Whatever originals are made and copied, and in whatever order the copies are called, looked at and cleared. -/
theorem recorded_run (deeds : List Deed) (s : Scene) (h : bare.run deeds = some s) : Recorded deeds s := by
  constructor
  · rintro before f after rfl
    exact made_of_run h
  · rintro before k after rfl
    exact copied_of_run h
  · intro k c hk
    rw [← log_run h, shows, hk]
    rfl
  · intro k c call hk
    rw [shows, hk, Option.map_some, use_call]
  · intro k c u hk
    rw [step, hk]
    rfl

/-- A copy of a stand-in that answers a call for the catalog and no other one. -/
def catalogOnly : Fake where
  catalog := some fun _ => .ok ⟨[]⟩

/-- Two originals, and a copy of the first. Both copies of the first are called before and after the log is cleared. -/
def threeCopies : List Deed :=
  [.make catalogOnly, .make catalogOnly, .copy 0, .use 0 (.call ⟨.getCatalog, ()⟩), .use 2 .clear,
    .use 2 (.call ⟨.checkAvailability, ()⟩), .use 1 (.call ⟨.getCatalog, ()⟩), .use 0 (.call ⟨.getCatalog, ()⟩)]

/-- The first copy shows the call that was refused to the third one, and then its own. -/
theorem recorded_run_threeCopies : ∃ s, bare.run threeCopies = some s ∧
    s.shows 0 .look = some (.calls [⟨.checkAvailability, ()⟩, ⟨.getCatalog, ()⟩]) ∧
    s.shows 1 .look = some (.calls [⟨.getCatalog, ()⟩]) ∧
    s.shows 2 (.call ⟨.checkAvailability, ()⟩) =
      some (.answer ⟨.checkAvailability, ()⟩ (.error (.invalidRequest .unexpectedCall))) := by
  refine ⟨_, rfl, ?_⟩
  have hrecorded := recorded_run threeCopies _ rfl
  exact ⟨hrecorded.log 0 _ rfl, hrecorded.log 1 _ rfl, hrecorded.answer 2 _ ⟨.checkAvailability, ()⟩ rfl⟩

end Scene

end ServiceBroker.Fake
