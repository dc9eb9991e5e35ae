/-
What every draw gives, whatever the dice show. A draw may give up, but what it gives has the properties that it is made
for (`Draw.Yields`), and these are put together as draws are: step by step. So numbers stay below their bound, the
numbers of a sample differ (`sample_yields`, by induction on the ranges that add a number each), and identifiers have
their groups of digits.
-/
import ServiceBroker.Random
import Mathlib.Algebra.GroupWithZero.Nat
import Mathlib.Data.List.Perm.Basic

namespace ServiceBroker.Random

variable {α β : Type}

/-! ## Draws step by step -/

/-- Whatever a draw gives has a property. -/
def Draw.Yields (draw : Draw α) (P : α → Prop) : Prop :=
  ∀ dice position a position', draw.from? dice position = some (a, position') → P a

namespace Draw

variable {draw : Draw α} {P : α → Prop}

theorem from?_bind (draw : Draw α) (f : α → Draw β) (dice : Dice) (position : Nat) :
    (draw >>= f).from? dice position =
      (draw.from? dice position).bind fun result => (f result.1).from? dice result.2 :=
  rfl

theorem yields_true (draw : Draw α) : draw.Yields fun _ => True :=
  fun _ _ _ _ _ => trivial

theorem yields_pure {a : α} (h : P a) : Yields (pure a) P := by
  intro dice position a' position' ha
  cases ha
  exact h

theorem Yields.bind {Q : β → Prop} {f : α → Draw β} (h : draw.Yields P) (hf : ∀ a, P a → (f a).Yields Q) :
    (draw >>= f).Yields Q := by
  intro dice position b position' hb
  rw [from?_bind] at hb
  obtain ⟨⟨a, between⟩, ha, hb⟩ := Option.bind_eq_some_iff.1 hb
  exact hf a (h dice position a between ha) dice between b position' hb

end Draw

open Draw

/-! ## Numbers -/

theorem next32_yields : next32.Yields (· < 0x100000000) := by
  refine (yields_true next).bind ?_
  rintro word -
  apply yields_pure
  have hword := word.toNat_lt
  omega

/-- A half word stands for a number below the bound. -/
theorem lt_of_scale? {n v i : Nat} (hn : 0 < n) (hv : v < 0x100000000) (h : scale? n v = some i) : i < n := by
  unfold scale? at h
  dsimp only at h
  split at h
  · -- the upper half of the product with `n`, which is less than `n` upper halves
    obtain rfl := Option.some.inj h
    rw [Nat.div_lt_iff_lt_mul (by decide), Nat.mul_comm n]
    exact Nat.mul_lt_mul_of_pos_right hv hn
  · cases h

theorem belowWithin_yields {n : Nat} (hn : 0 < n) (tries : Nat) : (belowWithin n tries).Yields (· < n) := by
  induction tries with
  | zero =>
    intro dice position i position' h
    cases h
  | succ tries ih =>
    refine next32_yields.bind ?_
    intro v hv
    split
    · next i hi => exact yields_pure (lt_of_scale? hn hv hi)
    · exact ih

theorem below_yields {n : Nat} (hn : 0 < n) : (below n).Yields (· < n) :=
  (yields_true read).bind fun dice _ => belowWithin_yields hn dice.patience

/-! ## Samples -/

/-- Different numbers below a bound, and how many. -/
structure Sampled (bound count : Nat) (l : List Nat) : Prop where
  nodup : l.Nodup
  lt : ∀ i ∈ l, i < bound
  length : l.length = count

theorem Sampled.perm {bound count : Nat} {l l' : List Nat} (h : Sampled bound count l) (hp : l'.Perm l) :
    Sampled bound count l' where
  nodup := hp.nodup_iff.2 h.nodup
  lt := fun i hi => h.lt i (hp.mem_iff.1 hi)
  length := hp.length_eq.trans h.length

theorem Sampled.cons {top count i : Nat} {l : List Nat} (h : Sampled top count l) (hi : i < top + 1) (hnew : i ∉ l) :
    Sampled (top + 1) (count + 1) (i :: l) := by
  constructor
  · exact List.nodup_cons.2 ⟨hnew, h.nodup⟩
  · rintro j (_ | ⟨_, hj⟩)
    · exact hi
    · exact Nat.lt_succ_of_lt (h.lt j hj)
  · rw [List.length_cons, h.length]

theorem insertBefore_perm {old new : Nat} {l : List Nat} (h : old ∈ l) : (insertBefore old new l).Perm (new :: l) := by
  induction l with
  | nil => cases h
  | cons i rest ih =>
    unfold insertBefore
    split
    · exact .refl _
    · next hi =>
      have hmem : old ∈ rest := (List.mem_cons.1 h).resolve_left (Ne.symm hi)
      exact ((ih hmem).cons i).trans (.swap new i rest)

/-- One range: either the number drawn is new, or the top of the range is, since all numbers so far are below it. -/
theorem Sampled.enter {top count drawn : Nat} {l : List Nat} (h : Sampled top count l) (hdrawn : drawn < top + 1) :
    Sampled (top + 1) (count + 1) (enter l top drawn) := by
  unfold Random.enter
  split
  · next hmem =>
    have htop : top ∉ l := fun htop => Nat.lt_irrefl top (h.lt top htop)
    exact (h.cons (Nat.lt_succ_self top) htop).perm (insertBefore_perm hmem)
  · next hmem => exact (h.cons hdrawn hmem).perm (List.perm_append_singleton drawn l)

/-- The ranges from a place on add one number each. -/
theorem foldlM_enter_yields (amount : Nat) {top count : Nat} {l : List Nat} (h : Sampled top count l) :
    ((List.range' top amount).foldlM
      (fun chosen top => do return enter chosen top (← below (top + 1))) l : Draw (List Nat)).Yields
      (Sampled (top + amount) (count + amount)) := by
  induction amount generalizing top count l with
  | zero => exact yields_pure h
  | succ amount ih =>
    rw [List.range'_succ, List.foldlM_cons, Nat.add_comm amount 1, ← Nat.add_assoc, ← Nat.add_assoc]
    -- after the first range there is one number more, and the bound is one more
    refine Yields.bind (P := Sampled (top + 1) (count + 1)) ?_ fun l' hl' => ih hl'
    refine (below_yields (Nat.succ_pos top)).bind ?_
    intro drawn hdrawn
    apply yields_pure
    exact h.enter hdrawn

theorem sample_yields {length amount : Nat} (h : amount ≤ length) :
    (sample length amount).Yields (Sampled length amount) := by
  have hempty : Sampled (length - amount) 0 [] := ⟨.nil, nofun, rfl⟩
  have hfold := foldlM_enter_yields amount hempty
  rwa [Nat.sub_add_cancel h, Nat.zero_add] at hfold

/-! ## Identifiers -/

theorem repeated_yields (draw : Draw α) (n : Nat) : (repeated draw n).Yields fun l => l.length = n := by
  induction n with
  | zero => exact yields_pure rfl
  | succ n ih =>
    refine (yields_true draw).bind ?_
    rintro a -
    refine ih.bind ?_
    intro l hl
    apply yields_pure
    rw [List.length_cons, hl]

/-- The lower-case hexadecimal digits. -/
def guidDigits : List Char := "0123456789abcdef".toList

/-- An identifier has 36 characters: five groups of digits with hyphens between them. -/
structure IsGuid (text : String) : Prop where
  length : text.length = 36
  layout : ∃ groups : List (List Char), groups.map List.length = [8, 4, 4, 4, 12] ∧
    (∀ g ∈ groups, ∀ c ∈ g, c ∈ guidDigits) ∧ text.toList = ['-'].intercalate groups

theorem mem_of_mem_hexDigits {b : UInt8} {c : Char} (h : c ∈ hexDigits b) : c ∈ guidDigits := by
  have hdigit : ∀ n < 16, Numeral.lowerHex n ∈ guidDigits := by decide
  have hb := b.toNat_lt
  rcases h with _ | ⟨_, _ | ⟨_, h⟩⟩
  · exact hdigit _ (by omega)
  · exact hdigit _ (by omega)
  · cases h

theorem length_flatMap_hexDigits (bytes : List UInt8) : (bytes.flatMap hexDigits).length = 2 * bytes.length := by
  induction bytes with
  | nil => rfl
  | cons b bytes ih =>
    rw [List.flatMap_cons, List.length_append, ih, List.length_cons]
    show 2 + _ = _
    omega

theorem length_grouped (lengths : List Nat) (digits : List Char) :
    (grouped lengths digits).length = digits.length + lengths.length := by
  induction lengths generalizing digits with
  | nil => rfl
  | cons n lengths ih =>
    unfold grouped
    rw [List.length_append, List.length_cons, ih, List.length_take, List.length_drop, List.length_cons]
    omega

/-- Digits are cut into groups of the lengths that are asked for, and what is left is the last group. -/
theorem exists_groups (lengths : List Nat) (digits : List Char) (h : lengths.sum ≤ digits.length) :
    ∃ groups : List (List Char), groups.map List.length = lengths ++ [digits.length - lengths.sum] ∧
      groups.flatten = digits ∧ grouped lengths digits = ['-'].intercalate groups := by
  induction lengths generalizing digits with
  | nil => exact ⟨[digits], rfl, List.append_nil digits, by simp [grouped]⟩
  | cons n lengths ih =>
    rw [List.sum_cons] at h
    have hrest : lengths.sum ≤ (digits.drop n).length := by
      rw [List.length_drop]
      omega
    obtain ⟨groups, hlengths, hflatten, hgrouped⟩ := ih (digits.drop n) hrest
    -- a hyphen stands in front of the other groups, so there has to be one
    have hne : groups ≠ [] := by
      rintro rfl
      simp at hlengths
    refine ⟨digits.take n :: groups, ?_, ?_, ?_⟩
    · rw [List.map_cons, hlengths, List.length_take, List.length_drop, List.sum_cons, Nat.min_eq_left (by omega),
        Nat.sub_sub]
      rfl
    · rw [List.flatten_cons, hflatten, List.take_append_drop]
    · unfold grouped
      rw [hgrouped]
      cases groups with
      | nil => exact absurd rfl hne
      | cons g groups => simp [List.intercalate]

theorem guid_yields : guid.Yields IsGuid := by
  refine (repeated_yields byte 16).bind ?_
  intro bytes hbytes
  apply yields_pure
  have hlength : (bytes.flatMap hexDigits).length = 32 := by rw [length_flatMap_hexDigits, hbytes]
  obtain ⟨groups, hlengths, hflatten, hgrouped⟩ :=
    exists_groups [8, 4, 4, 4] (bytes.flatMap hexDigits) (by simp [hlength])
  constructor
  · rw [String.length_ofList, length_grouped, hlength]
    rfl
  · refine ⟨groups, ?_, ?_, ?_⟩
    · rw [hlengths, hlength]
      rfl
    · intro g hg c hc
      have hmem : c ∈ bytes.flatMap hexDigits := hflatten ▸ List.mem_flatten.2 ⟨g, hg, hc⟩
      obtain ⟨b, -, hb⟩ := List.mem_flatMap.1 hmem
      exact mem_of_mem_hexDigits hb
    · rw [String.toList_ofList, hgrouped]

end ServiceBroker.Random
