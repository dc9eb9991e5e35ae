/-
Printed doubles are numbers. A decimal that is not zero is written with digits that begin with no zero, or with
one that stands alone in front of the point, and with an exponent where it has one (`spells_number`).
-/
import ServiceBroker.Proofs.Decimal.Shortest
import ServiceBroker.Proofs.Json.Rendering

namespace ServiceBroker.Json

/-! ## Parts of a number -/

/-- Bytes spell a number without its sign. -/
def SpellsMagnitude (bytes : List UInt8) : Prop :=
  ∃ ws fs es whole fraction exponent, bytes = ws ++ fs ++ es ∧ SpellsWhole ws whole ∧
    SpellsFraction fs fraction ∧ SpellsExponent es exponent

theorem SpellsMagnitude.unsigned {bytes : List UInt8} (h : SpellsMagnitude bytes) :
    ∃ value, Spells bytes (.number value) := by
  obtain ⟨ws, fs, es, whole, fraction, exponent, rfl, hw, hf, he⟩ := h
  exact ⟨_, .number (.unsigned hw hf he)⟩

theorem SpellsMagnitude.minus {bytes : List UInt8} (h : SpellsMagnitude bytes) :
    ∃ value, Spells (45 :: bytes) (.number value) := by
  obtain ⟨ws, fs, es, whole, fraction, exponent, rfl, hw, hf, he⟩ := h
  exact ⟨_, .number (.minus hw hf he)⟩

theorem digitBytes_append (ds ds' : List Nat) : digitBytes (ds ++ ds') = digitBytes ds ++ digitBytes ds' :=
  List.map_append

theorem spellsWhole_cons {d : Nat} {ds : List Nat} (h0 : d ≠ 0) (h : ∀ n ∈ d :: ds, n < 10) :
    SpellsWhole (digitBytes (d :: ds)) (d :: ds) :=
  .figures h0 ⟨List.cons_ne_nil d ds, h⟩

/-! ## Decimals -/

variable {d : Nat} {ds : List Nat}

theorem figures_zero : Figures [0] :=
  ⟨List.cons_ne_nil 0 [], by simp⟩

theorem bytesOf_zeros (n : Nat) : bytesOf (List.replicate n '0') = digitBytes (List.replicate n 0) := by
  have hmap : List.replicate n '0' = (List.replicate n 0).map Nat.digitChar := by
    rw [List.map_replicate]
    rfl
  rw [hmap, bytesOf_map_digitChar]
  intro m hm
  rw [(List.mem_replicate.1 hm).2]
  decide

/-- Zeros behind the digits, and one behind the point. -/
theorem spellsMagnitude_whole (h0 : d ≠ 0) (h : ∀ n ∈ d :: ds, n < 10) (zeros : Nat) :
    SpellsMagnitude
      (bytesOf ((d :: ds).map Nat.digitChar ++ List.replicate zeros '0' ++ ['.', '0'])) := by
  have hall : ∀ n ∈ d :: (ds ++ List.replicate zeros 0), n < 10 := by
    intro n hn
    rw [← List.cons_append] at hn
    rcases List.mem_append.1 hn with hn | hn
    · exact h n hn
    · rw [(List.mem_replicate.1 hn).2]
      decide
  refine ⟨_, _, [], _, _, _, ?_, spellsWhole_cons h0 hall, .present figures_zero, .absent⟩
  rw [bytesOf_append, bytesOf_append, bytesOf_map_digitChar h, bytesOf_zeros, ← List.cons_append, digitBytes_append,
    List.append_nil]
  rfl

/-- A point between the digits. -/
theorem spellsMagnitude_point (h0 : d ≠ 0) (h : ∀ n ∈ d :: ds, n < 10) {k : Nat} (hk : k < ds.length) :
    SpellsMagnitude (bytesOf (((d :: ds).map Nat.digitChar).take (k + 1) ++
      '.' :: ((d :: ds).map Nat.digitChar).drop (k + 1))) := by
  have htake : ∀ n ∈ d :: ds.take k, n < 10 := fun n hn => h n (by
    rcases List.mem_cons.1 hn with rfl | hn
    · exact List.mem_cons_self ..
    · exact List.mem_cons_of_mem _ (List.mem_of_mem_take hn))
  have hdrop : ∀ n ∈ ds.drop k, n < 10 := fun n hn => h n (List.mem_cons_of_mem _ (List.mem_of_mem_drop hn))
  have hne : ds.drop k ≠ [] := by
    intro hnil
    have hlength := congrArg List.length hnil
    rw [List.length_drop, List.length_nil] at hlength
    omega
  refine ⟨_, _, [], _, _, _, ?_, spellsWhole_cons h0 htake, .present ⟨hne, hdrop⟩, .absent⟩
  rw [← List.map_take, ← List.map_drop, List.take_succ_cons, List.drop_succ_cons, bytesOf_append, bytesOf_cons,
    bytesOf_map_digitChar htake, bytesOf_map_digitChar hdrop, List.append_nil]
  rfl

/-- A zero in front of the point, and zeros in front of the digits. -/
theorem spellsMagnitude_zero (h : Figures ds) (zeros : Nat) :
    SpellsMagnitude (bytesOf ('0' :: '.' :: List.replicate zeros '0' ++ ds.map Nat.digitChar)) := by
  have hall : Figures (List.replicate zeros 0 ++ ds) := by
    refine ⟨fun hnil => h.1 (List.append_eq_nil_iff.1 hnil).2, fun n hn => ?_⟩
    rcases List.mem_append.1 hn with hn | hn
    · rw [(List.mem_replicate.1 hn).2]
      decide
    · exact h.2 n hn
  refine ⟨_, _, [], _, _, _, ?_, .zero, .present hall, .absent⟩
  rw [List.cons_append, List.cons_append, bytesOf_cons, bytesOf_cons, bytesOf_append, bytesOf_zeros,
    bytesOf_map_digitChar h.2, digitBytes_append, List.append_nil]
  rfl

theorem spellsExponent {sign : Char} (hsign : sign = '+' ∨ sign = '-') (n : Nat) :
    ∃ exponent, SpellsExponent (bytesOf ('e' :: sign :: digits n)) exponent := by
  have hn := figures_spec n
  rw [bytesOf_cons, bytesOf_cons, bytesOf_digits]
  rcases hsign with rfl | rfl
  · exact ⟨_, .plus (.inl rfl) hn⟩
  · exact ⟨_, .minus (.inl rfl) hn⟩

/-- One digit in front of the point, which is left out if there are no more, and an exponent. -/
theorem spellsMagnitude_exponent (h0 : d ≠ 0) (h : ∀ n ∈ d :: ds, n < 10) {sign : Char}
    (hsign : sign = '+' ∨ sign = '-') (n : Nat) :
    SpellsMagnitude (bytesOf ((match (d :: ds).map Nat.digitChar with
      | [] | [_] => (d :: ds).map Nat.digitChar
      | c :: rest => c :: '.' :: rest) ++ 'e' :: sign :: digits n)) := by
  obtain ⟨exponent, he⟩ := spellsExponent hsign n
  obtain ⟨hd, hds⟩ := List.forall_mem_cons.1 h
  have hfirst : ∀ n ∈ [d], n < 10 := by simpa using hd
  rw [bytesOf_append]
  cases ds with
  | nil =>
    refine ⟨_, [], _, _, _, _, ?_, spellsWhole_cons h0 hfirst, .absent, he⟩
    rw [List.append_nil, ← bytesOf_map_digitChar hfirst]
    rfl
  | cons d' ds =>
    refine ⟨_, _, _, _, _, _, ?_, spellsWhole_cons h0 hfirst, .present ⟨List.cons_ne_nil d' ds, hds⟩, he⟩
    change bytesOf ([d].map Nat.digitChar ++ '.' :: (d' :: ds).map Nat.digitChar) ++ _ = _
    rw [bytesOf_append, bytesOf_cons, bytesOf_map_digitChar hfirst, bytesOf_map_digitChar hds]
    rfl

theorem spellsMagnitude_scientific {x : Decimal.Scientific} (hx : x.digits ≠ 0) :
    SpellsMagnitude (bytesOf (renderScientific x)) := by
  obtain ⟨d, ds, hfigures, h0⟩ := head_figures hx
  have hspec := figures_spec x.digits
  have hdigits : digits x.digits = (d :: ds).map Nat.digitChar := by rw [digits_eq, hfigures]
  rw [hfigures] at hspec
  unfold renderScientific
  dsimp only
  rw [hdigits, List.length_map, List.length_cons]
  split_ifs with hplain hwhole hpoint hsign
  · exact spellsMagnitude_whole h0 hspec.2 _
  · -- The exponent is negative, so a digit is left behind the point.
    exact spellsMagnitude_point h0 hspec.2 (by omega)
  · exact spellsMagnitude_zero hspec _
  · exact spellsMagnitude_exponent h0 hspec.2 (.inl rfl) _
  · exact spellsMagnitude_exponent h0 hspec.2 (.inr rfl) _

/-! ## Numbers -/

/-- Whatever a number is, its text spells one. -/
theorem spells_number (n : Number) : ∃ value, Spells (bytesOf (renderNumber n)) (.number value) := by
  cases n with
  | integer i fits => exact ⟨_, spells_integer i fits⟩
  | double f =>
    have hmagnitude : SpellsMagnitude (bytesOf (if (Decimal.Binary.ofBits f.toBits).mantissa = 0 then ['0', '.', '0']
        else renderScientific (Decimal.shortest (Decimal.Binary.ofBits f.toBits)))) := by
      split_ifs with hm
      · exact spellsMagnitude_zero figures_zero 0
      · exact spellsMagnitude_scientific (Decimal.digits_shortest_ne_zero _ hm)
    rw [renderNumber, renderDouble, String.toList_ofList]
    by_cases hsign : 0x8000000000000000 ≤ f.toBits.toNat
    · rw [if_pos hsign]
      exact hmagnitude.minus
    · rw [if_neg hsign]
      exact hmagnitude.unsigned

end ServiceBroker.Json
