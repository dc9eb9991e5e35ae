/-
Steps of reading. How a value begins and what can follow it, what single steps make of the brackets and commas of a
document, and how an item, a member and a document are read once it is known how their values are. Fuel never runs out,
as every byte is worth three steps.
-/
import ServiceBroker.Proofs.Json.Tokens

namespace ServiceBroker.Json

/-! ## What follows a value -/

variable {offset fuel : Nat} {bs rest : List UInt8}

theorem noGap_cons {b : UInt8} (h : isGap b = false) : NoGap (b :: rest) := by
  rintro b' ⟨⟩
  exact h

/-- No number goes on behind a blank. -/
theorem endsNumber_append {g : List UInt8} (hg : Gap g) (h : EndsNumber rest) : EndsNumber (g ++ rest) := by
  cases g with
  | nil => exact h
  | cons b g =>
    rintro b' ⟨⟩
    have hb := hg b (List.mem_cons_self ..)
    simp only [List.mem_cons, List.not_mem_nil, or_false] at hb
    rcases hb with rfl | rfl | rfl | rfl <;> decide

/-- The bytes that can follow a value: a comma and the two closing brackets. -/
theorem endsNumber_cons (rest : List UInt8) {b : UInt8} (h : b = 44 ∨ b = 93 ∨ b = 125) :
    EndsNumber (b :: rest) := by
  rintro b' ⟨⟩
  rcases h with rfl | rfl | rfl <;> decide

/-! ## How a value begins -/

/-- A number begins with a minus or a digit. -/
theorem head_literal {l : Decimal.Literal} (h : SpellsLiteral bs l) :
    ∃ b tail, bs = b :: tail ∧ (decide (b = 45) || isDigit b) = true := by
  have hwhole : ∀ {ws whole}, SpellsWhole ws whole → ∃ b tail, ws = b :: tail ∧ isDigit b = true := by
    intro ws whole h
    cases h with
    | zero => exact ⟨48, [], rfl, rfl⟩
    | @figures d ds _ hf => exact ⟨_, _, rfl, isDigit_digitByte (hf.2 d (List.mem_cons_self ..))⟩
  cases h with
  | unsigned hw _ _ =>
    obtain ⟨b, tail, rfl, hb⟩ := hwhole hw
    exact ⟨b, _, rfl, by rw [hb, Bool.or_true]⟩
  | minus _ _ _ => exact ⟨45, _, rfl, rfl⟩

/-- A byte that begins a number is none of the bytes that begin anything else. -/
theorem isDigit_ne {b : UInt8} (h : (decide (b = 45) || isDigit b) = true) :
    isGap b = false ∧ b ≠ 93 ∧ b ≠ 110 ∧ b ≠ 116 ∧ b ≠ 102 := by
  simp only [isGap, isDigit, Bool.or_eq_true, Bool.and_eq_true, decide_eq_true_eq, Bool.or_eq_false_iff,
    decide_eq_false_iff_not, UInt8.le_iff_toNat_le, ← UInt8.toNat_inj, UInt8.toNat_ofNat, ne_eq] at *
  omega

/-! ## Steps of reading -/

/-- Blanks before a value make no difference. -/
theorem readNode_append {g : List UInt8} (hg : Gap g) (h : NoGap rest) (hf : 0 < fuel) :
    readNode fuel ⟨offset, g ++ rest⟩ = readNode fuel ⟨offset + g.length, rest⟩ := by
  obtain ⟨fuel, rfl⟩ : ∃ n, fuel = n + 1 := ⟨fuel - 1, by omega⟩
  rw [readNode, readNode]
  simp only [Cursor.skipGap, skipGap_append hg h, skipGap_of_noGap h]

theorem readNode_null :
    readNode (fuel + 1) ⟨offset, [110, 117, 108, 108] ++ rest⟩ = (.null (offset + 4), ⟨offset + 4, rest⟩) := rfl

theorem readNode_true :
    readNode (fuel + 1) ⟨offset, [116, 114, 117, 101] ++ rest⟩ =
      (.bool true (offset + 4), ⟨offset + 4, rest⟩) := rfl

theorem readNode_false :
    readNode (fuel + 1) ⟨offset, [102, 97, 108, 115, 101] ++ rest⟩ =
      (.bool false (offset + 5), ⟨offset + 5, rest⟩) := rfl

/-- A text is read with its contents, if it has any. -/
theorem readNode_text {contents : Except Fault String}
    (h : readText ⟨offset + 1, bs ++ 34 :: rest⟩ = .ok (contents, ⟨offset + 1 + bs.length + 1, rest⟩)) :
    readNode (fuel + 1) ⟨offset, quoted bs ++ rest⟩ =
      (.text contents (offset + (quoted bs).length), ⟨offset + (quoted bs).length, rest⟩) := by
  have hl : offset + (quoted bs).length = offset + 1 + bs.length + 1 := by
    simp only [quoted, List.length_append, List.length_cons, List.length_nil]
    omega
  rw [readNode, hl]
  simp [Cursor.skipGap, quoted, skipGap, isGap, isDigit, h]

theorem readNode_array :
    readNode (fuel + 1) ⟨offset, 91 :: rest⟩ =
      (.array offset (readFirstItem fuel (skipGap (offset + 1) rest)).1,
        (readFirstItem fuel (skipGap (offset + 1) rest)).2) := rfl

theorem readNode_object :
    readNode (fuel + 1) ⟨offset, 123 :: rest⟩ =
      (.object offset (readFirstMember fuel (skipGap (offset + 1) rest)).1,
        (readFirstMember fuel (skipGap (offset + 1) rest)).2) := rfl

theorem readFirstItem_close :
    readFirstItem (fuel + 1) ⟨offset, 93 :: rest⟩ = (.close (offset + 1), ⟨offset + 1, rest⟩) := rfl

/-- An array of nothing but blanks. -/
theorem readNode_emptyArray {g : List UInt8} (hg : Gap g) :
    readNode (fuel + 2) ⟨offset, 91 :: g ++ 93 :: rest⟩ =
      (.array offset (.close (offset + 1 + g.length + 1)), ⟨offset + 1 + g.length + 1, rest⟩) := by
  rw [List.cons_append, readNode_array, skipGap_append hg (noGap_cons (by decide)), readFirstItem_close]

theorem readFirstItem_of_ne {b : UInt8} (h : b ≠ 93) :
    readFirstItem (fuel + 1) ⟨offset, b :: rest⟩ = readItem fuel ⟨offset, b :: rest⟩ := by
  rw [readFirstItem]
  simp [h]

theorem readNextItem_close :
    readNextItem (fuel + 1) ⟨offset, 93 :: rest⟩ = (.close (offset + 1), ⟨offset + 1, rest⟩) := rfl

theorem readNextItem_comma {b : UInt8} (hs : (skipGap (offset + 1) rest).rest.head? = some b) (h : b ≠ 93) :
    readNextItem (fuel + 1) ⟨offset, 44 :: rest⟩ = readItem fuel (skipGap (offset + 1) rest) := by
  rw [readNextItem]
  simp [Cursor.skipGap, hs, h]

theorem readFirstMember_close :
    readFirstMember (fuel + 1) ⟨offset, 125 :: rest⟩ = (.close (offset + 1), ⟨offset + 1, rest⟩) := rfl

/-- An object of nothing but blanks. -/
theorem readNode_emptyObject {g : List UInt8} (hg : Gap g) :
    readNode (fuel + 2) ⟨offset, 123 :: g ++ 125 :: rest⟩ =
      (.object offset (.close (offset + 1 + g.length + 1)), ⟨offset + 1 + g.length + 1, rest⟩) := by
  rw [List.cons_append, readNode_object, skipGap_append hg (noGap_cons (by decide)), readFirstMember_close]

theorem readFirstMember_quote :
    readFirstMember (fuel + 1) ⟨offset, 34 :: rest⟩ = readMember fuel ⟨offset, 34 :: rest⟩ := rfl

theorem readNextMember_close :
    readNextMember (fuel + 1) ⟨offset, 125 :: rest⟩ = (.close (offset + 1), ⟨offset + 1, rest⟩) := rfl

theorem readNextMember_comma {offset' : Nat} {rest' : List UInt8}
    (hs : skipGap (offset + 1) rest = ⟨offset', 34 :: rest'⟩) :
    readNextMember (fuel + 1) ⟨offset, 44 :: rest⟩ = readMember fuel ⟨offset', 34 :: rest'⟩ := by
  rw [readNextMember]
  simp [Cursor.skipGap, hs]

/-! ## Items and members -/

/-- An item with blanks around it, once it is known how its value and what follows are read. -/
theorem readItem_of_readNode {g v g' more : List UInt8} {value : Node} {items : Items} {stop : Cursor} (hg : Gap g)
    (hv : ∀ rest, NoGap (v ++ rest)) (hg' : Gap g') (hm : NoGap more)
    (hn : readNode fuel ⟨offset + g.length, v ++ (g' ++ more)⟩ =
      (value, ⟨offset + g.length + v.length, g' ++ more⟩))
    (hi : readNextItem fuel ⟨offset + g.length + v.length + g'.length, more⟩ = (items, stop)) :
    ∃ next, readItem (fuel + 1) (skipGap offset (g ++ v ++ g' ++ more)) = (.item next value items, stop) := by
  rw [List.append_assoc, List.append_assoc, skipGap_append hg (hv _), readItem]
  simp only [hn, Cursor.skipGap, skipGap_append hg' hm, hi]
  exact ⟨_, rfl⟩

/-- A member with blanks around its parts, once it is known how its value and what follows are read. -/
theorem readMember_of_readNode {g name g₁ g₂ v g₃ more : List UInt8} {contents : Except Fault String}
    {value : Node} {members : Members} {stop : Cursor} (hg : Gap g) (hg₁ : Gap g₁) (hg₂ : Gap g₂)
    (hv : ∀ rest, NoGap (v ++ rest)) (hg₃ : Gap g₃) (hm : NoGap more) (hf : 0 < fuel)
    (ht : readText ⟨offset + g.length + 1, name ++ 34 :: (g₁ ++ 58 :: (g₂ ++ (v ++ (g₃ ++ more))))⟩ =
      .ok (contents, ⟨offset + g.length + 1 + name.length + 1, g₁ ++ 58 :: (g₂ ++ (v ++ (g₃ ++ more)))⟩))
    (hn : readNode fuel ⟨offset + (g ++ quoted name ++ g₁).length + 1 + g₂.length, v ++ (g₃ ++ more)⟩ =
      (value, ⟨offset + (g ++ quoted name ++ g₁).length + 1 + g₂.length + v.length, g₃ ++ more⟩))
    (hi : readNextMember fuel
      ⟨offset + (g ++ quoted name ++ g₁).length + 1 + g₂.length + v.length + g₃.length, more⟩ = (members, stop)) :
    ∃ place behind,
      readMember (fuel + 1) (skipGap offset (g ++ quoted name ++ g₁ ++ 58 :: g₂ ++ v ++ g₃ ++ more)) =
        (.member contents place value behind members, stop) := by
  have hl : offset + g.length + 1 + name.length + 1 + g₁.length = offset + (g ++ quoted name ++ g₁).length := by
    simp only [quoted, List.length_append, List.length_cons, List.length_nil]
    omega
  have hcolon : ∀ more, NoGap (58 :: more) := fun more => noGap_cons (by decide)
  simp only [quoted, List.append_assoc, List.cons_append, List.nil_append] at *
  rw [skipGap_append hg (noGap_cons (by decide)), readMember]
  simp only [Cursor.next_mk, ht, Cursor.skipGap, skipGap_append hg₁ (hcolon _), if_true, hl,
    readNode_append hg₂ (hv _) hf, hn, skipGap_append hg₃ hm, hi]
  exact ⟨_, _, rfl⟩

/-! ## Documents -/

/-- No number goes on behind a document. -/
theorem endsNumber_gap {g : List UInt8} (hg : Gap g) : EndsNumber g := by
  rw [← List.append_nil g]
  exact endsNumber_append hg (by simp [EndsNumber])

/-- A value with blanks around it, once it is known how the value is read. -/
theorem ofBytes_of_readNode {g g' : List UInt8} {node : Node} (hg : Gap g) (hv : ∀ rest, NoGap (bs ++ rest))
    (hg' : Gap g')
    (hn : readNode (3 * (g ++ bs ++ g').length + 3) ⟨g.length, bs ++ g'⟩ = (node, ⟨g.length + bs.length, g'⟩)) :
    Document.ofBytes (g ++ bs ++ g') = ⟨node, none⟩ := by
  have hend : skipGap (g.length + bs.length) g' = ⟨g.length + bs.length + g'.length, []⟩ := by
    have h : skipGap (g.length + bs.length) (g' ++ []) = _ := skipGap_append hg' (by simp [NoGap])
    rwa [List.append_nil] at h
  have hroot : readNode (3 * (g ++ bs ++ g').length + 3) ⟨0, g ++ bs ++ g'⟩ =
      (node, ⟨g.length + bs.length, g'⟩) := by
    rw [← hn, List.append_assoc g, readNode_append hg (hv g') (by omega), Nat.zero_add]
  unfold Document.ofBytes
  rw [hroot]
  simp only [Cursor.skipGap, hend, List.isEmpty_nil, if_true]

end ServiceBroker.Json
