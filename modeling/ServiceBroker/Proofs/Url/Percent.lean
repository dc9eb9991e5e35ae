/-
Percent encoding. What is encoded can be read back, as the percent sign itself is escaped, so different texts
are written differently (`encode_injective`). Encoding puts nothing into a text but escapes.
-/
import ServiceBroker.Proofs.Text.Utf8
import ServiceBroker.Url.Percent

namespace ServiceBroker.Percent

variable {set : Set}

/-! ## Bytes -/

theorem toNat_ofNat_of_lt {n : Nat} (h : n < 128) : (Char.ofNat n).toNat = n :=
  Utf8.val_ofNat (.inl (by omega))

/-- The two digits of a byte stand for it. -/
theorem hexByte?_upperHex {n : Nat} (h : n < 16) :
    ∃ d, String.utf8EncodeChar (Numeral.upperHex n) = [d] ∧ Numeral.hexByte? d = some n := by
  interval_cases n <;> exact ⟨_, rfl, rfl⟩

theorem decodeBytes_of_ne {b : UInt8} (h : b ≠ 37) (rest : List UInt8) :
    decodeBytes (b :: rest) = b :: decodeBytes rest := by
  rw [decodeBytes.eq_def]
  split
  · next heq =>
    obtain ⟨rfl, _⟩ := List.cons.inj heq
    exact absurd rfl h
  · next heq =>
    obtain ⟨rfl, rfl⟩ := List.cons.inj heq
    rfl
  · next heq => cases heq

theorem decodeBytes_escape {x y : UInt8} {m n : Nat} (hx : Numeral.hexByte? x = some m)
    (hy : Numeral.hexByte? y = some n) (rest : List UInt8) :
    decodeBytes (37 :: x :: y :: rest) = UInt8.ofNat (m * 16 + n) :: decodeBytes rest := by
  rw [decodeBytes, hx, hy]

/-- A byte is read back from the way it is written. -/
theorem decodeBytes_encodeByte (h37 : set 37 = true) (b : UInt8) (rest : List UInt8) :
    decodeBytes ((encodeByte set b).flatMap String.utf8EncodeChar ++ rest) = b :: decodeBytes rest := by
  have hb : b.toNat < 256 := b.toNat_lt
  unfold encodeByte
  split_ifs with hs
  · obtain ⟨x, hx, hx'⟩ := hexByte?_upperHex (show b.toNat / 16 < 16 by omega)
    obtain ⟨y, hy, hy'⟩ := hexByte?_upperHex (show b.toNat % 16 < 16 by omega)
    have he : (escapeByte b).flatMap String.utf8EncodeChar = [37, x, y] := by
      simp only [escapeByte, List.flatMap_cons, List.flatMap_nil, hx, hy]
      rfl
    have hv : b.toNat / 16 * 16 + b.toNat % 16 = b.toNat := by omega
    rw [he, List.cons_append, List.cons_append, List.cons_append, List.nil_append, decodeBytes_escape hx' hy', hv,
      UInt8.ofNat_toNat]
  · simp only [Bool.or_eq_true, decide_eq_true_eq, not_or, UInt8.le_iff_toNat_le, UInt8.toNat_ofNat] at hs
    have hne : b ≠ 37 := by
      rintro rfl
      exact hs.1 h37
    rw [List.flatMap_cons, List.flatMap_nil, List.append_nil, Utf8.utf8EncodeChar_one (by omega), List.cons_append,
      List.nil_append, decodeBytes_of_ne hne]

/-! ## Texts -/

/-- What is encoded is read back, escapes and all. -/
theorem decodeBytes_encode (h37 : set 37 = true) (cs : List Char) :
    decodeBytes ((encode set cs).flatMap String.utf8EncodeChar) = cs.flatMap String.utf8EncodeChar := by
  unfold encode
  generalize cs.flatMap String.utf8EncodeChar = bytes
  induction bytes with
  | nil => rfl
  | cons b bytes ih => rw [List.flatMap_cons, List.flatMap_append, decodeBytes_encodeByte h37, ih]

/-- Different texts are written differently. -/
theorem encode_injective (h37 : set 37 = true) {cs cs' : List Char} (h : encode set cs = encode set cs') :
    cs = cs' := by
  refine Utf8.eq_of_flatMap_eq ?_
  rw [← decodeBytes_encode h37, h, decodeBytes_encode h37]

/-- A byte below 128 in the bytes of a character is the character. -/
theorem eq_of_mem_utf8EncodeChar {c : Char} {b : UInt8} (h : b ∈ String.utf8EncodeChar c) (hb : b.toNat < 128) :
    c = Char.ofNat b.toNat := by
  rcases Utf8.toNat_of_mem_utf8EncodeChar h with heq | hle
  · rw [heq, Char.ofNat_toNat]
  · omega

/-- The characters of an escape. -/
def IsEscape (c : Char) : Prop :=
  c = '%' ∨ ∃ n < 16, c = Numeral.upperHex n

/-- What is written is part of an escape, or was there before and need not be escaped. -/
theorem mem_encode {cs : List Char} {c : Char} (h : c ∈ encode set cs) :
    IsEscape c ∨ (c ∈ cs ∧ set (UInt8.ofNat c.toNat) = false) := by
  obtain ⟨b, hb, hc⟩ := List.mem_flatMap.1 h
  obtain ⟨c', hc', hb'⟩ := List.mem_flatMap.1 hb
  have h256 : b.toNat < 256 := b.toNat_lt
  unfold encodeByte at hc
  split_ifs at hc with hs
  · left
    simp only [escapeByte, List.mem_cons, List.not_mem_nil, or_false] at hc
    rcases hc with rfl | rfl | rfl
    · exact .inl rfl
    · exact .inr ⟨_, by omega, rfl⟩
    · exact .inr ⟨_, by omega, rfl⟩
  · right
    simp only [Bool.or_eq_true, decide_eq_true_eq, not_or, UInt8.le_iff_toNat_le, UInt8.toNat_ofNat] at hs
    obtain rfl := List.mem_singleton.1 hc
    obtain rfl := eq_of_mem_utf8EncodeChar hb' (by omega)
    refine ⟨hc', ?_⟩
    rw [toNat_ofNat_of_lt (by omega), UInt8.ofNat_toNat]
    simpa using hs.1

end ServiceBroker.Percent
