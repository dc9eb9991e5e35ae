/-
Reading UTF-8 back. A character is read from the bytes that it is written in, whatever follows them, and from no other
ones, so a text is read exactly from its own bytes (`decode_eq_ok_iff`).
-/
import ServiceBroker.Text.Utf8
import Mathlib.Tactic

namespace ServiceBroker.Utf8

variable {b₀ b₁ b₂ b₃ low high : UInt8} {pos : Nat} {bytes rest : List UInt8} {cs : List Char} {text : String}

/-! ## Sequences of bytes -/

/-- A byte that continues a character. -/
def Continues (b : UInt8) : Prop :=
  128 ≤ b.toNat ∧ b.toNat ≤ 191

theorem isContinuation_iff : isContinuation b₀ = true ↔ Continues b₀ := by
  simp [isContinuation, Continues, UInt8.le_iff_toNat_le]

theorem decodeFrom_one (h : b₀.toNat < 128) :
    decodeFrom pos (b₀ :: rest) = keep b₀.toNat (decodeFrom (pos + 1) rest) := by
  have h : b₀ < 0x80 := UInt8.lt_iff_toNat_lt.2 h
  rw [decodeFrom, if_pos h]

theorem decodeFrom_two (h₀ : 194 ≤ b₀.toNat) (h₀' : b₀.toNat < 224) (h₁ : Continues b₁) :
    decodeFrom pos (b₀ :: b₁ :: rest) = keep (b₀.toNat % 32 * 64 + payload b₁) (decodeFrom (pos + 2) rest) := by
  obtain ⟨h₁, h₁'⟩ := h₁
  have hs : secondByte? b₀ = some (0x80, 0xBF) := by
    unfold secondByte?
    simp only [UInt8.lt_iff_toNat_lt, UInt8.toNat_ofNat]
    split_ifs <;> first | rfl | omega
  rw [decodeFrom, hs]
  simp only [Bool.or_eq_true, decide_eq_true_eq, UInt8.lt_iff_toNat_lt, UInt8.toNat_ofNat]
  split_ifs <;> first | rfl | omega

/-- A second byte that makes a character of three bytes neither overlong nor a surrogate. -/
theorem decodeFrom_three (h₀ : 224 ≤ b₀.toNat) (h₀' : b₀.toNat < 240) (h₁ : Continues b₁)
    (hlow : b₀.toNat = 224 → 160 ≤ b₁.toNat) (hhigh : b₀.toNat = 237 → b₁.toNat ≤ 159) (h₂ : Continues b₂) :
    decodeFrom pos (b₀ :: b₁ :: b₂ :: rest) =
      keep ((b₀.toNat % 16 * 64 + payload b₁) * 64 + payload b₂) (decodeFrom (pos + 3) rest) := by
  obtain ⟨h₁, h₁'⟩ := h₁
  have hs : secondByte? b₀ =
      some (if b₀.toNat = 224 then 0xA0 else 0x80, if b₀.toNat = 237 then 0x9F else 0xBF) := by
    unfold secondByte?
    simp only [UInt8.lt_iff_toNat_lt, ← UInt8.toNat_inj, UInt8.toNat_ofNat]
    split_ifs <;> first | rfl | omega
  have hp : ¬ ((decide (b₁ < if b₀.toNat = 224 then 0xA0 else 0x80) ||
      decide ((if b₀.toNat = 237 then 0x9F else 0xBF) < b₁)) = true) := by
    simp only [Bool.or_eq_true, decide_eq_true_eq, UInt8.lt_iff_toNat_lt]
    split_ifs <;> simp only [UInt8.toNat_ofNat] <;> omega
  have h128 : ¬ b₀ < 128 := by simp only [UInt8.lt_iff_toNat_lt, UInt8.toNat_ofNat]; omega
  have h224 : ¬ b₀ < 224 := by simp only [UInt8.lt_iff_toNat_lt, UInt8.toNat_ofNat]; omega
  have h240 : b₀ < 240 := UInt8.lt_iff_toNat_lt.2 h₀'
  rw [decodeFrom, if_neg h128, hs]
  dsimp only
  rw [if_neg hp, if_neg h224, isContinuation_iff.2 h₂, if_neg (by decide), if_pos h240]

/-- A second byte that makes a character of four bytes neither overlong nor too large. -/
theorem decodeFrom_four (h₀ : 240 ≤ b₀.toNat) (h₀' : b₀.toNat < 245) (h₁ : Continues b₁)
    (hlow : b₀.toNat = 240 → 144 ≤ b₁.toNat) (hhigh : b₀.toNat = 244 → b₁.toNat ≤ 143) (h₂ : Continues b₂)
    (h₃ : Continues b₃) :
    decodeFrom pos (b₀ :: b₁ :: b₂ :: b₃ :: rest) =
      keep (((b₀.toNat % 8 * 64 + payload b₁) * 64 + payload b₂) * 64 + payload b₃) (decodeFrom (pos + 4) rest) := by
  obtain ⟨h₁, h₁'⟩ := h₁
  have hs : secondByte? b₀ =
      some (if b₀.toNat = 240 then 0x90 else 0x80, if b₀.toNat = 244 then 0x8F else 0xBF) := by
    unfold secondByte?
    simp only [UInt8.lt_iff_toNat_lt, ← UInt8.toNat_inj, UInt8.toNat_ofNat]
    split_ifs <;> first | rfl | omega
  have hp : ¬ ((decide (b₁ < if b₀.toNat = 240 then 0x90 else 0x80) ||
      decide ((if b₀.toNat = 244 then 0x8F else 0xBF) < b₁)) = true) := by
    simp only [Bool.or_eq_true, decide_eq_true_eq, UInt8.lt_iff_toNat_lt]
    split_ifs <;> simp only [UInt8.toNat_ofNat] <;> omega
  have h128 : ¬ b₀ < 128 := by simp only [UInt8.lt_iff_toNat_lt, UInt8.toNat_ofNat]; omega
  have h224 : ¬ b₀ < 224 := by simp only [UInt8.lt_iff_toNat_lt, UInt8.toNat_ofNat]; omega
  have h240 : ¬ b₀ < 240 := by simp only [UInt8.lt_iff_toNat_lt, UInt8.toNat_ofNat]; omega
  rw [decodeFrom, if_neg h128, hs]
  dsimp only
  rw [if_neg hp, if_neg h224, isContinuation_iff.2 h₂, if_neg (by decide), if_neg h240, isContinuation_iff.2 h₃,
    if_neg (by decide)]

/-! ## Characters -/

theorem toNat_ofNat_of_lt {n : Nat} (h : n < 256) : (UInt8.ofNat n).toNat = n := by
  rw [UInt8.toNat_ofNat']
  exact Nat.mod_eq_of_lt h

theorem ofNat_eq {n : Nat} {b : UInt8} (h : n = b.toNat) : UInt8.ofNat n = b := by
  rw [h, UInt8.ofNat_toNat]

theorem continues_ofNat (n : Nat) : Continues (UInt8.ofNat (n % 64 + 128)) := by
  unfold Continues
  rw [toNat_ofNat_of_lt (by omega)]
  omega

theorem payload_ofNat (n : Nat) : payload (UInt8.ofNat (n % 64 + 128)) = n % 64 := by
  unfold payload
  rw [toNat_ofNat_of_lt (by omega)]
  omega

/-- A character is no surrogate and not past the last one. -/
theorem toNat_valid (c : Char) : c.toNat < 55296 ∨ (57343 < c.toNat ∧ c.toNat < 1114112) :=
  c.valid

/-- The byte of an ASCII character is its code; all bytes of other characters are past ASCII. -/
theorem toNat_of_mem_utf8EncodeChar {c : Char} {b : UInt8} (h : b ∈ String.utf8EncodeChar c) :
    b.toNat = c.toNat ∨ 128 ≤ b.toNat := by
  have hv := toNat_valid c
  have hc : c.val.toNat = c.toNat := rfl
  unfold String.utf8EncodeChar at h
  rw [hc] at h
  generalize c.toNat = v at *
  dsimp only at h
  split_ifs at h <;> simp only [List.mem_cons, List.not_mem_nil, or_false] at h
  · rw [h, toNat_ofNat_of_lt (by omega)]
    exact .inl rfl
  · rcases h with rfl | rfl <;> rw [toNat_ofNat_of_lt (by omega)] <;> omega
  · rcases h with rfl | rfl | rfl <;> rw [toNat_ofNat_of_lt (by omega)] <;> omega
  · rcases h with rfl | rfl | rfl | rfl <;> rw [toNat_ofNat_of_lt (by omega)] <;> omega

/-- A character is read from the bytes that it is written in. -/
theorem decodeFrom_utf8EncodeChar (pos : Nat) (c : Char) (rest : List UInt8) :
    decodeFrom pos (String.utf8EncodeChar c ++ rest) =
      (decodeFrom (pos + (String.utf8EncodeChar c).length) rest).map (c :: ·) := by
  have hv := toNat_valid c
  have hk : ∀ n, n = c.toNat → ∀ r, keep n r = r.map (c :: ·) := by
    rintro n rfl r
    unfold keep
    rw [Char.ofNat_toNat]
  have hc : c.val.toNat = c.toNat := rfl
  unfold String.utf8EncodeChar
  rw [hc]
  generalize c.toNat = v at hv hk
  dsimp only
  split_ifs with h₁ h₂ h₃
  · have h₀ := toNat_ofNat_of_lt (show v < 256 by omega)
    exact (decodeFrom_one (by omega)).trans (hk _ h₀ _)
  · have h₀ := toNat_ofNat_of_lt (show v / 64 % 32 + 192 < 256 by omega)
    refine (decodeFrom_two (by omega) (by omega) (continues_ofNat _)).trans (hk _ ?_ _)
    rw [h₀, payload_ofNat]
    omega
  · have h₀ := toNat_ofNat_of_lt (show v / 4096 % 16 + 224 < 256 by omega)
    have h₁ := toNat_ofNat_of_lt (show v / 64 % 64 + 128 < 256 by omega)
    refine (decodeFrom_three (by omega) (by omega) (continues_ofNat _) (by omega) (by omega)
      (continues_ofNat _)).trans (hk _ ?_ _)
    rw [h₀, payload_ofNat, payload_ofNat]
    omega
  · have h₀ := toNat_ofNat_of_lt (show v / 262144 % 8 + 240 < 256 by omega)
    have h₁ := toNat_ofNat_of_lt (show v / 4096 % 64 + 128 < 256 by omega)
    refine (decodeFrom_four (by omega) (by omega) (continues_ofNat _) (by omega) (by omega) (continues_ofNat _)
      (continues_ofNat _)).trans (hk _ ?_ _)
    rw [h₀, payload_ofNat, payload_ofNat, payload_ofNat]
    omega

/-! ## Only characters are read -/

theorem val_ofNat {n : Nat} (h : n < 55296 ∨ (57343 < n ∧ n < 1114112)) : (Char.ofNat n).val.toNat = n := by
  rw [Char.ofNat, dif_pos h]
  rfl

theorem utf8EncodeChar_one (h : b₀.toNat < 128) : String.utf8EncodeChar (Char.ofNat b₀.toNat) = [b₀] := by
  unfold String.utf8EncodeChar
  rw [val_ofNat (by omega)]
  dsimp only
  rw [if_pos (by omega), UInt8.ofNat_toNat]

theorem utf8EncodeChar_two (h₀ : 194 ≤ b₀.toNat) (h₀' : b₀.toNat < 224) (h₁ : Continues b₁) :
    String.utf8EncodeChar (Char.ofNat (b₀.toNat % 32 * 64 + payload b₁)) = [b₀, b₁] := by
  obtain ⟨h₁, h₁'⟩ := h₁
  unfold String.utf8EncodeChar payload
  rw [val_ofNat (by omega)]
  dsimp only
  rw [if_neg (by omega), if_pos (by omega), ofNat_eq (b := b₀) (by omega), ofNat_eq (b := b₁) (by omega)]

theorem utf8EncodeChar_three (h₀ : 224 ≤ b₀.toNat) (h₀' : b₀.toNat < 240) (h₁ : Continues b₁)
    (hlow : b₀.toNat = 224 → 160 ≤ b₁.toNat) (hhigh : b₀.toNat = 237 → b₁.toNat ≤ 159) (h₂ : Continues b₂) :
    String.utf8EncodeChar (Char.ofNat ((b₀.toNat % 16 * 64 + payload b₁) * 64 + payload b₂)) = [b₀, b₁, b₂] := by
  obtain ⟨h₁, h₁'⟩ := h₁
  obtain ⟨h₂, h₂'⟩ := h₂
  unfold String.utf8EncodeChar payload
  rw [val_ofNat (by omega)]
  dsimp only
  rw [if_neg (by omega), if_neg (by omega), if_pos (by omega), ofNat_eq (b := b₀) (by omega),
    ofNat_eq (b := b₁) (by omega), ofNat_eq (b := b₂) (by omega)]

theorem utf8EncodeChar_four (h₀ : 240 ≤ b₀.toNat) (h₀' : b₀.toNat < 245) (h₁ : Continues b₁)
    (hlow : b₀.toNat = 240 → 144 ≤ b₁.toNat) (hhigh : b₀.toNat = 244 → b₁.toNat ≤ 143) (h₂ : Continues b₂)
    (h₃ : Continues b₃) :
    String.utf8EncodeChar (Char.ofNat (((b₀.toNat % 8 * 64 + payload b₁) * 64 + payload b₂) * 64 + payload b₃)) =
      [b₀, b₁, b₂, b₃] := by
  obtain ⟨h₁, h₁'⟩ := h₁
  obtain ⟨h₂, h₂'⟩ := h₂
  obtain ⟨h₃, h₃'⟩ := h₃
  unfold String.utf8EncodeChar payload
  rw [val_ofNat (by omega)]
  dsimp only
  rw [if_neg (by omega), if_neg (by omega), if_neg (by omega), ofNat_eq (b := b₀) (by omega),
    ofNat_eq (b := b₁) (by omega), ofNat_eq (b := b₂) (by omega), ofNat_eq (b := b₃) (by omega)]

/-- Two bytes that can begin a character of more than one byte. -/
structure Opens (b₀ b₁ : UInt8) : Prop where
  least : 194 ≤ b₀.toNat
  most : b₀.toNat < 245
  continues : Continues b₁
  notOverlong₃ : b₀.toNat = 224 → 160 ≤ b₁.toNat
  notSurrogate : b₀.toNat = 237 → b₁.toNat ≤ 159
  notOverlong₄ : b₀.toNat = 240 → 144 ≤ b₁.toNat
  notTooLarge : b₀.toNat = 244 → b₁.toNat ≤ 143

theorem opens_of_secondByte? (h : secondByte? b₀ = some (low, high))
    (hb : ¬ (decide (b₁ < low) || decide (high < b₁)) = true) : Opens b₀ b₁ := by
  simp only [Bool.or_eq_true, decide_eq_true_eq, UInt8.lt_iff_toNat_lt, not_or] at hb
  unfold secondByte? at h
  simp only [UInt8.lt_iff_toNat_lt, ← UInt8.toNat_inj, UInt8.toNat_ofNat] at h
  -- one goal for each range of the first byte and each field
  split_ifs at h <;> cases h <;> simp only [UInt8.toNat_ofNat] at hb <;> constructor <;>
    first
    | omega
    | exact ⟨by omega, by omega⟩

theorem eq_of_keep_eq_ok {code : Nat} {read : Except Fault (List Char)} (h : keep code read = .ok cs) :
    ∃ cs', read = .ok cs' ∧ cs = Char.ofNat code :: cs' := by
  cases read with
  | error f => cases h
  | ok cs' => exact ⟨cs', rfl, (Except.ok.inj h).symm⟩

theorem eq_flatMap_of_decodeFrom (h : decodeFrom pos bytes = .ok cs) : bytes = cs.flatMap String.utf8EncodeChar := by
  fun_induction decodeFrom pos bytes generalizing cs with
  | case1 => cases h; rfl
  | case2 pos b₀ rest h₀ ih =>
    obtain ⟨cs, hrest, rfl⟩ := eq_of_keep_eq_ok h
    rw [List.flatMap_cons, ← ih hrest, utf8EncodeChar_one (UInt8.lt_iff_toNat_lt.1 h₀)]
    rfl
  | case6 pos b₀ _ low high hs b₁ rest hb h₀ ih =>
    obtain ⟨cs, hrest, rfl⟩ := eq_of_keep_eq_ok h
    have ho := opens_of_secondByte? hs hb
    rw [List.flatMap_cons, ← ih hrest, utf8EncodeChar_two ho.least (UInt8.lt_iff_toNat_lt.1 h₀) ho.continues]
    rfl
  | case9 pos b₀ _ low high hs b₁ hb h₀ b₂ rest h₂ h₀' ih =>
    obtain ⟨cs, hrest, rfl⟩ := eq_of_keep_eq_ok h
    have ho := opens_of_secondByte? hs hb
    have h₀ : 224 ≤ b₀.toNat := Nat.le_of_not_lt fun hlt => h₀ (UInt8.lt_iff_toNat_lt.2 hlt)
    rw [List.flatMap_cons, ← ih hrest, utf8EncodeChar_three h₀ (UInt8.lt_iff_toNat_lt.1 h₀') ho.continues
      ho.notOverlong₃ ho.notSurrogate (isContinuation_iff.1 (by simpa using h₂))]
    rfl
  | case12 pos b₀ _ low high hs b₁ hb h₀ b₂ h₂ h₀' b₃ rest h₃ ih =>
    obtain ⟨cs, hrest, rfl⟩ := eq_of_keep_eq_ok h
    have ho := opens_of_secondByte? hs hb
    have h₀' : 240 ≤ b₀.toNat := Nat.le_of_not_lt fun hlt => h₀' (UInt8.lt_iff_toNat_lt.2 hlt)
    rw [List.flatMap_cons, ← ih hrest, utf8EncodeChar_four h₀' ho.most ho.continues ho.notOverlong₄ ho.notTooLarge
      (isContinuation_iff.1 (by simpa using h₂)) (isContinuation_iff.1 (by simpa using h₃))]
    rfl
  | _ => cases h

/-! ## Texts -/

theorem decodeFrom_flatMap (pos : Nat) (cs : List Char) :
    decodeFrom pos (cs.flatMap String.utf8EncodeChar) = .ok cs := by
  induction cs generalizing pos with
  | nil => rfl
  | cons c cs ih =>
    rw [List.flatMap_cons, decodeFrom_utf8EncodeChar, ih]
    rfl

/-- The bytes of characters spell the text of these characters. -/
theorem decode_flatMap (cs : List Char) : decode (cs.flatMap String.utf8EncodeChar) = .ok (String.ofList cs) := by
  unfold decode
  rw [decodeFrom_flatMap]
  rfl

/-- Different characters have different bytes. -/
theorem eq_of_flatMap_eq {cs cs' : List Char}
    (h : cs.flatMap String.utf8EncodeChar = cs'.flatMap String.utf8EncodeChar) : cs = cs' := by
  have hd := decodeFrom_flatMap 0 cs
  rw [h, decodeFrom_flatMap] at hd
  exact (Except.ok.inj hd).symm

/-- The bytes of a text spell that text. -/
theorem decode_encode (text : String) : decode (encode text) = .ok text := by
  unfold encode
  rw [decode_flatMap, String.ofList_toList]

/-- Bytes spell a text exactly if they are the bytes of this text. -/
theorem decode_eq_ok_iff : decode bytes = .ok text ↔ bytes = encode text := by
  constructor
  · intro h
    unfold decode at h
    cases hd : decodeFrom 0 bytes with
    | error f => rw [hd] at h; cases h
    | ok cs =>
      rw [hd] at h
      obtain rfl := Except.ok.inj h
      rw [encode, String.toList_ofList]
      exact eq_flatMap_of_decodeFrom hd
  · rintro rfl
    exact decode_encode text

theorem encode_injective : Function.Injective encode := by
  intro text text' h
  have hdecode := decode_encode text
  rw [h, decode_encode] at hdecode
  exact (Except.ok.inj hdecode).symm

theorem encode_append (text text' : String) : encode (text ++ text') = encode text ++ encode text' := by
  rw [encode, String.toList_append, List.flatMap_append]
  rfl

end ServiceBroker.Utf8
