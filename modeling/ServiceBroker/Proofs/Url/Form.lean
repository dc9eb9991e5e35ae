/-
Forms. What a form writes for a text holds neither of the signs that stand between pairs and inside them, and is
read back as that text; so the pairs that are put behind a form are read behind its own pairs, one by one and as
they were given (`formPairs_appendPairs`).
-/
import ServiceBroker.Proofs.Url.Percent

namespace ServiceBroker.Percent

/-! ## Texts -/

theorem encodeFormByte_bytes (b : UInt8) :
    (∃ x y m n, Numeral.hexByte? x = some m ∧ Numeral.hexByte? y = some n ∧ b = UInt8.ofNat (m * 16 + n) ∧
      (encodeFormByte b).flatMap String.utf8EncodeChar = [37, x, y]) ∨
    (b = 32 ∧ (encodeFormByte b).flatMap String.utf8EncodeChar = [43]) ∨
    (isFormSafe b = true ∧ (encodeFormByte b).flatMap String.utf8EncodeChar = [b]) := by
  have hb : b.toNat < 256 := b.toNat_lt
  unfold encodeFormByte
  split_ifs with hs h32
  · right; right
    have h128 : b.toNat < 128 := by
      simp only [isFormSafe, Bool.or_eq_true, Bool.and_eq_true, decide_eq_true_eq, UInt8.le_iff_toNat_le,
        ← UInt8.toNat_inj, UInt8.toNat_ofNat] at hs
      omega
    exact ⟨hs, by rw [List.flatMap_singleton, Utf8.utf8EncodeChar_one h128]⟩
  · exact .inr (.inl ⟨h32, rfl⟩)
  · left
    obtain ⟨x, hx, hx'⟩ := hexByte?_upperHex (show b.toNat / 16 < 16 by omega)
    obtain ⟨y, hy, hy'⟩ := hexByte?_upperHex (show b.toNat % 16 < 16 by omega)
    have hv : b.toNat / 16 * 16 + b.toNat % 16 = b.toNat := by omega
    refine ⟨x, y, _, _, hx', hy', by rw [hv, UInt8.ofNat_toNat], ?_⟩
    simp only [escapeByte, List.flatMap_cons, List.flatMap_nil, hx, hy]
    rfl

/-- A form reads a byte back from what it writes for it. -/
theorem decodeForm_encodeFormByte (b : UInt8) (rest : List UInt8) :
    decodeForm ((encodeFormByte b).flatMap String.utf8EncodeChar ++ rest) = b :: decodeForm rest := by
  have hplus {x : UInt8} {m : Nat} (hx : Numeral.hexByte? x = some m) : ¬ x = 43 := by
    rintro rfl
    cases hx
  unfold decodeForm
  rcases encodeFormByte_bytes b with ⟨x, y, m, n, hx, hy, hv, he⟩ | ⟨rfl, he⟩ | ⟨hs, he⟩
  · rw [he, hv]
    simp only [List.cons_append, List.nil_append, List.map_cons, if_neg (hplus hx), if_neg (hplus hy)]
    exact decodeBytes_escape hx hy _
  · rw [he]
    exact decodeBytes_of_ne (by decide) _
  · -- Neither a plus sign nor a percent sign is left as it is.
    have h43 : ¬ b = 43 := by
      rintro rfl
      cases hs
    have h37 : b ≠ 37 := by
      rintro rfl
      cases hs
    rw [he, List.cons_append, List.nil_append, List.map_cons, if_neg h43, decodeBytes_of_ne h37]

theorem decodeForm_encodeForm (text : String) :
    decodeForm ((encodeForm text).flatMap String.utf8EncodeChar) = Utf8.encode text := by
  unfold encodeForm
  generalize Utf8.encode text = bytes
  induction bytes with
  | nil => rfl
  | cons b bytes ih => rw [List.flatMap_cons, List.flatMap_append, decodeForm_encodeFormByte, ih]

/-- What a form writes for a text holds no separator. -/
theorem ne_of_mem_encodeForm {text : String} {b : UInt8}
    (h : b ∈ (encodeForm text).flatMap String.utf8EncodeChar) : b ≠ 38 ∧ b ≠ 61 ∧ b ≠ 35 := by
  have hdigit {x : UInt8} {m : Nat} (hx : Numeral.hexByte? x = some m) : x ≠ 38 ∧ x ≠ 61 ∧ x ≠ 35 := by
    refine ⟨?_, ?_, ?_⟩ <;> rintro rfl <;> cases hx
  unfold encodeForm at h
  rw [List.flatMap_assoc] at h
  obtain ⟨b', _, hb⟩ := List.mem_flatMap.1 h
  rcases encodeFormByte_bytes b' with ⟨x, y, m, n, hx, hy, _, he⟩ | ⟨_, he⟩ | ⟨hs, he⟩ <;> rw [he] at hb
  · simp only [List.mem_cons, List.not_mem_nil, or_false] at hb
    rcases hb with rfl | rfl | rfl
    · decide
    · exact hdigit hx
    · exact hdigit hy
  · rw [List.mem_singleton.1 hb]
    decide
  · rw [List.mem_singleton.1 hb]
    refine ⟨?_, ?_, ?_⟩ <;> rintro rfl <;> cases hs

/-! ## Pairs -/

theorem splitBytes_ne_nil (separator : UInt8) (bytes : List UInt8) : splitBytes separator bytes ≠ [] := by
  cases bytes with
  | nil => simp [splitBytes]
  | cons b bytes =>
    rw [splitBytes]
    split_ifs
    · simp
    · split <;> simp

/-- What a separator stands between is split apart there. -/
theorem splitBytes_append (separator : UInt8) (bytes rest : List UInt8) :
    splitBytes separator (bytes ++ separator :: rest) = splitBytes separator bytes ++ splitBytes separator rest := by
  induction bytes with
  | nil => simp [splitBytes]
  | cons b bytes ih =>
    rw [List.cons_append, splitBytes, splitBytes, ih]
    split_ifs
    · rfl
    · cases hs : splitBytes separator bytes with
      | nil => exact absurd hs (splitBytes_ne_nil separator bytes)
      | cons first more => rfl

theorem splitBytes_of_ne {separator : UInt8} {bytes : List UInt8} (h : ∀ b ∈ bytes, b ≠ separator) :
    splitBytes separator bytes = [bytes] := by
  induction bytes with
  | nil => rfl
  | cons b bytes ih =>
    obtain ⟨hb, hbs⟩ := List.forall_mem_cons.1 h
    rw [splitBytes, if_neg hb, ih hbs]

theorem formPairs_append (form rest : List UInt8) :
    formPairs (form ++ 38 :: rest) = formPairs form ++ formPairs rest := by
  unfold formPairs
  rw [splitBytes_append, List.filter_append, List.map_append]

/-- A part that is no two is split at its first equals sign. -/
theorem formPairs_part {name value : List UInt8} (hn : ∀ b ∈ name, b ≠ 38 ∧ b ≠ 61) (hv : ∀ b ∈ value, b ≠ 38) :
    formPairs (name ++ 61 :: value) = [(decodeForm name, decodeForm value)] := by
  have hone : ∀ b ∈ name ++ 61 :: value, b ≠ 38 := by
    intro b hb
    rcases List.mem_append.1 hb with hb | hb
    · exact (hn b hb).1
    · rcases List.mem_cons.1 hb with rfl | hb
      · decide
      · exact hv b hb
  have hname : ∀ b ∈ name, (b != 61) = true := fun b hb => by simpa using (hn b hb).2
  have hkept : [name ++ 61 :: value].filter (!·.isEmpty) = [name ++ 61 :: value] :=
    List.filter_eq_self.2 (by simp)
  unfold formPairs
  rw [splitBytes_of_ne hone, hkept, List.map_singleton, List.takeWhile_append_of_pos hname,
    List.dropWhile_append_of_pos hname]
  simp

/-- The bytes of a name and its value, as they are read from a form. -/
def pairBytes (pair : String × String) : List UInt8 × List UInt8 :=
  (Utf8.encode pair.1, Utf8.encode pair.2)

theorem formPairs_encodePair (pair : String × String) :
    formPairs ((encodePair pair).flatMap String.utf8EncodeChar) = [pairBytes pair] := by
  have hsign : String.utf8EncodeChar '=' = [61] := rfl
  unfold encodePair
  rw [List.flatMap_append, List.flatMap_cons, hsign, List.singleton_append, formPairs_part, decodeForm_encodeForm,
    decodeForm_encodeForm, pairBytes]
  · intro b hb
    obtain ⟨h38, h61, _⟩ := ne_of_mem_encodeForm hb
    exact ⟨h38, h61⟩
  · intro b hb
    exact (ne_of_mem_encodeForm hb).1

/-- Pairs that are put behind a form are read behind its own. -/
theorem formPairs_appendPairs (form : List Char) (pairs : List (String × String)) :
    formPairs ((appendPairs form pairs).flatMap String.utf8EncodeChar) =
      formPairs (form.flatMap String.utf8EncodeChar) ++ pairs.map pairBytes := by
  unfold appendPairs
  induction pairs generalizing form with
  | nil => simp
  | cons pair pairs ih =>
    rw [List.foldl_cons, ih, List.map_cons]
    split_ifs with hform
    · rw [List.isEmpty_iff.1 hform, formPairs_encodePair]
      rfl
    · have hsign : String.utf8EncodeChar '&' = [38] := rfl
      rw [List.flatMap_append, List.flatMap_cons, hsign, List.singleton_append, formPairs_append,
        formPairs_encodePair, List.append_assoc, List.singleton_append]

end ServiceBroker.Percent
