/-
Base64 read back. The text of a byte list has the padded form of the standard alphabet (`isPadded_encode`), and decoding
it gives the byte list again, whatever its length leaves over three (`decode_encode`). The inductions go as the writer
does, three bytes at a time; only the last group can be filled up.
-/
import ServiceBroker.Text.Base64
import ServiceBroker.Proofs.Text.Utf8

namespace ServiceBroker.Base64

variable {w x y z start : Nat} {bytes rest : List UInt8}

/-! ## The padded form -/

/-- The symbols in the order of their values. -/
def alphabet : String :=
  "ABCDEFGHIJKLMNOPQRSTUVWXYZabcdefghijklmnopqrstuvwxyz0123456789+/"

/-- Groups of four symbols of the alphabet. One or two signs `=` may fill the last group up. -/
structure IsPadded (text : String) : Prop where
  grouped : text.length % 4 = 0
  filled : ∃ (symbols : List Char) (pads : Nat),
    text.toList = symbols ++ List.replicate pads '=' ∧ pads ≤ 2 ∧ ∀ c ∈ symbols, c ∈ alphabet.toList

theorem symbol_mem (h : x < 64) : symbol x ∈ alphabet.toList := by
  have hall : ∀ n < 64, alphabet.toList[n]? = some (symbol n) := by decide
  exact List.mem_of_getElem? (hall x h)

theorem length_encodeSymbols (bytes : List UInt8) : (encodeSymbols bytes).length = (bytes.length + 2) / 3 * 4 := by
  induction bytes using encodeSymbols.induct with
  | case1 => rfl
  | case2 a => simp [encodeSymbols]
  | case3 a b => simp [encodeSymbols]
  | case4 a b c rest ih =>
    simp only [encodeSymbols, List.length_cons, ih]
    omega

theorem exists_encodeSymbols (bytes : List UInt8) : ∃ (symbols : List Char) (pads : Nat),
    encodeSymbols bytes = symbols ++ List.replicate pads '=' ∧ pads ≤ 2 ∧ ∀ c ∈ symbols, c ∈ alphabet.toList := by
  induction bytes using encodeSymbols.induct with
  | case1 => exact ⟨[], 0, rfl, by omega, nofun⟩
  | case2 a =>
    have ha := a.toNat_lt
    refine ⟨[symbol (a.toNat / 4), symbol (a.toNat % 4 * 16)], 2, rfl, by omega, ?_⟩
    simp only [List.forall_mem_cons, List.not_mem_nil, false_implies, implies_true, and_true]
    exact ⟨symbol_mem (by omega), symbol_mem (by omega)⟩
  | case3 a b =>
    have ha := a.toNat_lt
    have hb := b.toNat_lt
    refine ⟨[symbol (a.toNat / 4), symbol (a.toNat % 4 * 16 + b.toNat / 16), symbol (b.toNat % 16 * 4)], 1, rfl,
      by omega, ?_⟩
    simp only [List.forall_mem_cons, List.not_mem_nil, false_implies, implies_true, and_true]
    exact ⟨symbol_mem (by omega), symbol_mem (by omega), symbol_mem (by omega)⟩
  | case4 a b c rest ih =>
    have ha := a.toNat_lt
    have hb := b.toNat_lt
    have hc := c.toNat_lt
    obtain ⟨symbols, pads, hrest, hpads, hsymbols⟩ := ih
    refine ⟨symbol (a.toNat / 4) :: symbol (a.toNat % 4 * 16 + b.toNat / 16)
      :: symbol (b.toNat % 16 * 4 + c.toNat / 64) :: symbol (c.toNat % 64) :: symbols, pads, ?_, hpads, ?_⟩
    · simp only [encodeSymbols, hrest, List.cons_append]
    · simp only [List.forall_mem_cons]
      exact ⟨symbol_mem (by omega), symbol_mem (by omega), symbol_mem (by omega), symbol_mem (by omega), hsymbols⟩

theorem isPadded_encode (bytes : List UInt8) : IsPadded (encode bytes) := by
  constructor
  · rw [encode, String.length_ofList, length_encodeSymbols]
    omega
  · rw [encode, String.toList_ofList]
    exact exists_encodeSymbols bytes

theorem IsPadded.mem {text : String} (h : IsPadded text) {c : Char} (hc : c ∈ text.toList) :
    c ∈ alphabet.toList ∨ c = '=' := by
  obtain ⟨symbols, pads, htext, _, hsymbols⟩ := h.filled
  rw [htext, List.mem_append] at hc
  rcases hc with hc | hc
  · exact .inl (hsymbols c hc)
  · exact .inr (List.eq_of_mem_replicate hc)

/-! ## Groups -/

/-- The byte that a symbol is written in. -/
def symbolByte (n : Nat) : UInt8 :=
  UInt8.ofNat (symbol n).toNat

theorem utf8EncodeChar_symbol (h : x < 64) : String.utf8EncodeChar (symbol x) = [symbolByte x] := by
  have hall : ∀ n < 64, String.utf8EncodeChar (symbol n) = [symbolByte n] := by decide
  exact hall x h

theorem valueAt_symbolByte (h : x < 64) : valueAt start (symbolByte x) = .ok x := by
  have hall : ∀ n < 64, value? (symbolByte n) = some n := by decide
  rw [valueAt, hall x h]

theorem symbolByte_ne_pad (h : x < 64) : symbolByte x ≠ pad := by
  have hall : ∀ n < 64, symbolByte n ≠ pad := by decide
  exact hall x h

theorem decodeLast_two (hw : w < 64) (hx : x < 64) (hspare : x % 16 = 0) :
    decodeLast start [symbolByte w, symbolByte x, pad, pad] = .ok [UInt8.ofNat (w * 4 + x / 16)] := by
  simp [decodeLast, splitLast, symbolByte_ne_pad, valueAt_symbolByte, hw, hx, hspare, bind, Except.bind, pure,
    Except.pure]

theorem decodeLast_three (hw : w < 64) (hx : x < 64) (hy : y < 64) (hspare : y % 4 = 0) :
    decodeLast start [symbolByte w, symbolByte x, symbolByte y, pad] =
      .ok [UInt8.ofNat (w * 4 + x / 16), UInt8.ofNat (x % 16 * 16 + y / 4)] := by
  simp [decodeLast, splitLast, symbolByte_ne_pad, valueAt_symbolByte, hw, hx, hy, hspare, bind, Except.bind, pure,
    Except.pure]

theorem decodeLast_four (hw : w < 64) (hx : x < 64) (hy : y < 64) (hz : z < 64) :
    decodeLast start [symbolByte w, symbolByte x, symbolByte y, symbolByte z] =
      .ok [UInt8.ofNat (w * 4 + x / 16), UInt8.ofNat (x % 16 * 16 + y / 4), UInt8.ofNat (y % 4 * 64 + z)] := by
  simp [decodeLast, splitLast, symbolByte_ne_pad, valueAt_symbolByte, hw, hx, hy, hz, bind, Except.bind, pure,
    Except.pure]

/-- A group that something follows is read on its own. -/
theorem decodeFrom_group (hw : w < 64) (hx : x < 64) (hy : y < 64) (hz : z < 64) {rest : List UInt8}
    (hrest : rest ≠ []) :
    decodeFrom start (symbolByte w :: symbolByte x :: symbolByte y :: symbolByte z :: rest) =
      (decodeFrom (start + 4) rest).map fun more => UInt8.ofNat (w * 4 + x / 16)
        :: UInt8.ofNat (x % 16 * 16 + y / 4) :: UInt8.ofNat (y % 4 * 64 + z) :: more := by
  cases rest with
  | nil => exact absurd rfl hrest
  | cons e rest =>
    rw [decodeFrom, valueAt_symbolByte hw, valueAt_symbolByte hx, valueAt_symbolByte hy, valueAt_symbolByte hz]
    cases decodeFrom (start + 4) (e :: rest) <;> rfl

/-! ## Reading back -/

theorem bytes_encode (bytes : List UInt8) :
    Utf8.encode (encode bytes) = (encodeSymbols bytes).flatMap String.utf8EncodeChar := by
  rw [Utf8.encode, encode, String.toList_ofList]

theorem bytes_encode_one (a : UInt8) :
    Utf8.encode (encode [a]) = [symbolByte (a.toNat / 4), symbolByte (a.toNat % 4 * 16), pad, pad] := by
  have ha := a.toNat_lt
  simp only [bytes_encode, encodeSymbols, List.flatMap_cons]
  rw [utf8EncodeChar_symbol (by omega), utf8EncodeChar_symbol (by omega)]
  rfl

theorem bytes_encode_two (a b : UInt8) :
    Utf8.encode (encode [a, b]) = [symbolByte (a.toNat / 4), symbolByte (a.toNat % 4 * 16 + b.toNat / 16),
      symbolByte (b.toNat % 16 * 4), pad] := by
  have ha := a.toNat_lt
  have hb := b.toNat_lt
  simp only [bytes_encode, encodeSymbols, List.flatMap_cons]
  rw [utf8EncodeChar_symbol (by omega), utf8EncodeChar_symbol (by omega), utf8EncodeChar_symbol (by omega)]
  rfl

theorem bytes_encode_three (a b c : UInt8) (rest : List UInt8) :
    Utf8.encode (encode (a :: b :: c :: rest)) =
      symbolByte (a.toNat / 4) :: symbolByte (a.toNat % 4 * 16 + b.toNat / 16)
        :: symbolByte (b.toNat % 16 * 4 + c.toNat / 64) :: symbolByte (c.toNat % 64) :: Utf8.encode (encode rest) := by
  have ha := a.toNat_lt
  have hb := b.toNat_lt
  have hc := c.toNat_lt
  simp only [bytes_encode, encodeSymbols, List.flatMap_cons]
  rw [utf8EncodeChar_symbol (by omega), utf8EncodeChar_symbol (by omega), utf8EncodeChar_symbol (by omega),
    utf8EncodeChar_symbol (by omega)]
  rfl

theorem length_bytes_encode (bytes : List UInt8) :
    (Utf8.encode (encode bytes)).length = (bytes.length + 2) / 3 * 4 := by
  induction bytes using encodeSymbols.induct with
  | case1 => rfl
  | case2 a => simp [bytes_encode_one]
  | case3 a b => simp [bytes_encode_two]
  | case4 a b c rest ih =>
    simp only [bytes_encode_three, List.length_cons, ih]
    omega

theorem bytes_encode_ne_nil (h : bytes ≠ []) : Utf8.encode (encode bytes) ≠ [] := by
  have hpos := List.length_pos_of_ne_nil h
  rw [← List.length_pos_iff, length_bytes_encode]
  omega

theorem decodeFrom_encode (h : bytes ≠ []) (start : Nat) :
    decodeFrom start (Utf8.encode (encode bytes)) = .ok bytes := by
  induction bytes using encodeSymbols.induct generalizing start with
  | case1 => exact absurd rfl h
  | case2 a =>
    have ha := a.toNat_lt
    rw [bytes_encode_one]
    refine (decodeLast_two (by omega) (by omega) (by omega)).trans ?_
    rw [Utf8.ofNat_eq (b := a) (by omega)]
  | case3 a b =>
    have ha := a.toNat_lt
    have hb := b.toNat_lt
    rw [bytes_encode_two]
    refine (decodeLast_three (by omega) (by omega) (by omega) (by omega)).trans ?_
    rw [Utf8.ofNat_eq (b := a) (by omega), Utf8.ofNat_eq (b := b) (by omega)]
  | case4 a b c rest ih =>
    have ha := a.toNat_lt
    have hb := b.toNat_lt
    have hc := c.toNat_lt
    rw [bytes_encode_three]
    by_cases hrest : rest = []
    · subst hrest
      refine (decodeLast_four (by omega) (by omega) (by omega) (by omega)).trans ?_
      rw [Utf8.ofNat_eq (b := a) (by omega), Utf8.ofNat_eq (b := b) (by omega), Utf8.ofNat_eq (b := c) (by omega)]
    · rw [decodeFrom_group (by omega) (by omega) (by omega) (by omega) (bytes_encode_ne_nil hrest), ih hrest]
      rw [Utf8.ofNat_eq (b := a) (by omega), Utf8.ofNat_eq (b := b) (by omega), Utf8.ofNat_eq (b := c) (by omega)]
      rfl

/-- The bytes that a Base64 text stands for are those that it was made of. -/
theorem decode_encode (bytes : List UInt8) : decode (Utf8.encode (encode bytes)) = .ok bytes := by
  by_cases h : bytes = []
  · subst h
    rfl
  · -- no symbol is left over, so nothing is looked at ahead of the groups
    have hgrouped : ¬ (Utf8.encode (encode bytes)).length % 4 = 1 := by
      rw [length_bytes_encode]
      omega
    unfold decode
    rw [List.getLast?_eq_some_getLast (bytes_encode_ne_nil h)]
    simp only [hgrouped, decide_false, Bool.false_and, Bool.false_eq_true, if_false]
    exact decodeFrom_encode h 0

end ServiceBroker.Base64
