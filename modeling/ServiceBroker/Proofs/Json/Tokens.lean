/-
Reading the tokens of a document: blanks, texts and numbers. Whatever way a token is written in,
reading it gives what it stands for and ends right behind it.
-/
import ServiceBroker.Proofs.Except
import ServiceBroker.Proofs.Json.Grammar
import ServiceBroker.Proofs.Text.Utf8

namespace ServiceBroker.Json

variable {offset : Nat} {bs rest : List UInt8}

/-! ## Places -/

@[simp] theorem Cursor.next_mk (offset : Nat) (b : UInt8) (rest : List UInt8) :
    Cursor.next ⟨offset, b :: rest⟩ = ⟨offset + 1, rest⟩ := rfl

theorem Cursor.drop_append (offset : Nat) (bs rest : List UInt8) :
    Cursor.drop ⟨offset, bs ++ rest⟩ bs.length = ⟨offset + bs.length, rest⟩ := by
  simp [Cursor.drop]

/-! ## Blanks -/

/-- No blank stands at the head. -/
def NoGap (rest : List UInt8) : Prop :=
  ∀ b ∈ rest.head?, isGap b = false

theorem isGap_of_mem {b : UInt8} (h : b ∈ ([9, 10, 13, 32] : List UInt8)) : isGap b = true := by
  simp only [List.mem_cons, List.not_mem_nil, or_false] at h
  rcases h with rfl | rfl | rfl | rfl <;> rfl

theorem skipGap_of_noGap (h : NoGap rest) : skipGap offset rest = ⟨offset, rest⟩ := by
  cases rest with
  | nil => rfl
  | cons b rest =>
    rw [skipGap, if_neg]
    rw [h b rfl]
    decide

theorem skipGap_append {g : List UInt8} (hg : Gap g) (h : NoGap rest) :
    skipGap offset (g ++ rest) = ⟨offset + g.length, rest⟩ := by
  induction g generalizing offset with
  | nil => exact skipGap_of_noGap h
  | cons b g ih =>
    have hb : isGap b = true := isGap_of_mem (hg b (List.mem_cons_self ..))
    rw [List.cons_append, skipGap, if_pos hb, ih fun b' hb' => hg b' (List.mem_cons_of_mem _ hb')]
    simp only [List.length_cons, Cursor.mk.injEq, and_true]
    omega

/-! ## Texts that are passed over -/

theorem simpleEscape?_of_mem {letter : UInt8} {c : Char} (h : (letter, c) ∈ marks) :
    ∃ b, simpleEscape? letter = some b ∧ String.utf8EncodeChar c = [b] := by
  simp only [marks, List.mem_cons, Prod.mk.injEq, List.not_mem_nil, or_false] at h
  rcases h with ⟨rfl, rfl⟩ | ⟨rfl, rfl⟩ | ⟨rfl, rfl⟩ | ⟨rfl, rfl⟩ | ⟨rfl, rfl⟩ | ⟨rfl, rfl⟩ | ⟨rfl, rfl⟩ |
    ⟨rfl, rfl⟩ <;> exact ⟨_, rfl, rfl⟩

theorem skipText_plain {b : UInt8} (h34 : b ≠ 34) (h92 : b ≠ 92) (h32 : 32 ≤ b) :
    skipText offset (b :: rest) = skipText (offset + 1) rest := by
  have h32 : ¬ b < 32 := UInt8.not_lt.2 h32
  rw [skipText.eq_def]
  simp [h34, h92, h32]

theorem skipText_mark {letter b : UInt8} (h : simpleEscape? letter = some b) :
    skipText offset (92 :: letter :: rest) = skipText (offset + 2) rest := by
  rw [skipText.eq_def]
  simp [h]

theorem skipText_code {a b c d : UInt8} {n : Nat} (h : hex4? a b c d = some n) :
    skipText offset (92 :: 117 :: a :: b :: c :: d :: rest) = skipText (offset + 6) rest := by
  have hu : (simpleEscape? 117).isSome = false := rfl
  rw [skipText.eq_def]
  simp [hu, h]

/-- A text is passed over up to its closing quote. -/
theorem skipText_of_passes (h : PassesChars bs) :
    skipText offset (bs ++ 34 :: rest) = .ok ⟨offset + bs.length + 1, rest⟩ := by
  induction h generalizing offset with
  | nil => exact skipText_quote
  | plain h34 h92 h32 _ ih =>
    rw [List.cons_append, skipText_plain h34 h92 h32, ih, List.length_cons]
    congr 2
    omega
  | mark hm _ ih =>
    obtain ⟨b, hs, _⟩ := simpleEscape?_of_mem hm
    simp only [List.cons_append]
    rw [skipText_mark hs, ih, List.length_cons, List.length_cons]
    congr 2
    omega
  | code hh _ ih =>
    simp only [List.cons_append]
    rw [skipText_code hh, ih]
    simp only [List.length_cons]
    congr 2
    omega

/-! ## Texts that are kept -/

theorem textBytes_plain {b : UInt8} (h34 : b ≠ 34) (h92 : b ≠ 92) (h32 : 32 ≤ b) :
    textBytes offset (b :: rest) = (textBytes (offset + 1) rest).map fun (bytes, stop) => (b :: bytes, stop) := by
  have h32 : ¬ b < 32 := UInt8.not_lt.2 h32
  rw [textBytes.eq_def]
  simp [h34, h92, h32]

theorem textBytes_mark {letter b : UInt8} (h : simpleEscape? letter = some b) :
    textBytes offset (92 :: letter :: rest) =
      (textBytes (offset + 2) rest).map fun (bytes, stop) => (b :: bytes, stop) := by
  rw [textBytes.eq_def]
  simp [h]

theorem textBytes_code {a b c d : UInt8} {n : Nat} (h : hex4? a b c d = some n) (hn : n < 0xD800 ∨ 0xDFFF < n) :
    textBytes offset (92 :: 117 :: a :: b :: c :: d :: rest) =
      (textBytes (offset + 6) rest).map fun (bytes, stop) => (charBytes n ++ bytes, stop) := by
  have hu : simpleEscape? 117 = none := rfl
  rw [textBytes.eq_def]
  simp only [hu, h]
  rw [if_neg (by decide), if_pos trivial, if_pos trivial, if_neg (by omega), if_pos (by omega)]

theorem textBytes_pair {a b c d a' b' c' d' : UInt8} {n m : Nat} (h : hex4? a b c d = some n) (hn : 0xD800 ≤ n)
    (hn' : n ≤ 0xDBFF) (h' : hex4? a' b' c' d' = some m) (hm : 0xDC00 ≤ m) (hm' : m ≤ 0xDFFF) :
    textBytes offset (92 :: 117 :: a :: b :: c :: d :: 92 :: 117 :: a' :: b' :: c' :: d' :: rest) =
      (textBytes (offset + 12) rest).map fun (bytes, stop) =>
        (charBytes ((n - 0xD800) * 0x400 + (m - 0xDC00) + pairBase) ++ bytes, stop) := by
  have hu : simpleEscape? 117 = none := rfl
  rw [textBytes.eq_def]
  simp only [hu, h, h']
  rw [if_neg (by decide), if_pos trivial, if_pos trivial, if_neg (by omega), if_neg (by omega), if_neg (by simp),
    if_neg (by simp), if_neg (by omega)]
  rfl

/-- Bytes that stand for themselves are kept as they are. -/
theorem textBytes_append {ps : List UInt8} (h : ∀ b ∈ ps, b ≠ 34 ∧ b ≠ 92 ∧ 32 ≤ b) :
    textBytes offset (ps ++ rest) =
      (textBytes (offset + ps.length) rest).map fun (bytes, stop) => (ps ++ bytes, stop) := by
  induction ps generalizing offset with
  | nil =>
    rw [List.nil_append, List.length_nil, Nat.add_zero]
    cases textBytes offset rest <;> rfl
  | cons b ps ih =>
    obtain ⟨h34, h92, h32⟩ := h b (List.mem_cons_self ..)
    rw [List.cons_append, textBytes_plain h34 h92 h32, ih fun b' hb' => h b' (List.mem_cons_of_mem _ hb'),
      List.length_cons, show offset + 1 + ps.length = offset + (ps.length + 1) by omega]
    cases textBytes (offset + (ps.length + 1)) rest <;> rfl

/-- The bytes of a character that stands for itself stand for themselves. -/
theorem plain_of_mem_utf8EncodeChar {c : Char} (hq : c ≠ '"') (hb : c ≠ '\\') (h32 : 32 ≤ c.toNat) {b : UInt8}
    (h : b ∈ String.utf8EncodeChar c) : b ≠ 34 ∧ b ≠ 92 ∧ 32 ≤ b := by
  have h34 : c.toNat ≠ 34 := fun h => hq (Char.toNat_inj.1 h)
  have h92 : c.toNat ≠ 92 := fun h => hb (Char.toNat_inj.1 h)
  simp only [ne_eq, UInt8.le_iff_toNat_le, ← UInt8.toNat_inj, UInt8.toNat_ofNat]
  rcases Utf8.toNat_of_mem_utf8EncodeChar h with heq | hle <;> omega

/-- A text that spells characters gives their bytes. -/
theorem textBytes_of_spells {cs : List Char} (h : SpellsChars bs cs) :
    textBytes offset (bs ++ 34 :: rest) =
      .ok (cs.flatMap String.utf8EncodeChar, offset + bs.length + 1) := by
  induction h generalizing offset with
  | nil => exact textBytes_quote
  | plain hq hb h32 _ ih =>
    rw [List.append_assoc, textBytes_append fun b h => plain_of_mem_utf8EncodeChar hq hb h32 h, ih]
    simp only [Except.map, List.flatMap_cons, List.length_append, Nat.add_assoc]
  | mark hm _ ih =>
    obtain ⟨b, hs, hb⟩ := simpleEscape?_of_mem hm
    simp only [List.cons_append]
    rw [textBytes_mark hs, ih, List.flatMap_cons, hb]
    simp only [Except.map, List.length_cons, List.cons_append, List.nil_append, Except.ok.injEq, Prod.mk.injEq,
      true_and]
    omega
  | code hh hn _ ih =>
    simp only [List.cons_append]
    rw [textBytes_code hh hn, ih, List.flatMap_cons]
    simp only [Except.map, List.length_cons, charBytes, Except.ok.injEq, Prod.mk.injEq, true_and]
    omega
  | pair hh hn hn' hh' hm hm' _ ih =>
    simp only [List.cons_append]
    rw [textBytes_pair hh hn hn' hh' hm hm', ih, List.flatMap_cons]
    simp only [Except.map, List.length_cons, charBytes, Except.ok.injEq, Prod.mk.injEq, true_and]
    omega

/-- Whatever spells characters can be passed over. -/
theorem SpellsChars.passes {cs : List Char} (h : SpellsChars bs cs) : PassesChars bs := by
  induction h with
  | nil => exact .nil
  | @plain bs cs c hq hb h32 _ ih =>
    have hp : ∀ b ∈ String.utf8EncodeChar c, b ≠ 34 ∧ b ≠ 92 ∧ 32 ≤ b :=
      fun b h => plain_of_mem_utf8EncodeChar hq hb h32 h
    -- The bytes of one character are passed over one by one.
    generalize String.utf8EncodeChar c = ps at hp
    induction ps with
    | nil => exact ih
    | cons b ps ihp =>
      obtain ⟨h34, h92, h32⟩ := hp b (List.mem_cons_self ..)
      exact .plain h34 h92 h32 (ihp fun b' hb' => hp b' (List.mem_cons_of_mem _ hb'))
  | mark hm _ ih => exact .mark hm ih
  | code hh _ _ ih => exact .code hh ih
  | pair hh _ _ hh' _ _ _ ih => exact .code hh (.code hh' ih)

/-- The characters that a text spells are its contents. -/
theorem readText_of_spells {cs : List Char} (h : SpellsChars bs cs) :
    readText ⟨offset, bs ++ 34 :: rest⟩ =
      .ok (.ok (String.ofList cs), ⟨offset + bs.length + 1, rest⟩) := by
  have hk : keepText ⟨offset, bs ++ 34 :: rest⟩ = .ok (String.ofList cs) := by
    unfold keepText
    refine bind_eq_ok_iff.2 ⟨_, textBytes_of_spells h, ?_⟩
    simp only [Utf8.decode_flatMap]
    rfl
  unfold readText
  rw [skipText_of_passes h.passes, hk]

/-! ## Digits -/

/-- No digit stands at the head. -/
def NoDigit (rest : List UInt8) : Prop :=
  ∀ b ∈ rest.head?, isDigit b = false

/-- Nothing that could go on with a number stands at the head. -/
def EndsNumber (rest : List UInt8) : Prop :=
  ∀ b ∈ rest.head?, isDigit b = false ∧ b ≠ 46 ∧ b ≠ 101 ∧ b ≠ 69

theorem EndsNumber.noDigit (h : EndsNumber rest) : NoDigit rest :=
  fun b hb => (h b hb).1

theorem toNat_digitByte {d : Nat} (h : d < 10) : (UInt8.ofNat (d + 48)).toNat = d + 48 :=
  Utf8.toNat_ofNat_of_lt (by omega)

theorem digitByte_ne {d : Nat} (h : d < 10) {b : UInt8} (hb : d + 48 ≠ b.toNat) : UInt8.ofNat (d + 48) ≠ b := by
  rintro rfl
  exact hb (toNat_digitByte h).symm

theorem isDigit_digitByte {d : Nat} (h : d < 10) : isDigit (UInt8.ofNat (d + 48)) = true := by
  unfold isDigit
  simp only [Bool.and_eq_true, decide_eq_true_eq, UInt8.le_iff_toNat_le, toNat_digitByte h, UInt8.toNat_ofNat]
  omega

theorem digitValue_digitByte {d : Nat} (h : d < 10) : digitValue (UInt8.ofNat (d + 48)) = d := by
  unfold digitValue
  rw [toNat_digitByte h]
  omega

theorem takeWhile_digitBytes {ds : List Nat} (h : ∀ d ∈ ds, d < 10) (hr : NoDigit rest) :
    (digitBytes ds ++ rest).takeWhile isDigit = digitBytes ds := by
  have hall : ∀ b ∈ digitBytes ds, isDigit b = true := by
    intro b hb
    obtain ⟨d, hd, rfl⟩ := List.mem_map.1 hb
    exact isDigit_digitByte (h d hd)
  rw [List.takeWhile_append_of_pos hall]
  cases rest with
  | nil => simp
  | cons b rest => rw [List.takeWhile_cons_of_neg (by rw [hr b rfl]; decide), List.append_nil]

theorem takeDigits_append {ds : List Nat} (h : ∀ d ∈ ds, d < 10) (hr : NoDigit rest) :
    takeDigits ⟨offset, digitBytes ds ++ rest⟩ = (ds, ⟨offset + (digitBytes ds).length, rest⟩) := by
  have hv : (digitBytes ds).map digitValue = ds := by
    unfold digitBytes
    rw [List.map_map]
    exact (List.map_congr_left fun d hd => digitValue_digitByte (h d hd)).trans (List.map_id ds)
  unfold takeDigits
  simp only [takeWhile_digitBytes h hr, hv, Cursor.drop_append]

/-! ## Numbers -/

theorem readWhole_of_spells (offset : Nat) {whole : List Nat} (h : SpellsWhole bs whole) (hr : NoDigit rest) :
    readWhole ⟨offset, bs ++ rest⟩ = .ok (whole, ⟨offset + bs.length, rest⟩) := by
  cases h with
  | zero =>
    cases rest with
    | nil => rfl
    | cons b rest =>
      have hb : isDigit b = false := hr b rfl
      simp [readWhole, hb]
  | @figures d ds hd hf =>
    have h10 := hf.2 d (List.mem_cons_self ..)
    have h48 : UInt8.ofNat (d + 48) ≠ 48 := digitByte_ne h10 (by simpa using hd)
    show (if UInt8.ofNat (d + 48) = 48 then _ else if isDigit (UInt8.ofNat (d + 48)) = true then
      Except.ok (takeDigits ⟨offset, digitBytes (d :: ds) ++ rest⟩) else _) = _
    rw [if_neg h48, if_pos (isDigit_digitByte h10), takeDigits_append hf.2 hr]

theorem readFraction_of_spells (offset : Nat) {fraction : Option (List Nat)} (h : SpellsFraction bs fraction)
    (hr : NoDigit rest) (hp : ∀ b ∈ rest.head?, b ≠ 46) :
    readFraction ⟨offset, bs ++ rest⟩ = .ok (fraction, ⟨offset + bs.length, rest⟩) := by
  cases h with
  | absent =>
    cases rest with
    | nil => rfl
    | cons b rest => simp [readFraction, hp b rfl]
  | @present ds hf =>
    have he : ds.isEmpty = false := by simpa using hf.1
    simp only [List.cons_append, readFraction, if_true, Cursor.next_mk, takeDigits_append hf.2 hr, he,
      Bool.false_eq_true, if_false, List.length_cons, Except.ok.injEq, Prod.mk.injEq, Cursor.mk.injEq, and_true,
      true_and]
    omega

theorem readExponentSign_digits {ds : List Nat} (h : Figures ds) :
    readExponentSign ⟨offset, digitBytes ds ++ rest⟩ = (false, ⟨offset, digitBytes ds ++ rest⟩) := by
  cases ds with
  | nil => exact absurd rfl h.1
  | cons d ds =>
    have h10 := h.2 d (List.mem_cons_self ..)
    have h45 : UInt8.ofNat (d + 48) ≠ 45 := digitByte_ne h10 (by simp)
    have h43 : UInt8.ofNat (d + 48) ≠ 43 := digitByte_ne h10 (by simp)
    show (if UInt8.ofNat (d + 48) = 45 then _ else if UInt8.ofNat (d + 48) = 43 then _ else _) = _
    rw [if_neg h45, if_neg h43]

/-- The digits of an exponent behind its letter and its sign. -/
theorem readExponent_of_sign (sign : List UInt8) {e : UInt8} {ds : List Nat} {minus : Bool} (he : e = 101 ∨ e = 69)
    (hf : Figures ds) (hr : NoDigit rest)
    (hs : readExponentSign ⟨offset + 1, sign ++ digitBytes ds ++ rest⟩ =
      (minus, ⟨offset + 1 + sign.length, digitBytes ds ++ rest⟩)) :
    readExponent ⟨offset, e :: sign ++ digitBytes ds ++ rest⟩ =
      .ok (some (minus, ds), offset + 1 + sign.length,
        ⟨offset + (e :: sign ++ digitBytes ds).length, rest⟩) := by
  have hne : ds.isEmpty = false := by simpa using hf.1
  have he : (decide (e = 101) || decide (e = 69)) = true := by simpa using he
  simp only [List.cons_append, readExponent, he, if_true, Cursor.next_mk, hs, takeDigits_append hf.2 hr, hne,
    Bool.false_eq_true, if_false, List.length_cons, List.length_append, Except.ok.injEq, Prod.mk.injEq,
    Cursor.mk.injEq, and_true, true_and]
  omega

theorem readExponent_of_spells (offset : Nat) {exponent : Option (Bool × List Nat)}
    (h : SpellsExponent bs exponent) (hr : EndsNumber rest) :
    ∃ start, readExponent ⟨offset, bs ++ rest⟩ = .ok (exponent, start, ⟨offset + bs.length, rest⟩) := by
  cases h with
  | absent =>
    refine ⟨offset, ?_⟩
    cases rest with
    | nil => rfl
    | cons b rest =>
      obtain ⟨_, _, h101, h69⟩ := hr b rfl
      simp [readExponent, h101, h69]
  | unsigned he hf =>
    exact ⟨_, readExponent_of_sign [] he hf hr.noDigit (readExponentSign_digits hf)⟩
  | plus he hf => exact ⟨_, readExponent_of_sign [43] he hf hr.noDigit rfl⟩
  | minus he hf => exact ⟨_, readExponent_of_sign [45] he hf hr.noDigit rfl⟩

/-- An exponent does not begin with a digit or a point. -/
theorem head_exponent {exponent : Option (Bool × List Nat)} (h : SpellsExponent bs exponent)
    (hr : EndsNumber rest) : ∀ b ∈ (bs ++ rest).head?, isDigit b = false ∧ b ≠ 46 := by
  have hletter : ∀ e : UInt8, e = 101 ∨ e = 69 → isDigit e = false ∧ e ≠ 46 := by
    rintro e (rfl | rfl) <;> decide
  cases h with
  | absent => exact fun b hb => ⟨(hr b hb).1, (hr b hb).2.1⟩
  | unsigned he _ => rintro b ⟨⟩; exact hletter _ he
  | plus he _ => rintro b ⟨⟩; exact hletter _ he
  | minus he _ => rintro b ⟨⟩; exact hletter _ he

/-- A fraction does not begin with a digit. -/
theorem noDigit_fraction {fraction : Option (List Nat)} (h : SpellsFraction bs fraction) (hr : NoDigit rest) :
    NoDigit (bs ++ rest) := by
  cases h with
  | absent => exact hr
  | present => rintro b ⟨⟩; rfl

/-- The digits before the point are not a sign. -/
theorem head_whole {whole : List Nat} (h : SpellsWhole bs whole) : ((bs ++ rest).head? == some 45) = false := by
  cases h with
  | zero => rfl
  | @figures d ds hd hf =>
    have h45 : UInt8.ofNat (d + 48) ≠ 45 := digitByte_ne (hf.2 d (List.mem_cons_self ..)) (by simp)
    simpa [digitBytes] using h45

/-- Where a fault of a number would be placed makes no difference to its value. -/
theorem toOption_keepNumber (l : Decimal.Literal) (start stop : Nat) :
    (keepNumber l start stop).toOption = number? l := by
  unfold number? keepNumber
  split
  · split <;> rfl
  · rfl
  · rfl
  · rfl

/-- The three parts of a number behind its sign. -/
theorem readParts (offset : Nat) {ws fs es : List UInt8} {whole : List Nat} {fraction : Option (List Nat)}
    {exponent : Option (Bool × List Nat)} (hw : SpellsWhole ws whole) (hf : SpellsFraction fs fraction)
    (he : SpellsExponent es exponent) (hr : EndsNumber rest) :
    ∃ start c c', readWhole ⟨offset, ws ++ fs ++ es ++ rest⟩ = .ok (whole, c) ∧
      readFraction c = .ok (fraction, c') ∧
      readExponent c' = .ok (exponent, start, ⟨offset + (ws ++ fs ++ es).length, rest⟩) := by
  have hd : NoDigit (es ++ rest) := fun b hb => (head_exponent he hr b hb).1
  have hw' := readWhole_of_spells offset hw (noDigit_fraction hf hd)
  have hf' := readFraction_of_spells (offset + ws.length) hf hd fun b hb => (head_exponent he hr b hb).2
  obtain ⟨start, he'⟩ := readExponent_of_spells (offset + ws.length + fs.length) he hr
  refine ⟨start, _, _, ?_, hf', ?_⟩
  · rw [List.append_assoc, List.append_assoc]
    exact hw'
  · rw [he']
    simp only [List.length_append, Nat.add_assoc]

/-- A number is read up to what cannot go on with it. -/
theorem readNumber_of_spells (offset : Nat) {l : Decimal.Literal} (h : SpellsLiteral bs l)
    (hr : EndsNumber rest) :
    ∃ value, readNumber ⟨offset, bs ++ rest⟩ = .ok (value, ⟨offset + bs.length, rest⟩) ∧
      value.toOption = number? l := by
  cases h with
  | @unsigned ws fs es whole fraction exponent hw hf he =>
    obtain ⟨start, c, c', h₁, h₂, h₃⟩ := readParts offset hw hf he hr
    refine ⟨_, ?_, toOption_keepNumber _ start (offset + (ws ++ fs ++ es).length)⟩
    have hm : ((ws ++ fs ++ es ++ rest).head? == some 45) = false := by
      rw [List.append_assoc, List.append_assoc]
      exact head_whole hw
    unfold readNumber
    simp only [hm, Bool.false_eq_true, if_false, h₁, h₂, h₃, bind, Except.bind, pure, Except.pure]
  | @minus ws fs es whole fraction exponent hw hf he =>
    obtain ⟨start, c, c', h₁, h₂, h₃⟩ := readParts (offset + 1) hw hf he hr
    refine ⟨_, ?_, toOption_keepNumber _ start (offset + 1 + (ws ++ fs ++ es).length)⟩
    have hl : offset + (45 :: ws ++ fs ++ es).length = offset + 1 + (ws ++ fs ++ es).length := by
      simp only [List.cons_append, List.length_cons]
      omega
    unfold readNumber
    rw [hl]
    simp only [List.cons_append, List.head?_cons, beq_self_eq_true, if_true, Cursor.next_mk, h₁, h₂, h₃, bind,
      Except.bind, pure, Except.pure]

end ServiceBroker.Json
