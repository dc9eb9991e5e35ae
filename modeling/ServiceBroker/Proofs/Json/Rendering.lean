/-
Printed trees are documents. The compact text of a tree without doubles spells exactly what the tree holds
(`spells_render`): every character of a text and every digit of an integer is there to be read back.
-/
import ServiceBroker.Json.Printer
import ServiceBroker.Proofs.Json.Grammar
import ServiceBroker.Proofs.Text.Utf8

namespace ServiceBroker.Json

/-! ## What a tree says -/

mutual

/-- The content that a tree says. -/
def Content.ofJson : Json → Content
  | .null => .null
  | .bool b => .bool b
  | .number n => .number (some n)
  | .text s => .text (some s)
  | .array items => .array (Content.ofItems items)
  | .object members => .object (Content.ofMembers members)

/-- The contents of items. -/
def Content.ofItems : List Json → List Content
  | [] => []
  | j :: rest => .ofJson j :: Content.ofItems rest

/-- The contents of members. -/
def Content.ofMembers : List (String × Json) → List (String × Content)
  | [] => []
  | (name, j) :: rest => (name, .ofJson j) :: Content.ofMembers rest

end

mutual

/-- Every number in a tree is an integer. -/
inductive Integral : Json → Prop
  | null : Integral .null
  | bool (b : Bool) : Integral (.bool b)
  | integer (i : Int) (fits : Number.Fits i) : Integral (.number (.integer i fits))
  | text (s : String) : Integral (.text s)
  | array {items : List Json} : IntegralItems items → Integral (.array items)
  | object {members : List (String × Json)} : IntegralMembers members → Integral (.object members)

/-- Every number in a list of items is an integer. -/
inductive IntegralItems : List Json → Prop
  | nil : IntegralItems []
  | cons {j : Json} {rest : List Json} : Integral j → IntegralItems rest → IntegralItems (j :: rest)

/-- Every number in a list of members is an integer. -/
inductive IntegralMembers : List (String × Json) → Prop
  | nil : IntegralMembers []
  | cons {name : String} {j : Json} {rest : List (String × Json)} : Integral j → IntegralMembers rest →
      IntegralMembers ((name, j) :: rest)

end

/-- The bytes of characters. -/
def bytesOf (cs : List Char) : List UInt8 :=
  cs.flatMap String.utf8EncodeChar

theorem bytesOf_append (cs cs' : List Char) : bytesOf (cs ++ cs') = bytesOf cs ++ bytesOf cs' :=
  List.flatMap_append

theorem bytesOf_cons (c : Char) (cs : List Char) : bytesOf (c :: cs) = String.utf8EncodeChar c ++ bytesOf cs :=
  rfl

/-! ## Integers -/

/-- The decimal digits of a number, the first one first. -/
def figures (n : Nat) : List Nat :=
  if n < 10 then [n] else figures (n / 10) ++ [n % 10]

theorem figures_of_lt {n : Nat} (h : n < 10) : figures n = [n] := by
  rw [figures, if_pos h]

theorem figures_of_le {n : Nat} (h : 10 ≤ n) : figures n = figures (n / 10) ++ [n % 10] := by
  rw [figures, if_neg (by omega)]

theorem figures_spec (n : Nat) : Figures (figures n) := by
  induction n using Nat.strongRecOn with
  | ind n ih =>
    by_cases h : n < 10
    · rw [figures_of_lt h]
      exact ⟨by simp, by simpa using h⟩
    · rw [figures_of_le (by omega)]
      obtain ⟨hne, hlt⟩ := ih (n / 10) (by omega)
      refine ⟨by simp, fun d hd => ?_⟩
      rcases List.mem_append.1 hd with hd | hd
      · exact hlt d hd
      · rw [List.mem_singleton.1 hd]
        omega

/-- Only zero begins with a zero. -/
theorem head_figures {n : Nat} (h : n ≠ 0) : ∃ d ds, figures n = d :: ds ∧ d ≠ 0 := by
  induction n using Nat.strongRecOn with
  | ind n ih =>
    by_cases h10 : n < 10
    · exact ⟨n, [], figures_of_lt h10, h⟩
    · obtain ⟨d, ds, hd, h0⟩ := ih (n / 10) (by omega) (by omega)
      exact ⟨d, ds ++ [n % 10], by rw [figures_of_le (by omega), hd, List.cons_append], h0⟩

theorem bytesOf_digitChar {d : Nat} (h : d < 10) :
    String.utf8EncodeChar (Nat.digitChar d) = [UInt8.ofNat (d + 48)] := by
  interval_cases d <;> rfl

theorem bytesOf_map_digitChar {ds : List Nat} (h : ∀ d ∈ ds, d < 10) :
    bytesOf (ds.map Nat.digitChar) = digitBytes ds := by
  induction ds with
  | nil => rfl
  | cons d ds ih =>
    obtain ⟨hd, hds⟩ := List.forall_mem_cons.1 h
    rw [List.map_cons, bytesOf_cons, bytesOf_digitChar hd, ih hds]
    rfl

theorem digits_eq (n : Nat) : digits n = (figures n).map Nat.digitChar := by
  induction n using Nat.strongRecOn with
  | ind n ih =>
    unfold digits at *
    rw [Nat.toDigits_eq_if (by decide)]
    by_cases h : n < 10
    · rw [if_pos h, figures_of_lt h, List.map_singleton]
    · rw [if_neg h, figures_of_le (by omega), ih (n / 10) (by omega), List.map_append, List.map_singleton]

theorem bytesOf_digits (n : Nat) : bytesOf (digits n) = digitBytes (figures n) := by
  rw [digits_eq, bytesOf_map_digitChar (figures_spec n).2]

/-- Digits are taken up one after another, as long as there is room. -/
theorem absorb_append {n m d : Nat} {ds : List Nat} (h : Decimal.absorb n ds = (m, []))
    (hd : m * 10 + d < Decimal.significandBound) : Decimal.absorb n (ds ++ [d]) = (m * 10 + d, []) := by
  induction ds generalizing n with
  | nil =>
    cases h
    rw [List.nil_append, Decimal.absorb, if_pos hd, Decimal.absorb]
  | cons c ds ih =>
    rw [Decimal.absorb] at h
    split_ifs at h with hc
    · rw [List.cons_append, Decimal.absorb, if_pos hc]
      exact ih h
    · cases h

theorem absorb_figures {n : Nat} (h : n < Decimal.significandBound) : Decimal.absorb 0 (figures n) = (n, []) := by
  induction n using Nat.strongRecOn with
  | ind n ih =>
    by_cases h10 : n < 10
    · rw [figures_of_lt h10, Decimal.absorb, if_pos (by omega), Decimal.absorb]
      simp
    · have hd : n / 10 * 10 + n % 10 = n := by omega
      rw [figures_of_le (by omega), absorb_append (ih (n / 10) (by omega) (by omega)) (by omega), hd]

theorem spellsWhole_figures (n : Nat) : SpellsWhole (digitBytes (figures n)) (figures n) := by
  by_cases h : n = 0
  · subst h
    rw [figures_of_lt (by decide)]
    exact .zero
  · obtain ⟨d, ds, hd, h0⟩ := head_figures h
    have hf := figures_spec n
    rw [hd] at hf ⊢
    exact .figures h0 hf

/-- The digits of a natural number stand for it. -/
theorem number?_figures {n : Nat} (fits : Number.Fits n) :
    number? ⟨false, figures n, none, none⟩ = some (.integer n fits) := by
  have hn : n < Decimal.significandBound := by
    unfold Decimal.significandBound
    omega
  have hr : Decimal.Literal.read ⟨false, figures n, none, none⟩ = .integer n := by
    unfold Decimal.Literal.read
    simp only [absorb_figures hn]
    rfl
  unfold number? keepNumber
  rw [hr]
  simp only [dif_pos fits]
  rfl

/-- The digits behind a minus stand for the negative number. -/
theorem number?_minus_figures {n : Nat} (h0 : 0 < n) (fits : Number.Fits (-(n : Int))) :
    number? ⟨true, figures n, none, none⟩ = some (.integer (-n) fits) := by
  have hn : n < Decimal.significandBound := by
    unfold Decimal.significandBound
    omega
  have h63 : 0 < n ∧ n ≤ 0x8000000000000000 := ⟨h0, by omega⟩
  have hr : Decimal.Literal.read ⟨true, figures n, none, none⟩ = .integer (-n) := by
    unfold Decimal.Literal.read
    simp only [absorb_figures hn, if_pos h63]
    rfl
  unfold number? keepNumber
  rw [hr]
  simp only [dif_pos fits]
  rfl

theorem spells_integer (i : Int) (fits : Number.Fits i) :
    Spells (bytesOf (renderNumber (.integer i fits))) (.number (some (.integer i fits))) := by
  cases i with
  | ofNat n =>
    have hs := SpellsLiteral.unsigned (spellsWhole_figures n) .absent .absent
    rw [List.append_nil, List.append_nil] at hs
    rw [renderNumber, bytesOf_digits]
    exact (number?_figures fits) ▸ Spells.number hs
  | negSucc n =>
    have hs := SpellsLiteral.minus (spellsWhole_figures (n + 1)) .absent .absent
    rw [List.append_nil, List.append_nil] at hs
    rw [renderNumber, bytesOf_cons, bytesOf_digits]
    exact (number?_minus_figures (Nat.succ_pos n) fits) ▸ Spells.number hs

/-! ## Texts -/

/-- The two hexadecimal digits of a control character. -/
theorem hex4?_control {n : Nat} (h : n < 32) :
    ∃ c d, String.utf8EncodeChar (Numeral.lowerHex (n / 16)) = [c] ∧
      String.utf8EncodeChar (Numeral.lowerHex (n % 16)) = [d] ∧ hex4? 48 48 c d = some n := by
  interval_cases n <;> exact ⟨_, _, rfl, rfl, rfl⟩

/-- A character inside a text is printed in one of the ways to write it. -/
theorem spellsChars_cons (c : Char) {bs : List UInt8} {cs : List Char} (h : SpellsChars bs cs) :
    SpellsChars (bytesOf (renderChar c) ++ bs) (c :: cs) := by
  have hmark : ∀ letter mark, (letter, c) ∈ marks → String.utf8EncodeChar mark = [letter] →
      SpellsChars (bytesOf ['\\', mark] ++ bs) (c :: cs) := by
    intro letter mark hm hl
    rw [bytesOf_cons, bytesOf_cons, hl]
    exact .mark hm h
  unfold renderChar
  split_ifs with hq hb h8 hf hn hr ht h32
  · exact hmark 34 '"' (by rw [hq]; decide) rfl
  · exact hmark 92 '\\' (by rw [hb]; decide) rfl
  · exact hmark 98 'b' (by rw [h8]; decide) rfl
  · exact hmark 102 'f' (by rw [hf]; decide) rfl
  · exact hmark 110 'n' (by rw [hn]; decide) rfl
  · exact hmark 114 'r' (by rw [hr]; decide) rfl
  · exact hmark 116 't' (by rw [ht]; decide) rfl
  · obtain ⟨x, y, hx, hy, hh⟩ := hex4?_control h32
    have hs := SpellsChars.code hh (.inl (by omega)) h
    rw [Char.ofNat_toNat] at hs
    simp only [bytesOf_cons, hx, hy]
    exact hs
  · rw [bytesOf_cons]
    show SpellsChars (String.utf8EncodeChar c ++ bytesOf [] ++ bs) (c :: cs)
    rw [show bytesOf [] = [] from rfl, List.append_nil]
    exact .plain hq hb (by omega) h

theorem spellsChars_flatMap (cs : List Char) : SpellsChars (bytesOf (cs.flatMap renderChar)) cs := by
  induction cs with
  | nil => exact .nil
  | cons c cs ih =>
    rw [List.flatMap_cons, bytesOf_append]
    exact spellsChars_cons c ih

theorem bytesOf_renderText (s : String) : bytesOf (renderText s) = quoted (bytesOf (s.toList.flatMap renderChar)) := by
  unfold renderText quoted
  rw [bytesOf_append, bytesOf_cons]
  rfl

theorem spells_text (s : String) : Spells (bytesOf (renderText s)) (.text (some s)) := by
  have h := Spells.text (spellsChars_flatMap s.toList)
  rwa [String.ofList_toList, ← bytesOf_renderText] at h

/-! ## Trees -/

/-- A member is printed as its name, a colon and its value. -/
theorem spellsMembers_cons {name : String} {vs rest : List UInt8} {value : Content}
    {members : List (String × Content)} (hv : Spells vs value) (hr : SpellsMembers rest members) :
    SpellsMembers (bytesOf (renderText name) ++ 58 :: vs ++ 44 :: rest) ((name, value) :: members) := by
  have h := SpellsMembers.more gap_nil (spellsChars_flatMap name.toList) gap_nil gap_nil hv gap_nil hr
  rw [String.ofList_toList, List.nil_append, List.append_nil, List.append_nil, List.append_assoc _ [58],
    ← bytesOf_renderText] at h
  exact h

theorem spellsMembers_singleton {name : String} {vs : List UInt8} {value : Content} (hv : Spells vs value) :
    SpellsMembers (bytesOf (renderText name) ++ 58 :: vs ++ [125]) [(name, value)] := by
  have h := SpellsMembers.last gap_nil (spellsChars_flatMap name.toList) gap_nil gap_nil hv gap_nil
  rw [String.ofList_toList, List.nil_append, List.append_nil, List.append_nil, List.append_assoc _ [58],
    ← bytesOf_renderText] at h
  exact h

theorem spellsItems_cons {vs rest : List UInt8} {item : Content} {items : List Content} (hv : Spells vs item)
    (hr : SpellsItems rest items) : SpellsItems (vs ++ 44 :: rest) (item :: items) := by
  have h := SpellsItems.more gap_nil hv gap_nil hr
  rwa [List.nil_append, List.append_nil] at h

theorem spellsItems_singleton {vs : List UInt8} {item : Content} (hv : Spells vs item) :
    SpellsItems (vs ++ [93]) [item] := by
  have h := SpellsItems.last gap_nil hv gap_nil
  rwa [List.nil_append, List.append_nil] at h

mutual

/-- The printed characters of a tree spell what it says. -/
theorem spells_renderChars : (j : Json) → j.Integral → Spells (bytesOf (renderChars j)) (.ofJson j)
  | .null, _ => .null
  | .bool true, _ => .true
  | .bool false, _ => .false
  | .number _, .integer i fits => spells_integer i fits
  | .text s, _ => spells_text s
  | .array items, .array h => by
    by_cases hi : items = []
    · subst hi
      exact .emptyArray gap_nil
    · exact .array (spellsItems_renderItems items hi h)
  | .object members, .object h => by
    by_cases hm : members = []
    · subst hm
      exact .emptyObject gap_nil
    · exact .object (spellsMembers_renderMembers members hm h)

theorem spellsItems_renderItems : (items : List Json) → items ≠ [] → IntegralItems items →
    SpellsItems (bytesOf (renderItems items)) (Content.ofItems items)
  | [], hne, _ => absurd rfl hne
  | [j], _, .cons hj _ => by
    rw [renderItems, bytesOf_append]
    exact spellsItems_singleton (spells_renderChars j hj)
  | j :: k :: rest, _, .cons hj hrest => by
    rw [renderItems, bytesOf_append, bytesOf_cons]
    · exact spellsItems_cons (spells_renderChars j hj)
        (spellsItems_renderItems (k :: rest) (List.cons_ne_nil k rest) hrest)
    · nofun

theorem spellsMembers_renderMembers : (members : List (String × Json)) → members ≠ [] → IntegralMembers members →
    SpellsMembers (bytesOf (renderMembers members)) (Content.ofMembers members)
  | [], hne, _ => absurd rfl hne
  | [(name, j)], _, .cons hj _ => by
    rw [renderMembers, bytesOf_append, bytesOf_append, bytesOf_cons]
    exact spellsMembers_singleton (spells_renderChars j hj)
  | (name, j) :: m :: rest, _, .cons hj hrest => by
    rw [renderMembers, bytesOf_append, bytesOf_append, bytesOf_cons, bytesOf_cons]
    · exact spellsMembers_cons (spells_renderChars j hj)
        (spellsMembers_renderMembers (m :: rest) (List.cons_ne_nil m rest) hrest)
    · nofun

end

/-- The compact text of a tree without doubles is a document that says what the tree says. -/
theorem spells_render {j : Json} (h : j.Integral) : SpellsDocument (Utf8.encode (render j)) (.ofJson j) := by
  refine ⟨[], bytesOf (renderChars j), [], gap_nil, spells_renderChars j h, gap_nil, ?_⟩
  unfold Utf8.encode render
  rw [String.toList_ofList, List.nil_append, List.append_nil]
  rfl

end ServiceBroker.Json
