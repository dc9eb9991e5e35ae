/-
The syntax of JSON, without regard to what a document says. A value is written with any blanks between its tokens; an
array and an object are lists of written items and members. `IsValue` holds of more than what has a content: texts may
have surrogates that stand alone in them and numbers may be out of range. Every such value is read to its end wherever
it stands, always as the same tree (`readAs_of_isValue`), and can be passed over.
-/
import ServiceBroker.Proofs.Json.Places
import ServiceBroker.Proofs.Json.Reading

namespace ServiceBroker.Json

/-! ## Written values -/

/-- An item of an array: a value and the blanks around it. -/
structure Item where
  lead : List UInt8
  value : List UInt8
  trail : List UInt8

/-- A member of an object: the bytes between the quotes of its name, the blanks around the name, and what stands behind
the colon. -/
structure Entry where
  lead : List UInt8
  name : List UInt8
  trail : List UInt8
  item : Item

/-- An item as it is written. -/
def Item.bytes (i : Item) : List UInt8 :=
  i.lead ++ i.value ++ i.trail

/-- A member as it is written. -/
def Entry.bytes (e : Entry) : List UInt8 :=
  e.lead ++ quoted e.name ++ e.trail ++ 58 :: e.item.bytes

/-- Nothing but blanks around a value. -/
structure Item.Spaced (i : Item) : Prop where
  lead : Gap i.lead
  trail : Gap i.trail

/-- Nothing but blanks around the parts of a member, and a name that can be passed over. -/
structure Entry.Spaced (e : Entry) : Prop where
  lead : Gap e.lead
  name : PassesChars e.name
  trail : Gap e.trail
  item : e.item.Spaced

/-- Parts with commas between them. -/
def commaed (parts : List (List UInt8)) : List UInt8 :=
  List.intercalate [44] parts

/-- An array of items. The blanks stand behind its bracket, and matter only if there are no items. -/
def arrayBytes (blanks : List UInt8) (items : List Item) : List UInt8 :=
  91 :: blanks ++ commaed (items.map Item.bytes) ++ [93]

/-- An object of members. -/
def objectBytes (blanks : List UInt8) (entries : List Entry) : List UInt8 :=
  123 :: blanks ++ commaed (entries.map Entry.bytes) ++ [125]

/-- Bytes are a value by their syntax. -/
inductive IsValue : List UInt8 → Prop
  | null : IsValue [110, 117, 108, 108]
  | true : IsValue [116, 114, 117, 101]
  | false : IsValue [102, 97, 108, 115, 101]
  | number {bs l} : SpellsLiteral bs l → IsValue bs
  | text {bs} : PassesChars bs → IsValue (quoted bs)
  | array {g} {items : List Item} : Gap g → (∀ i ∈ items, i.Spaced) → (∀ i ∈ items, IsValue i.value) →
      IsValue (arrayBytes g items)
  | object {g} {entries : List Entry} : Gap g → (∀ e ∈ entries, e.Spaced) → (∀ e ∈ entries, IsValue e.item.value) →
      IsValue (objectBytes g entries)

/-- An item with nothing but blanks around it, and with a value. -/
structure Item.Proper (i : Item) : Prop where
  spaced : i.Spaced
  value : IsValue i.value

/-- A member with nothing but blanks between its parts, and with a value. -/
structure Entry.Proper (e : Entry) : Prop where
  spaced : e.Spaced
  value : IsValue e.item.value

theorem commaed_cons_cons (p q : List UInt8) (ps : List (List UInt8)) :
    commaed (p :: q :: ps) = p ++ 44 :: commaed (q :: ps) := by
  simp [commaed, List.intercalate]

theorem commaed_nil : commaed [] = [] := rfl

theorem commaed_singleton (p : List UInt8) : commaed [p] = p := by
  simp [commaed, List.intercalate]

/-! ## Texts -/

section Texts

variable {offset n m : Nat} {a b c d a' b' c' d' : UInt8} {bs rest : List UInt8}

/-- The bytes that a text spells, if it spells any. -/
def spelled (offset : Nat) (bytes : List UInt8) : Option (List UInt8) :=
  (textBytes offset bytes).toOption.map Prod.fst

theorem spelled_map {x : Except Fault (List UInt8 × Nat)} (f : List UInt8 → List UInt8) :
    (x.map fun (bytes, stop) => (f bytes, stop)).toOption.map Prod.fst = (x.toOption.map Prod.fst).map f := by
  cases x <;> rfl

theorem spelled_plain (h34 : b ≠ 34) (h92 : b ≠ 92) (h32 : 32 ≤ b) :
    spelled offset (b :: rest) = (spelled (offset + 1) rest).map (b :: ·) := by
  unfold spelled
  rw [textBytes_plain h34 h92 h32]
  exact spelled_map (b :: ·)

theorem spelled_mark {letter : UInt8} (h : simpleEscape? letter = some b) :
    spelled offset (92 :: letter :: rest) = (spelled (offset + 2) rest).map (b :: ·) := by
  unfold spelled
  rw [textBytes_mark h]
  exact spelled_map (b :: ·)

theorem spelled_code (h : hex4? a b c d = some n) (hn : n < 0xD800 ∨ 0xDFFF < n) :
    spelled offset (92 :: 117 :: a :: b :: c :: d :: rest) = (spelled (offset + 6) rest).map (charBytes n ++ ·) := by
  unfold spelled
  rw [textBytes_code h hn]
  exact spelled_map (charBytes n ++ ·)

theorem spelled_pair (h : hex4? a b c d = some n) (hn : 0xD800 ≤ n) (hn' : n ≤ 0xDBFF)
    (h' : hex4? a' b' c' d' = some m) (hm : 0xDC00 ≤ m) (hm' : m ≤ 0xDFFF) :
    spelled offset (92 :: 117 :: a :: b :: c :: d :: 92 :: 117 :: a' :: b' :: c' :: d' :: rest) =
      (spelled (offset + 12) rest).map (charBytes ((n - 0xD800) * 0x400 + (m - 0xDC00) + pairBase) ++ ·) := by
  unfold spelled
  rw [textBytes_pair h hn hn' h' hm hm']
  exact spelled_map (charBytes _ ++ ·)

/-- A low surrogate cannot stand alone. -/
theorem spelled_low (h : hex4? a b c d = some n) (hn : 0xDC00 ≤ n) (hn' : n ≤ 0xDFFF) :
    spelled offset (92 :: 117 :: a :: b :: c :: d :: rest) = none := by
  have hu : simpleEscape? 117 = none := rfl
  unfold spelled
  rw [textBytes.eq_def]
  simp only [hu, h]
  rw [if_neg (by decide), if_pos trivial, if_pos trivial, if_pos ⟨hn, hn'⟩]
  rfl

/-- Behind a high surrogate there has to be an escape. -/
theorem spelled_high_of_ne (h : hex4? a b c d = some n) (hn : 0xD800 ≤ n) (hn' : n ≤ 0xDBFF) {s : UInt8} (hs : s ≠ 92) :
    spelled offset (92 :: 117 :: a :: b :: c :: d :: s :: rest) = none := by
  have hu : simpleEscape? 117 = none := rfl
  unfold spelled
  rw [textBytes.eq_def]
  simp only [hu, h]
  rw [if_neg (by decide), if_pos trivial, if_pos trivial, if_neg (by omega), if_neg (by omega), if_pos hs]
  rfl

/-- The escape has to be a code. -/
theorem spelled_high_mark (h : hex4? a b c d = some n) (hn : 0xD800 ≤ n) (hn' : n ≤ 0xDBFF) {u : UInt8}
    (hu' : u ≠ 117) :
    spelled offset (92 :: 117 :: a :: b :: c :: d :: 92 :: u :: rest) = none := by
  have hu : simpleEscape? 117 = none := rfl
  unfold spelled
  rw [textBytes.eq_def]
  simp only [hu, h]
  rw [if_neg (by decide), if_pos trivial, if_pos trivial, if_neg (by omega), if_neg (by omega), if_neg (by simp),
    if_pos hu']
  rfl

/-- The code has to be that of a low surrogate. -/
theorem spelled_high_code (h : hex4? a b c d = some n) (hn : 0xD800 ≤ n) (hn' : n ≤ 0xDBFF)
    (h' : hex4? a' b' c' d' = some m) (hm : m < 0xDC00 ∨ 0xDFFF < m) :
    spelled offset (92 :: 117 :: a :: b :: c :: d :: 92 :: 117 :: a' :: b' :: c' :: d' :: rest) = none := by
  have hu : simpleEscape? 117 = none := rfl
  unfold spelled
  rw [textBytes.eq_def]
  simp only [hu, h, h']
  rw [if_neg (by decide), if_pos trivial, if_pos trivial, if_neg (by omega), if_neg (by omega), if_neg (by simp),
    if_neg (by simp), if_pos hm]
  rfl

theorem mark_ne {letter : UInt8} {c : Char} (h : (letter, c) ∈ marks) : letter ≠ 117 := by
  simp only [marks, List.mem_cons, Prod.mk.injEq, List.not_mem_nil, or_false] at h
  rintro rfl
  simp at h

/-- What a text spells does not depend on where it stands and what follows it. -/
theorem spelled_eq {bs : List UInt8} (h : PassesChars bs) (offset offset' : Nat) (rest rest' : List UInt8) :
    spelled offset (bs ++ 34 :: rest) = spelled offset' (bs ++ 34 :: rest') := by
  cases h with
  | nil => rw [List.nil_append, List.nil_append, spelled, spelled, textBytes_quote, textBytes_quote]; rfl
  | plain h34 h92 h32 h =>
    rw [List.cons_append, List.cons_append, spelled_plain h34 h92 h32, spelled_plain h34 h92 h32, spelled_eq h]
  | mark hm h =>
    obtain ⟨b, hs, _⟩ := simpleEscape?_of_mem hm
    simp only [List.cons_append]
    rw [spelled_mark hs, spelled_mark hs, spelled_eq h]
  | @code bs n a b c d hn h =>
    simp only [List.cons_append]
    by_cases hplane : n < 0xD800 ∨ 0xDFFF < n
    · rw [spelled_code hn hplane, spelled_code hn hplane, spelled_eq h]
    by_cases hlow : 0xDC00 ≤ n
    · rw [spelled_low hn hlow (by omega), spelled_low hn hlow (by omega)]
    -- a high surrogate: it depends on what comes next
    have hhigh : 0xD800 ≤ n := by omega
    have hhigh' : n ≤ 0xDBFF := by omega
    cases h with
    | nil =>
      simp only [List.nil_append]
      rw [spelled_high_of_ne hn hhigh hhigh' (by decide), spelled_high_of_ne hn hhigh hhigh' (by decide)]
    | plain _ h92 _ _ =>
      simp only [List.cons_append]
      rw [spelled_high_of_ne hn hhigh hhigh' h92, spelled_high_of_ne hn hhigh hhigh' h92]
    | mark hm _ =>
      simp only [List.cons_append]
      rw [spelled_high_mark hn hhigh hhigh' (mark_ne hm), spelled_high_mark hn hhigh hhigh' (mark_ne hm)]
    | @code bs m a' b' c' d' hm h =>
      simp only [List.cons_append]
      by_cases hpair : m < 0xDC00 ∨ 0xDFFF < m
      · rw [spelled_high_code hn hhigh hhigh' hm hpair, spelled_high_code hn hhigh hhigh' hm hpair]
      · rw [spelled_pair hn hhigh hhigh' hm (by omega) (by omega),
          spelled_pair hn hhigh hhigh' hm (by omega) (by omega),
          spelled_eq h]
termination_by bs.length

/-- The contents of a text, if it has any. -/
def contentsIn (bs : List UInt8) : Except Fault String :=
  eraseFault (keepText ⟨0, bs ++ [34]⟩)

theorem toOption_keepText (c : Cursor) :
    (keepText c).toOption = (spelled c.offset c.rest).bind fun bytes => (Utf8.decode bytes).toOption := by
  unfold keepText spelled
  rw [toOption_bind, Option.bind_map]
  refine congrArg _ (funext fun (bytes, stop) => ?_)
  dsimp only [Function.comp]
  cases Utf8.decode bytes <;> rfl

theorem eraseFault_eq_iff {α : Type} {x y : Except Fault α} :
    eraseFault x = eraseFault y ↔ x.toOption = y.toOption := by
  cases x <;> cases y <;> simp [Except.toOption]

/-- A text is read up to its closing quote, always with the same contents. -/
theorem readText_contentsIn (h : PassesChars bs) (offset : Nat) (rest : List UInt8) :
    ∃ contents, readText ⟨offset, bs ++ 34 :: rest⟩ = .ok (contents, ⟨offset + bs.length + 1, rest⟩) ∧
      eraseFault contents = contentsIn bs := by
  refine ⟨keepText ⟨offset, bs ++ 34 :: rest⟩, ?_, ?_⟩
  · unfold readText
    rw [skipText_of_passes h]
  · unfold contentsIn
    rw [eraseFault_eq_iff, toOption_keepText, toOption_keepText, spelled_eq h]

theorem contentsIn_of_spells {cs : List Char} (h : SpellsChars bs cs) : contentsIn bs = .ok (String.ofList cs) := by
  obtain ⟨contents, hr, hc⟩ := readText_contentsIn h.passes 0 []
  rw [readText_of_spells h] at hr
  cases hr
  exact hc.symm

end Texts

/-! ## Trees -/

/-- The items of an array as a list of trees. -/
def Items.ofList : List Node → Items
  | [] => .close 0
  | t :: ts => .item 0 t (.ofList ts)

/-- The members of an object as a list of names and trees. -/
def Members.ofList : List (Except Fault String × Node) → Members
  | [] => .close 0
  | (name, t) :: ms => .member name 0 t 0 (.ofList ms)

/-- Bytes begin as a value does, and wherever a value can stand they are read up to what follows them, always as one
tree. -/
structure ReadAs (bs : List UInt8) (tree : Node) : Prop where
  head : ∃ b tail, bs = b :: tail ∧ isGap b = false ∧ b ≠ 93
  read : ∀ rest, EndsNumber rest → ∀ offset fuel, 3 * bs.length ≤ fuel →
    ∃ node, readNode fuel ⟨offset, bs ++ rest⟩ = (node, ⟨offset + bs.length, rest⟩) ∧ node.erase = tree

section Trees

variable {bs rest : List UInt8} {tree : Node}

theorem ReadAs.noGap (h : ReadAs bs tree) (rest : List UInt8) : NoGap (bs ++ rest) := by
  obtain ⟨b, tail, rfl, hb, _⟩ := h.head
  exact noGap_cons hb

theorem ReadAs.length_pos (h : ReadAs bs tree) : 0 < bs.length := by
  obtain ⟨b, tail, rfl, _⟩ := h.head
  exact Nat.succ_pos _

/-- A scalar needs one step only. -/
theorem readAs_of_step (hhead : ∃ b tail, bs = b :: tail ∧ isGap b = false ∧ b ≠ 93)
    (h : ∀ rest, EndsNumber rest → ∀ offset fuel, ∃ node, readNode (fuel + 1) ⟨offset, bs ++ rest⟩ =
      (node, ⟨offset + bs.length, rest⟩) ∧ node.erase = tree) : ReadAs bs tree := by
  refine ⟨hhead, ?_⟩
  intro rest hr offset fuel hf
  obtain ⟨b, tail, rfl, _⟩ := hhead
  rw [List.length_cons] at hf
  obtain ⟨fuel, rfl⟩ : ∃ n, fuel = n + 1 := ⟨fuel - 1, by omega⟩
  exact h rest hr offset fuel

theorem readAs_null : ReadAs [110, 117, 108, 108] (.null 0) :=
  readAs_of_step ⟨_, _, rfl, by decide, by decide⟩ fun _ _ _ _ => ⟨_, readNode_null, rfl⟩

theorem readAs_true : ReadAs [116, 114, 117, 101] (.bool true 0) :=
  readAs_of_step ⟨_, _, rfl, by decide, by decide⟩ fun _ _ _ _ => ⟨_, readNode_true, rfl⟩

theorem readAs_false : ReadAs [102, 97, 108, 115, 101] (.bool false 0) :=
  readAs_of_step ⟨_, _, rfl, by decide, by decide⟩ fun _ _ _ _ => ⟨_, readNode_false, rfl⟩

theorem readAs_literal {l : Decimal.Literal} (h : SpellsLiteral bs l) :
    ReadAs bs (.number (eraseFault (keepNumber l 0 0)) 0) := by
  obtain ⟨b, tail, rfl, hb⟩ := head_literal h
  obtain ⟨hg, h93, h110, h116, h102⟩ := isDigit_ne hb
  refine readAs_of_step ⟨b, tail, rfl, hg, h93⟩ ?_
  intro rest hr offset fuel
  obtain ⟨value, hv, hl⟩ := readNumber_of_spells offset h hr
  refine ⟨.number value (offset + (b :: tail).length), ?_, ?_⟩
  · rw [List.cons_append] at hv
    rw [readNode]
    simp only [Cursor.skipGap, List.cons_append, skipGap_of_noGap (noGap_cons hg), h110, h116, h102, hb, hv, if_true,
      if_false]
  · rw [Node.erase, eraseFault_eq_iff.2 hl]

theorem readAs_quoted (h : PassesChars bs) : ReadAs (quoted bs) (.text (contentsIn bs) 0) := by
  refine readAs_of_step ⟨34, _, rfl, by decide, by decide⟩ ?_
  intro rest _ offset fuel
  obtain ⟨contents, hr, hc⟩ := readText_contentsIn h (offset + 1) rest
  exact ⟨_, readNode_text hr, by rw [Node.erase, hc]⟩

/-! ## Arrays -/

theorem commaed_cons (p : List UInt8) (ps : List (List UInt8)) : ∃ more, commaed (p :: ps) = p ++ more := by
  cases ps with
  | nil => exact ⟨[], by rw [commaed_singleton, List.append_nil]⟩
  | cons q ps => exact ⟨_, commaed_cons_cons p q ps⟩

/-- An item that is read as a tree. -/
def Item.ReadAs (i : Item) (tree : Node) : Prop :=
  i.Spaced ∧ Json.ReadAs i.value tree

theorem Item.ReadAs.length_pos {i : Item} (hi : i.ReadAs tree) : 0 < i.bytes.length := by
  have hpos := hi.2.length_pos
  simp only [Item.bytes, List.length_append]
  omega

/-- Behind blanks an item begins, and not the closing bracket. -/
theorem head?_skipGap_items {i : Item} (hi : i.ReadAs tree) (items : List Item) (offset : Nat) (rest : List UInt8) :
    ∃ b, (skipGap offset (commaed ((i :: items).map Item.bytes) ++ rest)).rest.head? = some b ∧ b ≠ 93 := by
  obtain ⟨b, tail, hb, _, h93⟩ := hi.2.head
  obtain ⟨more, hmore⟩ := commaed_cons i.bytes (items.map Item.bytes)
  refine ⟨b, ?_, h93⟩
  rw [List.map_cons, hmore, Item.bytes]
  simp only [List.append_assoc]
  rw [skipGap_append hi.1.lead (hi.2.noGap _), hb]
  rfl

/-- An item, once it is known how what stands behind it is read. -/
theorem readItem_cons {i : Item} (hi : i.ReadAs tree) {b : UInt8} (hb : b = 44 ∨ b = 93) {offset fuel : Nat}
    {items : Items} {stop : Cursor} (hf : 3 * i.bytes.length ≤ fuel)
    (hnext : readNextItem fuel ⟨offset + i.bytes.length, b :: rest⟩ = (items, stop)) :
    ∃ next value, readItem (fuel + 1) (skipGap offset (i.bytes ++ b :: rest)) = (.item next value items, stop) ∧
      value.erase = tree := by
  have hends : EndsNumber (b :: rest) := endsNumber_cons rest (hb.imp_right .inl)
  have hgap : NoGap (b :: rest) := noGap_cons (by rcases hb with rfl | rfl <;> decide)
  simp only [Item.bytes, List.length_append, ← Nat.add_assoc] at hf hnext ⊢
  obtain ⟨value, hn, hs⟩ := hi.2.read _ (endsNumber_append hi.1.trail hends) (offset + i.lead.length) fuel (by omega)
  obtain ⟨next, hread⟩ := readItem_of_readNode hi.1.lead hi.2.noGap hi.1.trail hgap hn hnext
  exact ⟨next, value, hread, hs⟩

/-- Items up to the closing bracket. -/
theorem readItem_of_readAs {items : List Item} {trees : List Node} (h : List.Forall₂ Item.ReadAs items trees) {i : Item}
    (hi : i.ReadAs tree) (rest : List UInt8) (offset fuel : Nat)
    (hf : 3 * (commaed ((i :: items).map Item.bytes)).length + 2 ≤ fuel) :
    ∃ node, readItem fuel (skipGap offset (commaed ((i :: items).map Item.bytes) ++ 93 :: rest)) =
        (node, ⟨offset + (commaed ((i :: items).map Item.bytes)).length + 1, rest⟩) ∧
      node.erase = .ofList (tree :: trees) := by
  have hpos := hi.length_pos
  induction h generalizing i tree offset fuel with
  | nil =>
    rw [List.map_cons, List.map_nil, commaed_singleton] at hf ⊢
    obtain ⟨fuel, rfl⟩ : ∃ n, fuel = n + 1 + 1 := ⟨fuel - 2, by omega⟩
    have hf' : 3 * i.bytes.length ≤ fuel + 1 := by omega
    obtain ⟨next, value, hread, rfl⟩ := readItem_cons hi (.inr rfl) hf' readNextItem_close
    exact ⟨_, hread, rfl⟩
  | @cons j u items trees hj h ih =>
    rw [List.map_cons, List.map_cons, commaed_cons_cons, ← List.map_cons] at hf ⊢
    rw [List.length_append, List.length_cons] at hf ⊢
    obtain ⟨fuel, rfl⟩ : ∃ n, fuel = n + 1 + 1 := ⟨fuel - 2, by omega⟩
    obtain ⟨b, hb, h93⟩ := head?_skipGap_items hj items (offset + i.bytes.length + 1) (93 :: rest)
    obtain ⟨more, hmore, hs'⟩ := ih hj (offset + i.bytes.length + 1) fuel (by omega) hj.length_pos
    have hf' : 3 * i.bytes.length ≤ fuel + 1 := by omega
    obtain ⟨next, value, hread, rfl⟩ := readItem_cons hi (.inl rfl) hf' ((readNextItem_comma hb h93).trans hmore)
    refine ⟨.item next value more, ?_, by rw [Items.erase, hs']; rfl⟩
    rw [List.append_assoc, List.cons_append, hread]
    congr 2
    omega

theorem skipGap_gap {g : List UInt8} (hg : Gap g) (offset : Nat) (rest : List UInt8) :
    skipGap offset (g ++ rest) = skipGap (offset + g.length) rest := by
  induction g generalizing offset with
  | nil => rfl
  | cons b g ih =>
    have hb : isGap b = true := isGap_of_mem (hg b (List.mem_cons_self ..))
    rw [List.cons_append, skipGap, if_pos hb, ih fun b' hb' => hg b' (List.mem_cons_of_mem _ hb'), List.length_cons,
      Nat.add_right_comm, Nat.add_assoc]

theorem readFirstItem_of_head? {c : Cursor} {b : UInt8} (hb : c.rest.head? = some b) (h93 : b ≠ 93) (fuel : Nat) :
    readFirstItem (fuel + 1) c = readItem fuel c := by
  obtain ⟨offset, rest⟩ := c
  cases rest with
  | nil => cases hb
  | cons b' rest =>
    cases hb
    exact readFirstItem_of_ne h93

/-- An array is read item by item. -/
theorem readAs_array {g : List UInt8} (hg : Gap g) {items : List Item} {trees : List Node}
    (h : List.Forall₂ Item.ReadAs items trees) : ReadAs (arrayBytes g items) (.array 0 (.ofList trees)) := by
  refine ⟨⟨91, _, rfl, by decide, by decide⟩, ?_⟩
  intro rest _ offset fuel hf
  have hlength : (arrayBytes g items).length = 1 + g.length + (commaed (items.map Item.bytes)).length + 1 := by
    simp only [arrayBytes, List.cons_append, List.length_cons, List.length_append, List.length_nil]
    omega
  rw [hlength] at hf ⊢
  obtain ⟨fuel, rfl⟩ : ∃ n, fuel = n + 1 + 1 := ⟨fuel - 2, by omega⟩
  cases h with
  | nil =>
    refine ⟨.array offset (.close (offset + 1 + g.length + 1)), ?_, rfl⟩
    rw [arrayBytes, List.map_nil, commaed_nil, List.append_nil, List.append_assoc, List.singleton_append,
      readNode_emptyArray hg]
    simp only [List.length_nil, Nat.add_zero, Nat.add_assoc]
  | @cons i t items trees hi h =>
    obtain ⟨b, hb, h93⟩ := head?_skipGap_items hi items (offset + 1 + g.length) (93 :: rest)
    obtain ⟨node, hread, hs⟩ := readItem_of_readAs h hi rest (offset + 1 + g.length) fuel (by omega)
    refine ⟨.array offset node, ?_, by rw [Node.erase, hs]⟩
    simp only [arrayBytes, List.append_assoc, List.cons_append, List.nil_append]
    rw [readNode_array, skipGap_gap hg, readFirstItem_of_head? hb h93, hread]
    simp only [Nat.add_assoc]

/-! ## Objects -/

/-- A member that is read as a name and a tree. -/
structure Entry.ReadAs (e : Entry) (member : Except Fault String × Node) : Prop where
  spaced : e.Spaced
  name : contentsIn e.name = member.1
  value : Json.ReadAs e.item.value member.2

variable {member : Except Fault String × Node}

theorem Entry.ReadAs.length_pos {e : Entry} (he : e.ReadAs member) : 0 < e.bytes.length := by
  have hpos := he.value.length_pos
  simp only [Entry.bytes, Item.bytes, List.length_append, List.length_cons]
  omega

/-- Behind blanks a member begins with the quote of its name. -/
theorem skipGap_entries {e : Entry} (he : e.Spaced) (entries : List Entry) (offset : Nat) (rest : List UInt8) :
    ∃ tail, skipGap offset (commaed ((e :: entries).map Entry.bytes) ++ rest) =
      ⟨offset + e.lead.length, 34 :: tail⟩ := by
  obtain ⟨more, hmore⟩ := commaed_cons e.bytes (entries.map Entry.bytes)
  rw [List.map_cons, hmore, Entry.bytes]
  simp only [quoted, List.append_assoc, List.cons_append]
  exact ⟨_, skipGap_append he.lead (noGap_cons (by decide))⟩

/-- A member, once it is known how what stands behind it is read. -/
theorem readMember_cons {e : Entry} (he : e.ReadAs member) {b : UInt8} (hb : b = 44 ∨ b = 125) {offset fuel : Nat}
    {members : Members} {stop : Cursor} (hf : 3 * e.bytes.length ≤ fuel)
    (hnext : readNextMember fuel ⟨offset + e.bytes.length, b :: rest⟩ = (members, stop)) :
    ∃ contents place value behind,
      readMember (fuel + 1) (skipGap offset (e.bytes ++ b :: rest)) =
        (.member contents place value behind members, stop) ∧
      eraseFault contents = member.1 ∧ value.erase = member.2 := by
  have hends : EndsNumber (b :: rest) := endsNumber_cons rest (hb.imp_right .inr)
  have hgap : NoGap (b :: rest) := noGap_cons (by rcases hb with rfl | rfl <;> decide)
  obtain ⟨⟨hlead, hname, htrail, hitem⟩, hm, hv⟩ := he
  have hlength : e.bytes.length =
      (e.lead ++ quoted e.name ++ e.trail).length + 1 + e.item.lead.length + e.item.value.length +
        e.item.trail.length := by
    simp only [Entry.bytes, Item.bytes, List.length_append, List.length_cons]
    omega
  rw [hlength] at hf hnext
  simp only [← Nat.add_assoc] at hnext
  obtain ⟨contents, ht, hc⟩ := readText_contentsIn hname (offset + e.lead.length + 1)
    (e.trail ++ 58 :: (e.item.lead ++ (e.item.value ++ (e.item.trail ++ b :: rest))))
  obtain ⟨value, hn, hs⟩ := hv.read _ (endsNumber_append hitem.trail hends)
    (offset + (e.lead ++ quoted e.name ++ e.trail).length + 1 + e.item.lead.length) fuel (by omega)
  obtain ⟨place, behind, hread⟩ := readMember_of_readNode hlead htrail hitem.lead hv.noGap hitem.trail hgap (by omega)
    ht hn hnext
  refine ⟨contents, place, value, behind, ?_, hc.trans hm, hs⟩
  rw [← hread]
  simp only [Entry.bytes, Item.bytes, List.append_assoc, List.cons_append]

/-- Members up to the closing brace. -/
theorem readMember_of_readAs {entries : List Entry} {members : List (Except Fault String × Node)}
    (h : List.Forall₂ Entry.ReadAs entries members) {e : Entry} (he : e.ReadAs member) (rest : List UInt8)
    (offset fuel : Nat) (hf : 3 * (commaed ((e :: entries).map Entry.bytes)).length + 2 ≤ fuel) :
    ∃ node, readMember fuel (skipGap offset (commaed ((e :: entries).map Entry.bytes) ++ 125 :: rest)) =
        (node, ⟨offset + (commaed ((e :: entries).map Entry.bytes)).length + 1, rest⟩) ∧
      node.erase = .ofList (member :: members) := by
  have hpos := he.length_pos
  induction h generalizing e member offset fuel with
  | nil =>
    rw [List.map_cons, List.map_nil, commaed_singleton] at hf ⊢
    obtain ⟨fuel, rfl⟩ : ∃ n, fuel = n + 1 + 1 := ⟨fuel - 2, by omega⟩
    have hf' : 3 * e.bytes.length ≤ fuel + 1 := by omega
    obtain ⟨contents, place, value, behind, hread, hc, hs⟩ := readMember_cons he (.inr rfl) hf' readNextMember_close
    exact ⟨_, hread, by rw [Members.erase, hc, hs]; rfl⟩
  | @cons d m entries members hd h ih =>
    rw [List.map_cons, List.map_cons, commaed_cons_cons, ← List.map_cons] at hf ⊢
    rw [List.length_append, List.length_cons] at hf ⊢
    obtain ⟨fuel, rfl⟩ : ∃ n, fuel = n + 1 + 1 := ⟨fuel - 2, by omega⟩
    obtain ⟨tail, hb⟩ := skipGap_entries hd.spaced entries (offset + e.bytes.length + 1) (125 :: rest)
    obtain ⟨more, hmore, hs'⟩ := ih hd (offset + e.bytes.length + 1) fuel (by omega) hd.length_pos
    have hf' : 3 * e.bytes.length ≤ fuel + 1 := by omega
    obtain ⟨contents, place, value, behind, hread, hc, hs⟩ :=
      readMember_cons he (.inl rfl) hf' ((readNextMember_comma hb).trans (hb ▸ hmore))
    refine ⟨.member contents place value behind more, ?_, by rw [Members.erase, hc, hs, hs']; rfl⟩
    rw [List.append_assoc, List.cons_append, hread]
    congr 2
    omega

/-- An object is read member by member. -/
theorem readAs_object {g : List UInt8} (hg : Gap g) {entries : List Entry}
    {members : List (Except Fault String × Node)} (h : List.Forall₂ Entry.ReadAs entries members) :
    ReadAs (objectBytes g entries) (.object 0 (.ofList members)) := by
  refine ⟨⟨123, _, rfl, by decide, by decide⟩, ?_⟩
  intro rest _ offset fuel hf
  have hlength : (objectBytes g entries).length = 1 + g.length + (commaed (entries.map Entry.bytes)).length + 1 := by
    simp only [objectBytes, List.cons_append, List.length_cons, List.length_append, List.length_nil]
    omega
  rw [hlength] at hf ⊢
  obtain ⟨fuel, rfl⟩ : ∃ n, fuel = n + 1 + 1 := ⟨fuel - 2, by omega⟩
  cases h with
  | nil =>
    refine ⟨.object offset (.close (offset + 1 + g.length + 1)), ?_, rfl⟩
    rw [objectBytes, List.map_nil, commaed_nil, List.append_nil, List.append_assoc, List.singleton_append,
      readNode_emptyObject hg]
    simp only [List.length_nil, Nat.add_zero, Nat.add_assoc]
  | @cons e m entries members he h =>
    obtain ⟨tail, hb⟩ := skipGap_entries he.spaced entries (offset + 1 + g.length) (125 :: rest)
    obtain ⟨node, hread, hs⟩ := readMember_of_readAs h he rest (offset + 1 + g.length) fuel (by omega)
    refine ⟨.object offset node, ?_, by rw [Node.erase, hs]⟩
    simp only [objectBytes, List.append_assoc, List.cons_append, List.nil_append]
    rw [readNode_object, skipGap_gap hg, hb, readFirstMember_quote, ← hb, hread]
    simp only [Nat.add_assoc]

/-! ## Values -/

theorem Items.skipFault?_ofList {trees : List Node} (h : ∀ t ∈ trees, t.skipFault? = none) :
    (Items.ofList trees).skipFault? = none := by
  induction trees with
  | nil => rfl
  | cons t trees ih =>
    rw [Items.ofList, Items.skipFault?, h t (List.mem_cons_self ..), ih fun t' ht => h t' (List.mem_cons_of_mem _ ht)]
    rfl

theorem Members.skipFault?_ofList {members : List (Except Fault String × Node)}
    (h : ∀ m ∈ members, m.2.skipFault? = none) : (Members.ofList members).skipFault? = none := by
  induction members with
  | nil => rfl
  | cons m members ih =>
    rw [Members.ofList, Members.skipFault?, h m (List.mem_cons_self ..),
      ih fun m' hm => h m' (List.mem_cons_of_mem _ hm)]
    rfl

theorem exists_forall₂ {α β : Type} {R : α → β → Prop} {P : β → Prop} {as : List α}
    (h : ∀ a ∈ as, ∃ b, R a b ∧ P b) : ∃ bs, List.Forall₂ R as bs ∧ ∀ b ∈ bs, P b := by
  induction as with
  | nil => exact ⟨[], .nil, nofun⟩
  | cons a as ih =>
    obtain ⟨b, hb, hp⟩ := h a (List.mem_cons_self ..)
    obtain ⟨bs, hbs, hps⟩ := ih fun a' ha => h a' (List.mem_cons_of_mem _ ha)
    exact ⟨b :: bs, .cons hb hbs, List.forall_mem_cons.2 ⟨hp, hps⟩⟩

theorem exists_readAs_items {items : List Item}
    (h : ∀ i ∈ items, i.Spaced ∧ ∃ tree, ReadAs i.value tree ∧ tree.skipFault? = none) :
    ∃ trees, List.Forall₂ Item.ReadAs items trees ∧ ∀ t ∈ trees, t.skipFault? = none := by
  apply exists_forall₂
  intro i hi
  obtain ⟨hspaced, tree, hread, hskip⟩ := h i hi
  exact ⟨tree, ⟨hspaced, hread⟩, hskip⟩

theorem exists_readAs_entries {entries : List Entry}
    (h : ∀ e ∈ entries, e.Spaced ∧ ∃ tree, ReadAs e.item.value tree ∧ tree.skipFault? = none) :
    ∃ members, List.Forall₂ Entry.ReadAs entries members ∧ ∀ m ∈ members, m.2.skipFault? = none := by
  apply exists_forall₂
  intro e he
  obtain ⟨hspaced, tree, hread, hskip⟩ := h e he
  exact ⟨(contentsIn e.name, tree), ⟨hspaced, rfl, hread⟩, hskip⟩

/-- Every value by its syntax is read as one tree, and nothing is wrong with the tree if it is passed over. -/
theorem readAs_of_isValue {bs : List UInt8} (h : IsValue bs) : ∃ tree, ReadAs bs tree ∧ tree.skipFault? = none := by
  induction h with
  | null => exact ⟨_, readAs_null, rfl⟩
  | true => exact ⟨_, readAs_true, rfl⟩
  | false => exact ⟨_, readAs_false, rfl⟩
  | number h => exact ⟨_, readAs_literal h, rfl⟩
  | text h => exact ⟨_, readAs_quoted h, rfl⟩
  | array hg hspaced _ ih =>
    obtain ⟨trees, hread, hskip⟩ := exists_readAs_items fun i hi => ⟨hspaced i hi, ih i hi⟩
    exact ⟨_, readAs_array hg hread, Items.skipFault?_ofList hskip⟩
  | object hg hspaced _ ih =>
    obtain ⟨members, hread, hskip⟩ := exists_readAs_entries fun e he => ⟨hspaced e he, ih e he⟩
    exact ⟨_, readAs_object hg hread, Members.skipFault?_ofList hskip⟩

theorem readAs_of_properItems {items : List Item} (h : ∀ i ∈ items, i.Proper) :
    ∃ trees, List.Forall₂ Item.ReadAs items trees := by
  obtain ⟨trees, hread, _⟩ := exists_readAs_items fun i hi => ⟨(h i hi).spaced, readAs_of_isValue (h i hi).value⟩
  exact ⟨trees, hread⟩

theorem readAs_of_properEntries {entries : List Entry} (h : ∀ e ∈ entries, e.Proper) :
    ∃ members, List.Forall₂ Entry.ReadAs entries members := by
  obtain ⟨members, hread, _⟩ := exists_readAs_entries fun e he => ⟨(h e he).spaced, readAs_of_isValue (h e he).value⟩
  exact ⟨members, hread⟩

/-! ## Documents -/

/-- A value with blanks around it is read to its end. -/
theorem ofBytes_of_readAs (h : ReadAs bs tree) {g g' : List UInt8} (hg : Gap g) (hg' : Gap g') :
    ∃ node, Document.ofBytes (g ++ bs ++ g') = ⟨node, none⟩ ∧ node.erase = tree := by
  have hlength : bs.length ≤ (g ++ bs ++ g').length := by
    simp only [List.length_append]
    omega
  obtain ⟨node, hn, htree⟩ := h.read g' (endsNumber_gap hg') g.length (3 * (g ++ bs ++ g').length + 3) (by omega)
  exact ⟨node, ofBytes_of_readNode hg h.noGap hg' hn, htree⟩

/-- What is decoded from a document is what is read from the tree of its value. -/
theorem toOption_decode {α : Type} {shape : Shape α} (h : ReadAs bs tree) {g g' : List UInt8} (hg : Gap g)
    (hg' : Gap g') : (shape.decode (g ++ bs ++ g')).toOption = (shape.read maxDepth tree).toOption := by
  obtain ⟨node, hd, rfl⟩ := ofBytes_of_readAs h hg hg'
  unfold Shape.decode decodeWith
  rw [hd, toOption_mapError, shape.read_erase]
  dsimp only
  cases shape.read maxDepth node <;> rfl

end Trees

end ServiceBroker.Json
