/-
Nothing but JSON is read. A document that does not break off was written as a value with blanks around it (`ReadsJson`,
by induction on the steps of reading), and a shape reads only such documents (`isDocument_of_decode`): every value in
them is one by its syntax, also where it is only passed over.
-/
import Mathlib.Data.List.TakeWhile
import ServiceBroker.Proofs.Json.Breaks
import ServiceBroker.Proofs.Json.Syntax

namespace ServiceBroker.Json

/-! ## Tokens -/

theorem gap_of_skipGap (offset : Nat) (bytes : List UInt8) : ∃ g, Gap g ∧ bytes = g ++ (skipGap offset bytes).rest := by
  induction bytes generalizing offset with
  | nil => exact ⟨[], List.forall_mem_nil _, rfl⟩
  | cons b rest ih =>
    rw [skipGap]
    split
    · rename_i hb
      obtain ⟨g, hg, hrest⟩ := ih (offset + 1)
      refine ⟨b :: g, ?_, by rw [List.cons_append, ← hrest]⟩
      intro b' hb'
      rcases List.mem_cons.1 hb' with rfl | hb'
      · simp only [isGap, Bool.or_eq_true, decide_eq_true_eq] at hb
        rcases hb with ((rfl | rfl) | rfl) | rfl <;> decide
      · exact hg b' hb'
    · exact ⟨[], List.forall_mem_nil _, rfl⟩

theorem readWord_eq_ok {word : List UInt8} {c stop : Cursor} (h : readWord word c = .ok stop) :
    c.rest = word ++ stop.rest := by
  induction word generalizing c with
  | nil =>
    cases h
    rfl
  | cons w word ih =>
    rw [readWord] at h
    split at h
    · cases h
    · rename_i b rest hc
      split at h
      · rename_i hb
        subst hb
        have hnext : c.next.rest = rest := by
          rw [Cursor.next, hc]
          rfl
        rw [hc, ← hnext, ih h]
        rfl
      · cases h

theorem mem_marks_of_simpleEscape? {letter : UInt8} (h : (simpleEscape? letter).isSome = true) :
    ∃ c, (letter, c) ∈ marks := by
  suffices letter ∈ marks.map Prod.fst by simpa using this
  by_contra hn
  simp only [marks, List.map_cons, List.map_nil, List.mem_cons, List.not_mem_nil, or_false, not_or] at hn
  simp [simpleEscape?, hn] at h

/-- A text whose end is found can be passed over. -/
theorem passes_of_skipText {offset : Nat} {bytes : List UInt8} {stop : Cursor} (h : skipText offset bytes = .ok stop) :
    ∃ bs, PassesChars bs ∧ bytes = bs ++ 34 :: stop.rest := by
  fun_induction skipText offset bytes with
  | case2 offset rest =>
    -- the closing quote
    cases h
    exact ⟨[], .nil, rfl⟩
  | case4 offset e rest he _ ih =>
    -- a letter behind a backslash
    obtain ⟨bs, hbs, rfl⟩ := ih h
    obtain ⟨c, hc⟩ := mem_marks_of_simpleEscape? he
    exact ⟨_, .mark hc hbs, rfl⟩
  | case5 offset h₁ h₂ h₃ h₄ rest hhex _ _ ih =>
    -- a code of four digits
    obtain ⟨bs, hbs, rfl⟩ := ih h
    obtain ⟨n, hn⟩ := Option.isSome_iff_exists.1 hhex
    exact ⟨_, .code hn hbs, rfl⟩
  | case10 offset b rest h34 h92 h32 ih =>
    obtain ⟨bs, hbs, rfl⟩ := ih h
    exact ⟨_, .plain h34 h92 (UInt8.not_lt.1 h32) hbs, rfl⟩
  | _ => cases h

theorem passes_of_readText {c stop : Cursor} {contents : Except Fault String} (h : readText c = .ok (contents, stop)) :
    ∃ bs, PassesChars bs ∧ c.rest = bs ++ 34 :: stop.rest := by
  unfold readText at h
  split at h
  · rename_i hskip
    cases h
    exact passes_of_skipText hskip
  · cases h
  · cases h

/-! ## Numbers -/

theorem digitByte_digitValue {b : UInt8} (h : isDigit b = true) :
    digitValue b < 10 ∧ UInt8.ofNat (digitValue b + 48) = b := by
  simp only [isDigit, Bool.and_eq_true, decide_eq_true_eq, UInt8.le_iff_toNat_le, UInt8.toNat_ofNat] at h
  unfold digitValue
  refine ⟨by omega, ?_⟩
  rw [Nat.sub_add_cancel h.1, UInt8.ofNat_toNat]

theorem rest_next {c : Cursor} {b : UInt8} {rest : List UInt8} (h : c.rest = b :: rest) : c.next.rest = rest := by
  rw [Cursor.next, h]
  rfl

theorem takeDigits_eq {c stop : Cursor} {ds : List Nat} (h : takeDigits c = (ds, stop)) :
    c.rest = digitBytes ds ++ stop.rest ∧ ∀ d ∈ ds, d < 10 := by
  unfold takeDigits at h
  cases h
  have hdigit : ∀ b ∈ c.rest.takeWhile isDigit, isDigit b = true := fun b hb => List.mem_takeWhile_imp hb
  constructor
  · have hbytes : digitBytes ((c.rest.takeWhile isDigit).map digitValue) = c.rest.takeWhile isDigit := by
      unfold digitBytes
      rw [List.map_map]
      exact (List.map_congr_left fun b hb => (digitByte_digitValue (hdigit b hb)).2).trans (List.map_id _)
    rw [hbytes]
    exact (List.prefix_iff_eq_append.1 (List.takeWhile_prefix _)).symm
  · intro d hd
    obtain ⟨b, hb, rfl⟩ := List.mem_map.1 hd
    exact (digitByte_digitValue (hdigit b hb)).1

theorem spells_of_readWhole {c stop : Cursor} {whole : List Nat} (h : readWhole c = .ok (whole, stop)) :
    ∃ bs, SpellsWhole bs whole ∧ c.rest = bs ++ stop.rest := by
  unfold readWhole at h
  split at h
  · cases h
  · rename_i b rest hc
    split at h
    · rename_i hb
      subst hb
      have hzero : c.rest = [48] ++ c.next.rest := by
        rw [hc, rest_next hc]
        rfl
      split at h
      · split at h
        · cases h
        · cases h
          exact ⟨_, .zero, hzero⟩
      · cases h
        exact ⟨_, .zero, hzero⟩
    · rename_i hb
      split at h
      · rename_i hdigit
        have htake : takeDigits c = (whole, stop) := Except.ok.inj h
        obtain ⟨hrest, hten⟩ := takeDigits_eq htake
        have hwhole : whole = digitValue b :: (rest.takeWhile isDigit).map digitValue := by
          have hfirst := congrArg Prod.fst htake
          simpa [takeDigits, hc, hdigit] using hfirst.symm
        have hne : digitValue b ≠ 0 := by
          intro h0
          have hback := (digitByte_digitValue hdigit).2
          rw [h0] at hback
          exact hb hback.symm
        subst hwhole
        exact ⟨_, .figures hne ⟨List.cons_ne_nil _ _, hten⟩, hrest⟩
      · cases h

theorem spells_of_readFraction {c stop : Cursor} {fraction : Option (List Nat)}
    (h : readFraction c = .ok (fraction, stop)) : ∃ bs, SpellsFraction bs fraction ∧ c.rest = bs ++ stop.rest := by
  unfold readFraction at h
  split at h
  · rename_i b rest hc
    split at h
    · rename_i hb
      subst hb
      obtain ⟨ds, stop', htake⟩ : ∃ ds stop', takeDigits c.next = (ds, stop') := ⟨_, _, rfl⟩
      obtain ⟨hrest, hten⟩ := takeDigits_eq htake
      rw [htake] at h
      dsimp only at h
      split at h
      · cases h
      · rename_i hne
        cases h
        refine ⟨_, .present ⟨by simpa using hne, hten⟩, ?_⟩
        rw [hc, List.cons_append, ← hrest, rest_next hc]
    · cases h
      exact ⟨[], .absent, rfl⟩
  · cases h
    exact ⟨[], .absent, rfl⟩

theorem readExponentSign_cases (c : Cursor) :
    (readExponentSign c = (true, c.next) ∧ c.rest = 45 :: c.next.rest) ∨
      (readExponentSign c = (false, c.next) ∧ c.rest = 43 :: c.next.rest) ∨ readExponentSign c = (false, c) := by
  unfold readExponentSign
  split
  · rename_i s rest hc
    rw [hc, rest_next hc]
    split
    · rename_i hs
      exact .inl ⟨rfl, by rw [hs]⟩
    · split
      · rename_i hs
        exact .inr (.inl ⟨rfl, by rw [hs]⟩)
      · exact .inr (.inr rfl)
  · exact .inr (.inr rfl)

theorem spells_of_readExponent {c stop : Cursor} {exponent : Option (Bool × List Nat)} {start : Nat}
    (h : readExponent c = .ok (exponent, start, stop)) :
    ∃ bs, SpellsExponent bs exponent ∧ c.rest = bs ++ stop.rest := by
  unfold readExponent at h
  split at h
  · rename_i b rest hc
    split at h
    · rename_i hb
      have hletter : b = 101 ∨ b = 69 := by simpa using hb
      obtain ⟨minus, sign, hsign⟩ : ∃ minus sign, readExponentSign c.next = (minus, sign) := ⟨_, _, rfl⟩
      obtain ⟨ds, stop', htake⟩ : ∃ ds stop', takeDigits sign = (ds, stop') := ⟨_, _, rfl⟩
      obtain ⟨hrest, hten⟩ := takeDigits_eq htake
      rw [hsign] at h
      dsimp only at h
      rw [htake] at h
      dsimp only at h
      split at h
      · cases h
      · rename_i hne
        cases h
        have hfigures : Figures ds := ⟨by simpa using hne, hten⟩
        rw [hc]
        rcases readExponentSign_cases c.next with ⟨hs, hhead⟩ | ⟨hs, hhead⟩ | hs <;> cases hsign.symm.trans hs
        · refine ⟨_, .minus hletter hfigures, ?_⟩
          rw [rest_next hc] at hhead
          simp only [List.cons_append, ← hrest]
          rw [hhead]
        · refine ⟨_, .plus hletter hfigures, ?_⟩
          rw [rest_next hc] at hhead
          simp only [List.cons_append, ← hrest]
          rw [hhead]
        · refine ⟨_, .unsigned hletter hfigures, ?_⟩
          rw [List.cons_append, ← hrest, rest_next hc]
    · cases h
      exact ⟨[], .absent, rfl⟩
  · cases h
    exact ⟨[], .absent, rfl⟩

theorem spells_of_readNumber {c stop : Cursor} {value : Except Fault Number} (h : readNumber c = .ok (value, stop)) :
    ∃ bs l, SpellsLiteral bs l ∧ c.rest = bs ++ stop.rest := by
  unfold readNumber at h
  obtain ⟨⟨whole, c₁⟩, hw, h⟩ := bind_eq_ok_iff.1 h
  obtain ⟨⟨fraction, c₂⟩, hf, h⟩ := bind_eq_ok_iff.1 h
  obtain ⟨⟨exponent, start, c₃⟩, he, h⟩ := bind_eq_ok_iff.1 h
  cases h
  obtain ⟨ws, hws, hrest⟩ := spells_of_readWhole hw
  obtain ⟨fs, hfs, hrest'⟩ := spells_of_readFraction hf
  obtain ⟨es, hes, hrest''⟩ := spells_of_readExponent he
  have hparts : (if c.rest.head? == some 45 then c.next else c).rest = ws ++ fs ++ es ++ stop.rest := by
    rw [hrest, hrest', hrest'']
    simp only [List.append_assoc]
  by_cases hminus : c.rest.head? = some 45
  · obtain ⟨rest, hc⟩ := List.head?_eq_some_iff.1 hminus
    rw [hminus, beq_self_eq_true, if_pos rfl, rest_next hc] at hparts
    exact ⟨_, _, .minus hws hfs hes, by rw [hc, hparts]; rfl⟩
  · rw [if_neg (by simpa using hminus)] at hparts
    exact ⟨_, _, .unsigned hws hfs hes, hparts⟩

/-! ## Values -/

theorem append_commaed (g p : List UInt8) (ps : List (List UInt8)) :
    g ++ commaed (p :: ps) = commaed ((g ++ p) :: ps) := by
  cases ps with
  | nil => rw [commaed_singleton, commaed_singleton]
  | cons q ps => rw [commaed_cons_cons, commaed_cons_cons, List.append_assoc]

theorem append_comma (p g q : List UInt8) (qs : List (List UInt8)) (rest : List UInt8) :
    p ++ 44 :: (g ++ (commaed (q :: qs) ++ rest)) = commaed (p :: (g ++ q) :: qs) ++ rest := by
  rw [commaed_cons_cons, ← append_commaed]
  simp only [List.append_assoc, List.cons_append]

/-- Items with commas between them, up to the closing bracket. -/
def ItemsTo (items : List Item) (bytes rest : List UInt8) : Prop :=
  (∀ i ∈ items, i.Proper) ∧ bytes = commaed (items.map Item.bytes) ++ 93 :: rest

/-- What stands behind an item: the closing bracket, or a comma and more items. -/
def ItemsBehind (bytes rest : List UInt8) : Prop :=
  ∃ items : List Item, (∀ i ∈ items, i.Proper) ∧
    ∀ p, p ++ bytes = commaed (p :: items.map Item.bytes) ++ 93 :: rest

/-- Members with commas between them, up to the closing brace. -/
def MembersTo (entries : List Entry) (bytes rest : List UInt8) : Prop :=
  (∀ e ∈ entries, e.Proper) ∧ bytes = commaed (entries.map Entry.bytes) ++ 125 :: rest

/-- What stands behind a member: the closing brace, or a comma and more members. -/
def MembersBehind (bytes rest : List UInt8) : Prop :=
  ∃ entries : List Entry, (∀ e ∈ entries, e.Proper) ∧
    ∀ p, p ++ bytes = commaed (p :: entries.map Entry.bytes) ++ 125 :: rest

section Behind

variable {bytes rest g : List UInt8}

theorem itemsBehind_close : ItemsBehind (93 :: rest) rest :=
  ⟨[], List.forall_mem_nil _, fun p => by rw [List.map_nil, commaed_singleton]⟩

theorem membersBehind_close : MembersBehind (125 :: rest) rest :=
  ⟨[], List.forall_mem_nil _, fun p => by rw [List.map_nil, commaed_singleton]⟩

theorem itemsBehind_comma {i : Item} {is : List Item} (hg : Gap g) (h : ItemsTo (i :: is) bytes rest) :
    ItemsBehind (44 :: (g ++ bytes)) rest := by
  obtain ⟨hproper, rfl⟩ := h
  obtain ⟨hi, his⟩ := List.forall_mem_cons.1 hproper
  -- the blanks behind the comma belong to the next item
  have hfirst : ({ i with lead := g ++ i.lead } : Item).Proper :=
    ⟨⟨List.forall_mem_append.2 ⟨hg, hi.spaced.lead⟩, hi.spaced.trail⟩, hi.value⟩
  have hbytes : ({ i with lead := g ++ i.lead } : Item).bytes = g ++ i.bytes := by
    simp only [Item.bytes, List.append_assoc]
  refine ⟨{ i with lead := g ++ i.lead } :: is, List.forall_mem_cons.2 ⟨hfirst, his⟩, fun p => ?_⟩
  rw [List.map_cons, List.map_cons, hbytes]
  exact append_comma ..

theorem membersBehind_comma {e : Entry} {es : List Entry} (hg : Gap g) (h : MembersTo (e :: es) bytes rest) :
    MembersBehind (44 :: (g ++ bytes)) rest := by
  obtain ⟨hproper, rfl⟩ := h
  obtain ⟨he, hes⟩ := List.forall_mem_cons.1 hproper
  -- the blanks behind the comma belong to the next member
  have hfirst : ({ e with lead := g ++ e.lead } : Entry).Proper :=
    ⟨⟨List.forall_mem_append.2 ⟨hg, he.spaced.lead⟩, he.spaced.name, he.spaced.trail, he.spaced.item⟩, he.value⟩
  have hbytes : ({ e with lead := g ++ e.lead } : Entry).bytes = g ++ e.bytes := by
    simp only [Entry.bytes, List.append_assoc]
  refine ⟨{ e with lead := g ++ e.lead } :: es, List.forall_mem_cons.2 ⟨hfirst, hes⟩, fun p => ?_⟩
  rw [List.map_cons, List.map_cons, hbytes]
  exact append_comma ..

/-- A bracket with what is read up to the closing one is an array. -/
theorem ItemsTo.exists_value {is : List Item} (h : ItemsTo is bytes rest) (hg : Gap g) :
    ∃ bs, IsValue bs ∧ 91 :: (g ++ bytes) = bs ++ rest := by
  obtain ⟨hproper, rfl⟩ := h
  refine ⟨arrayBytes g is, .array hg (fun i hi => (hproper i hi).spaced) (fun i hi => (hproper i hi).value), ?_⟩
  simp only [arrayBytes, List.cons_append, List.append_assoc, List.nil_append]

/-- A brace with what is read up to the closing one is an object. -/
theorem MembersTo.exists_value {es : List Entry} (h : MembersTo es bytes rest) (hg : Gap g) :
    ∃ bs, IsValue bs ∧ 123 :: (g ++ bytes) = bs ++ rest := by
  obtain ⟨hproper, rfl⟩ := h
  refine ⟨objectBytes g es, .object hg (fun e he => (hproper e he).spaced) (fun e he => (hproper e he).value), ?_⟩
  simp only [objectBytes, List.cons_append, List.append_assoc, List.nil_append]

end Behind

/-- What a number of steps reads was written as JSON, unless it breaks off. -/
structure ReadsJson (fuel : Nat) : Prop where
  node : ∀ {c node stop}, readNode fuel c = (node, stop) → node.skipFault? = none →
    ∃ g bs, Gap g ∧ IsValue bs ∧ c.rest = g ++ bs ++ stop.rest
  firstItem : ∀ {c items stop}, readFirstItem fuel c = (items, stop) → items.skipFault? = none →
    ∃ is, ItemsTo is c.rest stop.rest
  item : ∀ {c items stop}, readItem fuel c = (items, stop) → items.skipFault? = none →
    ∃ i is, ItemsTo (i :: is) c.rest stop.rest
  nextItem : ∀ {c items stop}, readNextItem fuel c = (items, stop) → items.skipFault? = none →
    ItemsBehind c.rest stop.rest
  firstMember : ∀ {c members stop}, readFirstMember fuel c = (members, stop) → members.skipFault? = none →
    ∃ es, MembersTo es c.rest stop.rest
  member : ∀ {c members stop rest}, c.rest = 34 :: rest → readMember fuel c = (members, stop) →
    members.skipFault? = none → ∃ e es, MembersTo (e :: es) c.rest stop.rest
  nextMember : ∀ {c members stop}, readNextMember fuel c = (members, stop) → members.skipFault? = none →
    MembersBehind c.rest stop.rest

theorem readsJson_zero : ReadsJson 0 where
  node h hs := by
    cases h
    cases hs
  firstItem h hs := by
    cases h
    cases hs
  item h hs := by
    cases h
    cases hs
  nextItem h hs := by
    cases h
    cases hs
  firstMember h hs := by
    cases h
    cases hs
  member _ h hs := by
    cases h
    cases hs
  nextMember h hs := by
    cases h
    cases hs

theorem rest_of_wordNode {c stop : Cursor} {b : UInt8} {word rest : List UInt8} {value : Nat → Node} {node : Node}
    (hc : c.rest = b :: rest) (h : wordNode word c.next value = (node, stop)) (hs : node.skipFault? = none) :
    c.rest = b :: word ++ stop.rest := by
  unfold wordNode at h
  split at h
  · rename_i hword
    cases h
    rw [hc, ← rest_next hc, readWord_eq_ok hword]
    rfl
  · cases h
    cases hs

section Steps

variable {fuel : Nat} (ih : ReadsJson fuel)

include ih

theorem readFirstItem_succ {c stop : Cursor} {items : Items} (h : readFirstItem (fuel + 1) c = (items, stop))
    (hs : items.skipFault? = none) : ∃ is, ItemsTo is c.rest stop.rest := by
  rw [readFirstItem] at h
  split at h
  · cases h
    cases hs
  · rename_i b rest hc
    split at h
    · rename_i hb
      subst hb
      cases h
      exact ⟨[], List.forall_mem_nil _, by rw [hc, rest_next hc]; rfl⟩
    · obtain ⟨i, is, hto⟩ := ih.item h hs
      exact ⟨_, hto⟩

theorem readItem_succ {c stop : Cursor} {items : Items} (h : readItem (fuel + 1) c = (items, stop))
    (hs : items.skipFault? = none) : ∃ i is, ItemsTo (i :: is) c.rest stop.rest := by
  rw [readItem] at h
  obtain ⟨value, behind, hvalue⟩ : ∃ value behind, readNode fuel c = (value, behind) := ⟨_, _, rfl⟩
  obtain ⟨rest, stop', hrest⟩ : ∃ rest stop', readNextItem fuel behind.skipGap = (rest, stop') := ⟨_, _, rfl⟩
  simp only [hvalue, hrest] at h
  cases h
  obtain ⟨hvs, hrs⟩ := Option.or_eq_none_iff.1 hs
  obtain ⟨g, bs, hg, hbs, hc⟩ := ih.node hvalue hvs
  obtain ⟨is, hproper, hbehind⟩ := ih.nextItem hrest hrs
  obtain ⟨g', hg', hgap⟩ := gap_of_skipGap behind.offset behind.rest
  refine ⟨⟨g, bs, g'⟩, is, List.forall_mem_cons.2 ⟨⟨⟨hg, hg'⟩, hbs⟩, hproper⟩, ?_⟩
  rw [hc, hgap]
  simpa only [List.append_assoc, List.map_cons, Item.bytes, Cursor.skipGap] using hbehind (g ++ bs ++ g')

theorem readNextItem_succ {c stop : Cursor} {items : Items} (h : readNextItem (fuel + 1) c = (items, stop))
    (hs : items.skipFault? = none) : ItemsBehind c.rest stop.rest := by
  rw [readNextItem] at h
  split at h
  · cases h
    cases hs
  · rename_i b rest hc
    split at h
    · rename_i hb
      subst hb
      cases h
      rw [hc, rest_next hc]
      exact itemsBehind_close
    · split at h
      · rename_i hb
        subst hb
        dsimp only at h
        split at h
        · cases h
          cases hs
        · obtain ⟨i, is, hto⟩ := ih.item h hs
          obtain ⟨g, hg, hgap⟩ := gap_of_skipGap c.next.offset c.next.rest
          rw [hc, ← rest_next hc, hgap]
          exact itemsBehind_comma hg hto
      · cases h
        cases hs

theorem readFirstMember_succ {c stop : Cursor} {members : Members}
    (h : readFirstMember (fuel + 1) c = (members, stop)) (hs : members.skipFault? = none) :
    ∃ es, MembersTo es c.rest stop.rest := by
  rw [readFirstMember] at h
  split at h
  · cases h
    cases hs
  · rename_i b rest hc
    split at h
    · rename_i hb
      subst hb
      cases h
      exact ⟨[], List.forall_mem_nil _, by rw [hc, rest_next hc]; rfl⟩
    · split at h
      · rename_i hb
        subst hb
        obtain ⟨e, es, hto⟩ := ih.member hc h hs
        exact ⟨_, hto⟩
      · cases h
        cases hs

theorem readMember_succ {c stop : Cursor} {members : Members} {rest : List UInt8} (hquote : c.rest = 34 :: rest)
    (h : readMember (fuel + 1) c = (members, stop)) (hs : members.skipFault? = none) :
    ∃ e es, MembersTo (e :: es) c.rest stop.rest := by
  rw [readMember] at h
  split at h
  · cases h
    cases hs
  · rename_i contents named htext
    obtain ⟨name, hname, htail⟩ := passes_of_readText htext
    obtain ⟨g, hg, hgap⟩ := gap_of_skipGap named.offset named.rest
    dsimp only at h
    split at h
    · cases h
      cases hs
    · rename_i b tail hb
      split at h
      · rename_i hcolon
        subst hcolon
        obtain ⟨value, behind, hvalue⟩ : ∃ value behind, readNode fuel named.skipGap.next = (value, behind) :=
          ⟨_, _, rfl⟩
        obtain ⟨more, stop', hmore⟩ : ∃ more stop', readNextMember fuel behind.skipGap = (more, stop') := ⟨_, _, rfl⟩
        simp only [hvalue, hmore] at h
        cases h
        obtain ⟨hvs, hms⟩ := Option.or_eq_none_iff.1 hs
        obtain ⟨g₁, bs, hg₁, hbs, hcolon⟩ := ih.node hvalue hvs
        obtain ⟨es, hproper, hbehind⟩ := ih.nextMember hmore hms
        obtain ⟨g₂, hg₂, hgap'⟩ := gap_of_skipGap behind.offset behind.rest
        let e : Entry := ⟨[], name, g, ⟨g₁, bs, g₂⟩⟩
        have he : e.Proper := ⟨⟨gap_nil, hname, hg, ⟨hg₁, hg₂⟩⟩, hbs⟩
        refine ⟨e, es, List.forall_mem_cons.2 ⟨he, hproper⟩, ?_⟩
        rw [rest_next hquote] at htail
        rw [rest_next hb] at hcolon
        have hbytes : c.rest = e.bytes ++ behind.skipGap.rest := by
          have hblanks : named.rest = g ++ named.skipGap.rest := hgap
          have hblanks' : behind.rest = g₂ ++ behind.skipGap.rest := hgap'
          rw [hquote, htail, hblanks, hb, hcolon]
          conv_lhs => rw [hblanks']
          simp only [e, Entry.bytes, Item.bytes, quoted, List.nil_append, List.append_assoc, List.cons_append]
        rw [hbytes]
        exact hbehind e.bytes
      · cases h
        cases hs

theorem readNextMember_succ {c stop : Cursor} {members : Members} (h : readNextMember (fuel + 1) c = (members, stop))
    (hs : members.skipFault? = none) : MembersBehind c.rest stop.rest := by
  rw [readNextMember] at h
  split at h
  · cases h
    cases hs
  · rename_i b rest hc
    split at h
    · rename_i hb
      subst hb
      cases h
      rw [hc, rest_next hc]
      exact membersBehind_close
    · split at h
      · rename_i hb
        subst hb
        dsimp only at h
        split at h
        · cases h
          cases hs
        · rename_i q tail hq
          split at h
          · rename_i hquote
            subst hquote
            obtain ⟨e, es, hto⟩ := ih.member hq h hs
            obtain ⟨g, hg, hgap⟩ := gap_of_skipGap c.next.offset c.next.rest
            rw [hc, ← rest_next hc, hgap]
            exact membersBehind_comma hg hto
          · split at h
            · cases h
              cases hs
            · cases h
              cases hs
      · cases h
        cases hs

theorem readNode_succ {c stop : Cursor} {node : Node} (h : readNode (fuel + 1) c = (node, stop))
    (hs : node.skipFault? = none) : ∃ g bs, Gap g ∧ IsValue bs ∧ c.rest = g ++ bs ++ stop.rest := by
  obtain ⟨g, hg, hgap⟩ := gap_of_skipGap c.offset c.rest
  suffices ∃ bs, IsValue bs ∧ c.skipGap.rest = bs ++ stop.rest by
    obtain ⟨bs, hbs, hrest⟩ := this
    refine ⟨g, bs, hg, hbs, ?_⟩
    rw [List.append_assoc, ← hrest]
    exact hgap
  rw [readNode] at h
  dsimp only at h
  split at h
  · cases h
    cases hs
  rename_i b rest hc
  split at h
  · rename_i hb
    subst hb
    exact ⟨_, .null, rest_of_wordNode hc h hs⟩
  split at h
  · rename_i hb
    subst hb
    exact ⟨_, .true, rest_of_wordNode hc h hs⟩
  split at h
  · rename_i hb
    subst hb
    exact ⟨_, .false, rest_of_wordNode hc h hs⟩
  split at h
  · split at h
    · rename_i hnumber
      cases h
      obtain ⟨bs, l, hl, hrest⟩ := spells_of_readNumber hnumber
      exact ⟨bs, .number hl, hrest⟩
    · cases h
      cases hs
  split at h
  · rename_i hb
    subst hb
    split at h
    · rename_i htext
      cases h
      obtain ⟨bs, hbs, hrest⟩ := passes_of_readText htext
      refine ⟨quoted bs, .text hbs, ?_⟩
      rw [hc, ← rest_next hc, hrest]
      simp only [quoted, List.cons_append, List.append_assoc, List.nil_append]
    · cases h
      cases hs
  split at h
  · rename_i hb
    subst hb
    cases h
    obtain ⟨is, hto⟩ := ih.firstItem rfl hs
    obtain ⟨g', hg', hgap'⟩ := gap_of_skipGap c.skipGap.next.offset c.skipGap.next.rest
    rw [hc, ← rest_next hc, hgap']
    exact hto.exists_value hg'
  split at h
  · rename_i hb
    subst hb
    cases h
    obtain ⟨es, hto⟩ := ih.firstMember rfl hs
    obtain ⟨g', hg', hgap'⟩ := gap_of_skipGap c.skipGap.next.offset c.skipGap.next.rest
    rw [hc, ← rest_next hc, hgap']
    exact hto.exists_value hg'
  cases h
  cases hs

end Steps

theorem readsJson (fuel : Nat) : ReadsJson fuel := by
  -- what one more step reads begins with a token, and goes on with what fewer steps read
  induction fuel with
  | zero => exact readsJson_zero
  | succ fuel ih =>
    exact
      { node := readNode_succ ih
        firstItem := readFirstItem_succ ih
        item := readItem_succ ih
        nextItem := readNextItem_succ ih
        firstMember := readFirstMember_succ ih
        member := readMember_succ ih
        nextMember := readNextMember_succ ih }

/-! ## Documents -/

/-- A document is a value by its syntax, with blanks around it. -/
def IsDocument (bytes : List UInt8) : Prop :=
  ∃ g bs g', Gap g ∧ IsValue bs ∧ Gap g' ∧ bytes = g ++ bs ++ g'

/-- Whatever a shape decodes is JSON. -/
theorem isDocument_of_decode {α : Type} {shape : Shape α} {bytes : List UInt8} {a : α}
    (h : shape.decode bytes = .ok a) : IsDocument bytes := by
  unfold Shape.decode decodeWith at h
  obtain ⟨root, hroot, h⟩ := bind_eq_ok_iff.1 (mapError_eq_ok_iff.1 h)
  obtain ⟨read, stop, hread⟩ : ∃ read stop, readNode (3 * bytes.length + 3) ⟨0, bytes⟩ = (read, stop) := ⟨_, _, rfl⟩
  unfold Document.ofBytes at hroot h
  rw [hread] at hroot h
  obtain ⟨g, bs, hg, hbs, hbytes⟩ := (readsJson _).node hread (shape.skipFault?_of_read hroot)
  obtain ⟨g', hg', hgap⟩ := gap_of_skipGap stop.offset stop.rest
  have hend : stop.skipGap.rest = [] := by
    by_contra hne
    dsimp only at h
    rw [if_neg (by simpa using hne)] at h
    cases h
  refine ⟨g, bs, g', hg, hbs, hg', ?_⟩
  rw [show bytes = g ++ bs ++ stop.rest from hbytes, show stop.rest = g' ++ stop.skipGap.rest from hgap, hend,
    List.append_nil]

end ServiceBroker.Json
