/-
The written forms of JSON. A document can be written in many ways: with any blanks between its tokens, any
escapes in its texts, and its numbers with or without an exponent. `Spells bytes content` states that bytes
are one of the ways to write a content, without regard to how they are read.
-/
import ServiceBroker.Json.Reader

namespace ServiceBroker.Json

/-! ## Blanks -/

/-- Blanks between tokens: tabs, line breaks and spaces. -/
def Gap (bytes : List UInt8) : Prop :=
  ∀ b ∈ bytes, b ∈ ([9, 10, 13, 32] : List UInt8)

theorem gap_nil : Gap [] := by
  unfold Gap
  simp

/-! ## Texts -/

/-- The letters behind a backslash, and the characters that they stand for. -/
def marks : List (UInt8 × Char) :=
  [(34, '"'), (92, '\\'), (47, '/'), (98, '\x08'), (102, '\x0c'), (110, '\n'), (114, '\r'), (116, '\t')]

/-- The first character past the first plane, which takes a pair of codes. -/
def pairBase : Nat := 0x10000

/-- Bytes between two quotes spell characters. -/
inductive SpellsChars : List UInt8 → List Char → Prop
  | nil : SpellsChars [] []
  /-- A character stands for itself. -/
  | plain {bs cs} {c : Char} : c ≠ '"' → c ≠ '\\' → 32 ≤ c.toNat → SpellsChars bs cs →
      SpellsChars (String.utf8EncodeChar c ++ bs) (c :: cs)
  /-- A letter stands for a character. -/
  | mark {bs cs} {letter : UInt8} {c : Char} : (letter, c) ∈ marks → SpellsChars bs cs →
      SpellsChars (92 :: letter :: bs) (c :: cs)
  /-- A code of four hexadecimal digits stands for a character of the first plane. -/
  | code {bs cs n} {a b c d : UInt8} : hex4? a b c d = some n → n < 0xD800 ∨ 0xDFFF < n → SpellsChars bs cs →
      SpellsChars (92 :: 117 :: a :: b :: c :: d :: bs) (Char.ofNat n :: cs)
  /-- Two codes stand for a character past the first plane. -/
  | pair {bs cs n m} {a b c d a' b' c' d' : UInt8} : hex4? a b c d = some n → 0xD800 ≤ n → n ≤ 0xDBFF →
      hex4? a' b' c' d' = some m → 0xDC00 ≤ m → m ≤ 0xDFFF → SpellsChars bs cs →
      SpellsChars (92 :: 117 :: a :: b :: c :: d :: 92 :: 117 :: a' :: b' :: c' :: d' :: bs)
        (Char.ofNat ((n - 0xD800) * 0x400 + (m - 0xDC00) + pairBase) :: cs)

/-- Bytes between two quotes that can be passed over, whether they spell characters or not. -/
inductive PassesChars : List UInt8 → Prop
  | nil : PassesChars []
  | plain {bs} {b : UInt8} : b ≠ 34 → b ≠ 92 → 32 ≤ b → PassesChars bs → PassesChars (b :: bs)
  | mark {bs} {letter : UInt8} {c : Char} : (letter, c) ∈ marks → PassesChars bs →
      PassesChars (92 :: letter :: bs)
  | code {bs n} {a b c d : UInt8} : hex4? a b c d = some n → PassesChars bs →
      PassesChars (92 :: 117 :: a :: b :: c :: d :: bs)

/-- Bytes in quotes. -/
def quoted (bytes : List UInt8) : List UInt8 :=
  34 :: bytes ++ [34]

/-! ## Numbers -/

/-- The bytes of decimal digits. -/
def digitBytes (ds : List Nat) : List UInt8 :=
  ds.map fun d => UInt8.ofNat (d + 48)

/-- Decimal digits, one at least. -/
def Figures (ds : List Nat) : Prop :=
  ds ≠ [] ∧ ∀ d ∈ ds, d < 10

/-- The digits before a point begin with a zero only if it is the only one. -/
inductive SpellsWhole : List UInt8 → List Nat → Prop
  | zero : SpellsWhole [48] [0]
  | figures {d ds} : d ≠ 0 → Figures (d :: ds) → SpellsWhole (digitBytes (d :: ds)) (d :: ds)

/-- The digits behind a point. -/
inductive SpellsFraction : List UInt8 → Option (List Nat) → Prop
  | absent : SpellsFraction [] none
  | present {ds} : Figures ds → SpellsFraction (46 :: digitBytes ds) (some ds)

/-- An exponent, with a sign or without. -/
inductive SpellsExponent : List UInt8 → Option (Bool × List Nat) → Prop
  | absent : SpellsExponent [] none
  | unsigned {e : UInt8} {ds} : e = 101 ∨ e = 69 → Figures ds →
      SpellsExponent (e :: digitBytes ds) (some (false, ds))
  | plus {e : UInt8} {ds} : e = 101 ∨ e = 69 → Figures ds →
      SpellsExponent (e :: 43 :: digitBytes ds) (some (false, ds))
  | minus {e : UInt8} {ds} : e = 101 ∨ e = 69 → Figures ds →
      SpellsExponent (e :: 45 :: digitBytes ds) (some (true, ds))

/-- Bytes spell a decimal literal. -/
inductive SpellsLiteral : List UInt8 → Decimal.Literal → Prop
  | unsigned {ws fs es whole fraction exponent} : SpellsWhole ws whole → SpellsFraction fs fraction →
      SpellsExponent es exponent → SpellsLiteral (ws ++ fs ++ es) ⟨false, whole, fraction, exponent⟩
  | minus {ws fs es whole fraction exponent} : SpellsWhole ws whole → SpellsFraction fs fraction →
      SpellsExponent es exponent → SpellsLiteral (45 :: ws ++ fs ++ es) ⟨true, whole, fraction, exponent⟩

/-- The number of a literal, unless it is out of range. -/
def number? (l : Decimal.Literal) : Option Number :=
  (keepNumber l 0 0).toOption

/-! ## Values -/

/-- What a document says. A number out of range and a text that is no text have no value; such a number
or text can only be passed over. -/
inductive Content
  | null
  | bool (value : Bool)
  | number (value : Option Number)
  | text (value : Option String)
  | array (items : List Content)
  | object (members : List (String × Content))

mutual

/-- Bytes spell a value. -/
inductive Spells : List UInt8 → Content → Prop
  | null : Spells [110, 117, 108, 108] .null
  | true : Spells [116, 114, 117, 101] (.bool true)
  | false : Spells [102, 97, 108, 115, 101] (.bool false)
  | number {bs l} : SpellsLiteral bs l → Spells bs (.number (number? l))
  | text {bs cs} : SpellsChars bs cs → Spells (quoted bs) (.text (some (String.ofList cs)))
  | noText {bs} : PassesChars bs → Spells (quoted bs) (.text none)
  | emptyArray {g} : Gap g → Spells (91 :: g ++ [93]) (.array [])
  | array {bs items} : SpellsItems bs items → Spells (91 :: bs) (.array items)
  | emptyObject {g} : Gap g → Spells (123 :: g ++ [125]) (.object [])
  | object {bs members} : SpellsMembers bs members → Spells (123 :: bs) (.object members)

/-- Bytes spell the items of an array up to its closing bracket. -/
inductive SpellsItems : List UInt8 → List Content → Prop
  | last {g bs g' item} : Gap g → Spells bs item → Gap g' → SpellsItems (g ++ bs ++ g' ++ [93]) [item]
  | more {g bs g' rest item items} : Gap g → Spells bs item → Gap g' → SpellsItems rest items →
      SpellsItems (g ++ bs ++ g' ++ 44 :: rest) (item :: items)

/-- Bytes spell the members of an object up to its closing brace. -/
inductive SpellsMembers : List UInt8 → List (String × Content) → Prop
  | last {g name cs g₁ g₂ bs g₃ value} : Gap g → SpellsChars name cs → Gap g₁ → Gap g₂ → Spells bs value →
      Gap g₃ →
      SpellsMembers (g ++ quoted name ++ g₁ ++ 58 :: g₂ ++ bs ++ g₃ ++ [125]) [(String.ofList cs, value)]
  | more {g name cs g₁ g₂ bs g₃ rest value members} : Gap g → SpellsChars name cs → Gap g₁ → Gap g₂ →
      Spells bs value → Gap g₃ → SpellsMembers rest members →
      SpellsMembers (g ++ quoted name ++ g₁ ++ 58 :: g₂ ++ bs ++ g₃ ++ 44 :: rest)
        ((String.ofList cs, value) :: members)

end

/-- Bytes spell a document: a value with blanks around it. -/
def SpellsDocument (bytes : List UInt8) (content : Content) : Prop :=
  ∃ g bs g', Gap g ∧ Spells bs content ∧ Gap g' ∧ bytes = g ++ bs ++ g'

end ServiceBroker.Json
