/-
Percent encoding. A set names the ASCII bytes that must be written as `%XX`; every byte past ASCII is
written so too. Form encoding is the variant that queries use, with `+` for a space.
-/
import ServiceBroker.Text.Numeral
import ServiceBroker.Text.Utf8

namespace ServiceBroker.Percent

/-- A set of bytes that are written as `%XX`. -/
abbrev Set := UInt8 → Bool

/-- Control characters and everything past ASCII. -/
def controls : Set := fun b => b < 32 || 127 ≤ b

/-- What a fragment escapes: a space, `"`, `<`, `>` and the grave accent. -/
def fragment : Set := fun b => controls b || b = 32 || b = 34 || b = 60 || b = 62 || b = 96

/-- What a path escapes, besides that: `#`, `?`, `{` and `}`. -/
def path : Set := fun b => fragment b || b = 35 || b = 63 || b = 123 || b = 125

/-- What a single path segment escapes, besides that: `/` and `%`, and the backslash where that
separates segments. -/
def segment (special : Bool) : Set := fun b => path b || b = 47 || b = 37 || (special && b = 92)

/-- What user information escapes, besides what a path does: `/`, `:`, `;`, `=`, `@`, brackets, the
backslash, `^` and `|`. -/
def userInfo : Set := fun b =>
  path b || b = 47 || b = 58 || b = 59 || b = 61 || b = 64 || (91 ≤ b && b ≤ 94) || b = 124

/-- What a query escapes: a space, `"`, `#`, `<`, `>`, and the apostrophe in special schemes. -/
def query (special : Bool) : Set := fun b =>
  controls b || b = 32 || b = 34 || b = 35 || b = 60 || b = 62 || (special && b = 39)

/-- A byte as `%XX`. -/
def escapeByte (b : UInt8) : List Char :=
  ['%', Numeral.upperHex (b.toNat / 16), Numeral.upperHex (b.toNat % 16)]

/-- A byte, escaped if the set holds it. -/
def encodeByte (set : Set) (b : UInt8) : List Char :=
  if set b || 128 ≤ b then escapeByte b else [Char.ofNat b.toNat]

/-- Characters with the bytes of a set escaped. -/
def encode (set : Set) (cs : List Char) : List Char :=
  (cs.flatMap String.utf8EncodeChar).flatMap (encodeByte set)

/-- Resolves escapes; a percent sign without two digits stands for itself. -/
def decodeBytes : List UInt8 → List UInt8
  | 37 :: a :: b :: rest =>
    match Numeral.hexByte? a, Numeral.hexByte? b with
    | some x, some y => UInt8.ofNat (x * 16 + y) :: decodeBytes rest
    | _, _ => 37 :: decodeBytes (a :: b :: rest)
  | b :: rest => b :: decodeBytes rest
  | [] => []

/-! ## Forms -/

/-- Bytes that a form leaves as they are. -/
def isFormSafe (b : UInt8) : Bool :=
  (48 ≤ b && b ≤ 57) || (65 ≤ b && b ≤ 90) || (97 ≤ b && b ≤ 122) || b = 42 || b = 45 || b = 46 || b = 95

/-- A byte in a form. -/
def encodeFormByte (b : UInt8) : List Char :=
  if isFormSafe b then [Char.ofNat b.toNat] else if b = 32 then ['+'] else escapeByte b

/-- A text in a form. -/
def encodeForm (text : String) : List Char :=
  (Utf8.encode text).flatMap encodeFormByte

/-- A name and its value in a form. -/
def encodePair (pair : String × String) : List Char :=
  encodeForm pair.1 ++ '=' :: encodeForm pair.2

/-- Appends pairs to a form that may already hold some. -/
def appendPairs (form : List Char) (pairs : List (String × String)) : List Char :=
  pairs.foldl (fun form pair => if form.isEmpty then encodePair pair else form ++ '&' :: encodePair pair) form

/-! ## Reading forms -/

/-- The bytes of a form's text, with `+` for a space and escapes resolved. -/
def decodeForm (text : List UInt8) : List UInt8 :=
  decodeBytes (text.map fun b => if b = 43 then 32 else b)

/-- Splits at every occurrence of a byte. -/
def splitBytes (separator : UInt8) : List UInt8 → List (List UInt8)
  | [] => [[]]
  | b :: rest =>
    if b = separator then [] :: splitBytes separator rest
    else match splitBytes separator rest with
      | first :: more => (b :: first) :: more
      | [] => [[b]]

/-- The pairs of a form: parts between `&`, each split at its first `=`. Empty parts count for
nothing. -/
def formPairs (form : List UInt8) : List (List UInt8 × List UInt8) :=
  ((splitBytes 38 form).filter (!·.isEmpty)).map fun part =>
    (decodeForm (part.takeWhile (· != 61)), decodeForm ((part.dropWhile (· != 61)).drop 1))

end ServiceBroker.Percent
