/-
Tables of character properties, written as text. Each word has a code or a range of codes in hexadecimal
and, behind a colon, what is said of them.
-/
import ServiceBroker.Text.Numeral
import ServiceBroker.Text.Split

namespace ServiceBroker.Unicode

/-- Something that is said of a range of codes. -/
structure Entry (α : Type) where
  first : Nat
  last : Nat
  value : α
deriving Repr

/-- What is said of all codes. Of codes in no entry nothing is said. -/
abbrev Table (α : Type) := List (Entry α)

/-- The number that hexadecimal digits spell. -/
def readHex (digits : List Char) : Nat :=
  digits.foldl (fun n c => n * 16 + (Numeral.hexByte? c.toUInt8).getD 0) 0

/-- The entry that a word spells. -/
def Entry.ofWord (value : List Char → α) (word : List Char) : Entry α :=
  let range := word.takeWhile (· != ':')
  let first := range.takeWhile (· != '-')
  let last := (range.dropWhile (· != '-')).drop 1
  ⟨readHex first, readHex (if last.isEmpty then first else last), value ((word.dropWhile (· != ':')).drop 1)⟩

/-- The table that a text spells. -/
def Table.ofText (value : List Char → α) (text : String) : Table α :=
  (words text).map (Entry.ofWord value)

/-- The entry that holds a code. -/
def Table.find? (t : Table α) (code : Nat) : Option (Entry α) :=
  List.find? (fun e => e.first ≤ code && code ≤ e.last) t

/-- Whether anything is said of a code. -/
def Table.mentions (t : Table α) (code : Nat) : Bool :=
  (t.find? code).isSome

end ServiceBroker.Unicode
