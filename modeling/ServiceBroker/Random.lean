/-
Draws from a row of random words. The same row gives the same draws; a draw that rejects words may
give up when too many in a row are rejected.
-/
import ServiceBroker.Text.Numeral

namespace ServiceBroker.Random

/-! ## Words -/

/-- An endless row of words, and how many of them a single draw may reject. -/
structure Dice where
  word : Nat → UInt64
  patience : Nat

/-- A draw takes words from a position on. Nothing comes of it when its patience runs out. -/
abbrev Draw := ReaderT Dice (StateT Nat Option)

/-- The result of a draw from a position, and the position behind it. -/
def Draw.from? (draw : Draw α) (dice : Dice) (position : Nat) : Option (α × Nat) :=
  (ReaderT.run draw dice).run position

/-- The next word. -/
def next : Draw UInt64 := do
  let position ← get
  set (position + 1)
  return (← read).word position

/-- The upper half of the next word. -/
def next32 : Draw Nat := do
  return (← next).toNat / 0x100000000

/-- A word spread over all its bits. -/
def scramble (z : UInt64) : UInt64 :=
  let z := (z ^^^ (z >>> 30)) * 0xBF58476D1CE4E5B9
  let z := (z ^^^ (z >>> 27)) * 0x94D049BB133111EB
  z ^^^ (z >>> 31)

/-- The row of words that a seed determines. -/
def words (seed : UInt64) (index : Nat) : UInt64 :=
  scramble (seed + UInt64.ofNat (index + 1) * 0x9E3779B97F4A7C15)

/-! ## Simple draws -/

/-- A truth value. -/
def bool : Draw Bool := do
  return 0x80000000 ≤ (← next32)

/-- True for words below a bound. -/
def chance (bound : UInt64) : Draw Bool := do
  return (← next) < bound

/-- A byte. -/
def byte : Draw UInt8 := do
  return UInt8.ofNat (← next32)

/-! ## Uniform draws -/

/-- The number that a half word stands for among `n` equally likely ones. Of the words that remain
after an even division some are rejected. -/
def scale? (n v : Nat) : Option Nat :=
  let zone := n * Nat.pow 2 (31 - n.log2) - 1
  if v * n % 0x100000000 ≤ zone then some (v * n / 0x100000000) else none

/-- A number below `n`, unless more than `tries` words are rejected. -/
def belowWithin (n : Nat) : (tries : Nat) → Draw Nat
  | 0 => fun _ _ => none
  | tries + 1 => do
    match scale? n (← next32) with
    | some i => return i
    | none => belowWithin n tries

/-- A number below `n`. -/
def below (n : Nat) : Draw Nat := do
  belowWithin n (← read).patience

/-! ## Samples -/

/-- Puts `new` in front of `old`. -/
def insertBefore (old new : Nat) : List Nat → List Nat
  | [] => []
  | i :: rest => if i = old then new :: i :: rest else i :: insertBefore old new rest

/-- Enters a candidate into a sample: the number drawn if it is new, else the top of its range, which
no earlier range held. -/
def enter (sample : List Nat) (top drawn : Nat) : List Nat :=
  if drawn ∈ sample then insertBefore drawn top sample else sample ++ [drawn]

/-- Different numbers below `length`, as many as asked for: one draw for each of the last `amount` ranges. -/
def sample (length amount : Nat) : Draw (List Nat) :=
  (List.range' (length - amount) amount).foldlM (fun chosen top => do return enter chosen top (← below (top + 1))) []

/-! ## Identifiers -/

/-- As many draws one after another. -/
def repeated (draw : Draw α) : Nat → Draw (List α)
  | 0 => return []
  | n + 1 => do
    let a ← draw
    return a :: (← repeated draw n)

/-- The two hexadecimal digits of a byte. -/
def hexDigits (b : UInt8) : List Char :=
  [Numeral.lowerHex (b.toNat / 16), Numeral.lowerHex (b.toNat % 16)]

/-- Digits in groups of the given lengths with hyphens between them. -/
def grouped : List Nat → List Char → List Char
  | [], digits => digits
  | n :: lengths, digits => digits.take n ++ '-' :: grouped lengths (digits.drop n)

/-- A random identifier: 16 bytes in groups of eight, four, four, four and twelve digits. -/
def guid : Draw String := do
  let bytes ← repeated byte 16
  return String.ofList (grouped [8, 4, 4, 4] (bytes.flatMap hexDigits))

end ServiceBroker.Random
