/-
The standard Base64 alphabet with padding. `encode` writes every three bytes as four symbols and
fills the last group with `=`; `decode` accepts that form alone, so a text whose padding is missing
or whose last symbol carries spare bits is refused.
-/
import ServiceBroker.Text.Utf8

namespace ServiceBroker.Base64

/-- Why a text is not Base64. Offsets count bytes. -/
inductive Fault
  | symbol (offset : Nat) (byte : UInt8)
  | length (count : Nat)
  | lastSymbol (offset : Nat) (byte : UInt8)
  | padding
deriving DecidableEq, Repr

/-- The wording of a fault. -/
def Fault.message : Fault → String
  | .symbol offset byte => s!"Invalid symbol {byte.toNat}, offset {offset}."
  | .length count => s!"Invalid input length: {count}"
  | .lastSymbol offset byte => s!"Invalid last symbol {byte.toNat}, offset {offset}."
  | .padding => "Invalid padding"

/-! ## Symbols -/

/-- The symbol of a six-bit value. -/
def symbol (n : Nat) : Char :=
  if n < 26 then Char.ofNat (n + 65)
  else if n < 52 then Char.ofNat (n + 71)
  else if n < 62 then Char.ofNat (n - 4)
  else if n = 62 then '+'
  else '/'

/-- The six-bit value of a symbol's byte. -/
def value? (b : UInt8) : Option Nat :=
  let n := b.toNat
  if 65 ≤ n ∧ n ≤ 90 then some (n - 65)
  else if 97 ≤ n ∧ n ≤ 122 then some (n - 71)
  else if 48 ≤ n ∧ n ≤ 57 then some (n + 4)
  else if n = 43 then some 62
  else if n = 47 then some 63
  else none

/-- The byte of the padding sign `=`. -/
def pad : UInt8 := 61

/-! ## Writing -/

/-- The symbols of a byte list. -/
def encodeSymbols : List UInt8 → List Char
  | [] => []
  | [a] =>
    [symbol (a.toNat / 4), symbol (a.toNat % 4 * 16), '=', '=']
  | [a, b] =>
    [symbol (a.toNat / 4), symbol (a.toNat % 4 * 16 + b.toNat / 16), symbol (b.toNat % 16 * 4), '=']
  | a :: b :: c :: rest =>
    symbol (a.toNat / 4) :: symbol (a.toNat % 4 * 16 + b.toNat / 16)
      :: symbol (b.toNat % 16 * 4 + c.toNat / 64) :: symbol (c.toNat % 64) :: encodeSymbols rest

/-- The Base64 text of a byte list. -/
def encode (bytes : List UInt8) : String :=
  String.ofList (encodeSymbols bytes)

/-- The Base64 text of a text's bytes. -/
def encodeText (text : String) : String :=
  encode (Utf8.encode text)

/-! ## Reading -/

/-- The value of a symbol that stands at `offset`. -/
def valueAt (offset : Nat) (b : UInt8) : Except Fault Nat :=
  match value? b with
  | some n => .ok n
  | none => .error (.symbol offset b)

/-- The last group split into its symbols and the number of padding signs behind them. `pads`
counts the signs seen, the first of which stood at `firstPad`. -/
def splitLast (start : Nat) (index pads firstPad : Nat) :
    List UInt8 → Except Fault (List (UInt8 × Nat) × Nat)
  | [] => .ok ([], pads)
  | b :: rest =>
    if b = pad then
      if index < 2 then .error (.symbol (start + index) b)
      else splitLast start (index + 1) (pads + 1) (if pads = 0 then index else firstPad) rest
    else if 0 < pads then .error (.symbol (start + firstPad) pad)
    else do
      let n ← valueAt (start + index) b
      let (more, total) ← splitLast start (index + 1) pads firstPad rest
      return ((b, n) :: more, total)

/-- The bytes of the last group, which starts at `start` and has at most four symbols. -/
def decodeLast (start : Nat) (group : List UInt8) : Except Fault (List UInt8) := do
  let (symbols, pads) ← splitLast start 0 0 0 group
  match symbols with
  | [] => if group.isEmpty && start = 0 then return [] else throw (.length start)
  | [_] => throw (.length (start + 1))
  | [(_, a), (s, b)] =>
    if pads ≠ 2 then throw .padding
    if b % 16 ≠ 0 then throw (.lastSymbol (start + 1) s)
    return [UInt8.ofNat (a * 4 + b / 16)]
  | [(_, a), (_, b), (s, c)] =>
    if pads ≠ 1 then throw .padding
    if c % 4 ≠ 0 then throw (.lastSymbol (start + 2) s)
    return [UInt8.ofNat (a * 4 + b / 16), UInt8.ofNat (b % 16 * 16 + c / 4)]
  | (_, a) :: (_, b) :: (_, c) :: (_, d) :: _ =>
    return [UInt8.ofNat (a * 4 + b / 16), UInt8.ofNat (b % 16 * 16 + c / 4), UInt8.ofNat (c % 4 * 64 + d)]

/-- The bytes of the groups from `start` on. A group is the last one when nothing follows it. -/
def decodeFrom (start : Nat) : List UInt8 → Except Fault (List UInt8)
  | a :: b :: c :: d :: e :: rest => do
    let a ← valueAt start a
    let b ← valueAt (start + 1) b
    let c ← valueAt (start + 2) c
    let d ← valueAt (start + 3) d
    let more ← decodeFrom (start + 4) (e :: rest)
    return UInt8.ofNat (a * 4 + b / 16) :: UInt8.ofNat (b % 16 * 16 + c / 4)
      :: UInt8.ofNat (c % 4 * 64 + d) :: more
  | group => decodeLast start group

/-- The bytes that a Base64 text stands for. A single symbol left over at the end is looked at first,
so that a stray line break is reported as such. -/
def decode (text : List UInt8) : Except Fault (List UInt8) :=
  match text.getLast? with
  | some b =>
    if text.length % 4 = 1 && b != pad && (value? b).isNone then .error (.symbol (text.length - 1) b)
    else decodeFrom 0 text
  | none => .ok []

end ServiceBroker.Base64
