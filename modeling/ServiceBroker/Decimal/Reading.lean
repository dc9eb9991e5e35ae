/-
From a decimal literal to a number. An integer literal that fits 64 bits stays an integer. Every
other literal becomes a double: the leading digits that fit 64 bits, times or divided by a power of
ten, each step rounded to a double. A literal past the greatest double is refused.
-/

namespace ServiceBroker.Decimal

/-- The parts of a decimal literal, digit by digit. `exponent` holds the sign and the digits. -/
structure Literal where
  negative : Bool
  whole : List Nat
  fraction : Option (List Nat)
  exponent : Option (Bool × List Nat)
deriving DecidableEq, Repr

/-- What a literal stands for. -/
inductive Reading
  | integer (value : Int)
  | double (value : Float)
  /-- Too large for a double. With an index, the exponent itself grew too large at that digit. -/
  | outOfRange (exponentDigit : Option Nat)
deriving DecidableEq

/-- The bound on leading digits that are kept. -/
def significandBound : Nat := 0x10000000000000000

/-- The greatest exponent that is written out. -/
def exponentLimit : Nat := 0x7FFFFFFF

/-- Appends digits while the number stays below the bound; gives the number and the digits left. -/
def absorb : Nat → List Nat → Nat × List Nat
  | n, [] => (n, [])
  | n, d :: rest => if n * 10 + d < significandBound then absorb (n * 10 + d) rest else (n, d :: rest)

/-- The value of exponent digits, or the index of the digit at which it passes the limit. -/
def exponentValue (index : Nat) : Nat → List Nat → Except Nat Nat
  | n, [] => .ok n
  | n, d :: rest =>
    if n * 10 + d ≤ exponentLimit then exponentValue (index + 1) (n * 10 + d) rest else .error index

/-- The double nearest to a power of ten. -/
def powerOfTen (k : Nat) : Float :=
  Float.ofScientific 1 false k

/-- Gives a double its sign. -/
def signed (negative : Bool) (f : Float) : Float :=
  if negative then -f else f

/-- Scales by a power of ten in steps that a double can hold; nothing when the result does not fit. -/
def scale : Nat → Float → Int → Option Float
  | 0, f, _ => some f
  | fuel + 1, f, e =>
    if e.natAbs ≤ 308 then
      if 0 ≤ e then
        let g := f * powerOfTen e.natAbs
        if g.isInf then none else some g
      else some (f / powerOfTen e.natAbs)
    else if f == 0.0 then some f
    else if 0 ≤ e then none
    else scale fuel (f / powerOfTen 308) (e + 308)

/-- The double of leading digits and an exponent. A negative exponent is used up in steps of 308, and
after three of them every number is zero. -/
def scaled (negative : Bool) (significand : Nat) (e : Int) : Reading :=
  match scale 8 (UInt64.ofNat significand).toFloat e with
  | some f => .double (signed negative f)
  | none => .outOfRange none

/-- Clamps an exponent to 32 bits. -/
def clampExponent (e : Int) : Int :=
  max (-0x80000000) (min 0x7FFFFFFF e)

/-- Applies the written exponent to the leading digits, whose own place is `place`. -/
def withExponent (negative : Bool) (significand : Nat) (place : Int) : Option (Bool × List Nat) → Reading
  | none => scaled negative significand place
  | some (minus, digits) =>
    match exponentValue 0 0 digits with
    | .ok e => scaled negative significand (clampExponent (if minus then place - e else place + e))
    | .error index =>
      if significand ≠ 0 ∧ !minus then .outOfRange (some index) else .double (signed negative 0.0)

/-- The number that a literal stands for. -/
def Literal.read (l : Literal) : Reading :=
  let (significand, dropped) := absorb 0 l.whole
  match l.fraction, l.exponent with
  | none, none =>
    if !dropped.isEmpty then scaled l.negative significand dropped.length
    else if !l.negative then .integer significand
    else if 0 < significand ∧ significand ≤ 0x8000000000000000 then .integer (-(significand : Int))
    else .double (-(UInt64.ofNat significand).toFloat)
  | none, some e => withExponent l.negative significand dropped.length (some e)
  | some digits, e =>
    let (significand, surplus) := absorb significand digits
    withExponent l.negative significand ((dropped.length : Int) - (digits.length - surplus.length : Nat)) e

end ServiceBroker.Decimal
