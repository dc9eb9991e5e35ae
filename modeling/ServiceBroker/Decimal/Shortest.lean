/-
The shortest decimal of a double: of all decimals that round to the value, one with the fewest
digits, and of those the nearest. The search runs over digit counts in exact integer arithmetic: on
each decimal grid only the two neighbours of the value can qualify.
-/

namespace ServiceBroker.Decimal

/-- The magnitude of a finite double as `mantissa · 2 ^ exponent`. -/
structure Binary where
  mantissa : Nat
  exponent : Int
deriving DecidableEq, Repr

/-- The magnitude that the bits of a double describe. -/
def Binary.ofBits (bits : UInt64) : Binary :=
  let fraction : Nat := bits.toNat % 0x10000000000000
  let scale : Nat := bits.toNat / 0x10000000000000 % 0x800
  if scale = 0 then ⟨fraction, -1074⟩ else ⟨fraction + 0x10000000000000, (scale : Int) - 1075⟩

/-- Digits and a place: `digits · 10 ^ exponent`. -/
structure Scientific where
  digits : Nat
  exponent : Int
deriving DecidableEq, Repr

/-! ## Comparison -/

/-- Compares `a · 10 ^ p` with `b · 2 ^ q` exactly. -/
def compareScaled (a : Nat) (p : Int) (b : Nat) (q : Int) : Ordering :=
  compare (a * Nat.pow 10 p.toNat * Nat.pow 2 (-q).toNat) (b * Nat.pow 2 q.toNat * Nat.pow 10 (-p).toNat)

/-- A quarter of the gap below a value is half as wide where the mantissa is the least of its
binade. The bounds are counted in quarters of the unit in the last place. -/
def Binary.lowerBound (x : Binary) : Nat :=
  if x.mantissa = 0x10000000000000 ∧ -1074 < x.exponent then 4 * x.mantissa - 1 else 4 * x.mantissa - 2

/-- The upper end of the reals that round to the value, in quarters of the last place. -/
def Binary.upperBound (x : Binary) : Nat :=
  4 * x.mantissa + 2

/-- A decimal rounds to the value when it lies between the bounds; the bounds themselves round to
it only if the mantissa is even. -/
def Binary.covers (x : Binary) (d : Scientific) : Bool :=
  let below := compareScaled d.digits d.exponent x.lowerBound (x.exponent - 2)
  let above := compareScaled d.digits d.exponent x.upperBound (x.exponent - 2)
  if x.mantissa % 2 = 0 then below != .lt && above != .gt else below == .gt && above == .lt

/-! ## Search -/

/-- The greatest `p ≤ start` with `10 ^ p ≤ value`, looked for in at most `fuel` steps. -/
def descend (x : Binary) : Nat → Int → Int
  | 0, p => p
  | fuel + 1, p => if compareScaled 1 p x.mantissa x.exponent == .gt then descend x fuel (p - 1) else p

/-- The place of the first digit: `10 ^ p ≤ value < 10 ^ (p + 1)`. -/
def Binary.magnitude (x : Binary) : Int :=
  let guess := ((Nat.log2 x.mantissa : Int) + x.exponent) * 30103
  descend x 4 (guess / 100000 + 2)

/-- The quotient of the value by `10 ^ p`, rounded down. -/
def Binary.onGrid (x : Binary) (p : Int) : Nat :=
  (x.mantissa * Nat.pow 2 x.exponent.toNat * Nat.pow 10 (-p).toNat) /
    (Nat.pow 2 (-x.exponent).toNat * Nat.pow 10 p.toNat)

/-- Of two neighbours on a grid the nearer one, a tie going to the even one. -/
def Binary.nearer (x : Binary) (n : Nat) (p : Int) : Nat :=
  match compareScaled (2 * n + 1) p x.mantissa (x.exponent + 1) with
  | .gt => n
  | .lt => n + 1
  | .eq => if n % 2 = 0 then n else n + 1

/-- The first grid, from `p` downwards, on which a neighbour of the value rounds to it. -/
def Binary.search (x : Binary) : Nat → Int → Scientific
  | 0, p => ⟨x.onGrid p, p⟩
  | fuel + 1, p =>
    let n := x.onGrid p
    match x.covers ⟨n, p⟩, x.covers ⟨n + 1, p⟩ with
    | true, true => ⟨x.nearer n p, p⟩
    | true, false => ⟨n, p⟩
    | false, true => ⟨n + 1, p⟩
    | false, false => x.search fuel (p - 1)

/-- Moves trailing zeros into the exponent. -/
def Scientific.strip : Nat → Scientific → Scientific
  | 0, d => d
  | fuel + 1, d => if d.digits % 10 = 0 then strip fuel ⟨d.digits / 10, d.exponent + 1⟩ else d

/-- The shortest decimal that rounds to a positive finite value. -/
def shortest (x : Binary) : Scientific :=
  (x.search 17 x.magnitude).strip 20

end ServiceBroker.Decimal
