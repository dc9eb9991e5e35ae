/-
Punycode: texts outside ASCII written with letters, digits and hyphens. The ASCII characters come
first; then each further character in order of its code, as the distance from the last one.
-/
import ServiceBroker.Text.Numeral

namespace ServiceBroker.Punycode

/-- The digit of a value below 36. -/
def digit (n : Nat) : Char :=
  if n < 26 then Char.ofNat (n + 97) else Char.ofNat (n + 22)

/-- The value of a digit. -/
def value? (c : Char) : Option Nat :=
  let n := c.toNat
  if 97 ≤ n ∧ n ≤ 122 then some (n - 97)
  else if 65 ≤ n ∧ n ≤ 90 then some (n - 65)
  else if 48 ≤ n ∧ n ≤ 57 then some (n - 22)
  else none

/-- The threshold of the digit at place `k`. -/
def threshold (k bias : Nat) : Nat :=
  max 1 (min 26 (k - bias))

/-- Divides a distance down to the range of one digit; each division moves the bias by a digit. -/
def settle : Nat → Nat → Nat → Nat
  | 0, k, _ => k
  | fuel + 1, k, delta => if 455 < delta then settle fuel (k + 36) (delta / 35) else k + 36 * delta / (delta + 38)

/-- The bias for the next distance. -/
def adapt (delta count : Nat) (first : Bool) : Nat :=
  let delta := if first then delta / 700 else delta / 2
  settle 64 0 (delta + delta / count)

/-! ## Encoding -/

/-- The digits of a distance. -/
def encodeDistance : Nat → Nat → Nat → Nat → List Char
  | 0, _, _, _ => []
  | fuel + 1, k, bias, q =>
    let t := threshold k bias
    if q < t then [digit q]
    else digit (t + (q - t) % (36 - t)) :: encodeDistance fuel (k + 36) bias ((q - t) / (36 - t))

/-- What is carried along while encoding. -/
structure Encoder where
  delta : Nat
  bias : Nat
  handled : Nat
  written : List Char

/-- Passes over the whole text once, writing the distance to each occurrence of the code `n`. -/
def encodeCode (basic n : Nat) : List Nat → Encoder → Encoder
  | [], e => e
  | c :: rest, e =>
    if c < n then encodeCode basic n rest { e with delta := e.delta + 1 }
    else if c = n then
      encodeCode basic n rest
        { delta := 0
          bias := adapt e.delta (e.handled + 1) (e.handled == basic)
          handled := e.handled + 1
          written := e.written ++ encodeDistance 64 36 e.bias e.delta }
    else encodeCode basic n rest e

/-- Writes the codes from `n` on, in rising order. -/
def encodeCodes (basic : Nat) (codes : List Nat) (n : Nat) : List Nat → Encoder → Encoder
  | [], e => e
  | m :: rest, e =>
    let e := encodeCode basic m codes { e with delta := e.delta + (m - n) * (e.handled + 1) }
    encodeCodes basic codes (m + 1) rest { e with delta := e.delta + 1 }

/-- The Punycode of a text. -/
def encode (text : List Char) : List Char :=
  let codes := text.map Char.toNat
  let basic := text.filter (·.toNat < 128)
  let further := (codes.filter (128 ≤ ·)).mergeSort.eraseDups
  let start := if basic.isEmpty then [] else basic ++ ['-']
  (encodeCodes basic.length codes 128 further ⟨0, 72, basic.length, start⟩).written

/-! ## Decoding -/

/-- Reads a distance on top of `i`: the sum and what is left. -/
def decodeDistance (bias : Nat) : Nat → Nat → Nat → List Char → Option (Nat × List Char)
  | _, _, _, [] => none
  | i, weight, k, c :: rest => do
    let d ← value? c
    let i := i + d * weight
    if 0x100000000 ≤ i then none
    let t := threshold k bias
    if d < t then return (i, rest) else decodeDistance bias i (weight * (36 - t)) (k + 36) rest

/-- Enters characters one by one where their distances put them. -/
def decodeFrom : Nat → Nat → Nat → Nat → List Char → List Char → Option (List Char)
  | _, _, _, _, text, [] => some text
  | 0, _, _, _, _, _ => none
  | fuel + 1, n, i, bias, text, rest => do
    let (position, rest) ← decodeDistance bias i 1 36 rest
    let count := text.length + 1
    let n := n + position / count
    let place := position % count
    if n < 0x110000 ∧ ¬ (0xD800 ≤ n ∧ n < 0xE000) then
      decodeFrom fuel n (place + 1) (adapt (position - i) count (i == 0))
        (text.take place ++ Char.ofNat n :: text.drop place) rest
    else none

/-- The text that Punycode stands for. What precedes the last hyphen is taken as it is. -/
def decode (code : List Char) : Option (List Char) :=
  let tail := (code.reverse.takeWhile (· != '-')).reverse
  let head := code.take (code.length - tail.length - 1)
  if head.all (·.toNat < 128) then decodeFrom code.length 128 0 72 head tail else none

end ServiceBroker.Punycode
