/-
Numeric hosts. An IPv4 address has up to four numbers, the last of which fills what is left; each may be
decimal, octal or hexadecimal. An IPv6 address has eight pieces, a run of zeros may be left out once, and
the last two pieces may be written as four decimal numbers.
-/
import ServiceBroker.Text.Numeral
import ServiceBroker.Text.Split

namespace ServiceBroker.Address

/-- The value of a digit in a base of at most sixteen. -/
def digitIn? (base : Nat) (c : Char) : Option Nat :=
  if c.toNat < 128 then (Numeral.hexByte? (UInt8.ofNat c.toNat)).filter (· < base) else none

/-- The number that digits spell in a base. -/
def readBase (base : Nat) (cs : List Char) : Option Nat :=
  cs.foldlM (fun n c => (digitIn? base c).map (n * base + ·)) 0

/-! ## IPv4 -/

/-- A number of an IPv4 address: hexadecimal behind `0x`, octal behind `0`, else decimal. A lone prefix
is zero. -/
def ipv4Number? : List Char → Option Nat
  | [] => none
  | '0' :: 'x' :: digits | '0' :: 'X' :: digits => readBase 16 digits
  | '0' :: d :: digits => readBase 8 (d :: digits)
  | digits => readBase 10 digits

/-- The parts of a host between dots; a dot at the end adds no part. -/
def dottedParts (host : List Char) : List (List Char) :=
  let parts := splitChars '.' host
  if 1 < parts.length && parts.getLast? == some [] then parts.dropLast else parts

/-- A host whose last part is a number is taken for an IPv4 address, whether it is one or not. -/
def looksLikeIPv4 (host : List Char) : Bool :=
  match (dottedParts host).getLast? with
  | some last => (!last.isEmpty && last.all (fun c => (digitIn? 10 c).isSome)) || (ipv4Number? last).isSome
  | none => false

/-- The value of an IPv4 address. All numbers but the last are bytes. -/
def readIPv4 (host : List Char) : Option Nat := do
  let parts := dottedParts host
  if 4 < parts.length then none
  let numbers ← parts.mapM ipv4Number?
  let last ← numbers.getLast?
  let leading := numbers.dropLast
  if leading.any (255 < ·) || Nat.pow 256 (4 - leading.length) ≤ last then none
  return leading.foldr (fun n (sum, weight) => (sum + n * weight, weight * 256))
    (last, Nat.pow 256 (4 - leading.length)) |>.1

/-- An IPv4 address as four decimal numbers. -/
def renderIPv4 (n : Nat) : List Char :=
  let part (k : Nat) := Nat.toDigits 10 (n / Nat.pow 256 k % 256)
  part 3 ++ '.' :: part 2 ++ '.' :: part 1 ++ '.' :: part 0

/-! ## IPv6 -/

/-- The byte that at most three decimal digits without a leading zero spell. -/
def readByte (cs : List Char) : Option Nat := do
  if cs.isEmpty || (1 < cs.length && cs.head? == some '0') then none
  let n ← readBase 10 cs
  if 255 < n then none else return n

/-- The two pieces that four dotted decimal numbers make. -/
def readDotted (cs : List Char) : Option (List Nat) :=
  match (splitChars '.' cs).mapM readByte with
  | some [a, b, c, d] => some [a * 256 + b, c * 256 + d]
  | _ => none

/-- One piece: up to four hexadecimal digits. -/
def readPiece (cs : List Char) : Option Nat :=
  if cs.isEmpty || 4 < cs.length then none else readBase 16 cs

/-- Pieces between colons; the last may be dotted when the address ends there. -/
def readPieces (last : Bool) : List (List Char) → Option (List Nat)
  | [] => some []
  | [p] => if last && p.contains '.' then readDotted p else (readPiece p).map ([·])
  | p :: rest => do
    let n ← readPiece p
    let more ← readPieces last rest
    return n :: more

/-- The part before the first `::` and the part behind it. -/
def splitGap (before : List Char) : List Char → Option (List Char × List Char)
  | ':' :: ':' :: rest => some (before.reverse, rest)
  | c :: rest => splitGap (c :: before) rest
  | [] => none

/-- The pieces on one side of a gap, of which there may be none. -/
def readSide (last : Bool) (cs : List Char) : Option (List Nat) :=
  if cs.isEmpty then some [] else readPieces last (splitChars ':' cs)

/-- The eight pieces of an IPv6 address. A gap stands for at least one zero. -/
def readIPv6 (cs : List Char) : Option (List Nat) := do
  match splitGap [] cs with
  | none =>
    let pieces ← readPieces true (splitChars ':' cs)
    if pieces.length = 8 then return pieces else none
  | some (before, after) =>
    let front ← readSide false before
    let back ← readSide true after
    if 7 < front.length + back.length then none
    return front ++ List.replicate (8 - front.length - back.length) 0 ++ back

/-- The length of the run of zeros at the head. -/
def zeroRun (pieces : List Nat) : Nat :=
  (pieces.takeWhile (· = 0)).length

/-- The first longest run of zeros: where it starts and how long it is. -/
def longestRun (index : Nat) : List Nat → Nat × Nat
  | [] => (index, 0)
  | p :: rest =>
    let (start, length) := longestRun (index + 1) rest
    let here := zeroRun (p :: rest)
    if length ≤ here then (index, here) else (start, length)

/-- Pieces in hexadecimal between colons. -/
def renderPieces (pieces : List Nat) : List Char :=
  [':'].intercalate (pieces.map fun p => Nat.toDigits 16 p)

/-- An IPv6 address in brackets; the first longest run of two or more zeros is left out. -/
def renderIPv6 (pieces : List Nat) : List Char :=
  let (start, length) := longestRun 0 pieces
  let body :=
    if 2 ≤ length then renderPieces (pieces.take start) ++ ':' :: ':' :: renderPieces (pieces.drop (start + length))
    else renderPieces pieces
  '[' :: body ++ [']']

end ServiceBroker.Address
