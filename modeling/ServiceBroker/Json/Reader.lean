/-
From bytes to a `Node`. Every byte list has a document; one that is not JSON has a document that
breaks off at the first offending byte.
-/
import ServiceBroker.Json.Node
import ServiceBroker.Decimal.Reading
import ServiceBroker.Text.Utf8

namespace ServiceBroker.Json

/-- A place in a byte list: the offset, and what is left. -/
structure Cursor where
  offset : Nat
  rest : List UInt8
deriving DecidableEq, Repr

namespace Cursor

/-- The place behind the first byte. -/
def next (c : Cursor) : Cursor := ⟨c.offset + 1, c.rest.tail⟩

/-- The place behind `n` bytes. -/
def drop (c : Cursor) (n : Nat) : Cursor := ⟨c.offset + min n c.rest.length, c.rest.drop n⟩

/-- A fault noticed before the next byte is taken. -/
def fault (c : Cursor) (cause : Cause) : Fault := ⟨cause, c.offset⟩

/-- The offset behind the next byte, which is looked at but not taken. -/
def peek (c : Cursor) : Nat := if c.rest.isEmpty then c.offset else c.offset + 1

/-- A fault noticed by looking at the next byte. -/
def peekFault (c : Cursor) (cause : Cause) : Fault := ⟨cause, c.peek⟩

end Cursor

/-- Bytes that may stand between tokens. -/
def isGap (b : UInt8) : Bool :=
  b = 0x20 || b = 0x0A || b = 0x0D || b = 0x09

/-- Moves past the bytes between tokens. -/
def skipGap (offset : Nat) : List UInt8 → Cursor
  | [] => ⟨offset, []⟩
  | b :: rest => if isGap b then skipGap (offset + 1) rest else ⟨offset, b :: rest⟩

/-- The next token's place. -/
def Cursor.skipGap (c : Cursor) : Cursor := Json.skipGap c.offset c.rest

/-- The offset at a place, a closing brace that stands there included. -/
def Cursor.pastBrace (c : Cursor) : Nat :=
  if c.rest.head? == some 125 then c.offset + 1 else c.offset

/-! ## Words -/

/-- Reads the bytes of a word one by one. -/
def readWord : List UInt8 → Cursor → Except Fault Cursor
  | [], c => .ok c
  | w :: ws, c =>
    match c.rest with
    | [] => .error (c.fault .endInValue)
    | b :: _ => if b = w then readWord ws c.next else .error (c.next.fault .expectedWord)

/-! ## Texts -/

/-- The byte that a one-letter escape stands for. -/
def simpleEscape? (b : UInt8) : Option UInt8 :=
  if b = 34 || b = 92 || b = 47 then some b
  else if b = 98 then some 8
  else if b = 102 then some 12
  else if b = 110 then some 10
  else if b = 114 then some 13
  else if b = 116 then some 9
  else none

/-- The value of four hexadecimal digits. -/
def hex4? (a b c d : UInt8) : Option Nat := do
  let a ← Numeral.hexByte? a
  let b ← Numeral.hexByte? b
  let c ← Numeral.hexByte? c
  let d ← Numeral.hexByte? d
  return ((a * 16 + b) * 16 + c) * 16 + d

/-- Finds the end of a text whose contents are not wanted: behind its closing quote. -/
def skipText (offset : Nat) : List UInt8 → Except Fault Cursor
  | [] => .error ⟨.endInText, offset⟩
  | b :: rest =>
    if b = 34 then .ok ⟨offset + 1, rest⟩
    else if b = 92 then
      match rest with
      | [] => .error ⟨.endInText, offset + 1⟩
      | e :: rest =>
        if (simpleEscape? e).isSome then skipText (offset + 2) rest
        else if e = 117 then
          match rest with
          | h₁ :: h₂ :: h₃ :: h₄ :: rest =>
            if (hex4? h₁ h₂ h₃ h₄).isSome then skipText (offset + 6) rest
            else .error ⟨.invalidEscape, offset + 6⟩
          | short => .error ⟨.endInText, offset + 2 + short.length⟩
        else .error ⟨.invalidEscape, offset + 2⟩
    else if b < 0x20 then .error ⟨.controlCharacter, offset⟩
    else skipText (offset + 1) rest

/-- A quote ends a text. -/
theorem skipText_quote {offset : Nat} {rest : List UInt8} :
    skipText offset (34 :: rest) = .ok ⟨offset + 1, rest⟩ := by
  rw [skipText.eq_def]
  simp

/-- The bytes of a character. -/
def charBytes (code : Nat) : List UInt8 :=
  String.utf8EncodeChar (Char.ofNat code)

/-- The bytes that a text spells, up to its closing quote, with escapes resolved; a character past the
first plane is written as two escapes. The number is the offset behind the closing quote. -/
def textBytes (offset : Nat) : List UInt8 → Except Fault (List UInt8 × Nat)
  | [] => .error ⟨.endInText, offset⟩
  | b :: rest =>
    if b = 34 then .ok ([], offset + 1)
    else if b = 92 then
      match rest with
      | [] => .error ⟨.endInText, offset + 1⟩
      | e :: rest =>
        match simpleEscape? e with
        | some plain => (textBytes (offset + 2) rest).map fun (bytes, stop) => (plain :: bytes, stop)
        | none =>
          if e = 117 then
            match rest with
            | h₁ :: h₂ :: h₃ :: h₄ :: rest =>
              match hex4? h₁ h₂ h₃ h₄ with
              | none => .error ⟨.invalidEscape, offset + 6⟩
              | some n =>
                if 0xDC00 ≤ n ∧ n ≤ 0xDFFF then .error ⟨.loneSurrogate, offset + 6⟩
                else if n < 0xD800 ∨ 0xDBFF < n then
                  (textBytes (offset + 6) rest).map fun (bytes, stop) => (charBytes n ++ bytes, stop)
                else match rest with
                | [] => .error ⟨.endInText, offset + 6⟩
                | s :: rest =>
                  if s ≠ 92 then .error ⟨.endOfHexEscape, offset + 7⟩
                  else match rest with
                  | [] => .error ⟨.endInText, offset + 7⟩
                  | u :: rest =>
                    if u ≠ 117 then .error ⟨.endOfHexEscape, offset + 8⟩
                    else match rest with
                    | h₁ :: h₂ :: h₃ :: h₄ :: rest =>
                      match hex4? h₁ h₂ h₃ h₄ with
                      | none => .error ⟨.invalidEscape, offset + 12⟩
                      | some m =>
                        if m < 0xDC00 ∨ 0xDFFF < m then .error ⟨.loneSurrogate, offset + 12⟩
                        else (textBytes (offset + 12) rest).map fun (bytes, stop) =>
                          (charBytes ((n - 0xD800) * 0x400 + (m - 0xDC00) + 0x10000) ++ bytes, stop)
                    | short => .error ⟨.endInText, offset + 8 + short.length⟩
            | short => .error ⟨.endInText, offset + 2 + short.length⟩
          else .error ⟨.invalidEscape, offset + 2⟩
    else if b < 0x20 then .error ⟨.controlCharacter, offset + 1⟩
    else (textBytes (offset + 1) rest).map fun (bytes, stop) => (b :: bytes, stop)

/-- A quote ends a text that is kept, too. -/
theorem textBytes_quote {offset : Nat} {rest : List UInt8} :
    textBytes offset (34 :: rest) = .ok ([], offset + 1) := by
  rw [textBytes.eq_def]
  simp

/-- The offset behind the first byte of a text that begins no character. As escapes are plain characters,
it is found in the text as it is written, up to the closing quote before `stop`. -/
def pastBadByte (c : Cursor) (stop : Nat) : Nat :=
  match Utf8.decode (c.rest.take (stop - 1 - c.offset)) with
  | .error f => c.offset + f.offset + 1
  | .ok _ => stop

/-- The text behind an opening quote. Its bytes have to be characters. -/
def keepText (c : Cursor) : Except Fault String := do
  let (bytes, stop) ← textBytes c.offset c.rest
  match Utf8.decode bytes with
  | .ok contents => return contents
  | .error _ => throw ⟨.invalidCodePoint, pastBadByte c stop⟩

/-- A text behind its opening quote: its contents and the place behind it, or the faults of keeping
and of skipping it. -/
def readText (c : Cursor) : Except (Fault × Fault) (Except Fault String × Cursor) :=
  match skipText c.offset c.rest, keepText c with
  | .ok stop, contents => .ok (contents, stop)
  | .error skipped, .error kept => .error (kept, skipped)
  | .error skipped, .ok _ => .error (skipped, skipped)

/-! ## Numbers -/

/-- A decimal digit's byte. -/
def isDigit (b : UInt8) : Bool := 48 ≤ b && b ≤ 57

/-- The value of a digit's byte. -/
def digitValue (b : UInt8) : Nat := b.toNat - 48

/-- The digits at a place and the place behind them. -/
def takeDigits (c : Cursor) : List Nat × Cursor :=
  let ds := c.rest.takeWhile isDigit
  (ds.map digitValue, c.drop ds.length)

/-- A number breaks off: an input that ends there is incomplete to one who keeps the number and wrong
to one who skips it. -/
def numberBreak (c : Cursor) : Fault × Fault :=
  match c.rest with
  | [] => (c.fault .endInValue, c.fault .invalidNumber)
  | _ => (c.next.fault .invalidNumber, c.next.fault .invalidNumber)

/-- The digits before the point: a lone zero, or digits that begin with another one. -/
def readWhole (c : Cursor) : Except (Fault × Fault) (List Nat × Cursor) :=
  match c.rest with
  | [] => .error (numberBreak c)
  | b :: rest =>
    if b = 48 then
      match rest with
      | d :: _ => if isDigit d then .error (numberBreak c.next) else .ok ([0], c.next)
      | [] => .ok ([0], c.next)
    else if isDigit b then .ok (takeDigits c)
    else .error (numberBreak c)

/-- The digits behind the point, if there is one. -/
def readFraction (c : Cursor) : Except (Fault × Fault) (Option (List Nat) × Cursor) :=
  match c.rest with
  | b :: _ =>
    if b = 46 then
      let (ds, stop) := takeDigits c.next
      if ds.isEmpty then .error (numberBreak c.next) else .ok (some ds, stop)
    else .ok (none, c)
  | [] => .ok (none, c)

/-- The place behind the sign of an exponent, and whether it is a minus. -/
def readExponentSign (c : Cursor) : Bool × Cursor :=
  match c.rest with
  | s :: _ => if s = 45 then (true, c.next) else if s = 43 then (false, c.next) else (false, c)
  | [] => (false, c)

/-- The exponent, if there is one, and where its digits begin. -/
def readExponent (c : Cursor) : Except (Fault × Fault) (Option (Bool × List Nat) × Nat × Cursor) :=
  match c.rest with
  | b :: _ =>
    if b = 101 || b = 69 then
      let (minus, start) := readExponentSign c.next
      let (ds, stop) := takeDigits start
      if ds.isEmpty then .error (numberBreak start) else .ok (some (minus, ds), start.offset, stop)
    else .ok (none, c.offset, c)
  | [] => .ok (none, c.offset, c)

/-- The number of a literal that was read as far as `stop`, and whose exponent digits begin at `start`. -/
def keepNumber (l : Decimal.Literal) (start stop : Nat) : Except Fault Number :=
  match l.read with
  | .integer value =>
    if h : Number.Fits value then .ok (.integer value h)
    else .error ⟨.numberOutOfRange, stop⟩
  | .double f => .ok (.double f)
  | .outOfRange none => .error ⟨.numberOutOfRange, stop⟩
  | .outOfRange (some index) => .error ⟨.numberOutOfRange, start + index + 1⟩

/-- A number at its first byte. -/
def readNumber (c : Cursor) : Except (Fault × Fault) (Except Fault Number × Cursor) := do
  let negative := c.rest.head? == some 45
  let (whole, c) ← readWhole (if negative then c.next else c)
  let (fraction, c) ← readFraction c
  let (exponent, start, stop) ← readExponent c
  return (keepNumber ⟨negative, whole, fraction, exponent⟩ start stop.offset, stop)

/-! ## Values -/

/-- Where nothing more is read because the document broke off. -/
def Cursor.halt (c : Cursor) : Cursor := ⟨c.offset, []⟩

/-- A word as a value, or its break. -/
def wordNode (word : List UInt8) (c : Cursor) (node : Nat → Node) : Node × Cursor :=
  match readWord word c with
  | .ok stop => (node stop.offset, stop)
  | .error f => (.broken f f, c.halt)

mutual

/-- The value at a place, and the place behind it. Each step takes one unit of fuel. -/
def readNode : Nat → Cursor → Node × Cursor
  | 0, c => (.broken (c.peekFault .endInValue) (c.peekFault .endInValue), c.halt)
  | fuel + 1, c =>
    let c := c.skipGap
    match c.rest with
    | [] => (.broken (c.peekFault .endInValue) (c.peekFault .endInValue), c.halt)
    | b :: _ =>
      if b = 110 then wordNode [117, 108, 108] c.next .null
      else if b = 116 then wordNode [114, 117, 101] c.next (.bool true)
      else if b = 102 then wordNode [97, 108, 115, 101] c.next (.bool false)
      else if b = 45 || isDigit b then
        match readNumber c with
        | .ok (n, stop) => (.number n stop.offset, stop)
        | .error (kept, skipped) => (.broken kept skipped, c.halt)
      else if b = 34 then
        match readText c.next with
        | .ok (contents, stop) => (.text contents stop.offset, stop)
        | .error (kept, skipped) => (.broken kept skipped, c.halt)
      else if b = 91 then
        let (items, stop) := readFirstItem fuel c.next.skipGap
        (.array c.offset items, stop)
      else if b = 123 then
        let (members, stop) := readFirstMember fuel c.next.skipGap
        (.object c.offset members, stop)
      else (.broken (c.peekFault .expectedValue) (c.peekFault .expectedValue), c.halt)

/-- The items behind an opening bracket. -/
def readFirstItem : Nat → Cursor → Items × Cursor
  | 0, c => (.broken (c.peekFault .endInList) (c.peekFault .endInList) (c.peekFault .endInList), c.halt)
  | fuel + 1, c =>
    match c.rest with
    | [] => (.broken (c.peekFault .endInList) (c.peekFault .endInList) (c.peekFault .endInList), c.halt)
    | b :: _ => if b = 93 then (.close c.next.offset, c.next) else readItem fuel c

/-- An item and what follows it. -/
def readItem : Nat → Cursor → Items × Cursor
  | 0, c => (.broken (c.peekFault .endInList) (c.peekFault .endInList) (c.peekFault .endInList), c.halt)
  | fuel + 1, c =>
    let (value, behind) := readNode fuel c
    let (rest, stop) := readNextItem fuel behind.skipGap
    (.item c.peek value rest, stop)

/-- The items behind an item: a comma and another one, or the closing bracket. -/
def readNextItem : Nat → Cursor → Items × Cursor
  | 0, c => (.broken (c.peekFault .endInList) (c.peekFault .endInList) (c.peekFault .endInList), c.halt)
  | fuel + 1, c =>
    match c.rest with
    | [] => (.broken (c.peekFault .endInList) (c.peekFault .endInList) (c.peekFault .endInList), c.halt)
    | b :: _ =>
      if b = 93 then (.close c.next.offset, c.next)
      else if b = 44 then
        let c := c.next.skipGap
        if c.rest.head? == some 93 then
          (.broken (c.peekFault .trailingComma) (c.peekFault .expectedValue) (c.peekFault .trailingComma), c.halt)
        else readItem fuel c
      else (.broken (c.peekFault .expectedItemEnd) (c.peekFault .expectedItemEnd)
          (c.peekFault .trailingCharacters), c.halt)

/-- The members behind an opening brace. -/
def readFirstMember : Nat → Cursor → Members × Cursor
  | 0, c => (.broken (c.peekFault .endInObject) (c.peekFault .endInObject), c.halt)
  | fuel + 1, c =>
    match c.rest with
    | [] => (.broken (c.peekFault .endInObject) (c.peekFault .endInObject), c.halt)
    | b :: _ =>
      if b = 125 then (.close c.next.offset, c.next)
      else if b = 34 then readMember fuel c
      else (.broken (c.peekFault .nameNotText) (c.peekFault .nameNotText), c.halt)

/-- A member at its opening quote and what follows it. -/
def readMember : Nat → Cursor → Members × Cursor
  | 0, c => (.broken (c.peekFault .endInObject) (c.peekFault .endInObject), c.halt)
  | fuel + 1, c =>
    match readText c.next with
    | .error (kept, skipped) => (.broken kept skipped, c.halt)
    | .ok (name, behind) =>
      let c := behind.skipGap
      match c.rest with
      | [] =>
        let f := c.peekFault .endInObject
        (.member name c.offset (.broken f f) c.offset (.broken f f), c.halt)
      | b :: _ =>
        if b = 58 then
          let (value, behind) := readNode fuel c.next
          let behind := behind.skipGap
          let (rest, stop) := readNextMember fuel behind
          (.member name c.offset value behind.pastBrace rest, stop)
        else
          let f := c.peekFault .expectedColon
          (.member name c.pastBrace (.broken f f) c.pastBrace (.broken f f), c.halt)

/-- The members behind a member: a comma and another one, or the closing brace. -/
def readNextMember : Nat → Cursor → Members × Cursor
  | 0, c => (.broken (c.peekFault .endInObject) (c.peekFault .endInObject), c.halt)
  | fuel + 1, c =>
    match c.rest with
    | [] => (.broken (c.peekFault .endInObject) (c.peekFault .endInObject), c.halt)
    | b :: _ =>
      if b = 125 then (.close c.next.offset, c.next)
      else if b = 44 then
        let c := c.next.skipGap
        match c.rest with
        | [] => (.broken (c.peekFault .endInValue) (c.peekFault .endInObject), c.halt)
        | q :: _ =>
          if q = 34 then readMember fuel c
          else if q = 125 then
            (.broken (c.peekFault .trailingComma) (c.peekFault .nameNotText), c.halt)
          else (.broken (c.peekFault .nameNotText) (c.peekFault .nameNotText), c.halt)
      else (.broken (c.peekFault .expectedMemberEnd) (c.peekFault .expectedMemberEnd), c.halt)

end

/-! ## Documents -/

/-- A document: its value, and the fault of what stands behind the value, if anything does. -/
structure Document where
  root : Node
  trailing : Option Fault

/-- Reads a document. Three steps of reading are enough for each byte. -/
def Document.ofBytes (bytes : List UInt8) : Document :=
  let (root, c) := readNode (3 * bytes.length + 3) ⟨0, bytes⟩
  let c := c.skipGap
  ⟨root, if c.rest.isEmpty then none else some (c.peekFault .trailingCharacters)⟩

/-- Reads a document as a value of the type that `keep` makes of its root. -/
def decodeWith (keep : Node → Except Fault α) (bytes : List UInt8) : Except Error α :=
  let document := Document.ofBytes bytes
  let result := do
    let value ← keep document.root
    match document.trailing with
    | some f => throw f
    | none => return value
  result.mapError (·.locate bytes)

/-- Reads a document as a free value. -/
def Free.decode (bytes : List UInt8) : Except Error Free :=
  decodeWith (Node.toFree maxDepth) bytes

end ServiceBroker.Json
