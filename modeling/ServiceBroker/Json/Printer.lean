/-
Compact printing of JSON: no blanks, members in the order they stand in, doubles in their shortest
form. Only the quote, the backslash and control characters are escaped.
-/
import ServiceBroker.Json.Value
import ServiceBroker.Decimal.Shortest
import ServiceBroker.Text.Numeral

namespace ServiceBroker.Json

/-! ## Numbers -/

/-- The digits of a natural number. -/
def digits (n : Nat) : List Char :=
  Nat.toDigits 10 n

/-- A decimal with its point: plain from `10 ^ -5` up to below `10 ^ 16`, else with an exponent that
always has a sign. A whole number keeps one zero behind the point. -/
def renderScientific (d : Decimal.Scientific) : List Char :=
  let ds := digits d.digits
  let place := d.exponent + ds.length - 1
  if -5 ≤ place ∧ place < 16 then
    if 0 ≤ d.exponent then ds ++ List.replicate d.exponent.toNat '0' ++ ['.', '0']
    else if 0 ≤ place then ds.take (place.toNat + 1) ++ '.' :: ds.drop (place.toNat + 1)
    else '0' :: '.' :: List.replicate (-place - 1).toNat '0' ++ ds
  else
    let sign := if 0 ≤ place then '+' else '-'
    let mantissa := match ds with
      | [] | [_] => ds
      | c :: rest => c :: '.' :: rest
    mantissa ++ 'e' :: sign :: digits place.natAbs

/-- The text of a finite double. -/
def renderDouble (f : Float) : String :=
  let bits := f.toBits
  let x := Decimal.Binary.ofBits bits
  let magnitude := if x.mantissa = 0 then ['0', '.', '0'] else renderScientific (Decimal.shortest x)
  String.ofList (if 0x8000000000000000 ≤ bits.toNat then '-' :: magnitude else magnitude)

/-- The characters of a number. -/
def renderNumber : Number → List Char
  | .integer (.ofNat n) _ => digits n
  | .integer (.negSucc n) _ => '-' :: digits (n + 1)
  | .double f => (renderDouble f).toList

/-! ## Texts -/

/-- A character inside a text. -/
def renderChar (c : Char) : List Char :=
  if c = '"' then ['\\', '"']
  else if c = '\\' then ['\\', '\\']
  else if c = '\x08' then ['\\', 'b']
  else if c = '\x0c' then ['\\', 'f']
  else if c = '\n' then ['\\', 'n']
  else if c = '\r' then ['\\', 'r']
  else if c = '\t' then ['\\', 't']
  else if c.toNat < 32 then
    ['\\', 'u', '0', '0', Numeral.lowerHex (c.toNat / 16), Numeral.lowerHex (c.toNat % 16)]
  else [c]

/-- The characters of a quoted text. -/
def renderText (text : String) : List Char :=
  '"' :: text.toList.flatMap renderChar ++ ['"']

/-! ## Trees -/

mutual

/-- The characters of a tree. -/
def renderChars : Json → List Char
  | .null => ['n', 'u', 'l', 'l']
  | .bool true => ['t', 'r', 'u', 'e']
  | .bool false => ['f', 'a', 'l', 's', 'e']
  | .number n => renderNumber n
  | .text s => renderText s
  | .array items => '[' :: renderItems items
  | .object members => '{' :: renderMembers members

/-- Items up to the closing bracket. -/
def renderItems : List Json → List Char
  | [] => [']']
  | [j] => renderChars j ++ [']']
  | j :: rest => renderChars j ++ ',' :: renderItems rest

/-- Members up to the closing brace. -/
def renderMembers : List (String × Json) → List Char
  | [] => ['}']
  | [(name, j)] => renderText name ++ ':' :: renderChars j ++ ['}']
  | (name, j) :: rest => renderText name ++ ':' :: renderChars j ++ ',' :: renderMembers rest

end

/-- The compact text of a tree. -/
def render (j : Json) : String :=
  String.ofList (renderChars j)

end ServiceBroker.Json
