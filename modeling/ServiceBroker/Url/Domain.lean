/-
Domain names. A name is folded to the form in which it is looked up: mapped character by character,
composed, and each label past ASCII written in Punycode. A label that comes in Punycode has to be what
folding would have made of its contents.
-/
import ServiceBroker.Unicode.Compose
import ServiceBroker.Unicode.Direction
import ServiceBroker.Unicode.Fold
import ServiceBroker.Unicode.Joining
import ServiceBroker.Url.Percent
import ServiceBroker.Url.Punycode

namespace ServiceBroker.Domain

/-- Characters that no domain holds. -/
def isForbidden (c : Char) : Bool :=
  let n := c.toNat
  n ≤ 32 || n = 127 || c == '#' || c == '%' || c == '/' || c == ':' || c == '<' || c == '>' || c == '?'
    || c == '@' || c == '[' || c == '\\' || c == ']' || c == '^' || c == '|'

/-- A text folded and composed. -/
def fold? (text : List Char) : Option (List Char) :=
  (text.mapM Unicode.fold?).map fun folded => Unicode.composed folded.flatten

/-- Whether a text is in ASCII. -/
def isAscii (text : List Char) : Bool :=
  text.all (·.toNat < 128)

/-- What marks a label in Punycode. -/
def codeMark : List Char := ['x', 'n', '-', '-']

/-- The contents of a folded label. Punycode must stand for a text that needs it and is folded already. -/
def contents? (label : List Char) : Option (List Char) :=
  if label.take 4 = codeMark then do
    let text ← Punycode.decode (label.drop 4)
    if isAscii text || fold? text ≠ some text then none else return text
  else some label

/-- Whether a label may stand in a name: it holds no forbidden character, does not begin with a mark, and
joiners are where they may be. -/
def isSound (text : List Char) : Bool :=
  !text.any isForbidden && !text.head?.any Unicode.isMark && Unicode.joinersInPlace [] text

/-- The written form of a label. -/
def write (text : List Char) : List Char :=
  if isAscii text then text else codeMark ++ Punycode.encode text

/-- A domain in ASCII, from its bytes. If any label turns, every one must read in one way only. -/
def toAscii (bytes : List UInt8) : Option (List Char) := do
  let text ← (Utf8.decode bytes).toOption
  let folded ← fold? text.toList
  let labels ← (splitChars '.' folded).mapM contents?
  if labels.all isSound && (!labels.any Unicode.turns || labels.all Unicode.readsOneWay) then
    return ['.'].intercalate (labels.map write)
  else none

end ServiceBroker.Domain
