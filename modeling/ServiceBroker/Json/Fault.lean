/-
What can be wrong with a JSON document, where it is noticed, and how it is worded. A fault carries a
byte offset while reading; the finished `Json.Error` counts lines from one and columns in bytes.
-/
import ServiceBroker.Json.Value
import ServiceBroker.Json.Printer
import ServiceBroker.Text.Quoted

namespace ServiceBroker.Json

/-- What was found where something else was wanted. -/
inductive Found
  | null
  | bool (value : Bool)
  | number (value : Number)
  | text (value : String)
  | sequence
  | map
deriving DecidableEq

/-- The wording of what was found. -/
def Found.describe : Found → String
  | .null => "null"
  | .bool b => s!"boolean `{b}`"
  | .number (.integer i _) => s!"integer `{i}`"
  | .number (.double f) => "floating point `" ++ renderDouble f ++ "`"
  | .text s => "string " ++ Quoted.quote s
  | .sequence => "sequence"
  | .map => "map"

/-- The three classes of faults: bad syntax, data of the wrong form, an input that ends early. -/
inductive Category
  | malformed
  | data
  | incomplete
deriving DecidableEq, Repr

/-- Why reading a document stops. -/
inductive Cause
  | endInList
  | endInObject
  | endInText
  | endInValue
  | expectedColon
  | expectedItemEnd
  | expectedMemberEnd
  | expectedWord
  | expectedValue
  | invalidEscape
  | invalidNumber
  | numberOutOfRange
  | invalidCodePoint
  | controlCharacter
  | nameNotText
  | loneSurrogate
  | trailingComma
  | trailingCharacters
  | endOfHexEscape
  | tooDeep
  | wrongType (found : Found) (expected : String)
  | wrongValue (found : Found) (expected : String)
  | wrongLength (count : Nat) (expected : String)
  | missingField (name : String)
  | duplicateField (name : String)
  | refused (reason : String)
deriving DecidableEq

/-- The class of a cause. -/
def Cause.category : Cause → Category
  | .endInList | .endInObject | .endInText | .endInValue => .incomplete
  | .wrongType .. | .wrongValue .. | .wrongLength .. | .missingField _ | .duplicateField _ | .refused _ => .data
  | _ => .malformed

/-- The wording of a cause. -/
def Cause.message : Cause → String
  | .endInList => "EOF while parsing a list"
  | .endInObject => "EOF while parsing an object"
  | .endInText => "EOF while parsing a string"
  | .endInValue => "EOF while parsing a value"
  | .expectedColon => "expected `:`"
  | .expectedItemEnd => "expected `,` or `]`"
  | .expectedMemberEnd => "expected `,` or `\x7d`"
  | .expectedWord => "expected ident"
  | .expectedValue => "expected value"
  | .invalidEscape => "invalid escape"
  | .invalidNumber => "invalid number"
  | .numberOutOfRange => "number out of range"
  | .invalidCodePoint => "invalid unicode code point"
  | .controlCharacter => "control character (\\u0000-\\u001F) found while parsing a string"
  | .nameNotText => "key must be a string"
  | .loneSurrogate => "lone leading surrogate in hex escape"
  | .trailingComma => "trailing comma"
  | .trailingCharacters => "trailing characters"
  | .endOfHexEscape => "unexpected end of hex escape"
  | .tooDeep => "recursion limit exceeded"
  | .wrongType found expected => s!"invalid type: {found.describe}, expected {expected}"
  | .wrongValue found expected => s!"invalid value: {found.describe}, expected {expected}"
  | .wrongLength count expected => s!"invalid length {count}, expected {expected}"
  | .missingField name => s!"missing field `{name}`"
  | .duplicateField name => s!"duplicate field `{name}`"
  | .refused reason => reason

/-- A cause and the number of bytes read when it is noticed. -/
structure Fault where
  cause : Cause
  offset : Nat
deriving DecidableEq

/-- A fault placed in its document. -/
structure Error where
  cause : Cause
  line : Nat
  column : Nat
deriving DecidableEq

/-- The wording of an error, its place included. -/
def Error.message (e : Error) : String :=
  s!"{e.cause.message} at line {e.line} column {e.column}"

/-- The class of an error. -/
def Error.category (e : Error) : Category :=
  e.cause.category

/-- Moves over the first `n` bytes, counting line breaks and the bytes since the last one. -/
def advance : Nat → List UInt8 → Nat × Nat → Nat × Nat
  | 0, _, place => place
  | _, [], place => place
  | n + 1, b :: rest, (line, column) =>
    advance n rest (if b = 10 then (line + 1, 0) else (line, column + 1))

/-- Places a fault in the document it was found in. -/
def Fault.locate (f : Fault) (document : List UInt8) : Error :=
  let (line, column) := advance f.offset document (1, 0)
  ⟨f.cause, line, column⟩

end ServiceBroker.Json
