/-
Natural numbers written in decimal: reading them with a bound, and the ways reading can fail.
-/

namespace ServiceBroker.Numeral

/-- Why a text is no number below the bound. -/
inductive Fault
  | empty
  | invalidDigit
  | tooLarge
deriving DecidableEq, Repr

/-- The wording of a fault. -/
def Fault.message : Fault → String
  | .empty => "cannot parse integer from empty string"
  | .invalidDigit => "invalid digit found in string"
  | .tooLarge => "number too large to fit in target type"

/-- The value of a decimal digit. -/
def digit? (c : Char) : Option Nat :=
  if '0' ≤ c ∧ c ≤ '9' then some (c.toNat - 48) else none

/-- Appends digits to a number that has to stay below the bound. -/
def readDigits (bound : Nat) : Nat → List Char → Except Fault Nat
  | n, [] => .ok n
  | n, c :: rest =>
    match digit? c with
    | none => .error .invalidDigit
    | some d => if n * 10 + d < bound then readDigits bound (n * 10 + d) rest else .error .tooLarge

/-- Reads a number below the bound; one plus sign may stand in front. -/
def read (bound : Nat) (text : String) : Except Fault Nat :=
  match text.toList with
  | [] => .error .empty
  | ['+'] => .error .invalidDigit
  | '+' :: digits => readDigits bound 0 digits
  | digits => readDigits bound 0 digits

/-! ## Hexadecimal -/

/-- The value of a hexadecimal digit's byte. -/
def hexByte? (b : UInt8) : Option Nat :=
  let n := b.toNat
  if 48 ≤ n ∧ n ≤ 57 then some (n - 48)
  else if 65 ≤ n ∧ n ≤ 70 then some (n - 55)
  else if 97 ≤ n ∧ n ≤ 102 then some (n - 87)
  else none

/-- The lower-case hexadecimal digit of a value below sixteen. -/
def lowerHex (n : Nat) : Char :=
  if n < 10 then Char.ofNat (n + 48) else Char.ofNat (n + 87)

/-- The upper-case hexadecimal digit of a value below sixteen. -/
def upperHex (n : Nat) : Char :=
  if n < 10 then Char.ofNat (n + 48) else Char.ofNat (n + 55)

end ServiceBroker.Numeral
