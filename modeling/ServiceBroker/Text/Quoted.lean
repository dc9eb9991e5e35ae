/-
Texts in quotes, as messages show them: a quote, a backslash and every character without a picture of
its own is escaped, so that the text can be told apart from the words around it.
-/
import ServiceBroker.Text.Numeral
import ServiceBroker.Unicode.Printable

namespace ServiceBroker.Quoted

/-- The hexadecimal digits of a code, without leading zeros. -/
def hexDigits (n : Nat) : List Char :=
  (Nat.toDigits 16 n)

/-- A character in quotes. -/
def escape (c : Char) : List Char :=
  if c = '\x00' then ['\\', '0']
  else if c = '\t' then ['\\', 't']
  else if c = '\r' then ['\\', 'r']
  else if c = '\n' then ['\\', 'n']
  else if c = '"' then ['\\', '"']
  else if c = '\\' then ['\\', '\\']
  else if isPrintable c then [c]
  else ['\\', 'u', '{'] ++ hexDigits c.toNat ++ ['}']

/-- A text in quotes. -/
def quote (text : String) : String :=
  String.ofList ('"' :: text.toList.flatMap escape ++ ['"'])

end ServiceBroker.Quoted
