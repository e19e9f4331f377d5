/-
Texts quoted for a message.

A quoted text stands between double quotes and shows every character: the usual controls by
their letter, the quote and the backslash behind a backslash, and whatever has no visible form
of its own by its number in hexadecimal digits.
-/
import CheckMatrix.Text.Unprintable

namespace CheckMatrix.Text

/-- One character of a quoted text. -/
def escape (c : Char) : List Char :=
  if c = '\x00' then ['\\', '0']
  else if c = '\t' then ['\\', 't']
  else if c = '\r' then ['\\', 'r']
  else if c = '\n' then ['\\', 'n']
  else if c = '"' || c = '\\' then ['\\', c]
  else if isUnprintable c then ['\\', 'u', '{'] ++ Nat.toDigits 16 c.toNat ++ ['}']
  else [c]

/-- The text between double quotes, with every character made visible. -/
def quoted (text : String) : String :=
  String.ofList ('"' :: (text.toList.flatMap escape ++ ['"']))

end CheckMatrix.Text
