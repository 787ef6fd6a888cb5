import FleetCompliance.Text.Unseen
import FleetCompliance.Text.Integer

/-!
# Quoted text

Text inside a message stands in double quotes. A quote, a backslash and the characters that could
not be told apart on a screen are written with a backslash; everything else stands for itself.
-/

namespace FleetCompliance.Text

/-- A number in lower-case hexadecimal without zeros in front. -/
def hexNumber (n : Nat) : List Char := (Nat.toDigits 16 n)

/-- How one character stands inside quotes. -/
def quotedChar (c : Char) : List Char :=
  if c = '"' then ['\\', '"']
  else if c = '\\' then ['\\', '\\']
  else if c = '\n' then ['\\', 'n']
  else if c = '\r' then ['\\', 'r']
  else if c = '\t' then ['\\', 't']
  else if c.toNat = 0 then ['\\', '0']
  else if isUnseen c then ['\\', 'u', '\x7b'] ++ hexNumber c.toNat ++ ['\x7d']
  else [c]

/-- A text in double quotes. -/
def quoted (s : String) : String :=
  String.ofList ('"' :: s.toList.flatMap quotedChar ++ ['"'])

end FleetCompliance.Text
