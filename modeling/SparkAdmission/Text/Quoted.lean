import SparkAdmission.Text.Seen

/-!
# Quoted text

A text between double quotes in which quotes and backslashes stand behind a backslash, and every
character that is not seen by itself is written as an escape. No two texts are quoted alike.
-/

namespace SparkAdmission.Text

/-- An escape by code point, in lower-case hexadecimal digits. -/
def codeEscape (n : Nat) : List Char :=
  '\\' :: 'u' :: '\x7b' :: ((Nat.toDigits 16 n).map Char.toLower ++ ['\x7d'])

/-- A character as it is written between quotes. -/
def escape (c : Char) : List Char :=
  if c = '\x00' then ['\\', '0']
  else if c = '\t' then ['\\', 't']
  else if c = '\n' then ['\\', 'n']
  else if c = '\r' then ['\\', 'r']
  else if c = '"' then ['\\', '"']
  else if c = '\\' then ['\\', '\\']
  else if c < ' ' ∨ c = '\x7f' ∨ ('\x7f' < c ∧ isSeen c.toNat = false) then codeEscape c.toNat
  else [c]

/-- A text between quotes. -/
def quoted (s : String) : String := String.ofList ('"' :: (s.toList.flatMap escape ++ ['"']))

end SparkAdmission.Text
