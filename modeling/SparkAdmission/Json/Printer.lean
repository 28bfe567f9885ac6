import SparkAdmission.Json.Basic

/-!
# The compact text of a JSON value

No blanks, members in the order they have, and only the escapes that the grammar forces: the
quote, the backslash and the control characters below the blank.
-/

namespace SparkAdmission.Json

/-- The hexadecimal digit of a number below sixteen, in lower case. -/
def hexDigit (n : Nat) : Char := (Nat.digitChar n)

/-- A character as it stands in a string. -/
def escape (c : Char) : List Char :=
  if c = '"' then ['\\', '"']
  else if c = '\\' then ['\\', '\\']
  else if c = '\x08' then ['\\', 'b']
  else if c = '\t' then ['\\', 't']
  else if c = '\n' then ['\\', 'n']
  else if c = '\x0c' then ['\\', 'f']
  else if c = '\r' then ['\\', 'r']
  else if c < ' ' then ['\\', 'u', '0', '0', hexDigit (c.toNat / 16), hexDigit (c.toNat % 16)]
  else [c]

/-- A string between quotes. -/
def quote (s : String) : List Char := '"' :: (s.toList.flatMap escape ++ ['"'])

/-- A number: a whole number by its digits, a double with a point or an exponent. -/
def printNumber : Number → List Char
  | .whole n _ => (toString n).toList
  | .double x => x.text

mutual

/-- The text of a value. -/
def print : Json → List Char
  | .null => ['n', 'u', 'l', 'l']
  | .bool true => ['t', 'r', 'u', 'e']
  | .bool false => ['f', 'a', 'l', 's', 'e']
  | .number n => printNumber n
  | .string s => quote s
  | .array [] => ['[', ']']
  | .array (x :: xs) => '[' :: (print x ++ printItems xs)
  | .object [] => ['\x7b', '\x7d']
  | .object ((name, x) :: ms) => '\x7b' :: (quote name ++ ':' :: (print x ++ printMembers ms))

/-- The items behind the first one, and the closing bracket. -/
def printItems : List Json → List Char
  | [] => [']']
  | x :: xs => ',' :: (print x ++ printItems xs)

/-- The members behind the first one, and the closing brace. -/
def printMembers : List (String × Json) → List Char
  | [] => ['\x7d']
  | (name, x) :: ms => ',' :: (quote name ++ ':' :: (print x ++ printMembers ms))

end

/-- The text of a value, as a string. -/
def render (j : Json) : String := String.ofList j.print

end SparkAdmission.Json
