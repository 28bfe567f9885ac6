/-!
# Digits

The numbers that runs of decimal and hexadecimal digits denote. Only the ASCII digits count.
-/

namespace SparkAdmission.Text

/-- The value of decimal digits. -/
def digitsValue (ds : List Char) : Nat :=
  ds.foldl (fun n c => n * 10 + (c.toNat - '0'.toNat)) 0

/-- The number that grows out of `n` by writing digits behind it, as long as it stays below the
limit, and the digits that are left. -/
def appendDigits (limit n : Nat) : List Char → Nat × List Char
  | [] => (n, [])
  | c :: ds =>
    let m := n * 10 + (c.toNat - '0'.toNat)
    if m < limit then appendDigits limit m ds else (n, c :: ds)

/-- The value of a hexadecimal digit. -/
def hexValue? (c : Char) : Option Nat :=
  if '0' ≤ c ∧ c ≤ '9' then some (c.toNat - '0'.toNat)
  else if 'a' ≤ c ∧ c ≤ 'f' then some (c.toNat - 'a'.toNat + 10)
  else if 'A' ≤ c ∧ c ≤ 'F' then some (c.toNat - 'A'.toNat + 10)
  else none

/-- The leading digits, and what follows them. -/
def spanDigits (cs : List Char) : List Char × List Char :=
  (cs.takeWhile Char.isDigit, cs.dropWhile Char.isDigit)

@[simp] theorem spanDigits_append (cs : List Char) :
    (spanDigits cs).1 ++ (spanDigits cs).2 = cs := by
  simp [spanDigits]

end SparkAdmission.Text
