import SparkAdmission.Text.Digits

/-!
# Timestamps

A timestamp is a second of the proleptic Gregorian calendar in UTC; a minute may have a sixty-first
second. `Timestamp.parse?` reads RFC 3339 with some leniency (a blank in the place of the `T`,
missing leading zeros, blanks between the parts, `UTC` in the place of `Z`), moves the time to UTC
and drops fractions of a second. `Timestamp.text` writes the one canonical form.
-/

namespace SparkAdmission

/-- Whether a year has a 29th of February. -/
def isLeapYear (year : Int) : Bool := year % 4 == 0 && (year % 100 != 0 || year % 400 == 0)

/-- The number of days of a month. -/
def daysInMonth (year : Int) (month : Nat) : Nat :=
  if month = 2 then (if isLeapYear year then 29 else 28)
  else if month = 4 ∨ month = 6 ∨ month = 9 ∨ month = 11 then 30
  else 31

/-- A day of the calendar, in the years that are supported. -/
structure Date where
  year : Int
  month : Nat
  day : Nat
  valid : -262143 ≤ year ∧ year ≤ 262142 ∧ 1 ≤ month ∧ month ≤ 12 ∧
    1 ≤ day ∧ day ≤ daysInMonth year month
deriving DecidableEq

/-- A second in UTC. -/
structure Timestamp where
  date : Date
  hour : Nat
  minute : Nat
  second : Nat
  valid : hour ≤ 23 ∧ minute ≤ 59 ∧ second ≤ 60
deriving DecidableEq

namespace Date

/-- The date of these numbers, if there is one. -/
def of? (year : Int) (month day : Nat) : Option Date :=
  if h : _ then some ⟨year, month, day, h⟩ else none

/-- The day after. -/
def next? (d : Date) : Option Date :=
  if d.day < daysInMonth d.year d.month then of? d.year d.month (d.day + 1)
  else if d.month < 12 then of? d.year (d.month + 1) 1
  else of? (d.year + 1) 1 1

/-- The day before. -/
def previous? (d : Date) : Option Date :=
  if 1 < d.day then of? d.year d.month (d.day - 1)
  else if 1 < d.month then of? d.year (d.month - 1) (daysInMonth d.year (d.month - 1))
  else of? (d.year - 1) 12 31

end Date

namespace Timestamp

open Text

/-! ### Reading -/

/-- Blanks of any script. -/
def isBlank (c : Char) : Bool :=
  let n := c.toNat
  (0x9 ≤ n && n ≤ 0xD) || n == 0x20 || n == 0x85 || n == 0xA0 || n == 0x1680 ||
    (0x2000 ≤ n && n ≤ 0x200A) || n == 0x2028 || n == 0x2029 || n == 0x202F || n == 0x205F ||
    n == 0x3000

/-- What follows the leading blanks. -/
def skipBlanks (cs : List Char) : List Char := cs.dropWhile isBlank

/-- A number of at most `width` digits, behind blanks. -/
def number? (width : Nat) (cs : List Char) : Option (Nat × List Char) :=
  let cs := skipBlanks cs
  let ds := (cs.take width).takeWhile Char.isDigit
  if ds.isEmpty then none else some (digitsValue ds, cs.drop ds.length)

/-- A number of any number of digits. -/
def digits? (cs : List Char) : Option (Nat × List Char) :=
  match spanDigits cs with
  | ([], _) => none
  | (ds, rest) => some (digitsValue ds, rest)

/-- A year: four digits at most, or a sign and any number of digits. -/
def year? (cs : List Char) : Option (Int × List Char) :=
  match skipBlanks cs with
  | '-' :: cs => (digits? cs).map fun (n, r) => (-n, r)
  | '+' :: cs => (digits? cs).map fun (n, r) => (n, r)
  | cs => (number? 4 cs).map fun (n, r) => (n, r)

/-- What follows this character, which may stand behind blanks. -/
def expect? (c : Char) (cs : List Char) : Option (List Char) :=
  match skipBlanks cs with
  | d :: rest => if d = c then some rest else none
  | [] => none

/-- What follows the `T` between date and time, or the blank in its place. -/
def separator? : List Char → Option (List Char)
  | c :: rest => if c = 'T' ∨ c = 't' ∨ c = ' ' then some rest else none
  | [] => none

/-- What follows a fraction of a second, if there is one; a point needs a digit behind it. -/
def fraction? : List Char → Option (List Char)
  | '.' :: cs => (digits? cs).map (·.2)
  | cs => some cs

/-- Two digits, the first of them below `limit`. -/
def twoDigits? (limit : Char) : List Char → Option (Nat × List Char)
  | a :: b :: rest =>
    if '0' ≤ a ∧ a ≤ limit ∧ b.isDigit then some (digitsValue [a, b], rest) else none
  | _ => none

/-- The minutes by which local time is ahead of UTC, where a sign has been read. -/
def offsetDigits? (cs : List Char) : Option (Nat × List Char) := do
  let (hours, rest) ← twoDigits? '9' cs
  let (minutes, rest) ← twoDigits? '5' (rest.dropWhile fun c => c = ':' || isBlank c)
  if hours < 24 then return (hours * 60 + minutes, rest) else none

/-- The minutes by which local time is ahead of UTC. -/
def offset? (cs : List Char) : Option (Int × List Char) :=
  match cs with
  | '+' :: cs => (offsetDigits? cs).map fun (n, r) => (n, r)
  | '-' :: cs => (offsetDigits? cs).map fun (n, r) => (-n, r)
  | '\u2212' :: cs => (offsetDigits? cs).map fun (n, r) => (-n, r)
  | c :: cs =>
    if (c :: cs.take 2).map Char.toUpper = ['U', 'T', 'C'] then some (0, cs.drop 2)
    else if c = 'Z' ∨ c = 'z' then some (0, cs)
    else none
  | [] => none

/-- The second that is `ahead` minutes earlier than this local time. -/
def ofLocal? (date : Date) (hour minute second : Nat) (ahead : Int) : Option Timestamp := do
  let minutes : Int := hour * 60 + minute - ahead
  let date ←
    if minutes < 0 then date.previous? else if 1440 ≤ minutes then date.next? else some date
  let minuteOfDay := (minutes % 1440).toNat
  if h : _ then some ⟨date, minuteOfDay / 60, minuteOfDay % 60, second, h⟩ else none

/-- The timestamp that a text denotes. -/
def parseChars? (cs : List Char) : Option Timestamp := do
  let (year, cs) ← year? cs
  let cs ← expect? '-' cs
  let (month, cs) ← number? 2 cs
  let cs ← expect? '-' cs
  let (day, cs) ← number? 2 cs
  let cs ← separator? cs
  let (hour, cs) ← number? 2 cs
  let cs ← expect? ':' cs
  let (minute, cs) ← number? 2 cs
  let cs ← expect? ':' cs
  let (second, cs) ← number? 2 cs
  let cs ← fraction? cs
  let (ahead, cs) ← offset? (skipBlanks cs)
  let date ← Date.of? year month day
  if (skipBlanks cs).isEmpty ∧ hour ≤ 23 ∧ minute ≤ 59 ∧ second ≤ 60 then
    ofLocal? date hour minute second ahead
  else none

/-- The timestamp that a text denotes. -/
def parse? (s : String) : Option Timestamp := parseChars? s.toList

/-! ### Writing -/

/-- A number in decimal digits, filled up with zeros to `width`. -/
def padded (width n : Nat) : List Char :=
  let ds := Nat.toDigits 10 n
  List.replicate (width - ds.length) '0' ++ ds

/-- A year: four digits, with a sign when it has more or lies before year zero. -/
def yearText (year : Int) : List Char :=
  if 0 ≤ year ∧ year ≤ 9999 then padded 4 year.toNat
  else (if year < 0 then '-' else '+') :: padded 4 year.natAbs

/-- The canonical form: whole seconds, in UTC, with `Z`. -/
def text (t : Timestamp) : String :=
  String.ofList (yearText t.date.year ++ '-' :: padded 2 t.date.month ++ '-' ::
    padded 2 t.date.day ++ 'T' :: padded 2 t.hour ++ ':' :: padded 2 t.minute ++ ':' ::
    padded 2 t.second ++ ['Z'])

/-- The second at which the usual count of seconds starts. -/
def epoch : Timestamp :=
  ⟨⟨1970, 1, 1, by decide⟩, 0, 0, 0, by decide⟩

end Timestamp

end SparkAdmission
