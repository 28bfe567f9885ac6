import SparkAdmission.Json.Source
import SparkAdmission.Text.Digits

/-!
# Reading JSON text

`Source.ofText` turns a text into its tree by recursive descent over its characters. The grammar
is the strict one: no byte order mark, no comments, no trailing commas, no leading zeros, no
control characters in strings. Nesting is not limited here; a reader of the tree limits it. What a
number denotes is up to a `NumberReading`, and `ofText` takes `denoted`.
-/

namespace SparkAdmission.Source

open Text

/-! ### Strings -/

/-- One unit of a string: a character, or the number that a `\u` escape gives. -/
inductive TextUnit where
  | char (c : Char)
  | code (n : Nat)
deriving DecidableEq, Repr

/-- The number that four hexadecimal digits give. -/
def hexQuad? (a b c d : Char) : Option Nat := do
  let high := (← hexValue? a) * 16 + (← hexValue? b)
  let low := (← hexValue? c) * 16 + (← hexValue? d)
  return high * 256 + low

/-- The character that a one-letter escape stands for. -/
def simpleEscape? : Char → Option Char
  | '"' => some '"'
  | '\\' => some '\\'
  | '/' => some '/'
  | 'b' => some '\x08'
  | 'f' => some '\x0c'
  | 'n' => some '\n'
  | 'r' => some '\r'
  | 't' => some '\t'
  | _ => none

/-- The units of a string whose opening quote has been read, and what follows its closing quote. -/
def scanUnits : List Char → Option (List TextUnit × List Char)
  | [] => none
  | '"' :: rest => some ([], rest)
  | '\\' :: 'u' :: a :: b :: c :: d :: rest => do
    let n ← hexQuad? a b c d
    let (units, rest) ← scanUnits rest
    return (.code n :: units, rest)
  | '\\' :: e :: rest => do
    let c ← simpleEscape? e
    let (units, rest) ← scanUnits rest
    return (.char c :: units, rest)
  | c :: rest =>
    if c < ' ' then none
    else do
      let (units, rest) ← scanUnits rest
      return (.char c :: units, rest)

/-- The first half of a surrogate pair. -/
def isHighSurrogate (n : Nat) : Bool := 0xD800 ≤ n && n ≤ 0xDBFF

/-- The second half of a surrogate pair. -/
def isLowSurrogate (n : Nat) : Bool := 0xDC00 ≤ n && n ≤ 0xDFFF

/-- The characters that the units spell; half a surrogate pair spells none. -/
def spell : List TextUnit → Option (List Char)
  | [] => some []
  | .char c :: rest => (spell rest).map (c :: ·)
  | .code hi :: .code lo :: rest =>
    if isHighSurrogate hi then
      if isLowSurrogate lo then
        (spell rest).map (Char.ofNat (0x10000 + (hi - 0xD800) * 0x400 + (lo - 0xDC00)) :: ·)
      else none
    else if isLowSurrogate hi then none
    else (spell (.code lo :: rest)).map (Char.ofNat hi :: ·)
  | .code n :: rest =>
    if isHighSurrogate n || isLowSurrogate n then none
    else (spell rest).map (Char.ofNat n :: ·)

/-- A string whose opening quote has been read: what it spells, and what follows it. -/
def scanString (cs : List Char) : Option (Option String × List Char) :=
  (scanUnits cs).map fun (units, rest) => ((spell units).map String.ofList, rest)

/-! ### Numbers -/

/-- The part of a number before the point: a single zero, or digits that do not start with one. -/
def scanWhole (cs : List Char) : Option (List Char × List Char) :=
  match spanDigits cs with
  | ([], _) => none
  | ('0' :: _ :: _, _) => none
  | split => some split

/-- The digits behind a point, none if there is no point. -/
def scanFraction : List Char → Option (List Char × List Char)
  | '.' :: cs =>
    match spanDigits cs with
    | ([], _) => none
    | split => some split
  | cs => some ([], cs)

/-- The digits of an exponent behind its sign. -/
def scanExponentDigits (negative : Bool) (cs : List Char) : Option (Option Int × List Char) :=
  match spanDigits cs with
  | ([], _) => none
  | (ds, rest) => some (some (if negative then -digitsValue ds else digitsValue ds), rest)

/-- The exponent, if there is one. -/
def scanExponent : List Char → Option (Option Int × List Char)
  | c :: cs =>
    if c = 'e' ∨ c = 'E' then
      match cs with
      | '+' :: cs => scanExponentDigits false cs
      | '-' :: cs => scanExponentDigits true cs
      | cs => scanExponentDigits false cs
    else some (none, c :: cs)
  | [] => some (none, [])

/-- How numbers are read: what a number denotes, if anything, given whether it is negative, the
digits in front of the point and behind it, and the exponent. -/
abbrev NumberReading := Bool → List Char → List Char → Option Int → Option Number

/-- What the parts of a number denote. Of its digits those count that fit into 64 bits; the whole
part counts from its start, and so does the fraction behind it. -/
def denoted (negative : Bool) (whole fraction : List Char) (exponent : Option Int) :
    Option Number :=
  let (n, left) := appendDigits 0x10000000000000000 0 whole
  if left.isEmpty && fraction.isEmpty && exponent.isNone then Number.ofDigits? negative n
  else
    let (n, lost) := appendDigits 0x10000000000000000 n fraction
    let places : Int := (fraction.length : Int) - lost.length
    (Double.ofDigits negative n (left.length - places + exponent.getD 0)).map .double

/-- A number without its sign: what it denotes, if anything, and what follows it. -/
def scanMagnitude (reading : NumberReading) (negative : Bool) (cs : List Char) :
    Option (Option Number × List Char) := do
  let (whole, rest) ← scanWhole cs
  let (fraction, rest) ← scanFraction rest
  let (exponent, rest) ← scanExponent rest
  return (reading negative whole fraction exponent, rest)

/-- A number. -/
def scanNumber (reading : NumberReading) : List Char → Option (Option Number × List Char)
  | '-' :: cs => scanMagnitude reading true cs
  | cs => scanMagnitude reading false cs

/-! ### Values -/

/-- The four blanks that may stand between the parts of a text. -/
def isBlank (c : Char) : Bool := c = ' ' || c = '\n' || c = '\t' || c = '\r'

/-- What follows the leading blanks. -/
def skipBlanks (cs : List Char) : List Char := cs.dropWhile isBlank

mutual

/--
A value, and what follows it. The fuel bounds the calls that lie inside one another; twice the
length of the text is enough. Behind a fault nothing follows.
-/
def scanValue (reading : NumberReading) : Nat → List Char → Source × List Char
  | 0, _ => (.fault, [])
  | fuel + 1, cs =>
    match skipBlanks cs with
    | '\x7b' :: cs =>
      match skipBlanks cs with
      | '\x7d' :: cs => (.object [] true, cs)
      | cs =>
        let (members, closed, rest) := scanMembers reading fuel cs
        (.object members closed, rest)
    | '[' :: cs =>
      match skipBlanks cs with
      | ']' :: cs => (.array [] true, cs)
      | cs =>
        let (items, closed, rest) := scanItems reading fuel cs
        (.array items closed, rest)
    | '"' :: cs =>
      match scanString cs with
      | some (s, rest) => (.string s, rest)
      | none => (.fault, [])
    | 'n' :: 'u' :: 'l' :: 'l' :: rest => (.null, rest)
    | 't' :: 'r' :: 'u' :: 'e' :: rest => (.bool true, rest)
    | 'f' :: 'a' :: 'l' :: 's' :: 'e' :: rest => (.bool false, rest)
    | cs =>
      match scanNumber reading cs with
      | some (n, rest) => (.number n, rest)
      | none => (.fault, [])

/-- The items of an array from the next one on, and what follows the closing bracket. -/
def scanItems (reading : NumberReading) : Nat → List Char → List Source × Bool × List Char
  | 0, _ => ([], false, [])
  | fuel + 1, cs =>
    let (item, rest) := scanValue reading fuel cs
    match skipBlanks rest with
    | ',' :: rest =>
      let (items, closed, rest) := scanItems reading fuel rest
      (item :: items, closed, rest)
    | ']' :: rest => ([item], true, rest)
    | _ => ([item], false, [])

/-- The members of an object from the next one on, and what follows the closing brace. -/
def scanMembers (reading : NumberReading) :
    Nat → List Char → List (Option String × Source) × Bool × List Char
  | 0, _ => ([], false, [])
  | fuel + 1, cs =>
    match skipBlanks cs with
    | '"' :: cs =>
      match scanString cs with
      | none => ([], false, [])
      | some (name, rest) =>
        match skipBlanks rest with
        | ':' :: rest =>
          let (value, rest) := scanValue reading fuel rest
          match skipBlanks rest with
          | ',' :: rest =>
            let (members, closed, rest) := scanMembers reading fuel rest
            ((name, value) :: members, closed, rest)
          | '\x7d' :: rest => ([(name, value)], true, rest)
          | _ => ([(name, value)], false, [])
        | _ => ([(name, .fault)], false, [])
    | _ => ([], false, [])

end

/-- The tree of a text whose numbers are read like this, and whether nothing but blanks follows. -/
def ofTextWith (reading : NumberReading) (text : String) : Source × Bool :=
  let cs := text.toList
  let (root, rest) := scanValue reading (2 * cs.length + 2) cs
  (root, (skipBlanks rest).isEmpty)

/-- The tree of a text, and whether nothing but blanks follows it. -/
def ofText (text : String) : Source × Bool := ofTextWith denoted text

end SparkAdmission.Source
