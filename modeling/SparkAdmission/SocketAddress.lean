import SparkAdmission.Text.Digits

/-!
# Socket addresses

An IP address and a port. An address of version 6 stands between brackets and may name a scope. It
is written with its longest run of zeros, the first of them if there are several, left out.
-/

namespace SparkAdmission

/-- An IP address. -/
inductive IpAddress where
  | v4 (octets : Vector UInt8 4)
  /-- Eight groups of 16 bits, and the scope, zero where none is named. -/
  | v6 (groups : Vector UInt16 8) (scope : UInt32)
deriving DecidableEq

/-- An address to listen on. -/
structure SocketAddress where
  ip : IpAddress
  port : UInt16
deriving DecidableEq

namespace SocketAddress

open Text

/-! ### Reading -/

/-- What follows this character. -/
def expect? (c : Char) : List Char → Option (List Char)
  | d :: rest => if d = c then some rest else none
  | [] => none

/-- A decimal number up to `max`; leading zeros are allowed. -/
def number? (max : Nat) (cs : List Char) : Option (Nat × List Char) :=
  match spanDigits cs with
  | ([], _) => none
  | (ds, rest) => if digitsValue ds ≤ max then some (digitsValue ds, rest) else none

/-- One of the four numbers of an address of version 4: up to three digits, no leading zero. -/
def octet? (cs : List Char) : Option (UInt8 × List Char) :=
  match spanDigits cs with
  | ('0' :: _ :: _, _) => none
  | (ds, rest) =>
    if ds.isEmpty || 3 < ds.length || 255 < digitsValue ds then none
    else some (.ofNat (digitsValue ds), rest)

/-- The four numbers of an address of version 4. -/
def octets? (cs : List Char) : Option (Vector UInt8 4 × List Char) := do
  let (a, cs) ← octet? cs
  let (b, cs) ← octet? (← expect? '.' cs)
  let (c, cs) ← octet? (← expect? '.' cs)
  let (d, cs) ← octet? (← expect? '.' cs)
  return (#v[a, b, c, d], cs)

/-- The value of hexadecimal digits. -/
def hexDigitsValue (ds : List Char) : Nat := ds.foldl (fun n c => n * 16 + (hexValue? c).getD 0) 0

/-- A group of up to four hexadecimal digits. -/
def group? (cs : List Char) : Option (UInt16 × List Char) :=
  let ds := cs.takeWhile fun c => (hexValue? c).isSome
  if ds.isEmpty || 4 < ds.length then none
  else some (.ofNat (hexDigitsValue ds), cs.drop ds.length)

/-- The group that two octets make. -/
def groupOf (high low : UInt8) : UInt16 := .ofNat (high.toNat * 256 + low.toNat)

/-- The two groups that four octets make. -/
def groupsOf (octets : Vector UInt8 4) : List UInt16 :=
  [groupOf octets[0] octets[1], groupOf octets[2] octets[3]]

/--
As many groups as there are, up to a number, with colons between them; the last two may be written
as an address of version 4, and the flag says whether they are.
-/
def groups : Nat → Bool → List Char → List UInt16 × Bool × List Char
  | 0, _, cs => ([], false, cs)
  | limit + 1, isFirst, cs =>
    let here := if isFirst then some cs else expect? ':' cs
    match if 1 ≤ limit then here.bind octets? else none with
    | some (octets, rest) => (groupsOf octets, true, rest)
    | none =>
      match here.bind group? with
      | none => ([], false, cs)
      | some (g, rest) =>
        let (gs, embedded, rest) := groups limit false rest
        (g :: gs, embedded, rest)

/-- The eight groups of an address of version 6; two colons stand for one zero at least. -/
def sixGroups? (cs : List Char) : Option (List UInt16 × List Char) :=
  match groups 8 true cs with
  | (front, embedded, rest) =>
    if front.length = 8 then some (front, rest)
    else if embedded then none
    else
      match rest with
      | ':' :: ':' :: rest =>
        let (back, _, rest) := groups (7 - front.length) true rest
        some (front ++ List.replicate (8 - front.length - back.length) 0 ++ back, rest)
      | _ => none

/-- The number of a scope behind a percent sign; without a number nothing is read. -/
def scope (cs : List Char) : UInt32 × List Char :=
  match (expect? '%' cs).bind (number? 0xFFFFFFFF) with
  | some (n, rest) => (.ofNat n, rest)
  | none => (0, cs)

/-- The vector of these items, if there are as many as asked for. -/
def vector? {α : Type} (n : Nat) (items : List α) : Option (Vector α n) :=
  if h : items.length = n then some ⟨items.toArray, by simpa using h⟩ else none

/-- An address of version 6 between brackets. -/
def bracketed? (cs : List Char) : Option (IpAddress × List Char) := do
  let (gs, cs) ← sixGroups? (← expect? '[' cs)
  let (scope, cs) := scope cs
  let cs ← expect? ']' cs
  return (.v6 (← vector? 8 gs) scope, cs)

/-- An IP address, as it stands in front of a port. -/
def ip? (cs : List Char) : Option (IpAddress × List Char) :=
  match octets? cs with
  | some (octets, rest) => some (.v4 octets, rest)
  | none => bracketed? cs

/-- The address that a text denotes. -/
def parse? (s : String) : Option SocketAddress := do
  let (ip, cs) ← ip? s.toList
  let (port, cs) ← number? 0xFFFF (← expect? ':' cs)
  if cs.isEmpty then return ⟨ip, .ofNat port⟩ else none

/-! ### Writing -/

/-- The octets with points between them. -/
def octetsText (octets : List UInt8) : String := ".".intercalate (octets.map toString)

/-- Groups in hexadecimal digits with colons between them. -/
def groupsText (gs : List UInt16) : String :=
  ":".intercalate (gs.map fun g => String.ofList (Nat.toDigits 16 g.toNat))

/-- The length of the run of zeros at the front. -/
def leadingZeros (gs : List UInt16) : Nat := (gs.takeWhile (· == 0)).length

/-- Start and length of the longest run of zeros, the first of them if there are several. -/
def longestZeros (gs : List UInt16) : Nat × Nat :=
  (List.range gs.length).foldl
    (fun best i =>
      let length := leadingZeros (gs.drop i)
      if best.2 < length then (i, length) else best)
    (0, 0)

/-- The groups of an address of version 6. -/
def sixText (gs : List UInt16) : String :=
  match gs with
  | [0, 0, 0, 0, 0, 0xFFFF, a, b] =>
    "::ffff:" ++ octetsText [(a >>> 8).toUInt8, a.toUInt8, (b >>> 8).toUInt8, b.toUInt8]
  | gs =>
    let (start, length) := longestZeros gs
    if 1 < length then groupsText (gs.take start) ++ "::" ++ groupsText (gs.drop (start + length))
    else groupsText gs

/-- The address as it stands in front of a port. -/
def ipText : IpAddress → String
  | .v4 octets => octetsText octets.toList
  | .v6 groups scope =>
    let mark := if scope = 0 then "" else "%" ++ toString scope
    "[" ++ sixText groups.toList ++ mark ++ "]"

/-- The text of an address. -/
def text (a : SocketAddress) : String := ipText a.ip ++ ":" ++ toString a.port

end SocketAddress

end SparkAdmission
