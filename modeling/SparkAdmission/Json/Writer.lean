import SparkAdmission.Json.Printer

/-!
# Writing values

A value tells itself as a `Datum`, and a writer makes JSON of that. Writing can fail: the key of an
entry has to be a text, a number or a truth value, and a value may refuse to be told. A datum is
written as a value, whose members are sorted by name, or as a text, whose members stand in the order
in which they are told.
-/

namespace SparkAdmission

/-- What a value tells of itself when it is written. -/
inductive Datum where
  | null
  | bool (b : Bool)
  | number (n : Number)
  | text (s : String)
  | list (items : List Datum)
  /-- Entries with their keys, in the order in which they are told. -/
  | map (entries : List (Datum × Datum))
  /-- The value refuses to be told. -/
  | refused (what : String)
deriving Inhabited

namespace Datum

mutual

/-- A JSON value tells itself as it is. -/
def ofJson : Json → Datum
  | .null => .null
  | .bool b => .bool b
  | .number n => .number n
  | .string s => .text s
  | .array items => .list (ofItems items)
  | .object members => .map (ofMembers members)

/-- What the items of an array tell. -/
def ofItems : List Json → List Datum
  | [] => []
  | j :: js => ofJson j :: ofItems js

/-- What the members of an object tell. -/
def ofMembers : List (String × Json) → List (Datum × Datum)
  | [] => []
  | (name, j) :: ms => (.text name, ofJson j) :: ofMembers ms

end

/-- The name of an entry with this key. -/
def name : Datum → Except String String
  | .text s => .ok s
  | .bool b => .ok (toString b)
  | .number n => .ok (String.ofList (Json.printNumber n))
  | .refused what => .error what
  | .null | .list _ | .map _ => .error "key must be a string"

mutual

/-- Writes a datum, up to the first part of it that cannot be written. -/
def write (object : List (String × Json) → Json) : Datum → Except String Json
  | .null => .ok .null
  | .bool b => .ok (.bool b)
  | .number n => .ok (.number n)
  | .text s => .ok (.string s)
  | .list items => (writeItems object items).map .array
  | .map entries => (writeEntries object entries).map object
  | .refused what => .error what

/-- Writes the items in order. -/
def writeItems (object : List (String × Json) → Json) :
    List Datum → Except String (List Json)
  | [] => .ok []
  | d :: rest => do
    let j ← write object d
    let js ← writeItems object rest
    return j :: js

/-- Writes the entries in order, the key of each in front of its value. -/
def writeEntries (object : List (String × Json) → Json) :
    List (Datum × Datum) → Except String (List (String × Json))
  | [] => .ok []
  | (key, d) :: rest => do
    let name ← key.name
    let j ← write object d
    let members ← writeEntries object rest
    return (name, j) :: members

end

/-- The datum as a value; of several entries with one name the last counts. -/
def toJson (d : Datum) : Except String Json := d.write .ofMembers

/-- The datum as a text. -/
def toText (d : Datum) : Except String String := (d.write .object).map Json.render

end Datum

end SparkAdmission
