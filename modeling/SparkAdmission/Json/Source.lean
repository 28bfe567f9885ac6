import SparkAdmission.Json.Basic

/-!
# What a JSON text says, and where it stops being JSON

`Source` is the tree that a text spells out, in reading order. Nothing is repaired and nothing is
lost: repeated names stand side by side, a number or string that the grammar allows but that
denotes nothing is marked, and the place where the text stops being JSON is a `fault`, behind
which every open bracket is left unclosed. A reader that walks the tree in order therefore meets
faults and misfits in the order in which they stand in the text.
-/

namespace SparkAdmission

/-- The tree of a text, up to the first place where it is no JSON. -/
inductive Source where
  /-- Here the text stops being JSON. -/
  | fault
  | null
  | bool (b : Bool)
  /-- A number, or `none` when it is beyond the largest double. -/
  | number (n : Option Number)
  /-- A string, or `none` when an escape in it is half a surrogate pair. -/
  | string (s : Option String)
  /-- The items that were read, and whether the closing bracket was reached. -/
  | array (items : List Source) (closed : Bool)
  /-- The members that were read, and whether the closing brace was reached. -/
  | object (members : List (Option String × Source)) (closed : Bool)
deriving Inhabited

namespace Source

mutual

/-- The tree of a value. -/
def ofJson : Json → Source
  | .null => .null
  | .bool b => .bool b
  | .number n => .number (some n)
  | .string s => .string (some s)
  | .array items => .array (ofItems items) true
  | .object members => .object (ofMembers members) true

/-- The trees of the items of an array. -/
def ofItems : List Json → List Source
  | [] => []
  | j :: js => ofJson j :: ofItems js

/-- The trees of the members of an object. -/
def ofMembers : List (String × Json) → List (Option String × Source)
  | [] => []
  | (name, j) :: ms => (some name, ofJson j) :: ofMembers ms

end

@[simp] theorem ofItems_eq_map (js : List Json) : ofItems js = js.map ofJson := by
  induction js with
  | nil => rfl
  | cons j js ih => simp [ofItems, ih]

@[simp] theorem ofMembers_eq_map (ms : List (String × Json)) :
    ofMembers ms = ms.map fun m => (some m.1, ofJson m.2) := by
  induction ms with
  | nil => rfl
  | cons m ms ih => simp [ofMembers, ih]

mutual

/-- Whether the text is JSON throughout, whatever its numbers and strings denote. -/
def isWhole : Source → Bool
  | .fault => false
  | .array items closed => itemsWhole items && closed
  | .object members closed => membersWhole members && closed
  | _ => true

/-- Whether every item is JSON throughout. -/
def itemsWhole : List Source → Bool
  | [] => true
  | s :: rest => s.isWhole && itemsWhole rest

/-- Whether every member is JSON throughout. -/
def membersWhole : List (Option String × Source) → Bool
  | [] => true
  | (_, s) :: rest => s.isWhole && membersWhole rest

end

mutual

/-- The value of a tree; of several members with one name the last counts. What denotes nothing
is `null`. -/
def toJson : Source → Json
  | .fault => .null
  | .null => .null
  | .bool b => .bool b
  | .number n => n.elim .null .number
  | .string s => s.elim .null .string
  | .array items _ => .array (itemsToJson items)
  | .object members _ => .ofMembers (membersToJson members)

/-- The values of the items. -/
def itemsToJson : List Source → List Json
  | [] => []
  | s :: rest => s.toJson :: itemsToJson rest

/-- The values of the members that have a name. -/
def membersToJson : List (Option String × Source) → List (String × Json)
  | [] => []
  | (none, _) :: rest => membersToJson rest
  | (some name, s) :: rest => (name, s.toJson) :: membersToJson rest

end

/-- Whether the source denotes no value, or the null value. -/
def isNull : Source → Bool
  | .fault => true
  | .null => true
  | .number none => true
  | .string none => true
  | _ => false

theorem toJson_ne_null {s : Source} (h : s.isNull = false) : s.toJson ≠ .null := by
  cases s with
  | number n => cases n <;> simp_all [isNull, toJson]
  | string s => cases s <;> simp_all [isNull, toJson]
  | _ => simp_all [isNull, toJson, Json.ofMembers]

mutual

theorem canonical_toJson : (s : Source) → s.toJson.Canonical
  | .fault | .null | .number none | .string none => .null
  | .bool b => .bool b
  | .number (some n) => .number n
  | .string (some s) => .string s
  | .array items _ => .array (canonical_itemsToJson items)
  | .object members _ =>
    .object (Json.increasing_sortMembers _)
      fun m h => canonical_membersToJson members m (Json.mem_of_mem_sortMembers h)

theorem canonical_itemsToJson : (items : List Source) → ∀ j ∈ itemsToJson items, j.Canonical
  | [], _, h => nomatch h
  | s :: rest, j, h => by
    rcases List.mem_cons.1 h with rfl | h
    · exact canonical_toJson s
    · exact canonical_itemsToJson rest j h

theorem canonical_membersToJson : (members : List (Option String × Source)) →
    ∀ m ∈ membersToJson members, m.2.Canonical
  | [], _, h => nomatch h
  | (none, _) :: rest, m, h => canonical_membersToJson rest m h
  | (some name, s) :: rest, m, h => by
    rcases List.mem_cons.1 h with rfl | h
    · exact canonical_toJson s
    · exact canonical_membersToJson rest m h

end

/-- The last member of that name. -/
def lastMember? (name : String) (members : List (Option String × Source)) : Option Source :=
  (members.reverse.find? (·.1 == some name)).map (·.2)

/-- The last member of that name, unless it is null. -/
def given? (name : String) (members : List (Option String × Source)) : Option Source :=
  (lastMember? name members).filter fun s => !s.isNull

theorem isNull_of_given? {name : String} {members : List (Option String × Source)} {s : Source}
    (h : given? name members = some s) : s.isNull = false := by
  simpa using (Option.filter_eq_some_iff.1 h).2

end Source

end SparkAdmission
