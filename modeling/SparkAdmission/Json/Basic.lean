import SparkAdmission.Json.Double

/-!
# JSON values

A JSON value as plain data. The members of an object are a list; values that are read keep it
sorted by name, each name once, and `insertMember` keeps it so. Whole numbers of 64 bits are exact,
every other number is a double.
-/

namespace SparkAdmission

/-- The whole numbers that are kept exactly: those of 64 bits, with a sign or without. -/
def IsExact (n : Int) : Prop := -0x8000000000000000 ≤ n ∧ n < 0x10000000000000000

instance (n : Int) : Decidable (IsExact n) := inferInstanceAs (Decidable (_ ∧ _))

/-- A JSON number. -/
inductive Number where
  | whole (n : Int) (exact : IsExact n)
  | double (x : Double)
deriving DecidableEq

namespace Number

/-- Zero. -/
def zero : Number := .whole 0 (by decide)

instance : Inhabited Number := ⟨zero⟩

/-- The whole number, exactly if it can be, else as the nearest double. -/
def ofInt? (n : Int) : Option Number :=
  if h : IsExact n then some (.whole n h)
  else (Double.ofDecimal (n < 0) n.natAbs 0).map .double

/--
The number that `-? digits`, without fraction and exponent, denotes. Minus zero is a double, since
no whole number is it.
-/
def ofDigits? (negative : Bool) (digits : Nat) : Option Number :=
  if negative then
    if digits = 0 then some (.double (.zero true)) else ofInt? (-digits)
  else ofInt? digits

/-- The whole number that is kept exactly. -/
def whole? : Number → Option Int
  | .whole n _ => some n
  | .double _ => none

end Number

/-- A JSON value. -/
inductive Json where
  | null
  | bool (b : Bool)
  | number (n : Number)
  | string (s : String)
  | array (items : List Json)
  | object (members : List (String × Json))
deriving Inhabited

namespace Json

/-- Zero. -/
def zero : Json := .number .zero

/-- A count; one beyond 64 bits is a double. -/
def nat (n : Nat) : Json := .number ((Number.ofInt? n).getD .zero)

/-! ### Looking inside -/

/-- The member of that name, if the value is an object that has it. -/
def get? (name : String) : Json → Option Json
  | .object members => members.lookup name
  | _ => none

/-- The value reached through members of the given names, one inside the other. -/
def at? : List String → Json → Option Json
  | [], j => some j
  | name :: names, j => (j.get? name).bind (at? names)

/-- The items of an array, and none of any other value. -/
def items : Json → List Json
  | .array xs => xs
  | _ => []

/-- The text of a string. -/
def text? : Json → Option String
  | .string s => some s
  | _ => none

/-- A whole number that is not negative. -/
def nat? : Json → Option Nat
  | .number (.whole (.ofNat n) _) => some n
  | _ => none

@[simp] theorem at?_nil (j : Json) : j.at? [] = some j := rfl

@[simp] theorem at?_cons (name : String) (names : List String) (j : Json) :
    j.at? (name :: names) = (j.get? name).bind (at? names) := rfl

/-! ### Sorted members -/

/-- Sets the member of that name in a list sorted by name, replacing the one that is there. -/
def insertMember (name : String) (value : Json) :
    List (String × Json) → List (String × Json)
  | [] => [(name, value)]
  | (n, v) :: rest =>
    if name < n then (name, value) :: (n, v) :: rest
    else if name = n then (name, value) :: rest
    else (n, v) :: insertMember name value rest

/-- The members sorted by name; of several with one name the last. -/
def sortMembers (members : List (String × Json)) : List (String × Json) :=
  members.foldl (fun acc (name, value) => insertMember name value acc) []

/-- The object of these members. -/
def ofMembers (members : List (String × Json)) : Json := .object (sortMembers members)

/-- The object of the members that are there. -/
def ofSome (members : List (String × Option Json)) : Json :=
  ofMembers (members.filterMap fun (name, value) => value.map (name, ·))

/-- Names in strictly increasing order, by code point. -/
def Increasing (names : List String) : Prop := names.Pairwise (· < ·)

/--
A value in canonical form: the members of every object in it are sorted by name, each name once.
-/
inductive Canonical : Json → Prop
  | null : Canonical .null
  | bool (b : Bool) : Canonical (.bool b)
  | number (n : Number) : Canonical (.number n)
  | string (s : String) : Canonical (.string s)
  | array {items : List Json} (each : ∀ j ∈ items, Canonical j) : Canonical (.array items)
  | object {members : List (String × Json)} (sorted : Increasing (members.map (·.1)))
      (each : ∀ m ∈ members, Canonical m.2) : Canonical (.object members)

/-! ### Sorted members stay sorted -/

theorem mem_insertMember {name : String} {value : Json} {members : List (String × Json)}
    {m : String × Json} (h : m ∈ insertMember name value members) :
    m = (name, value) ∨ m ∈ members := by
  induction members with
  | nil => simpa [insertMember] using h
  | cons head rest ih =>
    simp only [insertMember] at h
    split at h
    · simpa using h
    · split at h <;> grind

theorem increasing_insertMember {members : List (String × Json)} (name : String) (value : Json)
    (h : Increasing (members.map (·.1))) :
    Increasing ((insertMember name value members).map (·.1)) := by
  induction members with
  | nil => simp [insertMember, Increasing]
  | cons head rest ih =>
    obtain ⟨n, v⟩ := head
    simp only [Increasing, List.map_cons, List.pairwise_cons] at h
    simp only [insertMember]
    split
    · rename_i lt
      simp only [Increasing, List.map_cons, List.pairwise_cons]
      refine ⟨fun a ha => ?_, h⟩
      rcases List.mem_cons.1 ha with rfl | ha
      · exact lt
      · exact String.lt_trans lt (h.1 a ha)
    · split
      · rename_i eq
        subst eq
        simpa [Increasing] using h
      · rename_i nlt ne
        simp only [Increasing, List.map_cons, List.pairwise_cons]
        refine ⟨fun a ha => ?_, ih h.2⟩
        obtain ⟨m, hm, rfl⟩ := List.mem_map.1 ha
        rcases mem_insertMember hm with rfl | hm
        · exact Std.lt_of_le_of_ne (String.not_lt.1 nlt) (Ne.symm ne)
        · exact h.1 _ (List.mem_map_of_mem hm)

theorem increasing_sortMembers (members : List (String × Json)) :
    Increasing ((sortMembers members).map (·.1)) := by
  suffices ∀ acc : List (String × Json), Increasing (acc.map (·.1)) →
      Increasing ((members.foldl (fun acc (name, value) => insertMember name value acc) acc).map
        (·.1)) from this [] List.Pairwise.nil
  induction members with
  | nil => exact fun _ h => h
  | cons m ms ih => exact fun acc h => ih _ (increasing_insertMember m.1 m.2 h)

theorem mem_of_mem_sortMembers {members : List (String × Json)} {m : String × Json}
    (h : m ∈ sortMembers members) : m ∈ members := by
  suffices ∀ acc : List (String × Json),
      m ∈ members.foldl (fun acc (name, value) => insertMember name value acc) acc →
        m ∈ acc ∨ m ∈ members by simpa using this [] h
  clear h
  induction members with
  | nil => exact fun _ h => .inl h
  | cons head rest ih =>
    intro acc h
    rcases ih _ h with h | h
    · rcases mem_insertMember h with rfl | h
      · exact .inr (List.mem_cons_self ..)
      · exact .inl h
    · exact .inr (List.mem_cons_of_mem _ h)

end Json

end SparkAdmission
