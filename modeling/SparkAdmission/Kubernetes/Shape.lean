import SparkAdmission.Json.Reader
import SparkAdmission.Timestamp

/-!
# Shapes of Kubernetes objects

A `Shape` says how a Kubernetes type is read from JSON and what its documents look like. Reading
is lenient: unknown members are skipped, `null` counts as absent, of several members with one name
the last counts, and a required member that is absent has its default. What is read is kept in
normal form: the known members in the order of the shape, defaults filled in, timestamps in UTC.

`check` walks a source in reading order and finds the first fault or misfit. `normalize` takes the
normal form out of what passes. `Conforms` says, without either of them, which values are in
normal form, and a `Document` is such a value.
-/

namespace SparkAdmission

/-- When a member stands in the normal form. -/
inductive Presence where
  /-- It stands there when it is given. -/
  | optional
  /-- It always stands there; when it is not given, with the default of its shape. -/
  | defaulted
  /-- It always stands there with this text, and must have it when it is given. -/
  | constant (text : String)
deriving DecidableEq, Repr

/-- The kinds of Kubernetes values. -/
inductive Shape where
  | string
  | boolean
  | int32
  | int64
  | intOrString
  | time
  /-- Any JSON value, kept as it is. -/
  | any
  | list (item : Shape)
  | map (value : Shape)
  /-- An object with these members, sorted by name. -/
  | object (fields : List (String × Presence × Shape))

/-- A member of an object shape: its name, when it is written, and its shape. -/
abbrev Field := String × Presence × Shape

namespace Number

/-- The whole numbers of 32 bits with a sign. -/
def isInt32 (n : Number) : Bool := n.whole?.any fun n => -0x80000000 ≤ n && n < 0x80000000

/-- The whole numbers of 64 bits with a sign. -/
def isInt64 (n : Number) : Bool :=
  n.whole?.any fun n => -0x8000000000000000 ≤ n && n < 0x8000000000000000

end Number

namespace Shape

/-! ### Defaults -/

mutual

/-- The value of a member that must be there and is not given. -/
def default : Shape → Json
  | .string => .string ""
  | .boolean => .bool false
  | .int32 | .int64 | .intOrString => .zero
  | .time => .string Timestamp.epoch.text
  | .any => .null
  | .list _ => .array []
  | .map _ => .object []
  | .object fields => .object (defaultMembers fields)

/-- The members that stand in an object of which nothing is given. -/
def defaultMembers : List (String × Presence × Shape) → List (String × Json)
  | [] => []
  | (_, .optional, _) :: rest => defaultMembers rest
  | (name, .defaulted, s) :: rest => (name, s.default) :: defaultMembers rest
  | (name, .constant text, _) :: rest => (name, .string text) :: defaultMembers rest

end

/-! ### Checking -/

/-- Whether a source without brackets is of this shape. -/
def fitsScalar : Shape → Source → Bool
  | .string, .string (some _) => true
  | .boolean, .bool _ => true
  | .int32, .number (some n) => n.isInt32
  | .int64, .number (some n) => n.isInt64
  | .intOrString, .number (some n) => n.isInt32
  | .intOrString, .string (some _) => true
  | .time, .string (some s) => (Timestamp.parse? s).isSome
  | .any, .null => true
  | .any, .bool _ => true
  | .any, .number (some _) => true
  | .any, .string (some _) => true
  | _, _ => false

/-- The shape of the items, for shapes that read an array item by item. -/
def item? : Shape → Option Shape
  | .list s => some s
  | .any => some .any
  | _ => none

/-- The shape of all members, for shapes that read an object whatever its names. -/
def member? : Shape → Option Shape
  | .map s => some s
  | .any => some .any
  | _ => none

/-- Whether a bracket of the wrong kind is entered before it is refused. -/
def opensBracket : Shape → Bool
  | .object _ => true
  | .intOrString => true
  | _ => false

/-- Refuses a bracket of the wrong kind. -/
def refuseBracket (s : Shape) (depth : Levels) : Except ReadError Unit := do
  if s.opensBracket then
    let _ ← Source.enter depth
  throw .misfit

/-- A constant member, where it is given. -/
def checkConstant (text : String) : Source → Except ReadError Unit
  | .string (some s) => if s = text then .ok () else .error .misfit
  | s => .error s.refusal

mutual

/-- The first fault or misfit in reading order, with the levels that are left. -/
def check : Source → Shape → Levels → Except ReadError Unit
  | .array items closed, s, depth =>
    match s.item? with
    | some item => do
      checkItems items item (← Source.enter depth)
      Source.finish closed
    | none => s.refuseBracket depth
  | .object members closed, s, depth =>
    match s, s.member? with
    | .object fields, _ => do
      checkFields members fields (← Source.enter depth)
      Source.finish closed
    | _, some value => do
      checkMembers members value (← Source.enter depth)
      Source.finish closed
    | s, none => s.refuseBracket depth
  | source, s, _ => if s.fitsScalar source then .ok () else .error source.refusal

/-- Every item in turn. -/
def checkItems : List Source → Shape → Levels → Except ReadError Unit
  | [], _, _ => .ok ()
  | source :: rest, s, depth => do
    check source s depth
    checkItems rest s depth

/-- Every member in turn, whatever its name. -/
def checkMembers : List (Option String × Source) → Shape → Levels → Except ReadError Unit
  | [], _, _ => .ok ()
  | (none, _) :: _, _, _ => .error .malformed
  | (some _, source) :: rest, s, depth => do
    check source s depth
    checkMembers rest s depth

/-- Every member in turn, by the field of its name. -/
def checkFields : List (Option String × Source) → List Field → Levels → Except ReadError Unit
  | [], _, _ => .ok ()
  | (none, _) :: _, _, _ => .error .malformed
  | (some name, source) :: rest, fields, depth => do
    match fields.lookup name, source with
    | none, _ => if source.isWhole then pure () else throw .malformed
    | some (.constant text, _), _ => checkConstant text source
    | some _, .null => pure ()
    | some (_, s), _ => check source s depth
    checkFields rest fields depth

end

/-! ### Normal form -/

/-- The normal form of a source without brackets. -/
def normalizeScalar : Shape → Source → Json
  | .string, .string (some s) => .string s
  | .boolean, .bool b => .bool b
  | .int32, .number (some n) => if n.isInt32 then .number n else .zero
  | .int64, .number (some n) => if n.isInt64 then .number n else .zero
  | .intOrString, .number (some n) => if n.isInt32 then .number n else .zero
  | .intOrString, .string (some s) => .string s
  | .time, .string (some s) => .string ((Timestamp.parse? s).getD .epoch).text
  | s, _ => s.default

mutual

/-- The normal form of a source that passes the check; what does not fit has the default. -/
def normalize : Shape → Source → Json
  | .any, source => source.toJson
  | .list s, .array items _ => .array (items.map (normalize s))
  | .map s, .object members _ =>
    .ofMembers (members.filterMap fun (name, source) => name.map (·, normalize s source))
  | .object fields, .object members _ => .object (normalizeFields fields members)
  | s, source => s.normalizeScalar source

/-- The members in normal form, field by field. -/
def normalizeFields : List (String × Presence × Shape) → List (Option String × Source) →
    List (String × Json)
  | [], _ => []
  | (name, .constant text, _) :: rest, members =>
    (name, .string text) :: normalizeFields rest members
  | (name, .optional, s) :: rest, members =>
    match Source.given? name members with
    | some source => (name, normalize s source) :: normalizeFields rest members
    | none => normalizeFields rest members
  | (name, .defaulted, s) :: rest, members =>
    match Source.given? name members with
    | some source => (name, normalize s source) :: normalizeFields rest members
    | none => (name, s.default) :: normalizeFields rest members

end

/-! ### Conformance -/

mutual

/-- The values in normal form. -/
inductive Conforms : Shape → Json → Prop
  | string (s : String) : Conforms .string (.string s)
  | boolean (b : Bool) : Conforms .boolean (.bool b)
  | int32 {n : Number} (fits : n.isInt32) : Conforms .int32 (.number n)
  | int64 {n : Number} (fits : n.isInt64) : Conforms .int64 (.number n)
  | int {n : Number} (fits : n.isInt32) : Conforms .intOrString (.number n)
  | intText (s : String) : Conforms .intOrString (.string s)
  | time (t : Timestamp) : Conforms .time (.string t.text)
  | any {j : Json} (canonical : j.Canonical) : Conforms .any j
  | list {s : Shape} {items : List Json} (each : ∀ j ∈ items, Conforms s j) :
      Conforms (.list s) (.array items)
  | map {s : Shape} {members : List (String × Json)}
      (sorted : Json.Increasing (members.map (·.1))) (each : ∀ m ∈ members, Conforms s m.2) :
      Conforms (.map s) (.object members)
  | object {fields : List (String × Presence × Shape)} {members : List (String × Json)}
      (each : FieldsConform fields members) : Conforms (.object fields) (.object members)

/-- The members in normal form: those of the fields, in their order. -/
inductive FieldsConform : List (String × Presence × Shape) → List (String × Json) → Prop
  | nil : FieldsConform [] []
  | absent {name : String} {s : Shape} {fields : List (String × Presence × Shape)}
      {members : List (String × Json)} (rest : FieldsConform fields members) :
      FieldsConform ((name, .optional, s) :: fields) members
  | given {name : String} {s : Shape} {fields : List (String × Presence × Shape)} {value : Json}
      {members : List (String × Json)} (head : Conforms s value) (notNull : value ≠ .null)
      (rest : FieldsConform fields members) :
      FieldsConform ((name, .optional, s) :: fields) ((name, value) :: members)
  | defaulted {name : String} {s : Shape} {fields : List (String × Presence × Shape)}
      {value : Json} {members : List (String × Json)} (head : Conforms s value)
      (rest : FieldsConform fields members) :
      FieldsConform ((name, .defaulted, s) :: fields) ((name, value) :: members)
  | constant {name text : String} {s : Shape} {fields : List (String × Presence × Shape)}
      {members : List (String × Json)} (rest : FieldsConform fields members) :
      FieldsConform ((name, .constant text, s) :: fields) ((name, .string text) :: members)

end

mutual

theorem conforms_default : (s : Shape) → Conforms s s.default
  | .string => .string ""
  | .boolean => .boolean false
  | .int32 => .int32 rfl
  | .int64 => .int64 rfl
  | .intOrString => .int rfl
  | .time => .time .epoch
  | .any => .any .null
  | .list _ => .list (by simp)
  | .map _ => .map .nil (by simp)
  | .object fields => .object (conforms_defaultMembers fields)

theorem conforms_defaultMembers :
    (fields : List (String × Presence × Shape)) → FieldsConform fields (defaultMembers fields)
  | [] => .nil
  | (_, .optional, _) :: rest => .absent (conforms_defaultMembers rest)
  | (_, .defaulted, s) :: rest => .defaulted (conforms_default s) (conforms_defaultMembers rest)
  | (_, .constant _, _) :: rest => .constant (conforms_defaultMembers rest)

end

theorem conforms_normalizeScalar (s : Shape) (source : Source) :
    Conforms s (s.normalizeScalar source) := by
  unfold normalizeScalar
  split
  · exact .string _
  · exact .boolean _
  · split
    · exact .int32 ‹_›
    · exact .int32 rfl
  · split
    · exact .int64 ‹_›
    · exact .int64 rfl
  · split
    · exact .int ‹_›
    · exact .int rfl
  · exact .intText _
  · exact .time _
  · exact conforms_default _

theorem default_ne_null {s : Shape} (h : s ≠ .any) : s.default ≠ .null := by
  cases s <;> simp_all [default, Json.zero]

theorem normalizeScalar_ne_null {s : Shape} (h : s ≠ .any) (source : Source) :
    s.normalizeScalar source ≠ .null := by
  unfold normalizeScalar
  split <;> (try split) <;> simp_all [Json.zero, default_ne_null]

theorem normalize_ne_null {s : Shape} {source : Source} (h : source.isNull = false) :
    s.normalize source ≠ .null := by
  unfold normalize
  split
  · exact Source.toJson_ne_null h
  · simp
  · simp [Json.ofMembers]
  · simp
  · rename_i s _ _ _ _
    exact normalizeScalar_ne_null (by rintro rfl; simp_all) _

mutual

/-- The normal form conforms, whatever the source. -/
theorem conforms_normalize : (s : Shape) → (source : Source) → Conforms s (s.normalize source)
  | .any, source => .any source.canonical_toJson
  | .list s, source => by
    cases source with
    | array items closed =>
      refine .list fun j h => ?_
      obtain ⟨source, _, rfl⟩ := List.mem_map.1 h
      exact conforms_normalize s source
    | _ => exact conforms_normalizeScalar _ _
  | .map s, source => by
    cases source with
    | object members closed =>
      refine .map (Json.increasing_sortMembers _) fun m h => ?_
      obtain ⟨⟨name, source⟩, _, hm⟩ := List.mem_filterMap.1 (Json.mem_of_mem_sortMembers h)
      obtain ⟨_, _, rfl⟩ := Option.map_eq_some_iff.1 hm
      exact conforms_normalize s source
    | _ => exact conforms_normalizeScalar _ _
  | .object fields, source => by
    cases source with
    | object members closed => exact .object (conforms_normalizeFields fields members)
    | _ => exact conforms_normalizeScalar _ _
  | .string, _ | .boolean, _ | .int32, _ | .int64, _ | .intOrString, _ | .time, _ =>
    conforms_normalizeScalar _ _

theorem conforms_normalizeFields : (fields : List (String × Presence × Shape)) →
    (members : List (Option String × Source)) →
      FieldsConform fields (normalizeFields fields members)
  | [], _ => .nil
  | (name, .constant text, _) :: rest, members => by
    unfold normalizeFields
    exact .constant (conforms_normalizeFields rest members)
  | (name, .optional, s) :: rest, members => by
    unfold normalizeFields
    split
    · exact .given (conforms_normalize s _) (normalize_ne_null (Source.isNull_of_given? ‹_›))
        (conforms_normalizeFields rest members)
    · exact .absent (conforms_normalizeFields rest members)
  | (name, .defaulted, s) :: rest, members => by
    unfold normalizeFields
    split
    · exact .defaulted (conforms_normalize s _) (conforms_normalizeFields rest members)
    · exact .defaulted (conforms_default s) (conforms_normalizeFields rest members)

end

end Shape

/-- A Kubernetes value of a shape, in normal form. -/
structure Document (s : Shape) where
  json : Json
  conforms : s.Conforms json

namespace Document

variable {s : Shape}

instance : Inhabited (Document s) := ⟨⟨s.default, s.conforms_default⟩⟩

@[ext] theorem ext {a b : Document s} (h : a.json = b.json) : a = b := by
  cases a; cases b; simp_all

/-- The normal form of a source. -/
def ofSource (source : Source) : Document s := ⟨s.normalize source, s.conforms_normalize source⟩

/-- Reads a document: the first fault or misfit in reading order, else the normal form. -/
def read : Reader (Document s)
  | depth, source => (s.check source depth).map fun _ => ofSource source

/-- The text of a string member, and the empty text when it has none. -/
def textOf (d : Document s) (name : String) : String := ((d.json.get? name).bind Json.text?).getD ""

end Document

end SparkAdmission
