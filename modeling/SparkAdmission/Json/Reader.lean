import SparkAdmission.Json.Scanner

/-!
# Reading typed values

A reader takes a value of a type out of a `Source`, in reading order, so that the first fault or
misfit in the text decides. It is given the number of levels of brackets that may still be opened:
a text may nest 127 deep, a value as deep as it likes.

`Record` reads the fields of a record: an object in which unknown names are skipped and no known
name stands twice, or an array of the fields in their order, in which the last ones may be missing
up to the last one that is `inArrays`.
-/

namespace SparkAdmission

/-- Why nothing could be read. -/
inductive ReadError where
  /-- The text is no JSON, up to the place where the reader stopped. -/
  | malformed
  /-- A value is not of the kind that is asked for, or a part of it is missing or repeated. -/
  | misfit
deriving DecidableEq, Repr

/-- How many levels are left, where they are limited. -/
abbrev Levels := Option Nat

/-- Reads a value, with the levels that are left. -/
abbrev Reader (α : Type) := Levels → Source → Except ReadError α

namespace Source

/-- The levels at the root of a text; the last of them may not be entered. -/
def textLevels : Levels := some 128

/-- The error of meeting this where another kind of value is asked for. What denotes nothing is
malformed wherever it is looked at. -/
def refusal : Source → ReadError
  | .fault => .malformed
  | .number none => .malformed
  | .string none => .malformed
  | _ => .misfit

/-- The levels that are left inside a bracket. -/
def enter : Levels → Except ReadError Levels
  | none => .ok none
  | some n => if n ≤ 1 then .error .malformed else .ok (some (n - 1))

@[simp] theorem enter_none : enter none = .ok none := rfl

/-- The end of what is read in a bracket. -/
def finish (closed : Bool) : Except ReadError Unit :=
  if closed then .ok () else .error .malformed

end Source

namespace Reader

open Source

/-- A string. -/
def string : Reader String
  | _, .string (some s) => .ok s
  | _, s => .error s.refusal

/-- A truth value. -/
def bool : Reader Bool
  | _, .bool b => .ok b
  | _, s => .error s.refusal

/-- A whole number from `low` to `high`. -/
def whole (low high : Int) : Reader Int
  | _, .number (some (.whole n _)) => if low ≤ n ∧ n ≤ high then .ok n else .error .misfit
  | _, s => .error s.refusal

/-- What the reader reads, or `none` for `null`. -/
def optional {α : Type} (read : Reader α) : Reader (Option α)
  | _, .null => .ok none
  | depth, s => (read depth s).map some

/-- An array of what the reader reads. -/
def list {α : Type} (read : Reader α) : Reader (List α)
  | depth, .array items closed => do
    let depth ← enter depth
    let values ← items.mapM (read depth)
    finish closed
    return values
  | _, s => .error s.refusal

/-- One of the names, as a string or as an object with it as its only member, which is null. Every
other kind of value is malformed. -/
def choice (names : List String) : Reader Unit
  | _, .string (some name) => if names.contains name then .ok () else .error .misfit
  | depth, .object ((some name, s) :: rest) closed => do
    let _ ← enter depth
    if !names.contains name then throw .misfit
    match s with
    | .null => if rest.isEmpty then finish closed else throw .malformed
    | s => throw s.refusal
  | _, _ => .error .malformed

/-- A whole text. -/
def text {α : Type} (read : Reader α) (s : String) : Except ReadError α := do
  let (root, ended) := Source.ofText s
  let value ← read textLevels root
  finish ended
  return value

/-- A value. -/
def value {α : Type} (read : Reader α) (j : Json) : Option α :=
  (read none (.ofJson j)).toOption

end Reader

/-- One field of a record: how a value read for it is put into the record under construction. -/
structure RecordField (σ : Type) where
  name : String
  put : σ → Reader σ
  /-- Whether an array of the fields has to reach this one. -/
  inArrays : Bool := false

namespace RecordField

/-- The field of that name, whose value `read` reads and `set` puts in place. -/
def of {σ α : Type} (name : String) (read : Reader α) (set : σ → α → σ) : RecordField σ :=
  { name, put := fun record depth s => (read depth s).map (set record) }

/-- A field of which nothing is kept but that it is there. -/
def seen {α : Type} (name : String) (read : Reader α) : RecordField (List String) :=
  .of name read fun names _ => name :: names

/-- The field, which an array of the fields has to reach. -/
def always {σ : Type} (field : RecordField σ) : RecordField σ := { field with inArrays := true }

end RecordField

namespace Record

open Source

variable {σ : Type}

/-- The members of an object in their order. `seen` holds the names of the fields met so far. -/
def readMembers (fields : List (RecordField σ)) (depth : Levels) (closed : Bool) :
    List (Option String × Source) → List String → σ → Except ReadError σ
  | [], _, record => do finish closed; return record
  | (none, _) :: _, _, _ => .error .malformed
  | (some name, s) :: rest, seen, record =>
    match fields.find? (·.name == name) with
    | none =>
      if s.isWhole then readMembers fields depth closed rest seen record
      else .error .malformed
    | some field =>
      if seen.contains name then .error .misfit
      else do
        let record ← field.put record depth s
        readMembers fields depth closed rest (name :: seen) record

/-- The items of an array, field by field. An item too many is malformed. -/
def readItems (depth : Levels) (closed : Bool) :
    List (RecordField σ) → List Source → σ → Except ReadError σ
  | fields, [], record => do
    finish closed
    if fields.any (·.inArrays) then throw .misfit
    return record
  | [], _ :: _, _ => .error .malformed
  | field :: fields, s :: rest, record => do
    let record ← field.put record depth s
    readItems depth closed fields rest record

/-- A record in either form, starting from `empty`. -/
def read (fields : List (RecordField σ)) (empty : σ) : Reader σ
  | depth, .object members closed => do
    let depth ← enter depth
    readMembers fields depth closed members [] empty
  | depth, .array items closed => do
    let depth ← enter depth
    readItems depth closed fields items empty
  | _, s => .error s.refusal

/-- Reads a record of which nothing is kept. The required fields have to be there. -/
def skim (required : List String) (fields : List (RecordField (List String))) : Reader Unit :=
  fun depth source => do
    let seen ← read fields [] depth source
    if required.all seen.contains then pure () else throw .misfit

/-- What a required field holds. -/
def required {α : Type} : Option α → Except ReadError α
  | some a => .ok a
  | none => .error .misfit

end Record

end SparkAdmission
