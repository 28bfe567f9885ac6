import SparkAdmission.Json.Writer
import SparkAdmission.Pointer

/-!
# Patches

A patch is a list of RFC 6902 `add` operations, applied one after the other. An `add` needs the
parent of its place to exist: it sets or replaces a member of an object, inserts into an array at
an index, or appends to an array at `-`. `run?_append` says that patches compose.
-/

namespace SparkAdmission

/-- One `add` operation. -/
structure Add where
  path : Pointer
  value : Json

/-- Operations in the order in which they are applied. -/
abbrev Patch := List Add

namespace Json

/-- Sets the member or replaces the item that a token names. -/
def setChild (j : Json) (token : String) (value : Json) : Json :=
  match j with
  | .object members => .object (insertMember token value members)
  | .array items => .array ((index? token).elim items (items.set · value))
  | j => j

/-- Adds a child: a member, an item at an index, or an item behind the last one. -/
def addChild? (j : Json) (token : String) (value : Json) : Option Json :=
  match j with
  | .object members => some (.object (insertMember token value members))
  | .array items =>
    if token = "-" then some (.array (items ++ [value]))
    else (index? token).bind fun i =>
      if i ≤ items.length then some (.array (items.take i ++ value :: items.drop i)) else none
  | _ => none

/-- Adds a value at the place the tokens lead to. -/
def add? (value : Json) : List String → Json → Option Json
  | [], _ => some value
  | [token], j => j.addChild? token value
  | token :: tokens, j => do
    let child ← j.child? token
    let child ← add? value tokens child
    return j.setChild token child

end Json

namespace Add

/-- Applies the operation; `none` when its place has no parent. -/
def run? (op : Add) (doc : Json) : Option Json := Json.add? op.value op.path.tokens doc

/-- The operation as JSON. -/
def toJson (op : Add) : Json :=
  .object [("op", .string "add"), ("path", .string op.path.text), ("value", op.value)]

/-- The `add` operation that a JSON value tells. -/
def ofJson? (j : Json) : Option Add := do
  let op ← (j.get? "op").bind Json.text?
  let path ← ((j.get? "path").bind Json.text?).bind Pointer.ofText?
  let value ← j.get? "value"
  if op = "add" then return ⟨path, value⟩ else none

end Add

namespace Patch

/-- Applies the operations in order; `none` when one of them fails. -/
def run? (patch : Patch) (doc : Json) : Option Json := patch.foldlM (fun doc op => op.run? doc) doc

@[simp] theorem run?_nil (doc : Json) : run? [] doc = some doc := rfl

@[simp] theorem run?_cons (op : Add) (patch : Patch) (doc : Json) :
    run? (op :: patch) doc = (op.run? doc).bind (run? patch) := rfl

theorem run?_append (p q : Patch) (doc : Json) :
    run? (p ++ q) doc = (run? p doc).bind (run? q) := by
  induction p generalizing doc with
  | nil => rfl
  | cons op p ih => cases h : op.run? doc <;> simp [h, ih]

/-- The operations as JSON. -/
def toJson (patch : Patch) : Json := .array (patch.map Add.toJson)

/-- The text of the operations, as it is written. -/
def written (patch : Patch) : Except String String := (Datum.ofJson patch.toJson).toText

/-- The operations that a JSON value tells; all of them have to be `add` operations. -/
def ofJson? : Json → Option Patch
  | .array items => items.mapM Add.ofJson?
  | _ => none

end Patch

end SparkAdmission
