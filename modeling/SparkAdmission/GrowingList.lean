import SparkAdmission.Error
import SparkAdmission.Patch

/-!
# Lists that grow by `add` operations

An `add` at a list replaces it, and an `add` behind its last item needs the list to exist. So the
first item of an empty or missing list is added as a list of one item at the place of the list,
and every other item at `-` inside it. A `GrowingList` counts the items, so that operations that
are made one after the other stay valid when they are applied in order. An element that is added has
to be written first, and where that fails the list stays as it is.
-/

namespace SparkAdmission

/-- How an item gets into a list. -/
inductive Placement where
  /-- As the only item of a new list. -/
  | create
  /-- Behind the last item. -/
  | append
deriving DecidableEq, Repr

namespace Placement

/-- The placement of an item in a list of that length. -/
def ofLength (length : Nat) : Placement := if length = 0 then .create else .append

/-- The place of the operation, for the list at `list`. -/
def path (list : Pointer) : Placement → Pointer
  | .create => list
  | .append => ⟨list.tokens ++ ["-"]⟩

/-- The value of the operation. -/
def value (item : Json) : Placement → Json
  | .create => .array [item]
  | .append => item

@[simp] theorem ofLength_zero : ofLength 0 = .create := rfl

@[simp] theorem ofLength_succ (n : Nat) : ofLength (n + 1) = .append := rfl

end Placement

/-- The value of an operation, as it is written. -/
def Datum.value (d : Datum) : Except Error Json := d.toJson.mapError .serialization

/-- A list in a document, and the number of items it has when all operations so far are applied. -/
structure GrowingList where
  path : Pointer
  length : Nat

namespace GrowingList

/-- Whether the list has no items. -/
def isEmpty (list : GrowingList) : Bool := list.length == 0

/-- The operation that adds an item. -/
def addition (list : GrowingList) (item : Json) : Add :=
  let placement := Placement.ofLength list.length
  ⟨placement.path list.path, placement.value item⟩

/-- Adds an item: the operation, and the list with one item more. -/
def push (list : GrowingList) (item : Json) : Add × GrowingList :=
  (list.addition item, { list with length := list.length + 1 })

/-- Adds the items in order. -/
def pushAll (list : GrowingList) : List Json → List (Add × GrowingList)
  | [] => []
  | item :: items =>
    let (op, next) := list.push item
    (op, next) :: pushAll next items

/-- Adds an element as an item, if it can be written. -/
def add (list : GrowingList) (element : Datum) : Except Error (Add × GrowingList) :=
  element.value.map list.push

theorem add_of_toJson {element : Datum} {item : Json} (h : element.toJson = .ok item)
    (list : GrowingList) : list.add element = .ok (list.push item) := by
  rw [add, Datum.value, h]
  rfl

end GrowingList

end SparkAdmission
