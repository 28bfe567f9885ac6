import SparkAdmission.Json.Writer
import SparkAdmission.Kubernetes.Shape

/-!
# What Kubernetes values tell

A value of a Kubernetes type tells the members it has in the order of its shape, a constant member
with its text. What is not of the shape refuses to be told.
-/

namespace SparkAdmission.Shape

mutual

/-- What a value of the shape tells of itself. -/
def datum : Shape → Json → Datum
  | .any, j => .ofJson j
  | .list s, .array items => .list (items.map (datum s))
  | .map s, .object members => .map (members.map fun (name, j) => (.text name, datum s j))
  | .object fields, .object members => .map (fieldData fields members)
  | s, j => if s.fitsScalar (.ofJson j) then .ofJson j else .refused "value of another type"

/-- What the members of an object tell, field by field. -/
def fieldData : List (String × Presence × Shape) → List (String × Json) → List (Datum × Datum)
  | [], _ => []
  | (name, .constant text, _) :: rest, members => (.text name, .text text) :: fieldData rest members
  | (name, _, s) :: rest, members =>
    match members.lookup name with
    | some j => (.text name, datum s j) :: fieldData rest members
    | none => fieldData rest members

end

end SparkAdmission.Shape
