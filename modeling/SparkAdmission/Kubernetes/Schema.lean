import SparkAdmission.Kubernetes.Shape

/-!
# Schemas of Kubernetes objects

The structural schema that a shape gives in the definition of a resource.
-/

namespace SparkAdmission

/-- A schema: a type, and what else is said of the values. -/
def schemaOf (type : String) (others : List (String × Json)) : Json :=
  .ofMembers (("type", .string type) :: others)

namespace Shape

/-- The names of the members that always stand in an object, as they must be listed. -/
def requiredNames (fields : List Field) : List (String × Json) :=
  let names := (fields.filter (·.2.1 != .optional)).map (·.1)
  if names.isEmpty then [] else [("required", .array (names.map .string))]

mutual

/-- The schema of a shape. -/
def schema : Shape → Json
  | .string => schemaOf "string" []
  | .boolean => schemaOf "boolean" []
  | .int32 => schemaOf "integer" [("format", .string "int32")]
  | .int64 => schemaOf "integer" [("format", .string "int64")]
  | .intOrString => .object [("x-kubernetes-int-or-string", .bool true)]
  | .time => schemaOf "string" [("format", .string "date-time")]
  | .any => .object [("x-kubernetes-preserve-unknown-fields", .bool true)]
  | .list s => schemaOf "array" [("items", s.schema)]
  | .map s => schemaOf "object" [("additionalProperties", s.schema)]
  | .object fields =>
    schemaOf "object" (("properties", .object (fieldSchemas fields)) :: requiredNames fields)

/-- The schemas of the members of an object. -/
def fieldSchemas : List (String × Presence × Shape) → List (String × Json)
  | [] => []
  | (name, _, s) :: rest => (name, s.schema) :: fieldSchemas rest

end

end Shape

end SparkAdmission
