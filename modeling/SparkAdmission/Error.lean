import SparkAdmission.Lookup.Error
import SparkAdmission.Role

/-!
# Errors

The causes for which a pod cannot be patched or the webhook cannot serve, and what is said of
them. Only a pod without a Spark container is the fault of the pod itself.
-/

namespace SparkAdmission

/-- Why a pod is not patched, or nothing is served. -/
inductive Error where
  /-- The pod has none of the expected containers. -/
  | containerNotFound (pod : String) (expected : List String)
  /-- A value is none of those that are accepted. -/
  | invalid (what : String)
  /-- A value of a patch could not be written. -/
  | serialization (what : String)
  /-- The application could not be looked up. -/
  | lookup (error : LookupError)
  /-- Certificate or key could not be loaded. -/
  | tls (what : String)
  /-- The server failed. -/
  | io (what : String)
deriving DecidableEq

namespace Error

/-- What is said of the error. -/
def message : Error → String
  | .containerNotFound pod expected =>
    "pod " ++ pod ++ ": no container named " ++ " or ".intercalate expected
  | .invalid what => "validation error: " ++ what
  | .serialization what => "serialization error: " ++ what
  | .lookup error => "kubernetes error: " ++ error.message
  | .tls what => "tls error: " ++ what
  | .io what => "io error: " ++ what

/-- Whether the pod itself is at fault, so that it is rejected. -/
def isPodRejection : Error → Bool
  | .containerNotFound _ _ => true
  | _ => false

/-- The error of a role that there is not. -/
def unknownRole (name : String) : Error :=
  .invalid ("invalid spark role: " ++ name ++ ", expected one of: driver, executor")

end Error

/-- The role of that name, or the error that there is none. -/
def Role.parse (name : String) : Except Error Role :=
  match ofName? name with
  | some role => .ok role
  | none => .error (.unknownRole name)

end SparkAdmission
