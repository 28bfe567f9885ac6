import SparkAdmission.Text.Quoted

/-!
# Errors of a lookup

Why an application could not be looked up, and what is said of it. The status that the API server
sends with an error is told in full.
-/

namespace SparkAdmission

/-- The status that the API server sends with an error. -/
structure ApiStatus where
  status : String
  message : String
  reason : String
  code : Nat
deriving DecidableEq

namespace ApiStatus

/-- All that the status says, field by field. -/
def details (s : ApiStatus) : String :=
  "ErrorResponse \x7b status: " ++ Text.quoted s.status ++ ", message: " ++ Text.quoted s.message ++
    ", reason: " ++ Text.quoted s.reason ++ ", code: " ++ toString s.code ++ " \x7d"

end ApiStatus

/-- Why an application could not be looked up. -/
inductive LookupError where
  /-- An application without a name cannot be asked for. -/
  | emptyName
  /-- Namespace or name holds a character that no request target can hold. -/
  | invalidTarget
  /-- The request target has more than 65534 bytes. -/
  | longTarget
  /-- The API server answered with an error. -/
  | api (status : ApiStatus)
  /-- The answer is no text, for this reason. -/
  | undecodable (what : String)
  /-- The answer is no application, for this reason. -/
  | unreadable (what : String)
  /-- The API server could not be reached. -/
  | transport (what : String)
deriving DecidableEq

namespace LookupError

/-- What is said of the error. -/
def message : LookupError → String
  | .emptyName =>
    "Failed to build request: failed to validate request: A non-empty name is required"
  | .invalidTarget => "Failed to build request: failed to build request: invalid uri character"
  | .longTarget => "Failed to build request: failed to build request: uri too long"
  | .api s => "ApiError: " ++ s.message ++ ": " ++ s.reason ++ " (" ++ s.details ++ ")"
  | .undecodable what => "UTF-8 Error: " ++ what
  | .unreadable what => "Error deserializing response: " ++ what
  | .transport what => "ServiceError: " ++ what

end LookupError

end SparkAdmission
