import SparkAdmission.Lookup.Reply
import SparkAdmission.Lookup.Target

/-!
# Looking up applications

A lookup makes one request at most: none when there is no request target for the application.
-/

namespace SparkAdmission

/-- The API server: what it answers to a request, by the target of the request. -/
abbrev ApiServer := String → Reply

/-- A lookup: the targets that were requested, and what came of it. -/
structure Lookup where
  requests : List String
  outcome : Except LookupError (Option Application)

namespace ApplicationRef

/-- Looks the application up. -/
def lookup (ref : ApplicationRef) (complaint : Complaint) (api : ApiServer) : Lookup :=
  match ref.target with
  | .ok target => ⟨[target], (api target).application complaint⟩
  | .error e => ⟨[], .error e⟩

variable (complaint : Complaint) (api : ApiServer)

theorem lookup_of_target {ref : ApplicationRef} {target : String} (h : ref.target = .ok target) :
    ref.lookup complaint api = ⟨[target], (api target).application complaint⟩ := by
  simp [lookup, h]

theorem lookup_of_target_error {ref : ApplicationRef} {e : LookupError}
    (h : ref.target = .error e) : ref.lookup complaint api = ⟨[], .error e⟩ := by
  simp [lookup, h]

end ApplicationRef

end SparkAdmission
