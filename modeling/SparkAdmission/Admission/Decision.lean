import SparkAdmission.Admission.Request
import SparkAdmission.Admission.Response
import SparkAdmission.Derivation
import SparkAdmission.Lookup

/-!
# The decision on a request

A pod with a role and the name of an application is admitted with the patch that the application
calls for. The application is looked up first; a pod that belongs to none is admitted as it is,
without a lookup, and one whose application cannot be looked up is denied.
-/

namespace SparkAdmission.Admission

/-- What a denied pod is told. -/
def denial (e : Error) : String :=
  if e.isPodRejection then e.message else "internal error: " ++ e.message

/-- The object is admitted with the patch, if the patch can be written. -/
def Verdict.withPatch (patch : Patch) : Verdict :=
  match patch.written with
  | .ok _ => .patched patch
  | .error _ => .denied "patch serialization error: failed to serialize patch"

namespace Request

/-- The application that has to be looked up: the pod has a role and the name of an application,
and the request or the pod names a namespace. -/
def applicationRef? (request : Request) : Option ApplicationRef := do
  let pod ← request.object
  let _ ← pod.role?
  let name ← pod.label? applicationLabel
  let namespaceName ← request.namespaceName <|> pod.namespace?
  return ⟨namespaceName, name⟩

/-- The verdict, given the application of the pod, if it has one. -/
def verdict (request : Request) (app : Option Application) (settings : Settings) : Verdict :=
  match request.object with
  | none => .allowed
  | some pod =>
    match pod.role?, app with
    | some role, some app =>
      match derivePatch pod app role settings with
      | .ok [] => .allowed
      | .ok patch => .withPatch patch
      | .error e => .denied (denial e)
    | _, _ => .allowed

end Request

/-- An answer, and the targets that were requested of the API server for it. -/
structure Answered where
  response : Response
  requests : List String

namespace Review

/-- The answer to the request of a review. -/
def respond (review : Review) (request : Request) (verdict : Verdict) : Response :=
  ⟨review.apiVersion, review.kind, request.uid, verdict⟩

/-- Looks the application up and decides on the request. -/
def answerRequest (review : Review) (request : Request) (complaint : Complaint) (api : ApiServer)
    (settings : Settings) : Answered :=
  match request.applicationRef? with
  | none => ⟨review.respond request .allowed, []⟩
  | some ref =>
    let lookup := ref.lookup complaint api
    match lookup.outcome with
    | .ok app => ⟨review.respond request (request.verdict app settings), lookup.requests⟩
    | .error e => ⟨review.respond request (.denied (Error.lookup e).message), lookup.requests⟩

/-- The answer to a review. -/
def answer (review : Review) (complaint : Complaint) (api : ApiServer) (settings : Settings) :
    Answered :=
  match review.request with
  | none => ⟨.withoutRequest, []⟩
  | some request => review.answerRequest request complaint api settings

end Review

end SparkAdmission.Admission
