import SparkAdmission.Json.Printer
import SparkAdmission.Patch

/-!
# Admission responses

What is decided on a request, and the review that tells the API server. A patch is told as the
bytes of its compact JSON text.
-/

namespace SparkAdmission.Admission

/-- What is decided on a request. -/
inductive Verdict where
  /-- The object is admitted as it is. -/
  | allowed
  /-- The object is admitted when the patch has been applied to it. -/
  | patched (patch : Patch)
  /-- The object is not admitted. -/
  | denied (message : String)
  /-- There is no request to decide on. -/
  | invalid (message : String)

namespace Verdict

/-- Whether the object is admitted. -/
def admits : Verdict → Bool
  | .allowed | .patched _ => true
  | .denied _ | .invalid _ => false

/-- The operations to be applied. -/
def patch? : Verdict → Option Patch
  | .patched p => some p
  | _ => none

/-- The status that goes with the verdict. -/
def status : Verdict → Json
  | .allowed | .patched _ => .object []
  | .denied message => .object [("message", .string message)]
  | .invalid message =>
    .object [("status", .string "Failure"), ("message", .string message),
      ("reason", .string "InvalidRequest")]

end Verdict

/-- The answer to a review. -/
structure Response where
  apiVersion : String
  kind : String
  uid : String
  verdict : Verdict

namespace Response

/-- The answer to a review that holds no request. -/
def withoutRequest : Response :=
  ⟨"admission.k8s.io/v1beta1", "AdmissionReview", "",
    .invalid "failed to convert AdmissionReview into AdmissionRequest"⟩

/-- The members of the answer that tell a patch, the patch itself in the given form. -/
def patchMembers (form : Patch → Json) (verdict : Verdict) : List (String × Json) :=
  match verdict.patch? with
  | some p => [("patch", form p), ("patchType", .string "JSONPatch")]
  | none => []

/-- The answer as a review, its patch in the given form. -/
def toJsonWith (form : Patch → Json) (r : Response) : Json :=
  .object [("apiVersion", .string r.apiVersion), ("kind", .string r.kind),
    ("response", .object ([("uid", .string r.uid), ("allowed", .bool r.verdict.admits),
      ("status", r.verdict.status)] ++ patchMembers form r.verdict))]

/-- The bytes of a text as JSON. -/
def bytes (text : String) : Json := .array (text.toUTF8.toList.map fun b => .nat b.toNat)

/-- The answer as a review. -/
def toJson (r : Response) : Json := r.toJsonWith fun p => bytes p.toJson.render

end Response

end SparkAdmission.Admission
