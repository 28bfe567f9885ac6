import SparkAdmission.Admission.Decision
import SparkAdmission.Http.MediaType
import SparkAdmission.Http.Message

/-!
# The webhook

The API server posts reviews of pods to one path; another path tells that the webhook is alive. A
body that is too long or no review is refused, the latter by its first fault or misfit; every review
is answered.
-/

namespace SparkAdmission.Webhook

/-- What the webhook serves. -/
inductive Route where
  /-- Reviews of pods. -/
  | mutatePods
  /-- The sign of life. -/
  | health
deriving DecidableEq, Repr

namespace Route

/-- The route of a path. -/
def ofPath? (path : String) : Option Route :=
  if path = "/mutate/pods" then some .mutatePods
  else if path = "/healthz" then some .health
  else none

/-- The methods that a route allows. -/
def methods : Route → List String
  | .mutatePods => ["POST"]
  | .health => ["GET", "HEAD"]

end Route

/-- A response, and the targets that were requested of the API server for it. -/
structure Exchange where
  response : Http.Response
  requests : List String

/-- Whether the request says that its body is JSON. -/
def saysJson (request : Http.Request) : Bool :=
  ((request.header? "content-type").bind Http.MediaType.parse?).any Http.MediaType.isJson

/-- The response to a body that cannot be read. -/
def refusal : ReadError → Http.Response
  | .malformed => .text 400 "Failed to parse the request body as JSON"
  | .misfit => .text 422 "Failed to deserialize the JSON body into the target type"

/-- The response that sends an answer, if it can be written. -/
def sent (answer : Admission.Response) : Http.Response :=
  match (Datum.ofJson answer.toJson).toText with
  | .ok text => .json text
  | .error what => .text 500 what

/-- The greatest number of bytes of a body. -/
def maxBodyBytes : Nat := 2097152

/-- The exchange on a review of a pod. The media type is looked at before the body. -/
def mutatePods (request : Http.Request) (complaint : Complaint) (api : ApiServer)
    (settings : Settings) : Exchange :=
  if saysJson request then
    if maxBodyBytes < request.body.utf8ByteSize then
      ⟨.text 413 "Failed to buffer the request body: length limit exceeded", []⟩
    else
      match Reader.text Admission.Review.read request.body with
      | .error e => ⟨refusal e, []⟩
      | .ok review =>
        let answered := review.answer complaint api settings
        ⟨sent answered.response, answered.requests⟩
  else ⟨.text 415 "Expected request with \x60Content-Type: application/json\x60", []⟩

/-- The sign of life; a `HEAD` request gets no body. -/
def health (request : Http.Request) : Http.Response :=
  .text 200 (if request.method = "HEAD" then "" else "ok")

/-- The exchange on a request. -/
def exchange (request : Http.Request) (complaint : Complaint) (api : ApiServer)
    (settings : Settings) : Exchange :=
  match Route.ofPath? request.path with
  | none => ⟨{ status := 404 }, []⟩
  | some route =>
    if route.methods.contains request.method then
      match route with
      | .mutatePods => mutatePods request complaint api settings
      | .health => ⟨health request, []⟩
    else ⟨{ status := 405, allow := some (",".intercalate route.methods) }, []⟩

end SparkAdmission.Webhook
