import SparkAdmission.Pod

/-!
# Admission requests

An API server asks for admission with a review that holds a request. Of a request only the parts
are kept that a decision can depend on; the others are read as well, and have to fit. So does a
response, which a review may hold already, and of which nothing is kept.
-/

namespace SparkAdmission.Admission

/-- The request to admit an object. -/
structure Request where
  uid : String
  /-- The namespace of the request, which the object itself need not name. -/
  namespaceName : Option String
  /-- The pod, unless the request is about no object, as on deletion. -/
  object : Option Pod

/-- A review as it comes in. Version and kind are kept as they are, and given back in the answer. -/
structure Review where
  apiVersion : String
  kind : String
  request : Option Request

/-! ### Reading requests -/

namespace Request

/-- A record of texts, of which nothing is kept. -/
def texts (required optional : List String) : Reader Unit :=
  Record.skim required ((required ++ optional).map (RecordField.seen · Reader.string))

/-- The name of a type: group, version and kind. -/
def typeName : Reader Unit := texts ["group", "version", "kind"] []

/-- The name of a resource: group, version and resource, and perhaps the first two in one text. -/
def resourceName : Reader Unit := texts ["group", "version", "resource"] ["api_version"]

/-- What can be done to an object. -/
def operation : Reader Unit := Reader.choice ["CREATE", "UPDATE", "DELETE", "CONNECT"]

/-- The parts of a request that have been read. -/
structure Parts where
  uid : Option String := none
  kind : Option Unit := none
  resource : Option Unit := none
  namespaceName : Option String := none
  operation : Option Unit := none
  user : Option Unit := none
  object : Option Pod := none

/-- A value that is read and not kept. -/
def skipped {α : Type} (name : String) (read : Reader α) : RecordField Parts :=
  .of name read fun p _ => p

/-- The fields in their order. -/
def fields : List (RecordField Parts) := [
  .of "uid" Reader.string fun p v => { p with uid := some v },
  .of "kind" typeName fun p v => { p with kind := some v },
  .of "resource" resourceName fun p v => { p with resource := some v },
  skipped "subResource" (Reader.optional Reader.string),
  skipped "requestKind" (Reader.optional typeName),
  skipped "requestResource" (Reader.optional resourceName),
  skipped "requestSubResource" (Reader.optional Reader.string),
  skipped "name" Reader.string,
  .of "namespace" (Reader.optional Reader.string) fun p v => { p with namespaceName := v },
  .of "operation" operation fun p v => { p with operation := some v },
  .of "userInfo" (Document.read (s := Kubernetes.userInfo)) fun p _ => { p with user := some () },
  .of "object" (Reader.optional Document.read) fun p v => { p with object := v },
  (skipped "oldObject" (Reader.optional (Document.read (s := Kubernetes.pod)))).always,
  skipped "dryRun" Reader.bool,
  skipped "options" (Reader.optional (Document.read (s := .any)))]

/-- Reads a request. -/
def read : Reader Request := fun depth source => do
  let parts ← Record.read fields {} depth source
  let uid ← Record.required parts.uid
  let _ ← Record.required parts.kind
  let _ ← Record.required parts.resource
  let _ ← Record.required parts.operation
  let _ ← Record.required parts.user
  return ⟨uid, parts.namespaceName, parts.object⟩

end Request

/-! ### Reading responses -/

namespace Review

/-- What brought about a status. -/
def cause : Reader Unit := Request.texts [] ["reason", "message", "field"]

/-- The details of a status. -/
def details : Reader Unit := Record.skim [] [
  .seen "name" Reader.string,
  .seen "group" Reader.string,
  .seen "kind" Reader.string,
  .seen "uid" Reader.string,
  .seen "causes" (Reader.list cause),
  .seen "retryAfterSeconds" (Reader.whole 0 0xffffffff)]

/-- The status of a response. -/
def status : Reader Unit := Record.skim [] [
  (RecordField.seen "status" (Reader.optional (Reader.choice ["Success", "Failure"]))).always,
  .seen "code" (Reader.whole 0 0xffff),
  .seen "message" Reader.string,
  .seen "reason" Reader.string,
  .seen "details" (Reader.optional details)]

/-- A response, which has the members of one that is sent, and perhaps annotations and warnings. -/
def response : Reader Unit := Record.skim ["uid", "allowed", "status"] [
  .seen "uid" Reader.string,
  .seen "allowed" Reader.bool,
  .seen "status" status,
  (RecordField.seen "patch" (Reader.optional (Reader.list (Reader.whole 0 0xff)))).always,
  (RecordField.seen "patchType" (Reader.optional (Reader.choice ["JSONPatch"]))).always,
  .seen "auditAnnotations" (Document.read (s := .map .string)),
  (RecordField.seen "warnings" (Reader.optional (Reader.list Reader.string))).always]

/-! ### Reading reviews -/

/-- The parts of a review that have been read: its request, whether there was a response, of which
nothing is kept, and the members of any other name. -/
structure Parts where
  request : Option (Option Request) := none
  response : Bool := false
  others : List (String × Source) := []

/-- The members in their order. -/
def readMembers (depth : Levels) (closed : Bool) :
    List (Option String × Source) → Parts → Except ReadError Parts
  | [], parts => do
    Source.finish closed
    return parts
  | (none, _) :: _, _ => .error .malformed
  | (some "request", s) :: rest, parts => do
    if parts.request.isSome then throw .misfit
    let request ← Reader.optional Request.read depth s
    readMembers depth closed rest { parts with request := some request }
  | (some "response", s) :: rest, parts => do
    if parts.response then throw .misfit
    let _ ← Reader.optional response depth s
    readMembers depth closed rest { parts with response := true }
  | (some name, s) :: rest, parts => do
    Shape.any.check s depth
    readMembers depth closed rest { parts with others := (name, s) :: parts.others }

/-- The text of the only member of that name. -/
def onlyText (name : String) (members : List (String × Source)) : Except ReadError String :=
  match members.filter (·.1 == name) with
  | [(_, .string (some s))] => .ok s
  | _ => .error .misfit

/-- Reads a review, which has to be an object. Version and kind are looked at when all of it has
been read. -/
def read : Reader Review
  | depth, .object members closed => do
    let parts ← readMembers (← Source.enter depth) closed members {}
    let apiVersion ← onlyText "apiVersion" parts.others
    let kind ← onlyText "kind" parts.others
    return ⟨apiVersion, kind, parts.request.join⟩
  | _, s => .error s.refusal

end Review

end SparkAdmission.Admission
