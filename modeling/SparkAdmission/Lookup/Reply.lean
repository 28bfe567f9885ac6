import SparkAdmission.Application
import SparkAdmission.Http.Status
import SparkAdmission.Lookup.Error

/-!
# Replies

What the API server answers to a lookup, and what the answer says about the application. An
application is missing when a status says so by its reason, whatever its code. What is wrong with a
body that cannot be read is told in words that are not fixed here: a `Complaint` has them.
-/

namespace SparkAdmission

/-- The answer to a lookup. -/
inductive Reply where
  /-- A response with its status code and the bytes of its body. -/
  | response (status : Nat) (body : ByteArray)
  /-- No whole response. -/
  | failure (what : String)

/-- What is said of a body that is no text, or is no application. -/
abbrev Complaint := ByteArray → String

namespace ApiStatus

/-- The reason of a status that says that there is no such object. -/
def notFound : String := "NotFound"

/-- The parts of a status that have been read. -/
structure Parts where
  status : Option String := none
  message : String := ""
  reason : String := ""
  code : Option Int := none

/-- The fields in their order. -/
def fields : List (RecordField Parts) := [
  .of "status" Reader.string fun p v => { p with status := some v },
  .of "message" Reader.string fun p v => { p with message := v },
  .of "reason" Reader.string fun p v => { p with reason := v },
  .of "code" (Reader.whole 0 65535) fun p v => { p with code := some v }]

/-- Reads a status; `status` and `code` are required. -/
def read : Reader ApiStatus := fun depth source => do
  let parts ← Record.read fields {} depth source
  let status ← Record.required parts.status
  let code ← Record.required parts.code
  return ⟨status, parts.message, parts.reason, code.toNat⟩

/-- The status that stands for an error whose body tells none. -/
def ofBody (status : Nat) (body : String) : ApiStatus :=
  ⟨Http.statusLine status, Text.quoted body, "Failed to parse error data", status⟩

/-- The status of an error. -/
def ofResponse (status : Nat) (body : String) : ApiStatus :=
  match Reader.text read body with
  | .ok s => s
  | .error _ => ofBody status body

end ApiStatus

namespace Reply

/-- The application that a reply tells of, or that there is none. The body is a text in either case,
whatever the status. -/
def application (complaint : Complaint) : Reply → Except LookupError (Option Application)
  | .failure what => .error (.transport what)
  | .response status body =>
    match String.fromUTF8? body with
    | none => .error (.undecodable (complaint body))
    | some text =>
      if Http.isError status then
        let s := ApiStatus.ofResponse status text
        if s.reason = ApiStatus.notFound then .ok none else .error (.api s)
      else
        match Reader.text Application.read text with
        | .ok app => .ok (some app)
        | .error _ => .error (.unreadable (complaint body))

end Reply

end SparkAdmission
