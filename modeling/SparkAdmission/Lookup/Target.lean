import SparkAdmission.Application
import SparkAdmission.Lookup.Error

/-!
# Request targets

An application is looked up under the path of its namespace and name. Both are put into the path
as they are, so the target may end before them, at a `#`, and may hold a query.
-/

namespace SparkAdmission

/-- The namespace and name by which an application is looked up. -/
structure ApplicationRef where
  namespaceName : String
  name : String
deriving DecidableEq, Repr

namespace ApplicationRef

/-- The path of the application, before it is checked and its fragment dropped. -/
def path (ref : ApplicationRef) : String :=
  "/apis/" ++ Application.apiVersion ++ "/namespaces/" ++ ref.namespaceName ++ "/" ++
    Application.plural ++ "/" ++ ref.name

/-- The characters that may stand in front of a query. -/
def isPathChar (c : Char) : Bool :=
  ' ' < c && c != '\x7f' && c != '<' && c != '>' && c != '\x60'

/-- The characters that may stand in a query. -/
def isQueryChar (c : Char) : Bool :=
  ' ' < c && c != '\x7f' && c != '<' && c != '>' && c != '"'

/-- What a text says in front of its fragment. -/
def withoutFragment (cs : List Char) : List Char := cs.takeWhile (· != '#')

/-- Whether path and query of a text without fragment hold only characters that may stand there. -/
def isTarget (cs : List Char) : Bool :=
  (cs.takeWhile (· != '?')).all isPathChar && (cs.dropWhile (· != '?')).all isQueryChar

/-- The greatest number of bytes of a request target, with its fragment. -/
def maxTargetBytes : Nat := 65534

/-- The request target, or why there is none. -/
def target (ref : ApplicationRef) : Except LookupError String :=
  let cs := withoutFragment ref.path.toList
  if ref.name = "" then .error .emptyName
  else if maxTargetBytes < ref.path.utf8ByteSize then .error .longTarget
  else if isTarget cs then .ok (String.ofList cs)
  else .error .invalidTarget

end ApplicationRef

end SparkAdmission
