/-!
# Requests and responses

What of an HTTP exchange matters here.
-/

namespace SparkAdmission.Http

/-- A request. -/
structure Request where
  method : String
  /-- The path, with a query perhaps, and with scheme and authority in front of it perhaps. -/
  target : String
  headers : List (String × String)
  body : String
deriving Repr

namespace Request

/-- The characters of a scheme. -/
def isSchemeChar (c : Char) : Bool := c.isAlphanum || c = '+' || c = '-' || c = '.'

/-- The characters that end an authority. -/
def endsAuthority (c : Char) : Bool := c = '/' || c = '?' || c = '#'

/-- A target without its scheme and authority, if it has them. -/
def withoutAuthority (target : List Char) : List Char :=
  match target.dropWhile isSchemeChar with
  | ':' :: '/' :: '/' :: rest => rest.dropWhile fun c => !endsAuthority c
  | _ => target

/-- The path, between the authority and the query. -/
def path (r : Request) : String :=
  String.ofList ((withoutAuthority r.target.toList).takeWhile fun c => c != '?' && c != '#')

/-- The value of the first header of that name, which is given in lower case. -/
def header? (r : Request) (name : String) : Option String :=
  (r.headers.find? fun h => String.ofList (h.1.toList.map Char.toLower) == name).map (·.2)

end Request

/-- A response. -/
structure Response where
  status : Nat
  contentType : Option String := none
  /-- The methods that are allowed, where the method of the request is not. -/
  allow : Option String := none
  body : String := ""
deriving DecidableEq, Repr

namespace Response

/-- A response that says so much in plain text. -/
def text (status : Nat) (body : String) : Response :=
  { status, contentType := some "text/plain; charset=utf-8", body }

/-- A successful response with a JSON document. -/
def json (body : String) : Response :=
  { status := 200, contentType := some "application/json", body }

end Response

end SparkAdmission.Http
