/-!
# Media types

What a `Content-Type` header says: a type, a subtype with a suffix perhaps, and parameters. The
parameters have no meaning here, but they have to be well-formed.
-/

namespace SparkAdmission.Http

/-- The characters of a token. -/
def isTokenChar (c : Char) : Bool := c.isAlphanum || "!#$%&'*+-.^_\x60|~".toList.contains c

/-- The characters that may stand between quotes. -/
def isQuotedChar (c : Char) : Bool := ' ' ≤ c && c ≤ '~'

/-! ### Parameters -/

/-- Where a reader of parameters is. -/
inductive ParameterState where
  /-- In front of a parameter. -/
  | start
  | name
  /-- Behind an equals sign. -/
  | equals
  | value
  /-- Behind an opening quote. -/
  | opened
  | quoted
  /-- Behind a closing quote. -/
  | closed
deriving DecidableEq, Repr

namespace ParameterState

/-- The state behind one more character. The first character between quotes is never a closing
quote. -/
def next? (c : Char) : ParameterState → Option ParameterState
  | .start => if c = ' ' then some .start else if isTokenChar c then some .name else none
  | .name => if c = '=' then some .equals else if isTokenChar c then some .name else none
  | .equals => if c = '"' then some .opened else if isTokenChar c then some .value else none
  | .value => if c = ';' then some .start else if isTokenChar c then some .value else none
  | .opened => if isQuotedChar c then some .quoted else none
  | .quoted => if c = '"' then some .closed else if isQuotedChar c then some .quoted else none
  | .closed => if c = ';' then some .start else if c = ' ' then some .closed else none

/-- Whether a list of parameters may end here. -/
def mayEnd : ParameterState → Bool
  | .start | .equals | .value | .closed => true
  | .name | .opened | .quoted => false

end ParameterState

/-- Whether these are parameters, as they stand behind a semicolon. -/
def areParameters (cs : List Char) : Bool :=
  (cs.foldlM (fun state c => ParameterState.next? c state) .start).any ParameterState.mayEnd

/-! ### Types -/

/-- A type and its subtype, in lower case. -/
structure MediaType where
  type : String
  subtype : String
  /-- What stands behind the last plus sign of the subtype, unless that sign comes first. -/
  suffix : Option String
deriving DecidableEq, Repr

namespace MediaType

/-- The characters as a text in lower case. -/
def lower (cs : List Char) : String := String.ofList (cs.map Char.toLower)

/-- The media type of this type and subtype. -/
def of (type subtype : List Char) : MediaType :=
  let reversed := subtype.reverse
  match reversed.dropWhile (· != '+') with
  | _ :: c :: cs =>
    ⟨lower type, lower (c :: cs).reverse, some (lower (reversed.takeWhile (· != '+')).reverse)⟩
  | _ => ⟨lower type, lower subtype, none⟩

/-- The media type that a header says. -/
def parse? (header : String) : Option MediaType :=
  let cs := header.toList
  let type := cs.takeWhile isTokenChar
  match cs.dropWhile isTokenChar with
  | '/' :: cs =>
    let subtype := cs.takeWhile isTokenChar
    if type.isEmpty || subtype.isEmpty then none
    else
      match cs.dropWhile isTokenChar with
      | [] => some (of type subtype)
      | ';' :: cs => if areParameters cs then some (of type subtype) else none
      | _ => none
  | _ => none

/-- Whether documents of this type are JSON. -/
def isJson (m : MediaType) : Bool :=
  m.type == "application" && (m.subtype == "json" || m.suffix == some "json")

end MediaType

end SparkAdmission.Http
