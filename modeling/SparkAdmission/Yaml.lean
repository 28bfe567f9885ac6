import SparkAdmission.Json.Printer

/-!
# Documents in YAML

A JSON value in block style: a member or item on a line of its own, members two blanks deeper than
their object, and the items of a list as deep as its key. Empty objects and lists stay on the line.
-/

namespace SparkAdmission.Yaml

/-- The words that, without quotes, are read as something else than a text. -/
def reservedWords : List String :=
  ["true", "True", "TRUE", "false", "False", "FALSE", "null", "Null", "NULL", ".inf", ".Inf",
    ".INF", ".nan", ".NaN", ".NAN", "y", "Y", "n", "N", "yes", "Yes", "YES", "no", "No", "NO", "on",
    "On", "ON", "off", "Off", "OFF"]

/-- Whether a colon or a number sign in the text would be read as the end of a key or of a text. -/
def breaksOff : List Char → Bool
  | [] => false
  | [c] => c = ':' || c = ' '
  | a :: b :: rest => (a = ':' && b = ' ') || (a = ' ' && b = '#') || breaksOff (b :: rest)

/-- Whether a text can stand without quotes. -/
def isPlain (s : String) : Bool :=
  (s.toList.head?.any fun c => c.isAlpha || c = '.' || c = '/') && !reservedWords.contains s &&
    s.toList.all (' ' ≤ ·) && !breaksOff s.toList

/-- A text: without quotes if it can, else between quotes. -/
def text (s : String) : String := if isPlain s then s else String.ofList (Json.quote s)

/-- A value that takes no line of its own. -/
def inline? : Json → Option String
  | .null => some "null"
  | .bool b => some (toString b)
  | .number n => some (String.ofList (Json.printNumber n))
  | .string s => some (text s)
  | .array [] => some "[]"
  | .object [] => some "\x7b\x7d"
  | .array _ | .object _ => none

/-- The lines, two blanks deeper. -/
def deeper (lines : List String) : List String := lines.map ("  " ++ ·)

/-- The lines of an item. -/
def item (lines : List String) : List String :=
  match lines with
  | [] => []
  | first :: rest => ("- " ++ first) :: deeper rest

mutual

/-- The lines of a value. -/
def lines : Json → List String
  | .array (x :: xs) => itemLines (x :: xs)
  | .object (m :: ms) => memberLines (m :: ms)
  | j => (inline? j).toList

/-- The lines of the items of a list. -/
def itemLines : List Json → List String
  | [] => []
  | x :: xs => item (lines x) ++ itemLines xs

/-- The lines of the members of an object. -/
def memberLines : List (String × Json) → List String
  | [] => []
  | (name, x) :: ms =>
    let head := text name ++ ":"
    let here := match inline? x with
      | some t => [head ++ " " ++ t]
      | none => head :: (match x with
        | .array _ => lines x
        | _ => deeper (lines x))
    here ++ memberLines ms

end

/-- The text of a document. -/
def render (j : Json) : String := String.join ((lines j).map (· ++ "\n"))

end SparkAdmission.Yaml
