/-!
# Text for a terminal

A terminal takes some characters for commands. `styled` puts a text in bold type by such commands,
and `plain` says what is left of a text where there is no terminal: commands go, with all that
belongs to them, and so do other control characters, except those that separate words and lines.
A command that is broken off by the next one goes up to there.
-/

namespace SparkAdmission.Text

/-- What a terminal is in the midst of. -/
inductive Terminal where
  /-- Text. -/
  | text
  /-- Behind the character that starts a command. -/
  | escape
  /-- A short command, of which only the last character is missing. -/
  | sign
  /-- A command of the screen: parameters up to a letter. -/
  | sequence
  /-- A command of a device, before its parameters. -/
  | device
  /-- The parameters of a command of a device. -/
  | parameters
  /-- Behind the parameters of a command of a device. -/
  | deviceSign
  /-- A string for a device. -/
  | string
  /-- A string for the system, such as the title of the window. -/
  | title
deriving DecidableEq, Repr

namespace Terminal

/-- The control characters that separate words and lines. -/
def isGap (c : Char) : Bool := c = '\t' || c = '\n' || c = '\x0c' || c = '\r'

/-- Whether the character is left where commands go. A separator ends a command of the screen, and
is no part of it. -/
def leaves (c : Char) : Terminal → Bool
  | text => isGap c || (' ' ≤ c && c != '\x7f')
  | escape | sign | sequence => isGap c
  | device | parameters | deviceSign | string | title => false

/-- Whether the character has the byte `9C` in it, which ends a string for a device. -/
def endsString (c : Char) : Bool := (String.utf8EncodeChar c).contains 0x9C

/-- The state behind a character that goes. -/
def next (c : Char) (state : Terminal) : Terminal :=
  if c = '\x1b' then escape
  else if c = '\x18' ∨ c = '\x1a' then text
  else
    match state with
    | text => text
    | escape =>
      if ' ' ≤ c ∧ c ≤ '/' then sign
      else if c = '[' then sequence
      else if c = ']' then title
      else if c = 'P' then device
      else if c = 'X' ∨ c = '^' ∨ c = '_' then string
      else if '0' ≤ c ∧ c ≤ '~' then text
      else escape
    | sign => if '0' ≤ c ∧ c ≤ '~' then text else sign
    | sequence => if '@' ≤ c ∧ c ≤ '~' then text else sequence
    | device =>
      if ' ' ≤ c ∧ c ≤ '/' then deviceSign
      else if '0' ≤ c ∧ c ≤ '?' then parameters
      else if '@' ≤ c ∧ c ≤ '~' then string
      else device
    | parameters =>
      if ' ' ≤ c ∧ c ≤ '/' then deviceSign
      else if '<' ≤ c ∧ c ≤ '~' then string
      else parameters
    | deviceSign => if '0' ≤ c ∧ c ≤ '~' then string else deviceSign
    | string => if endsString c then text else string
    | title => if c = '\x07' then text else title

/-- The characters that are left of a text. -/
def left : Terminal → List Char → List Char
  | _, [] => []
  | state, c :: cs =>
    if state.leaves c then c :: left .text cs else left (state.next c) cs

end Terminal

/-- What is left of a text where there is no terminal. -/
def plain (s : String) : String := String.ofList (Terminal.left .text s.toList)

/-- A text in bold type. -/
def styled (s : String) : String := "\x1b[1m" ++ s ++ "\x1b[0m"

end SparkAdmission.Text
