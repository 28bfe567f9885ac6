import SparkAdmission.CommandLine.Parameter

/-!
# Reading the command line

Arguments are read one after the other. The value of a parameter stands behind an equals sign or
in the next argument; in the latter case it is looked at when the next option comes, or at the
end, and not at all when the next argument is no option that there is. What the command line does
not say the environment says, and then the defaults.
-/

namespace SparkAdmission.CommandLine

/-- Why the options cannot be read. -/
inductive UsageError where
  /-- A parameter without a value, or with an empty one where a path is needed. -/
  | missingValue (p : Parameter)
  /-- An option that is given twice, as it is written. -/
  | repeated (usage : String)
  /-- The value of the address is none. -/
  | badAddress (text : String)
  /-- A flag with a value. -/
  | unexpectedValue (flag : Flag) (text : String)
  /-- An argument that is no option. -/
  | unknownArgument (text : String)
deriving DecidableEq, Repr

/-- What is said of the error on a terminal. -/
def UsageError.styledMessage : UsageError → String
  | .missingValue p => "error: a value is required for '" ++ p.usage ++ "' but none was supplied"
  | .repeated usage => "error: the argument '" ++ usage ++ "' cannot be used multiple times"
  | .badAddress text =>
    "error: invalid value '" ++ Text.styled text ++ "' for '" ++ Parameter.address.usage ++
      "': invalid socket address syntax"
  | .unexpectedValue flag text =>
    "error: unexpected value '" ++ Text.styled text ++ "' for '" ++ flag.usage ++
      "' found; no more were expected"
  | .unknownArgument text => "error: unexpected argument '" ++ Text.styled text ++ "' found"

/-- What is said of the error. -/
def UsageError.message (e : UsageError) : String := Text.plain e.styledMessage

/-- Why the reading of the command line ends before its end. -/
inductive Interruption where
  | help
  | version
  | error (e : UsageError)
deriving DecidableEq, Repr

/-- What the program is told. -/
structure Options where
  crd : Bool
  address : SocketAddress
  certificate : String
  key : String
  driverContainer : String
  executorContainer : String
deriving DecidableEq

/-- The settings for patches. -/
def Options.settings (o : Options) : Settings :=
  { driverContainer := o.driverContainer, executorContainer := o.executorContainer }

/-! ### What has been said so far -/

/-- The options that have been given so far. -/
structure Given where
  crd : Bool := false
  address : Option SocketAddress := none
  certificate : Option String := none
  key : Option String := none
  driverContainer : Option String := none
  executorContainer : Option String := none

namespace Given

/-- Whether the parameter has been given. -/
def has (g : Given) : Parameter → Bool
  | .address => g.address.isSome
  | .certificate => g.certificate.isSome
  | .key => g.key.isSome
  | .driverContainer => g.driverContainer.isSome
  | .executorContainer => g.executorContainer.isSome

/-- A path, which is not empty. -/
def path (p : Parameter) (text : String) : Except UsageError String :=
  if text = "" then .error (.missingValue p) else .ok text

/-- Gives a parameter its value. -/
def put (g : Given) (text : String) : Parameter → Except UsageError Given
  | .address =>
    match SocketAddress.parse? text with
    | some a => .ok { g with address := some a }
    | none => .error (.badAddress text)
  | .certificate => (path .certificate text).map fun v => { g with certificate := some v }
  | .key => (path .key text).map fun v => { g with key := some v }
  | .driverContainer => .ok { g with driverContainer := some text }
  | .executorContainer => .ok { g with executorContainer := some text }

/-- Gives a parameter its value on the command line, where it may stand once. -/
def putOnce (g : Given) (p : Parameter) (text : String) : Except UsageError Given :=
  if g.has p then .error (.repeated p.usage) else g.put text p

/-- Sets the flag that asks for the definition of the resource, which may stand once. -/
def putCrd (g : Given) : Except UsageError Given :=
  if g.crd then .error (.repeated Flag.crd.usage) else .ok { g with crd := true }

/-- Gives the parameters that are missing the values that the environment holds. -/
def fill (g : Given) (environment : Environment) : Except UsageError Given :=
  Parameter.all.foldlM (fun g p =>
    match environment p.variableName with
    | some text => if g.has p then .ok g else g.put text p
    | none => .ok g) g

/-- The options, with the defaults for what is missing. -/
def options (g : Given) : Options where
  crd := g.crd
  address := g.address.getD defaults.address
  certificate := g.certificate.getD defaults.certificate
  key := g.key.getD defaults.key
  driverContainer := g.driverContainer.getD (default : Settings).driverContainer
  executorContainer := g.executorContainer.getD (default : Settings).executorContainer

end Given

/-! ### Arguments -/

/-- What an argument looks like. -/
inductive Argument where
  /-- Two dashes: no options follow. -/
  | separator
  /-- Two dashes, a name, and a value behind an equals sign perhaps. -/
  | long (name : String) (value : Option String)
  /-- A dash and letters, of which the first counts. -/
  | short (letter : Char)
  | word
deriving DecidableEq, Repr

/-- What an argument looks like. -/
def Argument.of (text : String) : Argument :=
  match text.toList with
  | ['-', '-'] => .separator
  | '-' :: '-' :: cs =>
    let value := match cs.dropWhile (· != '=') with
      | _ :: value => some (String.ofList value)
      | [] => none
    .long (String.ofList (cs.takeWhile (· != '='))) value
  | '-' :: c :: _ => .short c
  | _ => .word

/-- A parameter whose value is not looked at yet, and that value when it has been met. -/
structure Pending where
  parameter : Parameter
  value : Option String

/-- How far the command line has been read. -/
structure Progress where
  given : Given := {}
  pending : Option Pending := none
  /-- Whether no options follow. -/
  separated : Bool := false

namespace Progress

/-- Looks at the pending value. -/
def settle (s : Progress) : Except UsageError Given :=
  match s.pending with
  | none => .ok s.given
  | some ⟨p, none⟩ => .error (.missingValue p)
  | some ⟨p, some text⟩ => s.given.putOnce p text

/-- A flag. -/
def flag (s : Progress) (f : Flag) : Except Interruption Given := do
  let given ← s.settle.mapError .error
  match f with
  | .crd => given.putCrd.mapError .error
  | .help => throw .help
  | .version => throw .version

/-- The progress behind one more argument. -/
def next (s : Progress) (text : String) : Except Interruption Progress :=
  let unknown (text : String) : Except Interruption Progress :=
    .error (.error (.unknownArgument text))
  if s.separated then unknown text
  else
    match Argument.of text with
    | .separator => .ok { s with separated := true }
    | .long name value =>
      match Parameter.ofName? name, Flag.ofName? name, value with
      | some p, _, none => do
        let given ← s.settle.mapError .error
        return { given, pending := some ⟨p, none⟩ }
      | some p, _, some value => do
        let given ← s.settle.mapError .error
        let given ← (given.putOnce p value).mapError .error
        return { given }
      | none, some f, none => do
        let given ← s.flag f
        return { given }
      | none, some f, some value => .error (.error (.unexpectedValue f value))
      | none, none, _ => unknown ("--" ++ name)
    | .short c =>
      match Flag.ofLetter? c with
      | some f => do
        let given ← s.flag f
        return { given }
      | none => unknown ("-" ++ String.singleton c)
    | .word =>
      match s.pending with
      | some ⟨p, none⟩ => .ok { s with pending := some ⟨p, some text⟩ }
      | _ => unknown text

end Progress

/-- The options that arguments and environment give. -/
def read (arguments : List String) (environment : Environment) : Except Interruption Options := do
  let last ← arguments.foldlM Progress.next {}
  let given ← last.settle.mapError .error
  let given ← (given.fill environment).mapError .error
  return given.options

end SparkAdmission.CommandLine
