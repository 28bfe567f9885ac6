import SparkAdmission.Settings
import SparkAdmission.SocketAddress
import SparkAdmission.Text.Terminal

/-!
# Options of the command line

A parameter is an option with a value, which the environment can give as well. A flag has none.
-/

namespace SparkAdmission.CommandLine

/-- What the environment holds, by the names of its variables. -/
abbrev Environment := String → Option String

/-- An option with a value. -/
inductive Parameter where
  | address
  | certificate
  | key
  | driverContainer
  | executorContainer
deriving DecidableEq, Repr

/-- An option without a value. -/
inductive Flag where
  /-- Print the definition of the application resource. -/
  | crd
  | help
  | version
deriving DecidableEq, Repr

/-- What holds where nothing else is said. -/
structure Defaults where
  address : SocketAddress
  certificate : String
  key : String

/-- The defaults: all addresses of this host, and where a certificate is usually mounted. -/
def defaults : Defaults :=
  ⟨⟨.v4 #v[0, 0, 0, 0], 8443⟩, "/etc/webhook-certs/tls.crt", "/etc/webhook-certs/tls.key"⟩

namespace Parameter

/-- The parameters in their order. -/
def all : List Parameter := [.address, .certificate, .key, .driverContainer, .executorContainer]

/-- The name on the command line. -/
def name : Parameter → String
  | .address => "addr"
  | .certificate => "tls-cert-file"
  | .key => "tls-key-file"
  | .driverContainer => "driver-container-name"
  | .executorContainer => "executor-container-name"

/-- The variable that can give the value. -/
def variableName : Parameter → String
  | .address => "WEBHOOK_ADDR"
  | .certificate => "WEBHOOK_TLS_CERT_FILE"
  | .key => "WEBHOOK_TLS_KEY_FILE"
  | .driverContainer => "SPARK_DRIVER_CONTAINER_NAME"
  | .executorContainer => "SPARK_EXECUTOR_CONTAINER_NAME"

/-- The text of the value that holds where none is given. -/
def defaultText : Parameter → String
  | .address => defaults.address.text
  | .certificate => defaults.certificate
  | .key => defaults.key
  | .driverContainer => (default : Settings).driverContainer
  | .executorContainer => (default : Settings).executorContainer

/-- What the value is. -/
def description : Parameter → String
  | .address => "Address the HTTPS server listens on"
  | .certificate => "PEM serving certificate"
  | .key => "PEM private key for the serving certificate"
  | .driverContainer => "Name of the Spark container in driver pods"
  | .executorContainer => "Name of the Spark container in executor pods"

/-- What stands for the value in texts. -/
def placeholder (p : Parameter) : String :=
  String.ofList (p.name.toList.map fun c => if c = '-' then '_' else c.toUpper)

/-- The option as it is written. -/
def option (p : Parameter) : String := "--" ++ p.name

/-- What stands for the value behind the option. -/
def valueName (p : Parameter) : String := "<" ++ p.placeholder ++ ">"

/-- How the parameter is written. -/
def usage (p : Parameter) : String := p.option ++ " " ++ p.valueName

/-- The parameter of that name. -/
def ofName? (name : String) : Option Parameter := all.find? (·.name == name)

end Parameter

namespace Flag

/-- The flags in their order. -/
def all : List Flag := [.crd, .help, .version]

/-- The name on the command line. -/
def name : Flag → String
  | .crd => "crd"
  | .help => "help"
  | .version => "version"

/-- The short form, if there is one. -/
def letter? : Flag → Option Char
  | .crd => none
  | .help => some 'h'
  | .version => some 'V'

/-- What the flag does. -/
def description : Flag → String
  | .crd => "Print the SparkApplication CRD manifest and exit"
  | .help => "Print help"
  | .version => "Print version"

/-- How the flag is written. -/
def usage (f : Flag) : String := "--" ++ f.name

/-- The flag of that name. -/
def ofName? (name : String) : Option Flag := all.find? (·.name == name)

/-- The flag of that letter. -/
def ofLetter? (c : Char) : Option Flag := all.find? (·.letter? == some c)

end Flag

/-! ### Help -/

/-- The name of the program. -/
def programName : String := "spark-pod-webhook"

/-- What is printed for the version. -/
def versionText : String := programName ++ " 0.1.0\n"

/-- Where the text of an option starts. -/
def indent : String := "          "

/-- A text on the lines of its own, indented. -/
def indented (text : String) : String :=
  indent ++ ("\n" ++ indent).intercalate (text.splitOn "\n")

/-- A parameter in the help: its text, what the environment gives, and the default. -/
def Parameter.helpText (p : Parameter) (environment : Environment) : String :=
  "      " ++ Text.styled p.option ++ " " ++ p.valueName ++ "\n" ++
    indented (p.description ++ " [env: " ++ p.variableName ++ "=" ++
      (environment p.variableName).getD "" ++ "] [default: " ++ p.defaultText ++ "]") ++ "\n"

/-- A flag in the help. -/
def Flag.helpText (f : Flag) : String :=
  let short := match f.letter? with
    | some c => "  " ++ Text.styled ("-" ++ String.singleton c) ++ ", "
    | none => "      "
  short ++ Text.styled f.usage ++ "\n" ++ indented f.description ++ "\n"

/-- The help on a terminal. -/
def styledHelp (environment : Environment) : String :=
  "Mutating admission webhook for Spark driver and executor pods\n\n" ++ Text.styled "Usage:" ++
    " " ++ Text.styled programName ++ " [OPTIONS]\n\n" ++ Text.styled "Options:" ++ "\n" ++
    Flag.helpText .crd ++ String.join (Parameter.all.map (·.helpText environment)) ++
    Flag.helpText .help ++ Flag.helpText .version

/-- What is printed for help. -/
def helpText (environment : Environment) : String := Text.plain (styledHelp environment)

end SparkAdmission.CommandLine
