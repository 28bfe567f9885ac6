import SparkAdmission.CommandLine.Options
import SparkAdmission.Definition
import SparkAdmission.Error
import SparkAdmission.Yaml

/-!
# The program

What the program prints, and with which code it exits, up to the point where it would listen: it
answers questions about itself, prints the definition of the application resource, and needs a
cluster and a certificate to go on.
-/

namespace SparkAdmission.Program

open CommandLine

/-- What a run leaves behind. -/
structure Outcome where
  exit : Nat
  output : String := ""
  errors : String := ""
deriving DecidableEq, Repr

/-- The error that the certificate is not there. -/
def missingCertificate (certificate key : String) : Error :=
  .tls ("failed to load " ++ certificate ++ " / " ++ key ++ ": failed to read from file \x60" ++
    certificate ++ "\x60: No such file or directory (os error 2)")

/-- A failure behind the command line. -/
def failure (message : String) : Outcome := { exit := 1, errors := "Error: " ++ message ++ "\n" }

/-- What comes of asking the program for something else than to serve. -/
def interrupted (environment : Environment) : Interruption → Outcome
  | .help => { exit := 0, output := helpText environment }
  | .version => { exit := 0, output := versionText }
  | .error e =>
    { exit := 2, errors := e.message ++ "\n\nFor more information, try '--help'.\n" }

/-- A run with these arguments, where a cluster is configured or not and no certificate is there. -/
def run (arguments : List String) (environment : Environment) (cluster : Bool) : Outcome :=
  match read arguments environment with
  | .error i => interrupted environment i
  | .ok options =>
    if options.crd then { exit := 0, output := Yaml.render Application.definition ++ "\n" }
    else if cluster then failure (missingCertificate options.certificate options.key).message
    else failure "Failed to create Kubernetes client"

end SparkAdmission.Program
