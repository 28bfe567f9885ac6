import SparkAdmission.Program

/-!
# The command

Runs the program with the arguments and the environment of the process.
-/

namespace SparkAdmission.Program

/-- The variables that tell of a cluster. -/
def clusterVariables : List String := ["KUBECONFIG", "KUBERNETES_SERVICE_HOST"]

/-- The variables that are looked at. -/
def variableNames : List String :=
  CommandLine.Parameter.all.map (·.variableName) ++ clusterVariables

end SparkAdmission.Program

/-- Prints what comes of a run, and exits with its code. -/
def main (arguments : List String) : IO UInt32 := do
  let values ← SparkAdmission.Program.variableNames.filterMapM fun name => do
    return (← IO.getEnv name).map (name, ·)
  let cluster := SparkAdmission.Program.clusterVariables.any fun name =>
    (values.lookup name).isSome
  let outcome := SparkAdmission.Program.run arguments (values.lookup ·) cluster
  (← IO.getStdout).putStr outcome.output
  (← IO.getStderr).putStr outcome.errors
  return .ofNat outcome.exit
