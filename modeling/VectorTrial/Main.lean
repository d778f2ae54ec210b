import VectorTrial.CommandLine.Session
import VectorTrial.Operand.Keystream

/-!
# The command line

The program on this machine. It starts no tools, so a run ends where the first one is needed; the
catalog, the usage and all refusals of arguments are complete.

## Main definitions

* `main` — the program.
-/

namespace VectorTrial

/-- The variables that the program reads. -/
def variableNames : List String :=
  AliveTv.pathVariable :: Toolchain.Settings.pathVariables ++
    [Telemetry.Settings.profileVariable, Telemetry.Settings.directivesVariable,
      Telemetry.Settings.formatVariable, Telemetry.Settings.performanceVariable,
      Telemetry.Settings.thresholdVariable]

/-- Surroundings in which no tool can be found or started. -/
def isolated (environment : Environment) (seed : UInt64) :
    CommandLine.Surroundings Keystream Unit where
  environment := environment
  host := .avx2
  search _ := none
  start _ w := (.error noSuchFile, w)
  load := .error noSuchFile
  directory := "."
  source := .ofSeed seed
  elapsed := .zero
  terminal := false

/-- The values of the variables that are set. -/
def readEnvironment (names : List String) : IO Environment :=
  names.filterMapM fun name => do
    return (← IO.getEnv name).map fun value => (name, value)

end VectorTrial

/-- The program: reads its variables, and writes what the session leaves. -/
def main (args : List String) : IO UInt32 := do
  let environment ← VectorTrial.readEnvironment VectorTrial.variableNames
  let seed ← IO.rand 0 (UInt64.size - 1)
  let session :=
    VectorTrial.CommandLine.execute (VectorTrial.isolated environment (UInt64.ofNat seed)) () args
  (← IO.getStdout).putStr session.output.stdout
  (← IO.getStderr).putStr session.output.stderr
  return UInt32.ofNat session.exit
