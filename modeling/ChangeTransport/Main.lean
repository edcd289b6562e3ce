import ChangeTransport.Program

/-!
# The outer layer

Reads the words of the command line and the variables of the environment, and prints what the
program says.
-/

namespace ChangeTransport

/-- The variables of the environment that the program looks at. -/
def variableNames : List String :=
  [ "GCTS_HOST", "GCTS_CLIENT", "GCTS_REPOSITORY", "GCTS_USERNAME", "GCTS_PASSWORD",
    "GCTS_REMOTE_URL", "GCTS_VSID", "GCTS_COMMIT", "GCTS_GITHUB_TOKEN", "RUST_LOG" ]

/-- The environment as far as the program looks at it. -/
def readEnvironment : IO Environment :=
  variableNames.filterMapM (fun name => do
    let value ← IO.getEnv name
    pure (value.map (fun value => (name, value))))

end ChangeTransport

/-- Run the program. -/
def main (words : List String) : IO UInt32 := do
  let environment ← ChangeTransport.readEnvironment
  let exit := ChangeTransport.Program.exit environment words
  (← IO.getStdout).write ⟨exit.output.toArray⟩
  (← IO.getStderr).write ⟨exit.complaint.toArray⟩
  pure (UInt32.ofNat exit.status)
