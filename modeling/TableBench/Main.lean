import TableBench.CommandLine.Program
import TableBench.Document.Reader

namespace TableBench

def variableNames : List String :=
  "DISCOVERY_ENV" ::
    (CommandLine.Command.all.flatMap fun c => c.options.filterMap (·.variableName)).eraseDups

def processEnvironment : IO Environment := do
  let values ← variableNames.filterMapM fun name => do
    return (← IO.getEnv name).map (name, ·)
  return { values, profiles := [("default", true)] }

/-- Runs the program with as many answers as it asks for, one JSON text on each line of the
input. -/
partial def replay (words : List String) (w : World Float) : IO CommandLine.Ending := do
  let ending := CommandLine.run w (fun size => Payload.stream size 0) "now" words
  match ending.failure with
  | some (.scriptEnded _) =>
    let line ← (← IO.getStdin).getLine
    match Document.read? line with
    | some d => replay words { w with script := w.script ++ [⟨.ok d, 0⟩] }
    | none => return ending
  | _ => return ending

end TableBench

/-- Runs the program on the answers of a store that stand in the input. -/
def main (words : List String) : IO UInt32 := do
  let environment ← TableBench.processEnvironment
  let ending ← TableBench.replay words
    { environment, clock := 0, source := { value := fun _ => "" } }
  IO.print ending.out
  IO.eprint ending.err
  return ending.exitCode.toUInt32
