import TableBench.CommandLine.Command

namespace TableBench.CommandLine

def programName : String := "dynamodb-bench-tool"

def groupName : String := "kvbench"

def versionText : String := programName ++ ", version 0.1.0\n"

structure Ending where
  exitCode : Nat
  out : String
  err : String
  failure : Option Failure
  world : World Float

/-- An ending that never reached a command. -/
def Ending.early (w : World Float) (exitCode : Nat) (out err : String) : Ending :=
  { exitCode, out, err, failure := none, world := w }

def Ending.usage (w : World Float) (p : UsageProblem) (command takes : String) : Ending :=
  .early w 2 "" (p.complaint command takes)

/-- The value that the environment gives to an option; an empty one is none. -/
def standIn (e : Environment) (p : Parameter) : Option String := do
  let value ← e.values.lookup (← p.variableName)
  if value.isEmpty then none else some value

/-- Options without repetition, in the order of their first mention. -/
def mentioned (parsed : Parsed) : List Parameter :=
  parsed.mentions.foldl (fun ps m =>
    if ps.any (·.names == m.1.names) then ps else ps ++ [m.1]) []

/-- Applies changes one after the other, up to the first problem. -/
def applyAll (changes : List (Except UsageProblem (Invocation → Invocation))) (i : Invocation) :
    Except UsageProblem Invocation :=
  changes.foldlM (fun i change => return (← change) i) i

/-- The keys of a command among its arguments, and the arguments left over. -/
def takeKeys : Takes → List String → Except UsageProblem (List String × List String)
  | .nothing, words => .ok ([], words)
  | .key, [] => .error (.missingArgument (Takes.display .key))
  | .key, word :: words => .ok ([word], words)
  | .keys, [] => .error (.missingArgument (Takes.display .keys))
  | .keys, words => .ok (words, [])

/-- Reads the command line of a command: mentioned options come first, then the keys, then the
environment. -/
def Command.invocation (c : Command) (e : Environment) (words : List String) :
    Except UsageProblem Invocation := do
  let parsed ← parse c.options true words
  let first := mentioned parsed
  let i ← applyAll (first.map fun p => Parsed.change p (parsed.of p)) {}
  let (keys, rest) ← takeKeys c.takes parsed.arguments
  let others := c.options.filter fun p => !first.any (·.names == p.names)
  let i ←
    applyAll (others.map fun p => ((standIn e p).map p.ofValue).getD (.ok id)) { i with keys }
  if rest.isEmpty then return i else throw (.extraArguments rest)

/-- Log records as lines, from the level of the verbosity on. -/
def logLines (verbosity : Nat) (time : String) (rs : List LogRecord) : String :=
  String.join ((rs.filter (·.reaches (Level.ofVerbosity verbosity))).map (·.line time))

def runCommand (w : World Float) (payloads : Payloads) (time : String) (c : Command)
    (words : List String) : Ending :=
  match c.invocation w.environment words with
  | .error p =>
    let takes := if c.takes = .nothing then "" else " " ++ c.takes.display
    .usage w p (programName ++ " " ++ groupName ++ " " ++ c.name) ("[OPTIONS]" ++ takes)
  | .ok i =>
    match c.run i payloads w with
    | .ok r w => .early w r.code r.out (logLines i.verbosity time w.logs ++ r.err)
    | .error f world =>
      { exitCode := 1, out := "", err := logLines i.verbosity time world.logs
        failure := some f, world }

def groupTakes : String := "[OPTIONS] COMMAND [ARGS]..."

/-- Finds what the first word names, and the words after it. An option of the group counts more
than any command, also where it stands in the place of one. -/
def splitCommand {α : Type} (ps : List Parameter) (named? : String → Option α)
    (words : List String) : Except UsageProblem (Option (α × List String)) := do
  let parsed ← parse ps false words
  if !parsed.mentions.isEmpty then return none
  match parsed.arguments with
  | [] => throw .missingCommand
  | word :: rest =>
    match named? word with
    | some a => return some (a, rest)
    | none =>
      let misplaced ← parse ps false (word :: rest)
      if misplaced.mentions.isEmpty then throw (.unknownCommand word) else return none

def runGroup (w : World Float) (payloads : Payloads) (time : String) (words : List String) :
    Ending :=
  let failed (p : UsageProblem) := Ending.usage w p (programName ++ " " ++ groupName) groupTakes
  match splitCommand [] Command.ofName? words with
  | .error p => failed p
  | .ok none => failed .missingCommand
  | .ok (some (c, rest)) => runCommand w payloads time c rest

/-- Runs the program: payloads by size and position, and the time that log lines carry. -/
def run (w : World Float) (payloads : Payloads) (time : String) (words : List String) : Ending :=
  let group? (word : String) := if word = groupName then some () else none
  match splitCommand [Options.version] group? words with
  | .error p => .usage w p programName groupTakes
  | .ok none => .early w 0 versionText ""
  | .ok (some (_, rest)) => runGroup w payloads time rest

end TableBench.CommandLine
