import TableBench.Text.Quoted
import TableBench.Text.Unstyled

namespace TableBench.CommandLine

inductive UsageProblem where
  | missingCommand
  | unknownCommand (name : String)
  | unknownOption (name : String)
  | missingArgument (display : String)
  | extraArguments (arguments : List String)
  | notInteger (option value : String)
  | notDecimal (option value : String)
  | notBoolean (option value : String)
  | valueMissing (option : String)
  | valueUnwanted (option : String)
  deriving DecidableEq, Repr

def booleanWords : List (String × Bool) :=
  [("", false), ("0", false), ("1", true), ("f", false), ("false", false), ("n", false),
   ("no", false), ("off", false), ("on", true), ("t", true), ("true", true), ("y", true),
   ("yes", true)]

namespace UsageProblem

def message : UsageProblem → String
  | missingCommand => "Missing command."
  | unknownCommand name => "No such command " ++ Text.quoted name ++ "."
  | unknownOption name => "No such option " ++ Text.quoted name ++ "."
  | missingArgument display => "Missing argument '" ++ display ++ "'."
  | extraArguments arguments =>
    "Got unexpected extra argument" ++ (if arguments.length = 1 then "" else "s") ++
      " (" ++ " ".intercalate arguments ++ ")"
  | notInteger option value => invalid option value ++ " is not a valid integer."
  | notDecimal option value => invalid option value ++ " is not a valid float."
  | notBoolean option value =>
    invalid option value ++ " is not a valid boolean. Recognized values: " ++
      ", ".intercalate (booleanWords.map Prod.fst)
  | valueMissing option => "Option " ++ Text.quoted option ++ " requires an argument."
  | valueUnwanted option => "Option " ++ Text.quoted option ++ " does not take a value."
where
  invalid (option value : String) : String :=
    "Invalid value for " ++ Text.quoted option ++ ": " ++ Text.quoted value

def showsUsage : UsageProblem → Bool
  | valueMissing _ | valueUnwanted _ => false
  | _ => true

/-- The whole complaint about a command line, given the command and what it takes. -/
def complaint (p : UsageProblem) (command takes : String) : String :=
  let usage :=
    "Usage: " ++ command ++ " " ++ takes ++ "\nTry '" ++ command ++ " --help' for help.\n\n"
  (if p.showsUsage then usage else "") ++ "Error: " ++ Text.unstyled p.message ++ "\n"

end UsageProblem

end TableBench.CommandLine
