import TableBench.Document.Writer
import TableBench.Error
import TableBench.Text.Unstyled

namespace TableBench

/-- What a command leaves on its two outputs, and its exit code. -/
structure Reply where
  out : String := ""
  err : String := ""
  code : Nat := 0
  deriving DecidableEq, Repr

namespace Reply

def document (d : Document) : Reply := { out := d.write ++ "\n" }

def lines (ls : List String) : Reply := { out := String.join (ls.map (· ++ "\n")) }

def silenced (r : Reply) (quiet : Bool) : Reply := if quiet then { r with out := "" } else r

end Reply

namespace Report

def errorDocument (error solution : String) (code : Int) : Document :=
  .object [("error", .text error), ("solution", .text solution), ("exit_code", .int code)]

def errorText (error solution : String) : String :=
  "❌ Error: " ++ error ++ "\n\n💡 Solution: " ++ solution

/-- The exit code of an error kind; an error without a kind counts as a fault. -/
def exitCode : Option ErrorKind → Nat
  | some .invalidArgument => 1
  | some .serviceFault | some .transportFault | none => 3
  | some .throttled => 4
  | some .provisioningFailure => 5

def solution : Option ErrorKind → String
  | some .invalidArgument => "Check the command arguments"
  | some .serviceFault => "Check table exists and AWS permissions"
  | some .transportFault => "Check network connectivity, endpoint and AWS credentials"
  | some .throttled => "Retry with backoff or raise the table's provisioned capacity"
  | some .provisioningFailure => "Check the table status in the AWS console and retry"
  | none => "Check AWS credentials and permissions"

/-- The error output and exit code of an error; a missing table is the caller's affair. -/
def ofError (e : BenchError) (plain : Bool) : Reply :=
  let missing := e.code? == some notFoundCode
  let code := if missing then 1 else exitCode e.kind
  let solution :=
    if missing then "Create the table with 'dynamodb-bench-tool kvbench create-table'"
    else solution e.kind
  let err :=
    if plain then Text.unstyled (errorText e.message solution)
    else (errorDocument e.message solution code).write
  { err := err ++ "\n", code }

end Report

end TableBench
