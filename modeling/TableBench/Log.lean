namespace TableBench

/-- Levels of log records, the most talkative first. -/
inductive Level where
  | debug
  | info
  | warning
  | error
  | critical
  deriving DecidableEq, Repr

namespace Level

def rank : Level → Nat
  | debug => 0
  | info => 1
  | warning => 2
  | error => 3
  | critical => 4

def name : Level → String
  | debug => "DEBUG"
  | info => "INFO"
  | warning => "WARNING"
  | error => "ERROR"
  | critical => "CRITICAL"

/-- The level of a verbosity count: warnings at first, then also information, then everything. -/
def ofVerbosity (n : Int) : Level := if n ≤ 0 then warning else if n = 1 then info else debug

/-- The level for the libraries underneath, which speak up from the third count on. -/
def ofVerbosityBelow (n : Int) : Level := if 3 ≤ n then debug else warning

end Level

inductive Component where
  | diagnosis
  | connection
  | batches
  | tables
  | session
  | itemCommands
  | tableCommands
  deriving DecidableEq, Repr

def Component.logger (c : Component) : String :=
  "dynamodb_bench_tool.kvbench." ++ match c with
    | diagnosis => "core.error_classifier"
    | connection => "core.client"
    | batches => "core.batch_operations"
    | tables => "core.table_operations"
    | session => "core.session"
    | itemCommands => "commands.kv_commands"
    | tableCommands => "commands.table_commands"

structure LogRecord where
  level : Level
  component : Component
  message : String
  deriving DecidableEq, Repr

namespace LogRecord

/-- The record is written when records from `least` on are. -/
def reaches (r : LogRecord) (least : Level) : Bool := least.rank ≤ r.level.rank

/-- Places of a log line: the time, the level in eight columns, the logger and the message. -/
def format : String := "%(asctime)s %(levelname)-8s %(name)s: %(message)s"

def line (r : LogRecord) (time : String) : String :=
  let level := String.ofList (r.level.name.toList.rightpad 8 ' ')
  time ++ " " ++ level ++ " " ++ r.component.logger ++ ": " ++ r.message ++ "\n"

end LogRecord

end TableBench
