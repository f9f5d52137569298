import TableBench.Diagnosis
import TableBench.Time

namespace TableBench

/-- The two services that requests go to: the store itself and the accelerator in front of it. -/
inductive Target where
  | store
  | accelerator
  deriving DecidableEq, Repr

/-- A request to a service; what it is about is passed on as it comes. -/
inductive Request where
  | getItem (table key consistent : Document)
  | putItem (table item : Document)
  | batchGetItem (items : Document)
  | batchWriteItem (items : Document)
  | describeTable (table : Document)
  | createTable (definition : Fields)
  | deleteTable (table : Document)

namespace Request

def operation : Request → Operation
  | getItem .. => .getItem
  | putItem .. => .putItem
  | batchGetItem _ => .batchGetItem
  | batchWriteItem _ => .batchWriteItem
  | describeTable _ => .describeTable
  | createTable _ => .createTable
  | deleteTable _ => .deleteTable

def arguments : Request → Fields
  | getItem table key consistent =>
    [("TableName", table), ("Key", key), ("ConsistentRead", consistent)]
  | putItem table item => [("TableName", table), ("Item", item)]
  | batchGetItem items | batchWriteItem items => [("RequestItems", items)]
  | describeTable table | deleteTable table => [("TableName", table)]
  | createTable definition => definition

end Request

structure ClientSettings where
  maxConnections : Int
  timeout : Float
  maxAttempts : Int
  compression : Bool

abbrev Answer := Except Fault Document

/-- What the outside world saw of a run; a request without an answer came after the end of the
script. -/
inductive Event where
  | call (target : Target) (request : Request) (answer : Option Answer)
  | close (target : Target)
  | resolve (profile : Option String) (region : Option String)
  | openStore (endpoint : Option String) (settings : ClientSettings)
  | openAccelerator (region endpoint : Option String)

structure Outcome (T : Type) where
  answer : Answer
  elapsed : T

/-- The values of environment variables, local profiles with or without credentials, and whether an
accelerator can be reached at all. -/
structure Environment where
  values : List (String × String) := []
  profiles : List (String × Bool) := []
  accelerator : Bool := false

/-- Payloads by position, and how many have been taken. -/
structure ValueSource where
  value : Nat → String
  drawn : Nat := 0

/-- The surroundings of a run: what it reads, and what it leaves behind. -/
structure World (T : Type) where
  environment : Environment := {}
  interruption : Interruption := {}
  script : List (Outcome T) := []
  clock : T
  waits : List T := []
  events : List Event := []
  logs : List LogRecord := []
  source : ValueSource

/-- A run changes the world, and ends in a value or a failure. -/
abbrev Run (T : Type) := EStateM Failure (World T)

namespace Run

variable {T α : Type}

/-- Runs to the end of a value or a failure, and goes on with either. -/
def attempt {σ : Type} (x : EStateM Failure σ α) : EStateM Failure σ (Except Failure α) :=
  fun s => match x s with
  | .ok a s => .ok (.ok a) s
  | .error e s => .ok (.error e) s

def ofExcept {σ : Type} : Except Failure α → EStateM Failure σ α
  | .ok a => pure a
  | .error e => throw e

/-- Runs the second part whatever the first ended in; a failure of the second counts more. -/
def ensuring {σ : Type} (x : EStateM Failure σ α) (last : EStateM Failure σ Unit) :
    EStateM Failure σ α := do
  let r ← attempt x
  last
  ofExcept r

def fail (e : BenchError) : Run T α := throw (.reported e false)

def note (e : Event) : Run T Unit := modify fun w => { w with events := w.events ++ [e] }

def logAll (rs : List LogRecord) : Run T Unit := modify fun w => { w with logs := w.logs ++ rs }

def log (level : Level) (component : Component) (message : String) : Run T Unit :=
  logAll [⟨level, component, message⟩]

def lookupVariable (name : String) : Run T (Option String) := do
  return (← get).environment.values.lookup name

def draw : Run T String := modifyGet fun w =>
  (w.source.value w.source.drawn, { w with source.drawn := w.source.drawn + 1 })

variable [TimeScale T]

/-- Waits for a time unless cut short, and answers whether it was; a negative time is no time, and
one that is too long is an error. -/
def wait (t : T) : Run T Bool := fun w =>
  let waits := w.waits ++ [t]
  if w.interruption.cuts waits.length then .ok true { w with waits }
  else if w.interruption.refuses t then .error .tooLong { w with waits }
  else
    let passed := if t < TimeScale.none then TimeScale.none else t
    .ok false { w with waits, clock := w.clock + passed }

/-- Sends a request and takes the next answer off the script. -/
def exchange (target : Target) (request : Request) : Run T Answer := fun w =>
  match w.script with
  | [] =>
    .error (.scriptEnded request.operation)
      { w with events := w.events ++ [.call target request none] }
  | o :: script =>
    .ok o.answer
      { w with
        script
        clock := w.clock + o.elapsed
        events := w.events ++ [.call target request (some o.answer)] }

/-- Sends a request; a fault is reported once and stops the run. -/
def call (target : Target) (request : Request) : Run T Document := do
  match ← exchange target request with
  | .ok d => return d
  | .error f =>
    logAll f.records
    throw f.failure

end Run

end TableBench
