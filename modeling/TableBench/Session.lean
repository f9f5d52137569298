import TableBench.Batch
import TableBench.Connection
import TableBench.Table.Lifecycle

namespace TableBench

/-- A benchmark session: its configuration and the handles it holds. -/
structure Session (T : Type) where
  config : Config T
  tableName : String
  attributeName : String
  table : Option Table.Descriptor := none
  client : Option Client := none
  store : Bool := false
  accelerator : Bool := false
  source : Bool := false

structure Live (T : Type) where
  session : Session T
  world : World T

/-- A run that also changes a session. -/
abbrev SessionRun (T : Type) := EStateM Failure (Live T)

def SessionRun.lift {T α : Type} (x : Run T α) : SessionRun T α := fun s =>
  match x s.world with
  | .ok a world => .ok a { s with world }
  | .error e world => .error e { s with world }

instance {T : Type} : MonadLift (Run T) (SessionRun T) := ⟨SessionRun.lift⟩

namespace Session

variable {T : Type}

/-- A session that holds nothing yet. -/
def ofConfig (config : Config T) : Session T where
  config
  tableName := config.tableName
  attributeName := config.attributeName

def change (f : Session T → Session T) : SessionRun T Unit :=
  modify fun s => { s with session := f s.session }

def notInitialized : BenchError := .general (.text "Session not initialized; call init() first")

/-- Takes payloads from the given values from now on. -/
def supply (values : Nat → String) : SessionRun T Unit :=
  modify fun s => { s with session.source := true, world.source := { value := values } }

def requireClient : SessionRun T Client := do
  match (← get).session.client with
  | some c => return c
  | none => throw (.reported notInitialized false)

def requireSource : SessionRun T Unit := do
  if !(← get).session.source then throw (.reported notInitialized false)

variable [TimeScale T]

/-- What tables are created, watched and deleted by. -/
def lifecycle : SessionRun T (Table.Lifecycle T) := do
  let client ← requireClient
  let config := (← get).session.config
  return { client, pollInterval := config.pollInterval, maxWait := config.maxWait }

def log (level : Level) (message : String) : SessionRun T Unit :=
  SessionRun.lift (Run.log level .session message)

def connect : SessionRun T Unit := do
  SessionRun.lift (Run.openStore (← get).session.config)
  change fun s => { s with store := true, client := some .direct }

/-- Creates the table if the session may, and reads its description in any case. -/
def provision : SessionRun T Unit := do
  let config := (← get).session.config
  if config.programmableTables then
    log .info "Creating table programmatically"
    let _ ← SessionRun.lift ((← lifecycle).ensure config.table)
  let table ← SessionRun.lift ((← lifecycle).describe config.tableName)
  change fun s => { s with table := some table }
  log .info ("Table description: " ++ table.summary)

def accelerate : SessionRun T Unit := do
  let config := (← get).session.config
  if given config.acceleratorEndpoint then
    log .info ("Using DAX endpoint " ++ config.acceleratorEndpoint.getD "")
    SessionRun.lift (Run.openAccelerator config)
    change fun s => { s with accelerator := true, client := some .accelerated }

/-- Opens the clients and makes sure of the table. -/
def start (values : Nat → String) : SessionRun T Unit := do
  log .info "Initializing DynamoDB benchmark session"
  supply values
  connect
  provision
  accelerate
  change fun s =>
    { s with tableName := s.config.tableName, attributeName := s.config.attributeName }
  log .info "DynamoDB benchmark session initialized"

def read (key : String) : SessionRun T (Option String) := do
  let c ← requireClient
  let s := (← get).session
  SessionRun.lift (Item.read c s.tableName s.attributeName key (.bool s.config.consistentRead))

def write (key : String) : SessionRun T String := do
  let c ← requireClient
  requireSource
  let s := (← get).session
  SessionRun.lift (Item.write c s.tableName s.attributeName key)

def readAll (keys : List String) : SessionRun T (List String) := do
  let c ← requireClient
  let s := (← get).session
  SessionRun.lift (Batch.read c s.tableName s.attributeName keys
    (.bool s.config.consistentRead) s.config.maxRounds)

def writeAll (keys : List String) : SessionRun T (List String) := do
  let c ← requireClient
  requireSource
  let s := (← get).session
  SessionRun.lift (Batch.write c s.tableName s.attributeName keys s.config.maxRounds)

def release : SessionRun T Unit := do
  let s := (← get).session
  if s.store then SessionRun.lift Client.direct.close
  if s.accelerator then SessionRun.lift Client.accelerated.close
  change fun s => { s with client := none, store := false, accelerator := false }

/-- Deletes the table if the session may, and lets go of the clients. -/
def stop : SessionRun T Unit := do
  let s := (← get).session
  if s.client.isSome && s.config.programmableTables then
    let _ ← SessionRun.lift ((← lifecycle).cleanUp s.tableName)
  release
  log .info "DynamoDB benchmark session shut down"

def drawn : SessionRun T Nat := do
  requireSource
  return (← get).world.source.drawn

end Session

end TableBench
