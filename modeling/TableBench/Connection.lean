import TableBench.Client
import TableBench.Config
import TableBench.Number.Numeral

namespace TableBench

/-- Why no connection is made. -/
inductive ConnectionProblem where
  | regionMissing
  | acceleratorMissing
  | unknownProfile (profile : String)
  | noCredentials
  deriving DecidableEq, Repr

namespace ConnectionProblem

def advice : String :=
  "Cannot load the credentials from the credential profiles file. " ++
  "Make sure your credentials file is at the correct location " ++
  "(~/.aws/credentials) and is in a valid format."

def error : ConnectionProblem → BenchError
  | regionMissing => .invalidArgument (.text "If you set the endpoint you must set the region")
  | acceleratorMissing =>
    .invalidArgument (.text ("DAX endpoint configured but amazon-dax-client is not installed " ++
      "(pip install 'dynamodb-bench-tool[dax]')"))
  | unknownProfile p =>
    .credentials (.text ("The config profile (" ++ p ++ ") could not be found. " ++ advice))
  | noCredentials => .credentials (.text advice)

/-- A missing accelerator or profile is found out from another error. -/
def failure (p : ConnectionProblem) : Failure :=
  .reported p.error <| match p with
    | acceleratorMissing | unknownProfile _ => true
    | regionMissing | noCredentials => false

end ConnectionProblem

/-- Set, and not to the empty text. -/
def given (s : Option String) : Bool := s.any (!·.isEmpty)

/-- The profile that credentials are taken from outside the cloud. -/
def Config.profileName {T : Type} (c : Config T) : String :=
  if given c.profile then c.profile.getD "default" else "default"

namespace ClientSettings

/-- The settings of a client; the timeout is configured in milliseconds, and a negative number of
retries is none. -/
def ofConfig {T : Type} (c : Config T) : Except Failure ClientSettings :=
  match Number.ofInt? c.requestTimeout with
  | none => .error (.overflow "int too large to convert to float")
  | some ms => .ok ⟨c.maxConnections, ms / 1000, max c.maxRetries 0, c.compression⟩

def report (s : ClientSettings) : Fields :=
  [("max_pool_connections", .int s.maxConnections),
   ("connect_timeout", .float s.timeout),
   ("read_timeout", .float s.timeout),
   ("retries", .object [("max_attempts", .int s.maxAttempts), ("mode", .text "standard")]),
   ("disable_request_compression", .bool !s.compression)]

end ClientSettings

namespace Run

variable {T : Type} [TimeScale T]

/-- Makes sure of credentials: in the cloud those of the surroundings are taken, elsewhere a local
profile has to have some. -/
def resolveCredentials (c : Config T) : Run T Unit := do
  let discovery ← lookupVariable "DISCOVERY_ENV"
  log .info .connection ("Discovery environment: " ++ (Document.ofText? discovery).shown)
  if discovery == none || discovery == some "AWS" then
    note (.resolve none c.region)
  else
    let profile := c.profileName
    note (.resolve (some profile) c.region)
    match (← get).environment.profiles.lookup profile with
    | none => throw (ConnectionProblem.unknownProfile profile).failure
    | some false => throw ConnectionProblem.noCredentials.failure
    | some true => return ()

def openStore (c : Config T) : Run T Unit := do
  if given c.endpoint && !given c.region then throw ConnectionProblem.regionMissing.failure
  resolveCredentials c
  log .debug .connection
    ("Client config: max_connections=" ++ toString c.maxConnections ++
      ", timeout=" ++ toString c.requestTimeout ++
      "ms, retries=" ++ toString c.maxRetries ++
      ", compression=" ++ if c.compression then "True" else "False")
  let settings ← ofExcept (ClientSettings.ofConfig c)
  note (.openStore c.endpoint settings)

def openAccelerator (c : Config T) : Run T Unit := do
  if !(← get).environment.accelerator then throw ConnectionProblem.acceleratorMissing.failure
  resolveCredentials c
  note (.openAccelerator c.region c.acceleratorEndpoint)

end Run

end TableBench
