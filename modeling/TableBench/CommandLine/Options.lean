import TableBench.CommandLine.Parameter

namespace TableBench.CommandLine.Options

/-- The table and how it is read. -/
def table : List Parameter :=
  [{ names := ["--table"], variableName := some "KVBENCH_TABLE", action := .text .tableName },
   { names := ["--attribute-name"], variableName := some "KVBENCH_ATTRIBUTE_NAME",
     action := .text .attributeName },
   { names := ["--consistent-read"], variableName := some "KVBENCH_CONSISTENT_READ",
     action := .switch fun b i => i.set (.consistentRead b) }]

def client : List Parameter :=
  [{ names := ["--endpoint"], variableName := some "KVBENCH_ENDPOINT",
     action := .text fun s => .endpoint (some s) },
   { names := ["--region"], variableName := some "AWS_REGION",
     action := .text fun s => .region (some s) },
   { names := ["--profile"], variableName := some "AWS_PROFILE",
     action := .text fun s => .profile (some s) },
   { names := ["--max-connections"], variableName := some "KVBENCH_MAX_CONNECTIONS",
     action := .integer .maxConnections },
   { names := ["--max-request-timeout"], variableName := some "KVBENCH_MAX_REQUEST_TIMEOUT",
     action := .integer .requestTimeout },
   { names := ["--max-retries"], variableName := some "KVBENCH_MAX_RETRIES",
     action := .integer .maxRetries },
   { names := ["--compression"], offNames := ["--no-compression"],
     variableName := some "KVBENCH_COMPRESSION",
     action := .switch fun b i => i.set (.compression b) },
   { names := ["--dax-endpoint"], variableName := some "KVBENCH_DAX_ENDPOINT",
     action := .text fun s => .acceleratorEndpoint (some s) }]

def output : List Parameter :=
  [{ names := ["--text"], action := .switch fun b i => { i with plain := b } },
   { names := ["--verbose", "-v"], action := .count fun n i => { i with verbosity := n } }]

/-- The options of commands that reach the store. -/
def store : List Parameter := table ++ client ++ output

def valueSize : Parameter := { names := ["--value-size"], action := .integer .valueSize }

def maxRounds : Parameter := { names := ["--max-rounds"], action := .integer .maxRounds }

def capacity : List Parameter :=
  [{ names := ["--read-capacity"], variableName := some "KVBENCH_READ_CAPACITY_UNITS",
     action := .integer .readCapacity },
   { names := ["--write-capacity"], variableName := some "KVBENCH_WRITE_CAPACITY_UNITS",
     action := .integer .writeCapacity }]

def waiting : List Parameter :=
  [{ names := ["--poll-interval"], action := .decimal .pollInterval },
   { names := ["--max-wait"], action := .decimal .maxWait }]

def approve : Parameter :=
  { names := ["--approve"], action := .switch fun b i => { i with approved := b } }

def version : Parameter := { names := ["--version"], action := .switch fun _ i => i }

end TableBench.CommandLine.Options
