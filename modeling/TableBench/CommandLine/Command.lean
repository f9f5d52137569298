import TableBench.CommandLine.Options
import TableBench.Payload.Values
import TableBench.Report
import TableBench.Session
import TableBench.Table.Name

namespace TableBench.CommandLine

inductive Command where
  | createTable
  | dropTable
  | describeTable
  | read
  | write
  | readBulk
  | writeBulk
  | connectionInfo
  deriving DecidableEq, Repr

inductive Takes where
  | nothing
  | key
  | keys
  deriving DecidableEq, Repr

/-- How the usage shows the keys. -/
def Takes.display : Takes → String
  | nothing => ""
  | key => "KEY"
  | keys => "KEYS..."

namespace Command

def all : List Command :=
  [createTable, dropTable, describeTable, read, write, readBulk, writeBulk, connectionInfo]

def name : Command → String
  | createTable => "create-table"
  | dropTable => "drop-table"
  | describeTable => "describe-table"
  | read => "read"
  | write => "write"
  | readBulk => "read-bulk"
  | writeBulk => "write-bulk"
  | connectionInfo => "connection-info"

def ofName? (s : String) : Option Command := all.find? fun c => c.name = s

def takes : Command → Takes
  | read | write => .key
  | readBulk | writeBulk => .keys
  | createTable | dropTable | describeTable | connectionInfo => .nothing

/-- The options of a command, in the order in which they are looked up. -/
def options : Command → List Parameter
  | createTable => Options.capacity ++ Options.waiting ++ Options.store
  | dropTable => Options.approve :: Options.waiting ++ Options.store
  | describeTable | read => Options.store
  | write => Options.valueSize :: Options.store
  | readBulk => Options.maxRounds :: Options.store
  | writeBulk => Options.valueSize :: Options.maxRounds :: Options.store
  | connectionInfo => Options.table ++ Options.output

end Command

def Invocation.config (i : Invocation) : Config Float := Config.ofOptions i.settings []

/-- Payloads by size and position. -/
abbrev Payloads := Nat → Nat → String

namespace Command

/-- Runs with a session that is started before and stopped in any case. -/
def withSession {α : Type} (config : Config Float) (payloads : Payloads)
    (body : SessionRun Float α) : Run Float α := fun w =>
  let started : SessionRun Float α := do
    match Payload.size? config.valueSize with
    | none => throw (Failure.badValue Payload.sizeComplaint)
    | some size =>
      Session.start (payloads size)
      body
  match Run.ensuring started Session.stop ⟨Session.ofConfig config, w⟩ with
  | .ok a s => .ok a s.world
  | .error e s => .error e s.world

/-- Runs with a client of the store that is opened before and closed in any case. -/
def withLifecycle {α : Type} (config : Config Float)
    (body : Table.Lifecycle Float → Run Float α) : Run Float α := do
  Run.openStore config
  Run.ensuring
    (body { client := .direct, pollInterval := config.pollInterval, maxWait := config.maxWait })
    Client.direct.close

def checkKey (key : String) : Run Float Unit :=
  match Key.problem? key with
  | some p => Run.fail p.error
  | none => return ()

def checkTableName (s : String) : Run Float Unit :=
  match Table.nameProblem? s with
  | some p => Run.fail p.error
  | none => return ()

def runRead (i : Invocation) (payloads : Payloads) (key : String) : Run Float Reply := do
  checkKey key
  Run.log .info .itemCommands ("Reading key '" ++ key ++ "'")
  let item ← withSession i.config payloads (Session.read key)
  return if i.plain then
      .lines [match item with
        | some s => key ++ " = " ++ s
        | none => "⚠️  " ++ key ++ " not found"]
    else
      .document (.object
        [("key", .text key), ("found", .bool item.isSome), ("item", .ofText? item)])

def runWrite (i : Invocation) (payloads : Payloads) (key : String) : Run Float Reply := do
  checkKey key
  Run.log .info .itemCommands ("Writing key '" ++ key ++ "'")
  let result ← withSession i.config payloads (Session.write key)
  return if i.plain then .lines ["✅ Wrote " ++ key]
    else .document (.object [("key", .text key), ("result", .text result)])

def runReadBulk (i : Invocation) (payloads : Payloads) : Run Float Reply := do
  let asked := i.keys.length
  Run.log .info .itemCommands ("Reading " ++ toString asked ++ " keys in bulk")
  let items ← withSession i.config payloads (Session.readAll i.keys)
  return if i.plain then
      .lines
        (("Retrieved " ++ toString items.length ++ " of " ++ toString asked ++ " keys") :: items)
    else
      .document (.object
        [("requested", .int asked), ("count", .int items.length),
         ("items", .list (items.map .text))])

def runWriteBulk (i : Invocation) (payloads : Payloads) : Run Float Reply := do
  Run.log .info .itemCommands ("Writing " ++ toString i.keys.length ++ " keys in bulk")
  let puts ← withSession i.config payloads (Session.writeAll i.keys)
  return if i.plain then .lines ["✅ Wrote " ++ toString puts.length ++ " items"]
    else
      .document (.object [("count", .int puts.length), ("requests", .list (puts.map .text))])

/-- Creates the table unless there is one, and waits until it is active. -/
def runCreateTable (i : Invocation) : Run Float Reply := do
  let config := i.config
  checkTableName config.tableName
  Run.log .info .tableCommands ("Creating table '" ++ config.tableName ++ "'")
  Run.log .debug .tableCommands
    ("Region: " ++ (Document.ofText? config.region).shown ++
      ", Endpoint: " ++ (Document.ofText? config.endpoint).shown)
  let (created, table) ← withLifecycle config fun l => do
    let created ← l.create config.table
    let _ ← l.await .active config.tableName
    return (created, ← l.describe config.tableName)
  return if i.plain then
      .lines
        [if created then "✅ Table '" ++ config.tableName ++ "' created successfully"
          else "Table '" ++ config.tableName ++ "' already exists",
         "Status: " ++ table.status.name]
    else .document (.object (table.report ++ [("created", .bool created)]))

def withoutConsent (plain : Bool) (tableName : String) : Reply :=
  let command := "dynamodb-bench-tool kvbench drop-table --table " ++ tableName ++ " --approve"
  let err :=
    if plain then
      "⚠️  WARNING: Table deletion requires approval\n" ++
        Text.unstyled ("\nThis will permanently delete table '" ++ tableName ++
          "' and ALL data.\n" ++ "\nTo proceed, use: " ++ command)
    else
      (Report.errorDocument "Table deletion requires approval"
        ("Add --approve flag to confirm: " ++ command) 2).write
  { err := err ++ "\n", code := 2 }

def dropReply (plain : Bool) (tableName : String) (deleted : Bool) : Reply :=
  let reply : Reply :=
    if plain then
      .lines [if deleted then "✅ Table '" ++ tableName ++ "' deleted"
        else "⚠️  Table '" ++ tableName ++ "' does not exist"]
    else .document (.object [("table", .text tableName), ("deleted", .bool deleted)])
  { reply with code := if deleted then 0 else 1 }

def runDropTable (i : Invocation) : Run Float Reply := do
  let config := i.config
  if !i.approved then return withoutConsent i.plain config.tableName
  let dropped ← Run.attempt do
    Run.log .info .tableCommands ("Dropping table '" ++ config.tableName ++ "'")
    withLifecycle config fun l => l.drop config.tableName
  match dropped with
  | .ok _ => return dropReply i.plain config.tableName true
  | .error (.reported e chained) =>
    if e.code? == some notFoundCode then return dropReply i.plain config.tableName false
    else throw (.reported e chained)
  | .error f => throw f

def runDescribeTable (i : Invocation) : Run Float Reply := do
  let config := i.config
  let table ← withLifecycle config fun l => l.describe config.tableName
  return if i.plain then
      .lines
        ["Table: " ++ table.tableName.shown,
         "Partition key: " ++ table.attributeName.shown ++ " (" ++ table.attributeType.shown ++ ")",
         "Capacity: " ++ toString table.readCapacity ++ " RCU / " ++
           toString table.writeCapacity ++ " WCU",
         "Status: " ++ table.status.name]
    else .document (.object table.report)

def runConnectionInfo (i : Invocation) : Reply :=
  let info := i.config.connectionInfo
  if i.plain then .lines [info] else .document (.object [("connection_info", .text info)])

def body (c : Command) (i : Invocation) (payloads : Payloads) : Run Float Reply :=
  match c with
  | createTable => runCreateTable i
  | dropTable => runDropTable i
  | describeTable => runDescribeTable i
  | read => runRead i payloads (i.keys.headD "")
  | write => runWrite i payloads (i.keys.headD "")
  | readBulk => runReadBulk i payloads
  | writeBulk => runWriteBulk i payloads
  | connectionInfo => return runConnectionInfo i

/-- Runs a command; a reported error becomes its reply. -/
def run (c : Command) (i : Invocation) (payloads : Payloads) : Run Float Reply := do
  match ← Run.attempt (c.body i payloads) with
  | .ok r => return r
  | .error (.reported e _) => return Report.ofError e i.plain
  | .error f => throw f

end Command

end TableBench.CommandLine
