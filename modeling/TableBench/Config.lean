import TableBench.Table.Definition
import TableBench.Time

namespace TableBench

/-- What a benchmark session is set up by. -/
structure Config (T : Type) where
  tableName : String
  attributeName : String
  endpoint : Option String
  region : Option String
  profile : Option String
  maxConnections : Int
  requestTimeout : Int
  maxRetries : Int
  compression : Bool
  readCapacity : Int
  writeCapacity : Int
  consistentRead : Bool
  programmableTables : Bool
  acceleratorEndpoint : Option String
  pollInterval : T
  maxWait : T
  maxRounds : Int
  valueSize : Int

inductive Setting (T : Type) where
  | tableName (s : String)
  | attributeName (s : String)
  | endpoint (s : Option String)
  | region (s : Option String)
  | profile (s : Option String)
  | maxConnections (n : Int)
  | requestTimeout (n : Int)
  | maxRetries (n : Int)
  | compression (b : Bool)
  | readCapacity (n : Int)
  | writeCapacity (n : Int)
  | consistentRead (b : Bool)
  | programmableTables (b : Bool)
  | acceleratorEndpoint (s : Option String)
  | pollInterval (t : T)
  | maxWait (t : T)
  | maxRounds (n : Int)
  | valueSize (n : Int)

/-- Options reach every field but the one that lets a session create and delete its table. -/
def Setting.isOption {T : Type} : Setting T → Bool
  | .programmableTables _ => false
  | _ => true

namespace Config

variable {T : Type}

/-- The configuration that nothing was set in. -/
def standard [TimeScale T] : Config T where
  tableName := "ndbench-table"
  attributeName := standardAttribute
  endpoint := none
  region := none
  profile := none
  maxConnections := 50
  requestTimeout := 60000
  maxRetries := 10
  compression := false
  readCapacity := 5
  writeCapacity := 5
  consistentRead := false
  programmableTables := false
  acceleratorEndpoint := none
  pollInterval := TimeScale.ofSeconds 5
  maxWait := TimeScale.ofSeconds 600
  maxRounds := 10
  valueSize := 128

def set (c : Config T) : Setting T → Config T
  | .tableName s => { c with tableName := s }
  | .attributeName s => { c with attributeName := s }
  | .endpoint s => { c with endpoint := s }
  | .region s => { c with region := s }
  | .profile s => { c with profile := s }
  | .maxConnections n => { c with maxConnections := n }
  | .requestTimeout n => { c with requestTimeout := n }
  | .maxRetries n => { c with maxRetries := n }
  | .compression b => { c with compression := b }
  | .readCapacity n => { c with readCapacity := n }
  | .writeCapacity n => { c with writeCapacity := n }
  | .consistentRead b => { c with consistentRead := b }
  | .programmableTables b => { c with programmableTables := b }
  | .acceleratorEndpoint s => { c with acceleratorEndpoint := s }
  | .pollInterval t => { c with pollInterval := t }
  | .maxWait t => { c with maxWait := t }
  | .maxRounds n => { c with maxRounds := n }
  | .valueSize n => { c with valueSize := n }

def setAll (c : Config T) (settings : List (Setting T)) : Config T := settings.foldl set c

/-- The configuration of a command: its options, and what the command itself fixes. -/
def ofOptions [TimeScale T] (options fixed : List (Setting T)) : Config T :=
  (standard.setAll (options.filter Setting.isOption)).setAll fixed

def table (c : Config T) : Table.Definition where
  tableName := c.tableName
  attributeName := c.attributeName
  readCapacity := c.readCapacity
  writeCapacity := c.writeCapacity

/-- Table, key and consistency in one line. -/
def connectionInfo (c : Config T) : String :=
  "Table Name - " ++ c.tableName ++ " : Attribute Name - " ++ c.attributeName ++
    " : Consistent Read - " ++ if c.consistentRead then "true" else "false"

end Config

end TableBench
