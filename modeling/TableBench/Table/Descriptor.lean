import TableBench.Document.Access
import TableBench.Number.Numeral
import TableBench.Table.Definition

namespace TableBench

/-- What is known of a table: name, key, capacity and status. The names are as the service gives
them. -/
structure Table.Descriptor where
  tableName : Document
  attributeName : Document
  attributeType : Document
  readCapacity : Int
  writeCapacity : Int
  status : Status

def Table.Definition.described (t : Definition) (status : Status) : Descriptor where
  tableName := .text t.tableName
  attributeName := .text t.attributeName
  attributeType := .text t.attributeType
  readCapacity := t.readCapacity
  writeCapacity := t.writeCapacity
  status

namespace Table.Descriptor

def optionalParts (d : Option Document) : Except Failure (List Document) :=
  match d with
  | none => .ok []
  | some d => d.requireParts

def holds (fs : Fields) (k : String) (d : Document) : Bool := (Document.orNull (fs.lookup k)).same d

/-- The attribute of the first key entry that is a hash key. -/
def hashKey : List Document → Except Failure Document
  | [] => .ok (.text standardAttribute)
  | d :: ds => do
    if holds (← d.requireFields) "KeyType" (.text "HASH") then d.require "AttributeName"
    else hashKey ds

def typeOf (attributeName : Document) : List Document → Except Failure Document
  | [] => .ok (.text standardType)
  | d :: ds => do
    if holds (← d.requireFields) "AttributeName" attributeName then d.require "AttributeType"
    else typeOf attributeName ds

/-- The complaint about a text that is no integer, with the start of what was read. -/
def notInteger (written : String) : Number.NumeralError → Failure
  | .malformed =>
    .badValue
      ("invalid literal for int() with base 10: " ++ String.ofList (written.toList.take 200))
  | .tooLong digits =>
    .badValue ("Exceeds the limit (" ++ toString Number.maxDigits ++
      " digits) for integer string conversion: value has " ++ toString digits ++
      " digits; use sys.set_int_max_str_digits() to increase the limit")

/-- A capacity: none given is zero, a fraction loses its places, a text is read. -/
def capacity : Option Document → Except Failure Int
  | none => .ok 0
  | some (.int n) => .ok n
  | some (.bool b) => .ok (if b then 1 else 0)
  | some (.float x) =>
    match Number.Binary.ofFloat? x with
    | some b => .ok b.truncate
    | none =>
      if x.isNaN then .error (.badValue "cannot convert float NaN to integer")
      else .error (.overflow "cannot convert float infinity to integer")
  | some (.text s) => (Number.readInteger s).mapError (notInteger (Text.quoted s))
  | some (.bytes bs) =>
    (Number.readIntegerBytes bs).mapError (notInteger (String.ofList (Text.byteLiteral bs)))
  | some _ => .error .mismatch

def ofDescription (d : Document) : Except Failure Descriptor := do
  let fs ← d.requireFields
  let attributeName ← hashKey (← optionalParts (fs.lookup "KeySchema"))
  let attributeType ← typeOf attributeName (← optionalParts (fs.lookup "AttributeDefinitions"))
  let tableName ← d.require "TableName"
  let throughput ← ((fs.lookup "ProvisionedThroughput").getD (.object [])).requireFields
  let readCapacity ← capacity (throughput.lookup "ReadCapacityUnits")
  let writeCapacity ← capacity (throughput.lookup "WriteCapacityUnits")
  let status := .ofService (.orNull (fs.lookup "TableStatus"))
  return { tableName, attributeName, attributeType, readCapacity, writeCapacity, status }

def report (t : Descriptor) : Fields :=
  [("table", t.tableName),
   ("attribute_name", t.attributeName),
   ("attribute_type", t.attributeType),
   ("read_capacity_units", .int t.readCapacity),
   ("write_capacity_units", .int t.writeCapacity),
   ("status", .text t.status.name)]

def summary (t : Descriptor) : String :=
  "TableDescriptor(table_name=" ++ t.tableName.literal ++
    ", attribute_name=" ++ t.attributeName.literal ++
    ", attribute_type=" ++ t.attributeType.literal ++
    ", read_capacity_units=" ++ toString t.readCapacity ++
    ", write_capacity_units=" ++ toString t.writeCapacity ++
    ", status=<TableStatus." ++ t.status.name ++ ": " ++ Text.quoted t.status.name ++ ">)"

end Table.Descriptor

end TableBench
