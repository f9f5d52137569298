import TableBench.Document

namespace TableBench

def standardAttribute : String := "id"

def standardType : String := "S"

structure Table.Definition where
  tableName : String
  attributeName : String := standardAttribute
  attributeType : String := standardType
  readCapacity : Int := 5
  writeCapacity : Int := 5
  deriving DecidableEq, Repr

def Table.Definition.request (t : Definition) : Fields :=
  [("TableName", .text t.tableName),
   ("KeySchema", .list
     [.object [("AttributeName", .text t.attributeName), ("KeyType", .text "HASH")]]),
   ("AttributeDefinitions", .list
     [.object
       [("AttributeName", .text t.attributeName), ("AttributeType", .text t.attributeType)]]),
   ("ProvisionedThroughput", .object
     [("ReadCapacityUnits", .int t.readCapacity), ("WriteCapacityUnits", .int t.writeCapacity)])]

/-- Where a table stands in its life. -/
inductive Table.Status where
  | absent
  | creating
  | active
  | deleting
  | unknown
  deriving DecidableEq, Repr, Inhabited

namespace Table.Status

def name : Status → String
  | absent => "ABSENT"
  | creating => "CREATING"
  | active => "ACTIVE"
  | deleting => "DELETING"
  | unknown => "UNKNOWN"

def all : List Status := [absent, creating, active, deleting, unknown]

/-- The status that the service gives: a table without one is absent, and what is not the name of a
status is unknown. -/
def ofService : Document → Status
  | .null => absent
  | .text s => (all.find? fun t => t.name = s).getD unknown
  | _ => unknown

theorem ofService_name (s : Status) : ofService (.text s.name) = s := by
  cases s <;> decide

end Table.Status

end TableBench
