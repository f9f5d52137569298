import TableBench.Document.Access
import TableBench.World

namespace TableBench

/-- A client of the store: a direct one, or one whose data requests go to the accelerator. -/
inductive Client where
  | direct
  | accelerated
  deriving DecidableEq, Repr

namespace Client

variable {T : Type} [TimeScale T]

/-- Where data requests go; requests about tables always go to the store. -/
def dataTarget : Client → Target
  | direct => .store
  | accelerated => .accelerator

def getItem (c : Client) (table key consistent : Document) : Run T (Option Document) := do
  let response ← Run.call c.dataTarget (.getItem table key consistent)
  match (← Run.ofExcept response.requireFields).lookup "Item" with
  | some .null => return none
  | item => return item

def putItem (c : Client) (table item : Document) : Run T Document :=
  Run.call c.dataTarget (.putItem table item)

def batchGetItem (c : Client) (items : Document) : Run T Document :=
  Run.call c.dataTarget (.batchGetItem items)

def batchWriteItem (c : Client) (items : Document) : Run T Document :=
  Run.call c.dataTarget (.batchWriteItem items)

def describeTable (_ : Client) (table : Document) : Run T Document := do
  Run.ofExcept ((← Run.call .store (.describeTable table)).require "Table")

def createTable (_ : Client) (definition : Fields) : Run T Document := do
  Run.ofExcept ((← Run.call .store (.createTable definition)).require "TableDescription")

def deleteTable (_ : Client) (table : Document) : Run T Document := do
  Run.ofExcept ((← Run.call .store (.deleteTable table)).require "TableDescription")

/-- Closes the client; the accelerated one leaves the store's own client open. -/
def close (c : Client) : Run T Unit := Run.note (.close c.dataTarget)

end Client

end TableBench
