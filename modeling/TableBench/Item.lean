import TableBench.Client
import TableBench.Document.Writer

namespace TableBench

namespace Key

inductive Problem where
  | empty
  | tooLong
  deriving DecidableEq, Repr

def Problem.message : Problem → String
  | empty => "Key cannot be empty"
  | tooLong => "Key cannot exceed 2048 bytes"

def Problem.error (p : Problem) : BenchError := .invalidArgument (.text p.message)

/-- The most bytes of a key in UTF-8. -/
def maxBytes : Nat := 2048

def problem? (s : String) : Option Problem :=
  if s.isEmpty then some .empty else if maxBytes < s.utf8ByteSize then some .tooLong else none

/-- The keys that occur more than once, each once, in ascending order. -/
def duplicates (keys : List String) : List String :=
  ((keys.filter fun k => 1 < keys.count k).eraseDups).mergeSort fun a b => decide (a ≤ b)

def duplicatesError (ks : List String) : BenchError :=
  .invalidArgument (.text ("Batch contains duplicate keys: " ++ ", ".intercalate ks))

def uniqueError? (keys : List String) : Option BenchError :=
  let ks := duplicates keys
  if ks.isEmpty then none else some (duplicatesError ks)

end Key

namespace Item

def valueAttribute : String := "value"

def address (attributeName key : String) : Document :=
  .object [(attributeName, .string key)]

/-- An item with its key and payload; where both attributes have one name the payload stays. -/
def make (attributeName key payload : String) : Document :=
  .object (Fields.set [(attributeName, .string key)] valueAttribute (.string payload))

variable {T : Type} [TimeScale T]

/-- Reads the item of a key; the wish for a consistent read is sent as it is given. -/
def read (c : Client) (table attributeName key : String) (consistent : Document) :
    Run T (Option String) := do
  let item ← c.getItem (.text table) (address attributeName key) consistent
  return item.map Document.render

def write (c : Client) (table attributeName key : String) : Run T String := do
  let payload ← Run.draw
  return (← c.putItem (.text table) (make attributeName key payload)).render

end Item

end TableBench
