import TableBench.Item

namespace TableBench.Batch

/-- Why a batch is refused before anything is sent. -/
inductive Problem where
  | rounds (n : Int)
  | duplicates (keys : List String)
  | empty
  | tooMany (n limit : Nat)
  deriving DecidableEq, Repr

def Problem.error : Problem → BenchError
  | rounds n => .invalidArgument (.text ("max_rounds must be at least 1, got " ++ toString n))
  | duplicates ks => Key.duplicatesError ks
  | empty => .invalidArgument (.text "Batch must contain at least one key")
  | tooMany n limit =>
    .invalidArgument
      (.text ("Batch of " ++ toString n ++ " keys exceeds the limit of " ++ toString limit))

/-- What a refused batch ends in: the number of rounds may be too long to complain about. -/
def Problem.failure (p : Problem) : Failure :=
  match p with
  | rounds n => if Number.fits Number.maxDigits n then .reported p.error false else .tooManyDigits
  | _ => .reported p.error false

def problem? (keys : List String) (limit : Nat) (rounds : Int) : Option Problem :=
  if rounds < 1 then some (.rounds rounds)
  else
    let ks := Key.duplicates keys
    if !ks.isEmpty then some (.duplicates ks)
    else if keys.isEmpty then some .empty
    else if limit < keys.length then some (.tooMany keys.length limit)
    else none

def readLimit : Nat := 100

def writeLimit : Nat := 25

/-- The request for many items: an address for each key. -/
def readRequest (attributeName : String) (keys : List String) : Fields :=
  [("Keys", .list (keys.map (Item.address attributeName)))]

def putRequest (attributeName key payload : String) : Document :=
  .object [("Item", Item.make attributeName key payload)]

def writeEntry (put : Document) : Document := .object [("PutRequest", put)]

/-- The part of a response about the table, under the given name. -/
def partFor (response : Document) (name table : String) : Except Failure (Option Document) := do
  match (← response.requireFields).lookup name with
  | none => return none
  | some tables => return (← tables.requireFields).lookup table

/-- The items that a response of a batch read holds for the table. -/
def found (response : Document) (table : String) : Except Failure (List Document) := do
  match ← partFor response "Responses" table with
  | none => return []
  | some items => items.requireParts

/-- The request that a batch read left over, if it names any keys. -/
def keysLeft (response : Document) (table : String) : Except Failure (Option Fields) := do
  match ← partFor response "UnprocessedKeys" table with
  | none => return none
  | some d =>
    if d.isBlank then return none
    let fs ← d.requireFields
    return if Document.isBlank? (fs.lookup "Keys") then none else some fs

/-- The entries that a batch write left over, if there are any. -/
def entriesLeft (response : Document) (table : String) : Except Failure (Option Document) := do
  return (← partFor response "UnprocessedItems" table).filter (!·.isBlank)

def keyCount (request : Fields) : Except Failure Nat := do
  (← (Document.object request).require "Keys").requireSize

/-- The rounds were used up with this much left over. -/
def givenUp (left : Nat) (what : String) (rounds : Nat) (operation : String) : BenchError :=
  .throttled (.text (toString left ++ " " ++ what ++ " still unprocessed after " ++
    toString rounds ++ " " ++ operation ++ " rounds"))

variable {T : Type} [TimeScale T]

/-- Reads what is left in at most the given rounds out of `rounds`; the flag is set anew in each. -/
def readRounds (c : Client) (table : String) (consistent : Document) (rounds : Nat) :
    Nat → Fields → List Document → Run T (List Document)
  | 0, left, _ => do
    Run.fail (givenUp (← Run.ofExcept (keyCount left)) "keys" rounds "BatchGetItem")
  | n + 1, left, items => do
    let request := Fields.set left "ConsistentRead" consistent
    let count ← Run.ofExcept (keyCount request)
    Run.log .debug .batches
      ("BatchGetItem round " ++ toString (rounds - n) ++ ": " ++ toString count ++ " keys")
    let response ← c.batchGetItem (.object [(table, .object request)])
    let items := items ++ (← Run.ofExcept (found response table))
    match ← Run.ofExcept (keysLeft response table) with
    | none => return items
    | some left => readRounds c table consistent rounds n left items

/-- Writes what is left in at most the given rounds out of `rounds`; it is sent as it comes back. -/
def writeRounds (c : Client) (table : String) (rounds : Nat) : Nat → Document → Run T Unit
  | 0, left => do
    Run.fail (givenUp (← Run.ofExcept left.requireSize) "items" rounds "BatchWriteItem")
  | n + 1, left => do
    let count ← Run.ofExcept left.requireSize
    Run.log .debug .batches
      ("BatchWriteItem round " ++ toString (rounds - n) ++ ": " ++ toString count ++ " items")
    let response ← c.batchWriteItem (.object [(table, left)])
    match ← Run.ofExcept (entriesLeft response table) with
    | none => return ()
    | some left => writeRounds c table rounds n left

/-- A fresh payload for each key, as requests to store them. -/
def putRequests (attributeName : String) : List String → Run T (List Document)
  | [] => return []
  | key :: keys => do
    let payload ← Run.draw
    let rest ← putRequests attributeName keys
    return putRequest attributeName key payload :: rest

/-- Stops when the batch is refused. -/
def check (keys : List String) (limit : Nat) (rounds : Int) : Run T Unit :=
  match problem? keys limit rounds with
  | some p => throw p.failure
  | none => return ()

/-- Reads the items of distinct keys, in the order the store gives them. -/
def read (c : Client) (table attributeName : String) (keys : List String) (consistent : Document)
    (rounds : Int) : Run T (List String) := do
  check keys readLimit rounds
  let items ←
    readRounds c table consistent rounds.toNat rounds.toNat (readRequest attributeName keys) []
  return items.map Document.render

/-- Stores a fresh payload under each of distinct keys, and gives back what was to be stored. -/
def write (c : Client) (table attributeName : String) (keys : List String) (rounds : Int) :
    Run T (List String) := do
  check keys writeLimit rounds
  let puts ← putRequests attributeName keys
  writeRounds c table rounds.toNat rounds.toNat (.list (puts.map writeEntry))
  return puts.map Document.render

end TableBench.Batch
