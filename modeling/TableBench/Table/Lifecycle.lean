import TableBench.Client
import TableBench.Table.Descriptor

namespace TableBench

inductive Table.Goal where
  | active
  | deleted
  deriving DecidableEq, Repr

inductive Table.WaitProblem (T : Type) where
  | timedOut (limit : T)
  | interrupted

namespace Table

def Goal.complaint (g : Goal) (tableName : String) : String :=
  match g with
  | .active => "Table '" ++ tableName ++ "' did not become ACTIVE"
  | .deleted => "Table '" ++ tableName ++ "' was not deleted"

def WaitProblem.error {T : Type} [TimeScale T] (p : WaitProblem T) (g : Goal) (tableName : String) :
    BenchError :=
  .provisioning <| .text <| g.complaint tableName ++ match p with
    | .timedOut limit => " within " ++ TimeScale.text limit ++ "s"
    | .interrupted => ": wait was interrupted"

/-- Creates, watches and deletes tables: the client to use, the time between two looks, and the
most time of a wait. -/
structure Lifecycle (T : Type) where
  client : Client
  pollInterval : T
  maxWait : T

/-- What a look at a table found: its status, or that there is no such table. -/
inductive Sighting where
  | present (status : Status)
  | missing
  deriving DecidableEq, Repr

/-- The status that ends a wait for the goal, if the sighting does. -/
def Goal.reached? : Goal → Sighting → Option Status
  | .active, .present .active => some .active
  | .deleted, .missing => some .absent
  | _, _ => none

def Sighting.status : Sighting → Status
  | present s => s
  | missing => .absent

/-- The sighting deserves a log record: a wait for deletion ends without one. -/
def Goal.mentions : Goal → Sighting → Bool
  | .deleted, .missing => false
  | _, _ => true

namespace Lifecycle

variable {T : Type} [TimeScale T] (l : Lifecycle T)

def describe (tableName : String) : Run T Descriptor := do
  Run.ofExcept (Descriptor.ofDescription (← l.client.describeTable (.text tableName)))

def look (tableName : String) : Run T Sighting := do
  match ← Run.attempt (l.describe tableName) with
  | .ok d => return .present d.status
  | .error (.reported e chained) =>
    if e.code? == some notFoundCode then return .missing else throw (.reported e chained)
  | .error f => throw f

/-- Creates a table unless there is one; answers whether it did. -/
def create (d : Definition) : Run T Bool := do
  Run.log .info .tables ("Creating table '" ++ d.tableName ++ "'")
  match ← Run.attempt (l.client.createTable d.request) with
  | .ok _ => return true
  | .error (.reported e chained) =>
    if e.code? == some inUseCode then
      Run.log .info .tables "Table already exists.  No problem!"
      return false
    else throw (.reported e chained)
  | .error f => throw f

/-- Waits before the next look, never past the deadline. -/
def pause (deadline : T) (goal : Goal) (tableName : String) : Run T Unit := do
  let remaining := deadline - (← get).clock
  if remaining ≤ TimeScale.none then
    Run.fail ((WaitProblem.timedOut l.maxWait).error goal tableName)
  let time := if remaining < l.pollInterval then remaining else l.pollInterval
  if ← Run.wait time then Run.fail ((WaitProblem.interrupted (T := T)).error goal tableName)

/-- Looks and pauses until the goal is reached; every look uses up an answer of the script, so that
their number is enough looks. -/
def watch (deadline : T) (goal : Goal) (tableName : String) : Nat → Run T Status
  | 0 => throw (.scriptEnded .describeTable)
  | looks + 1 => do
    let sighting ← l.look tableName
    if goal.mentions sighting then
      Run.log .debug .tables ("Table '" ++ tableName ++ "' status: " ++ sighting.status.name)
    match goal.reached? sighting with
    | some status => return status
    | none =>
      l.pause deadline goal tableName
      watch deadline goal tableName looks

def await (goal : Goal) (tableName : String) : Run T Status := do
  let w ← get
  l.watch (w.clock + l.maxWait) goal tableName (w.script.length + 1)

/-- Creates a table unless there is one, and waits until it is active. -/
def ensure (d : Definition) : Run T Status := do
  let _ ← l.create d
  Run.log .debug .tables "Waiting until the table is in ACTIVE state"
  l.await .active d.tableName

/-- Deletes a table and waits until it is gone. -/
def drop (tableName : String) : Run T Status := do
  Run.log .info .tables ("Issuing DeleteTable request for " ++ tableName)
  let _ ← l.client.deleteTable (.text tableName)
  Run.log .info .tables
    ("Waiting for " ++ tableName ++ " to be deleted...this may take a while...")
  l.await .deleted tableName

/-- Deletes a table if it can, and answers whether it is gone: reported errors are only logged. -/
def tryDrop (tableName : String) : Run T Bool := do
  match ← Run.attempt (l.drop tableName) with
  | .ok status => return status == .absent
  | .error (.reported e _) =>
    Run.log .error .tables ("DeleteTable request failed for " ++ tableName ++ ": " ++ e.message)
    return false
  | .error f => throw f

def sweep (tableName : String) : Run T Unit := do
  match ← Run.attempt (l.client.deleteTable (.text tableName)) with
  | .ok _ => return ()
  | .error (.reported e _) =>
    Run.log .debug .tables ("Cleanup delete for " ++ tableName ++ " ignored: " ++ e.message)
  | .error f => throw f

/-- Deletes a table as well as it can: a second request follows in any case. -/
def cleanUp (tableName : String) : Run T Bool := do
  let deleted ← l.tryDrop tableName
  l.sweep tableName
  return deleted

end Lifecycle

end Table

end TableBench
