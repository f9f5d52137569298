import TableBench.Document.Access
import TableBench.Fault

namespace TableBench

/-- The codes of requests that asked for more capacity than the table has. -/
def throttlingCodes : List String :=
  ["ProvisionedThroughputExceededException", "ThrottlingException", "RequestLimitExceeded"]

/-- The status from which on the service is to blame. -/
def leastServiceStatus : Int := 500

/-- Who is to blame for a rejection, told by its status: the service or the client, or nobody when
there is no status. A status has to be a number; a truth value counts as one. -/
def blame : Document → Except Failure Document
  | .null => .ok .null
  | .float x => .ok (blamed (Float.ofInt leastServiceStatus ≤ x))
  | d =>
    match d.whole? with
    | some n => .ok (blamed (leastServiceStatus ≤ n))
    | none => .error .mismatch
where
  blamed (service : Bool) : Document := .text (if service then "Service" else "Client")

namespace Rejection

/-- The request was rejected only because the table was too busy. -/
def isThrottling (r : Rejection) : Bool := (r.code.bind (·.text?)).any throttlingCodes.contains

/-- What the store said, or the rejection in words when it said nothing. -/
def message (r : Rejection) : Document :=
  match r.said with
  | some d => if d.isBlank then .text r.text else d
  | none => .text r.text

/-- The error that stands for a rejection. There is none for a code that is a list or an object, and
none for a status that is no number unless the request was throttled. -/
def diagnosis (r : Rejection) : Except Failure BenchError := do
  if r.code.any (·.isComposite) then throw .mismatch
  if r.isThrottling then return .throttled r.message
  let origin ← blame r.status
  return .service r.message ⟨r.status, .orNull r.code, origin, r.requestId⟩

end Rejection

def faultRecord (message : String) : LogRecord := ⟨.error, .diagnosis, message⟩

/-- The report on a rejection: six lines, or one when it was throttled. A rejection that cannot be
told has none. -/
def Rejection.records (r : Rejection) : List LogRecord :=
  match r.diagnosis with
  | .ok (.service text d) =>
    [faultRecord "Caught a service fault: request made it to DynamoDB but was rejected",
     faultRecord ("Error Message:    " ++ text.shown),
     faultRecord ("HTTP Status Code: " ++ d.status.shown),
     faultRecord ("AWS Error Code:   " ++ d.code.shown),
     faultRecord ("Error Type:       " ++ d.origin.shown),
     faultRecord ("Request ID:       " ++ d.requestId.shown)]
  | .ok _ =>
    [faultRecord ("Caught " ++ (Document.orNull r.code).shown ++
      ": request made it to DynamoDB but was throttled " ++
      "for consuming more capacity than provisioned")]
  | .error _ => []

/-- The report on a fault; a fault that is no news to the reporter has none. -/
def Fault.records : Fault → List LogRecord
  | rejected r => r.records
  | transport text =>
    [faultRecord "Caught a transport fault: the client could not get a response from DynamoDB",
     faultRecord ("Error Message: " ++ text)]
  | reported _ | stray _ => []

def Stray.complaint (s : Stray) : String :=
  "Cannot classify " ++ s.label ++ ": " ++ s.message

/-- What the caller of the store sees of a fault: a throttled request loses its history. -/
def Fault.failure : Fault → Failure
  | rejected r =>
    match r.diagnosis with
    | .ok e => .reported e (!r.isThrottling)
    | .error f => f
  | transport text => .reported (.transport (.text text)) true
  | reported e => .reported e false
  | stray s => .stray s

end TableBench
