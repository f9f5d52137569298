import TableBench.Error
import TableBench.Log

namespace TableBench

/-- A request that reached the store and was rejected. What the store says of it is taken as it
comes; a missing status or request identifier counts as null. -/
structure Rejection where
  operation : String
  code : Option Document
  said : Option Document
  status : Document
  requestId : Document
  retries : Option Document

/-- Reads a rejection off the response that carries it; the retries count only once they ran out. -/
def Rejection.ofResponse (operation : String) (response : Document) : Rejection :=
  let error (k : String) := (response.get? "Error").bind (·.get? k)
  let metadata (k : String) := (response.get? "ResponseMetadata").bind (·.get? k)
  { operation
    code := error "Code"
    said := error "Message"
    status := .orNull (metadata "HTTPStatusCode")
    requestId := .orNull (metadata "RequestId")
    retries :=
      if Document.isBlank? (metadata "MaxAttemptsReached") then none
      else metadata "RetryAttempts" }

def Rejection.text (r : Rejection) : String :=
  let note := match r.retries with
    | some n => " (reached max retries: " ++ n.shown ++ ")"
    | none => ""
  let known (d : Option Document) := (d.getD (.text "Unknown")).shown
  "An error occurred (" ++ known r.code ++ ") when calling the " ++ r.operation ++
    " operation" ++ note ++ ": " ++ known r.said

/-- What a call to the store may end in instead of a response: it was rejected, or no definite
answer was received, for a reason that is given in words. -/
inductive Fault where
  | rejected (r : Rejection)
  | transport (text : String)
  | reported (e : BenchError)
  | stray (s : Stray)

end TableBench
