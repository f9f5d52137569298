import TableBench.Document.Writer

namespace TableBench

inductive Operation where
  | getItem
  | putItem
  | batchGetItem
  | batchWriteItem
  | describeTable
  | createTable
  | deleteTable
  deriving DecidableEq, Repr

inductive ErrorKind where
  | throttled
  | serviceFault
  | transportFault
  | invalidArgument
  | provisioningFailure
  deriving DecidableEq, Repr

/-- What the store said about a request it rejected, null where it said nothing. -/
structure FaultDetail where
  status : Document
  code : Document
  origin : Document
  requestId : Document

/-- An error that is reported to the user, with its text. The store may give anything for a text. -/
inductive BenchError where
  | general (text : Document)
  | throttled (text : Document)
  | service (text : Document) (detail : FaultDetail)
  | transport (text : Document)
  | credentials (text : Document)
  | invalidArgument (text : Document)
  | provisioning (text : Document)

namespace BenchError

/-- The text without any detail. -/
def text : BenchError → Document
  | general t | throttled t | service t _ | transport t | credentials t | invalidArgument t
  | provisioning t => t

/-- Missing credentials count as a failure to get through; a general error has no kind. -/
def kind : BenchError → Option ErrorKind
  | general _ => none
  | throttled _ => some .throttled
  | service _ _ => some .serviceFault
  | transport _ | credentials _ => some .transportFault
  | invalidArgument _ => some .invalidArgument
  | provisioning _ => some .provisioningFailure

def code? : BenchError → Option String
  | service _ d => d.code.text?
  | _ => none

/-- The full message: a rejected request adds what the store said about it. -/
def message : BenchError → String
  | service t d =>
    t.shown ++ " (Status Code: " ++ d.status.shown ++ "; Error Code: " ++ d.code.shown ++
      "; Request ID: " ++ d.requestId.shown ++ ")"
  | e => e.text.shown

end BenchError

def notFoundCode : String := "ResourceNotFoundException"

def inUseCode : String := "ResourceInUseException"

/-- An error from outside that belongs to no family of the store or the connection. -/
inductive Stray where
  | badValue (text : String)
  | broken (text : String)
  | missingField (name : Document)

/-- Why a run stops: a reported error, raised from another one or not, or a defect that nothing
absorbs. -/
inductive Failure where
  | reported (error : BenchError) (chained : Bool)
  | stray (s : Stray)
  | mismatch
  | noFields
  | overflow (text : String)
  | scriptEnded (operation : Operation)

def Failure.missingField (name : String) : Failure := .stray (.missingField (.text name))

def Failure.badValue (text : String) : Failure := .stray (.badValue text)

def Failure.tooManyDigits : Failure :=
  .badValue ("Exceeds the limit (" ++ toString Number.maxDigits ++ " digits) for integer string " ++
    "conversion; use sys.set_int_max_str_digits() to increase the limit")

def Failure.tooLong : Failure := .overflow "timestamp out of range for platform time_t"

namespace Stray

def label : Stray → String
  | badValue _ => "ValueError"
  | broken _ => "RuntimeError"
  | missingField _ => "KeyError"

/-- The text of a stray error; the name of a missing field is a literal. -/
def message : Stray → String
  | badValue t | broken t => t
  | missingField k => k.literal

end Stray

end TableBench
