import TableBench.Client
import TableBench.Proofs.Run.Step

namespace TableBench

/-- A field of a part of a response; the part may be missing as well. -/
def Fields.within (response : Fields) (part field : String) : Option Document :=
  (response.lookup part).bind (·.get? field)

inductive Part : Option Document → Prop
  | missing : Part none
  | there (fs : Fields) : Part (some (.object fs))

inductive Textual : Option Document → Prop
  | missing : Textual none
  | there (s : String) : Textual (some (.text s))

inductive Integral : Option Document → Prop
  | missing : Integral none
  | there (n : Int) : Integral (some (.int n))

/-- The response of a rejected request. All it says may be missing, and more may be said. -/
structure Fields.Refuses (response : Fields) : Prop where
  error : Part (response.lookup "Error")
  metadata : Part (response.lookup "ResponseMetadata")
  code : Textual (response.within "Error" "Code")
  said : Textual (response.within "Error" "Message")
  status : Integral (response.within "ResponseMetadata" "HTTPStatusCode")

namespace Fields

/-- The text of a field, with a word for a missing one. -/
def worded (d : Option Document) : String := (d.bind (·.text?)).getD "Unknown"

def retryNote (response : Fields) : String :=
  match response.within "ResponseMetadata" "RetryAttempts" with
  | some n =>
    if Document.isBlank? (response.within "ResponseMetadata" "MaxAttemptsReached") then ""
    else " (reached max retries: " ++ n.shown ++ ")"
  | none => ""

def rejectionText (response : Fields) (operation : String) : String :=
  "An error occurred (" ++ worded (response.within "Error" "Code") ++ ") when calling the " ++
    operation ++ " operation" ++ response.retryNote ++ ": " ++
    worded (response.within "Error" "Message")

/-- What the user is told of a rejected request: what the store said, unless that is nothing. -/
def message (response : Fields) (operation : String) : String :=
  match (response.within "Error" "Message").bind (·.text?) with
  | some s => if s = "" then response.rejectionText operation else s
  | none => response.rejectionText operation

/-- The request was rejected for asking too much of the table. -/
def Throttles (response : Fields) : Prop :=
  ∃ code ∈ throttlingCodes, response.within "Error" "Code" = some (.text code)

end Fields

theorem Textual.shown {d : Option Document} (h : Textual d) :
    (d.getD (.text "Unknown")).shown = Fields.worded d := by
  cases h <;> rfl

theorem Textual.not_composite {d : Option Document} (h : Textual d) :
    d.any (·.isComposite) = false := by
  cases h <;> rfl

theorem Integral.blame {d : Option Document} (h : Integral d) :
    ∃ origin, TableBench.blame (.orNull d) = .ok origin ∧
      (origin = .text "Service" ↔ ∃ n, d = some (.int n) ∧ 500 ≤ n) ∧
      (origin = .text "Client" ↔ ∃ n, d = some (.int n) ∧ n < 500) ∧
      (origin = .null ↔ d = none) := by
  cases h with
  | missing => exact ⟨.null, rfl, by simp, by simp, by simp⟩
  | there n =>
    by_cases hn : 500 ≤ n
    · refine ⟨.text "Service", ?_, by simp [hn], by simp [hn], by simp⟩
      simp [TableBench.blame, Document.orNull, Document.whole?, leastServiceStatus,
        blame.blamed, hn]
    · refine ⟨.text "Client", ?_, by simp [hn], by simp [Int.not_le.1 hn], by simp⟩
      simp [TableBench.blame, Document.orNull, Document.whole?, leastServiceStatus,
        blame.blamed, hn]

namespace Rejection

/-- The error of a rejection whose code is no composite, with who is to blame for it. -/
theorem diagnosis_of_blame {r : Rejection} {origin : Document}
    (hcode : r.code.any (·.isComposite) = false) (ho : blame r.status = .ok origin) :
    r.diagnosis = .ok (if r.isThrottling then .throttled r.message
      else .service r.message ⟨r.status, .orNull r.code, origin, r.requestId⟩) := by
  cases ht : r.isThrottling with
  | true => simp only [diagnosis, hcode, ht]; rfl
  | false => simp only [diagnosis, hcode, ht, ho]; rfl

theorem text_eq (r : Rejection) :
    r.text = "An error occurred (" ++ (r.code.getD (.text "Unknown")).shown ++
      ") when calling the " ++ r.operation ++ " operation" ++
      (r.retries.elim "" fun n => " (reached max retries: " ++ n.shown ++ ")") ++ ": " ++
      (r.said.getD (.text "Unknown")).shown := by
  unfold text
  cases r.retries <;> rfl

variable {response : Fields} (operation : String)

theorem code_ofResponse :
    (ofResponse operation (.object response)).code = response.within "Error" "Code" := rfl

theorem said_ofResponse :
    (ofResponse operation (.object response)).said = response.within "Error" "Message" := rfl

theorem retries_ofResponse :
    (ofResponse operation (.object response)).retries =
      if Document.isBlank? (response.within "ResponseMetadata" "MaxAttemptsReached") then none
      else response.within "ResponseMetadata" "RetryAttempts" := rfl

theorem text_ofResponse (h : response.Refuses) :
    (ofResponse operation (.object response)).text = response.rejectionText operation := by
  -- texts are compared as they stand, as `rw` would evaluate them
  unfold Fields.rejectionText
  rewrite [text_eq, code_ofResponse, said_ofResponse, h.code.shown, h.said.shown,
    retries_ofResponse, Fields.retryNote]
  generalize Document.isBlank? _ = unnoted
  generalize response.within "ResponseMetadata" "RetryAttempts" = retries
  cases unnoted <;> cases retries <;> rfl

theorem message_ofResponse (h : response.Refuses) :
    (ofResponse operation (.object response)).message = .text (response.message operation) := by
  have hs := h.said
  rw [message, said_ofResponse, text_ofResponse operation h, Fields.message]
  generalize response.within "Error" "Message" = said at hs
  cases hs with
  | missing => rfl
  | there s =>
    by_cases h : s = "" <;> simp [Document.isBlank, Document.size?, Document.text?, h]

theorem isThrottling_ofResponse (h : response.Refuses) :
    (ofResponse operation (.object response)).isThrottling = true ↔ response.Throttles := by
  rw [isThrottling, code_ofResponse, Fields.Throttles]
  generalize hd : response.within "Error" "Code" = code
  cases hd ▸ h.code with
  | missing => simp
  | there s => simp [Document.text?]

end Rejection

namespace Client

/-- Where a request goes: only requests about items leave the store's own service. -/
def targetOf (c : Client) : Request → Target
  | .getItem .. | .putItem .. | .batchGetItem _ | .batchWriteItem _ => c.dataTarget
  | .describeTable _ | .createTable _ | .deleteTable _ => .store

variable {T : Type} [TimeScale T]

/-- A request through the client, and the part of the response that it gives back. -/
def send (c : Client) : Request → Run T (Option Document)
  | .getItem table key consistent => c.getItem table key consistent
  | .putItem table item => return some (← c.putItem table item)
  | .batchGetItem items => return some (← c.batchGetItem items)
  | .batchWriteItem items => return some (← c.batchWriteItem items)
  | .describeTable table => return some (← c.describeTable table)
  | .createTable definition => return some (← c.createTable definition)
  | .deleteTable table => return some (← c.deleteTable table)

/-- Every request is one call to a service, and then its response is read. -/
theorem send_eq (c : Client) (request : Request) :
    ∃ read, c.send request = (Run.call (c.targetOf request) request >>= read : Run T _) := by
  cases request with
  | getItem => exact ⟨_, rfl⟩
  | putItem => exact ⟨_, rfl⟩
  | batchGetItem => exact ⟨_, rfl⟩
  | batchWriteItem => exact ⟨_, rfl⟩
  | describeTable => exact ⟨_, bind_assoc _ _ _⟩
  | createTable => exact ⟨_, bind_assoc _ _ _⟩
  | deleteTable => exact ⟨_, bind_assoc _ _ _⟩

variable {w : World T} {o : Outcome T} {script : List (Outcome T)} {f : Fault}

theorem send_of_fault (c : Client) (request : Request) (hs : w.script = o :: script)
    (ho : o.answer = .error f) :
    c.send request w =
      .error f.failure ((w.answered (c.targetOf request) request o script).logged f.records) := by
  obtain ⟨read, h⟩ := c.send_eq (T := T) request
  rw [h]
  exact Run.bind_of_error (Run.call_of_fault hs ho) read

/-- Whatever request it is and whichever client makes it, a fault becomes the reported error that
stands for it: a rejection is told by the code and the status of its response, and anything that
kept a response from coming is a failure of transport. -/
theorem fault_translation (c : Client) (request : Request) (hs : w.script = o :: script)
    (ho : o.answer = .error f) :
    let w' := (w.answered (c.targetOf request) request o script).logged f.records
    (∀ (operation : String) (response : Fields),
      f = .rejected (.ofResponse operation (.object response)) → response.Refuses →
      let code := response.within "Error" "Code"
      let status := response.within "ResponseMetadata" "HTTPStatusCode"
      let requestId := response.within "ResponseMetadata" "RequestId"
      let text := Document.text (response.message operation)
      (response.Throttles → c.send request w = .error (.reported (.throttled text) false) w') ∧
      (¬ response.Throttles → ∃ origin,
        c.send request w = .error (.reported (.service text
          ⟨.orNull status, .orNull code, origin, .orNull requestId⟩) true) w' ∧
        (origin = .text "Service" ↔ ∃ n, status = some (.int n) ∧ 500 ≤ n) ∧
        (origin = .text "Client" ↔ ∃ n, status = some (.int n) ∧ n < 500) ∧
        (origin = .null ↔ status = none))) ∧
    (∀ text : String, f = .transport text →
      c.send request w = .error (.reported (.transport (.text text)) true) w') := by
  intro w'
  constructor
  · rintro operation response rfl h code status requestId text
    obtain ⟨origin, hblame, horigin⟩ := h.status.blame
    have hd := Rejection.diagnosis_of_blame
      (r := .ofResponse operation (.object response)) h.code.not_composite hblame
    have hf : c.send request w = .error
        (Fault.rejected (.ofResponse operation (.object response))).failure w' :=
      c.send_of_fault request hs ho
    rw [Fault.failure, hd, Rejection.message_ofResponse operation h] at hf
    have ht := Rejection.isThrottling_ofResponse operation h
    constructor
    · intro hthrottles
      rw [ht.2 hthrottles] at hf
      exact hf
    · intro hthrottles
      rw [Bool.eq_false_iff.2 fun h => hthrottles (ht.1 h)] at hf
      exact ⟨origin, hf, horigin⟩
  · rintro text rfl
    exact c.send_of_fault request hs ho

def outOfOrder : Fields :=
  [("Error", .object [("Code", .text "InternalServerError"), ("Message", .text "")]),
   ("ResponseMetadata", .object [("HTTPStatusCode", .int 503), ("RetryAttempts", .int 4),
    ("MaxAttemptsReached", .bool true)])]

def rejecting : World Float where
  clock := 0
  source := { value := fun _ => "" }
  script := [⟨.error (.rejected (.ofResponse "PutItem" (.object outOfOrder))), 0⟩]

theorem fault_translation_outOfOrder : ∃ w',
    Client.accelerated.send (.putItem (.text "bench") (.object [])) rejecting = .error
      (.reported (.service (.text ("An error occurred (InternalServerError) when calling the " ++
          "PutItem operation (reached max retries: 4): "))
        ⟨.int 503, .text "InternalServerError", .text "Service", .null⟩) true) w' := by
  have hrefuses : outOfOrder.Refuses :=
    ⟨.there _, .there _, .there "InternalServerError", .there "", .there 503⟩
  have hthrottles : ¬ outOfOrder.Throttles := by
    rintro ⟨code, hcode, h⟩
    obtain rfl : "InternalServerError" = code := Document.text.inj (Option.some.inj h)
    revert hcode
    decide
  obtain ⟨origin, hsend, hservice, -⟩ := ((fault_translation .accelerated
    (.putItem (.text "bench") (.object [])) (w := rejecting) rfl rfl).1
    "PutItem" outOfOrder rfl hrefuses).2 hthrottles
  obtain rfl := hservice.2 ⟨503, rfl, by decide⟩
  have hmessage : outOfOrder.message "PutItem" = "An error occurred (InternalServerError) when " ++
      "calling the PutItem operation (reached max retries: 4): " := by
    decide +kernel
  rw [hmessage] at hsend
  exact ⟨_, hsend⟩

end Client

end TableBench
