import TableBench.Proofs.Diagnosis
import TableBench.Proofs.Run.Operations

namespace TableBench

/-- Who is to blame for a rejection with a status, in a word. -/
inductive Blamed : Option Document → String → Prop
  | nobody : Blamed none "None"
  | service {n : Int} (h : 500 ≤ n) : Blamed (some (.int n)) "Service"
  | client {n : Int} (h : n < 500) : Blamed (some (.int n)) "Client"

namespace Fault

/-- The lines of the report on a fault: one on a request that was throttled, six on one that was
rejected otherwise, two on one without a response. There is none on any other error. -/
inductive Told : Fault → List String → Prop
  | throttled {operation code : String} {response : Fields} (h : response.Refuses)
    (hcode : code ∈ throttlingCodes) (hc : response.within "Error" "Code" = some (.text code)) :
    Told (.rejected (.ofResponse operation (.object response)))
      ["Caught " ++ code ++ ": request made it to DynamoDB but was throttled " ++
        "for consuming more capacity than provisioned"]
  | rejected {operation origin : String} {response : Fields} (h : response.Refuses)
    (ht : ¬ response.Throttles)
    (ho : Blamed (response.within "ResponseMetadata" "HTTPStatusCode") origin) :
    Told (.rejected (.ofResponse operation (.object response)))
      ["Caught a service fault: request made it to DynamoDB but was rejected",
       "Error Message:    " ++ response.message operation,
       "HTTP Status Code: " ++
        (Document.orNull (response.within "ResponseMetadata" "HTTPStatusCode")).shown,
       "AWS Error Code:   " ++ (Document.orNull (response.within "Error" "Code")).shown,
       "Error Type:       " ++ origin,
       "Request ID:       " ++
        (Document.orNull (response.within "ResponseMetadata" "RequestId")).shown]
  | transport (text : String) :
    Told (.transport text)
      ["Caught a transport fault: the client could not get a response from DynamoDB",
       "Error Message: " ++ text]
  | reported (e : BenchError) : Told (.reported e) []
  | stray (s : Stray) : Told (.stray s) []

/-- A fault as it comes up in a call: a rejection has a response that tells of it. -/
inductive Proper : Fault → Prop
  | rejected (operation : String) {response : Fields} (h : response.Refuses) :
    Proper (.rejected (.ofResponse operation (.object response)))
  | transport (text : String) : Proper (.transport text)
  | reported (e : BenchError) : Proper (.reported e)
  | stray (s : Stray) : Proper (.stray s)

end Fault

theorem Integral.blamed {d : Option Document} (h : Integral d) :
    ∃ origin, TableBench.blame (.orNull d) = .ok origin ∧ Blamed d origin.shown := by
  obtain ⟨origin, ho, hservice, hclient, hnobody⟩ := h.blame
  refine ⟨origin, ho, ?_⟩
  cases h with
  | missing =>
    rw [hnobody.2 rfl]
    exact .nobody
  | there n =>
    by_cases hn : 500 ≤ n
    · rw [hservice.2 ⟨n, rfl, hn⟩]
      exact .service hn
    · have hn := Int.not_le.1 hn
      rw [hclient.2 ⟨n, rfl, hn⟩]
      exact .client hn

namespace Fault

theorem told_ofResponse (operation : String) {response : Fields} (h : response.Refuses) :
    ∃ lines, Told (.rejected (.ofResponse operation (.object response))) lines ∧
      (Rejection.ofResponse operation (.object response)).records = lines.map faultRecord := by
  obtain ⟨origin, hblame, horigin⟩ := h.status.blamed
  have hd := Rejection.diagnosis_of_blame
    (r := .ofResponse operation (.object response)) h.code.not_composite hblame
  have ht := Rejection.isThrottling_ofResponse operation h
  rw [Rejection.message_ofResponse operation h] at hd
  by_cases hthrottles : response.Throttles
  · rw [ht.2 hthrottles] at hd
    obtain ⟨code, hcode, hc⟩ := hthrottles
    refine ⟨_, .throttled h hcode hc, ?_⟩
    rw [Rejection.records, hd, Rejection.code_ofResponse, hc]
    rfl
  · rw [Bool.eq_false_iff.2 fun h => hthrottles (ht.1 h)] at hd
    refine ⟨_, .rejected h hthrottles horigin, ?_⟩
    rw [Rejection.records, hd]
    rfl

theorem Proper.told {f : Fault} (h : f.Proper) :
    ∃ lines, Told f lines ∧ f.records = lines.map faultRecord := by
  cases h with
  | rejected operation h => exact told_ofResponse operation h
  | transport text => exact ⟨_, .transport text, rfl⟩
  | reported e => exact ⟨_, .reported e, rfl⟩
  | stray s => exact ⟨_, .stray s, rfl⟩

theorem diagnosis_of_mem_records {f : Fault} {r : LogRecord} (h : r ∈ f.records) :
    r.component = .diagnosis := by
  have hlines (lines : List String) (h : r ∈ lines.map faultRecord) :
      r.component = .diagnosis := by
    obtain ⟨line, -, rfl⟩ := List.mem_map.1 h
    rfl
  cases f with
  | rejected rejection =>
    change r ∈ rejection.records at h
    rw [Rejection.records] at h
    split at h
    · exact hlines [_, _, _, _, _, _] h
    · exact hlines [_] h
    · cases h
  | transport text => exact hlines [_, _] h
  | reported e => cases h
  | stray s => cases h

end Fault

def Event.fault? : Event → Option Fault
  | call _ _ (some (.error f)) => some f
  | _ => none

def Outcome.fault? {T : Type} (o : Outcome T) : Option Fault :=
  match o.answer with
  | .ok _ => none
  | .error f => some f

def faultReports (rs : List LogRecord) : List LogRecord := rs.filter (·.component == .diagnosis)

theorem faultReports_append (rs rs' : List LogRecord) :
    faultReports (rs ++ rs') = faultReports rs ++ faultReports rs' := List.filter_append rs rs'

theorem faultReports_records (f : Fault) : faultReports f.records = f.records :=
  List.filter_eq_self.2 fun _ hr => beq_iff_eq.2 (f.diagnosis_of_mem_records hr)

namespace World

variable {T : Type}

/-- With these outcomes the run made these events and these records: each fault among the outcomes
came up in one request, and was reported on then and there. -/
structure Reporting (w : World T) (used : List (Outcome T)) (es : List Event)
    (rs : List LogRecord) (w' : World T) : Prop where
  script : w.script = used ++ w'.script
  events : w'.events = w.events ++ es
  logs : w'.logs = w.logs ++ rs
  faults : es.filterMap Event.fault? = used.filterMap Outcome.fault?
  reports : faultReports rs = (es.filterMap Event.fault?).flatMap Fault.records

def Reports (w w' : World T) : Prop := ∃ used es rs, w.Reporting used es rs w'

namespace Reports

variable {w w₁ w₂ : World T}

theorem of_eq (hs : w₁.script = w.script) (he : w₁.events = w.events) (hl : w₁.logs = w.logs) :
    w.Reports w₁ :=
  ⟨[], [], [], hs.symm, by rw [he, List.append_nil], by rw [hl, List.append_nil], rfl, rfl⟩

theorem trans (h : w.Reports w₁) (h' : w₁.Reports w₂) : w.Reports w₂ := by
  obtain ⟨used, es, rs, h⟩ := h
  obtain ⟨used', es', rs', h'⟩ := h'
  refine ⟨used ++ used', es ++ es', rs ++ rs', ?_, ?_, ?_, ?_, ?_⟩
  · rw [h.script, h'.script, List.append_assoc]
  · rw [h'.events, h.events, List.append_assoc]
  · rw [h'.logs, h.logs, List.append_assoc]
  · rw [List.filterMap_append, List.filterMap_append, h.faults, h'.faults]
  · rw [faultReports_append, List.filterMap_append, List.flatMap_append, h.reports, h'.reports]

theorem of_event (used : List (Outcome T)) {e : Event} (hs : w.script = used ++ w₁.script)
    (he : w₁.events = w.events ++ [e]) (hl : w₁.logs = w.logs) (hf : e.fault? = none)
    (hu : used.filterMap Outcome.fault? = []) : w.Reports w₁ := by
  have hnone : [e].filterMap Event.fault? = [] := by
    rw [List.filterMap_cons_none hf, List.filterMap_nil]
  refine ⟨used, [e], [], hs, he, by rw [hl, List.append_nil], by rw [hnone, hu], ?_⟩
  rw [hnone]
  rfl

instance heedless : Heedless (T := T) Reports where
  refl _ := of_eq rfl rfl rfl
  trans := trans
  logged w r hr := by
    refine ⟨[], [], [r], rfl, (List.append_nil _).symm, rfl, rfl, ?_⟩
    exact List.filter_eq_nil_iff.2 fun _ h => by
      rw [List.mem_singleton.1 h, beq_iff_eq]
      exact hr
  noted w e he := by
    refine of_event [] rfl rfl rfl ?_ rfl
    cases e with
    | call => cases he
    | _ => rfl
  waited _ _ _ := of_eq rfl rfl rfl
  unanswered _ _ _ := of_event [] rfl rfl rfl rfl rfl
  responded hs ho _ _ _ := by
    refine of_event [_] hs rfl rfl rfl ?_
    rw [List.filterMap_cons_none, List.filterMap_nil]
    rw [Outcome.fault?, ho]
  faulted := by
    intro w o script f hs ho target request clock
    refine ⟨[o], [.call target request (some (.error f))], f.records, hs, rfl, rfl, ?_, ?_⟩
    · have hf : o.fault? = some f := by rw [Outcome.fault?, ho]
      rw [List.filterMap_cons_some hf]
      rfl
    · rw [faultReports_records]
      exact (List.flatMap_singleton Fault.records f).symm
  sourced _ _ := of_eq rfl rfl rfl

end Reports

end World

end TableBench
