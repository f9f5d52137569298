import TableBench.Proofs.Diagnosis
import TableBench.Proofs.Service

namespace TableBench

/-- A fault of the store or of the way to it whose code, if it has one, is a text and whose status
is an integer or missing. -/
def Fault.Orderly : Fault → Prop
  | .rejected r =>
    (r.code = none ∨ ∃ s, r.code = some (.text s)) ∧ (r.status = .null ∨ ∃ n, r.status = .int n)
  | .transport _ => True
  | .reported _ | .stray _ => False

theorem blame_of_status {d : Document} (h : d = .null ∨ ∃ n, d = .int n) :
    ∃ origin, blame d = .ok origin := by
  rcases h with rfl | ⟨n, rfl⟩
  · exact ⟨_, rfl⟩
  · exact ⟨_, rfl⟩

/-- A rejection is told by its code alone, unless the request was throttled. -/
theorem Rejection.diagnosis_of_code {r : Rejection}
    (hcode : r.code = none ∨ ∃ s, r.code = some (.text s))
    (hstatus : r.status = .null ∨ ∃ n, r.status = .int n) :
    ∃ origin, r.diagnosis = .ok (if r.isThrottling then .throttled r.message
      else .service r.message ⟨r.status, .orNull r.code, origin, r.requestId⟩) := by
  have hc : r.code.any (·.isComposite) = false := by
    rcases hcode with hcode | ⟨s, hcode⟩ <;> rw [hcode] <;> rfl
  obtain ⟨origin, ho⟩ := blame_of_status hstatus
  exact ⟨origin, Rejection.diagnosis_of_blame hc ho⟩

theorem Fault.failure_of_diagnosis {r : Rejection} {e : BenchError} (h : r.diagnosis = .ok e) :
    (Fault.rejected r).failure = .reported e (!r.isThrottling) := by
  simp only [Fault.failure, h]

theorem Fault.Orderly.failure {f : Fault} (h : f.Orderly) :
    ∃ e chained, f.failure = .reported e chained := by
  cases f with
  | rejected r =>
    obtain ⟨origin, hd⟩ := Rejection.diagnosis_of_code h.1 h.2
    exact ⟨_, _, Fault.failure_of_diagnosis hd⟩
  | transport p => exact ⟨_, _, rfl⟩
  | reported e => exact h.elim
  | stray s => exact h.elim

def Fault.Rejects (code : String) (f : Fault) : Prop :=
  ∃ r : Rejection, f = .rejected r ∧ r.code = some (.text code) ∧
    (r.status = .null ∨ ∃ n, r.status = .int n)

theorem Fault.Rejects.failure {code : String} {f : Fault} (h : f.Rejects code)
    (hc : code ∉ throttlingCodes) :
    ∃ e chained, f.failure = .reported e chained ∧ e.code? = some code := by
  obtain ⟨r, rfl, hcode, hstatus⟩ := h
  obtain ⟨origin, hd⟩ := Rejection.diagnosis_of_code (.inr ⟨code, hcode⟩) hstatus
  have ht : r.isThrottling = false := by
    rw [Rejection.isThrottling, hcode]
    rw [Option.bind_some, Document.text?, Option.any_some]
    exact Bool.eq_false_iff.2 fun h => hc (List.contains_iff_mem.1 h)
  rw [ht, if_neg Bool.false_ne_true, hcode] at hd
  exact ⟨_, _, Fault.failure_of_diagnosis hd, rfl⟩

theorem Fault.Orderly.rejects_iff {f : Fault} {error : BenchError} {chained : Bool} {code : String}
    (h : f.Orderly) (hf : f.failure = .reported error chained) (hc : code ∉ throttlingCodes) :
    f.Rejects code ↔ error.code? = some code := by
  constructor
  · intro hr
    obtain ⟨error', chained', hf', hcode⟩ := hr.failure hc
    rw [hf] at hf'
    cases hf'
    exact hcode
  · intro hcode
    cases f with
    | rejected r =>
      obtain ⟨origin, hd⟩ := Rejection.diagnosis_of_code h.1 h.2
      rw [Fault.failure_of_diagnosis hd] at hf
      cases hf
      split at hcode
      · cases hcode
      · refine ⟨r, rfl, ?_, h.2⟩
        rcases h.1 with hnone | ⟨s, hs⟩
        · rw [hnone] at hcode
          cases hcode
        · rw [hs] at hcode ⊢
          rw [Option.some.inj (hcode : some s = some code)]
    | transport p =>
      cases hf
      cases hcode
    | reported e => exact h.elim
    | stray s => exact h.elim

namespace Table.Descriptor

inductive Entries (first second : String) : Option Document → Prop
  | missing : Entries first second none
  | there {ds : List Document}
    (h : ∀ d ∈ ds, ∃ fs v v', d = .object fs ∧ fs.lookup first = some v ∧
      fs.lookup second = some v') : Entries first second (some (.list ds))

inductive Whole : Option Document → Prop
  | missing : Whole none
  | there (n : Int) : Whole (some (.int n))

inductive Throughput : Option Document → Prop
  | missing : Throughput none
  | there {fs : Fields} (hr : Whole (fs.lookup "ReadCapacityUnits"))
    (hw : Whole (fs.lookup "WriteCapacityUnits")) : Throughput (some (.object fs))

/-- A description as the store gives them; its status may be anything. -/
structure Orderly (fs : Fields) : Prop where
  name : ∃ d, fs.lookup "TableName" = some d
  keys : Entries "AttributeName" "KeyType" (fs.lookup "KeySchema")
  definitions : Entries "AttributeName" "AttributeType" (fs.lookup "AttributeDefinitions")
  throughput : Throughput (fs.lookup "ProvisionedThroughput")

theorem require_object {fs : Fields} {k : String} {d : Document} (h : fs.lookup k = some d) :
    (Document.object fs).require k = .ok d := by
  simp only [Document.require, h]

theorem Entries.optionalParts {first second : String} {d : Option Document}
    (h : Entries first second d) :
    ∃ ds, Descriptor.optionalParts d = .ok ds ∧ ∀ d ∈ ds, ∃ fs v v', d = .object fs ∧
      fs.lookup first = some v ∧ fs.lookup second = some v' := by
  cases h with
  | missing => exact ⟨[], rfl, List.forall_mem_nil _⟩
  | there h => exact ⟨_, rfl, h⟩

theorem hashKey_of_entries {ds : List Document}
    (h : ∀ d ∈ ds, ∃ fs v v', d = .object fs ∧ fs.lookup "AttributeName" = some v ∧
      fs.lookup "KeyType" = some v') : ∃ d, hashKey ds = .ok d := by
  induction ds with
  | nil => exact ⟨_, rfl⟩
  | cons d ds ih =>
    rw [List.forall_mem_cons] at h
    obtain ⟨⟨fs, v, v', rfl, hv, hv'⟩, hds⟩ := h
    obtain ⟨a, ha⟩ := ih hds
    simp only [hashKey, Document.requireFields, bind, Except.bind, require_object hv, ha]
    split <;> exact ⟨_, rfl⟩

theorem typeOf_of_entries (attributeName : Document) {ds : List Document}
    (h : ∀ d ∈ ds, ∃ fs v v', d = .object fs ∧ fs.lookup "AttributeName" = some v ∧
      fs.lookup "AttributeType" = some v') : ∃ d, typeOf attributeName ds = .ok d := by
  induction ds with
  | nil => exact ⟨_, rfl⟩
  | cons d ds ih =>
    rw [List.forall_mem_cons] at h
    obtain ⟨⟨fs, v, v', rfl, hv, hv'⟩, hds⟩ := h
    obtain ⟨a, ha⟩ := ih hds
    simp only [typeOf, Document.requireFields, bind, Except.bind, require_object hv', ha]
    split <;> exact ⟨_, rfl⟩

theorem Whole.capacity {d : Option Document} (h : Whole d) :
    ∃ n, Descriptor.capacity d = .ok n := by
  cases h <;> exact ⟨_, rfl⟩

theorem Throughput.capacities {d : Option Document} (h : Throughput d) :
    ∃ fs m n, (d.getD (.object [])).requireFields = .ok fs ∧
      Descriptor.capacity (fs.lookup "ReadCapacityUnits") = .ok m ∧
      Descriptor.capacity (fs.lookup "WriteCapacityUnits") = .ok n := by
  cases h with
  | missing => exact ⟨[], _, _, rfl, rfl, rfl⟩
  | there hr hw =>
    obtain ⟨m, hm⟩ := hr.capacity
    obtain ⟨n, hn⟩ := hw.capacity
    exact ⟨_, m, n, rfl, hm, hn⟩

theorem Orderly.ofDescription_status {fs : Fields} (h : Orderly fs) :
    ∃ t, Descriptor.ofDescription (.object fs) = .ok t ∧
      t.status = .ofService (.orNull (fs.lookup "TableStatus")) := by
  obtain ⟨name, hname⟩ := h.name
  obtain ⟨keys, hkeys, hks⟩ := h.keys.optionalParts
  obtain ⟨attributeName, hattribute⟩ := hashKey_of_entries hks
  obtain ⟨definitions, hdefinitions, hds⟩ := h.definitions.optionalParts
  obtain ⟨type, htype⟩ := typeOf_of_entries attributeName hds
  obtain ⟨throughput, m, n, hthroughput, hm, hn⟩ := h.throughput.capacities
  simp only [Descriptor.ofDescription, show (Document.object fs).requireFields = .ok fs from rfl,
    bind, Except.bind, hkeys, hattribute, hdefinitions, htype, require_object hname, hthroughput,
    hm, hn]
  exact ⟨_, rfl, rfl⟩

theorem Orderly.ofDescription {fs : Fields} (h : Orderly fs) :
    ∃ t, Descriptor.ofDescription (.object fs) = .ok t := by
  obtain ⟨t, ht, -⟩ := h.ofDescription_status
  exact ⟨t, ht⟩

end Table.Descriptor

namespace Table

/-- An answer to a request about a table that is a fault of the store or has the parts that such
answers have. -/
inductive Orderly : Request → Answer → Prop
  | fault {request : Request} {f : Fault} (h : f.Orderly) : Orderly request (.error f)
  | deleted {table : Document} {response : Fields} {d : Document}
    (h : response.lookup "TableDescription" = some d) :
    Orderly (.deleteTable table) (.ok (.object response))
  | described {table : Document} {response fs : Fields}
    (h : response.lookup "Table" = some (.object fs)) (hfs : Descriptor.Orderly fs) :
    Orderly (.describeTable table) (.ok (.object response))
  | other {request : Request} {answer : Answer} (hd : request.operation ≠ .deleteTable)
    (hl : request.operation ≠ .describeTable) : Orderly request answer

def orderly : Service Unit where
  Answers _ _ request answer _ := Orderly request answer

theorem Orderly.serves {target : Target} {request : Request} {answer : Answer} {es : List Event}
    (h : Orderly request answer) (hs : orderly.Serves () es ()) :
    orderly.Serves () (.call target request (some answer) :: es) () :=
  .call h hs

theorem Orderly.fault_orderly {table : Document} {request : Request} {f : Fault}
    (hr : request = .deleteTable table ∨ request = .describeTable table)
    (h : Orderly request (.error f)) : f.Orderly := by
  cases h with
  | fault h => exact h
  | other hd hl =>
    rcases hr with rfl | rfl
    · exact absurd rfl hd
    · exact absurd rfl hl

theorem Orderly.of_deleted {table d : Document} (h : Orderly (.deleteTable table) (.ok d)) :
    ∃ part, d.require "TableDescription" = .ok part := by
  cases h with
  | deleted h => exact ⟨_, Descriptor.require_object h⟩
  | other hd _ => exact absurd rfl hd

theorem Orderly.of_described {table d : Document} (h : Orderly (.describeTable table) (.ok d)) :
    ∃ part t, d.require "Table" = .ok part ∧ Descriptor.ofDescription part = .ok t := by
  cases h with
  | described h hfs =>
    obtain ⟨t, ht⟩ := hfs.ofDescription
    exact ⟨_, t, Descriptor.require_object h, ht⟩
  | other _ hl => exact absurd rfl hl

end Table

end TableBench
