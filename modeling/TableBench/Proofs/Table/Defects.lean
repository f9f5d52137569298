import TableBench.Diagnosis
import TableBench.Table.Descriptor

namespace TableBench

/-- The failure is a defect of what was read, and no error that anybody reported. -/
def Failure.IsDefect : Failure → Prop
  | .stray _ | .mismatch | .noFields | .overflow _ => True
  | .reported _ _ | .scriptEnded _ => False

def FailsAtDefects {α : Type} (r : Except Failure α) : Prop := ∀ f, r = .error f → f.IsDefect

namespace FailsAtDefects

variable {α β : Type}

theorem ok (a : α) : FailsAtDefects (.ok a) := by
  intro f h
  cases h

theorem error {f : Failure} (h : f.IsDefect) : FailsAtDefects (.error f : Except Failure α) := by
  intro f' h'
  cases h'
  exact h

theorem bind {r : Except Failure α} {g : α → Except Failure β} (hr : FailsAtDefects r)
    (hg : ∀ a, FailsAtDefects (g a)) : FailsAtDefects (r >>= g) := by
  cases r with
  | error f => exact error (hr f rfl)
  | ok a => exact hg a

theorem requireFields (d : Document) : FailsAtDefects d.requireFields := by
  cases d with
  | object fs => exact ok fs
  | _ => exact error trivial

theorem requireParts (d : Document) : FailsAtDefects d.requireParts := by
  cases d <;> first | exact ok _ | exact error trivial

theorem require (d : Document) (k : String) : FailsAtDefects (d.require k) := by
  cases d with
  | object fs =>
    rw [Document.require]
    cases fs.lookup k with
    | some d => exact ok d
    | none => exact error trivial
  | _ => exact error trivial

end FailsAtDefects

theorem blame_defects (d : Document) : FailsAtDefects (blame d) := by
  rw [blame.eq_def]
  split
  · exact .ok _
  · exact .ok _
  · split
    · exact .ok _
    · exact .error trivial

theorem Rejection.diagnosis_defects (r : Rejection) : FailsAtDefects r.diagnosis := by
  rw [Rejection.diagnosis]
  split
  · exact .error trivial
  · split
    · exact .ok _
    · exact (blame_defects _).bind fun _ => .ok _

theorem Rejection.diagnosis_cases {r : Rejection} {e : BenchError} (h : r.diagnosis = .ok e) :
    e = .throttled r.message ∨
      ∃ origin, e = .service r.message ⟨r.status, .orNull r.code, origin, r.requestId⟩ := by
  rw [Rejection.diagnosis] at h
  split at h
  · cases h
  · split at h
    · cases h
      exact .inl rfl
    · cases hb : blame r.status with
      | ok origin =>
        rw [hb] at h
        cases h
        exact .inr ⟨origin, rfl⟩
      | error f =>
        rw [hb] at h
        cases h

/-- What the caller of the store sees of a fault is an error or a defect. -/
theorem Fault.failure_reported_or_defect (f : Fault) :
    (∃ e chained, f.failure = .reported e chained) ∨ f.failure.IsDefect := by
  cases f with
  | rejected r =>
    rw [Fault.failure]
    cases hr : r.diagnosis with
    | ok e => exact .inl ⟨e, _, rfl⟩
    | error f => exact .inr (r.diagnosis_defects f hr)
  | transport text => exact .inl ⟨_, _, rfl⟩
  | reported e => exact .inl ⟨e, false, rfl⟩
  | stray s => exact .inr trivial

theorem Fault.failure_cases {f : Fault} {e : BenchError} {chained : Bool}
    (h : f.failure = .reported e chained) :
    (∃ r, f = .rejected r ∧ r.diagnosis = .ok e) ∨
      (∃ text, f = .transport text ∧ e = .transport (.text text)) ∨ f = .reported e := by
  cases f with
  | rejected r =>
    rw [Fault.failure] at h
    cases hr : r.diagnosis with
    | ok e' =>
      rw [hr] at h
      cases h
      exact .inl ⟨r, rfl, hr⟩
    | error f =>
      rw [hr] at h
      subst h
      exact (r.diagnosis_defects _ hr).elim
  | transport text =>
    cases h
    exact .inr (.inl ⟨text, rfl, rfl⟩)
  | reported e' =>
    cases h
    exact .inr (.inr rfl)
  | stray s => cases h

theorem Fault.eq_reported_of_provisioning {f : Fault} {text : Document} {chained : Bool}
    (h : f.failure = .reported (.provisioning text) chained) :
    f = .reported (.provisioning text) := by
  obtain ⟨r, rfl, hr⟩ | ⟨p, rfl, hp⟩ | rfl := Fault.failure_cases h
  · obtain he | ⟨origin, he⟩ := Rejection.diagnosis_cases hr
    · cases he
    · cases he
  · cases hp
  · rfl

namespace Table.Descriptor

open FailsAtDefects

theorem optionalParts_defects (d : Option Document) : FailsAtDefects (optionalParts d) := by
  cases d with
  | none => exact ok []
  | some d => exact requireParts d

theorem hashKey_defects (ds : List Document) : FailsAtDefects (hashKey ds) := by
  induction ds with
  | nil => exact ok _
  | cons d ds ih =>
    apply FailsAtDefects.bind (requireFields d)
    intro fs
    split
    · exact require d _
    · exact ih

theorem typeOf_defects (attributeName : Document) (ds : List Document) :
    FailsAtDefects (typeOf attributeName ds) := by
  induction ds with
  | nil => exact ok _
  | cons d ds ih =>
    apply FailsAtDefects.bind (requireFields d)
    intro fs
    split
    · exact require d _
    · exact ih

theorem notInteger_isDefect (written : String) (e : Number.NumeralError) :
    (notInteger written e).IsDefect := by
  cases e <;> trivial

theorem mapError_defects {α : Type} (written : String) (r : Except Number.NumeralError α) :
    FailsAtDefects (r.mapError (notInteger written)) := by
  cases r with
  | error e => exact error (notInteger_isDefect written e)
  | ok a => exact ok a

theorem capacity_defects (d : Option Document) : FailsAtDefects (capacity d) := by
  cases d with
  | none => exact ok 0
  | some d =>
    cases d with
    | int n => exact ok n
    | bool b => exact ok _
    | float x =>
      rw [capacity]
      split
      · exact ok _
      · split <;> exact error trivial
    | text s => exact mapError_defects _ _
    | bytes bs => exact mapError_defects _ _
    | _ => exact error trivial

theorem ofDescription_defects (d : Document) : FailsAtDefects (ofDescription d) := by
  apply FailsAtDefects.bind (requireFields d)
  intro fs
  apply FailsAtDefects.bind (optionalParts_defects _)
  intro keys
  apply FailsAtDefects.bind (hashKey_defects keys)
  intro attributeName
  apply FailsAtDefects.bind (optionalParts_defects _)
  intro definitions
  apply FailsAtDefects.bind (typeOf_defects attributeName definitions)
  intro attributeType
  apply FailsAtDefects.bind (require d _)
  intro tableName
  apply FailsAtDefects.bind (requireFields _)
  intro throughput
  apply FailsAtDefects.bind (capacity_defects _)
  intro readCapacity
  apply FailsAtDefects.bind (capacity_defects _)
  intro writeCapacity
  exact ok _

end Table.Descriptor

end TableBench
