import Mathlib.Tactic.Simps.Basic
import TableBench.Session

namespace TableBench

namespace Event

def isCall : Event → Bool
  | call .. => true
  | _ => false

def request? : Event → Option (Target × Request)
  | call target request _ => some (target, request)
  | _ => none

end Event

namespace World

variable {T : Type}

@[simps] def logged (w : World T) (rs : List LogRecord) : World T :=
  { w with logs := w.logs ++ rs }

theorem logged_nil (w : World T) : w.logged [] = w := by
  rw [logged, List.append_nil]

@[simps] def noted (w : World T) (e : Event) : World T := { w with events := w.events ++ [e] }

@[simps] def drew (w : World T) (n : Nat) : World T :=
  { w with source := { w.source with drawn := w.source.drawn + n } }

theorem length_lt_of_script {w : World T} {o : Outcome T} {script : List (Outcome T)}
    (hs : w.script = o :: script) : script.length < w.script.length := by
  rw [hs]
  exact Nat.lt_succ_self _

def asked (w : World T) : List (Target × Request) := w.events.filterMap Event.request?

theorem asked_logged (w : World T) (rs : List LogRecord) : (w.logged rs).asked = w.asked := rfl

theorem asked_noted (w : World T) {e : Event} (he : e.isCall = false) :
    (w.noted e).asked = w.asked := by
  rw [asked, noted_events, List.filterMap_append]
  cases e with
  | call => cases he
  | _ => exact List.append_nil _

variable [TimeScale T]

/-- The surroundings after the first outcome of the script answered a request. -/
@[simps] def answered (w : World T) (target : Target) (request : Request) (o : Outcome T)
    (script : List (Outcome T)) : World T :=
  { w with
    script
    clock := w.clock + o.elapsed
    events := w.events ++ [.call target request (some o.answer)] }

/-- The surroundings after a wait that was cut short or refused, or let some time pass. -/
@[simps] def waited (w : World T) (t : T) (passed : Option T) : World T :=
  { w with waits := w.waits ++ [t], clock := passed.elim w.clock (w.clock + ·) }

theorem asked_answered (w : World T) (target : Target) (request : Request) (o : Outcome T)
    (script : List (Outcome T)) :
    (w.answered target request o script).asked = w.asked ++ [(target, request)] := by
  rw [asked, answered_events, List.filterMap_append]
  rfl

end World

namespace Run

variable {T σ α β : Type}

theorem bind_of_ok {x : EStateM Failure σ α} {s s' : σ} {a : α} (h : x s = .ok a s')
    (f : α → EStateM Failure σ β) : (x >>= f) s = f a s' := by
  simp only [Bind.bind, EStateM.bind, h]

theorem bind_of_error {x : EStateM Failure σ α} {s s' : σ} {e : Failure} (h : x s = .error e s')
    (f : α → EStateM Failure σ β) : (x >>= f) s = .error e s' := by
  simp only [Bind.bind, EStateM.bind, h]

theorem of_bind_ok {x : EStateM Failure σ α} {f : α → EStateM Failure σ β} {s s₂ : σ} {b : β}
    (h : (x >>= f) s = .ok b s₂) : ∃ a s₁, x s = .ok a s₁ ∧ f a s₁ = .ok b s₂ := by
  cases hr : x s with
  | ok a s₁ =>
    rw [bind_of_ok hr] at h
    exact ⟨a, s₁, rfl, h⟩
  | error e s₁ =>
    rw [bind_of_error hr] at h
    cases h

theorem get_bind_apply (f : σ → EStateM Failure σ α) (s : σ) : (get >>= f) s = f s s := rfl

theorem attempt_of_ok {x : EStateM Failure σ α} {s s' : σ} {a : α} (h : x s = .ok a s') :
    attempt x s = .ok (.ok a) s' := by
  rw [attempt, h]

theorem attempt_of_error {x : EStateM Failure σ α} {s s' : σ} {e : Failure}
    (h : x s = .error e s') : attempt x s = .ok (.error e) s' := by
  rw [attempt, h]

theorem ensuring_of_ok {x : EStateM Failure σ α} {last : EStateM Failure σ Unit} {s s₁ s₂ : σ}
    {a : α} (h : x s = .ok a s₁) (hl : last s₁ = .ok () s₂) : ensuring x last s = .ok a s₂ :=
  (bind_of_ok (attempt_of_ok h) _).trans (bind_of_ok hl _)

theorem ensuring_of_error {x : EStateM Failure σ α} {last : EStateM Failure σ Unit}
    {s s₁ s₂ : σ} {e : Failure} (h : x s = .error e s₁) (hl : last s₁ = .ok () s₂) :
    ensuring x last s = .error e s₂ :=
  (bind_of_ok (attempt_of_error h) _).trans (bind_of_ok hl _)

theorem of_attempt_ok {x : EStateM Failure σ α} {s s' : σ} {a : α}
    (h : attempt x s = .ok (.ok a) s') : x s = .ok a s' := by
  cases hr : x s with
  | ok a₁ s₁ =>
    rw [attempt_of_ok hr] at h
    cases h
    rfl
  | error e s₁ =>
    rw [attempt_of_error hr] at h
    cases h

theorem of_ensuring_ok {x : EStateM Failure σ α} {last : EStateM Failure σ Unit} {s s₂ : σ} {a : α}
    (h : ensuring x last s = .ok a s₂) : ∃ s₁, x s = .ok a s₁ ∧ last s₁ = .ok () s₂ := by
  obtain ⟨r, s₁, hr, h⟩ := of_bind_ok h
  obtain ⟨_, s', hl, h⟩ := of_bind_ok h
  cases r <;> cases h
  exact ⟨s₁, of_attempt_ok hr, hl⟩

@[simp] theorem ofExcept_ok (a : α) : (ofExcept (.ok a) : EStateM Failure σ α) = pure a := rfl

theorem of_ofExcept_ok {r : Except Failure α} {s s' : σ} {a : α}
    (h : ofExcept r s = .ok a s') : r = .ok a ∧ s' = s := by
  cases r <;> cases h
  exact ⟨rfl, rfl⟩

theorem log_apply (level : Level) (component : Component) (message : String) (w : World T) :
    log level component message w = .ok () (w.logged [⟨level, component, message⟩]) := rfl

theorem note_apply (e : Event) (w : World T) : note e w = .ok () (w.noted e) := rfl

theorem lookupVariable_apply (name : String) (w : World T) :
    lookupVariable name w = .ok (w.environment.values.lookup name) w := rfl

theorem draw_apply (w : World T) :
    draw w = .ok (w.source.value w.source.drawn) (w.drew 1) := rfl

theorem lift_of_ok {x : Run T α} {l : Live T} {a : α} {w : World T} (h : x l.world = .ok a w) :
    SessionRun.lift x l = .ok a { l with world := w } := by
  rw [SessionRun.lift, h]

theorem lift_of_error {x : Run T α} {l : Live T} {e : Failure} {w : World T}
    (h : x l.world = .error e w) : SessionRun.lift x l = .error e { l with world := w } := by
  rw [SessionRun.lift, h]

theorem of_lift_ok {x : Run T α} {l l' : Live T} {a : α} (h : SessionRun.lift x l = .ok a l') :
    x l.world = .ok a l'.world ∧ l'.session = l.session := by
  cases hr : x l.world with
  | ok a₁ w =>
    rw [lift_of_ok hr] at h
    cases h
    exact ⟨rfl, rfl⟩
  | error e w =>
    rw [lift_of_error hr] at h
    cases h

variable [TimeScale T] {w : World T} {target : Target} {request : Request} {o : Outcome T}
  {script : List (Outcome T)}

theorem wait_of_cut {t : T} (h : w.interruption.cuts (w.waits.length + 1) = true) :
    wait t w = .ok true (w.waited t none) := by
  simp only [wait, List.length_append, List.length_singleton, h, if_true]
  rfl

theorem wait_of_refused {t : T} (h : w.interruption.cuts (w.waits.length + 1) = false)
    (ht : w.interruption.refuses t = true) :
    wait t w = .error .tooLong (w.waited t none) := by
  simp only [wait, List.length_append, List.length_singleton, h, ht, Bool.false_eq_true, if_false,
    if_true]
  rfl

theorem wait_of_not_cut {t : T} (h : w.interruption.cuts (w.waits.length + 1) = false)
    (ht : w.interruption.refuses t = false) :
    wait t w =
      .ok false (w.waited t (some (if t < TimeScale.none then TimeScale.none else t))) := by
  simp only [wait, List.length_append, List.length_singleton, h, ht, Bool.false_eq_true, if_false]
  rfl

theorem exchange_of_nil (hs : w.script = []) :
    exchange target request w =
      .error (.scriptEnded request.operation) (w.noted (.call target request none)) := by
  rw [exchange]
  split
  · rfl
  · simp_all only [reduceCtorEq]

theorem exchange_of_cons (hs : w.script = o :: script) :
    exchange target request w = .ok o.answer (w.answered target request o script) := by
  simp only [exchange, hs]
  rfl

theorem call_of_nil (hs : w.script = []) :
    call target request w =
      .error (.scriptEnded request.operation) (w.noted (.call target request none)) :=
  bind_of_error (exchange_of_nil hs) _

theorem call_of_response {d : Document} (hs : w.script = o :: script) (ho : o.answer = .ok d) :
    call target request w = .ok d (w.answered target request o script) := by
  rw [call, bind_of_ok (exchange_of_cons hs), ho]
  rfl

theorem call_of_fault {f : Fault} (hs : w.script = o :: script) (ho : o.answer = .error f) :
    call target request w =
      .error f.failure ((w.answered target request o script).logged f.records) := by
  rw [call, bind_of_ok (exchange_of_cons hs), ho]
  rfl

theorem of_call_ok {w' : World T} {d : Document} (h : call target request w = .ok d w') :
    ∃ o script, w.script = o :: script ∧ o.answer = .ok d ∧
      w' = w.answered target request o script := by
  cases hs : w.script with
  | nil =>
    rw [call_of_nil hs] at h
    cases h
  | cons o script =>
    cases ho : o.answer with
    | ok d₁ =>
      rw [call_of_response hs ho] at h
      cases h
      exact ⟨o, script, rfl, ho, rfl⟩
    | error f =>
      rw [call_of_fault hs ho] at h
      cases h

end Run

end TableBench
