import TableBench.Proofs.Run.Growth

namespace TableBench

/-- What a service may answer to a request in a state, and the state it goes on in. -/
structure Service (μ : Type) where
  Answers : μ → Target → Request → Answer → μ → Prop

namespace Service

variable {μ : Type}

/-- The service may have answered the requests among the events; each of them has an answer. -/
inductive Serves (S : Service μ) : μ → List Event → μ → Prop
  | nil (m : μ) : Serves S m [] m
  | call {m m₁ m' : μ} {target : Target} {request : Request} {answer : Answer} {es : List Event}
      (h : S.Answers m target request answer m₁) (hs : Serves S m₁ es m') :
      Serves S m (.call target request (some answer) :: es) m'
  | aside {m m' : μ} {e : Event} {es : List Event} (h : e.isCall = false)
      (hs : Serves S m es m') : Serves S m (e :: es) m'

variable {S : Service μ} {m m₁ m' : μ}

theorem Serves.split {es fs : List Event} (h : S.Serves m (es ++ fs) m') :
    ∃ m₁, S.Serves m es m₁ ∧ S.Serves m₁ fs m' := by
  induction es generalizing m with
  | nil => exact ⟨m, .nil m, h⟩
  | cons e es ih =>
    cases h with
    | call ha hs =>
      obtain ⟨m₁, h₁, h₂⟩ := ih hs
      exact ⟨m₁, .call ha h₁, h₂⟩
    | aside he hs =>
      obtain ⟨m₁, h₁, h₂⟩ := ih hs
      exact ⟨m₁, .aside he h₁, h₂⟩

theorem Serves.between {T : Type} {w w₁ w₂ : World T} {es : List Event} (h : w.Leads w₁)
    (h' : w₁.Leads w₂) (hes : w₂.events = w.events ++ es) (hs : S.Serves m es m') :
    ∃ es₁ es₂ m₁, w₁.events = w.events ++ es₁ ∧ S.Serves m es₁ m₁ ∧
      w₂.events = w₁.events ++ es₂ ∧ S.Serves m₁ es₂ m' := by
  obtain ⟨es₁, hes₁⟩ := h.events
  obtain ⟨es₂, hes₂⟩ := h'.events
  rw [← hes₂, ← hes₁, List.append_assoc, List.append_cancel_left_eq] at hes
  subst hes
  obtain ⟨m₁, hs₁, hs₂⟩ := hs.split
  exact ⟨es₁, es₂, m₁, hes₁.symm, hs₁, hes₂.symm, hs₂⟩

theorem Serves.eq_of_nil (h : S.Serves m [] m') : m' = m := by
  cases h
  rfl

theorem Serves.answers {target : Target} {request : Request} {answer : Option Answer}
    (h : S.Serves m [.call target request answer] m') :
    ∃ a, answer = some a ∧ S.Answers m target request a m' := by
  cases h with
  | call ha hs =>
    cases hs
    exact ⟨_, rfl, ha⟩
  | aside he _ => cases he

theorem Serves.eq_of_aside {es : List Event} (h : S.Serves m es m')
    (hes : ∀ e ∈ es, e.isCall = false) : m' = m := by
  induction h with
  | nil => rfl
  | call => cases hes _ List.mem_cons_self
  | aside _ _ ih => exact ih fun e he => hes e (List.mem_cons_of_mem _ he)

open Run Surrounded

variable {T σ α β : Type} [Surrounded σ T]

/-- However the service answers its requests, the run ends in a value with `Q` or a failure with
`E`. -/
def Ensures (S : Service μ) (m : μ) (s : σ) (x : EStateM Failure σ α) (Q : α → σ → μ → Prop)
    (E : Failure → σ → μ → Prop) : Prop :=
  ∀ es m', (world (final x s)).events = (world s).events ++ es → S.Serves m es m' →
    match x s with
    | .ok a s' => Q a s' m'
    | .error e s' => E e s' m'

namespace Ensures

variable {s s₁ : σ} {x : EStateM Failure σ α} {f : α → EStateM Failure σ β}
  {Q Q' : α → σ → μ → Prop} {R : β → σ → μ → Prop} {E E' : Failure → σ → μ → Prop}

theorem mono (h : S.Ensures m s x Q E) (hQ : ∀ a s' m', Q a s' m' → Q' a s' m')
    (hE : ∀ e s' m', E e s' m' → E' e s' m') : S.Ensures m s x Q' E' := by
  intro es m' hes hs
  have hx := h es m' hes hs
  cases hr : x s with
  | ok a s' => rw [hr] at hx; exact hQ a s' m' hx
  | error e s' => rw [hr] at hx; exact hE e s' m' hx

theorem congr {y : EStateM Failure σ α} (h : x s = y s) (hy : S.Ensures m s y Q E) :
    S.Ensures m s x Q E := by
  intro es m' hes hs
  rw [final, h, ← final] at hes
  rw [h]
  exact hy es m' hes hs

theorem succeeds {es : List Event} (h : S.Ensures m s x Q fun _ _ _ => False)
    (hes : (world (final x s)).events = (world s).events ++ es) (hs : S.Serves m es m') :
    ∃ a s', x s = .ok a s' ∧ Q a s' m' := by
  have hx := h es m' hes hs
  cases hr : x s with
  | ok a s' =>
    rw [hr] at hx
    exact ⟨a, s', rfl, hx⟩
  | error e s' =>
    rw [hr] at hx
    exact hx.elim

theorem of_ok {a : α} (h : x s = .ok a s₁) (he : (world s₁).events = (world s).events)
    (hQ : Q a s₁ m) : S.Ensures m s x Q E := by
  intro es m' hes hs
  rw [final_of_ok h, he, List.self_eq_append_right] at hes
  subst hes
  rw [h, hs.eq_of_nil]
  exact hQ

theorem of_error {e : Failure} (h : x s = .error e s₁)
    (he : (world s₁).events = (world s).events) (hE : E e s₁ m) : S.Ensures m s x Q E := by
  intro es m' hes hs
  rw [final_of_error h, he, List.self_eq_append_right] at hes
  subst hes
  rw [h, hs.eq_of_nil]
  exact hE

theorem pure {a : α} (h : Q a s m) : S.Ensures m s (Pure.pure a) Q E := of_ok rfl rfl h

theorem throw {e : Failure} (h : E e s m) : S.Ensures m s (MonadExcept.throw e) Q E :=
  of_error rfl rfl h

theorem of_aside {a : α} {es : List Event} (h : x s = .ok a s₁)
    (he : (world s₁).events = (world s).events ++ es) (hes : ∀ e ∈ es, e.isCall = false)
    (hQ : Q a s₁ m) : S.Ensures m s x Q E := by
  intro es' m' hes' hs
  rw [final_of_ok h, he, List.append_cancel_left_eq] at hes'
  subst hes'
  rw [h, hs.eq_of_aside hes]
  exact hQ

theorem of_aside_error {e : Failure} {es : List Event} (h : x s = .error e s₁)
    (he : (world s₁).events = (world s).events ++ es) (hes : ∀ e ∈ es, e.isCall = false)
    (hE : E e s₁ m) : S.Ensures m s x Q E := by
  intro es' m' hes' hs
  rw [final_of_error h, he, List.append_cancel_left_eq] at hes'
  subst hes'
  rw [h, hs.eq_of_aside hes]
  exact hE

theorem step {a : α} (h : x s = .ok a s₁) (he : (world s₁).events = (world s).events)
    (hf : S.Ensures m s₁ (f a) R E) : S.Ensures m s (x >>= f) R E := by
  intro es m' hes hs
  have hb := bind_of_ok h f
  rw [final, hb, ← final, ← he] at hes
  rw [hb]
  exact hf es m' hes hs

theorem seq [hx : Grows x] (hf : ∀ a, Grows (f a))
    (h : S.Ensures m s x (fun a s' m' => S.Ensures m' s' (f a) R E) E) :
    S.Ensures m s (x >>= f) R E := by
  intro es m' hes hs
  have hl := hx.leads s
  cases hr : x s with
  | ok a s₁ =>
    have hb := bind_of_ok hr f
    rw [final_of_ok hr] at hl
    rw [final_bind_of_ok hr] at hes
    obtain ⟨es₁, es₂, m₁, hes₁, hs₁, hes₂, hs₂⟩ := hs.between hl ((hf a).leads s₁) hes
    have hq := h es₁ m₁ (by rw [final_of_ok hr]; exact hes₁) hs₁
    rw [hr] at hq
    rw [hb]
    exact hq es₂ m' hes₂ hs₂
  | error e s₁ =>
    have hb := bind_of_error hr f
    rw [final_of_error hb] at hes
    have hq := h es m' (by rw [final_of_error hr]; exact hes) hs
    rw [hr] at hq
    rw [hb]
    exact hq

theorem bind [Grows x] [hf : ∀ a, Grows (f a)]
    (h : S.Ensures m s x (fun a s' m' => S.Ensures m' s' (f a) R E) E) :
    S.Ensures m s (x >>= f) R E :=
  seq hf h

/-- A run also does what every run does to the surroundings. -/
theorem leads [hx : Grows x] (h : S.Ensures m s x Q E) :
    S.Ensures m s x (fun a s' m' => (world s).Leads (world s') ∧ Q a s' m')
      (fun e s' m' => (world s).Leads (world s') ∧ E e s' m') := by
  intro es m' hes hs
  have hl := hx.leads s
  have hq := h es m' hes hs
  cases hr : x s with
  | ok a s' =>
    rw [final_of_ok hr] at hl
    rw [hr] at hq
    exact ⟨hl, hq⟩
  | error e s' =>
    rw [final_of_error hr] at hl
    rw [hr] at hq
    exact ⟨hl, hq⟩

theorem result (h : S.Ensures m s x Q E) :
    S.Ensures m s x (fun a s' m' => x s = .ok a s' ∧ Q a s' m')
      (fun e s' m' => x s = .error e s' ∧ E e s' m') := by
  intro es m' hes hs
  have hq := h es m' hes hs
  cases hr : x s with
  | ok a s' =>
    rw [hr] at hq
    exact ⟨rfl, hq⟩
  | error e s' =>
    rw [hr] at hq
    exact ⟨rfl, hq⟩

theorem attempt {Q : Except Failure α → σ → μ → Prop}
    (h : S.Ensures m s x (fun a => Q (.ok a)) fun e => Q (.error e)) :
    S.Ensures m s (Run.attempt x) Q E := by
  intro es m' hes hs
  cases hr : x s with
  | ok a s₁ =>
    rw [final_of_ok (attempt_of_ok hr)] at hes
    have hq := h es m' (by rw [final_of_ok hr]; exact hes) hs
    rw [hr] at hq
    rw [attempt_of_ok hr]
    exact hq
  | error e s₁ =>
    rw [final_of_ok (attempt_of_error hr)] at hes
    have hq := h es m' (by rw [final_of_error hr]; exact hes) hs
    rw [hr] at hq
    rw [attempt_of_error hr]
    exact hq

/-- A run and its last part, which comes whatever the run ends in. -/
theorem ensuring [Grows x] {last : EStateM Failure σ Unit} [Grows last]
    (h : S.Ensures m s x
      (fun a s' m' => S.Ensures m' s' last (fun _ s₁ m₁ => Q a s₁ m₁) E)
      (fun e s' m' => S.Ensures m' s' last (fun _ s₁ m₁ => E e s₁ m₁) E)) :
    S.Ensures m s (Run.ensuring x last) Q E := by
  rw [Run.ensuring]
  apply bind
  apply attempt
  apply h.mono
  · intro a s' m' hlast
    exact bind (hlast.mono (fun _ _ _ => pure) fun _ _ _ he => he)
  · intro e s' m' hlast
    exact bind (hlast.mono (fun _ _ _ => throw) fun _ _ _ he => he)

theorem get {f : σ → EStateM Failure σ β} (h : S.Ensures m s (f s) R E) :
    S.Ensures m s (MonadState.get >>= f) R E :=
  step rfl rfl h

theorem note {w : World T} {e : Event} {Q : Unit → World T → μ → Prop}
    {E : Failure → World T → μ → Prop} (he : e.isCall = false) (hQ : Q () (w.noted e) m) :
    S.Ensures m w (Run.note e) Q E := by
  refine of_aside (note_apply e w) rfl ?_ hQ
  intro e' he'
  rwa [List.mem_singleton.1 he']

theorem lift {l : Live T} {x : Run T α} {Q : α → Live T → μ → Prop}
    {E : Failure → Live T → μ → Prop}
    (h : S.Ensures m l.world x (fun a w => Q a { l with world := w })
      fun e w => E e { l with world := w }) :
    S.Ensures m l (SessionRun.lift x) Q E := by
  intro es m' hes hs
  cases hr : x l.world with
  | ok a w =>
    rw [final_of_ok (lift_of_ok hr)] at hes
    have hq := h es m' (by rw [final_of_ok hr]; exact hes) hs
    rw [hr] at hq
    rw [lift_of_ok hr]
    exact hq
  | error e w =>
    rw [final_of_error (lift_of_error hr)] at hes
    have hq := h es m' (by rw [final_of_error hr]; exact hes) hs
    rw [hr] at hq
    rw [lift_of_error hr]
    exact hq

variable [TimeScale T] {w : World T}

/-- A request, with what follows from each answer of the service. -/
theorem call {target : Target} {request : Request} {Q : Document → World T → μ → Prop}
    {E : Failure → World T → μ → Prop}
    (hok : ∀ o script d m', w.script = o :: script → o.answer = .ok d →
      S.Answers m target request (.ok d) m' → Q d (w.answered target request o script) m')
    (herror : ∀ o script f m', w.script = o :: script → o.answer = .error f →
      S.Answers m target request (.error f) m' →
      E f.failure ((w.answered target request o script).logged f.records) m') :
    S.Ensures m w (Run.call target request) Q E := by
  intro es m' hes hs
  cases hw : w.script with
  | nil =>
    -- the event of a request without an answer is one that no service serves
    rw [final_of_error (call_of_nil hw)] at hes
    rw [← List.append_cancel_left hes] at hs
    obtain ⟨_, ⟨⟩, _⟩ := hs.answers
  | cons o script =>
    cases ho : o.answer with
    | ok d =>
      rw [final_of_ok (call_of_response hw ho)] at hes
      rw [← List.append_cancel_left hes, ho] at hs
      obtain ⟨_, ⟨⟩, ha⟩ := hs.answers
      rw [call_of_response hw ho]
      exact hok o script d m' hw ho ha
    | error f =>
      rw [final_of_error (call_of_fault hw ho)] at hes
      rw [← List.append_cancel_left hes, ho] at hs
      obtain ⟨_, ⟨⟩, ha⟩ := hs.answers
      rw [call_of_fault hw ho]
      exact herror o script f m' hw ho ha

end Ensures

end Service

end TableBench
