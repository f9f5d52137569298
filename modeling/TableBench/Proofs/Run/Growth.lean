import TableBench.Proofs.Run.Operations

namespace TableBench

/-- What a run may do to its surroundings: it uses up the script and adds to the records. -/
structure World.Leads {T : Type} (w w' : World T) : Prop where
  environment : w'.environment = w.environment
  interruption : w'.interruption = w.interruption
  script : w'.script <:+ w.script
  waits : w.waits <+: w'.waits
  events : w.events <+: w'.events
  logs : w.logs <+: w'.logs

namespace World.Leads

variable {T : Type} {w w₁ w₂ : World T}

theorem refl (w : World T) : w.Leads w :=
  ⟨rfl, rfl, List.suffix_refl _, List.prefix_refl _, List.prefix_refl _, List.prefix_refl _⟩

theorem trans (h : w.Leads w₁) (h' : w₁.Leads w₂) : w.Leads w₂ where
  environment := h'.environment.trans h.environment
  interruption := h'.interruption.trans h.interruption
  script := h'.script.trans h.script
  waits := h.waits.trans h'.waits
  events := h.events.trans h'.events
  logs := h.logs.trans h'.logs

theorem noted (w : World T) (e : Event) : w.Leads (w.noted e) :=
  { refl w with events := List.prefix_append _ _ }

theorem logged (w : World T) (rs : List LogRecord) : w.Leads (w.logged rs) :=
  { refl w with logs := List.prefix_append _ _ }

instance heedless : Heedless (T := T) Leads where
  refl := refl
  trans := trans
  logged w _ _ := logged w _
  noted w _ _ := noted w _
  waited w t _ := { refl w with waits := List.prefix_append _ _ }
  unanswered _ _ _ := noted _ _
  responded hs _ _ _ _ := { refl _ with
    script := by rw [hs]; exact List.suffix_cons _ _
    events := List.prefix_append _ _ }
  faulted hs _ _ _ _ := { refl _ with
    script := by rw [hs]; exact List.suffix_cons _ _
    events := List.prefix_append _ _
    logs := List.prefix_append _ _ }
  sourced w _ := { refl w with }

end World.Leads

namespace Run

variable {T σ α β : Type}

open Surrounded World

class Grows [Surrounded σ T] (x : EStateM Failure σ α) : Prop where
  leads : ∀ s, (world s).Leads (world (final x s))

namespace Grows

variable [Surrounded σ T]

instance (priority := low) of_obeys {x : EStateM Failure σ α} [hx : Obeys Leads x] : Grows x :=
  ⟨hx.obeys⟩

theorem obeys {x : EStateM Failure σ α} (hx : Grows x) : Obeys Leads x := ⟨hx.leads⟩

theorem leads_of_ok {x : EStateM Failure σ α} [hx : Grows x] {s s' : σ} {a : α}
    (h : x s = .ok a s') : (world s).Leads (world s') := by
  have hleads := hx.leads s
  rwa [final_of_ok h] at hleads

/-- The rest of a run begins where the first part ends, if it is come to at all. -/
theorem leads_bind {f : α → EStateM Failure σ β} (hf : ∀ a, Grows (f a))
    (x : EStateM Failure σ α) (s : σ) : (world (final x s)).Leads (world (final (x >>= f) s)) := by
  cases hr : x s with
  | ok a s₁ =>
    rw [final_of_ok hr, final_bind_of_ok hr]
    exact (hf a).leads s₁
  | error e s₁ =>
    rw [final_of_error hr, final_of_error (bind_of_error hr f)]
    exact .refl _

instance bind (x : EStateM Failure σ α) (f : α → EStateM Failure σ β) [hx : Grows x]
    [hf : ∀ a, Grows (f a)] : Grows (x >>= f) :=
  have := hx.obeys
  have (a : α) := (hf a).obeys
  of_obeys

theorem seq {x : EStateM Failure σ α} {f : α → EStateM Failure σ β} [Grows x]
    (hf : ∀ a, Grows (f a)) : Grows (x >>= f) :=
  bind x f

instance attempt (x : EStateM Failure σ α) [hx : Grows x] : Grows (Run.attempt x) :=
  have := hx.obeys
  of_obeys

instance ite {c : Prop} [Decidable c] (x y : EStateM Failure σ α) [Grows x] [Grows y] :
    Grows (if c then x else y) := by
  split <;> infer_instance

instance ensuring (x : EStateM Failure σ α) (last : EStateM Failure σ Unit) [hx : Grows x]
    [hlast : Grows last] : Grows (Run.ensuring x last) :=
  have := hx.obeys
  have := hlast.obeys
  of_obeys

instance lift (x : Run T α) [hx : Grows x] : Grows (SessionRun.lift x) :=
  have := hx.obeys
  of_obeys

/-- The surroundings take in any event. -/
instance note (e : Event) : Grows (Run.note e : Run T Unit) := ⟨fun w => .noted w e⟩

end Grows

variable {T : Type} [TimeScale T]

theorem events_final_call (target : Target) (request : Request) (w : World T) :
    ∃ answer, (final (call target request) w).events =
      w.events ++ [.call target request answer] := by
  cases hs : w.script with
  | nil => exact ⟨_, by rw [final_of_error (call_of_nil hs)]; rfl⟩
  | cons o script =>
    cases ho : o.answer with
    | ok d => exact ⟨_, by rw [final_of_ok (call_of_response hs ho)]; rfl⟩
    | error f => exact ⟨_, by rw [final_of_error (call_of_fault hs ho)]; rfl⟩

end Run

end TableBench
