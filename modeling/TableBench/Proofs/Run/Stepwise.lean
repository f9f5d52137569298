import TableBench.Proofs.Run.Step

namespace TableBench

/-- A relation between surroundings that several steps keep where each of them does. -/
class World.Linked {T : Type} (R : World T → World T → Prop) : Prop where
  refl : ∀ w, R w w
  trans : ∀ {w w₁ w₂}, R w w₁ → R w₁ w₂ → R w w₂

/-- A relation that every step of a run keeps: a record of any part but the one that reports faults,
an event that is no request, a wait, and a request, where a fault goes together with the report on
it. The time that passes is left open. -/
class World.Stepwise {T : Type} (R : World T → World T → Prop) : Prop extends Linked R where
  logged : ∀ w {r : LogRecord}, r.component ≠ .diagnosis → R w (w.logged [r])
  noted : ∀ w {e : Event}, e.isCall = false → R w (w.noted e)
  waited : ∀ w t clock, R w { w with waits := w.waits ++ [t], clock }
  unanswered : ∀ {w}, w.script = [] → ∀ target request, R w (w.noted (.call target request none))
  responded : ∀ {w o script d}, w.script = o :: script → o.answer = .ok d →
    ∀ target request clock, R w
      { w with script, clock, events := w.events ++ [.call target request (some (.ok d))] }
  faulted : ∀ {w o script f}, w.script = o :: script → o.answer = .error f →
    ∀ target request clock, R w
      { w with
        script, clock
        events := w.events ++ [.call target request (some (.error f))]
        logs := w.logs ++ f.records }

class World.Heedless {T : Type} (R : World T → World T → Prop) : Prop extends Stepwise R where
  sourced : ∀ w source, R w { w with source }

/-- A state that runs change, with the surroundings in it. -/
class Surrounded (σ : Type) (T : outParam Type) where
  world : σ → World T

instance {T : Type} : Surrounded (World T) T := ⟨fun w => w⟩

instance {T : Type} : Surrounded (Live T) T := ⟨Live.world⟩

class Component.Ordinary (c : Component) : Prop where
  ne : c ≠ .diagnosis

instance : Component.connection.Ordinary := ⟨by decide⟩

instance : Component.batches.Ordinary := ⟨by decide⟩

instance : Component.tables.Ordinary := ⟨by decide⟩

instance : Component.session.Ordinary := ⟨by decide⟩

instance : Component.itemCommands.Ordinary := ⟨by decide⟩

instance : Component.tableCommands.Ordinary := ⟨by decide⟩

namespace Run

variable {T σ α β : Type}

def final (x : EStateM Failure σ α) (s : σ) : σ :=
  match x s with
  | .ok _ s | .error _ s => s

theorem final_of_ok {x : EStateM Failure σ α} {s s' : σ} {a : α} (h : x s = .ok a s') :
    final x s = s' := by
  rw [final, h]

theorem final_of_error {x : EStateM Failure σ α} {s s' : σ} {e : Failure}
    (h : x s = .error e s') : final x s = s' := by
  rw [final, h]

theorem final_bind_of_ok {x : EStateM Failure σ α} {s s' : σ} {a : α} (h : x s = .ok a s')
    (f : α → EStateM Failure σ β) : final (x >>= f) s = final (f a) s' := by
  rw [final, bind_of_ok h, final]

theorem final_bind_of_still (x : EStateM Failure σ α) {f : α → EStateM Failure σ β}
    (hf : ∀ a s, final (f a) s = s) (s : σ) : final (x >>= f) s = final x s := by
  cases hr : x s with
  | ok a s' => rw [final_bind_of_ok hr, final_of_ok hr, hf]
  | error e s' => rw [final_of_error (bind_of_error hr f), final_of_error hr]

theorem final_attempt (x : EStateM Failure σ α) (s : σ) : final (attempt x) s = final x s := by
  cases hr : x s with
  | ok a s' => rw [final_of_ok (attempt_of_ok hr), final_of_ok hr]
  | error e s' => rw [final_of_ok (attempt_of_error hr), final_of_error hr]

theorem final_ensuring (x : EStateM Failure σ α) (last : EStateM Failure σ Unit) (s : σ) :
    final (ensuring x last) s = final last (final x s) := by
  have hlast (r : Except Failure α) (s : σ) : final (last >>= fun _ => ofExcept r) s =
      final last s := by
    apply final_bind_of_still
    cases r <;> exact fun _ _ => rfl
  rw [ensuring]
  cases hr : x s with
  | ok a s' => rw [final_bind_of_ok (attempt_of_ok hr), final_of_ok hr, hlast]
  | error e s' => rw [final_bind_of_ok (attempt_of_error hr), final_of_error hr, hlast]

theorem final_lift (x : Run T α) (l : Live T) :
    final (SessionRun.lift x) l = { l with world := final x l.world } := by
  cases hr : x l.world with
  | ok a w => rw [final_of_ok (lift_of_ok hr), final_of_ok hr]
  | error e w => rw [final_of_error (lift_of_error hr), final_of_error hr]

open Surrounded World

/-- Whatever the run ends in, the surroundings before and after it are related. -/
class Obeys [Surrounded σ T] (R : World T → World T → Prop) (x : EStateM Failure σ α) : Prop where
  obeys : ∀ s, R (world s) (world (final x s))

namespace Obeys

section

variable [Surrounded σ T] {R : World T → World T → Prop} [hR : Linked R]

theorem of_final_eq {x : EStateM Failure σ α} (h : ∀ s, final x s = s) : Obeys R x :=
  ⟨fun s => by rw [h s]; exact hR.refl _⟩

instance pure (a : α) : Obeys R (Pure.pure a : EStateM Failure σ α) := of_final_eq fun _ => rfl

instance throw (e : Failure) : Obeys R (MonadExcept.throw e : EStateM Failure σ α) :=
  of_final_eq fun _ => rfl

instance get : Obeys R (MonadState.get : EStateM Failure σ σ) := of_final_eq fun _ => rfl

instance ofExcept (r : Except Failure α) : Obeys R (Run.ofExcept r : EStateM Failure σ α) := by
  cases r <;> exact of_final_eq fun _ => rfl

instance bind (x : EStateM Failure σ α) (f : α → EStateM Failure σ β) [hx : Obeys R x]
    [hf : ∀ a, Obeys R (f a)] : Obeys R (x >>= f) where
  obeys s := by
    have h := hx.obeys s
    cases hr : x s with
    | ok a s₁ =>
      rw [final_of_ok hr] at h
      rw [final_bind_of_ok hr]
      exact hR.trans h ((hf a).obeys s₁)
    | error e s₁ =>
      rw [final_of_error hr] at h
      rw [final_of_error (bind_of_error hr f)]
      exact h

theorem seq {x : EStateM Failure σ α} {f : α → EStateM Failure σ β} [Obeys R x]
    (hf : ∀ a, Obeys R (f a)) : Obeys R (x >>= f) :=
  bind x f

instance attempt (x : EStateM Failure σ α) [hx : Obeys R x] : Obeys R (Run.attempt x) where
  obeys s := by
    rw [final_attempt]
    exact hx.obeys s

instance ite {c : Prop} [Decidable c] (x y : EStateM Failure σ α) [Obeys R x] [Obeys R y] :
    Obeys R (if c then x else y) := by
  split <;> infer_instance

instance ensuring (x : EStateM Failure σ α) (last : EStateM Failure σ Unit) [Obeys R x]
    [Obeys R last] : Obeys R (Run.ensuring x last) := by
  unfold Run.ensuring
  infer_instance

end

variable {R : World T → World T → Prop}

instance draw [hR : Heedless R] : Obeys R (Run.draw : Run T String) := ⟨fun w => hR.sourced w _⟩

instance lift (x : Run T α) [hx : Obeys R x] : Obeys R (SessionRun.lift x) where
  obeys l := by
    rw [final_lift]
    exact hx.obeys l.world

section

variable [hR : Linked R]

instance change (f : Session T → Session T) : Obeys R (Session.change f) :=
  ⟨fun l => hR.refl l.world⟩

instance fail (e : BenchError) : Obeys R (Run.fail e : Run T α) := throw _

instance lookupVariable (name : String) : Obeys R (Run.lookupVariable name : Run T _) := by
  unfold Run.lookupVariable
  infer_instance

instance requireClient : Obeys R (Session.requireClient : SessionRun T Client) := by
  unfold Session.requireClient
  refine .seq fun l => ?_
  cases l.session.client <;> infer_instance

instance requireSource : Obeys R (Session.requireSource : SessionRun T Unit) := by
  unfold Session.requireSource
  infer_instance

instance lifecycle [TimeScale T] : Obeys R (Session.lifecycle : SessionRun T _) := by
  unfold Session.lifecycle
  infer_instance

instance check (keys : List String) (limit : Nat) (rounds : Int) :
    Obeys R (Batch.check keys limit rounds : Run T Unit) := by
  unfold Batch.check
  split <;> infer_instance

end

variable [hR : Stepwise R]

instance log (level : Level) (c : Component) [hc : c.Ordinary] (message : String) :
    Obeys R (Run.log level c message : Run T Unit) :=
  ⟨fun w => hR.logged w hc.ne⟩

theorem note {e : Event} (he : e.isCall = false) : Obeys R (Run.note e : Run T Unit) :=
  ⟨fun w => hR.noted w he⟩

variable [TimeScale T]

instance wait (t : T) : Obeys R (Run.wait t : Run T Bool) where
  obeys w := by
    cases hc : w.interruption.cuts (w.waits.length + 1) with
    | true => rw [final_of_ok (wait_of_cut hc)]; exact hR.waited w t _
    | false =>
      cases ht : w.interruption.refuses t with
      | true => rw [final_of_error (wait_of_refused hc ht)]; exact hR.waited w t _
      | false => rw [final_of_ok (wait_of_not_cut hc ht)]; exact hR.waited w t _

/-- A request, with the report on the fault if it is answered by one. -/
instance call (target : Target) (request : Request) :
    Obeys R (Run.call target request : Run T Document) where
  obeys w := by
    cases hs : w.script with
    | nil =>
      rw [final_of_error (call_of_nil hs)]
      exact hR.unanswered hs target request
    | cons o script =>
      cases ho : o.answer with
      | ok d =>
        rw [final_of_ok (call_of_response hs ho), World.answered, ho]
        exact hR.responded hs ho target request _
      | error f =>
        rw [final_of_error (call_of_fault hs ho), World.answered, ho]
        exact hR.faulted hs ho target request _

end Obeys

end Run

end TableBench
