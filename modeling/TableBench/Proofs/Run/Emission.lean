import TableBench.Proofs.Table.Watch

namespace TableBench

def World.Since {T : Type} (w w' : World T) (Q : List Event → Prop) : Prop :=
  ∃ es, w'.events = w.events ++ es ∧ Q es

def World.Adds {T : Type} (p : Event → Prop) (w w' : World T) : Prop :=
  w.Since w' fun es => ∀ e ∈ es, p e

namespace World

variable {T : Type} {w w₁ w₂ : World T} {p q : Event → Prop} {P Q : List Event → Prop}

theorem Since.mono (h : w.Since w₁ P) (hq : ∀ es, P es → Q es) : w.Since w₁ Q := by
  obtain ⟨es, hes, hp⟩ := h
  exact ⟨es, hes, hq es hp⟩

theorem Since.nothing (h : Q []) : w.Since w Q := ⟨[], (List.append_nil _).symm, h⟩

theorem Since.trans {R : List Event → Prop} (h : w.Since w₁ P) (h' : w₁.Since w₂ Q)
    (hr : ∀ es es', P es → Q es' → R (es ++ es')) : w.Since w₂ R := by
  obtain ⟨es, hes, hp⟩ := h
  obtain ⟨es', hes', hq⟩ := h'
  exact ⟨es ++ es', by rw [hes', hes, List.append_assoc], hr es es' hp hq⟩

theorem Leads.since (h : w.Leads w₁) (hq : ∀ es, Q es) : w.Since w₁ Q := by
  obtain ⟨es, hes⟩ := h.events
  exact ⟨es, hes.symm, hq es⟩

namespace Adds

theorem of_events_eq (h : w₁.events = w.events) : w.Adds p w₁ :=
  ⟨[], by rw [h, List.append_nil], List.forall_mem_nil p⟩

theorem refl (w : World T) : w.Adds p w := of_events_eq rfl

theorem mono (h : w.Adds p w₁) (hq : ∀ e, p e → q e) : w.Adds q w₁ :=
  Since.mono h fun _ hp e he => hq e (hp e he)

theorem one {e : Event} (he : p e) (h : w₁.events = w.events ++ [e]) : w.Adds p w₁ :=
  ⟨[e], h, List.forall_mem_singleton.2 he⟩

instance linked : Linked (T := T) (Adds p) where
  refl := refl
  trans h h' := h.trans h' fun _ _ hp hq => List.forall_mem_append.2 ⟨hp, hq⟩

end Adds

end World

namespace Run

open Surrounded

variable {T σ α β : Type} {p q : Event → Prop}

/-- What a run adds, and then what the rest of it does, which it may not come to. -/
theorem since_bind [Surrounded σ T] {x : EStateM Failure σ α} {f : α → EStateM Failure σ β} {s : σ}
    {P Q R : List Event → Prop} (hx : (world s).Since (world (final x s)) P)
    (hf : ∀ a s', (world s').Since (world (final (f a) s')) Q) (hq : Q [])
    (hr : ∀ es es', P es → Q es' → R (es ++ es')) :
    (world s).Since (world (final (x >>= f) s)) R := by
  cases h : x s with
  | ok a s' =>
    rw [final_of_ok h] at hx
    rw [final_bind_of_ok h]
    exact hx.trans (hf a s') hr
  | error e s' =>
    rw [final_of_error h] at hx
    rw [final_of_error (bind_of_error h f)]
    exact hx.mono fun es hes => List.append_nil es ▸ hr es [] hes hq

theorem call_since [TimeScale T] (target : Target) (request : Request) (w : World T) :
    w.Since (final (call target request) w)
      fun es => ∃ answer, es = [.call target request answer] := by
  obtain ⟨answer, he⟩ := events_final_call target request w
  exact ⟨_, he, answer, rfl⟩

/-- What a request adds, and then what the rest does with the response, if it gets one. -/
theorem call_bind_since [TimeScale T] {target : Target} {request : Request}
    {f : Document → Run T β} {w : World T} {Q : List Event → Prop}
    (hq : ∀ answer, Q [.call target request answer])
    (hf : ∀ d (w : World T), w.Since (final (f d) w)
      fun es => Q (.call target request (some (.ok d)) :: es)) :
    w.Since (final (call target request >>= f) w) Q := by
  cases hs : w.script with
  | nil =>
    rw [final_of_error (bind_of_error (call_of_nil hs) f)]
    exact ⟨_, rfl, hq none⟩
  | cons o script =>
    cases ho : o.answer with
    | error fault =>
      rw [final_of_error (bind_of_error (call_of_fault hs ho) f)]
      exact ⟨_, rfl, hq _⟩
    | ok d =>
      rw [final_bind_of_ok (call_of_response hs ho)]
      obtain ⟨es, hes, h⟩ := hf d (w.answered target request o script)
      refine ⟨.call target request (some (.ok d)) :: es, ?_, h⟩
      rw [hes, World.answered_events, ho, List.append_assoc]
      rfl

/-- Each event that the run adds is as `p` says, whatever the run ends in. -/
class Emits (p : Event → Prop) [Surrounded σ T] (x : EStateM Failure σ α) : Prop where
  adds : ∀ s, (world s).Adds p (world (final x s))

namespace Emits

section

variable [Surrounded σ T]

instance (priority := low) of_obeys {x : EStateM Failure σ α} [hx : Obeys (World.Adds p) x] :
    Emits p x :=
  ⟨hx.obeys⟩

theorem obeys {x : EStateM Failure σ α} (hx : Emits p x) : Obeys (World.Adds p) x := ⟨hx.adds⟩

instance bind (x : EStateM Failure σ α) (f : α → EStateM Failure σ β) [hx : Emits p x]
    [hf : ∀ a, Emits p (f a)] : Emits p (x >>= f) :=
  have := hx.obeys
  have (a : α) := (hf a).obeys
  of_obeys

theorem seq {x : EStateM Failure σ α} {f : α → EStateM Failure σ β} (hx : Emits p x)
    (hf : ∀ a, Emits p (f a)) : Emits p (x >>= f) :=
  bind x f

theorem silent (x : EStateM Failure σ α) [hx : Emits (fun _ => False) x] (s : σ) :
    (world s).Since (world (final x s)) (· = []) :=
  World.Since.mono (hx.adds s) fun _ h => List.eq_nil_iff_forall_not_mem.2 h

theorem since_after {x : EStateM Failure σ α} {f : α → EStateM Failure σ β} {s : σ}
    {R : List Event → Prop} [Emits (fun _ => False) x] (hr : R [])
    (hf : ∀ a s', (world s').Since (world (final (f a) s')) R) :
    (world s).Since (world (final (x >>= f) s)) R := by
  refine since_bind (silent x s) hf hr ?_
  rintro _ es rfl h
  exact h

theorem since_before {x : EStateM Failure σ α} {f : α → EStateM Failure σ β} {s : σ}
    {R : List Event → Prop} (hf : ∀ a, Emits (fun _ => False) (f a))
    (hx : (world s).Since (world (final x s)) R) :
    (world s).Since (world (final (x >>= f) s)) R := by
  refine since_bind hx (fun a => silent (f a)) rfl ?_
  rintro es _ h rfl
  rwa [List.append_nil]

instance attempt (x : EStateM Failure σ α) [hx : Emits p x] : Emits p (Run.attempt x) :=
  have := hx.obeys
  of_obeys

instance ite {c : Prop} [Decidable c] (x y : EStateM Failure σ α) [Emits p x] [Emits p y] :
    Emits p (if c then x else y) := by
  split <;> infer_instance

instance ensuring (x : EStateM Failure σ α) (last : EStateM Failure σ Unit) [hx : Emits p x]
    [hlast : Emits p last] : Emits p (Run.ensuring x last) :=
  have := hx.obeys
  have := hlast.obeys
  of_obeys

end

instance lift (x : Run T α) [hx : Emits p x] : Emits p (SessionRun.lift x) :=
  have := hx.obeys
  of_obeys

theorem lifted {x : Run T α} (hx : Emits p x) : Emits p (SessionRun.lift x) := lift x

theorem of_events_eq {x : Run T α} (h : ∀ w, (final x w).events = w.events) : Emits p x :=
  ⟨fun w => .of_events_eq (h w)⟩

instance logAll (rs : List LogRecord) : Emits p (Run.logAll rs : Run T Unit) :=
  of_events_eq fun _ => rfl

instance log (level : Level) (component : Component) (message : String) :
    Emits p (Run.log level component message : Run T Unit) := logAll _

instance draw : Emits p (Run.draw : Run T String) := of_events_eq fun _ => rfl

instance putRequests (attributeName : String) (keys : List String) :
    Emits p (Batch.putRequests attributeName keys : Run T _) := by
  induction keys with
  | nil =>
    rw [Batch.putRequests]
    infer_instance
  | cons key keys ih =>
    rw [Batch.putRequests]
    infer_instance

variable [TimeScale T]

instance wait (t : T) : Emits p (Run.wait t : Run T Bool) := of_events_eq fun w => by
  cases hc : w.interruption.cuts (w.waits.length + 1) with
  | true => rw [final_of_ok (wait_of_cut hc), World.waited_events]
  | false =>
    cases ht : w.interruption.refuses t with
    | true => rw [final_of_error (wait_of_refused hc ht), World.waited_events]
    | false => rw [final_of_ok (wait_of_not_cut hc ht), World.waited_events]

theorem call {target : Target} {request : Request}
    (h : ∀ answer, p (.call target request answer)) :
    Emits p (Run.call target request : Run T Document) where
  adds w := by
    obtain ⟨es, hes, answer, rfl⟩ := call_since target request w
    exact .one (h answer) hes

/- Requests about items. -/

variable {c : Client} {table : String}

theorem itemRead {attributeName key : String} {consistent : Document}
    (h : ∀ answer, p (.call c.dataTarget
      (.getItem (.text table) (Item.address attributeName key) consistent) answer)) :
    Emits p (Item.read c table attributeName key consistent : Run T _) := by
  unfold Item.read Client.getItem
  refine seq (seq (call h) fun response => seq inferInstance fun fs => ?_) inferInstance
  split <;> infer_instance

theorem itemWrite {attributeName key : String}
    (h : ∀ payload answer, p (.call c.dataTarget
      (.putItem (.text table) (Item.make attributeName key payload)) answer)) :
    Emits p (Item.write c table attributeName key : Run T _) := by
  rw [Item.write]
  refine seq inferInstance fun payload => seq (call (h payload)) inferInstance

theorem readRounds {consistent : Document}
    (h : ∀ left answer, p (.call c.dataTarget (.batchGetItem (.object
      [(table, .object (Fields.set left "ConsistentRead" consistent))])) answer))
    (rounds n : Nat) (left : Fields) (items : List Document) :
    Emits p (Batch.readRounds c table consistent rounds n left items : Run T _) := by
  induction n generalizing left items with
  | zero =>
    rw [Batch.readRounds]
    infer_instance
  | succ n ih =>
    rw [Batch.readRounds]
    refine seq inferInstance fun _ => seq inferInstance fun _ => seq (call (h left)) fun _ =>
      seq inferInstance fun _ => seq inferInstance fun left => ?_
    cases left <;> infer_instance

theorem writeRounds
    (h : ∀ left answer, p (.call c.dataTarget (.batchWriteItem (.object [(table, left)])) answer))
    (rounds n : Nat) (left : Document) :
    Emits p (Batch.writeRounds c table rounds n left : Run T Unit) := by
  induction n generalizing left with
  | zero =>
    rw [Batch.writeRounds]
    infer_instance
  | succ n ih =>
    rw [Batch.writeRounds]
    refine seq inferInstance fun _ => seq inferInstance fun _ => seq (call (h left)) fun _ =>
      seq inferInstance fun left => ?_
    cases left <;> infer_instance

theorem batchRead {attributeName : String} {keys : List String} {consistent : Document}
    {rounds : Int}
    (h : ∀ left answer, p (.call c.dataTarget (.batchGetItem (.object
      [(table, .object (Fields.set left "ConsistentRead" consistent))])) answer)) :
    Emits p (Batch.read c table attributeName keys consistent rounds : Run T _) := by
  rw [Batch.read]
  exact seq inferInstance fun _ => seq (readRounds h _ _ _ _) inferInstance

theorem batchWrite {attributeName : String} {keys : List String} {rounds : Int}
    (h : ∀ left answer, p (.call c.dataTarget (.batchWriteItem (.object [(table, left)])) answer)) :
    Emits p (Batch.write c table attributeName keys rounds : Run T _) := by
  rw [Batch.write]
  exact seq inferInstance fun _ => seq inferInstance fun _ =>
    seq (writeRounds h _ _ _) inferInstance

/- Requests about tables. -/

open Table

variable {l : Lifecycle T}

theorem describe (h : ∀ answer, p (.call .store (.describeTable (.text table)) answer)) :
    Emits p (l.describe table) := by
  unfold Lifecycle.describe Client.describeTable
  exact seq (seq (call h) inferInstance) inferInstance

theorem look (h : ∀ answer, p (.call .store (.describeTable (.text table)) answer)) :
    Emits p (l.look table) := by
  have hdescribe : Emits p (l.describe table) := describe h
  rw [Lifecycle.look]
  refine seq inferInstance fun r => ?_
  split <;> infer_instance

instance pause (deadline : T) (goal : Goal) : Emits p (l.pause deadline goal table) := by
  rw [Lifecycle.pause]
  infer_instance

theorem watch (h : ∀ answer, p (.call .store (.describeTable (.text table)) answer))
    (deadline : T) (goal : Goal) (looks : Nat) :
    Emits p (l.watch deadline goal table looks) := by
  induction looks with
  | zero =>
    rw [Lifecycle.watch]
    infer_instance
  | succ looks ih =>
    rw [Lifecycle.watch]
    refine seq (look h) fun sighting => ?_
    dsimp only
    split
    · refine seq inferInstance fun _ => ?_
      split <;> infer_instance
    · split <;> infer_instance

theorem await (h : ∀ answer, p (.call .store (.describeTable (.text table)) answer))
    (goal : Goal) : Emits p (l.await goal table) := by
  rw [Lifecycle.await]
  exact seq inferInstance fun w => watch h _ goal _

theorem create {d : Definition} (h : ∀ answer, p (.call .store (.createTable d.request) answer)) :
    Emits p (l.create d) := by
  have hcreate : Emits p (l.client.createTable d.request : Run T _) := by
    rw [Client.createTable]
    exact seq (call h) inferInstance
  rw [Lifecycle.create]
  refine seq inferInstance fun _ => seq inferInstance fun r => ?_
  split <;> infer_instance

theorem ensure {d : Definition} (h : ∀ answer, p (.call .store (.createTable d.request) answer))
    (h' : ∀ answer, p (.call .store (.describeTable (.text d.tableName)) answer)) :
    Emits p (l.ensure d) := by
  rw [Lifecycle.ensure]
  exact seq (create h) fun _ => seq inferInstance fun _ => await h' _

variable (hd : ∀ answer, p (.call .store (.deleteTable (.text table)) answer))

include hd

theorem deleteTable : Emits p (c.deleteTable (.text table) : Run T _) := by
  rw [Client.deleteTable]
  exact seq (call hd) inferInstance

theorem cleanUp (h : ∀ answer, p (.call .store (.describeTable (.text table)) answer)) :
    Emits p (l.cleanUp table) := by
  have hdelete : Emits p (l.client.deleteTable (.text table) : Run T _) := deleteTable hd
  have hdrop : Emits p (l.drop table) := by
    rw [Lifecycle.drop]
    exact seq inferInstance fun _ => seq hdelete fun _ => seq inferInstance fun _ => await h _
  have htry : Emits p (l.tryDrop table) := by
    rw [Lifecycle.tryDrop]
    refine seq inferInstance fun r => ?_
    split <;> infer_instance
  have hsweep : Emits p (l.sweep table) := by
    rw [Lifecycle.sweep]
    refine seq inferInstance fun r => ?_
    split <;> infer_instance
  rw [Lifecycle.cleanUp]
  infer_instance

end Emits

end Run

end TableBench
