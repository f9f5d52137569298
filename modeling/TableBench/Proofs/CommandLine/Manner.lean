import TableBench.Proofs.Connection
import TableBench.Proofs.KeyValue.Requests
import TableBench.Proofs.Run.Redirection
import TableBench.Proofs.Table.CleanUp

namespace TableBench

open Run Service Surrounded

inductive Listed : Option Document → Prop
  | missing : Listed none
  | there (ds : List Document) : Listed (some (.list ds))

inductive Reread : Document → Prop
  | request {fs : Fields} (h : Listed (fs.lookup "Keys")) : Reread (.object fs)

/-- An object with a part for every table that it names; it may be missing. -/
inductive ForTables (P : Document → Prop) : Option Document → Prop
  | missing : ForTables P none
  | there {tables : Fields} (h : ∀ table d, tables.lookup table = some d → P d) :
    ForTables P (some (.object tables))

/-- An answer to a request that has the parts that such answers have, or is a fault of the store. -/
inductive Regular : Request → Answer → Prop
  | fault {request : Request} {f : Fault} (h : f.Orderly) : Regular request (.error f)
  | item {table key consistent : Document} (response : Fields) :
    Regular (.getItem table key consistent) (.ok (.object response))
  | stored {table item : Document} (response : Fields) :
    Regular (.putItem table item) (.ok (.object response))
  | found {items : Document} {response : Fields}
    (hr : ForTables (fun d => Listed (some d)) (response.lookup "Responses"))
    (hu : ForTables Reread (response.lookup "UnprocessedKeys")) :
    Regular (.batchGetItem items) (.ok (.object response))
  | allStored {items : Document} {response : Fields}
    (hu : ForTables (fun d => Listed (some d)) (response.lookup "UnprocessedItems")) :
    Regular (.batchWriteItem items) (.ok (.object response))
  | described {table : Document} {response fs : Fields}
    (h : response.lookup "Table" = some (.object fs)) (hfs : Table.Descriptor.Orderly fs) :
    Regular (.describeTable table) (.ok (.object response))
  | created {definition response : Fields} {d : Document}
    (h : response.lookup "TableDescription" = some d) :
    Regular (.createTable definition) (.ok (.object response))
  | deleted {table : Document} {response : Fields} {d : Document}
    (h : response.lookup "TableDescription" = some d) :
    Regular (.deleteTable table) (.ok (.object response))

theorem Regular.orderly_look {table : Document} {answer : Answer}
    (h : Regular (.describeTable table) answer) : Table.Orderly (.describeTable table) answer := by
  cases h with
  | fault hf => exact .fault hf
  | described hr hfs => exact .described hr hfs

def regular : Service Unit where
  Answers _ _ request answer _ := Regular request answer

theorem Regular.serves {target : Target} {request : Request} {answer : Answer} {es : List Event}
    (h : Regular request answer) (hs : regular.Serves () es ()) :
    regular.Serves () (.call target request (some answer) :: es) () :=
  .call h hs

def calls (es : List Event) : List Event := es.filter Event.isCall

theorem calls_of_aside {es : List Event} (h : ∀ e ∈ es, e.isCall = false) : calls es = [] :=
  List.filter_eq_nil_iff.2 fun e he => by rw [h e he]; exact Bool.false_ne_true

theorem calls_append_aside (es : List Event) {es' : List Event} (h : ∀ e ∈ es', e.isCall = false) :
    calls (es ++ es') = calls es := by
  rw [calls, List.filter_append, ← calls, ← calls, calls_of_aside h, List.append_nil]

theorem calls_append_call (es : List Event) (target : Target) (request : Request)
    (answer : Option Answer) :
    calls (es ++ [.call target request answer]) = calls es ++ [.call target request answer] :=
  List.filter_append _ _

section

variable {T : Type} {b : List Event} {w w' : World T} {P Q : List Event → Prop}

/-- What is no request leaves the requests as they were. -/
theorem calls_aside (h : ∃ es, w.events = b ++ es ∧ P (calls es)) (ha : w.Aside w') :
    ∃ es, w'.events = b ++ es ∧ P (calls es) := by
  obtain ⟨es, hes, hp⟩ := h
  obtain ⟨es', hes', hall⟩ := ha
  refine ⟨es ++ es', by rw [hes', hes, List.append_assoc], ?_⟩
  rwa [calls_append_aside es hall]

theorem calls_called {target : Target} {request : Request} {answer : Option Answer}
    (h : ∃ es, w.events = b ++ es ∧ P (calls es))
    (he : w'.events = w.events ++ [.call target request answer])
    (hq : ∀ es, P es → Q (es ++ [.call target request answer])) :
    ∃ es, w'.events = b ++ es ∧ Q (calls es) := by
  obtain ⟨es, hes, hp⟩ := h
  refine ⟨es ++ [_], by rw [he, hes, List.append_assoc], ?_⟩
  rw [calls_append_call]
  exact hq _ hp

theorem calls_of_events {es : List Event} (h : ∃ es, w.events = b ++ es ∧ P (calls es))
    (hes : w.events = b ++ es) : P (calls es) := by
  obtain ⟨es', hes', hp⟩ := h
  rwa [List.append_cancel_left (hes.symm.trans hes')]

end

namespace World

variable {T : Type} {start w w' : World T} {P Q : List Event → Prop}

/-- The requests since then, with their answers, are as `P` says. -/
def Heard (start w : World T) (P : List Event → Prop) : Prop := start.Since w fun es => P (calls es)

theorem Heard.mono (h : start.Heard w P) (hq : ∀ es, P es → Q es) : start.Heard w Q :=
  Since.mono h fun es => hq (calls es)

theorem Heard.called {target : Target} {request : Request} {answer : Option Answer}
    (h : start.Heard w P) (he : w'.events = w.events ++ [.call target request answer])
    (hq : ∀ es, P es → Q (es ++ [.call target request answer])) : start.Heard w' Q :=
  calls_called h he hq

theorem Heard.aside (h : start.Heard w P) (ha : w.Aside w') : start.Heard w' P :=
  calls_aside h ha

theorem Heard.refl : start.Heard start (· = []) := ⟨[], (List.append_nil _).symm, rfl⟩

theorem Heard.of_events {es : List Event} (h : start.Heard w P)
    (hes : w.events = start.events ++ es) : P (calls es) :=
  calls_of_events h hes

end World

/-- How a run deals with trouble: the faults that it forgives and the errors that it complains of
itself, both by the requests that came before, and the failures in which it breaks off though no
request failed, by the world that it leaves as well. -/
structure Manner (T : Type) where
  forgives : List Event → Request → BenchError → Prop
  complains : List Event → BenchError → Prop
  breaksOff : World T → List Event → Failure → Prop

namespace Manner

variable {T : Type}

/-- Every request got a response or a fault that is forgiven. -/
inductive Smooth (M : Manner T) : List Event → Prop
  | nil : Smooth M []
  | response {es : List Event} (h : M.Smooth es) (target : Target) (request : Request)
    (d : Document) : Smooth M (es ++ [.call target request (some (.ok d))])
  | fault {es : List Event} {request : Request} {f : Fault} {error : BenchError} {chained : Bool}
    (h : M.Smooth es) (target : Target) (hf : f.failure = .reported error chained)
    (hx : M.forgives es request error) :
    Smooth M (es ++ [.call target request (some (.error f))])

/-- The requests up to the first trouble: a fault that is not forgiven, or a complaint where no
request failed. -/
inductive Struck (M : Manner T) (error : BenchError) : List Event → Prop
  | fault {es : List Event} {request : Request} {f : Fault} {chained : Bool} (h : M.Smooth es)
    (target : Target) (hf : f.failure = .reported error chained)
    (hx : ¬ M.forgives es request error) :
    Struck M error (es ++ [.call target request (some (.error f))])
  | complaint {es : List Event} (h : M.Smooth es) (ho : M.complains es error) : Struck M error es

theorem Smooth.forgives {M : Manner T} {es : List Event} {target : Target} {request : Request}
    {f : Fault} {error : BenchError} {chained : Bool}
    (h : M.Smooth (es ++ [.call target request (some (.error f))]))
    (hf : f.failure = .reported error chained) : M.forgives es request error := by
  generalize hes : es ++ [Event.call target request (some (.error f))] = es' at h
  cases h with
  | nil => exact absurd hes (List.append_ne_nil_of_right_ne_nil es nofun)
  | response h target' request' d =>
    have hlast := (List.append_inj' hes rfl).2
    cases hlast
  | fault h target' hf' hx =>
    obtain ⟨rfl, hlast⟩ := List.append_inj' hes rfl
    cases hlast
    rw [hf] at hf'
    cases hf'
    exact hx

variable {σ α β : Type} (M : Manner T) (b : List Event)

/-- There was no trouble since the events `b`, and the requests since then are as `P` says. -/
def Calm (P : List Event → Prop) (w : World T) : Prop :=
  ∃ es, w.events = b ++ es ∧ M.Smooth (calls es) ∧ P (calls es)

def Troubled (error : BenchError) (w : World T) : Prop :=
  ∃ es, w.events = b ++ es ∧ M.Struck error (calls es)

/-- The failure reports the trouble since the events `b`, or the run broke off in it. -/
inductive Fails : Failure → World T → Prop
  | troubled {error : BenchError} {w : World T} (chained : Bool) (h : M.Troubled b error w) :
    Fails (.reported error chained) w
  | brokenOff {f : Failure} {w : World T} (h : M.Calm b (M.breaksOff w · f) w) : Fails f w

/-- A run at the end of which there was no trouble, or that fails as the trouble has it. -/
def Ends [Surrounded σ T] (s : σ) (x : EStateM Failure σ α) (Q : α → σ → List Event → Prop) :
    Prop :=
  regular.Ensures () s x (fun a s' _ => M.Calm b (Q a s') (world s'))
    (fun f s' _ => M.Fails b f (world s'))

variable {M b} {P P' : List Event → Prop} {w w' : World T} {error : BenchError}

theorem Calm.start : M.Calm w.events (· = []) w := ⟨[], (List.append_nil _).symm, .nil, rfl⟩

theorem Calm.of_events {es : List Event} (h : M.Calm b P w) (hes : w.events = b ++ es) :
    M.Smooth (calls es) ∧ P (calls es) :=
  calls_of_events (P := fun es => M.Smooth es ∧ P es) h hes

theorem Troubled.of_events {es : List Event} (h : M.Troubled b error w)
    (hes : w.events = b ++ es) : M.Struck error (calls es) :=
  calls_of_events (P := M.Struck error) h hes

theorem Calm.mono (h : M.Calm b P w) (hp : ∀ es, P es → P' es) : M.Calm b P' w := by
  obtain ⟨es, hes, hs, hP⟩ := h
  exact ⟨es, hes, hs, hp _ hP⟩

theorem Calm.split {p : Prop} (h : M.Calm b (fun es => p ∧ P es) w) : p ∧ M.Calm b P w := by
  obtain ⟨es, hes, hs, hp, hP⟩ := h
  exact ⟨hp, es, hes, hs, hP⟩

theorem Calm.aside (h : M.Calm b P w) (ha : w.Aside w') : M.Calm b P w' :=
  calls_aside (P := fun es => M.Smooth es ∧ P es) h ha

theorem Troubled.aside (h : M.Troubled b error w) (ha : w.Aside w') : M.Troubled b error w' :=
  calls_aside (P := M.Struck error) h ha

theorem Fails.aside {f : Failure} (h : M.Fails b f w) (ha : w.Aside w')
    (hb : ∀ es, M.breaksOff w es f → M.breaksOff w' es f) : M.Fails b f w' := by
  cases h with
  | troubled chained h => exact .troubled chained (h.aside ha)
  | brokenOff h => exact .brokenOff ((h.aside ha).mono hb)

theorem Calm.complaint (h : M.Calm b P w) (ho : ∀ es, P es → M.complains es error) :
    M.Troubled b error w := by
  obtain ⟨es, hes, hs, hP⟩ := h
  exact ⟨es, hes, .complaint hs (ho _ hP)⟩

section

variable {target : Target} {request : Request} {f : Fault} {chained : Bool}

theorem Calm.response {d : Document} (h : M.Calm b P w)
    (he : w'.events = w.events ++ [.call target request (some (.ok d))])
    (hp : ∀ es, P es → P' (es ++ [.call target request (some (.ok d))])) : M.Calm b P' w' :=
  calls_called (P := fun es => M.Smooth es ∧ P es) (Q := fun es => M.Smooth es ∧ P' es) h he
    fun _ ⟨hs, hP⟩ => ⟨hs.response target request d, hp _ hP⟩

theorem Calm.forgiven (h : M.Calm b P w) (hf : f.failure = .reported error chained)
    (he : w'.events = w.events ++ [.call target request (some (.error f))])
    (hx : ∀ es, P es → M.forgives es request error)
    (hp : ∀ es, P es → P' (es ++ [.call target request (some (.error f))])) : M.Calm b P' w' :=
  calls_called (P := fun es => M.Smooth es ∧ P es) (Q := fun es => M.Smooth es ∧ P' es) h he
    fun _ ⟨hs, hP⟩ => ⟨hs.fault target hf (hx _ hP), hp _ hP⟩

theorem Calm.struck (h : M.Calm b P w) (hf : f.failure = .reported error chained)
    (he : w'.events = w.events ++ [.call target request (some (.error f))])
    (hx : ∀ es, P es → ¬ M.forgives es request error) : M.Troubled b error w' :=
  calls_called (P := fun es => M.Smooth es ∧ P es) (Q := M.Struck error) h he
    fun _ ⟨hs, hP⟩ => .fault hs target hf (hx _ hP)

end

namespace Ends

section

variable [Surrounded σ T] {s s₁ : σ} {x : EStateM Failure σ α} {f : α → EStateM Failure σ β}
  {Q Q' : α → σ → List Event → Prop} {R : β → σ → List Event → Prop}

theorem mono (h : M.Ends b s x Q) (hq : ∀ a s' es, Q a s' es → Q' a s' es) : M.Ends b s x Q' :=
  Ensures.mono h (fun a s' _ h => h.mono (hq a s')) fun _ _ _ h => h

theorem known {K : α → σ → Prop} (h : M.Ends b s x Q) (hk : ∀ a s', x s = .ok a s' → K a s') :
    M.Ends b s x fun a s' es => K a s' ∧ Q a s' es := by
  intro es m' hes hs
  have hx := h es m' hes hs
  cases hr : x s with
  | ok a s' =>
    rw [hr] at hx
    exact hx.mono fun es hq => ⟨hk a s' hr, hq⟩
  | error e s' =>
    rw [hr] at hx
    exact hx

theorem congr {y : EStateM Failure σ α} (h : x s = y s) (hy : M.Ends b s y Q) : M.Ends b s x Q :=
  Ensures.congr h hy

theorem pure {a : α} (h : M.Calm b (Q a s) (world s)) : M.Ends b s (Pure.pure a) Q :=
  Ensures.pure h

theorem of_ok {a : α} (h : x s = .ok a s₁) (hc : M.Calm b (Q a s₁) (world s₁)) :
    M.Ends b s x Q := by
  intro es _ _ _
  rw [h]
  exact hc

theorem of_error {chained : Bool} (h : x s = .error (.reported error chained) s₁)
    (ht : M.Troubled b error (world s₁)) : M.Ends b s x Q := by
  intro es _ _ _
  rw [h]
  exact .troubled chained ht

theorem complain {chained : Bool} (h : M.Calm b P (world s))
    (ho : ∀ es, P es → M.complains es error) :
    M.Ends b s (MonadExcept.throw (.reported error chained) : EStateM Failure σ α) Q :=
  of_error rfl (h.complaint ho)

theorem seq [Grows x] (hg : ∀ a, Grows (f a)) (hx : M.Ends b s x Q)
    (hf : ∀ a s', M.Calm b (Q a s') (world s') → M.Ends b s' (f a) R) :
    M.Ends b s (x >>= f) R :=
  Ensures.seq hg (Ensures.mono hx (fun a s' _ h => hf a s' h) fun _ _ _ h => h)

theorem bind [Grows x] [hg : ∀ a, Grows (f a)] (hx : M.Ends b s x Q)
    (hf : ∀ a s', M.Calm b (Q a s') (world s') → M.Ends b s' (f a) R) :
    M.Ends b s (x >>= f) R :=
  seq hg hx hf

theorem step {a : α} (h : x s = .ok a s₁) (he : (world s₁).events = (world s).events)
    (hf : M.Ends b s₁ (f a) R) : M.Ends b s (x >>= f) R :=
  Ensures.step h he hf

/-- A run whose last part cannot fail, makes no requests and does not change how it breaks off. -/
theorem ensuring [hg : Grows x] {last : EStateM Failure σ Unit} (h : M.Ends b s x Q)
    (hlast : ∃ s', last (final x s) = .ok () s' ∧ (world (final x s)).Aside (world s') ∧
      ∀ es f, M.breaksOff (world (final x s)) es f → M.breaksOff (world s') es f) :
    M.Ends b s (Run.ensuring x last) fun a _ es => ∃ s', Q a s' es := by
  intro es m' hes hs
  obtain ⟨s₂, hl, ha, hb⟩ := hlast
  obtain ⟨es₁, h₁⟩ := (hg.leads s).events
  obtain ⟨es₂, h₂, hall⟩ := ha
  cases hr : x s with
  | ok a s₁ =>
    have hx : Run.ensuring x last s = .ok a s₂ := by
      rw [final_of_ok hr] at hl
      exact ensuring_of_ok hr hl
    rw [final_of_ok hx, h₂, ← h₁, List.append_assoc, List.append_cancel_left_eq] at hes
    subst hes
    obtain ⟨m₁, hs₁, -⟩ := hs.split
    have hq := h es₁ m₁ h₁.symm hs₁
    rw [hr] at hq
    rw [hx]
    rw [final_of_ok hr] at h₂
    exact (hq.mono fun es h => ⟨s₁, h⟩).aside ⟨es₂, h₂, hall⟩
  | error e s₁ =>
    have hx : Run.ensuring x last s = .error e s₂ := by
      rw [final_of_error hr] at hl
      exact ensuring_of_error hr hl
    rw [final_of_error hx, h₂, ← h₁, List.append_assoc, List.append_cancel_left_eq] at hes
    subst hes
    obtain ⟨m₁, hs₁, -⟩ := hs.split
    have hq := h es₁ m₁ h₁.symm hs₁
    rw [hr] at hq
    rw [hx]
    rw [final_of_error hr] at h₂ hb
    exact hq.aside ⟨es₂, h₂, hall⟩ fun es => hb es e

end

theorem lift {l : Live T} {x : Run T α} {Q : α → World T → List Event → Prop}
    (h : M.Ends b l.world x Q) :
    M.Ends b l (SessionRun.lift x) fun a l' es => l'.session = l.session ∧ Q a l'.world es :=
  Ensures.lift (Ensures.mono h (fun _ _ _ h => h.mono fun _ hq => ⟨rfl, hq⟩) fun _ _ _ h => h)

theorem log {level : Level} {component : Component} {message : String} {f : Unit → Run T β}
    {R : β → World T → List Event → Prop} (h : M.Calm b P w)
    (hf : ∀ w', w'.unrecorded = w.unrecorded → M.Calm b P w' → M.Ends b w' (f ()) R) :
    M.Ends b w (Run.log level component message >>= f) R :=
  step (log_apply level component message w) rfl
    (hf _ rfl (h.aside ((World.Aside.refl w).logged _)))

/-- A run with a session around it. -/
theorem outside {x : Run T α} {y : SessionRun T α} {s : Session T} {Q : α → List Event → Prop}
    (h : M.Ends b (⟨s, w⟩ : Live T) y fun a _ es => Q a es)
    (hok : ∀ a l, y ⟨s, w⟩ = .ok a l → x w = .ok a l.world)
    (herror : ∀ e l, y ⟨s, w⟩ = .error e l → x w = .error e l.world) :
    M.Ends b w x fun a _ es => Q a es := by
  intro es m' hes hs
  cases hr : y ⟨s, w⟩ with
  | ok a l =>
    have hx := hok a l hr
    rw [final_of_ok hx] at hes
    have hq := h es m' (by rw [final_of_ok hr]; exact hes) hs
    rw [hr] at hq
    rw [hx]
    exact hq
  | error e l =>
    have hx := herror e l hr
    rw [final_of_error hx] at hes
    have hq := h es m' (by rw [final_of_error hr]; exact hes) hs
    rw [hr] at hq
    rw [hx]
    exact hq

variable [TimeScale T]

theorem call {target : Target} {request : Request} (h : M.Calm b P w)
    (hx : ∀ es error, P es → ¬ M.forgives es request error) :
    M.Ends b w (Run.call target request) fun d _ es => Regular request (.ok d) ∧
      ∃ es₀, P es₀ ∧ es = es₀ ++ [.call target request (some (.ok d))] := by
  apply Ensures.call
  · intro o script d _ hw ho ha
    have he : (w.answered target request o script).events =
        w.events ++ [.call target request (some (.ok d))] := by
      rw [World.answered_events, ho]
    exact h.response he fun es hes => ⟨ha, es, hes, rfl⟩
  · intro o script f _ hw ho ha
    cases ha with
    | fault hf =>
      obtain ⟨error, chained, hf⟩ := hf.failure
      have he : ((w.answered target request o script).logged f.records).events =
          w.events ++ [.call target request (some (.error f))] := by
        rw [World.logged_events, World.answered_events, ho]
      rw [hf]
      exact .troubled chained (h.struck hf he fun es => hx es error)

end Ends

end Manner

namespace Batch

variable {response : Fields} (table : String)

theorem partFor_of_forTables {P : Document → Prop} {name : String}
    (h : ForTables P (response.lookup name)) :
    ∃ part, partFor (.object response) name table = .ok part ∧ ∀ d, part = some d → P d := by
  generalize hp : response.lookup name = tables at h
  cases h with
  | missing =>
    refine ⟨none, ?_, nofun⟩
    simp only [partFor, Document.requireFields, Bind.bind, Except.bind, hp]
    rfl
  | @there tables h =>
    refine ⟨tables.lookup table, ?_, h table⟩
    simp only [partFor, Document.requireFields, Bind.bind, Except.bind, hp]
    rfl

theorem found_of_forTables
    (h : ForTables (fun d => Listed (some d)) (response.lookup "Responses")) :
    ∃ items, found (.object response) table = .ok items := by
  obtain ⟨part, hp, hl⟩ := partFor_of_forTables table h
  cases part with
  | none => exact ⟨[], by simp only [found, hp]; rfl⟩
  | some d =>
    cases hl d rfl with
    | there ds => exact ⟨ds, by simp only [found, hp]; rfl⟩

theorem keysLeft_of_forTables (h : ForTables Reread (response.lookup "UnprocessedKeys")) :
    keysLeft (.object response) table = .ok none ∨
      ∃ fs ds, keysLeft (.object response) table = .ok (some fs) ∧
        List.lookup "Keys" fs = some (Document.list ds) := by
  obtain ⟨part, hp, hl⟩ := partFor_of_forTables table h
  cases part with
  | none => exact .inl (keysLeft_of_none hp)
  | some d =>
    cases hl d rfl with
    | @request fs hfs =>
      have hk := keysLeft_of_object hp
      generalize hks : fs.lookup "Keys" = ks at hk hfs
      cases hfs with
      | missing => exact .inl hk
      | there ds =>
        cases hd : Document.isBlank? (some (.list ds)) with
        | true => exact .inl (by rw [hk, hd]; rfl)
        | false => exact .inr ⟨fs, ds, by rw [hk, hd]; rfl, hks⟩

theorem entriesLeft_of_forTables
    (h : ForTables (fun d => Listed (some d)) (response.lookup "UnprocessedItems")) :
    entriesLeft (.object response) table = .ok none ∨
      ∃ ds, entriesLeft (.object response) table = .ok (some (.list ds)) := by
  obtain ⟨part, hp, hl⟩ := partFor_of_forTables table h
  have he := entriesLeft_of_part hp
  cases part with
  | none => exact .inl he
  | some d =>
    cases hl d rfl with
    | there ds =>
      rw [Option.filter_some] at he
      cases hb : (Document.list ds).isBlank with
      | true => exact .inl (by rw [he, hb]; rfl)
      | false => exact .inr ⟨ds, by rw [he, hb]; rfl⟩

end Batch

end TableBench
