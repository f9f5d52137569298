import TableBench.Proofs.Run.Redirection

namespace TableBench

open Run

namespace World

variable {T : Type}

/-- The surroundings of the next step: new answers, and nothing on record. -/
def awaiting (script : List (Outcome T)) (w : World T) : World T :=
  { w with script, events := [], logs := [] }

end World

namespace Session

structure Seen (T α : Type) where
  reply : Except Failure α
  unused : List (Outcome T)
  waits : List T
  clock : T
  drawn : Nat
  events : List Event

namespace Seen

variable {T α : Type}

def ofWorld (reply : Except Failure α) (w : World T) : Seen T α :=
  ⟨reply, w.script, w.waits, w.clock, w.source.drawn, w.events⟩

def via (c : Client) (s : Seen T α) : Seen T α := { s with events := s.events.map (.via c) }

def followed (s : Seen T α) (es : List Event) : Seen T α := { s with events := s.events ++ es }

/-- The stop of a session with an accelerator: at its end the accelerator's client is closed. -/
def closed (s : Seen T Unit) : Seen T Unit :=
  match s.reply with
  | .error _ => s
  | .ok _ => s.followed [.close .accelerator]

theorem ofWorld_followed {w w' : World T} {es : List Event} {reply : Except Failure α}
    {rs rs' : List LogRecord} (hw : w'.unrecorded = w.unrecorded)
    (he : w'.events = w.events ++ es) :
    ofWorld reply (w'.logged rs') = (ofWorld reply (w.logged rs)).followed es := by
  have h := congrArg (fun v : World T =>
    (⟨reply, v.script, v.waits, v.clock, v.source.drawn, w.events ++ es⟩ : Seen T α)) hw
  rw [ofWorld, World.logged_events, he]
  exact h

theorem ofWorld_behind (c : Client) (reply : Except Failure α) (w : World T) :
    ofWorld reply (w.behind c [] []) = (ofWorld reply w).via c := rfl

end Seen

variable {T α : Type}

def observe (script : List (Outcome T)) (x : SessionRun T α) (l : Live T) : Seen T α × Live T :=
  match x { l with world := l.world.awaiting script } with
  | .ok a l' => (.ofWorld (.ok a) l'.world, l')
  | .error e l' => (.ofWorld (.error e) l'.world, l')

/-- The use of a session from start to stop: its payloads, its data requests, and the answers to
each step. -/
structure Course (T : Type) where
  values : Nat → String
  first : List (Outcome T)
  requests : List (DataCall × List (Outcome T))
  last : List (Outcome T)

structure Record (T : Type) where
  started : Seen T Unit
  replies : List (Seen T DataReply)
  stopped : Seen T Unit

variable [TimeScale T]

/-- What is seen of data requests one after the other, whatever comes of them. -/
def observeAll : List (DataCall × List (Outcome T)) → Live T → List (Seen T DataReply) × Live T
  | [], l => ([], l)
  | (request, script) :: requests, l =>
    let (seen, l) := observe script request.run l
    let (rest, l) := observeAll requests l
    (seen :: rest, l)

def Course.record (course : Course T) (l : Live T) : Record T :=
  let (started, l) := observe course.first (start course.values) l
  let (replies, l) := observeAll course.requests l
  let (stopped, _) := observe course.last stop l
  { started, replies, stopped }

namespace Record

/-- No request about items is made but between start and stop, and all of these go to the store. -/
structure Direct (r : Record T) : Prop where
  started : ∀ c, r.started.via c = r.started
  replies : ∀ seen ∈ r.replies, seen.via .direct = seen
  stopped : ∀ c, r.stopped.via c = r.stopped

/-- The record with an accelerator in front of the store: a start that succeeds opens it, then
requests about items go to it, and a stop that comes to its end closes it. -/
def fronted (opening : List Event) (r : Record T) : Record T :=
  match r.started.reply with
  | .error _ => r
  | .ok _ =>
    { started := r.started.followed opening
      replies := r.replies.map (.via .accelerated)
      stopped := r.stopped.closed }

end Record

omit [TimeScale T] in
theorem observe_of_ok {script : List (Outcome T)} {x : SessionRun T α} {l l' : Live T} {a : α}
    (h : x ⟨l.session, l.world.awaiting script⟩ = .ok a l') :
    observe script x l = (.ofWorld (.ok a) l'.world, l') := by
  simp only [observe, h]

omit [TimeScale T] in
theorem observe_of_error {script : List (Outcome T)} {x : SessionRun T α} {l l' : Live T}
    {e : Failure} (h : x ⟨l.session, l.world.awaiting script⟩ = .error e l') :
    observe script x l = (.ofWorld (.error e) l'.world, l') := by
  simp only [observe, h]

omit [TimeScale T] in
theorem observe_of_eq {script : List (Outcome T)} {x y : SessionRun T α} {l : Live T}
    (h : x ⟨l.session, l.world.awaiting script⟩ = y ⟨l.session, l.world.awaiting script⟩) :
    observe script x l = observe script y l := by
  simp only [observe, h]

omit [TimeScale T] in
theorem observe_congr {w w' : World T} (hw : w'.unrecorded = w.unrecorded)
    (script : List (Outcome T)) (x : SessionRun T α) (s : Session T) :
    observe script x ⟨s, w'⟩ = observe script x ⟨s, w⟩ := by
  have hawaiting : w'.awaiting script = w.awaiting script :=
    congrArg (fun w : World T => { w with script }) hw
  simp only [observe, hawaiting]

end Session

end TableBench
