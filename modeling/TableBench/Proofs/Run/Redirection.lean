import TableBench.Proofs.Diagnosis
import TableBench.Proofs.Session.DataCall

namespace TableBench

/-- The event with its request sent to where the client would send it. -/
def Event.via (c : Client) : Event → Event
  | call _ request answer => call (c.targetOf request) request answer
  | e => e

theorem Event.target_of_mem_via {c : Client} {es : List Event} {target : Target}
    {request : Request} {answer : Option Answer}
    (h : call target request answer ∈ es.map (via c)) : target = c.targetOf request := by
  obtain ⟨e, -, he⟩ := List.mem_map.1 h
  cases e with
  | call => cases he; rfl
  | _ => cases he

namespace World

variable {T : Type}

/-- The surroundings with other records before, and what came since then seen through a client. -/
@[simps] def behind (c : Client) (es : List Event) (rs : List LogRecord) (w : World T) : World T :=
  { w with events := es ++ w.events.map (.via c), logs := rs ++ w.logs }

@[simps] def unrecorded (w : World T) : World T := { w with events := [], logs := [] }

theorem behind_unrecorded (c : Client) (w : World T) :
    w.unrecorded.behind c w.events w.logs = w := by
  simp only [behind, unrecorded, List.map_nil, List.append_nil]

theorem behind_of_unrecorded (c : Client) {w : World T} (h : w.events = []) :
    w.behind c [] [] = w := by
  simp only [behind, h, List.map_nil, List.append_nil, List.nil_append]
  rw [← h]

theorem behind_logged (c : Client) (es : List Event) (rs rs' : List LogRecord) (w : World T) :
    (w.behind c es rs).logged rs' = (w.logged rs').behind c es rs := by
  simp only [behind, logged, List.append_assoc]

theorem behind_noted (c : Client) (es : List Event) (rs : List LogRecord) (e : Event)
    (w : World T) : (w.behind c es rs).noted (e.via c) = (w.noted e).behind c es rs := by
  simp only [behind, noted, List.map_append, List.map_singleton, List.append_assoc]

theorem behind_answered [TimeScale T] (c : Client) (es : List Event) (rs : List LogRecord)
    (target : Target) (request : Request) (o : Outcome T) (script : List (Outcome T))
    (w : World T) :
    (w.behind c es rs).answered (c.targetOf request) request o script =
      (w.answered target request o script).behind c es rs := by
  simp only [behind, answered, List.map_append, List.map_singleton, List.append_assoc, Event.via]

end World

namespace Run

variable {σ τ α β : Type}

def moved (f : σ → τ) : EStateM.Result Failure σ α → EStateM.Result Failure τ α
  | .ok a s => .ok a (f s)
  | .error e s => .error e (f s)

/-- The second run does to changed states what the first one does to states. -/
class Tracks (f : σ → τ) (x : EStateM Failure σ α) (y : EStateM Failure τ α) : Prop where
  apply_eq : ∀ s, y (f s) = moved f (x s)

namespace Tracks

section

variable {f : σ → τ}

instance pure (a : α) : Tracks f (Pure.pure a) (Pure.pure a) := ⟨fun _ => rfl⟩

instance throw (e : Failure) :
    Tracks f (MonadExcept.throw e : EStateM Failure σ α) (MonadExcept.throw e) := ⟨fun _ => rfl⟩

instance ofExcept (r : Except Failure α) : Tracks f (Run.ofExcept r) (Run.ofExcept r) := by
  cases r <;> exact ⟨fun _ => rfl⟩

instance bind (x : EStateM Failure σ α) (y : EStateM Failure τ α) (g : α → EStateM Failure σ β)
    (h : α → EStateM Failure τ β) [hx : Tracks f x y] [hg : ∀ a, Tracks f (g a) (h a)] :
    Tracks f (x >>= g) (y >>= h) where
  apply_eq s := by
    have he := hx.apply_eq s
    cases hr : x s with
    | ok a s' =>
      rw [hr] at he
      rw [bind_of_ok hr, bind_of_ok he]
      exact (hg a).apply_eq s'
    | error e s' =>
      rw [hr] at he
      rw [bind_of_error hr, bind_of_error he]
      rfl

theorem seq {x : EStateM Failure σ α} {y : EStateM Failure τ α} {g : α → EStateM Failure σ β}
    {h : α → EStateM Failure τ β} [Tracks f x y] (hg : ∀ a, Tracks f (g a) (h a)) :
    Tracks f (x >>= g) (y >>= h) :=
  bind x y g h

theorem get {g : σ → EStateM Failure σ α} {h : τ → EStateM Failure τ α}
    (hg : ∀ s, Tracks f (g s) (h (f s))) :
    Tracks f (MonadState.get >>= g) (MonadState.get >>= h) :=
  ⟨fun s => (hg s).apply_eq s⟩

instance attempt (x : EStateM Failure σ α) (y : EStateM Failure τ α) [hx : Tracks f x y] :
    Tracks f (Run.attempt x) (Run.attempt y) where
  apply_eq s := by
    have he := hx.apply_eq s
    cases hr : x s with
    | ok a s' =>
      rw [hr] at he
      rw [attempt_of_ok hr, attempt_of_ok he]
      rfl
    | error e s' =>
      rw [hr] at he
      rw [attempt_of_error hr, attempt_of_error he]
      rfl

instance ite {p : Prop} [Decidable p] (x x' : EStateM Failure σ α) (y y' : EStateM Failure τ α)
    [Tracks f x y] [Tracks f x' y'] : Tracks f (if p then x else x') (if p then y else y') := by
  split <;> infer_instance

end

section

variable {T : Type} {c : Client} {es : List Event} {rs : List LogRecord}

theorem note {e : Event} (he : e.via c = e) :
    Tracks (World.behind c es rs) (Run.note e : Run T Unit) (Run.note e) where
  apply_eq w := by
    rw [note_apply, note_apply, moved, ← World.behind_noted, he]

instance logAll (records : List LogRecord) :
    Tracks (World.behind c es rs) (Run.logAll records : Run T Unit) (Run.logAll records) :=
  ⟨fun w => congrArg (EStateM.Result.ok ()) (World.behind_logged c es rs records w)⟩

instance log (level : Level) (component : Component) (message : String) :
    Tracks (World.behind c es rs) (Run.log level component message : Run T Unit)
      (Run.log level component message) :=
  logAll _

instance lookupVariable (name : String) :
    Tracks (World.behind c es rs) (Run.lookupVariable name : Run T _) (Run.lookupVariable name) :=
  ⟨fun _ => rfl⟩

instance draw : Tracks (World.behind c es rs) (Run.draw : Run T String) Run.draw := ⟨fun _ => rfl⟩

instance fail (e : BenchError) :
    Tracks (World.behind c es rs) (Run.fail e : Run T α) (Run.fail e) := throw _

instance close (d : Client) :
    Tracks (World.behind c es rs) (d.close : Run T Unit) d.close := note rfl

instance resolveCredentials (config : Config T) :
    Tracks (World.behind c es rs) (Run.resolveCredentials config)
      (Run.resolveCredentials config) := by
  unfold Run.resolveCredentials
  have hnote (profile region : Option String) : Tracks (World.behind c es rs)
      (Run.note (.resolve profile region) : Run T Unit) (Run.note (.resolve profile region)) :=
    note rfl
  refine .seq fun _ => .seq fun _ => ?_
  split
  · infer_instance
  · refine .seq fun _ => .get fun w => ?_
    simp only [World.behind_environment]
    split <;> infer_instance

instance openStore (config : Config T) :
    Tracks (World.behind c es rs) (Run.openStore config) (Run.openStore config) := by
  unfold Run.openStore
  have hnote (endpoint : Option String) (settings : ClientSettings) : Tracks
      (World.behind c es rs) (Run.note (.openStore endpoint settings) : Run T Unit)
      (Run.note (.openStore endpoint settings)) :=
    note rfl
  dsimp only
  infer_instance

instance check (keys : List String) (limit : Nat) (rounds : Int) :
    Tracks (World.behind c es rs) (Batch.check keys limit rounds : Run T Unit)
      (Batch.check keys limit rounds) := by
  unfold Batch.check
  split <;> infer_instance

instance putRequests (attributeName : String) (keys : List String) :
    Tracks (World.behind c es rs) (Batch.putRequests attributeName keys : Run T _)
      (Batch.putRequests attributeName keys) := by
  induction keys with
  | nil => exact pure _
  | cons key keys ih =>
    unfold Batch.putRequests
    infer_instance

variable [TimeScale T]

instance wait (t : T) :
    Tracks (World.behind c es rs) (Run.wait t : Run T Bool) (Run.wait t) where
  apply_eq w := by
    cases hc : w.interruption.cuts (w.waits.length + 1) with
    | true => rw [wait_of_cut hc, wait_of_cut (w := w.behind c es rs) hc]; rfl
    | false =>
      cases ht : w.interruption.refuses t with
      | true => rw [wait_of_refused hc ht, wait_of_refused (w := w.behind c es rs) hc ht]; rfl
      | false => rw [wait_of_not_cut hc ht, wait_of_not_cut (w := w.behind c es rs) hc ht]; rfl

instance exchange (target : Target) (request : Request) :
    Tracks (World.behind c es rs) (Run.exchange target request : Run T Answer)
      (Run.exchange (c.targetOf request) request) where
  apply_eq w := by
    cases hs : w.script with
    | nil =>
      rw [exchange_of_nil hs, exchange_of_nil (w := w.behind c es rs) hs, moved,
        ← World.behind_noted, Event.via]
    | cons o script =>
      rw [exchange_of_cons hs, exchange_of_cons (w := w.behind c es rs) hs, moved,
        ← World.behind_answered]

/-- A request is sent by one client as it is by another, but for where it goes. -/
instance call (target : Target) (request : Request) :
    Tracks (World.behind c es rs) (Run.call target request : Run T Document)
      (Run.call (c.targetOf request) request) := by
  unfold Run.call
  refine .seq fun answer => ?_
  cases answer <;> infer_instance

/- The requests of a client. -/

variable (d : Client)

instance getItem (table key consistent : Document) :
    Tracks (World.behind c es rs) (d.getItem table key consistent : Run T _)
      (c.getItem table key consistent) := by
  unfold Client.getItem
  have hcall : Tracks (World.behind c es rs)
      (Run.call d.dataTarget (.getItem table key consistent) : Run T _)
      (Run.call c.dataTarget (.getItem table key consistent)) := call _ _
  refine .seq fun response => .seq fun fs => ?_
  split <;> infer_instance

instance putItem (table item : Document) :
    Tracks (World.behind c es rs) (d.putItem table item : Run T _) (c.putItem table item) :=
  call _ _

instance batchGetItem (items : Document) :
    Tracks (World.behind c es rs) (d.batchGetItem items : Run T _) (c.batchGetItem items) :=
  call _ _

instance batchWriteItem (items : Document) :
    Tracks (World.behind c es rs) (d.batchWriteItem items : Run T _) (c.batchWriteItem items) :=
  call _ _

/- Requests about tables go to the store through every client. -/

instance describeTable (table : Document) :
    Tracks (World.behind c es rs) (d.describeTable table : Run T _) (d.describeTable table) := by
  have hcall : Tracks (World.behind c es rs) (Run.call .store (.describeTable table) : Run T _)
      (Run.call .store (.describeTable table)) := call _ _
  unfold Client.describeTable
  infer_instance

instance createTable (definition : Fields) :
    Tracks (World.behind c es rs) (d.createTable definition : Run T _)
      (d.createTable definition) := by
  have hcall : Tracks (World.behind c es rs) (Run.call .store (.createTable definition) : Run T _)
      (Run.call .store (.createTable definition)) := call _ _
  unfold Client.createTable
  infer_instance

instance deleteTable (table : Document) :
    Tracks (World.behind c es rs) (d.deleteTable table : Run T _) (d.deleteTable table) := by
  have hcall : Tracks (World.behind c es rs) (Run.call .store (.deleteTable table) : Run T _)
      (Run.call .store (.deleteTable table)) := call _ _
  unfold Client.deleteTable
  infer_instance

/- Items and batches. -/

instance itemRead (table attributeName key : String) (consistent : Document) :
    Tracks (World.behind c es rs) (Item.read d table attributeName key consistent : Run T _)
      (Item.read c table attributeName key consistent) := by
  unfold Item.read
  infer_instance

instance itemWrite (table attributeName key : String) :
    Tracks (World.behind c es rs) (Item.write d table attributeName key : Run T _)
      (Item.write c table attributeName key) := by
  unfold Item.write
  infer_instance

instance readRounds (table : String) (consistent : Document) (rounds n : Nat) (left : Fields)
    (items : List Document) :
    Tracks (World.behind c es rs)
      (Batch.readRounds d table consistent rounds n left items : Run T _)
      (Batch.readRounds c table consistent rounds n left items) := by
  induction n generalizing left items with
  | zero =>
    unfold Batch.readRounds
    infer_instance
  | succ n ih =>
    unfold Batch.readRounds
    refine .seq fun _ => .seq fun _ => .seq fun _ => .seq fun _ => .seq fun left => ?_
    cases left <;> infer_instance

instance writeRounds (table : String) (rounds n : Nat) (left : Document) :
    Tracks (World.behind c es rs) (Batch.writeRounds d table rounds n left : Run T Unit)
      (Batch.writeRounds c table rounds n left) := by
  induction n generalizing left with
  | zero =>
    unfold Batch.writeRounds
    infer_instance
  | succ n ih =>
    unfold Batch.writeRounds
    refine .seq fun _ => .seq fun _ => .seq fun _ => .seq fun left => ?_
    cases left <;> infer_instance

instance batchRead (table attributeName : String) (keys : List String) (consistent : Document)
    (rounds : Int) :
    Tracks (World.behind c es rs)
      (Batch.read d table attributeName keys consistent rounds : Run T _)
      (Batch.read c table attributeName keys consistent rounds) := by
  unfold Batch.read
  infer_instance

instance batchWrite (table attributeName : String) (keys : List String) (rounds : Int) :
    Tracks (World.behind c es rs) (Batch.write d table attributeName keys rounds : Run T _)
      (Batch.write c table attributeName keys rounds) := by
  unfold Batch.write
  infer_instance

/- Tables. -/

variable (l : Table.Lifecycle T) (tableName : String)

instance describe :
    Tracks (World.behind c es rs) (l.describe tableName) (l.describe tableName) := by
  unfold Table.Lifecycle.describe
  infer_instance

instance look : Tracks (World.behind c es rs) (l.look tableName) (l.look tableName) := by
  unfold Table.Lifecycle.look
  refine .seq fun r => ?_
  split <;> infer_instance

instance create (definition : Table.Definition) :
    Tracks (World.behind c es rs) (l.create definition) (l.create definition) := by
  unfold Table.Lifecycle.create
  refine .seq fun _ => .seq fun r => ?_
  split <;> infer_instance

instance pause (deadline : T) (goal : Table.Goal) :
    Tracks (World.behind c es rs) (l.pause deadline goal tableName)
      (l.pause deadline goal tableName) := by
  unfold Table.Lifecycle.pause
  refine .get fun w => ?_
  simp only [World.behind_clock]
  infer_instance

instance watch (deadline : T) (goal : Table.Goal) (looks : Nat) :
    Tracks (World.behind c es rs) (l.watch deadline goal tableName looks)
      (l.watch deadline goal tableName looks) := by
  induction looks with
  | zero => exact throw _
  | succ looks ih =>
    unfold Table.Lifecycle.watch
    have hrest (sighting : Table.Sighting) : Tracks (World.behind c es rs)
        (match goal.reached? sighting with
          | some status => Pure.pure status
          | none => do
            l.pause deadline goal tableName
            l.watch deadline goal tableName looks)
        (match goal.reached? sighting with
          | some status => Pure.pure status
          | none => do
            l.pause deadline goal tableName
            l.watch deadline goal tableName looks) := by
      split <;> infer_instance
    refine .seq fun sighting => ?_
    infer_instance

instance await (goal : Table.Goal) :
    Tracks (World.behind c es rs) (l.await goal tableName) (l.await goal tableName) := by
  unfold Table.Lifecycle.await
  refine .get fun w => ?_
  simp only [World.behind_clock, World.behind_script]
  infer_instance

instance ensure (definition : Table.Definition) :
    Tracks (World.behind c es rs) (l.ensure definition) (l.ensure definition) := by
  unfold Table.Lifecycle.ensure
  infer_instance

instance drop : Tracks (World.behind c es rs) (l.drop tableName) (l.drop tableName) := by
  unfold Table.Lifecycle.drop
  infer_instance

instance tryDrop : Tracks (World.behind c es rs) (l.tryDrop tableName) (l.tryDrop tableName) := by
  unfold Table.Lifecycle.tryDrop
  refine .seq fun r => ?_
  split <;> infer_instance

instance sweep : Tracks (World.behind c es rs) (l.sweep tableName) (l.sweep tableName) := by
  unfold Table.Lifecycle.sweep
  refine .seq fun r => ?_
  split <;> infer_instance

instance cleanUp : Tracks (World.behind c es rs) (l.cleanUp tableName) (l.cleanUp tableName) := by
  unfold Table.Lifecycle.cleanUp
  infer_instance

/- Data requests of a session. -/

instance through (s : Session T) (request : Session.DataCall) :
    Tracks (World.behind c es rs) (request.through d s : Run T _) (request.through c s) := by
  cases request <;> unfold Session.DataCall.through <;> infer_instance

end

/-- All that the second run does outside goes through the client. -/
theorem events_final {T : Type} {c : Client} {x y : Run T α} (w : World T)
    (h : Tracks (World.behind c w.events w.logs) x y) :
    ∃ es : List Event, (final y w).events = w.events ++ es.map (.via c) := by
  have he := h.apply_eq w.unrecorded
  rw [World.behind_unrecorded] at he
  cases hr : x w.unrecorded with
  | ok a w' =>
    rw [hr] at he
    exact ⟨w'.events, by rw [final_of_ok he]; rfl⟩
  | error e w' =>
    rw [hr] at he
    exact ⟨w'.events, by rw [final_of_error he]; rfl⟩

end Tracks

end Run

end TableBench
