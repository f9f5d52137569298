import TableBench.Proofs.Session.Opening
import TableBench.Proofs.Session.Release
import TableBench.Proofs.Table.Change

namespace TableBench

open Run

def Request.aboutItems : Request → Bool
  | getItem .. | putItem .. | batchGetItem _ | batchWriteItem _ => true
  | describeTable _ | createTable _ | deleteTable _ => false

namespace Event

def Through (c : Client) (e : Event) : Prop :=
  ∃ request answer, e = .call c.dataTarget request answer ∧ request.aboutItems = true

theorem Through.idle {c : Client} {e : Event} (h : e.Through c) : e.Idle := by
  obtain ⟨request, answer, rfl, -⟩ := h
  exact ⟨rfl, rfl⟩

theorem Through.changesTable {c : Client} {e : Event} (h : e.Through c) :
    e.changesTable = false := by
  obtain ⟨request, answer, rfl, hitems⟩ := h
  cases request with
  | describeTable => cases hitems
  | createTable => cases hitems
  | deleteTable => cases hitems
  | _ => rfl

theorem Through.toStore {e : Event} (h : e.Through .direct) : e.ToStore := by
  obtain ⟨request, answer, rfl, -⟩ := h
  exact ⟨request, answer, rfl⟩

theorem IsSearch.changesTable {e : Event} (h : e.IsSearch) : e.changesTable = false := by
  obtain ⟨profile, region, rfl⟩ := h
  rfl

theorem ToStore.idle {e : Event} (h : e.ToStore) : e.Idle := by
  obtain ⟨request, answer, rfl⟩ := h
  exact ⟨rfl, rfl⟩

end Event

namespace Run.Emits

variable {T : Type} {p : Event → Prop}

instance sessionLog (level : Level) (message : String) :
    Emits p (Session.log level message : SessionRun T Unit) := lift _

end Run.Emits

namespace Session

variable {T α β : Type}

/-- The events that the run adds are requests about items, sent through the client of the session;
without a client it adds none. -/
class Asks (x : SessionRun T α) : Prop where
  asks : ∀ l : Live T, l.world.Adds (fun e => ∃ c, l.session.client = some c ∧ e.Through c)
    (final x l).world

namespace Asks

theorem of_client {f : Client → SessionRun T α} (hf : ∀ c, Emits (Event.Through c) (f c)) :
    Asks (requireClient >>= f) where
  asks l := by
    cases hc : l.session.client with
    | none =>
      rw [final_of_error (bind_of_error (requireClient_of_none hc) f)]
      exact .refl l.world
    | some c =>
      rw [final_bind_of_ok (requireClient_apply hc)]
      exact ((hf c).adds l).mono fun e he => ⟨c, rfl, he⟩

theorem map (x : SessionRun T α) [hx : Asks x] (g : α → β) :
    Asks (x >>= fun a => pure (g a)) where
  asks l := by
    rw [final_bind_of_still x fun _ _ => rfl]
    exact hx.asks l

variable [TimeScale T]

instance read (key : String) : Asks (Session.read key : SessionRun T _) := by
  rw [Session.read]
  refine of_client fun c => .seq inferInstance fun l => .lifted ?_
  exact .itemRead fun answer => ⟨_, answer, rfl, rfl⟩

instance write (key : String) : Asks (Session.write key : SessionRun T _) := by
  rw [Session.write]
  refine of_client fun c => .seq inferInstance fun _ => .seq inferInstance fun l => .lifted ?_
  exact .itemWrite fun payload answer => ⟨_, answer, rfl, rfl⟩

instance readAll (keys : List String) : Asks (Session.readAll keys : SessionRun T _) := by
  rw [Session.readAll]
  refine of_client fun c => .seq inferInstance fun l => .lifted ?_
  exact .batchRead fun left answer => ⟨_, answer, rfl, rfl⟩

instance writeAll (keys : List String) : Asks (Session.writeAll keys : SessionRun T _) := by
  rw [Session.writeAll]
  refine of_client fun c => .seq inferInstance fun _ => .seq inferInstance fun l => .lifted ?_
  exact .batchWrite fun left answer => ⟨_, answer, rfl, rfl⟩

instance dataCall (request : DataCall) : Asks (request.run : SessionRun T _) := by
  cases request <;> exact map _ _

end Asks

variable [TimeScale T]

def survey (tableName : String) : SessionRun T Unit := do
  let table ← SessionRun.lift ((← lifecycle).describe tableName)
  change fun s => { s with table := some table }
  log .info ("Table description: " ++ table.summary)

theorem survey_emits {p : Event → Prop} {tableName : String}
    (h : ∀ answer, p (.call .store (.describeTable (.text tableName)) answer)) :
    Emits p (survey tableName : SessionRun T Unit) := by
  rw [survey]
  exact .seq inferInstance fun _ => .seq (.lifted (.describe h)) inferInstance

theorem provision_emits {p : Event → Prop}
    (hd : ∀ table answer, p (.call .store (.describeTable table) answer))
    (hc : ∀ definition answer, p (.call .store (.createTable definition) answer)) :
    Emits p (provision : SessionRun T Unit) := by
  rw [provision]
  refine .seq inferInstance fun l => ?_
  have hsurvey : Emits p (survey l.session.config.tableName : SessionRun T Unit) :=
    survey_emits fun answer => hd _ answer
  have hensure (lifecycle : Table.Lifecycle T) :
      Emits p (lifecycle.ensure l.session.config.table) :=
    .ensure (fun answer => hc _ answer) fun answer => hd _ answer
  dsimp only
  split
  · exact .seq inferInstance fun _ => .seq inferInstance fun _ =>
      .seq inferInstance fun _ => hsurvey
  · exact hsurvey

theorem provision_adds {l : Live T} {p : Event → Prop}
    (hc : l.session.config.programmableTables = false)
    (h : ∀ answer, p (.call .store (.describeTable (.text l.session.config.tableName)) answer)) :
    l.world.Adds p (final provision l).world := by
  have hprovision : (provision : SessionRun T Unit) l = survey l.session.config.tableName l := by
    rw [provision, get_bind_apply]
    simp only [hc, Bool.false_eq_true, if_false]
    rfl
  rw [final, hprovision]
  exact (survey_emits h).adds l

/- The end of a session. -/

def holds (s : Session T) : Target → Bool
  | .store => s.store
  | .accelerator => s.accelerator

def closing (s : Session T) : List Event :=
  ([.store, .accelerator].filter s.holds).map .close

omit [TimeScale T] in
theorem Holding.through {s : Session T} {c : Client} {accelerator : Bool}
    (hs : s.Holding c accelerator) {es : List Event}
    (h : ∀ e ∈ es, ∃ c, s.client = some c ∧ e.Through c) : ∀ e ∈ es, e.Through c := by
  intro e he
  obtain ⟨c', hc, hthrough⟩ := h e he
  rw [hs.client] at hc
  cases hc
  exact hthrough

omit [TimeScale T] in
theorem Holding.closing {s : Session T} {c : Client} {accelerator : Bool}
    (h : s.Holding c accelerator) :
    s.closing = .close .store :: if accelerator then [.close .accelerator] else [] := by
  rw [Session.closing]
  cases accelerator <;> simp only [List.filter, holds, h.store, h.accelerator] <;> rfl

omit [TimeScale T] in
theorem release_closing (l : Live T) :
    release l = .ok () ⟨l.session.released,
      { l.world with events := l.world.events ++ l.session.closing }⟩ := by
  rw [closing]
  cases hs : l.session.store with
  | true =>
    rw [release_apply hs, closes]
    cases ha : l.session.accelerator <;> simp only [List.filter, holds, hs, ha] <;> rfl
  | false =>
    rw [release, get_bind_apply]
    simp only [hs, Bool.false_eq_true, if_false]
    cases ha : l.session.accelerator with
    | true =>
      simp only [if_true, List.filter, holds, hs, ha]
      exact bind_of_ok (close_apply .accelerated l) _
    | false =>
      simp only [Bool.false_eq_true, if_false, List.filter, holds, hs, ha, List.map_nil,
        List.append_nil]
      rfl

def shutDown : LogRecord := ⟨.info, .session, "DynamoDB benchmark session shut down"⟩

theorem stop_apply {l : Live T}
    (h : (l.session.client.isSome && l.session.config.programmableTables) = false) :
    stop l = .ok () ⟨l.session.released, World.logged
      { l.world with events := l.world.events ++ l.session.closing } [shutDown]⟩ := by
  rw [stop, get_bind_apply]
  simp only [h, Bool.false_eq_true, if_false]
  exact bind_of_ok (release_closing l) _

/-- A stop that returns closes the clients that are held, last of all. One that breaks off leaves
the session as it is. -/
theorem stop_since {p : Event → Prop}
    (hx : ∀ table answer, p (.call .store (.deleteTable table) answer))
    (hd : ∀ table answer, p (.call .store (.describeTable table) answer)) (l : Live T) :
    (∃ w, stop l = .ok () ⟨l.session.released, w⟩ ∧ l.world.Since w fun es =>
      ∃ requests, es = requests ++ l.session.closing ∧ ∀ e ∈ requests, p e) ∨
    (l.session.client.isSome = true ∧ ∃ f w, stop l = .error f ⟨l.session, w⟩ ∧
      l.world.Adds p w) := by
  cases hc : l.session.client.isSome && l.session.config.programmableTables with
  | false => exact .inl ⟨_, stop_apply hc, _, rfl, [], rfl, List.forall_mem_nil _⟩
  | true =>
    rw [stop, get_bind_apply]
    simp only [hc, if_true]
    obtain ⟨hc, -⟩ := Bool.and_eq_true_iff.1 hc
    obtain ⟨c, hclient⟩ := Option.isSome_iff_exists.1 hc
    have hadds : Emits p (Table.Lifecycle.cleanUp
        ⟨c, l.session.config.pollInterval, l.session.config.maxWait⟩ l.session.tableName) :=
      .cleanUp (fun answer => hx _ answer) fun answer => hd _ answer
    rw [bind_of_ok (lifecycle_apply hclient)]
    obtain ⟨es, hes, hrequests⟩ := hadds.adds l.world
    cases hr : Table.Lifecycle.cleanUp _ l.session.tableName l.world with
    | error f w =>
      rw [final_of_error hr] at hes
      exact .inr ⟨hc, f, w, bind_of_error (lift_of_error hr) _, es, hes, hrequests⟩
    | ok deleted w =>
      rw [final_of_ok hr] at hes
      rw [bind_of_ok (lift_of_ok hr)]
      refine .inl ⟨_, bind_of_ok (release_closing ⟨l.session, w⟩) _, es ++ l.session.closing,
        ?_, es, rfl, hrequests⟩
      exact (congrArg (· ++ l.session.closing) hes).trans (List.append_assoc _ _ _)

end Session

end TableBench
