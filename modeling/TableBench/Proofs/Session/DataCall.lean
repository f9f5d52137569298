import TableBench.Proofs.Run.Growth

namespace TableBench

namespace Session

inductive DataCall where
  | read (key : String)
  | write (key : String)
  | readAll (keys : List String)
  | writeAll (keys : List String)

inductive DataReply where
  | item (text : Option String)
  | written (text : String)
  | items (texts : List String)
  | allWritten (texts : List String)

variable {T : Type} [TimeScale T]

def DataCall.run : DataCall → SessionRun T DataReply
  | read key => return .item (← Session.read key)
  | write key => return .written (← Session.write key)
  | readAll keys => return .items (← Session.readAll keys)
  | writeAll keys => return .allWritten (← Session.writeAll keys)

/-- Data requests one after the other; a failure does not keep the next from being made. -/
def runAll : List DataCall → SessionRun T (List (Except Failure DataReply))
  | [] => return []
  | call :: calls => do
    let reply ← Run.attempt call.run
    return reply :: (← runAll calls)

end Session

namespace Run.Obeys

variable {T : Type} [TimeScale T] {R : World T → World T → Prop} [World.Heedless R]

instance dataCall (call : Session.DataCall) : Obeys R (call.run : SessionRun T _) := by
  cases call <;> unfold Session.DataCall.run <;> infer_instance

instance runAll (calls : List Session.DataCall) :
    Obeys R (Session.runAll calls : SessionRun T _) := by
  induction calls with
  | nil => exact Obeys.pure _
  | cons call calls ih =>
    unfold Session.runAll
    infer_instance

end Run.Obeys

namespace Session

variable {T : Type} {l : Live T} {c : Client}

theorem requireClient_apply (hc : l.session.client = some c) : requireClient l = .ok c l := by
  rw [requireClient, Run.get_bind_apply, hc]
  rfl

theorem requireClient_of_none (hc : l.session.client = none) :
    requireClient l = .error (.reported notInitialized false) l := by
  rw [requireClient, Run.get_bind_apply, hc]
  rfl

theorem requireSource_apply (hs : l.session.source = true) : requireSource l = .ok () l := by
  rw [requireSource, Run.get_bind_apply, hs]
  rfl

theorem requireSource_of_none (hs : l.session.source = false) :
    requireSource l = .error (.reported notInitialized false) l := by
  rw [requireSource, Run.get_bind_apply, hs]
  rfl

theorem supply_apply (values : Nat → String) (l : Live T) :
    supply values l = .ok () { l with session.source := true, world.source := ⟨values, 0⟩ } := rfl

theorem log_apply (level : Level) (message : String) (l : Live T) :
    log level message l = .ok () { l with
      world := l.world.logged [⟨level, .session, message⟩] } := rfl

variable [TimeScale T]

theorem run_of_no_client (hc : l.session.client = none) (request : DataCall) :
    request.run l = .error (.reported notInitialized false) l := by
  cases request <;> exact Run.bind_of_error (Run.bind_of_error (requireClient_of_none hc) _) _

theorem read_apply (hc : l.session.client = some c) (key : String) :
    read key l = SessionRun.lift (Item.read c l.session.tableName l.session.attributeName key
      (.bool l.session.config.consistentRead)) l :=
  Run.bind_of_ok (requireClient_apply hc) _

theorem write_apply (hc : l.session.client = some c) (hs : l.session.source = true)
    (key : String) :
    write key l =
      SessionRun.lift (Item.write c l.session.tableName l.session.attributeName key) l :=
  (Run.bind_of_ok (requireClient_apply hc) _).trans (Run.bind_of_ok (requireSource_apply hs) _)

theorem readAll_apply (hc : l.session.client = some c) (keys : List String) :
    readAll keys l = SessionRun.lift (Batch.read c l.session.tableName l.session.attributeName keys
      (.bool l.session.config.consistentRead) l.session.config.maxRounds) l :=
  Run.bind_of_ok (requireClient_apply hc) _

theorem writeAll_apply (hc : l.session.client = some c) (hs : l.session.source = true)
    (keys : List String) :
    writeAll keys l = SessionRun.lift (Batch.write c l.session.tableName l.session.attributeName
      keys l.session.config.maxRounds) l :=
  (Run.bind_of_ok (requireClient_apply hc) _).trans (Run.bind_of_ok (requireSource_apply hs) _)

theorem write_of_no_source (hc : l.session.client = some c) (hs : l.session.source = false)
    (key : String) : write key l = .error (.reported notInitialized false) l :=
  (Run.bind_of_ok (requireClient_apply hc) _).trans
    (Run.bind_of_error (requireSource_of_none hs) _)

theorem writeAll_of_no_source (hc : l.session.client = some c) (hs : l.session.source = false)
    (keys : List String) : writeAll keys l = .error (.reported notInitialized false) l :=
  (Run.bind_of_ok (requireClient_apply hc) _).trans
    (Run.bind_of_error (requireSource_of_none hs) _)

/-- A data request as a client serves it under the names and settings of a session. -/
def DataCall.through (c : Client) (s : Session T) : DataCall → Run T DataReply
  | read key => do
    let text ← Item.read c s.tableName s.attributeName key (.bool s.config.consistentRead)
    return .item text
  | write key => do
    let text ← Item.write c s.tableName s.attributeName key
    return .written text
  | readAll keys => do
    let texts ← Batch.read c s.tableName s.attributeName keys (.bool s.config.consistentRead)
      s.config.maxRounds
    return .items texts
  | writeAll keys => do
    let texts ← Batch.write c s.tableName s.attributeName keys s.config.maxRounds
    return .allWritten texts

omit [TimeScale T] in
theorem bind_pure_of_lift {α β : Type} {x : SessionRun T α} {y : Run T α}
    (h : x l = SessionRun.lift y l) (g : α → β) :
    (x >>= fun a => pure (g a)) l = SessionRun.lift (y >>= fun a => pure (g a)) l := by
  cases hr : y l.world with
  | ok a w =>
    have hx := Run.bind_of_ok (h.trans (Run.lift_of_ok hr)) fun a => pure (g a)
    have hy : (y >>= fun a => pure (g a)) l.world = .ok (g a) w := Run.bind_of_ok hr _
    exact hx.trans (Run.lift_of_ok hy).symm
  | error e w =>
    have hx := Run.bind_of_error (h.trans (Run.lift_of_error hr)) fun a => pure (g a)
    exact hx.trans (Run.lift_of_error (Run.bind_of_error hr _)).symm

theorem run_apply (hc : l.session.client = some c) (hs : l.session.source = true)
    (request : DataCall) :
    request.run l = SessionRun.lift (request.through c l.session) l := by
  cases request with
  | read key => exact bind_pure_of_lift (read_apply hc key) _
  | write key => exact bind_pure_of_lift (write_apply hc hs key) _
  | readAll keys => exact bind_pure_of_lift (readAll_apply hc keys) _
  | writeAll keys => exact bind_pure_of_lift (writeAll_apply hc hs keys) _

/-- A data request is served by the client of the session, or stops before it is sent. -/
theorem run_cases (request : DataCall) (l : Live T) :
    (∃ e, request.run l = .error e l) ∨ ∃ c, l.session.client = some c ∧
      request.run l = SessionRun.lift (request.through c l.session) l := by
  cases hc : l.session.client with
  | none => exact .inl ⟨_, run_of_no_client hc request⟩
  | some c =>
    cases hs : l.session.source with
    | true => exact .inr ⟨c, rfl, run_apply hc hs request⟩
    | false =>
      cases request with
      | read key => exact .inr ⟨c, rfl, bind_pure_of_lift (read_apply hc key) _⟩
      | readAll keys => exact .inr ⟨c, rfl, bind_pure_of_lift (readAll_apply hc keys) _⟩
      | write key => exact .inl ⟨_, Run.bind_of_error (write_of_no_source hc hs key) _⟩
      | writeAll keys => exact .inl ⟨_, Run.bind_of_error (writeAll_of_no_source hc hs keys) _⟩

end Session

end TableBench
