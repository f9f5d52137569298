import TableBench.Proofs.KeyValue.Keys
import TableBench.Proofs.Session.History

namespace TableBench

open Run

namespace Session

/-- The requests that a configuration allows in a use of its session. -/
inductive Use.Makes {T : Type} (config : Config T) : Use → Request → Prop
  | start {values : Nat → String} {request : Request} (h : request.aboutItems = false) :
    Makes config (.start values) request
  | read (key : String) :
    Makes config (.call (.read key)) (.getItem (.text config.tableName)
      (Item.address config.attributeName key) (.bool config.consistentRead))
  | write (key payload : String) :
    Makes config (.call (.write key)) (.putItem (.text config.tableName)
      (Item.make config.attributeName key payload))
  | readAll (keys : List String) {request : Fields}
    (h : request.lookup "ConsistentRead" = some (.bool config.consistentRead)) :
    Makes config (.call (.readAll keys))
      (.batchGetItem (.object [(config.tableName, .object request)]))
  | writeAll (keys : List String) (entries : Document) :
    Makes config (.call (.writeAll keys))
      (.batchWriteItem (.object [(config.tableName, entries)]))
  | stop {request : Request} (h : request.aboutItems = false) : Makes config .stop request

variable {T : Type} {config : Config T} {use : Use}

def Use.Shows (config : Config T) (use : Use) : Event → Prop
  | .call _ request _ => use.Makes config request
  | _ => True

theorem Use.shows_of_itemCalls_eq_nil {es : List Event} (h : itemCalls es = [])
    (hx : ∀ request : Request, request.aboutItems = false → use.Makes config request) :
    ∀ e ∈ es, use.Shows config e := by
  intro e he
  cases e with
  | call target request answer =>
    have hfilter := List.filter_eq_nil_iff.1 h _ he
    exact hx request (Bool.eq_false_iff.2 hfilter)
  | _ => trivial

/-- The session goes by the names of its configuration. -/
structure Follows (config : Config T) (s : Session T) : Prop where
  settings : s.config = config
  tableName : s.tableName = config.tableName
  attributeName : s.attributeName = config.attributeName

theorem Follows.ofConfig (config : Config T) : Follows config (ofConfig config) := ⟨rfl, rfl, rfl⟩

theorem Follows.settled {s : Session T} (h : Follows config s) : Follows config s.settled where
  settings := h.settings
  tableName := congrArg Config.tableName h.settings
  attributeName := congrArg Config.attributeName h.settings

variable [TimeScale T]

theorem Follows.through {s : Session T} (h : Follows config s) (c : Client) (request : DataCall) :
    Emits ((Use.call request).Shows config) (request.through c s) := by
  obtain ⟨hconfig, htable, hattribute⟩ := h
  cases request with
  | read key =>
    rw [DataCall.through, hconfig, htable, hattribute]
    exact .seq (.itemRead fun _ => .read key) inferInstance
  | write key =>
    rw [DataCall.through, htable, hattribute]
    exact .seq (.itemWrite fun payload _ => .write key payload) inferInstance
  | readAll keys =>
    rw [DataCall.through, hconfig, htable, hattribute]
    -- the flag is set anew in every request, whatever the store left in its place
    have hset (left : Fields) :
        (left.set "ConsistentRead" (.bool config.consistentRead)).lookup "ConsistentRead" =
          some (.bool config.consistentRead) := by
      rw [Fields.lookup_set, if_pos rfl]
    exact .seq (.batchRead fun left _ => .readAll keys (hset left)) inferInstance
  | writeAll keys =>
    rw [DataCall.through, hconfig, htable, hattribute]
    exact .seq (.batchWrite fun left _ => .writeAll keys left) inferInstance

instance Follows.keeps (use : Use) : Keeps (Follows config) (use.run : SessionRun T Unit) := by
  cases use with
  | start values =>
    exact .start_of values (fun _ _ _ _ _ _ h => ⟨h.settings, h.tableName, h.attributeName⟩)
      fun _ h => h.settled
  | call request =>
    rw [Use.run]
    infer_instance
  | stop => exact .stop_of fun _ h => ⟨h.settings, h.tableName, h.attributeName⟩

/-- One use of a session makes no requests but those that its configuration allows. -/
theorem Follows.shows {l : Live T} (h : Follows config l.session) (use : Use) :
    l.world.Adds (use.Shows config) (final use.run l).world := by
  cases use with
  | start values =>
    obtain ⟨es, hes, hnone⟩ := (start_since values l).1
    exact ⟨es, hes, Use.shows_of_itemCalls_eq_nil hnone fun _ => .start⟩
  | call request =>
    rw [Use.run, final_bind_of_still request.run fun _ _ => rfl]
    obtain ⟨e, he⟩ | ⟨c, -, hrun⟩ := run_cases request l
    · rw [final_of_error he]
      exact .refl l.world
    · rw [final, hrun, ← final, final_lift]
      exact (h.through c request).adds l.world
  | stop =>
    obtain ⟨es, hes, hnone⟩ := stop_itemCalls l
    exact ⟨es, hes, Use.shows_of_itemCalls_eq_nil hnone fun _ => .stop⟩

theorem Follows.observe {l : Live T} (h : Follows config l.session) (use : Use)
    (script : List (Outcome T)) :
    Follows config (observe script use.run l).2.session ∧
      ∀ e ∈ (observe script use.run l).1.events, use.Shows config e := by
  constructor
  · rw [(observe_eq_final script _ l).1]
    exact (Follows.keeps use).keeps ⟨l.session, l.world.awaiting script⟩ h
  · exact since_observe (Follows.shows (l := ⟨l.session, l.world.awaiting script⟩) h use)

theorem Follows.useAll {l : Live T} (h : Follows config l.session)
    (uses : List (Use × List (Outcome T))) :
    ∀ u ∈ (useAll uses l).1, ∀ e ∈ u.seen.events, u.use.Shows config e := by
  induction uses generalizing l with
  | nil => exact List.forall_mem_nil _
  | cons step uses ih =>
    obtain ⟨use, script⟩ := step
    obtain ⟨hnext, hshows⟩ := h.observe use script
    intro u hu
    rcases List.mem_cons.1 hu with rfl | hu
    · exact hshows
    · exact ih hnext u hu

/-- Whatever a session is used for and whatever the store answers, reads ask the configured table
for the key under the configured attribute with the configured consistency. In a batch this goes
for the first request and for all that is asked again, and writes go to the configured table. -/
theorem requests_follow_configuration (config : Config T) (w : World T)
    (uses : List (Use × List (Outcome T))) :
    ∀ u ∈ (Session.useAll uses ⟨ofConfig config, w⟩).1, ∀ target request answer,
      .call target request answer ∈ u.seen.events → u.use.Makes config request := by
  intro u hu target request answer he
  exact (Follows.ofConfig config).useAll uses u hu _ he

def insistent : Live Float where
  session := ofConfig { Config.standard with consistentRead := true }
  world := { clock := 0, source := { value := fun _ => "" } }

/-- A start and a batch read. The store leaves a key over, in a request that wants no consistent
read. -/
def insistentUses : List (Use × List (Outcome Float)) :=
  [(.start fun _ => "",
    [⟨.ok (.object [("Table", .object [("TableName", .text "ndbench-table")])]), 0⟩]),
   (.call (.readAll ["a", "b"]),
    [⟨.ok (.object [("UnprocessedKeys", .object [("ndbench-table", .object
      [("ConsistentRead", .bool false), ("Keys", .list [Item.address "id" "a"])])])]), 0⟩,
     ⟨.ok (.object []), 0⟩])]

def insistentAgain : Request :=
  .batchGetItem (.object [("ndbench-table", .object
    [("ConsistentRead", .bool true), ("Keys", .list [Item.address "id" "a"])])])

theorem requests_follow_configuration_again :
    ∃ u ∈ (useAll insistentUses insistent).1, ∃ answer,
      .call .store insistentAgain answer ∈ u.seen.events ∧
        u.use.Makes insistent.session.config insistentAgain := by
  obtain ⟨started, read, first, answer, huses, hevents⟩ : ∃ started read first answer,
      (useAll insistentUses insistent).1 = [started, read] ∧
        read.seen.events = [first, .call .store insistentAgain answer] :=
    ⟨_, _, _, _, by with_unfolding_all rfl, by with_unfolding_all rfl⟩
  have hread : read ∈ (useAll insistentUses insistent).1 := by
    rw [huses]
    exact List.mem_cons_of_mem _ List.mem_cons_self
  have hagain : .call .store insistentAgain answer ∈ read.seen.events := by
    rw [hevents]
    exact List.mem_cons_of_mem _ List.mem_cons_self
  exact ⟨read, hread, answer, hagain,
    requests_follow_configuration _ insistent.world insistentUses read hread _ _ _ hagain⟩

end Session

end TableBench
