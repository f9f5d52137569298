import TableBench.Proofs.Session.Course
import TableBench.Proofs.Session.Redirection
import TableBench.Proofs.Session.Release

namespace TableBench

open Run

namespace Session

variable {T α : Type} [TimeScale T]

/- Data requests. -/

/-- The second session serves data requests as the first one does, but through the client. -/
def Mirrors (c : Client) (s s' : Session T) : Prop :=
  ∀ (request : DataCall) (w : World T), request.run ⟨s', w.behind c [] []⟩ =
    moved (Live.map (fun _ => s') (World.behind c [] [])) (request.run ⟨s, w⟩)

variable {c d : Client} {s s' : Session T} {w w' : World T}

theorem mirrors_of_clients (hc : s.client = some d) (hs : s.source = true)
    (hc' : s'.client = some c) (hs' : s'.source = true)
    (h : ∀ request : DataCall, (request.through c s' : Run T _) = request.through c s) :
    Mirrors c s s' := by
  intro request w
  have ht : request.through c s (w.behind c [] []) = _ :=
    (Tracks.through d s request).apply_eq w
  rw [run_apply (l := ⟨s, w⟩) hc hs, run_apply (l := ⟨s', w.behind c [] []⟩) hc' hs', h]
  cases hr : request.through d s w with
  | ok a w₁ =>
    rw [hr] at ht
    rw [lift_of_ok (l := ⟨s, w⟩) hr, lift_of_ok (l := ⟨s', w.behind c [] []⟩) ht]
    rfl
  | error e w₁ =>
    rw [hr] at ht
    rw [lift_of_error (l := ⟨s, w⟩) hr, lift_of_error (l := ⟨s', w.behind c [] []⟩) ht]
    rfl

theorem mirrors_of_no_client (hc : s.client = none) (hc' : s'.client = none) :
    Mirrors c s s' := by
  intro request w
  rw [run_of_no_client (l := ⟨s, w⟩) hc, run_of_no_client (l := ⟨s', w.behind c [] []⟩) hc']
  rfl

theorem observe_mirrored (h : Mirrors c s s') (hw : w'.unrecorded = w.unrecorded)
    (request : DataCall) (script : List (Outcome T)) :
    ∃ seen w₁, observe script request.run ⟨s, w⟩ = (seen, ⟨s, w₁⟩) ∧
      observe script request.run ⟨s', w'⟩ = (seen.via c, ⟨s', w₁.behind c [] []⟩) := by
  rw [observe_congr hw]
  have hr' := h request (w.awaiting script)
  rw [World.behind_of_unrecorded c rfl] at hr'
  have hkeeps : (final request.run ⟨s, w.awaiting script⟩).session = s :=
    (Keeps.dataCall request : Keeps (· = s) request.run).keeps ⟨s, _⟩ rfl
  cases hr : request.run ⟨s, w.awaiting script⟩ with
  | ok a l =>
    rw [final_of_ok hr] at hkeeps
    rw [hr] at hr'
    refine ⟨.ofWorld (.ok a) l.world, l.world, ?_, observe_of_ok (l := ⟨s', w⟩) hr'⟩
    rw [observe_of_ok hr, ← hkeeps]
  | error e l =>
    rw [final_of_error hr] at hkeeps
    rw [hr] at hr'
    refine ⟨.ofWorld (.error e) l.world, l.world, ?_, observe_of_error (l := ⟨s', w⟩) hr'⟩
    rw [observe_of_error hr, ← hkeeps]

theorem observeAll_mirrored (h : Mirrors c s s') (hw : w'.unrecorded = w.unrecorded)
    (requests : List (DataCall × List (Outcome T))) :
    ∃ seen w₁ w₁', observeAll requests ⟨s, w⟩ = (seen, ⟨s, w₁⟩) ∧
      observeAll requests ⟨s', w'⟩ = (seen.map (.via c), ⟨s', w₁'⟩) ∧
      w₁'.unrecorded = w₁.unrecorded := by
  induction requests generalizing w w' with
  | nil => exact ⟨[], w, w', rfl, rfl, hw⟩
  | cons step requests ih =>
    obtain ⟨request, script⟩ := step
    obtain ⟨seen, w₁, ho, ho'⟩ := observe_mirrored h hw request script
    have hsame : (w₁.behind c [] []).unrecorded = w₁.unrecorded := rfl
    obtain ⟨rest, w₂, w₂', hr, hr', hw₂⟩ := ih hsame
    refine ⟨seen :: rest, w₂, w₂', ?_, ?_, hw₂⟩
    · simp only [observeAll, ho, hr]
    · simp only [observeAll, ho', hr', List.map_cons]

/- Steps that are about the table. -/

/-- The run neither heeds the endpoint of the accelerator nor requests items. -/
def Aloof (x : SessionRun T α) : Prop :=
  ∀ c endpoint, Tracks (Live.map (fronted endpoint) (World.behind c [] [])) x x

omit [TimeScale T] in
theorem Aloof.world_final {x : SessionRun T α} (hx : Aloof x) (hw : w.events = []) (c : Client) :
    (final x ⟨s, w⟩).world.behind c [] [] = (final x ⟨s, w⟩).world := by
  have ht := (hx c s.config.acceleratorEndpoint).apply_eq ⟨s, w⟩
  -- with its own endpoint the session stays as it is
  rw [Live.map, World.behind_of_unrecorded c hw] at ht
  have hs : s.fronted s.config.acceleratorEndpoint = s := rfl
  rw [hs] at ht
  cases hr : x ⟨s, w⟩ with
  | ok a l =>
    rw [hr] at ht
    rw [final_of_ok hr]
    exact (congrArg Live.world (EStateM.Result.ok.inj ht).2).symm
  | error e l =>
    rw [hr] at ht
    rw [final_of_error hr]
    exact (congrArg Live.world (EStateM.Result.error.inj ht).2).symm

omit [TimeScale T] in
theorem Aloof.run_fronted {x : SessionRun T α} (hx : Aloof x) (hw : w.events = [])
    (endpoint : Option String) :
    x ⟨s.fronted endpoint, w⟩ = moved (Live.map (fronted endpoint) id) (x ⟨s, w⟩) := by
  have ht := (hx .direct endpoint).apply_eq ⟨s, w⟩
  have hworld := hx.world_final (s := s) hw .direct
  rw [Live.map, World.behind_of_unrecorded _ hw] at ht
  rw [ht]
  cases hr : x ⟨s, w⟩ with
  | ok a l =>
    rw [final_of_ok hr] at hworld
    rw [moved, moved, Live.map, Live.map, hworld, id]
  | error e l =>
    rw [final_of_error hr] at hworld
    rw [moved, moved, Live.map, Live.map, hworld, id]

omit [TimeScale T] in
theorem Aloof.observe_via {x : SessionRun T α} (hx : Aloof x) (script : List (Outcome T))
    (l : Live T) (c : Client) : (observe script x l).1.via c = (observe script x l).1 := by
  have hworld := hx.world_final (s := l.session) (w := l.world.awaiting script) rfl c
  cases hr : x ⟨l.session, l.world.awaiting script⟩ with
  | ok a l' =>
    rw [final_of_ok hr] at hworld
    rw [observe_of_ok hr, ← Seen.ofWorld_behind, hworld]
  | error e l' =>
    rw [final_of_error hr] at hworld
    rw [observe_of_error hr, ← Seen.ofWorld_behind, hworld]

omit [TimeScale T] in
theorem Aloof.observe_fronted {x : SessionRun T α} (hx : Aloof x) (script : List (Outcome T))
    (endpoint : Option String) :
    (observe script x ⟨s.fronted endpoint, w⟩).1 = (observe script x ⟨s, w⟩).1 := by
  have hrun := hx.run_fronted (s := s) (w := w.awaiting script) rfl endpoint
  cases hr : x ⟨s, w.awaiting script⟩ with
  | ok a l' =>
    rw [hr] at hrun
    rw [observe_of_ok (l := ⟨s, w⟩) hr, observe_of_ok (l := ⟨s.fronted endpoint, w⟩) hrun]
    rfl
  | error e l' =>
    rw [hr] at hrun
    rw [observe_of_error (l := ⟨s, w⟩) hr, observe_of_error (l := ⟨s.fronted endpoint, w⟩) hrun]
    rfl

theorem prepare_aloof (values : Nat → String) : Aloof (prepare values : SessionRun T Unit) :=
  fun _ _ => inferInstance

theorem stop_aloof : Aloof (stop : SessionRun T Unit) := fun _ _ => inferInstance

def startPlain (values : Nat → String) : SessionRun T Unit := do
  prepare values
  settle

theorem startPlain_aloof (values : Nat → String) :
    Aloof (startPlain values : SessionRun T Unit) := by
  intro c endpoint
  unfold startPlain
  infer_instance

theorem start_of_not_given {l : Live T} (values : Nat → String)
    (hg : given l.session.config.acceleratorEndpoint = false) :
    start values l = startPlain values l := by
  rw [start_eq, startPlain]
  cases hp : prepare values l with
  | error e l' => rw [bind_of_error hp, bind_of_error hp]
  | ok a l' =>
    obtain ⟨-, table, hs⟩ := prepare_of_ok hp
    have hg' : given l'.session.config.acceleratorEndpoint = false := by rwa [hs]
    rw [bind_of_ok hp, bind_of_ok hp, bind_of_ok (accelerate_of_not_given l' hg')]

/-- What a session does about its table before it lets go of the clients. -/
def tidy (s : Session T) : Run T Unit := do
  if s.config.programmableTables then
    let _ ← Table.Lifecycle.cleanUp ⟨.direct, s.config.pollInterval, s.config.maxWait⟩ s.tableName

theorem stop_cases (hc : s.client = some c) (hs : s.store = true) (w : World T) :
    stop ⟨s, w⟩ =
      match tidy s w with
      | .ok _ w => .ok () ⟨s.released, { w with events := w.events ++ s.closes }.logged
          [⟨.info, .session, "DynamoDB benchmark session shut down"⟩]⟩
      | .error e w => .error e ⟨s, w⟩ := by
  have hfinish (w : World T) := bind_of_ok (release_apply (l := ⟨s, w⟩) hs)
    fun _ => (log .info "DynamoDB benchmark session shut down" : SessionRun T Unit)
  rw [stop, get_bind_apply, tidy]
  cases hp : s.config.programmableTables with
  | false =>
    simp only [hc, Option.isSome_some, Bool.and_false, Bool.false_eq_true, if_false]
    exact hfinish w
  | true =>
    simp only [hc, Option.isSome_some, Bool.and_self, if_true]
    rw [bind_of_ok (lifecycle_apply (l := ⟨s, w⟩) hc),
      Table.Lifecycle.cleanUp_congr_client c .direct]
    generalize (Table.Lifecycle.cleanUp _ s.tableName : Run T Bool) = x
    cases hr : x w with
    | ok a w' =>
      rw [bind_of_ok (lift_of_ok (l := ⟨s, w⟩) hr), bind_of_ok hr]
      exact hfinish w'
    | error e w' => rw [bind_of_error (lift_of_error (l := ⟨s, w⟩) hr), bind_of_error hr]

def accelerating (endpoint : Option String) (s : Session T) : Session T :=
  { s.fronted endpoint with accelerator := true, client := some .accelerated }

theorem observe_stop_accelerating (hc : s.client = some .direct) (hs : s.store = true)
    (ha : s.accelerator = false) (endpoint : Option String) (script : List (Outcome T)) :
    (observe script stop ⟨s.accelerating endpoint, w⟩).1 =
      (observe script stop ⟨s, w⟩).1.closed := by
  have hplain := stop_cases hc hs (w.awaiting script)
  have hfronted := stop_cases (s := s.accelerating endpoint) (c := .accelerated) rfl hs
    (w.awaiting script)
  have htidy : tidy (s.accelerating endpoint) = tidy s := rfl
  have hcloses : (s.accelerating endpoint).closes = s.closes ++ [.close .accelerator] := by
    rw [closes, closes, ha]
    rfl
  rw [htidy, hcloses] at hfronted
  cases hr : tidy s (w.awaiting script) with
  | ok a w' =>
    rw [hr] at hplain hfronted
    rw [observe_of_ok (l := ⟨s, w⟩) hplain,
      observe_of_ok (l := ⟨s.accelerating endpoint, w⟩) hfronted, Seen.closed, Seen.followed,
      Seen.ofWorld, Seen.ofWorld]
    simp only [World.logged_events, List.append_assoc]
    rfl
  | error e w' =>
    rw [hr] at hplain hfronted
    rw [observe_of_error (l := ⟨s, w⟩) hplain,
      observe_of_error (l := ⟨s.accelerating endpoint, w⟩) hfronted]
    rfl

/-- What a session holds that was prepared, or not, and has no accelerator. -/
def Plain (s : Session T) : Prop := s.client = none ∨ s.client = some .direct ∧ s.source = true

omit [TimeScale T] in
theorem plain_opened (s : Session T) (table : Option Table.Descriptor) :
    Plain { s.opened with table } := .inr ⟨rfl, rfl⟩

theorem Plain.mirrors_fronted (h : s.Plain) (endpoint : Option String) :
    Mirrors .direct s (s.fronted endpoint) := by
  rcases h with hc | ⟨hc, hs⟩
  · exact mirrors_of_no_client hc hc
  · exact mirrors_of_clients hc hs hc hs fun request => by cases request <;> rfl

theorem mirrors_accelerating (hc : s.client = some .direct) (hs : s.source = true)
    (endpoint : Option String) : Mirrors .accelerated s (s.accelerating endpoint) :=
  mirrors_of_clients hc hs rfl hs fun request => by cases request <;> rfl

theorem Plain.observeAll_direct (h : s.Plain) (requests : List (DataCall × List (Outcome T))) :
    (observeAll requests ⟨s, w⟩).1.map (.via .direct) = (observeAll requests ⟨s, w⟩).1 := by
  -- a session mirrors itself
  obtain ⟨seen, w₁, w₁', hr, hr', -⟩ :=
    observeAll_mirrored (w := w) (h.mirrors_fronted s.config.acceleratorEndpoint) rfl requests
  have hs : s.fronted s.config.acceleratorEndpoint = s := rfl
  rw [hs, hr] at hr'
  rw [hr]
  exact (Prod.ext_iff.1 hr').1.symm

/-- What is seen of the requests and the stop after a start. -/
theorem record_of_start {course : Course T} {l : Live T} {seen : Seen T Unit}
    (h : observe course.first (start course.values) l = (seen, ⟨s, w⟩)) :
    course.record l = ⟨seen, (observeAll course.requests ⟨s, w⟩).1,
      (observe course.last stop (observeAll course.requests ⟨s, w⟩).2).1⟩ := by
  simp only [Course.record, h]

theorem direct_of_start {course : Course T} {l : Live T} {seen : Seen T Unit}
    (hg : given l.session.config.acceleratorEndpoint = false)
    (h : observe course.first (start course.values) l = (seen, ⟨s, w⟩)) (hs : s.Plain) :
    (course.record l).Direct := by
  rw [record_of_start h]
  refine ⟨fun c => ?_, fun seen hm => ?_, fun c => stop_aloof.observe_via _ _ c⟩
  · have hstart : observe course.first (start course.values) l =
        observe course.first (startPlain course.values) l :=
      observe_of_eq (start_of_not_given course.values hg)
    rw [hstart] at h
    have hvia := (startPlain_aloof course.values).observe_via course.first l c
    rwa [h] at hvia
  · have hall := hs.observeAll_direct (w := w) course.requests
    rw [← List.map_id (observeAll course.requests ⟨s, w⟩).1, List.map_map] at hall
    exact List.map_inj_left.1 hall seen hm

variable {course : Course T} {config : Config T} {endpoint : Option String}

variable (endpoint) in
/-- A start that fails without an accelerator fails in the same way with one. -/
theorem fronting_of_error {e : Failure} {l : Live T}
    (hplain : given config.acceleratorEndpoint = false)
    (hp : prepare course.values ⟨ofConfig config, w.awaiting course.first⟩ = .error e l) :
    (course.record ⟨ofConfig config, w⟩).Direct ∧
      course.record ⟨ofConfig (config.fronted endpoint), w⟩ =
        course.record ⟨ofConfig config, w⟩ ∧
      (course.record ⟨ofConfig config, w⟩).started.reply = .error e := by
  obtain ⟨s, w₁⟩ := l
  have hs : s.Plain := by
    obtain hs | ⟨table, hs⟩ := prepare_of_error hp
    · exact .inl (congrArg Session.client hs)
    · exact (show s = _ from hs) ▸ plain_opened _ table
  have hrun := (prepare_aloof course.values).run_fronted (s := ofConfig config)
    (w := w.awaiting course.first) rfl endpoint
  rw [hp] at hrun
  have hstart : start course.values ⟨ofConfig config, w.awaiting course.first⟩ =
      .error e ⟨s, w₁⟩ := by
    rw [start_eq, bind_of_error hp]
  have hstart' : start course.values ⟨(ofConfig config).fronted endpoint, w.awaiting course.first⟩ =
      .error e ⟨s.fronted endpoint, w₁⟩ := by
    rw [start_eq]
    exact bind_of_error hrun _
  have hseen := observe_of_error (l := ⟨ofConfig config, w⟩) hstart
  have hseen' := observe_of_error (l := ⟨ofConfig (config.fronted endpoint), w⟩) hstart'
  obtain ⟨replies, w₂, w₂', hr, hr', hw₂⟩ :=
    observeAll_mirrored (hs.mirrors_fronted endpoint) (rfl : w₁.unrecorded = _) course.requests
  have hdirect := hs.observeAll_direct (w := w₁) course.requests
  rw [hr] at hdirect
  refine ⟨direct_of_start hplain hseen hs, ?_, ?_⟩
  · rw [record_of_start hseen', record_of_start hseen, hr', hr, hdirect, observe_congr hw₂,
      stop_aloof.observe_fronted]
  · rw [record_of_start hseen, Seen.ofWorld]

/-- A start that succeeds without an accelerator succeeds with one that can be reached. -/
theorem fronting_of_ok {l : Live T} (hplain : given config.acceleratorEndpoint = false)
    (hfronted : given endpoint = true) (ha : w.environment.accelerator = true)
    (hp : prepare course.values ⟨ofConfig config, w.awaiting course.first⟩ = .ok () l) :
    (course.record ⟨ofConfig config, w⟩).Direct ∧
      course.record ⟨ofConfig (config.fronted endpoint), w⟩ =
        (course.record ⟨ofConfig config, w⟩).fronted
          (opening (config.fronted endpoint) w.environment) := by
  have hleads := (grows_prepare course.values).leads ⟨ofConfig config, w.awaiting course.first⟩
  rw [final_of_ok hp] at hleads
  have hrun := (prepare_aloof course.values).run_fronted (s := ofConfig config)
    (w := w.awaiting course.first) rfl endpoint
  rw [hp] at hrun
  obtain ⟨hcredentials, table, hs⟩ := prepare_of_ok hp
  obtain ⟨s, w₁⟩ := l
  replace hs : s = { (ofConfig config).opened with table } := hs
  have henvironment : w₁.environment = w.environment := hleads.environment
  obtain ⟨w₂, haccelerate, hw₂, he₂⟩ := accelerate_of_given ⟨s.fronted endpoint, w₁⟩ hfronted
    (by rw [henvironment, ha]) (by rw [hs]; exact hcredentials)
  have hopening : opening (s.fronted endpoint).config w₁.environment =
      opening (config.fronted endpoint) w.environment := by
    rw [hs, henvironment]
    rfl
  have hstart : start course.values ⟨ofConfig config, w.awaiting course.first⟩ =
      .ok () ⟨s.settled, w₁.logged [initialized]⟩ := by
    rw [start_of_not_given course.values hplain, startPlain, bind_of_ok hp]
    exact settle_apply _
  have hstart' : start course.values ⟨(ofConfig config).fronted endpoint, w.awaiting course.first⟩ =
      .ok () ⟨s.settled.accelerating endpoint, w₂.logged [initialized]⟩ := by
    rw [start_eq, bind_of_ok hrun]
    exact (bind_of_ok haccelerate _).trans (settle_apply _)
  have hseen := observe_of_ok (l := ⟨ofConfig config, w⟩) hstart
  have hseen' := observe_of_ok (l := ⟨ofConfig (config.fronted endpoint), w⟩) hstart'
  have hclient : s.settled.client = some .direct := by rw [hs]; rfl
  have hsource : s.settled.source = true := by rw [hs]; rfl
  have hstore : s.settled.store = true := by rw [hs]; rfl
  have hnone : s.settled.accelerator = false := by rw [hs]; rfl
  refine ⟨direct_of_start hplain hseen (.inr ⟨hclient, hsource⟩), ?_⟩
  have hsame : (w₂.logged [initialized]).unrecorded = (w₁.logged [initialized]).unrecorded := hw₂
  obtain ⟨replies, w₃, w₃', hr, hr', hw₃⟩ := observeAll_mirrored
    (mirrors_accelerating hclient hsource endpoint) hsame course.requests
  rw [record_of_start hseen', record_of_start hseen, hr', hr, observe_congr hw₃,
    observe_stop_accelerating hclient hstore hnone, Seen.ofWorld_followed hw₂ he₂, hopening]
  rfl

/-- An accelerator in front of the store is seen by nobody who makes requests: every step ends in
the same, leaves the same answers unused and takes the same time. All it changes, once the start
succeeded, is where requests about items go, apart from being opened and closed. -/
theorem fronting_redirects_items (hplain : given config.acceleratorEndpoint = false)
    (hfronted : given endpoint = true) (ha : w.environment.accelerator = true) :
    (course.record ⟨ofConfig config, w⟩).Direct ∧
      course.record ⟨ofConfig (config.fronted endpoint), w⟩ =
        (course.record ⟨ofConfig config, w⟩).fronted
          (opening (config.fronted endpoint) w.environment) := by
  cases hp : prepare course.values ⟨ofConfig config, w.awaiting course.first⟩ with
  | error e l =>
    obtain ⟨hdirect, hsame, hreply⟩ := fronting_of_error endpoint hplain hp
    refine ⟨hdirect, hsame.trans ?_⟩
    rw [Record.fronted, hreply]
  | ok a l => exact fronting_of_ok hplain hfronted ha hp

def oneRead : Course Float where
  values := fun _ => ""
  first := [⟨.ok (.object [("Table", .object [("TableName", .text "ndbench-table")])]), 0⟩]
  requests := [(.read "k1", [⟨.ok (.object []), 0⟩])]
  last := []

theorem fronting_redirects_items_oneRead :
    (oneRead.record ⟨ofConfig (Config.standard.fronted (some "dax")),
        { environment := { accelerator := true }, clock := 0,
          source := ⟨fun _ => "", 0⟩ }⟩).replies.map Seen.events =
      [[.call .accelerator (.getItem (.text "ndbench-table") (Item.address "id" "k1") (.bool false))
        (some (.ok (.object [])))]] := by
  have hplain : given (Config.standard : Config Float).acceleratorEndpoint = false := rfl
  rw [(fronting_redirects_items hplain (by decide) rfl).2]
  with_unfolding_all rfl

end Session

end TableBench
