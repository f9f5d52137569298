import TableBench.Proofs.Connection
import TableBench.Proofs.Session.Release
import TableBench.Proofs.Table.Life

namespace TableBench

open Run Service Table

namespace Session

variable {T μ : Type} {S : Service μ} {m : μ} {l : Live T}

theorem connect_ensures (h : l.session.config.Connects l.world.environment) :
    S.Ensures m l connect
      (fun _ l' m' => m' = m ∧ l'.world.asked = l.world.asked ∧
        l'.session = { l.session with store := true, client := some .direct })
      (fun _ _ _ => False) := by
  rw [connect]
  apply Ensures.get
  apply Ensures.bind
  apply Ensures.lift
  refine (openStore_ensures h).mono ?_ fun _ _ _ => False.elim
  intro _ w _ h
  obtain ⟨rfl, hasked⟩ := h
  exact .of_ok rfl rfl ⟨rfl, hasked, rfl⟩

def accelerated (s : Session T) : Session T :=
  if given s.config.acceleratorEndpoint then
    { s with accelerator := true, client := some .accelerated } else s

theorem accelerated_config (s : Session T) : s.accelerated.config = s.config := by
  rw [accelerated]
  split <;> rfl

theorem accelerate_ensures (h : l.session.config.Connects l.world.environment) :
    S.Ensures m l accelerate
      (fun _ l' m' => m' = m ∧ l'.world.asked = l.world.asked ∧ l'.session = l.session.accelerated)
      (fun _ _ _ => False) := by
  rw [accelerate]
  apply Ensures.get
  dsimp only
  cases hg : given l.session.config.acceleratorEndpoint with
  | true =>
    rw [if_pos rfl, accelerated, hg, if_pos rfl]
    apply Ensures.step (log_apply _ _ l) rfl
    apply Ensures.bind
    apply Ensures.lift
    refine (openAccelerator_ensures (w := l.world.logged _) h hg).mono ?_ fun _ _ _ => False.elim
    intro _ w _ h
    obtain ⟨rfl, hasked⟩ := h
    exact .of_ok rfl rfl ⟨rfl, hasked, rfl⟩
  | false =>
    rw [if_neg Bool.false_ne_true, accelerated, hg, if_neg Bool.false_ne_true]
    exact .pure ⟨rfl, rfl, rfl⟩

def started (s : Session T) : Session T :=
  let opened := { s with
    table := some (s.config.table.described .active)
    client := some .direct
    store := true
    source := true }
  { opened.accelerated with
    tableName := s.config.tableName
    attributeName := s.config.attributeName }

theorem started_client (s : Session T) : ∃ c, s.started.client = some c := by
  rw [started, accelerated]
  split <;> exact ⟨_, rfl⟩

theorem started_store (s : Session T) : s.started.store = true := by
  rw [started, accelerated]
  split <;> rfl

theorem started_config (s : Session T) : s.started.config = s.config :=
  accelerated_config _

/-- The requests of a session that creates its table: the table is looked at until it is ready,
and once more. -/
def setUp (config : Config T) (n : Nat) : List (Target × Request) :=
  (.store, .createTable config.table.request) ::
    List.replicate (n + 1) (.store, .describeTable (.text config.tableName)) ++
    [(.store, .describeTable (.text config.tableName))]

def tearDown (config : Config T) (m : Nat) : List (Target × Request) :=
  (.store, .deleteTable (.text config.tableName)) ::
    List.replicate (m + 1) (.store, .describeTable (.text config.tableName)) ++
    [(.store, .deleteTable (.text config.tableName))]

section

variable {l : Live Rat} {c : Client} {config : Config Rat} {n m : Nat}

theorem provision_ensures (hl : l.session.config = config) (hc : l.session.client = some c)
    (hpt : config.programmableTables = true) (hw : l.world.Quiet) (hp : 0 < config.pollInterval)
    (hn : InTime n config.pollInterval config.maxWait) :
    (Life.store config.tableName n m).Ensures .absent l provision
      (fun _ l' life => life = .active config.table ∧
        l'.world.asked = l.world.asked ++ setUp config n ∧
        l'.session = { l.session with table := some (config.table.described .active) })
      (fun _ _ _ => False) := by
  subst hl
  rw [provision]
  apply Ensures.get
  simp only [hpt, if_true]
  apply Ensures.step (log_apply _ _ l) rfl
  apply Ensures.step (lifecycle_apply (l := ⟨l.session, l.world.logged _⟩) hc) rfl
  apply Ensures.bind
  apply Ensures.lift
  refine (Lifecycle.ensure_absent _ (hw.logged _) hp hn).mono ?_ fun _ _ _ => False.elim
  intro status w life h
  obtain ⟨rfl, rfl, hasked⟩ := h
  apply Ensures.step (lifecycle_apply (l := ⟨l.session, w⟩) hc) rfl
  apply Ensures.bind
  apply Ensures.lift
  refine (Lifecycle.describe_active _).mono ?_ fun _ _ _ => False.elim
  intro t w' life h
  obtain ⟨rfl, rfl, hasked'⟩ := h
  have hall : w'.asked = l.world.asked ++ setUp l.session.config n := by
    rw [hasked', hasked, List.append_assoc]
    rfl
  exact .of_ok rfl rfl ⟨rfl, hall, rfl⟩

theorem start_ensures (hl : l.session.config = config)
    (hconnects : config.Connects l.world.environment) (hpt : config.programmableTables = true)
    (hw : l.world.Quiet) (hp : 0 < config.pollInterval)
    (hn : InTime n config.pollInterval config.maxWait)
    (values : Nat → String) :
    (Life.store config.tableName n m).Ensures .absent l (start values)
      (fun _ l' life => life = .active config.table ∧ l'.session = l.session.started ∧
        l'.world.asked = l.world.asked ++ setUp config n)
      (fun _ _ _ => False) := by
  rw [start]
  apply Ensures.step (log_apply _ _ l) rfl
  apply Ensures.step (supply_apply _ _) rfl
  generalize hl₁ : Live.mk _ _ = l₁
  obtain ⟨hs₁, hw₁, he₁, ha₁⟩ : l₁.session = { l.session with source := true } ∧ l₁.world.Quiet ∧
      l₁.world.environment = l.world.environment ∧ l₁.world.asked = l.world.asked := by
    subst hl₁
    exact ⟨rfl, ⟨hw.script, hw.interruption⟩, rfl, rfl⟩
  apply Ensures.bind
  refine (connect_ensures ?_).leads.mono ?_ fun _ _ _ h => h.2
  · rw [hs₁, he₁]
    exact hl ▸ hconnects
  intro _ l₂ life h
  obtain ⟨hleads, rfl, ha₂, hs₂⟩ := h
  have hw₂ : l₂.world.Quiet := hw₁.of_leads hleads
  have he₂ : l₂.world.environment = l.world.environment := hleads.environment.trans he₁
  apply Ensures.bind
  refine (provision_ensures (c := .direct) ?_ ?_ hpt hw₂ hp hn).leads.mono ?_
    fun _ _ _ h => h.2
  · rw [hs₂, hs₁]
    exact hl
  · rw [hs₂]
  -- from here on the table is active
  intro _ l₃ life h
  obtain ⟨hleads, rfl, ha₃, hs₃⟩ := h
  have he₃ : l₃.world.environment = l.world.environment := hleads.environment.trans he₂
  apply Ensures.bind
  refine (accelerate_ensures ?_).mono ?_ fun _ _ _ => False.elim
  · rw [hs₃, hs₂, hs₁, he₃]
    exact hl ▸ hconnects
  intro _ l₄ life h
  obtain ⟨rfl, ha₄, hs₄⟩ := h
  have hsession : { l₄.session with
      tableName := l₄.session.config.tableName
      attributeName := l₄.session.config.attributeName } = l.session.started := by
    rw [hs₄, accelerated_config, hs₃, hs₂, hs₁, ← hl]
    rfl
  have hasked : l₄.world.asked = l.world.asked ++ setUp config n := by
    rw [ha₄, ha₃, ha₂, ha₁]
  exact .of_ok rfl rfl ⟨rfl, hsession, hasked⟩

theorem request?_closes (s : Session T) : s.closes.filterMap Event.request? = [] := by
  rw [closes]
  split <;> rfl

theorem stop_ensures {d : Definition} (hc : l.session.client = some c)
    (hs : l.session.store = true) (hl : l.session.config = config)
    (hname : l.session.tableName = config.tableName) (hpt : config.programmableTables = true)
    (hw : l.world.Quiet) (hp : 0 < config.pollInterval)
    (hm : InTime m config.pollInterval config.maxWait) :
    (Life.store config.tableName n m).Ensures (.active d) l stop
      (fun _ l' life => life = .absent ∧ l'.session = l.session.released ∧
        l'.world.asked = l.world.asked ++ tearDown config m ∧
        ∃ es, l'.world.events = l.world.events ++ (es ++ l.session.closes))
      (fun _ _ _ => False) := by
  subst hl
  rw [stop]
  apply Ensures.get
  simp only [hc, hpt, hname, Option.isSome_some, Bool.and_self, if_true]
  apply Ensures.step (lifecycle_apply hc) rfl
  apply Ensures.bind
  apply Ensures.lift
  refine (Lifecycle.cleanUp_active _ hw hp hm).leads.mono ?_ fun _ _ _ h => h.2
  intro deleted w life h
  obtain ⟨hleads, -, rfl, hasked⟩ := h
  obtain ⟨es, hes⟩ := hleads.events
  refine (finish_ensures (l := ⟨l.session, w⟩) hs).mono ?_ fun _ _ _ => False.elim
  intro _ l' life h
  obtain ⟨rfl, hsession, hevents⟩ := h
  refine ⟨rfl, hsession, ?_, es, ?_⟩
  · rw [World.asked, hevents, List.filterMap_append, request?_closes, List.append_nil]
    exact hasked.trans (List.append_assoc _ _ _)
  · rw [hevents, ← List.append_assoc]
    exact congrArg (· ++ l.session.closes) hes.symm

/-- A started session whose table may be its own takes it from absent to active and, however it was
used in between, back to absent; with an accelerator, too, every request about the table goes to
the store. -/
theorem start_stop_life_cycle {l : Live Rat} {n m : Nat} (values : Nat → String)
    (hconnects : l.session.config.Connects l.world.environment)
    (hpt : l.session.config.programmableTables = true) (hw : l.world.Quiet)
    (hp : 0 < l.session.config.pollInterval)
    (hn : InTime n l.session.config.pollInterval l.session.config.maxWait)
    (hm : InTime m l.session.config.pollInterval l.session.config.maxWait)
    {es : List Event} {life : Life}
    (hes : (final (start values) l).world.events = l.world.events ++ es)
    (hlife : (Life.store l.session.config.tableName n m).Serves .absent es life) :
    life = .active l.session.config.table ∧
    (∃ w, start values l = .ok () ⟨l.session.started, w⟩ ∧
      w.asked = l.world.asked ++ setUp l.session.config n) ∧
    ∀ (w : World Rat) (es' : List Event) (life' : Life), w.Quiet →
      (final stop ⟨l.session.started, w⟩).world.events = w.events ++ es' →
      (Life.store l.session.config.tableName n m).Serves life es' life' →
      life' = .absent ∧
      ∃ w' requests, stop ⟨l.session.started, w⟩ = .ok () ⟨l.session.started.released, w'⟩ ∧
        w'.asked = w.asked ++ tearDown l.session.config m ∧
        es' = requests ++ l.session.started.closes := by
  obtain ⟨_, ⟨s', w⟩, hx, rfl, rfl, hasked⟩ :=
    (start_ensures rfl hconnects hpt hw hp hn values).succeeds hes hlife
  refine ⟨rfl, ⟨w, hx, hasked⟩, ?_⟩
  intro w es' life' hw hes hlife
  obtain ⟨c, hc⟩ := l.session.started_client
  obtain ⟨_, ⟨s', w'⟩, hx, rfl, rfl, hasked, requests, he⟩ :=
    (stop_ensures (l := ⟨l.session.started, w⟩) hc
      l.session.started_store l.session.started_config rfl hpt hw hp hm).succeeds hes hlife
  rw [final_of_ok hx] at hes
  exact ⟨rfl, w', requests, hx, hasked, List.append_cancel_left (hes.symm.trans he)⟩

def prompt (script : List Answer) : World Rat where
  environment := { accelerator := true }
  clock := 0
  source := { value := fun _ => "" }
  script := script.map fun answer => ⟨answer, 0⟩

def accepted : Answer := .ok (.object [("TableDescription", .null)])

def description (d : Definition) (status : String) : Answer :=
  .ok (.object [("Table", .object (d.request ++ [("TableStatus", .text status)]))])

def rejection (code : String) : Answer := .error <| .rejected {
  operation := "DescribeTable"
  code := some (.text code)
  said := none
  status := .int 400
  requestId := .null
  retries := none }

def privileged : Config Rat :=
  { Config.standard with programmableTables := true, acceleratorEndpoint := some "dax" }

def hesitant : Live Rat where
  session := ofConfig privileged
  world := prompt [accepted, rejection notFoundCode,
    description privileged.table "ACTIVE", description privileged.table "ACTIVE"]

/-- The answers of a store that still shows a table when it was deleted. -/
def lingering : List Answer := [accepted, description privileged.table "DELETING",
  rejection notFoundCode, rejection notFoundCode]

theorem start_stop_life_cycle_hesitant :
    ∃ w w', start (fun _ => "") hesitant = .ok () ⟨hesitant.session.started, w⟩ ∧
      w.asked = setUp hesitant.session.config 1 ∧
      stop ⟨hesitant.session.started, prompt lingering⟩ =
        .ok () ⟨hesitant.session.started.released, w'⟩ ∧
      w'.asked = tearDown hesitant.session.config 1 := by
  have hquiet (script : List Answer) : (prompt script).Quiet := by
    refine ⟨?_, rfl⟩
    intro o ho
    obtain ⟨answer, _, rfl⟩ := List.mem_map.1 ho
    rfl
  have hlooks : InTime 1 hesitant.session.config.pollInterval hesitant.session.config.maxWait :=
    .inr (by decide +kernel)
  obtain ⟨f, hf, hmissing⟩ : ∃ f, rejection notFoundCode = .error f ∧ f.Rejects notFoundCode :=
    ⟨_, rfl, _, rfl, rfl, .inr ⟨_, rfl⟩⟩
  cases hf
  have hshows (status : String) : Describes privileged.table (some (.text status))
      (privileged.table.request ++ [("TableStatus", .text status)]) :=
    ⟨rfl, rfl, rfl, ⟨_, rfl, rfl, rfl⟩, rfl⟩
  obtain ⟨settings, hes⟩ : ∃ settings, (final (start fun _ => "") hesitant).world.events = [
      .resolve none none,
      .openStore none settings,
      .call .store (.createTable privileged.table.request) (some accepted),
      .call .store (.describeTable (.text "ndbench-table")) (some (rejection notFoundCode)),
      .call .store (.describeTable (.text "ndbench-table"))
        (some (description privileged.table "ACTIVE")),
      .call .store (.describeTable (.text "ndbench-table"))
        (some (description privileged.table "ACTIVE")),
      .resolve none none,
      .openAccelerator none (some "dax")] := ⟨_, by with_unfolding_all rfl⟩
  obtain ⟨-, ⟨w, hstart, hasked⟩, hstop⟩ := start_stop_life_cycle (l := hesitant) (n := 1) (m := 1)
    (fun _ => "") ⟨nofun, .inl rfl, ⟨_, rfl⟩, fun _ => rfl⟩ rfl (hquiet _) (by decide +kernel)
    hlooks hlooks hes <|
      .aside rfl <| .aside rfl <| .call (.created (d := privileged.table) rfl rfl rfl) <|
      .call (.unseen hmissing) <| .call (.shown rfl (hshows _)) <|
      .call (.shown rfl (hshows _)) <| .aside rfl <| .aside rfl <| .nil _
  have hes' : (final stop ⟨hesitant.session.started, prompt lingering⟩).world.events = [
      .call .store (.deleteTable (.text "ndbench-table")) (some accepted),
      .call .store (.describeTable (.text "ndbench-table"))
        (some (description privileged.table "DELETING")),
      .call .store (.describeTable (.text "ndbench-table")) (some (rejection notFoundCode)),
      .call .store (.deleteTable (.text "ndbench-table")) (some (rejection notFoundCode)),
      .close .store,
      .close .accelerator] := by with_unfolding_all rfl
  obtain ⟨-, w', _, hstop, hasked', _⟩ := hstop (prompt lingering) _ .absent (hquiet _) hes' <|
    .call (.deleted rfl) <| .call (.going rfl (hshows _)) <| .call (.gone hmissing) <|
    .call (.missing hmissing) <| .aside rfl <| .aside rfl <| .nil _
  exact ⟨w, w', hstart, hasked, hstop, hasked'⟩

end

end Session

end TableBench
