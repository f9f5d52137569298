import TableBench.Proofs.CommandLine.Reporting
import TableBench.Proofs.Table.Change
import TableBench.Proofs.Table.Name

namespace TableBench

open Run

/-- The event is a request about the table of the name, or no request. -/
def Event.Names (tableName : String) : Event → Prop
  | call _ request _ => request.arguments.lookup "TableName" = some (.text tableName)
  | _ => True

namespace CommandLine

namespace Command

variable {tableName : String} {config : Config Float} {i : Invocation} {w : World Float}

theorem openStore_names : Emits (Event.Names tableName) (openStore config) where
  adds w := by
    have haside {w' : World Float} (h : w.Aside w') : w.Adds (Event.Names tableName) w' := by
      obtain ⟨es, hes, hall⟩ := h
      refine ⟨es, hes, fun e he => ?_⟩
      have hcall := hall e he
      cases e with
      | call => cases hcall
      | _ => trivial
    obtain ⟨f, w', -, ho, ha⟩ | ⟨-, w', ho, ha⟩ := openStore_cases config w
    · rw [final_of_error ho]
      exact haside ha
    · rw [final_of_ok ho]
      exact haside ha

theorem withLifecycle_names {α : Type} {body : Table.Lifecycle Float → Run Float α}
    (h : ∀ l, Emits (Event.Names tableName) (body l)) :
    Emits (Event.Names tableName) (withLifecycle config body) := by
  have hclose : Emits (Event.Names tableName) (Client.direct.close : Run Float Unit) :=
    ⟨fun w => .one (show Event.Names tableName (.close .store) from trivial) rfl⟩
  unfold withLifecycle
  exact .seq openStore_names fun _ => inferInstance

/-- Past the check of its name, a table is looked for, created and described under that name. -/
theorem runCreateTable_names : Emits (Event.Names i.config.tableName) (runCreateTable i) := by
  have hcheck : Emits (Event.Names i.config.tableName) (checkTableName i.config.tableName) := by
    unfold checkTableName
    split <;> infer_instance
  have hbody (l : Table.Lifecycle Float) : Emits (Event.Names i.config.tableName) (do
      let created ← l.create i.config.table
      let _ ← l.await .active i.config.tableName
      return (created, ← l.describe i.config.tableName)) := by
    have hcreate : Emits (Event.Names i.config.tableName) (l.create i.config.table) :=
      .create fun _ => rfl
    have hawait : Emits (Event.Names i.config.tableName) (l.await .active i.config.tableName) :=
      .await (fun _ => rfl) _
    have hdescribe : Emits (Event.Names i.config.tableName) (l.describe i.config.tableName) :=
      .describe fun _ => rfl
    infer_instance
  unfold runCreateTable
  exact .seq hcheck fun _ => .seq inferInstance fun _ => .seq inferInstance fun _ =>
    .seq (withLifecycle_names hbody) inferInstance

/-- The request was sent to the store, whatever came before or after it. -/
def Asked (request : Request) (es : List Event) : Prop :=
  ∃ answer, .call .store request answer ∈ es

theorem Asked.append {request : Request} {es : List Event} (h : Asked request es)
    (before after : List Event) : Asked request (before ++ (es ++ after)) := by
  obtain ⟨answer, hmem⟩ := h
  exact ⟨answer, List.mem_append_right _ (List.mem_append_left _ hmem)⟩

theorem withLifecycle_asks {α : Type} {body : Table.Lifecycle Float → Run Float α}
    {request : Request} (hs : config.storeFailure? w.environment = none)
    (hbody : ∀ l w, World.Since w (final (body l) w) (Asked request)) :
    w.Since (final (withLifecycle config body) w) (Asked request) := by
  obtain ⟨f, w', hf, -, -⟩ | ⟨-, w', ho, before, hbefore, -⟩ := openStore_cases config w
  · rw [hs] at hf
    cases hf
  · rw [withLifecycle, final_bind_of_ok ho, final_ensuring]
    obtain ⟨es, hes, hasked⟩ := hbody ⟨.direct, config.pollInterval, config.maxWait⟩ w'
    refine ⟨before ++ (es ++ [.close .store]), ?_, hasked.append _ _⟩
    have hclose (w : World Float) :
        (final Client.direct.close w).events = w.events ++ [.close .store] := rfl
    rw [hclose, hes, hbefore, List.append_assoc, List.append_assoc]

theorem runCreateTable_asks (hn : Table.nameProblem? i.config.tableName = none)
    (hs : i.config.storeFailure? w.environment = none) :
    w.Since (final (runCreateTable i) w) (Asked (.createTable i.config.table.request)) := by
  have hcheck (w : World Float) : checkTableName i.config.tableName w = .ok () w := by
    rw [checkTableName, hn]
    rfl
  have hbody (l : Table.Lifecycle Float) (w : World Float) : w.Since
      (final (do
        let created ← l.create i.config.table
        let _ ← l.await .active i.config.tableName
        return (created, ← l.describe i.config.tableName)) w)
      (Asked (.createTable i.config.table.request)) := by
    refine (l.create_since w i.config.table).trans (Q := fun _ => True)
      ((Grows.leads_bind (fun created => ?_) _ w).since fun _ => trivial) ?_
    · infer_instance
    · rintro _ after ⟨answer, rfl⟩ -
      exact ⟨answer, List.mem_cons_self⟩
  rw [runCreateTable]
  dsimp only
  rw [final_bind_of_ok (hcheck w), final_bind_of_ok (log_apply _ _ _ w),
    final_bind_of_ok (log_apply _ _ _ _), final_bind_of_still _ fun _ _ => rfl]
  exact withLifecycle_asks (w := World.logged _ _) hs hbody

theorem checkTableName_of_nameOver {s : String}
    (h : Table.NameOver Text.isAlphanumeric s) (w : World Float) :
    checkTableName s w = .ok () w := by
  rw [checkTableName, (Table.nameProblem?_eq_none_iff s).2 h]
  rfl

theorem checkTableName_of_not_nameOver {s : String}
    (h : ¬ Table.NameOver Text.isAlphanumeric s) (w : World Float) :
    ∃ text, checkTableName s w = .error (.reported (.invalidArgument text) false) w := by
  obtain ⟨p, hp⟩ := Table.nameProblem?_ne_none h
  rw [checkTableName, hp]
  exact ⟨_, rfl⟩

end Command

variable {w : World Float} {payloads : Payloads} {time : String} {words : List String}
  {i : Invocation} {es : List Event}

/-- The check of a table name takes the letters and digits of any alphabet, so that the names of the
service are those in ASCII among the ones it takes. A creation under a name that it does not take
ends in an error of the caller before anything else is done. Under a name that it takes the creation
is asked for as soon as there is a connection, in ASCII or not, and no request goes out under
another name. -/
theorem run_creates_tables_in_any_alphabet (ha : Accepts w.environment words .createTable i)
    (hes : (run w payloads time words).world.events = w.events ++ es) :
    let r := run w payloads time words
    let name := i.config.tableName
    (∀ (s : String) (w : World Float),
      (Table.NameOver Text.isAlphanumeric s → Command.checkTableName s w = .ok () w) ∧
      (¬ Table.NameOver Text.isAlphanumeric s →
        ∃ text, Command.checkTableName s w = .error (.reported (.invalidArgument text) false) w) ∧
      (Table.IsName s ↔
        Table.NameOver Text.isAlphanumeric s ∧ ∀ c ∈ s.toList, c.toNat < 128)) ∧
    (¬ Table.NameOver Text.isAlphanumeric name → es = [] ∧ r.failure = none ∧
      ∃ text, r.Reports i time (some (.invalidArgument text))) ∧
    (Table.NameOver Text.isAlphanumeric name → (∀ e ∈ es, e.Names name) ∧
      (i.config.storeFailure? w.environment = none →
        ∃ answer, .call .store (.createTable i.config.table.request) answer ∈ es)) := by
  intro r name
  rw [world_run ha] at hes
  refine ⟨fun s w => ⟨fun h => Command.checkTableName_of_nameOver h w,
    fun h => Command.checkTableName_of_not_nameOver h w, Table.isName_iff s⟩, ?_, ?_⟩
  · intro h
    obtain ⟨text, hcheck⟩ := Command.checkTableName_of_not_nameOver h w
    have hb : Command.createTable.body i payloads w =
        .error (.reported (.invalidArgument text) false) w := bind_of_error hcheck _
    rw [final_of_error hb] at hes
    obtain ⟨hfailure, hreports⟩ := reports_of_reported time ha hb
    exact ⟨List.self_eq_append_right.1 hes, hfailure, text, hreports⟩
  · intro h
    obtain ⟨es', hes', hnames⟩ := Command.runCreateTable_names.adds w
    obtain rfl : es' = es := List.append_cancel_left (hes'.symm.trans hes)
    refine ⟨hnames, fun hs => ?_⟩
    obtain ⟨es', hes'', hasks⟩ := Command.runCreateTable_asks
      ((Table.nameProblem?_eq_none_iff name).2 h) hs
    obtain rfl : es' = _ := List.append_cancel_left (hes''.symm.trans hes)
    exact hasks

def accented : World Float where
  environment := { values := [("KVBENCH_TABLE", "ééé")] }
  clock := 0
  source := { value := fun _ => "" }
  script := [⟨.error (.rejected (.ofResponse "CreateTable" (.object
    [("Error", .object [("Code", .text "ValidationException")])]))), 0⟩]

theorem accepts_createTable_accented :
    Accepts accented.environment ["kvbench", "create-table"] .createTable
      { settings := [.tableName "ééé"] } := by
  change Accepts { values := [("KVBENCH_TABLE", "ééé")] } _ _ _
  exact ⟨["create-table"], [], by cbv, by cbv, by cbv⟩

theorem run_creates_tables_in_any_alphabet_accented :
    ¬ Table.IsName "ééé" ∧
      ∃ e ∈ (run accented (fun _ _ => "") "" ["kvbench", "create-table"]).world.events,
        e.isCall = true ∧ e.Names "ééé" := by
  have hover : Table.NameOver Text.isAlphanumeric "ééé" :=
    (Table.nameProblem?_eq_none_iff _).1 (by decide +kernel)
  have hnone : accented.events = [] := rfl
  obtain ⟨es, hes⟩ : ∃ es, (run accented (fun _ _ => "") ""
      ["kvbench", "create-table"]).world.events = accented.events ++ es := by
    rw [hnone]
    exact ⟨_, rfl⟩
  obtain ⟨hnames, -, hsent⟩ := run_creates_tables_in_any_alphabet accepts_createTable_accented hes
  obtain ⟨hall, hasks⟩ := hsent hover
  obtain ⟨answer, hmem⟩ := hasks rfl
  rw [hes, hnone, List.nil_append]
  refine ⟨fun h => ?_, _, hmem, rfl, hall _ hmem⟩
  have hascii := ((hnames "ééé" accented).2.2.1 h).2 'é' (by decide)
  exact absurd hascii (by decide)

end CommandLine

end TableBench
