import TableBench.Proofs.CommandLine.Reporting
import TableBench.Proofs.Session.Opening

namespace TableBench

open Run

/-- The event is a look at the table, and this is what it showed. -/
def Event.Shows (tableName : String) (t : Table.Descriptor) (e : Event) : Prop :=
  ∃ d part, e = .call .store (.describeTable (.text tableName)) (some (.ok d)) ∧
    d.require "Table" = .ok part ∧ Table.Descriptor.ofDescription part = .ok t

theorem Event.Shows.calls_append {tableName : String} {t : Table.Descriptor} {e : Event}
    (h : e.Shows tableName t) (es : List Event) : calls (es ++ [e]) = calls es ++ [e] := by
  obtain ⟨d, part, rfl, -, -⟩ := h
  exact calls_append_call es _ _ _

namespace Table

/-- The last request but one showed the table active, and the last one showed it like this. -/
def Confirmed (tableName : String) (t : Descriptor) (es : List Event) : Prop :=
  ∃ before first last t₁, es = before ++ [first] ++ [last] ∧ first.Shows tableName t₁ ∧
    t₁.status = .active ∧ last.Shows tableName t

variable {T : Type}

def SeenActive (tableName : String) (w w' : World T) : Prop :=
  ∃ es e t, w'.events = w.events ++ (es ++ [e]) ∧ e.Shows tableName t ∧ t.status = .active

variable {tableName : String} {w w₁ w' : World T}

theorem SeenActive.of_leads (h : w.Leads w₁) (h' : SeenActive tableName w₁ w') :
    SeenActive tableName w w' := by
  obtain ⟨es₁, hes₁⟩ := h.events
  obtain ⟨es, e, t, hes, hshows⟩ := h'
  refine ⟨es₁ ++ es, e, t, ?_, hshows⟩
  rw [hes, ← hes₁, List.append_assoc, List.append_assoc]

theorem Confirmed.of_leads {t : Descriptor} (h : w.Leads w₁)
    (h' : w₁.Heard w' (Confirmed tableName t)) : w.Heard w' (Confirmed tableName t) := by
  obtain ⟨es₁, hes₁⟩ := h.events
  obtain ⟨es, hes, before, first, last, t₁, he, hshows⟩ := h'
  refine ⟨es₁ ++ es, by rw [hes, ← hes₁, List.append_assoc], calls es₁ ++ before, first, last, t₁,
    ?_, hshows⟩
  rw [calls, List.filter_append, ← calls, ← calls, he]
  simp only [List.append_assoc]

theorem SeenActive.confirmed {t : Descriptor} {e : Event} (h : SeenActive tableName w w₁)
    (he : e.Shows tableName t) (hw : w'.events = w₁.events ++ [e]) :
    w.Heard w' (Confirmed tableName t) := by
  obtain ⟨es, e₁, t₁, hes, hshows, hactive⟩ := h
  refine ⟨es ++ [e₁] ++ [e], by rw [hw, hes, List.append_assoc],
    calls es, e₁, e, t₁, ?_, hshows, hactive, he⟩
  rw [he.calls_append, hshows.calls_append]

variable [TimeScale T] {l : Lifecycle T}

namespace Lifecycle

theorem describe_of_ok {t : Descriptor} (h : l.describe tableName w = .ok t w') :
    ∃ e : Event, e.Shows tableName t ∧ w'.events = w.events ++ [e] := by
  obtain ⟨part, w₁, hpart, h⟩ := of_bind_ok h
  obtain ⟨d, w₂, hd, hpart⟩ := of_bind_ok hpart
  obtain ⟨o, script, -, ho, rfl⟩ := of_call_ok hd
  obtain ⟨hrequire, rfl⟩ := of_ofExcept_ok hpart
  obtain ⟨ht, rfl⟩ := of_ofExcept_ok h
  refine ⟨_, ⟨d, part, rfl, hrequire, ht⟩, ?_⟩
  rw [World.answered_events, ho]

theorem look_of_present {status : Status} (h : l.look tableName w = .ok (.present status) w') :
    ∃ t e, Event.Shows tableName t e ∧ t.status = status ∧ w'.events = w.events ++ [e] := by
  obtain ⟨r, w₁, hr, h⟩ := of_bind_ok h
  cases r with
  | ok t =>
    cases h
    obtain ⟨e, hshows, hes⟩ := describe_of_ok (of_attempt_ok hr)
    exact ⟨t, e, hshows, rfl, hes⟩
  | error f =>
    cases f with
    | reported error chained =>
      by_cases hc : error.code? = some notFoundCode
      · simp only [hc, beq_self_eq_true, if_true] at h
        cases h
      · simp only [beq_iff_eq, hc, if_false] at h
        cases h
    | _ => cases h

/-- A wait for an active table returns right after a look that showed it. -/
theorem watch_of_ok {deadline : T} {looks : Nat} {status : Status}
    (h : l.watch deadline .active tableName looks w = .ok status w') :
    SeenActive tableName w w' := by
  induction looks generalizing w with
  | zero => cases h
  | succ looks ih =>
    obtain ⟨sighting, w₁, hlook, h⟩ := of_bind_ok h
    have hlooked : w.Leads w₁ := Grows.leads_of_ok hlook
    obtain ⟨_, w₂, hlog, h⟩ := of_bind_ok h
    cases hlog
    cases hr : Goal.active.reached? sighting with
    | some reached =>
      rw [hr] at h
      cases h
      cases sighting with
      | missing => cases hr
      | present seen =>
        obtain ⟨t, e, hshows, rfl, hes⟩ := look_of_present hlook
        refine ⟨[], e, t, hes, hshows, ?_⟩
        cases ht : t.status with
        | active => rfl
        | _ =>
          rw [ht] at hr
          cases hr
    | none =>
      rw [hr] at h
      obtain ⟨_, w₃, hpause, h⟩ := of_bind_ok h
      have hpaused := Grows.leads_of_ok hpause
      exact ((ih h).of_leads hpaused).of_leads (hlooked.trans (.logged w₁ _))

theorem await_of_ok {status : Status} (h : l.await .active tableName w = .ok status w') :
    SeenActive tableName w w' :=
  watch_of_ok h

theorem ensure_of_ok {d : Definition} {status : Status} (h : l.ensure d w = .ok status w') :
    SeenActive d.tableName w w' := by
  obtain ⟨created, w₁, hcreate, h⟩ := of_bind_ok h
  obtain ⟨_, w₂, hlog, h⟩ := of_bind_ok h
  cases hlog
  have hcreated : w.Leads w₁ := Grows.leads_of_ok hcreate
  exact (await_of_ok h).of_leads (hcreated.trans (.logged w₁ _))

end Lifecycle

end Table

namespace Session

variable {T : Type} {l l' : Live T}

theorem state_of_lifecycle {lifecycle : Table.Lifecycle T}
    (h : Session.lifecycle l = .ok lifecycle l') : l' = l := by
  cases hc : l.session.client with
  | none =>
    rw [Session.lifecycle, bind_of_error (requireClient_of_none hc)] at h
    cases h
  | some c =>
    rw [lifecycle_apply hc] at h
    cases h
    rfl

variable [TimeScale T]

theorem provision_of_ok (hp : l.session.config.programmableTables = true)
    (h : provision l = .ok () l') : ∃ t, l'.session.table = some t ∧
      l.world.Heard l'.world (Table.Confirmed l.session.config.tableName t) := by
  rw [provision, get_bind_apply] at h
  simp only [hp, if_true] at h
  obtain ⟨_, l₁, hlog, h⟩ := of_bind_ok h
  cases hlog
  obtain ⟨lifecycle, l₂, hlifecycle, h⟩ := of_bind_ok h
  rw [state_of_lifecycle hlifecycle] at h
  obtain ⟨status, l₃, hensure, h⟩ := of_bind_ok h
  obtain ⟨hensure, -⟩ := of_lift_ok hensure
  obtain ⟨lifecycle', l₄, hlifecycle', h⟩ := of_bind_ok h
  rw [state_of_lifecycle hlifecycle'] at h
  obtain ⟨t, l₅, hdescribe, h⟩ := of_bind_ok h
  obtain ⟨hdescribe, -⟩ := of_lift_ok hdescribe
  cases h
  obtain ⟨e, hshows, hes⟩ := Table.Lifecycle.describe_of_ok hdescribe
  have hseen := (Table.Lifecycle.ensure_of_ok hensure).of_leads (.logged l.world _)
  exact ⟨t, rfl, hseen.confirmed hshows hes⟩

/-- A session that is started over its own table records how the table looked after the wait. -/
theorem start_of_ok {values : Nat → String} (hp : l.session.config.programmableTables = true)
    (h : start values l = .ok () l') : ∃ t, l'.session.table = some t ∧
      l.world.Heard l'.world (Table.Confirmed l.session.config.tableName t) := by
  rw [start_eq] at h
  obtain ⟨_, l₁, hprepare, h⟩ := of_bind_ok h
  obtain ⟨_, l₂, haccelerate, h⟩ := of_bind_ok h
  rw [settle_apply] at h
  cases h
  have hprepared : ∃ t, l₁.session.table = some t ∧
      l.world.Heard l₁.world (Table.Confirmed l.session.config.tableName t) := by
    obtain ⟨_, l₃, hlog, hprepare⟩ := of_bind_ok hprepare
    obtain ⟨_, l₄, hsupply, hprepare⟩ := of_bind_ok hprepare
    obtain ⟨_, l₅, hconnect, hprovision⟩ := of_bind_ok hprepare
    have hleads : l.world.Leads l₅.world := ((Grows.leads_of_ok hlog).trans
      (Grows.leads_of_ok hsupply)).trans (Grows.leads_of_ok hconnect)
    have hconfig : l₅.session.config = l.session.config := by
      cases hlog
      cases hsupply
      obtain ⟨f, w, hfails, -⟩ | ⟨w, hconnects, -⟩ := connect_since _
      · rw [hfails] at hconnect
        cases hconnect
      · rw [hconnects] at hconnect
        cases hconnect
        rfl
    obtain ⟨t, ht, hheard⟩ := provision_of_ok (by rw [hconfig, hp]) hprovision
    rw [hconfig] at hheard
    exact ⟨t, ht, Table.Confirmed.of_leads hleads hheard⟩
  obtain ⟨t, ht, hheard⟩ := hprepared
  obtain ⟨f, w, hfails, -⟩ | hsame | ⟨w, hopens, es, hes, hall⟩ := accelerate_since l₁
  · rw [hfails] at haccelerate
    cases haccelerate
  · rw [hsame] at haccelerate
    cases haccelerate
    exact ⟨t, ht, hheard⟩
  · rw [hopens] at haccelerate
    cases haccelerate
    exact ⟨t, ht, hheard.aside ⟨es, hes, hall.aside⟩⟩

end Session

namespace CommandLine

namespace Command

variable {α : Type} {config : Config Float} {w w' : World Float} {i : Invocation}

theorem of_checkTableName_ok {s : String} (h : checkTableName s w = .ok () w') : w' = w := by
  rw [checkTableName] at h
  cases hn : Table.nameProblem? s with
  | none =>
    rw [hn] at h
    cases h
    rfl
  | some p =>
    rw [hn] at h
    cases h

theorem runCreateTable_of_ok {r : Reply} (h : runCreateTable i w = .ok r w') :
    ∃ t created, w.Heard w' (Table.Confirmed i.config.tableName t) ∧
      r.out = (if i.plain then
        (if created then "✅ Table '" ++ i.config.tableName ++ "' created successfully"
          else "Table '" ++ i.config.tableName ++ "' already exists") ++
          "\nStatus: " ++ t.status.name
        else (Document.object (t.report ++ [("created", .bool created)])).write) ++ "\n" := by
  obtain ⟨_, w₁, hcheck, h⟩ := of_bind_ok h
  obtain ⟨_, w₂, hlog, h⟩ := of_bind_ok h
  obtain ⟨_, w₃, hlog', h⟩ := of_bind_ok h
  obtain ⟨⟨created, t⟩, w₄, hsetup, h⟩ := of_bind_ok h
  cases h
  refine ⟨t, created, ?_, ?_⟩
  · have hleads := (Grows.leads_of_ok hlog).trans (Grows.leads_of_ok hlog')
    rw [of_checkTableName_ok hcheck] at hleads
    obtain ⟨w₅, w₆, hopened, hbody, rfl⟩ := of_withLifecycle_ok hsetup
    obtain ⟨created', w₇, hcreate, hbody⟩ := of_bind_ok hbody
    obtain ⟨status, w₈, hawait, hbody⟩ := of_bind_ok hbody
    obtain ⟨t', w₉, hdescribe, hbody⟩ := of_bind_ok hbody
    cases hbody
    obtain ⟨e, hshows, hes⟩ := Table.Lifecycle.describe_of_ok hdescribe
    have hseen := (Table.Lifecycle.await_of_ok hawait).of_leads
      ((hleads.trans hopened).trans (Grows.leads_of_ok hcreate))
    exact (hseen.confirmed hshows hes).aside ((World.Aside.refl _).noted rfl)
  · cases i.plain with
    | true =>
      simp only [if_true, Reply.lines, List.map_cons, List.map_nil, String.join_cons,
        String.join_nil, String.append_empty, String.append_assoc]
      rfl
    | false => rfl

end Command

/-- A setup that succeeds rests on two looks. The wait ended with one that showed the table active,
and what is recorded or printed is what the next one showed. -/
theorem setup_rests_on_last_look :
    (∀ (T : Type) [TimeScale T] (values : Nat → String) (l l' : Live T),
      l.session.config.programmableTables = true → Session.start values l = .ok () l' →
      ∃ t, l'.session.table = some t ∧
        l.world.Heard l'.world (Table.Confirmed l.session.config.tableName t)) ∧
    ∀ (w : World Float) (payloads : Payloads) (time : String) (words : List String)
      (i : Invocation), Accepts w.environment words .createTable i →
      (run w payloads time words).exitCode = 0 →
      ∃ t created, w.Heard (run w payloads time words).world
          (Table.Confirmed i.config.tableName t) ∧
        (run w payloads time words).out = (if i.plain then
          (if created then "✅ Table '" ++ i.config.tableName ++ "' created successfully"
            else "Table '" ++ i.config.tableName ++ "' already exists") ++
            "\nStatus: " ++ t.status.name
          else (Document.object (t.report ++ [("created", .bool created)])).write) ++ "\n" := by
  constructor
  · intro T _ values l l' hp h
    exact Session.start_of_ok hp h
  · intro w payloads time words i ha hz
    obtain ⟨r, w', hb⟩ := body_of_exitCode_zero ha hz
    rw [run_of_ok ha hb]
    exact Command.runCreateTable_of_ok hb

def withStatus (s : String) : Outcome Float :=
  ⟨.ok (.object [("Table", .object
    [("TableName", .text "ndbench-table"), ("TableStatus", .text s)])]), 0⟩

/-- A store that creates a table, shows it active once and then shows the given status. -/
def showing (s : String) : World Float where
  clock := 0
  source := { value := fun _ => "" }
  script := [⟨.ok (.object [("TableDescription", .object [])]), 0⟩, withStatus "ACTIVE",
    withStatus s]

theorem accepts_createTable (s : String) :
    Accepts (showing s).environment ["kvbench", "create-table"] .createTable {} := by
  change Accepts {} _ _ _
  exact ⟨["create-table"], [], by cbv, by cbv, by cbv⟩

theorem checkTableName_standard (w : World Float) :
    Command.checkTableName "ndbench-table" w = .ok () w := by
  have hname : Table.nameProblem? "ndbench-table" = none := by decide +kernel
  rw [Command.checkTableName, hname]
  rfl

def withOwnTable (w : World Float) : Live Float :=
  ⟨.ofConfig { Config.standard with programmableTables := true }, w⟩

theorem setup_of_departing_table :
    let r := run (showing "DELETING") (fun _ _ => "") "" ["kvbench", "create-table"]
    (r.exitCode = 0 ∧ r.out = (Document.object
      [("table", .text "ndbench-table"), ("attribute_name", .text "id"),
       ("attribute_type", .text "S"), ("read_capacity_units", .int 0),
       ("write_capacity_units", .int 0), ("status", .text "DELETING"),
       ("created", .bool true)]).write ++ "\n") ∧
      ∃ l t, Session.start (fun _ => "") (withOwnTable (showing "DELETING")) = .ok () l ∧
        l.session.table = some t ∧ t.status = .deleting := by
  intro r
  constructor
  · have hb : ∃ w', Command.createTable.body {} (fun _ _ => "") (showing "DELETING") =
        .ok (.document (.object
          [("table", .text "ndbench-table"), ("attribute_name", .text "id"),
           ("attribute_type", .text "S"), ("read_capacity_units", .int 0),
           ("write_capacity_units", .int 0), ("status", .text "DELETING"),
           ("created", .bool true)])) w' :=
      ⟨_, (bind_of_ok (checkTableName_standard _) _).trans rfl⟩
    obtain ⟨w', hb⟩ := hb
    rw [show r = _ from run_of_ok (accepts_createTable "DELETING") hb]
    exact ⟨rfl, rfl⟩
  · exact ⟨_, _, rfl, rfl, rfl⟩

theorem setup_rests_on_last_look_active :
    let r := run (showing "ACTIVE") (fun _ _ => "") "" ["kvbench", "create-table"]
    (r.exitCode = 0 ∧ ∃ t, (showing "ACTIVE").Heard r.world (Table.Confirmed "ndbench-table" t)) ∧
      ∃ l t, Session.start (fun _ => "") (withOwnTable (showing "ACTIVE")) = .ok () l ∧
        l.session.table = some t ∧
        (showing "ACTIVE").Heard l.world (Table.Confirmed "ndbench-table" t) := by
  intro r
  obtain ⟨hsessions, hcommands⟩ := setup_rests_on_last_look
  constructor
  · have hb : ∃ reply w', Command.createTable.body {} (fun _ _ => "") (showing "ACTIVE") =
        .ok reply w' ∧ reply.code = 0 :=
      ⟨_, _, (bind_of_ok (checkTableName_standard _) _).trans rfl, rfl⟩
    obtain ⟨reply, w', hb, hcode⟩ := hb
    have hzero : r.exitCode = 0 := by
      rw [show r = _ from run_of_ok (accepts_createTable "ACTIVE") hb]
      exact hcode
    obtain ⟨t, created, hheard, -⟩ := hcommands _ _ _ _ _ (accepts_createTable "ACTIVE") hzero
    exact ⟨hzero, t, hheard⟩
  · have hstart : ∃ l, Session.start (fun _ => "") (withOwnTable (showing "ACTIVE")) = .ok () l :=
      ⟨_, rfl⟩
    obtain ⟨l, hl⟩ := hstart
    obtain ⟨t, ht, hheard⟩ := hsessions Float _ _ _ rfl hl
    exact ⟨l, t, hl, ht, hheard⟩

end CommandLine

end TableBench
