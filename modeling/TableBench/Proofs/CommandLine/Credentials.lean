import TableBench.Proofs.CommandLine.Closing
import TableBench.Proofs.Session.Credentials

namespace TableBench

open Run

namespace CommandLine

/-- The run fails without having opened anything or asked for anything. -/
def Stopped {α : Type} (config : Config Float) (w : World Float) (x : Run Float α) : Prop :=
  ∃ f w', x w = .error f w' ∧ w.Since w' (config.Fruitless w.environment)

namespace Stopped

variable {α β : Type} {config : Config Float} {w : World Float}

theorem bind {x : Run Float α} (h : Stopped config w x) (f : α → Run Float β) :
    Stopped config w (x >>= f) := by
  obtain ⟨e, w', hx, hsince⟩ := h
  exact ⟨e, w', bind_of_error hx f, hsince⟩

theorem after_log {level : Level} {component : Component} {message : String}
    {f : Unit → Run Float α} (h : ∀ rs, Stopped config (w.logged rs) (f ())) :
    Stopped config w (log level component message >>= f) := by
  obtain ⟨e, w', hf, hsince⟩ := h _
  exact ⟨e, w', (bind_of_ok (log_apply level component message w) f).trans hf, hsince⟩

theorem after_check {x : Run Float Unit} {problem : Option BenchError}
    (hx : x = problem.elim (return ()) Run.fail) {f : Unit → Run Float α}
    (h : Stopped config w (f ())) : Stopped config w (x >>= f) := by
  rw [hx]
  cases problem with
  | some error => exact ⟨_, w, rfl, .nothing (.inl rfl)⟩
  | none => exact h

end Stopped

namespace Command

variable {α : Type} {config : Config Float} {payloads : Payloads} {w : World Float}

theorem withLifecycle_unconnected (h : config.Unconnected w.environment)
    (body : Table.Lifecycle Float → Run Float α) : ∃ error chained w',
      withLifecycle config body w = .error (.reported error chained) w' ∧ error.code? = none ∧
      w.Since w' (config.Fruitless w.environment) := by
  obtain ⟨error, chained, w', hopen, hcode, hsince⟩ := (openStore_connecting config w).refused h
  exact ⟨error, chained, w', bind_of_error hopen _, hcode, hsince⟩

variable (payloads) in
theorem withSession_unconnected (h : config.Unconnected w.environment)
    (body : SessionRun Float α) : Stopped config w (withSession config payloads body) := by
  -- the stop finds nothing to close, and leaves the events as they are
  have hended {f : Failure} {l : Live Float}
      (hstarted : started config payloads body ⟨.ofConfig config, w⟩ = .error f l)
      (hclient : l.session.client = none) (hclosing : l.session.closing = [])
      (hsince : w.Since l.world (config.Fruitless w.environment)) :
      Stopped config w (withSession config payloads body) := by
    have hstop := Session.stop_apply (l := l) (by rw [hclient]; rfl)
    rw [hclosing, List.append_nil] at hstop
    exact ⟨f, _, withSession_of_error (ensuring_of_error hstarted hstop), hsince⟩
  cases hsize : Payload.size? config.valueSize with
  | none =>
    have hstarted : started config payloads body ⟨.ofConfig config, w⟩ =
        .error (.badValue Payload.sizeComplaint) ⟨.ofConfig config, w⟩ := by
      rw [started, hsize]
      rfl
    exact hended hstarted rfl rfl (.nothing (.inl rfl))
  | some size =>
    obtain ⟨error, chained, w', hstart, hconnecting⟩ :=
      Session.start_unconnected (payloads size) (l := ⟨.ofConfig config, w⟩) h
    obtain ⟨_, _, _, hr, -, hsince⟩ := hconnecting.refused h
    cases hr
    have hstarted : started config payloads body ⟨.ofConfig config, w⟩ =
        .error (.reported error chained) ⟨{ Session.ofConfig config with source := true }, w'⟩ := by
      rw [started, hsize]
      exact bind_of_error hstart _
    exact hended hstarted rfl rfl hsince

variable {c : Command} {i : Invocation}

variable (payloads) in
theorem body_unconnected (h : i.config.Unconnected w.environment) (hinfo : c ≠ connectionInfo)
    (hdrop : c = dropTable → i.approved = true) :
    Stopped i.config w (c.body i payloads) := by
  have hsession (rs : List LogRecord) {α : Type} (body : SessionRun Float α) :
      Stopped i.config (w.logged rs) (withSession i.config payloads body) :=
    withSession_unconnected payloads (w := w.logged rs) h body
  have hlifecycle (w : World Float) (h : i.config.Unconnected w.environment) {α : Type}
      (body : Table.Lifecycle Float → Run Float α) :
      Stopped i.config w (withLifecycle i.config body) := by
    obtain ⟨error, chained, w', hx, -, hsince⟩ := withLifecycle_unconnected h body
    exact ⟨_, w', hx, hsince⟩
  cases c with
  | createTable =>
    refine Stopped.after_check (checkTableName_eq _) ?_
    refine .after_log fun rs => .after_log fun rs' => ?_
    exact (hlifecycle ((w.logged rs).logged rs') h _).bind _
  | dropTable =>
    have hattempt : ∃ error chained w', (do
        Run.log .info .tableCommands ("Dropping table '" ++ i.config.tableName ++ "'")
        withLifecycle i.config fun l => l.drop i.config.tableName ) w =
          .error (.reported error chained) w' ∧ error.code? = none ∧
        w.Since w' (i.config.Fruitless w.environment) := by
      rw [bind_of_ok (log_apply _ _ _ w)]
      exact withLifecycle_unconnected (w := w.logged _) h _
    obtain ⟨error, chained, w', hx, hcode, hsince⟩ := hattempt
    refine ⟨.reported error chained, w', ?_, hsince⟩
    simp only [body, runDropTable, hdrop rfl, Bool.not_true, Bool.false_eq_true, if_false]
    rw [bind_of_ok (attempt_of_error hx)]
    simp only [hcode]
    rfl
  | describeTable => exact (hlifecycle w h _).bind _
  | read =>
    refine Stopped.after_check (checkKey_eq _) ?_
    exact .after_log fun rs => (hsession rs _).bind _
  | write =>
    refine Stopped.after_check (checkKey_eq _) ?_
    exact .after_log fun rs => (hsession rs _).bind _
  | readBulk => exact .after_log fun rs => (hsession rs _).bind _
  | writeBulk => exact .after_log fun rs => (hsession rs _).bind _
  | connectionInfo => exact absurd rfl hinfo

end Command

variable {w : World Float} {payloads : Payloads} {time : String} {words : List String}
  {c : Command} {i : Invocation}

/-- A command that cannot reach the store opens nothing and asks for nothing. It fails, unless it
has no use for the store. -/
theorem run_unconnected (ha : Accepts w.environment words c i)
    (h : i.config.Unconnected w.environment) :
    w.Since (run w payloads time words).world (i.config.Fruitless w.environment) ∧
      (c ≠ .connectionInfo → (run w payloads time words).exitCode ≠ 0) := by
  by_cases hinfo : c = .connectionInfo
  · rw [world_run ha, hinfo]
    exact ⟨.nothing (.inl rfl), fun hne => absurd rfl hne⟩
  by_cases hdrop : c = .dropTable → i.approved = true
  · obtain ⟨f, w', hx, hsince⟩ := Command.body_unconnected payloads h hinfo hdrop
    refine ⟨by rwa [world_run ha, final_of_error hx], fun _ hz => ?_⟩
    obtain ⟨r, w'', hok⟩ := body_of_exitCode_zero ha hz
    rw [hx] at hok
    cases hok
  · -- without consent nothing is tried at all
    obtain ⟨rfl, hconsent⟩ := Classical.not_imp.1 hdrop
    have hrefused : Command.dropTable.body i payloads w =
        .ok (Command.withoutConsent i.plain i.config.tableName) w := by
      rw [Command.body, Command.runDropTable, Bool.eq_false_iff.2 hconsent]
      rfl
    rw [world_run ha, final_of_ok hrefused, run_of_ok ha hrefused]
    exact ⟨.nothing (.inl rfl), fun _ => Nat.succ_ne_zero _⟩

/-- Missing credentials are found out before any client is opened. A client of either service is
opened if nothing hinders it, if there are credentials, and if its settings can be passed on; they
are looked for once, and where the cloud has them no profile counts. As long as they are missing a
start fails, and no session and no command opens a client or sends a request. -/
theorem clients_need_credentials (config : Config Float) (w : World Float) :
    (∀ target, Connecting config target w (openClient config target w) ∧
      w.Since (final (openClient config target) w) fun es => (∃ e ∈ es, e.opened? = some target) ↔
        ¬ config.Hindered w.environment target ∧ config.HasCredentials w.environment ∧
          config.Passes target) ∧
    (w.environment.InCloud → ∀ profile target,
      openClient { config with profile } target w = openClient config target w) ∧
    (config.Unconnected w.environment →
      (∀ (s : Session Float) (values : Nat → String), s.config = config → ∃ error chained w',
        Session.start values ⟨s, w⟩ =
          .error (.reported error chained) ⟨{ s with source := true }, w'⟩ ∧
        Connecting config .store w (.error (.reported error chained) w')) ∧
      (∀ uses, ∀ u ∈ (Session.useAll uses ⟨.ofConfig config, w⟩).1,
        config.Fruitless w.environment u.seen.events) ∧
      ∀ payloads time words c i, Accepts w.environment words c i → i.config = config →
        w.Since (run w payloads time words).world (config.Fruitless w.environment) ∧
          (c ≠ .connectionInfo → (run w payloads time words).exitCode ≠ 0)) := by
  refine ⟨fun target => ⟨openClient_connecting config target w, ?_⟩, ?_, fun h => ⟨?_, ?_, ?_⟩⟩
  · exact openClient_opens_iff config target w
  · exact fun hcloud profile target => openClient_of_inCloud hcloud profile target
  · rintro s values rfl
    exact Session.start_unconnected values (l := ⟨s, w⟩) h
  · exact fun uses => Session.useAll_unconnected uses (.ofConfig config) h
  · rintro payloads time words c i ha rfl
    exact run_unconnected ha h

def adrift : World Float where
  clock := 0
  source := { value := fun _ => "" }
  script := []
  environment := { values := [("DISCOVERY_ENV", "local")] }

theorem accepts_read_adrift :
    Accepts adrift.environment ["kvbench", "read", "k1"] .read { keys := ["k1"] } :=
  ⟨["read", "k1"], ["k1"], by cbv, by cbv, by cbv⟩

theorem clients_need_credentials_adrift :
    (∃ text w', openClient Config.standard .store adrift =
        .error (.reported (.credentials text) true) w' ∧
      w'.events = [.resolve (some "default") none]) ∧
    (run adrift (fun _ _ => "") "" ["kvbench", "read", "k1"]).exitCode ≠ 0 ∧
    ∀ profile, openClient { (Config.standard : Config Float) with profile } .store withoutTable =
      openClient Config.standard .store withoutTable := by
  obtain ⟨hopen, -, hunconnected⟩ := clients_need_credentials Config.standard adrift
  obtain ⟨-, hcloud, -⟩ := clients_need_credentials Config.standard withoutTable
  have hlacks : ¬ (Config.standard : Config Float).HasCredentials adrift.environment := by
    rintro ((h | h) | h)
    · exact absurd h (by decide)
    · exact absurd h (by decide)
    · exact absurd h (by decide)
  obtain ⟨-, -, hrun⟩ := hunconnected (.inr hlacks)
  obtain ⟨-, hcode⟩ := hrun (fun _ _ => "") "" _ .read _ accepts_read_adrift rfl
  refine ⟨?_, hcode nofun, fun profile => hcloud (.inl rfl) profile .store⟩
  obtain ⟨hconnecting, -⟩ := hopen .store
  generalize openClient Config.standard .store adrift = r at hconnecting
  cases hconnecting with
  | hindered h he => exact absurd h.1 (by decide)
  | lacking h hc he => exact ⟨_, _, rfl, he⟩
  | unpassed h hc hp he => exact absurd hc hlacks
  | opened h hc hp ho he => exact absurd hc hlacks

end CommandLine

end TableBench
