import TableBench.Proofs.CommandLine.Closing
import TableBench.Proofs.CommandLine.Parsing

namespace TableBench

open Run

namespace CommandLine

/-- The change neither gives consent nor takes it back. -/
def Steady (f : Invocation → Invocation) : Prop := ∀ i, (f i).approved = i.approved

def Action.Steady : Action → Prop
  | .switch change => ∀ b, CommandLine.Steady (change b)
  | .count change => ∀ n, CommandLine.Steady (change n)
  | .text _ | .integer _ | .decimal _ => True

variable {p : Parameter} {f : Invocation → Invocation}

theorem steady_of_makes (hp : p.action.Steady) (h : p.Makes f) : Steady f := by
  cases h with
  | unchanged | text | integer | decimal => exact fun _ => rfl
  | switch ha b =>
    rw [ha] at hp
    exact hp b
  | count ha n =>
    rw [ha] at hp
    exact hp n

/-- Consent is given by one option alone. -/
theorem options_steady (c : Command) (hp : p ∈ c.options) :
    p = Options.approve ∨ p.action.Steady := by
  have hsteady : ∀ p ∈ Options.valueSize :: Options.maxRounds :: (Options.capacity ++
      Options.waiting ++ Options.store), p.action.Steady := by
    simp [Options.valueSize, Options.maxRounds, Options.capacity, Options.waiting, Options.store,
      Options.table, Options.client, Options.output, Action.Steady, Steady, Invocation.set]
  exact (mem_options hp).imp_right (hsteady p)

/-- Consent has to be spelled out. -/
theorem invocation_spelled {c : Command} {e : Environment} {words : List String} {i : Invocation}
    (h : c.invocation e words = .ok i) (ha : i.approved = true) : "--approve" ∈ words := by
  by_contra hno
  have hkept {p : Parameter} {f : Invocation → Invocation} (hp : p.action.Steady)
      (hf : p.Makes f) (i : Invocation)
      (hi : i.approved = false) : (f i).approved = false :=
    (steady_of_makes hp hf i).trans hi
  -- neither the mentioned options nor the environment can bring consent in
  have hunset : i.approved = false := by
    refine invocation_keeps (R := (·.approved = false)) h rfl (fun _ _ hi => hi) ?_ ?_
    · intro p hp hspelled f hf
      rcases options_steady c hp with happrove | hsteady
      · rw [happrove] at hspelled
        obtain ⟨name, hname, hmem⟩ := hspelled rfl (by decide)
        rw [List.mem_singleton.1 hname] at hmem
        exact absurd hmem hno
      · exact hkept hsteady hf
    · intro p hp value hv f hf
      rcases options_steady c hp with rfl | hsteady
      · cases hv
      · exact hkept hsteady hf
  rw [hunset] at ha
  cases ha

variable {w : World Float} {payloads : Payloads} {time : String} {words : List String}
  {c : Command} {i : Invocation}

theorem Accepts.approved_spelled {e : Environment} (h : Accepts e words c i)
    (ha : i.approved = true) : "--approve" ∈ words := by
  obtain ⟨rest, args, hgroup, hcommand, hi⟩ := h
  exact splitCommand_subset hgroup (splitCommand_subset hcommand (invocation_spelled hi ha))

variable (payloads) (time) in
/-- A table is created by its command alone, under a good name, and deleted by its command alone,
after consent was spelled out; either of them makes one such request at most. Without consent, and
to show a configuration, nothing is opened or asked at all. -/
theorem run_changes_tables_with_consent (h : Accepts w.environment words c i) :
    i.config.programmableTables = false ∧ (i.approved = true → "--approve" ∈ words) ∧
      ∃ es, (run w payloads time words).world.events = w.events ++ es ∧
        c.Changes i (changes es) ∧
        (c = .connectionInfo → es = [] ∧ (run w payloads time words).exitCode = 0) ∧
        (c = .dropTable → i.approved = false →
          es = [] ∧ (run w payloads time words).exitCode = 2) := by
  refine ⟨Config.programmableTables_ofOptions i.settings, h.approved_spelled, ?_⟩
  obtain ⟨es, hes, inner, hvisit, hchanges⟩ := Command.body_visits c i payloads w
  have hworld : (run w payloads time words).world = final (c.body i payloads) w := world_run h
  rw [← hworld] at hes
  have hquiet {r : Reply} (hb : c.body i payloads w = .ok r w) :
      es = [] ∧ (run w payloads time words).exitCode = r.code := by
    rw [run_of_ok h hb] at hes ⊢
    exact ⟨List.append_right_eq_self.1 hes.symm, rfl⟩
  refine ⟨es, hes, hvisit.changes_eq ▸ hchanges, ?_, ?_⟩
  · rintro rfl
    obtain ⟨hes, hcode⟩ := hquiet (r := Command.runConnectionInfo i) rfl
    exact ⟨hes, hcode.trans (Reply.clean_ite _ _ _).2⟩
  · rintro rfl ha
    refine hquiet (r := Command.withoutConsent i.plain i.config.tableName) ?_
    simp only [Command.body, Command.runDropTable, ha]
    rfl

def unanswered : World Float where
  clock := 0
  source := { value := fun _ => "" }

theorem accepts_dropTable :
    Accepts unanswered.environment ["kvbench", "drop-table", "--approve"] .dropTable
      { approved := true } :=
  ⟨["drop-table", "--approve"], ["--approve"], by cbv, by cbv, by cbv⟩

theorem run_changes_tables_with_consent_approved :
    ∃ es, (run unanswered (fun _ _ => "") "" ["kvbench", "drop-table", "--approve"]).world.events =
        es ∧
      Command.Changes .dropTable { approved := true } (changes es) ∧
      changes es = [.call .store (.deleteTable (.text "ndbench-table")) none] := by
  obtain ⟨-, -, es, hes, hchanges, -⟩ :=
    run_changes_tables_with_consent (fun _ _ => "") "" accepts_dropTable
  refine ⟨es, hes, hchanges, ?_⟩
  rw [world_run accepts_dropTable] at hes
  have hevents : ∃ settings, (final (Command.dropTable.body { approved := true } fun _ _ => "")
      unanswered).events = [.resolve none none, .openStore none settings,
        .call .store (.deleteTable (.text "ndbench-table")) none, .close .store] := ⟨_, rfl⟩
  obtain ⟨settings, hevents⟩ := hevents
  rw [← List.nil_append es, ← show unanswered.events = [] from rfl, ← hes, hevents]
  rfl

end CommandLine

end TableBench
