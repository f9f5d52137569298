import TableBench.Proofs.Run.Redirection
import TableBench.Proofs.Session.Handles

namespace TableBench

open Run

namespace Session

variable {T : Type} [TimeScale T]

def prepare (values : Nat → String) : SessionRun T Unit := do
  log .info "Initializing DynamoDB benchmark session"
  supply values
  connect
  provision

/-- The last part of a start, which cannot fail. -/
def settle : SessionRun T Unit := do
  change fun s =>
    { s with tableName := s.config.tableName, attributeName := s.config.attributeName }
  log .info "DynamoDB benchmark session initialized"

def settled (s : Session T) : Session T :=
  { s with tableName := s.config.tableName, attributeName := s.config.attributeName }

def initialized : LogRecord := ⟨.info, .session, "DynamoDB benchmark session initialized"⟩

omit [TimeScale T] in
theorem settle_apply (l : Live T) :
    settle l = .ok () ⟨l.session.settled, l.world.logged [initialized]⟩ := rfl

theorem start_eq (values : Nat → String) :
    start values = (do prepare values; accelerate; settle : SessionRun T Unit) := by
  simp only [start, prepare, settle, bind_assoc]

def opened (s : Session T) : Session T :=
  { s with source := true, store := true, client := some .direct }

variable (values : Nat → String) (l : Live T)

/-- A start changes the handles and the description of the table, and settles on the names of the
configuration. -/
theorem Keeps.start_of {P : Session T → Prop}
    (hhandles : ∀ s client store accelerator source table, P s →
      P { s with client, store, accelerator, source, table })
    (hnames : ∀ s, P s → P s.settled) : Keeps P (start values) := by
  have hsupply : Keeps P (supply values) := ⟨fun l hl => hhandles _ _ _ _ true _ hl⟩
  have hconnect : Keeps P connect := by
    unfold connect
    have hclient :
        Keeps P (Session.change fun s => { s with store := true, client := some .direct }) :=
      .change fun s hs => hhandles s _ _ _ _ _ hs
    infer_instance
  have hprovision : Keeps P Session.provision := .provision_of fun s _ hs => hhandles s _ _ _ _ _ hs
  have haccelerate : Keeps P Session.accelerate := by
    unfold Session.accelerate
    have hclient : Keeps P (Session.change fun s =>
        { s with accelerator := true, client := some .accelerated }) :=
      .change fun s hs => hhandles s _ _ _ _ _ hs
    refine .seq fun l => ?_
    dsimp only
    infer_instance
  have hsettle : Keeps P settle := by
    unfold settle
    have hsettled : Keeps P (Session.change fun s : Session T =>
        { s with tableName := s.config.tableName, attributeName := s.config.attributeName }) :=
      .change hnames
    infer_instance
  have hprepare : Keeps P (prepare values) := by
    unfold prepare
    infer_instance
  rw [start_eq]
  infer_instance

theorem final_provision_session :
    ∃ table, (final provision l).session = { l.session with table } := by
  have hkeeps : Keeps (fun s => ∃ table, s = { l.session with table }) provision := by
    apply Keeps.provision_of
    rintro _ table ⟨_, rfl⟩
    exact ⟨some table, rfl⟩
  exact hkeeps.keeps l ⟨l.session.table, rfl⟩

/-- Nothing is opened, or the client of the store is, whatever becomes of the table. -/
theorem prepare_cases :
    (∃ f l', l.session.config.storeFailure? l.world.environment = some f ∧
      prepare values l = .error f l' ∧ l'.session = { l.session with source := true } ∧
      l.world.Aside l'.world) ∨
    (l.session.config.storeFailure? l.world.environment = none ∧
      ∃ table, (final (prepare values) l).session = { l.session.opened with table }) := by
  rw [prepare, bind_of_ok (log_apply _ _ l), bind_of_ok (supply_apply _ _)]
  rw [final_bind_of_ok (log_apply _ _ l), final_bind_of_ok (supply_apply _ _)]
  generalize hl : Live.mk _ _ = l₁
  obtain ⟨hs, he, hevents⟩ : l₁.session = { l.session with source := true } ∧
      l₁.world.environment = l.world.environment ∧ l₁.world.events = l.world.events := by
    subst hl
    exact ⟨rfl, rfl, rfl⟩
  have hconfig : l₁.session.config = l.session.config := by rw [hs]
  have hopen := openStore_cases l₁.session.config l₁.world
  rw [hconfig, he] at hopen
  obtain ⟨f, w, hf, hw, es, hes, hall⟩ | ⟨hf, w, hw, -⟩ := hopen
  · have hc : connect l₁ = .error f ⟨l₁.session, w⟩ := by
      rw [connect, get_bind_apply, hconfig]
      exact bind_of_error (lift_of_error hw) _
    exact .inl ⟨f, _, hf, bind_of_error hc _, hs, es, by rw [hes, hevents], hall⟩
  · have hc : connect l₁ = .ok () ⟨l.session.opened, w⟩ := by
      rw [connect, get_bind_apply, hconfig, bind_of_ok (lift_of_ok hw), hs]
      rfl
    rw [final_bind_of_ok hc]
    exact .inr ⟨hf, final_provision_session _⟩

instance grows_prepare : Grows (prepare values : SessionRun T Unit) := by
  unfold prepare
  infer_instance

omit [TimeScale T] in
instance grows_settle : Grows (settle : SessionRun T Unit) := by
  unfold settle
  infer_instance

variable {values l} in
theorem prepare_of_ok {l' : Live T} (h : prepare values l = .ok () l') :
    l.session.config.credentialProblem? l'.world.environment = none ∧
      ∃ table, l'.session = { l.session.opened with table } := by
  obtain ⟨f, l₁, -, hp, -⟩ | ⟨hf, table, hs⟩ := prepare_cases values l
  · rw [h] at hp
    cases hp
  · have hleads := (grows_prepare values).leads l
    rw [final_of_ok h] at hs hleads
    refine ⟨?_, table, hs⟩
    rw [show l'.world.environment = l.world.environment from hleads.environment]
    exact Config.credentialProblem?_of_storeFailure? hf

variable {values l} in
theorem prepare_of_error {e : Failure} {l' : Live T} (h : prepare values l = .error e l') :
    l'.session = { l.session with source := true } ∨
      ∃ table, l'.session = { l.session.opened with table } := by
  obtain ⟨f, l₁, -, hp, hs, -⟩ | ⟨-, table, hs⟩ := prepare_cases values l
  · rw [h] at hp
    cases hp
    exact .inl hs
  · rw [final_of_error h] at hs
    exact .inr ⟨table, hs⟩

omit [TimeScale T] in
theorem accelerate_cases :
    (∃ e l', accelerate l = .error e l' ∧ l'.session = l.session) ∨
    ∃ l', accelerate l = .ok () l' := by
  rw [accelerate, get_bind_apply]
  split
  · rw [bind_of_ok (log_apply _ _ l)]
    generalize hl : Live.mk l.session (l.world.logged _) = l₁
    have hs : l₁.session = l.session := by rw [← hl]
    cases hr : openAccelerator l.session.config l₁.world with
    | ok a w => exact .inr ⟨_, bind_of_ok (lift_of_ok hr) _⟩
    | error e w => exact .inl ⟨e, _, bind_of_error (lift_of_error hr) _, hs⟩
  · exact .inr ⟨l, rfl⟩

omit [TimeScale T] in
theorem accelerate_of_not_given (hg : given l.session.config.acceleratorEndpoint = false) :
    accelerate l = .ok () l := by
  rw [accelerate, get_bind_apply, hg]
  rfl

def opening (c : Config T) (e : Environment) : List Event :=
  [.resolve (c.soughtProfile e) c.region, .openAccelerator c.region c.acceleratorEndpoint]

omit [TimeScale T] in
theorem accelerate_of_given (hg : given l.session.config.acceleratorEndpoint = true)
    (ha : l.world.environment.accelerator = true)
    (hp : l.session.config.credentialProblem? l.world.environment = none) :
    ∃ w, accelerate l =
        .ok () ⟨{ l.session with accelerator := true, client := some .accelerated }, w⟩ ∧
      w.unrecorded = l.world.unrecorded ∧
      w.events = l.world.events ++ opening l.session.config l.world.environment := by
  rw [accelerate, get_bind_apply, if_pos hg, bind_of_ok (log_apply _ _ l)]
  generalize hl : Live.mk l.session (l.world.logged _) = l₁
  have ho : openAccelerator l.session.config l₁.world = .ok () _ :=
    openAccelerator_apply l.session.config l₁.world (by rw [← hl]; exact ha)
      (by rw [← hl]; exact hp)
  subst hl
  exact ⟨_, bind_of_ok (lift_of_ok ho) _, rfl, List.append_assoc _ _ _⟩

variable {l} in
theorem start_of_storeFailure {f : Failure}
    (h : l.session.config.storeFailure? l.world.environment = some f) :
    ∃ l', start values l = .error f l' ∧ l'.session.config = l.session.config ∧
      l.world.Aside l'.world := by
  rw [start_eq]
  obtain ⟨f', l', hf, hp, hs, ha⟩ | ⟨hf, -⟩ := prepare_cases values l
  · rw [h] at hf
    cases hf
    exact ⟨l', bind_of_error hp _, by rw [hs], ha⟩
  · rw [h] at hf
    cases hf

/-- A start that fails leaves an open client of the store behind unless opening it failed. -/
theorem session_of_failed_start {e : Failure} {l' : Live T} (h : start values l = .error e l') :
    (l.session.config.storeFailure? l.world.environment = some e ∧
      l'.session = { l.session with source := true }) ∨
    (l.session.config.storeFailure? l.world.environment = none ∧
      ∃ table, l'.session = { l.session.opened with table }) := by
  rw [start_eq] at h
  obtain ⟨f, l₁, hf, hp, hs, -⟩ | ⟨hf, table, hs⟩ := prepare_cases values l
  · rw [bind_of_error hp] at h
    cases h
    exact .inl ⟨hf, hs⟩
  · refine .inr ⟨hf, table, ?_⟩
    rw [← hs]
    cases hp : prepare values l with
    | error e₁ l₁ =>
      rw [bind_of_error hp] at h
      cases h
      rw [final_of_error hp]
    | ok a l₁ =>
      rw [bind_of_ok hp] at h
      obtain ⟨e₂, l₂, ha, hs₂⟩ | ⟨l₂, ha⟩ := accelerate_cases l₁
      · rw [bind_of_error ha] at h
        cases h
        rw [final_of_ok hp, hs₂]
      · rw [bind_of_ok ha] at h
        cases h

end Session

end TableBench
