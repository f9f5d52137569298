import TableBench.CommandLine.Command
import TableBench.Proofs.CommandLine.Requests
import TableBench.Proofs.Session.Release
import TableBench.Proofs.Session.Start

namespace TableBench

open Run Service

namespace Config

variable {T : Type} (c : Config T) (e : Environment)

/-- Why there is no connection to the store, if the settings of the client can be converted. -/
def connectionProblem? : Option ConnectionProblem :=
  if given c.endpoint && !given c.region then some .regionMissing else c.credentialProblem? e

def lacksAccelerator : Bool := given c.acceleratorEndpoint && !e.accelerator

variable {c}

theorem storeFailure?_eq (hs : ∃ settings, ClientSettings.ofConfig c = .ok settings) :
    c.storeFailure? e = (c.connectionProblem? e).map ConnectionProblem.failure := by
  obtain ⟨settings, hs⟩ := hs
  rw [storeFailure?, connectionProblem?, hs]
  split
  · rfl
  · cases c.credentialProblem? e <;> rfl

theorem credentialProblem?_of_connectionProblem? {e : Environment}
    (h : c.connectionProblem? e = none) : c.credentialProblem? e = none := by
  rw [connectionProblem?] at h
  split at h
  · cases h
  · exact h

end Config

variable {T α : Type} {M : Manner T} {b : List Event} {P : List Event → Prop} {config : Config T}

theorem Run.openStore_unrecorded (config : Config T) (w : World T) :
    (final (openStore config) w).unrecorded = w.unrecorded := by
  have hc := resolveCredentials_apply config w
  rw [openStore]
  cases given config.endpoint && !given config.region with
  | true => rfl
  | false =>
    simp only [Bool.false_eq_true, if_false]
    cases hp : config.credentialProblem? w.environment with
    | some p =>
      rw [hp] at hc
      rw [final_of_error (bind_of_error hc _)]
      rfl
    | none =>
      rw [hp] at hc
      rw [final_bind_of_ok hc, final_bind_of_ok (log_apply _ _ _ _)]
      cases ClientSettings.ofConfig config <;> rfl

theorem Run.openStore_ends {w : World T}
    (hs : ∃ settings, ClientSettings.ofConfig config = .ok settings)
    (hp : ∀ p, config.connectionProblem? w.environment = some p →
      ∀ es, P es → M.complains es p.error)
    (h : M.Calm b P w) :
    M.Ends b w (openStore config) fun _ w' es =>
      (config.connectionProblem? w.environment = none ∧ w'.unrecorded = w.unrecorded) ∧ P es := by
  have hw := openStore_unrecorded config w
  obtain ⟨f, w', hf, ho, ha⟩ | ⟨hf, w', ho, ha⟩ := openStore_cases config w
  · rw [Config.storeFailure?_eq _ hs, Option.map_eq_some_iff] at hf
    obtain ⟨p, hp', rfl⟩ := hf
    exact .of_error ho ((h.aside ha).complaint (hp p hp'))
  · rw [Config.storeFailure?_eq _ hs, Option.map_eq_none_iff] at hf
    rw [final_of_ok ho] at hw
    exact .of_ok ho ((h.aside ha).mono fun es hes => ⟨⟨hf, hw⟩, hes⟩)

namespace Session

/-- The session serves data requests as the configuration has it. -/
structure Serving (c : Config T) (s : Session T) : Prop where
  client : ∃ c, s.client = some c
  source : s.source = true
  config : s.config = c
  tableName : s.tableName = c.tableName

def Described (c : Config T) (es : List Event) : Prop :=
  ∃ answer, es = [.call .store (.describeTable (.text c.tableName)) answer]

theorem Described.countP_isRound {c : Config T} {es : List Event} (h : Described c es) :
    es.countP Batch.isRound = 0 := by
  obtain ⟨answer, rfl⟩ := h
  rfl

variable {l : Live T}

theorem accelerate_of_missing (hg : given l.session.config.acceleratorEndpoint = true)
    (ha : l.world.environment.accelerator = false) :
    ∃ l', accelerate l = .error ConnectionProblem.acceleratorMissing.failure l' ∧
      l'.world.events = l.world.events := by
  rw [accelerate, get_bind_apply, if_pos hg, bind_of_ok (log_apply _ _ l)]
  generalize hl : Live.mk l.session (l.world.logged _) = l₁
  have ho : openAccelerator l.session.config l₁.world =
      .error ConnectionProblem.acceleratorMissing.failure l₁.world := by
    have henv : l₁.world.environment.accelerator = false := by
      rw [← hl]
      exact ha
    rw [openAccelerator, get_bind_apply, henv]
    rfl
  refine ⟨_, bind_of_error (lift_of_error ho) _, ?_⟩
  rw [← hl]
  rfl

theorem aside_of_opening {w w' : World T} {c : Config T} {e : Environment}
    (h : w'.events = w.events ++ opening c e) : w.Aside w' := by
  refine ⟨_, h, ?_⟩
  rw [opening, List.forall_mem_cons, List.forall_mem_singleton]
  exact ⟨rfl, rfl⟩

theorem accelerate_ends (hp : l.session.config.credentialProblem? l.world.environment = none)
    (hM : l.session.config.lacksAccelerator l.world.environment = true → ∀ es, P es →
      M.complains es ConnectionProblem.acceleratorMissing.error)
    (hc : ∃ c, l.session.client = some c) (h : M.Calm b P l.world) :
    M.Ends b l accelerate fun _ l' es => (l.session.config.lacksAccelerator l.world.environment =
        false ∧ (∃ c, l'.session.client = some c) ∧ l'.session.source = l.session.source ∧
        l'.session.config = l.session.config) ∧ P es := by
  cases hg : given l.session.config.acceleratorEndpoint with
  | false =>
    refine .of_ok (accelerate_of_not_given l hg) (h.mono fun es hes => ⟨⟨?_, hc, rfl, rfl⟩, hes⟩)
    rw [Config.lacksAccelerator, hg, Bool.false_and]
  | true =>
    cases ha : l.world.environment.accelerator with
    | false =>
      obtain ⟨l', hl', he⟩ := accelerate_of_missing hg ha
      have hlacks : l.session.config.lacksAccelerator l.world.environment = true := by
        rw [Config.lacksAccelerator, hg, ha]
        rfl
      exact .of_error hl' ((h.aside (.of_events_eq he)).complaint (hM hlacks))
    | true =>
      obtain ⟨w, hw, -, he⟩ := accelerate_of_given l hg ha hp
      refine .of_ok hw ((h.aside (aside_of_opening he)).mono fun es hes => ?_)
      refine ⟨⟨?_, ⟨_, rfl⟩, rfl, rfl⟩, hes⟩
      rw [Config.lacksAccelerator, ha, Bool.not_true, Bool.and_false]

variable [TimeScale T]

theorem provision_ends (hM : M.Strict) {c : Client} (hc : l.session.client = some c)
    (hp : l.session.config.programmableTables = false) (h : M.Calm b (· = []) l.world) :
    M.Ends b l provision fun _ _ es => Described l.session.config es := by
  rw [provision]
  apply Ensures.get
  simp only [hp, Bool.false_eq_true, if_false]
  refine .step (lifecycle_apply hc) rfl ?_
  refine Manner.Ends.bind (.lift (Table.Lifecycle.describe_ends _ _ h
    fun es error _ => hM.forgives es _ error)) ?_
  intro table l' h'
  refine .of_ok rfl (Manner.Calm.aside (w := l'.world) (h'.split.2.mono ?_) (.of_events_eq rfl))
  rintro _ ⟨_, answer, rfl, rfl⟩
  exact ⟨answer, rfl⟩

omit [TimeScale T] in
theorem connect_ends (hs : ∃ settings, ClientSettings.ofConfig l.session.config = .ok settings)
    (hp : ∀ p, l.session.config.connectionProblem? l.world.environment = some p →
      ∀ es, P es → M.complains es p.error)
    (h : M.Calm b P l.world) :
    M.Ends b l connect fun _ l' es =>
      (l.session.config.connectionProblem? l.world.environment = none ∧
        l'.session = { l.session with store := true, client := some .direct }) ∧ P es := by
  rw [connect]
  apply Ensures.get
  apply Manner.Ends.bind (Manner.Ends.lift (openStore_ends hs hp h))
  intro _ l' h'
  obtain ⟨hl', h'⟩ := h'.split
  obtain ⟨⟨hnone, -⟩, h'⟩ := h'.split
  have hsession : { l'.session with store := true, client := some Client.direct } =
      { l.session with store := true, client := some Client.direct } := by
    rw [hl']
  exact .of_ok rfl (h'.mono fun es hes => ⟨⟨hnone, hsession⟩, hes⟩)

theorem prepare_ends (hM : M.Strict) (values : Nat → String)
    (hs : ∃ settings, ClientSettings.ofConfig l.session.config = .ok settings)
    (hp : l.session.config.programmableTables = false)
    (hconnect : ∀ p, l.session.config.connectionProblem? l.world.environment = some p →
      M.complains [] p.error)
    (h : M.Calm b (· = []) l.world) :
    M.Ends b l (prepare values) fun _ _ es =>
      l.session.config.connectionProblem? l.world.environment = none ∧
        Described l.session.config es := by
  rw [prepare]
  apply Manner.Ends.step (log_apply _ _ l) rfl
  apply Manner.Ends.step (supply_apply _ _) rfl
  generalize hl : Live.mk _ _ = l₁
  have hconfig : l₁.session.config = l.session.config := by rw [← hl]
  have he : l₁.world.environment = l.world.environment := by
    rw [← hl]
    rfl
  have hevents : l₁.world.events = l.world.events := by
    rw [← hl]
    rfl
  rw [← hconfig] at hs hp hconnect ⊢
  rw [← he] at hconnect ⊢
  have hsent (p : ConnectionProblem)
      (hp : l₁.session.config.connectionProblem? l₁.world.environment = some p) (es : List Event)
      (hes : es = []) : M.complains es p.error := by
    rw [hes]
    exact hconnect p hp
  apply Manner.Ends.bind (connect_ends hs hsent (h.aside (.of_events_eq hevents)))
  intro _ l' h'
  obtain ⟨⟨hnone, hs'⟩, h'⟩ := h'.split
  have hclient : l'.session.client = some .direct := by rw [hs']
  have hp' : l'.session.config.programmableTables = false := by
    rw [hs']
    exact hp
  have hprovision := provision_ends hM hclient hp' h'
  rw [hs'] at hprovision
  exact hprovision.mono fun _ _ es hes => ⟨hnone, hes⟩

theorem start_ends (hM : M.Strict) (values : Nat → String)
    (hs : ∃ settings, ClientSettings.ofConfig l.session.config = .ok settings)
    (hp : l.session.config.programmableTables = false)
    (hconnect : ∀ p, l.session.config.connectionProblem? l.world.environment = some p →
      M.complains [] p.error)
    (hlacks : l.session.config.connectionProblem? l.world.environment = none →
      l.session.config.lacksAccelerator l.world.environment = true →
      ∀ es, Described l.session.config es →
      M.complains es ConnectionProblem.acceleratorMissing.error)
    (h : M.Calm b (· = []) l.world) :
    M.Ends b l (start values) fun _ l' es =>
      (l.session.config.connectionProblem? l.world.environment = none ∧
        l.session.config.lacksAccelerator l.world.environment = false ∧
        l'.session.Serving l.session.config) ∧ Described l.session.config es := by
  rw [start_eq]
  have hprepare := (prepare_ends hM values hs hp hconnect h).known
    (K := fun _ l' => l'.world.environment = l.world.environment ∧
      ∃ table, l'.session = { l.session.opened with table }) fun _ l' hl' => by
    have hleads := (grows_prepare values).leads l
    rw [final_of_ok hl'] at hleads
    exact ⟨hleads.environment, (prepare_of_ok hl').2⟩
  apply Manner.Ends.bind hprepare
  intro _ l' h'
  obtain ⟨⟨he, table, hs'⟩, h'⟩ := h'.split
  obtain ⟨hnone, h'⟩ := h'.split
  have hconfig : l'.session.config = l.session.config := by rw [hs', opened]
  have hclient : l'.session.client = some .direct := by rw [hs', opened]
  have hsource : l'.session.source = true := by rw [hs', opened]
  have hcredentials : l'.session.config.credentialProblem? l'.world.environment = none := by
    rw [hconfig, he]
    exact Config.credentialProblem?_of_connectionProblem? hnone
  have haccelerate := accelerate_ends hcredentials
    (by rw [hconfig, he]; exact hlacks hnone) ⟨_, hclient⟩ h'
  apply Manner.Ends.bind haccelerate
  intro _ l₂ h₂
  obtain ⟨⟨hlacks, hclient₂, hsource₂, hconfig₂⟩, h₂⟩ := h₂.split
  rw [hconfig, he] at hlacks
  rw [hconfig] at hconfig₂
  have hserving : l₂.session.settled.Serving l.session.config :=
    ⟨hclient₂, hsource₂.trans hsource, hconfig₂, by rw [settled, hconfig₂]⟩
  exact .of_ok (settle_apply l₂) (Manner.Calm.aside (w := l₂.world)
    (h₂.mono fun es hes => ⟨⟨hnone, hlacks, hserving⟩, hes⟩) (.of_events_eq rfl))

omit [TimeScale T] in
theorem aside_release (l : Live T) : ∃ l', release l = .ok () l' ∧ l.world.Aside l'.world := by
  cases hs : l.session.store with
  | true => exact ⟨_, release_apply hs, _, rfl, isCall_of_mem_closes l.session⟩
  | false =>
    rw [release, get_bind_apply]
    simp only [hs, Bool.false_eq_true, if_false]
    cases ha : l.session.accelerator with
    | true =>
      have hclosed := (World.Aside.refl l.world).noted
        (e := .close Client.accelerated.dataTarget) rfl
      exact ⟨_, bind_of_ok (close_apply .accelerated l) _, hclosed⟩
    | false => exact ⟨_, rfl, .refl l.world⟩

/-- A session that leaves the table alone always shuts down, and makes no requests for that. -/
theorem aside_stop (hp : l.session.config.programmableTables = false) :
    ∃ l', stop l = .ok () l' ∧ l.world.Aside l'.world := by
  obtain ⟨l', hl', ha⟩ := aside_release l
  rw [stop, get_bind_apply]
  simp only [hp, Bool.and_false, Bool.false_eq_true, if_false]
  exact ⟨_, bind_of_ok hl' _, ha.logged _⟩

/-- A start keeps the configuration. -/
instance keeps_start (c : Config T) (values : Nat → String) :
    Keeps (fun s => s.config = c) (start values) :=
  .start_of values (fun _ _ _ _ _ _ h => h) fun _ h => h

end Session

namespace CommandLine.Command

variable {M : Manner Float} {config : Config Float} {payloads : Payloads} {w : World Float}

/-- The use of a session from its start on. -/
def started (config : Config Float) (payloads : Payloads) (body : SessionRun Float α) :
    SessionRun Float α :=
  match Payload.size? config.valueSize with
  | none => throw (Failure.badValue Payload.sizeComplaint)
  | some size => do
    Session.start (payloads size)
    body

instance grows_started (config : Config Float) (payloads : Payloads) (body : SessionRun Float α)
    [Grows body] : Grows (started config payloads body) := by
  unfold started
  split <;> infer_instance

instance keeps_started (config : Config Float) (payloads : Payloads) (body : SessionRun Float α)
    [Session.Keeps (fun s => s.config = config) body] :
    Session.Keeps (fun s => s.config = config) (started config payloads body) := by
  unfold started
  split <;> infer_instance

theorem withSession_apply (body : SessionRun Float α) :
    withSession config payloads body w =
      match Run.ensuring (started config payloads body) Session.stop ⟨.ofConfig config, w⟩ with
      | .ok a l => .ok a l.world
      | .error e l => .error e l.world := by
  unfold withSession started
  cases Payload.size? config.valueSize <;> rfl

theorem withSession_of_ok {body : SessionRun Float α} {a : α} {l : Live Float}
    (h : Run.ensuring (started config payloads body) Session.stop ⟨.ofConfig config, w⟩ =
      .ok a l) : withSession config payloads body w = .ok a l.world := by
  rw [withSession_apply, h]

theorem withSession_of_error {body : SessionRun Float α} {e : Failure} {l : Live Float}
    (h : Run.ensuring (started config payloads body) Session.stop ⟨.ofConfig config, w⟩ =
      .error e l) : withSession config payloads body w = .error e l.world := by
  rw [withSession_apply, h]

theorem of_withSession_ok_stop {body : SessionRun Float α} {a : α} {w' : World Float}
    (h : withSession config payloads body w = .ok a w') : ∃ values l l' l'',
      Session.start values ⟨.ofConfig config, w⟩ = .ok () l ∧ body l = .ok a l' ∧
      Session.stop l' = .ok () l'' ∧ w' = l''.world := by
  rw [withSession_apply] at h
  cases hr : Run.ensuring (started config payloads body) Session.stop ⟨.ofConfig config, w⟩ with
  | error e l =>
    rw [hr] at h
    cases h
  | ok a l =>
    rw [hr] at h
    cases h
    obtain ⟨l', hstarted, hstop⟩ := of_ensuring_ok hr
    rw [started] at hstarted
    cases hsize : Payload.size? config.valueSize with
    | none =>
      rw [hsize] at hstarted
      cases hstarted
    | some size =>
      rw [hsize] at hstarted
      obtain ⟨_, l₁, hstart, hbody⟩ := of_bind_ok hstarted
      exact ⟨_, l₁, l', l, hstart, hbody, hstop, rfl⟩

theorem of_withSession_ok {body : SessionRun Float α} {a : α} {w' : World Float}
    (h : withSession config payloads body w = .ok a w') : ∃ values l l',
    Session.start values ⟨.ofConfig config, w⟩ = .ok () l ∧ body l = .ok a l' ∧
      l'.world.Leads w' := by
  obtain ⟨values, l, l', l'', hstart, hbody, hstop, rfl⟩ := of_withSession_ok_stop h
  exact ⟨values, l, l', hstart, hbody, Grows.leads_of_ok hstop⟩

instance grows_withSession (config : Config Float) (payloads : Payloads)
    (body : SessionRun Float α) [Grows body] : Grows (withSession config payloads body) where
  leads w := by
    have h := (Grows.ensuring (started config payloads body) Session.stop).leads
      ⟨.ofConfig config, w⟩
    cases hr : Run.ensuring (started config payloads body) Session.stop ⟨.ofConfig config, w⟩ with
    | ok a l =>
      rw [final_of_ok hr] at h
      rw [final_of_ok (withSession_of_ok hr)]
      exact h
    | error e l =>
      rw [final_of_error hr] at h
      rw [final_of_error (withSession_of_error hr)]
      exact h

instance grows_withLifecycle (config : Config Float) (body : Table.Lifecycle Float → Run Float α)
    [∀ l, Grows (body l)] : Grows (withLifecycle config body) := by
  unfold withLifecycle
  infer_instance

theorem of_withLifecycle_ok {body : Table.Lifecycle Float → Run Float α} {a : α}
    {w' : World Float}
    (h : withLifecycle config body w = .ok a w') :
    ∃ w₁ w₂, w.Leads w₁ ∧
      body ⟨.direct, config.pollInterval, config.maxWait⟩ w₁ = .ok a w₂ ∧
      w' = w₂.noted (.close .store) := by
  obtain ⟨_, w₁, hopen, h⟩ := of_bind_ok h
  obtain ⟨w₂, hbody, hclose⟩ := of_ensuring_ok h
  cases hclose
  exact ⟨w₁, w₂, Grows.leads_of_ok hopen, hbody, rfl⟩

theorem withSession_ends (payloads : Payloads) {body : SessionRun Float α} [Grows body]
    [hk : Session.Keeps (fun s => s.config = config) body] {Q : α → List Event → Prop}
    (hM : M.Strict) (hv : 1 ≤ config.valueSize)
    (hs : ∃ settings, ClientSettings.ofConfig config = .ok settings)
    (hp : config.programmableTables = false)
    (hconnect : ∀ p, config.connectionProblem? w.environment = some p → M.complains [] p.error)
    (hlacks : config.connectionProblem? w.environment = none →
      config.lacksAccelerator w.environment = true → ∀ es, Session.Described config es →
      M.complains es ConnectionProblem.acceleratorMissing.error)
    (hbody : config.connectionProblem? w.environment = none →
      config.lacksAccelerator w.environment = false → ∀ l : Live Float, l.session.Serving config →
      M.Calm b (Session.Described config) l.world →
      M.Ends b l body fun a _ es => Q a es)
    (h : M.Calm b (· = []) w) :
    M.Ends b w (withSession config payloads body) fun a _ es =>
      (config.connectionProblem? w.environment = none ∧
        config.lacksAccelerator w.environment = false) ∧ Q a es := by
  have hsize : Payload.size? config.valueSize = some config.valueSize.toNat :=
    if_pos (Int.lt_of_lt_of_le Int.zero_lt_one hv)
  have hstarted : M.Ends b (⟨.ofConfig config, w⟩ : Live Float) (started config payloads body)
      fun a _ es => (config.connectionProblem? w.environment = none ∧
        config.lacksAccelerator w.environment = false) ∧ Q a es := by
    have hstart := Session.start_ends (l := ⟨.ofConfig config, w⟩) hM
      (payloads config.valueSize.toNat) hs hp hconnect hlacks h
    rw [started, hsize]
    apply Manner.Ends.bind hstart
    intro _ l h'
    obtain ⟨⟨hnone, hl, hserving⟩, h'⟩ := h'.split
    exact (hbody hnone hl l hserving h').mono fun a _ es hq => ⟨⟨hnone, hl⟩, hq⟩
  have hconfig := (keeps_started config payloads body).keeps ⟨.ofConfig config, w⟩ rfl
  have hstop := Session.aside_stop (l := final (started config payloads body)
    ⟨.ofConfig config, w⟩) (by rw [hconfig, hp])
  obtain ⟨l', hl', ha⟩ := hstop
  have hended := (hstarted.ensuring
    ⟨l', hl', ha, fun es f hb => absurd hb (hM.breaksOff _ es f)⟩).mono fun a _ es ⟨_, hq⟩ => hq
  exact hended.outside (fun _ _ => withSession_of_ok) fun _ _ => withSession_of_error

theorem withLifecycle_ends {body : Table.Lifecycle Float → Run Float α}
    [∀ l, Grows (body l)] {Q : α → List Event → Prop}
    (hs : ∃ settings, ClientSettings.ofConfig config = .ok settings)
    (hconnect : ∀ p, config.connectionProblem? w.environment = some p → M.complains [] p.error)
    (hclosed : ∀ w es f, M.breaksOff w es f → M.breaksOff (w.noted (.close .store)) es f)
    (hbody : config.connectionProblem? w.environment = none → ∀ w',
      w'.unrecorded = w.unrecorded → M.Calm b (· = []) w' →
      M.Ends b w' (body ⟨.direct, config.pollInterval, config.maxWait⟩) fun a _ es => Q a es)
    (h : M.Calm b (· = []) w) :
    M.Ends b w (withLifecycle config body) fun a _ es =>
      config.connectionProblem? w.environment = none ∧ Q a es := by
  have hsent (p : ConnectionProblem) (hp : config.connectionProblem? w.environment = some p)
      (es : List Event) (hes : es = []) : M.complains es p.error := by
    rw [hes]
    exact hconnect p hp
  unfold withLifecycle
  apply Manner.Ends.bind (openStore_ends hs hsent h)
  intro _ w' h'
  obtain ⟨⟨hnone, hw⟩, h'⟩ := h'.split
  have hclose (w : World Float) : ∃ w', Client.direct.close w = .ok () w' ∧ w.Aside w' ∧
      ∀ es f, M.breaksOff w es f → M.breaksOff w' es f :=
    ⟨w.noted (.close .store), rfl, (World.Aside.refl w).noted rfl, hclosed w⟩
  exact ((hbody hnone w' hw h').ensuring (hclose _)).mono fun a _ es ⟨_, hq⟩ => ⟨hnone, hq⟩

end CommandLine.Command

end TableBench
