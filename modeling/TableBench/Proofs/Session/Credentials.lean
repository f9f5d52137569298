import TableBench.Proofs.Session.Gate

namespace TableBench

open Run

def Environment.InCloud (e : Environment) : Prop :=
  e.values.lookup "DISCOVERY_ENV" = none ∨ e.values.lookup "DISCOVERY_ENV" = some "AWS"

namespace Config

variable {T : Type} (c : Config T) (e : Environment)

def HasCredentials : Prop := e.InCloud ∨ e.profiles.lookup c.profileName = some true

/-- What keeps a client of the service from being opened before credentials count. -/
def Hindered : Target → Prop
  | .store => given c.endpoint = true ∧ given c.region = false
  | .accelerator => e.accelerator = false

/-- The settings of a client of the service can be passed on. -/
def Passes : Target → Prop
  | .store => ∃ settings, ClientSettings.ofConfig c = .ok settings
  | .accelerator => True

/-- The store is out of reach with these settings, for want of a region or of credentials. -/
def Unconnected : Prop := c.Hindered e .store ∨ ¬ c.HasCredentials e

/-- Nothing was opened and nothing was asked: credentials were looked for at most, and that only
where a hindrance did not come first. -/
def Fruitless (es : List Event) : Prop :=
  es = [] ∨ ¬ c.Hindered e .store ∧ es = [.resolve (some c.profileName) c.region]

variable {c e}

theorem soughtProfile_of_inCloud (h : e.InCloud) : c.soughtProfile e = none := by
  rw [soughtProfile]
  obtain h | h := h <;> rw [h] <;> rfl

theorem soughtProfile_of_not_inCloud (h : ¬ e.InCloud) :
    c.soughtProfile e = some c.profileName := by
  rw [Environment.InCloud, not_or] at h
  simp only [soughtProfile, Bool.or_eq_true, beq_iff_eq, h.1, h.2, or_self, if_false]

theorem credentialProblem?_cases :
    (c.HasCredentials e ∧ c.credentialProblem? e = none) ∨
    (¬ c.HasCredentials e ∧ c.soughtProfile e = some c.profileName ∧ ∃ p text,
      c.credentialProblem? e = some p ∧ p.failure =
        .reported (.credentials text) (e.profiles.lookup c.profileName).isNone) := by
  rw [HasCredentials, credentialProblem?]
  by_cases hcloud : e.InCloud
  · rw [soughtProfile_of_inCloud hcloud]
    exact .inl ⟨.inl hcloud, rfl⟩
  rw [soughtProfile_of_not_inCloud hcloud, Option.bind_some]
  have hneither {known : Option Bool} (hk : known ≠ some true) :
      ¬ (e.InCloud ∨ known = some true) := not_or_intro hcloud hk
  cases e.profiles.lookup c.profileName with
  | none => exact .inr ⟨hneither (by decide), rfl, _, _, rfl, rfl⟩
  | some known =>
    cases known with
    | false => exact .inr ⟨hneither (by decide), rfl, _, _, rfl, rfl⟩
    | true => exact .inl ⟨.inr rfl, rfl⟩

end Config

namespace Run

variable {T : Type} {c : Config T} {w : World T}

def openClient (c : Config T) : Target → Run T Unit
  | .store => openStore c
  | .accelerator => openAccelerator c

/-- How it ends to open a client of the service. A hindrance is found before anything is looked
for; credentials are looked for once, and the client is opened last of all. -/
inductive Connecting (c : Config T) (target : Target) (w : World T) :
    EStateM.Result Failure (World T) Unit → Prop
  | hindered {text : Document} {chained : Bool} {w' : World T}
    (h : c.Hindered w.environment target) (he : w'.events = w.events) :
    Connecting c target w (.error (.reported (.invalidArgument text) chained) w')
  | lacking {text : Document} {w' : World T} (h : ¬ c.Hindered w.environment target)
    (hc : ¬ c.HasCredentials w.environment)
    (he : w'.events = w.events ++ [.resolve (some c.profileName) c.region]) :
    Connecting c target w (.error (.reported (.credentials text)
      (w.environment.profiles.lookup c.profileName).isNone) w')
  | unpassed {text : String} {w' : World T} (h : ¬ c.Hindered w.environment target)
    (hc : c.HasCredentials w.environment) (hp : ¬ c.Passes target)
    (he : w'.events = w.events ++ [.resolve (c.soughtProfile w.environment) c.region]) :
    Connecting c target w (.error (.overflow text) w')
  | opened {opening : Event} {w' : World T} (h : ¬ c.Hindered w.environment target)
    (hc : c.HasCredentials w.environment) (hp : c.Passes target)
    (ho : opening.opened? = some target)
    (he : w'.events =
      w.events ++ [.resolve (c.soughtProfile w.environment) c.region, opening]) :
    Connecting c target w (.ok () w')

theorem resolveCredentials_cases (c : Config T) (w : World T) :
    (c.HasCredentials w.environment ∧ resolveCredentials c w = .ok () (sought c w)) ∨
    (¬ c.HasCredentials w.environment ∧
      (sought c w).events = w.events ++ [.resolve (some c.profileName) c.region] ∧ ∃ text,
      resolveCredentials c w = .error (.reported (.credentials text)
        (w.environment.profiles.lookup c.profileName).isNone) (sought c w)) := by
  have hc := resolveCredentials_apply c w
  obtain ⟨hcredentials, hp⟩ | ⟨hcredentials, hprofile, p, text, hp, hf⟩ :=
    Config.credentialProblem?_cases (c := c) (e := w.environment)
  · rw [hp] at hc
    exact .inl ⟨hcredentials, hc⟩
  · rw [hp] at hc
    simp only [hf] at hc
    refine .inr ⟨hcredentials, ?_, text, hc⟩
    rw [sought, World.noted_events, hprofile]
    rfl

theorem openStore_connecting (c : Config T) (w : World T) :
    Connecting c .store w (openStore c w) := by
  rw [openStore]
  by_cases hr : given c.endpoint = true ∧ given c.region = false
  · have hregion : (given c.endpoint && !given c.region) = true := by rw [hr.1, hr.2]; rfl
    rw [hregion]
    exact .hindered hr rfl
  have hregion : (given c.endpoint && !given c.region) = false := by
    rwa [Bool.eq_false_iff, ne_eq, Bool.and_eq_true, Bool.not_eq_true']
  simp only [hregion, Bool.false_eq_true, if_false]
  obtain ⟨hc, hw⟩ | ⟨hc, he, text, hw⟩ := resolveCredentials_cases c w
  · rw [bind_of_ok hw, bind_of_ok (log_apply _ _ _ _)]
    cases hs : ClientSettings.ofConfig c with
    | error f =>
      obtain ⟨text, rfl⟩ := ClientSettings.overflow_of_error hs
      have hp : ¬ c.Passes .store := by
        rintro ⟨settings, h⟩
        cases hs.symm.trans h
      exact .unpassed hr hc hp rfl
    | ok settings => exact .opened hr hc ⟨settings, hs⟩ rfl (List.append_assoc _ _ _)
  · rw [bind_of_error hw]
    exact .lacking hr hc he

theorem openAccelerator_connecting (c : Config T) (w : World T) :
    Connecting c .accelerator w (openAccelerator c w) := by
  rw [openAccelerator, get_bind_apply]
  cases ha : w.environment.accelerator with
  | false => exact .hindered ha rfl
  | true =>
    have hr : ¬ c.Hindered w.environment .accelerator := by
      rw [Config.Hindered, ha]
      decide
    simp only [Bool.not_true, Bool.false_eq_true, if_false]
    obtain ⟨hc, hw⟩ | ⟨hc, he, text, hw⟩ := resolveCredentials_cases c w
    · rw [bind_of_ok hw]
      exact .opened hr hc trivial rfl (List.append_assoc _ _ _)
    · rw [bind_of_error hw]
      exact .lacking hr hc he

theorem openClient_connecting (c : Config T) (target : Target) (w : World T) :
    Connecting c target w (openClient c target w) :=
  match target with
  | .store => openStore_connecting c w
  | .accelerator => openAccelerator_connecting c w

/-- A client is opened exactly where nothing is in its way. -/
theorem openClient_opens_iff (c : Config T) (target : Target) (w : World T) :
    w.Since (final (openClient c target) w) fun es => (∃ e ∈ es, e.opened? = some target) ↔
      ¬ c.Hindered w.environment target ∧ c.HasCredentials w.environment ∧ c.Passes target := by
  have hnothing : ¬ ∃ e ∈ ([] : List Event), e.opened? = some target := by
    rintro ⟨e, he, -⟩
    cases he
  have hsearch {profile region : Option String} :
      ¬ ∃ e ∈ [Event.resolve profile region], e.opened? = some target := by
    rintro ⟨e, he, ho⟩
    rw [List.mem_singleton.1 he] at ho
    cases ho
  have hconnecting := openClient_connecting c target w
  rw [final]
  generalize openClient c target w = r at hconnecting
  cases hconnecting with
  | hindered h he =>
    exact ⟨[], by rw [List.append_nil, he], iff_of_false hnothing fun hopen => hopen.1 h⟩
  | lacking _ hc he => exact ⟨_, he, iff_of_false hsearch fun hopen => hc hopen.2.1⟩
  | unpassed _ _ hp he => exact ⟨_, he, iff_of_false hsearch fun hopen => hp hopen.2.2⟩
  | opened h hc hp ho he =>
    exact ⟨_, he, iff_of_true ⟨_, List.mem_cons_of_mem _ List.mem_cons_self, ho⟩ ⟨h, hc, hp⟩⟩

theorem openClient_of_inCloud (h : w.environment.InCloud) (profile : Option String)
    (target : Target) : openClient { c with profile } target w = openClient c target w := by
  have hresolve (c : Config T) : resolveCredentials c w = .ok () (sought c w) := by
    have hc := resolveCredentials_apply c w
    rwa [Config.credentialProblem?, Config.soughtProfile_of_inCloud h] at hc
  have hsought : sought { c with profile } w = sought c w := by
    simp only [sought, Config.soughtProfile_of_inCloud h]
  have hprofile : resolveCredentials { c with profile } w = resolveCredentials c w := by
    rw [hresolve, hresolve, hsought]
  cases target with
  | store =>
    simp only [openClient, openStore]
    cases given c.endpoint && !given c.region with
    | true => rfl
    | false =>
      simp only [Bool.false_eq_true, if_false]
      rw [bind_of_ok (hprofile.trans (hresolve c)), bind_of_ok (hresolve c)]
      rfl
  | accelerator =>
    simp only [openClient, openAccelerator]
    rw [get_bind_apply, get_bind_apply]
    cases w.environment.accelerator with
    | false => rfl
    | true =>
      simp only [Bool.not_true, Bool.false_eq_true, if_false]
      rw [bind_of_ok (hprofile.trans (hresolve c)), bind_of_ok (hresolve c)]

namespace Connecting

variable {target : Target} {r : EStateM.Result Failure (World T) Unit} {w₁ : World T}

theorem congr (h : Connecting c target w₁ r) (henv : w₁.environment = w.environment)
    (hes : w₁.events = w.events) : Connecting c target w r := by
  cases h with
  | hindered h he => exact .hindered (henv ▸ h) (he.trans hes)
  | lacking h hc he =>
    rw [henv] at h hc ⊢
    exact .lacking h hc (hes ▸ he)
  | unpassed h hc hp he =>
    rw [henv] at h hc he
    exact .unpassed h hc hp (hes ▸ he)
  | opened h hc hp ho he =>
    rw [henv] at h hc he
    exact .opened h hc hp ho (hes ▸ he)

/-- Where the store is out of reach, nothing comes of it but a reported error. -/
theorem refused (h : Connecting c .store w r) (hu : c.Unconnected w.environment) :
    ∃ error chained w', r = .error (.reported error chained) w' ∧ error.code? = none ∧
      w.Since w' (c.Fruitless w.environment) := by
  cases h with
  | hindered h he => exact ⟨_, _, _, rfl, rfl, [], by rw [List.append_nil, he], .inl rfl⟩
  | lacking h hc he => exact ⟨_, _, _, rfl, rfl, _, he, .inr ⟨h, rfl⟩⟩
  | unpassed h hc hp he => exact absurd hu (not_or_intro h (not_not_intro hc))
  | opened h hc hp ho he => exact absurd hu (not_or_intro h (not_not_intro hc))

end Connecting

end Run

namespace Session

variable {T : Type} [TimeScale T]

theorem start_unconnected (values : Nat → String) {l : Live T}
    (h : l.session.config.Unconnected l.world.environment) : ∃ error chained w',
      start values l = .error (.reported error chained) ⟨{ l.session with source := true }, w'⟩ ∧
      Connecting l.session.config .store l.world (.error (.reported error chained) w') := by
  rw [start, bind_of_ok (log_apply _ _ l), bind_of_ok (supply_apply _ _)]
  generalize hl : Live.mk _ _ = l₁
  have hs : l₁.session = { l.session with source := true } := by rw [← hl]
  have henv : l₁.world.environment = l.world.environment := by rw [← hl]; rfl
  have hes : l₁.world.events = l.world.events := by rw [← hl]; rfl
  have hconnecting := (openStore_connecting l₁.session.config l₁.world).congr henv hes
  rw [hs] at hconnecting
  obtain ⟨error, chained, w', hw, -, -⟩ := hconnecting.refused h
  have hconnect : connect l₁ = .error (.reported error chained) ⟨l₁.session, w'⟩ := by
    rw [connect, get_bind_apply]
    rw [← hs] at hw
    exact bind_of_error (lift_of_error hw) _
  refine ⟨error, chained, w', ?_, hw ▸ hconnecting⟩
  rw [bind_of_error hconnect, hs]

theorem observe_unconnected (use : Use) (script : List (Outcome T)) {l : Live T}
    (hg : Gated false l.session) (h : l.session.config.Unconnected l.world.environment) :
    l.session.config.Fruitless l.world.environment (observe script use.run l).1.events ∧
      Gated false (observe script use.run l).2.session ∧
      (observe script use.run l).2.session.config = l.session.config ∧
      (observe script use.run l).2.world.environment = l.world.environment := by
  cases use with
  | start values =>
    obtain ⟨error, chained, w', hstart, hconnecting⟩ :=
      start_unconnected values (l := ⟨l.session, l.world.awaiting script⟩) h
    obtain ⟨_, _, _, hr, -, hsince⟩ := hconnecting.refused h
    cases hr
    obtain ⟨es, hes, hfruitless⟩ := hsince
    have henv : w'.environment = l.world.environment := by
      have hleads := (inferInstance : Grows (start values : SessionRun T Unit)).leads
        ⟨l.session, l.world.awaiting script⟩
      rw [final_of_error hstart] at hleads
      exact hleads.environment
    rw [show observe script (Use.start values).run l = _ from observe_of_error hstart]
    refine ⟨?_, ⟨hg.client, nofun, hg.handles⟩, rfl, henv⟩
    rw [Seen.ofWorld, hes]
    exact hfruitless
  | call request =>
    obtain ⟨-, hrefuses⟩ := hg.refuses (l.world.awaiting script)
    have hcall : (Use.call request).run ⟨l.session, l.world.awaiting script⟩ = _ :=
      bind_of_error (hrefuses request) _
    rw [observe_of_error hcall]
    exact ⟨.inl rfl, hg, rfl, rfl⟩
  | stop =>
    obtain ⟨hstop, -⟩ := hg.refuses (l.world.awaiting script)
    rw [show observe script Use.stop.run l = _ from observe_of_ok hstop]
    exact ⟨.inl rfl, hg, rfl, rfl⟩

/-- However a session without clients is used, it opens none and sends no request as long as the
store is out of reach. -/
theorem useAll_unconnected (uses : List (Use × List (Outcome T))) {l : Live T}
    (hg : Gated false l.session) (h : l.session.config.Unconnected l.world.environment) :
    ∀ u ∈ (useAll uses l).1,
      l.session.config.Fruitless l.world.environment u.seen.events := by
  induction uses generalizing l with
  | nil => exact List.forall_mem_nil _
  | cons step uses ih =>
    obtain ⟨use, script⟩ := step
    obtain ⟨hfruitless, hg', hconfig, henv⟩ := observe_unconnected use script hg h
    rw [useAll, List.forall_mem_cons]
    refine ⟨hfruitless, ?_⟩
    rw [← hconfig, ← henv] at h ⊢
    exact ih hg' h

end Session

end TableBench
