import TableBench.Connection
import TableBench.Proofs.Service
import TableBench.Proofs.Run.Growth

namespace TableBench

open Service

theorem ClientSettings.overflow_of_error {T : Type} {c : Config T} {f : Failure}
    (h : ofConfig c = .error f) : ∃ text, f = .overflow text := by
  unfold ofConfig at h
  generalize Number.ofInt? c.requestTimeout = n at h
  cases n with
  | none => exact ⟨_, (Except.error.inj h).symm⟩
  | some ms => exact absurd h nofun

/-- The configuration and the surroundings allow for every connection that is asked for. -/
structure Config.Connects {T : Type} (config : Config T) (environment : Environment) : Prop where
  region : given config.endpoint = true → given config.region = true
  credentials : environment.values.lookup "DISCOVERY_ENV" = none ∨
    environment.values.lookup "DISCOVERY_ENV" = some "AWS" ∨
    environment.profiles.lookup config.profileName = some true
  settings : ∃ settings, ClientSettings.ofConfig config = .ok settings
  accelerator : given config.acceleratorEndpoint = true → environment.accelerator = true

namespace Run

variable {T μ : Type} {S : Service μ} {m : μ} {w : World T} {config : Config T}

theorem resolveCredentials_ensures (h : config.Connects w.environment) :
    S.Ensures m w (resolveCredentials config) (fun _ w' m' => m' = m ∧ w'.asked = w.asked)
      (fun _ _ _ => False) := by
  rw [resolveCredentials]
  apply Ensures.step (lookupVariable_apply _ w) rfl
  apply Ensures.step (log_apply _ _ _ _) rfl
  split
  · exact .note rfl ⟨rfl, World.asked_noted _ rfl⟩
  · next hd =>
    -- outside the cloud a profile is all that is left to connect by
    have hprofile := (h.credentials.resolve_left fun h => hd (by rw [h]; rfl)).resolve_left
      fun h => hd (by rw [h]; rfl)
    refine Ensures.seq (fun _ => .seq fun _ => ?_) (.note rfl ?_)
    · split <;> infer_instance
    apply Ensures.get
    simp only [World.noted_environment, World.logged_environment, hprofile]
    exact .pure ⟨rfl, World.asked_noted _ rfl⟩

theorem openStore_ensures (h : config.Connects w.environment) :
    S.Ensures m w (openStore config) (fun _ w' m' => m' = m ∧ w'.asked = w.asked)
      (fun _ _ _ => False) := by
  have hregion : (given config.endpoint && !given config.region) = false := by
    cases he : given config.endpoint with
    | true => rw [h.region he]; rfl
    | false => rfl
  obtain ⟨settings, hsettings⟩ := h.settings
  rw [openStore]
  simp only [hregion, Bool.false_eq_true, if_false, hsettings, ofExcept_ok, pure_bind]
  apply Ensures.bind
  refine (resolveCredentials_ensures h).mono ?_ fun _ _ _ => False.elim
  intro _ w₁ _ h
  obtain ⟨rfl, hasked⟩ := h
  apply Ensures.step (log_apply _ _ _ _) rfl
  refine .note rfl ⟨rfl, ?_⟩
  rw [World.asked_noted _ rfl, World.asked_logged, hasked]

theorem openAccelerator_ensures (h : config.Connects w.environment)
    (hg : given config.acceleratorEndpoint = true) :
    S.Ensures m w (openAccelerator config) (fun _ w' m' => m' = m ∧ w'.asked = w.asked)
      (fun _ _ _ => False) := by
  rw [openAccelerator]
  apply Ensures.get
  simp only [h.accelerator hg, Bool.not_true, Bool.false_eq_true, if_false]
  apply Ensures.bind
  refine (resolveCredentials_ensures h).mono ?_ fun _ _ _ => False.elim
  intro _ w₁ _ h
  obtain ⟨rfl, hasked⟩ := h
  refine .note rfl ⟨rfl, ?_⟩
  rw [World.asked_noted _ rfl, hasked]

end Run

namespace Config

variable {T : Type} (c : Config T) (e : Environment)

/-- The profile that credentials are looked for in; in the cloud there is none. -/
def soughtProfile : Option String :=
  let discovery := e.values.lookup "DISCOVERY_ENV"
  if discovery == none || discovery == some "AWS" then none else some c.profileName

def credentialProblem? : Option ConnectionProblem :=
  (c.soughtProfile e).bind fun profile =>
    match e.profiles.lookup profile with
    | none => some (.unknownProfile profile)
    | some false => some .noCredentials
    | some true => none

def storeFailure? : Option Failure :=
  if given c.endpoint && !given c.region then some ConnectionProblem.regionMissing.failure
  else
    match c.credentialProblem? e with
    | some p => some p.failure
    | none =>
      match ClientSettings.ofConfig c with
      | .error f => some f
      | .ok _ => none

variable {c e}

theorem credentialProblem?_of_storeFailure? (h : c.storeFailure? e = none) :
    c.credentialProblem? e = none := by
  rw [storeFailure?] at h
  split at h
  · cases h
  · cases hp : c.credentialProblem? e with
    | none => rfl
    | some p =>
      rw [hp] at h
      cases h

end Config

/-- More events, none of them a request. -/
def World.Aside {T : Type} (w w' : World T) : Prop :=
  ∃ es, w'.events = w.events ++ es ∧ ∀ e ∈ es, e.isCall = false

namespace World.Aside

variable {T : Type} {w w' : World T}

theorem of_events_eq (h : w'.events = w.events) : w.Aside w' :=
  ⟨[], by rw [h, List.append_nil], List.forall_mem_nil _⟩

theorem refl (w : World T) : w.Aside w := of_events_eq rfl

theorem logged (h : w.Aside w') (rs : List LogRecord) : w.Aside (w'.logged rs) := h

theorem noted (h : w.Aside w') {e : Event} (he : e.isCall = false) : w.Aside (w'.noted e) := by
  obtain ⟨es, hes, hall⟩ := h
  refine ⟨es ++ [e], by rw [noted_events, hes, List.append_assoc], ?_⟩
  rw [List.forall_mem_append]
  exact ⟨hall, List.forall_mem_singleton.2 he⟩

end World.Aside

namespace Run

variable {T : Type} (config : Config T) (w : World T)

def sought : World T :=
  (w.logged [⟨.info, .connection, "Discovery environment: " ++
    (Document.ofText? (w.environment.values.lookup "DISCOVERY_ENV")).shown⟩]).noted
    (.resolve (config.soughtProfile w.environment) config.region)

theorem resolveCredentials_apply :
    resolveCredentials config w =
      match config.credentialProblem? w.environment with
      | some p => .error p.failure (sought config w)
      | none => .ok () (sought config w) := by
  rw [resolveCredentials, bind_of_ok (lookupVariable_apply _ w), bind_of_ok (log_apply _ _ _ w)]
  simp only [Config.credentialProblem?, sought, Config.soughtProfile]
  split
  · rfl
  · rw [bind_of_ok (note_apply _ _), get_bind_apply]
    simp only [World.noted_environment, World.logged_environment, Option.bind_some]
    cases w.environment.profiles.lookup config.profileName with
    | none => rfl
    | some known => cases known <;> rfl

theorem aside_sought : w.Aside (sought config w) := ((World.Aside.refl w).logged _).noted rfl

/-- The client of the store is opened unless there is a reason not to. -/
theorem openStore_cases :
    (∃ f w', config.storeFailure? w.environment = some f ∧
      openStore config w = .error f w' ∧ w.Aside w') ∨
    (config.storeFailure? w.environment = none ∧
      ∃ w', openStore config w = .ok () w' ∧ w.Aside w') := by
  rw [openStore, Config.storeFailure?]
  cases hr : given config.endpoint && !given config.region with
  | true => exact .inl ⟨_, w, rfl, rfl, .refl w⟩
  | false =>
    have hc := resolveCredentials_apply config w
    simp only [Bool.false_eq_true, if_false]
    cases hp : config.credentialProblem? w.environment with
    | some p =>
      rw [hp] at hc
      exact .inl ⟨_, _, rfl, bind_of_error hc _, aside_sought config w⟩
    | none =>
      rw [hp] at hc
      rw [bind_of_ok hc, bind_of_ok (log_apply _ _ _ _)]
      cases ClientSettings.ofConfig config with
      | error f => exact .inl ⟨f, _, rfl, rfl, (aside_sought config w).logged _⟩
      | ok settings => exact .inr ⟨rfl, _, rfl, ((aside_sought config w).logged _).noted rfl⟩

theorem openAccelerator_apply (ha : w.environment.accelerator = true)
    (hp : config.credentialProblem? w.environment = none) :
    openAccelerator config w = .ok () ((sought config w).noted
      (.openAccelerator config.region config.acceleratorEndpoint)) := by
  have hc := resolveCredentials_apply config w
  rw [hp] at hc
  rw [openAccelerator, get_bind_apply, ha]
  exact bind_of_ok hc _

end Run

end TableBench
