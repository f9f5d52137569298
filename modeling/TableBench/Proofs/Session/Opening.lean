import TableBench.Proofs.Run.Emission
import TableBench.Proofs.Session.Start

namespace TableBench

open Run

namespace Event

def opened? : Event → Option Target
  | openStore .. => some .store
  | openAccelerator .. => some .accelerator
  | _ => none

def closed? : Event → Option Target
  | close target => some target
  | _ => none

theorem closed?_of_opened? {e : Event} {t : Target} (h : e.opened? = some t) :
    e.closed? = none := by
  cases e with
  | close => cases h
  | _ => rfl

def Idle (e : Event) : Prop := e.opened? = none ∧ e.closed? = none

def IsSearch (e : Event) : Prop := ∃ profile region, e = .resolve profile region

theorem IsSearch.aside {e : Event} (h : e.IsSearch) : e.isCall = false := by
  obtain ⟨profile, region, rfl⟩ := h
  rfl

theorem isCall_of_opened? {e : Event} {t : Target} (h : e.opened? = some t) :
    e.isCall = false := by
  cases e with
  | call => cases h
  | _ => rfl

theorem IsSearch.idle {e : Event} (h : e.IsSearch) : e.Idle := by
  obtain ⟨profile, region, rfl⟩ := h
  exact ⟨rfl, rfl⟩

end Event

def Opens (target : Target) (es : List Event) : Prop :=
  ∃ searches e, es = searches ++ [e] ∧ e.opened? = some target ∧ ∀ e ∈ searches, e.IsSearch

theorem Opens.aside {target : Target} {es : List Event} (h : Opens target es) :
    ∀ e ∈ es, e.isCall = false := by
  obtain ⟨searches, opening, rfl, ho, hsearches⟩ := h
  rw [List.forall_mem_append, List.forall_mem_singleton]
  exact ⟨fun e he => (hsearches e he).aside, Event.isCall_of_opened? ho⟩

theorem any_opened_of_idle {es : List Event} (h : ∀ e ∈ es, e.Idle) (t : Target) :
    es.any (·.opened? == some t) = false := by
  rw [List.any_eq_false]
  intro e he
  rw [(h e he).1]
  exact Bool.false_ne_true

theorem Opens.any_opened {target : Target} {es : List Event} (h : Opens target es) (t : Target) :
    es.any (·.opened? == some t) = (target == t) := by
  obtain ⟨searches, e, rfl, he, hsearches⟩ := h
  have hidle := any_opened_of_idle (fun e he => (hsearches e he).idle) t
  rw [List.any_append, hidle, List.any_cons, List.any_nil, he]
  exact Bool.or_false _

namespace Run

variable {T : Type} (config : Config T) (w : World T)

theorem sought_adds : w.Adds Event.IsSearch (sought config w) := .one ⟨_, _, rfl⟩ rfl

variable {w} in
theorem opens_noted {w₁ : World T} {e : Event} {target : Target}
    (h : w.Adds Event.IsSearch w₁) (he : e.opened? = some target) :
    w.Since (w₁.noted e) (Opens target) := by
  obtain ⟨es, hes, hsearch⟩ := h
  refine ⟨es ++ [e], ?_, es, e, rfl, he, hsearch⟩
  rw [World.noted_events, hes, List.append_assoc]

theorem openStore_since :
    (∃ f w', openStore config w = .error f w' ∧ w.Adds Event.IsSearch w') ∨
    ∃ w', openStore config w = .ok () w' ∧ w.Since w' (Opens .store) := by
  rw [openStore]
  cases given config.endpoint && !given config.region with
  | true => exact .inl ⟨_, w, rfl, .refl w⟩
  | false =>
    have hc := resolveCredentials_apply config w
    have hs := sought_adds config w
    simp only [Bool.false_eq_true, if_false]
    cases hp : config.credentialProblem? w.environment with
    | some p =>
      rw [hp] at hc
      exact .inl ⟨_, _, bind_of_error hc _, hs⟩
    | none =>
      rw [hp] at hc
      rw [bind_of_ok hc, bind_of_ok (log_apply _ _ _ _)]
      cases ClientSettings.ofConfig config with
      | error f => exact .inl ⟨f, _, rfl, hs⟩
      | ok settings => exact .inr ⟨_, note_apply _ _, opens_noted hs rfl⟩

theorem openAccelerator_since :
    (∃ f w', openAccelerator config w = .error f w' ∧ w.Adds Event.IsSearch w') ∨
    ∃ w', openAccelerator config w = .ok () w' ∧ w.Since w' (Opens .accelerator) := by
  rw [openAccelerator, get_bind_apply]
  split
  · exact .inl ⟨_, w, rfl, .refl w⟩
  · have hc := resolveCredentials_apply config w
    have hs := sought_adds config w
    cases hp : config.credentialProblem? w.environment with
    | some p =>
      rw [hp] at hc
      exact .inl ⟨_, _, bind_of_error hc _, hs⟩
    | none =>
      rw [hp] at hc
      exact .inr ⟨_, bind_of_ok hc _, opens_noted hs rfl⟩

end Run

namespace Session

variable {T : Type}

/-- The session serves data requests through the client, and holds the client of the store and
perhaps the accelerator's. -/
structure Holding (c : Client) (accelerator : Bool) (s : Session T) : Prop where
  client : s.client = some c
  store : s.store = true
  accelerator : s.accelerator = accelerator
  source : s.source = true

/-- The events of a start and what became of the session: nothing was opened, or the client of the
store was, and last of all perhaps the accelerator's. The events in between are as `q` says. -/
inductive Opening (q : Event → Prop) (s s' : Session T) : List Event → Prop
  | nothing {es : List Event} (hs : s' = { s with source := true }) (h : ∀ e ∈ es, e.IsSearch) :
    Opening q s s' es
  | store {es₁ es₂ es₃ : List Event} (hs : s'.Holding .direct s.accelerator)
    (h₁ : Opens .store es₁) (h₂ : ∀ e ∈ es₂, q e) (h₃ : ∀ e ∈ es₃, e.IsSearch) :
    Opening q s s' (es₁ ++ (es₂ ++ es₃))
  | accelerator {es₁ es₂ es₃ : List Event} (hs : s'.Holding .accelerated true)
    (h₁ : Opens .store es₁) (h₂ : ∀ e ∈ es₂, q e) (h₃ : Opens .accelerator es₃) :
    Opening q s s' (es₁ ++ (es₂ ++ es₃))

theorem connect_since (l : Live T) :
    (∃ f w, connect l = .error f ⟨l.session, w⟩ ∧ l.world.Adds Event.IsSearch w) ∨
    ∃ w, connect l = .ok () ⟨{ l.session with store := true, client := some .direct }, w⟩ ∧
      l.world.Since w (Opens .store) := by
  rw [connect, get_bind_apply]
  obtain ⟨f, w, hw, ha⟩ | ⟨w, hw, ha⟩ := openStore_since l.session.config l.world
  · exact .inl ⟨f, w, bind_of_error (lift_of_error hw) _, ha⟩
  · exact .inr ⟨w, bind_of_ok (lift_of_ok hw) _, ha⟩

theorem accelerate_since (l : Live T) :
    (∃ f w, accelerate l = .error f ⟨l.session, w⟩ ∧ l.world.Adds Event.IsSearch w) ∨
    accelerate l = .ok () l ∨
    ∃ w, accelerate l =
        .ok () ⟨{ l.session with accelerator := true, client := some .accelerated }, w⟩ ∧
      l.world.Since w (Opens .accelerator) := by
  rw [accelerate, get_bind_apply]
  split
  · rw [bind_of_ok (log_apply _ _ l)]
    generalize hl : l.world.logged _ = w₁
    have he : w₁.events = l.world.events := by rw [← hl, World.logged_events]
    obtain ⟨f, w, hw, es, hes, h⟩ | ⟨w, hw, es, hes, h⟩ :=
      openAccelerator_since l.session.config w₁
    · rw [he] at hes
      exact .inl ⟨f, w, bind_of_error (lift_of_error (l := ⟨l.session, w₁⟩) hw) _, es, hes, h⟩
    · rw [he] at hes
      exact .inr (.inr ⟨w, bind_of_ok (lift_of_ok (l := ⟨l.session, w₁⟩) hw) _, es, hes, h⟩)
  · exact .inr (.inl rfl)

variable [TimeScale T] {q : Event → Prop}

/-- Every start is an opening, wherever it broke off. -/
theorem start_opening (values : Nat → String) (l : Live T)
    (hq : ∀ l₁ : Live T, l₁.session.config = l.session.config →
      l₁.world.Adds q (final provision l₁).world) :
    l.world.Since (final (start values) l).world
      (Opening q l.session (final (start values) l).session) := by
  rw [start_eq, prepare]
  simp only [bind_assoc]
  rw [final_bind_of_ok (log_apply _ _ l), final_bind_of_ok (supply_apply _ _)]
  generalize hl : Live.mk _ _ = l₁
  obtain ⟨hs, he⟩ : l₁.session = { l.session with source := true } ∧
      l₁.world.events = l.world.events := by
    rw [← hl]
    exact ⟨rfl, rfl⟩
  obtain ⟨f, w, hw, es, hes, hsearch⟩ | ⟨w, hw, es₁, hes₁, hopen⟩ := connect_since l₁
  · rw [final_of_error (bind_of_error hw _)]
    exact ⟨es, by rw [hes, he], .nothing hs hsearch⟩
  -- from here on the session holds the client of the store, wherever the start breaks off
  rw [final_bind_of_ok hw]
  generalize hl₂ : Live.mk _ w = l₂
  have hs₂ : l₂.session = l.session.opened := by
    rw [← hl₂, opened, hs]
  have he₂ : l₂.world.events = l.world.events ++ es₁ := by
    rw [← hl₂, ← he]
    exact hes₁
  obtain ⟨es₂, hes₂, hq₂⟩ := hq l₂ (by rw [hs₂, opened])
  obtain ⟨table, htable⟩ := final_provision_session l₂
  rw [he₂, List.append_assoc] at hes₂
  have hholding (s : Session T) (hs : s = { l₂.session with table }) :
      s.Holding .direct l.session.accelerator := by
    rw [hs, hs₂]
    exact ⟨rfl, rfl, rfl, rfl⟩
  cases hp : provision l₂ with
  | error f l₃ =>
    rw [final_of_error hp] at htable hes₂
    rw [final_of_error (bind_of_error hp _)]
    refine ⟨es₁ ++ (es₂ ++ []), ?_, .store (hholding _ htable) hopen hq₂ (List.forall_mem_nil _)⟩
    rw [List.append_nil, hes₂]
  | ok a l₃ =>
    rw [final_of_ok hp] at htable hes₂
    rw [final_bind_of_ok hp]
    have hholding₃ := hholding _ htable
    obtain ⟨f, w, hw, es₃, hes₃, hsearch⟩ | hw | ⟨w, hw, es₃, hes₃, hopen₃⟩ := accelerate_since l₃
    · rw [final_of_error (bind_of_error hw _)]
      refine ⟨es₁ ++ (es₂ ++ es₃), ?_, .store hholding₃ hopen hq₂ hsearch⟩
      rw [hes₃, hes₂, List.append_assoc, List.append_assoc]
    · rw [final_bind_of_ok hw, final_of_ok (settle_apply _)]
      refine ⟨es₁ ++ (es₂ ++ []), ?_, .store ⟨hholding₃.client, hholding₃.store,
        hholding₃.accelerator, hholding₃.source⟩ hopen hq₂ (List.forall_mem_nil _)⟩
      rw [World.logged_events, List.append_nil, hes₂]
    · rw [final_bind_of_ok hw, final_of_ok (settle_apply _)]
      refine ⟨es₁ ++ (es₂ ++ es₃), ?_,
        .accelerator ⟨rfl, hholding₃.store, rfl, hholding₃.source⟩ hopen hq₂ hopen₃⟩
      rw [World.logged_events, hes₃, hes₂, List.append_assoc, List.append_assoc]

end Session

end TableBench
