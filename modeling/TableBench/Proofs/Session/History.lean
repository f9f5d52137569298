import TableBench.Proofs.Session.Course
import TableBench.Proofs.Session.Emission
import TableBench.Proofs.Session.FailedStart
import TableBench.Proofs.Session.Opening

namespace TableBench

open Run

namespace Session

inductive Use where
  | start (values : Nat → String)
  | call (request : DataCall)
  | stop

/-- A use that was made of a session: what the session was before, and what was seen. -/
structure Used (T : Type) where
  before : Session T
  use : Use
  seen : Seen T Unit

def Used.opens {T : Type} (u : Used T) (t : Target) : Bool :=
  u.seen.events.any (·.opened? == some t)

variable {T α : Type}

theorem observe_eq_final (script : List (Outcome T)) (x : SessionRun T α) (l : Live T) :
    (observe script x l).2 = final x ⟨l.session, l.world.awaiting script⟩ ∧
      (observe script x l).1.events =
        (final x ⟨l.session, l.world.awaiting script⟩).world.events := by
  rw [observe]
  cases hr : x ⟨l.session, l.world.awaiting script⟩ with
  | ok a l' => rw [final_of_ok hr]; exact ⟨rfl, rfl⟩
  | error e l' => rw [final_of_error hr]; exact ⟨rfl, rfl⟩

theorem since_observe {script : List (Outcome T)} {x : SessionRun T α} {l : Live T}
    {Q : List Event → Prop}
    (h : (l.world.awaiting script).Since (final x ⟨l.session, l.world.awaiting script⟩).world Q) :
    Q (observe script x l).1.events := by
  obtain ⟨es, hes, hq⟩ := h
  rw [(observe_eq_final script x l).2, hes]
  exact hq

variable [TimeScale T]

def Use.run : Use → SessionRun T Unit
  | start values => Session.start values
  | call request => do
    let _ ← request.run
  | stop => Session.stop

/-- Uses made one after the other, whatever comes of them, each with its own answers. -/
def useAll : List (Use × List (Outcome T)) → Live T → List (Used T) × Live T
  | [], l => ([], l)
  | (use, script) :: uses, l =>
    let (seen, l') := observe script use.run l
    let (rest, l'') := useAll uses l'
    (⟨l.session, use, seen⟩ :: rest, l'')

inductive Does (s s' : Session T) (seen : Seen T Unit) : Use → Prop
  | start {values : Nat → String} (h : Opening Event.ToStore s s' seen.events) :
    Does s s' seen (.start values)
  | call {request : DataCall} (hs : s' = s)
    (h : ∀ e ∈ seen.events, ∃ c, s.client = some c ∧ e.Through c) : Does s s' seen (.call request)
  | stop {requests : List Event} (hr : seen.reply = .ok ()) (hs : s' = s.released)
    (he : seen.events = requests ++ s.closing) (h : ∀ e ∈ requests, e.ToStore) :
    Does s s' seen .stop
  | brokenStop {f : Failure} (hr : seen.reply = .error f) (hs : s' = s)
    (hc : s.client.isSome = true) (h : ∀ e ∈ seen.events, e.ToStore) : Does s s' seen .stop

omit [TimeScale T] in
theorem Opening.holds {s s' : Session T} {es : List Event}
    (h : Opening Event.ToStore s s' es) (t : Target) :
    s'.holds t = (s.holds t || es.any (·.opened? == some t)) := by
  cases h with
  | nothing hs h =>
    rw [hs, any_opened_of_idle fun e he => (h e he).idle, Bool.or_false]
    cases t <;> rfl
  | store hs h₁ h₂ h₃ =>
    rw [List.any_append, List.any_append, h₁.any_opened,
      any_opened_of_idle fun e he => (h₂ e he).idle, any_opened_of_idle fun e he => (h₃ e he).idle]
    cases t with
    | store => exact hs.store.trans (Bool.or_true _).symm
    | accelerator => exact hs.accelerator.trans (Bool.or_false _).symm
  | accelerator hs h₁ h₂ h₃ =>
    rw [List.any_append, List.any_append, h₁.any_opened,
      any_opened_of_idle fun e he => (h₂ e he).idle, h₃.any_opened]
    cases t with
    | store => exact hs.store.trans (Bool.or_true _).symm
    | accelerator => exact hs.accelerator.trans (Bool.or_true _).symm

/-- One use of a session, whatever it is and wherever it breaks off. -/
theorem observe_does (use : Use) (script : List (Outcome T)) (l : Live T) :
    Does l.session (observe script use.run l).2.session (observe script use.run l).1 use := by
  cases use with
  | start values =>
    have hprovision : Emits Event.ToStore (provision : SessionRun T Unit) :=
      provision_emits (fun _ answer => ⟨_, answer, rfl⟩) fun _ answer => ⟨_, answer, rfl⟩
    have hstart := start_opening values ⟨l.session, l.world.awaiting script⟩ fun l₁ _ =>
      hprovision.adds l₁
    have hopening := since_observe hstart
    rw [← (observe_eq_final script (Session.start values) l).1] at hopening
    exact .start hopening
  | call request =>
    have hfinal : final (Use.call request).run ⟨l.session, l.world.awaiting script⟩ =
        final request.run ⟨l.session, l.world.awaiting script⟩ :=
      final_bind_of_still request.run (fun _ _ => rfl) _
    have hasks := Asks.asks (x := request.run) ⟨l.session, l.world.awaiting script⟩
    have hkeeps := (Keeps.dataCall request : Keeps (· = l.session) request.run).keeps
      ⟨l.session, l.world.awaiting script⟩ rfl
    rw [← hfinal] at hasks hkeeps
    refine .call ?_ (since_observe hasks)
    rw [(observe_eq_final script _ l).1, hkeeps]
  | stop =>
    obtain ⟨w, hstop, hsince⟩ | ⟨hc, f, w, hstop, hadds⟩ :=
      stop_since (p := Event.ToStore) (fun _ answer => ⟨_, answer, rfl⟩)
        (fun _ answer => ⟨_, answer, rfl⟩) ⟨l.session, l.world.awaiting script⟩
    · obtain ⟨es, hes, requests, he, hrequests⟩ := hsince
      have hobserve : observe script Use.stop.run l = _ := observe_of_ok hstop
      rw [hobserve]
      exact .stop rfl rfl (hes.trans he) hrequests
    · obtain ⟨es, hes, hrequests⟩ := hadds
      have hobserve : observe script Use.stop.run l = _ := observe_of_error hstop
      rw [hobserve]
      refine .brokenStop rfl rfl hc ?_
      rw [Seen.ofWorld, hes]
      exact hrequests

/-- What each use keeps holds after all of them. -/
theorem useAll_keeps {P : List (Used T) → Session T → Prop}
    (hstep : ∀ us s s' seen use, P us s → Does s s' seen use → P (us ++ [⟨s, use, seen⟩]) s')
    (uses : List (Use × List (Outcome T))) (l : Live T) (us : List (Used T))
    (h : P us l.session) : P (us ++ (useAll uses l).1) (useAll uses l).2.session := by
  induction uses generalizing l us with
  | nil =>
    rw [useAll, List.append_nil]
    exact h
  | cons step uses ih =>
    obtain ⟨use, script⟩ := step
    have hnext := hstep us l.session _ _ use h (observe_does use script l)
    have hrest := ih (observe script use.run l).2 _ hnext
    rw [List.append_assoc] at hrest
    exact hrest

end Session

end TableBench
