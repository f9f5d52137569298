import TableBench.Proofs.Session.Handles
import TableBench.Proofs.Table.CleanUp

namespace TableBench

open Run Service Table

namespace Session

variable {T : Type}

def released (s : Session T) : Session T :=
  { s with client := none, store := false, accelerator := false }

def closes (s : Session T) : List Event :=
  .close .store :: if s.accelerator then [.close .accelerator] else []

theorem isCall_of_mem_closes (s : Session T) : ∀ e ∈ s.closes, e.isCall = false := by
  intro e he
  rw [closes] at he
  rcases List.mem_cons.1 he with rfl | he
  · rfl
  · split at he
    · rw [List.mem_singleton.1 he]
      rfl
    · cases he

variable {c : Client} {l : Live T}

theorem lifecycle_apply (hc : l.session.client = some c) :
    lifecycle l = .ok ⟨c, l.session.config.pollInterval, l.session.config.maxWait⟩ l :=
  bind_of_ok (requireClient_apply hc) _

theorem close_apply (c : Client) (l : Live T) :
    SessionRun.lift c.close l =
      .ok () { l with world := l.world.noted (.close c.dataTarget) } := rfl

theorem release_apply (hs : l.session.store = true) :
    release l = .ok () ⟨l.session.released,
      { l.world with events := l.world.events ++ l.session.closes }⟩ := by
  rw [release, get_bind_apply]
  simp only [hs, if_true]
  rw [bind_of_ok (close_apply _ _)]
  cases ha : l.session.accelerator with
  | true =>
    simp only [if_true]
    rw [bind_of_ok (close_apply _ _), closes, ha, List.append_cons]
    rfl
  | false =>
    rw [closes, ha]
    rfl

theorem finish_ensures {μ : Type} {S : Service μ} {m : μ} (hs : l.session.store = true) :
    S.Ensures m l (do release; log .info "DynamoDB benchmark session shut down")
      (fun _ l' m' => m' = m ∧ l'.session = l.session.released ∧
        l'.world.events = l.world.events ++ l.session.closes)
      (fun _ _ _ => False) := by
  exact .of_aside ((bind_of_ok (release_apply hs) _).trans (log_apply _ _ _)) rfl
    (isCall_of_mem_closes l.session) ⟨rfl, rfl, rfl⟩

variable [TimeScale T]

theorem stop_orderly (hc : l.session.client = some c) (hs : l.session.store = true) :
    orderly.Ensures () l stop
      (fun _ l' _ => l'.session = l.session.released ∧
        ∃ requests, l'.world.events = l.world.events ++ requests ++ l.session.closes ∧
          if l.session.config.programmableTables then
            Lifecycle.Cleaned l.session.tableName requests else requests = [])
      (fun e l' _ => l'.session = l.session ∧ l.session.config.programmableTables = true ∧
        Lifecycle.Overran l.session.tableName l.world l'.world e) := by
  rw [stop]
  apply Ensures.get
  cases hp : l.session.config.programmableTables with
  | true =>
    simp only [hc, hp, Option.isSome_some, Bool.and_self, if_true]
    apply Ensures.step (lifecycle_apply hc) rfl
    apply Ensures.bind
    apply Ensures.lift
    refine (Lifecycle.cleanUp_orderly _ _).mono ?_ fun _ _ _ h => ⟨rfl, trivial, h⟩
    intro deleted w _ h
    obtain ⟨es, he, hes⟩ := h
    refine (finish_ensures (l := ⟨l.session, w⟩) hs).mono ?_ fun _ _ _ => False.elim
    intro _ l' _ h
    obtain ⟨-, hl, he'⟩ := h
    exact ⟨hl, es, by rw [he', he], hes⟩
  | false =>
    simp only [hc, hp, Option.isSome_some, Bool.and_false, Bool.false_eq_true, if_false]
    refine (finish_ensures hs).mono ?_ fun _ _ _ => False.elim
    intro _ l' _ h
    obtain ⟨-, hl, he⟩ := h
    exact ⟨hl, [], by rw [he, List.append_nil], rfl⟩

theorem stop_released (s : Session T) (w : World T) :
    ∃ w', stop ⟨s.released, w⟩ = .ok () ⟨s.released, w'⟩ ∧ w'.events = w.events :=
  ⟨_, rfl, rfl⟩

theorem run_released (request : DataCall) (s : Session T) (w : World T) :
    request.run ⟨s.released, w⟩ = .error (.reported notInitialized false) ⟨s.released, w⟩ := by
  cases request <;> rfl

/-- A session with a client shuts down unless a pause on the way is too long to be waited for: it
asks twice for the deletion of its table if the table is its own, closes each client once after
everything else, and holds nothing any more. At such a pause it fails, asks for no second deletion
and still holds what it held. -/
theorem stop_releases_handles {s : Session T} (hr : s.Reached) (hc : s.client = some c)
    {w : World T} {es : List Event}
    (hes : (final stop ⟨s, w⟩).world.events = w.events ++ es) (hm : orderly.Serves () es ()) :
    ((∃ w' requests, stop ⟨s, w⟩ = .ok () ⟨s.released, w'⟩ ∧ es = requests ++ s.closes ∧
        if s.config.programmableTables then Lifecycle.Cleaned s.tableName requests
          else requests = []) ∨
      s.config.programmableTables = true ∧ ∃ (w' : World T) (d : Document) (looks : List Answer)
          (t : T),
        stop ⟨s, w⟩ = .error (.overflow "timestamp out of range for platform time_t") ⟨s, w'⟩ ∧
        es = .deletes s.tableName (.ok d) :: looks.map (Event.looks s.tableName) ∧
        w'.waits.getLast? = some t ∧ w.interruption.refuses t = true) ∧
      (∀ w, ∃ w', stop ⟨s.released, w⟩ = .ok () ⟨s.released, w'⟩ ∧ w'.events = w.events) ∧
      ∀ (request : DataCall) (w : World T), request.run ⟨s.released, w⟩ =
        .error (.reported notInitialized false) ⟨s.released, w⟩ := by
  have hstore : s.store = true := hr.sound (by rw [hc]; rfl)
  refine ⟨?_, stop_released s, fun request w => run_released request s w⟩
  have hstop := (stop_orderly (l := ⟨s, w⟩) hc hstore).leads es () hes hm
  cases hx : stop ⟨s, w⟩ with
  | ok _ l' =>
    rw [hx] at hstop
    obtain ⟨s', w'⟩ := l'
    obtain ⟨-, rfl, requests, he, hp⟩ := hstop
    rw [final_of_ok hx, he, List.append_assoc, List.append_cancel_left_eq] at hes
    exact .inl ⟨w', requests, rfl, hes.symm, hp⟩
  | error e l' =>
    rw [hx] at hstop
    obtain ⟨s', w'⟩ := l'
    obtain ⟨hleads, rfl, hp, rfl, ⟨t, ht, hrefuses⟩, d, _, he, _, rfl, looks, rfl, -⟩ := hstop
    rw [final_of_error hx] at hes
    rw [show w'.interruption = w.interruption from hleads.interruption] at hrefuses
    exact .inr ⟨hp, w', d, looks, t, rfl, List.append_cancel_left (hes.symm.trans he), ht,
      hrefuses⟩

/-- The surroundings of a session whose store is out of reach but for one deletion. -/
def unreachable : World Float where
  clock := 0
  source := { value := fun _ => "" }
  script := [
    ⟨.ok (.object [("TableDescription", .null)]), 0⟩,
    ⟨.error (.transport "out of reach"), 0⟩,
    ⟨.error (.transport "out of reach"), 0⟩]

def halfStarted : Session Float :=
  (final (start fun _ => "") ⟨ofConfig { Config.standard with programmableTables := true },
    { unreachable with script := [⟨.error (.transport "out of reach"), 0⟩] }⟩).session

theorem stop_releases_handles_halfStarted :
    ∃ w' requests, stop ⟨halfStarted, unreachable⟩ = .ok () ⟨halfStarted.released, w'⟩ ∧
      Lifecycle.Cleaned "ndbench-table" requests := by
  have hreached : halfStarted.Reached := .start (.fresh _) _ _
  have hfault : (Fault.transport "out of reach").Orderly := trivial
  have hserves : orderly.Serves () [
      .call .store (.deleteTable (.text "ndbench-table"))
        (some (.ok (.object [("TableDescription", .null)]))),
      .call .store (.describeTable (.text "ndbench-table"))
        (some (.error (.transport "out of reach"))),
      .call .store (.deleteTable (.text "ndbench-table"))
        (some (.error (.transport "out of reach"))),
      .close .store] () :=
    Orderly.serves (.deleted rfl) <| Orderly.serves (.fault hfault) <|
      Orderly.serves (.fault hfault) <| .aside rfl (.nil ())
  obtain ⟨⟨w', requests, hstop, -, hcleaned⟩ | ⟨-, _, _, _, _, -, -, -, ⟨⟩⟩, -⟩ :=
    stop_releases_handles hreached (c := .direct) rfl (w := unreachable) rfl hserves
  exact ⟨w', requests, hstop, hcleaned⟩

end Session

end TableBench
