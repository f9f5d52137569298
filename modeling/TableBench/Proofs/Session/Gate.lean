import TableBench.Proofs.Session.History

namespace TableBench

open Run

namespace Session

variable {T : Type}

/-- Whether data requests are let through after one more use: from the opening of a client of the
store on, and until a stop returns. -/
def Used.admits (admitted : Bool) (u : Used T) : Bool :=
  match u.use with
  | .start _ => admitted || u.opens .store
  | .call _ => admitted
  | .stop => admitted && !u.seen.reply.isOk

def admitted (us : List (Used T)) : Bool := us.foldl Used.admits false

/-- What the session holds while data requests are let through, and while they are not. -/
structure Gated (admitted : Bool) (s : Session T) : Prop where
  client : s.client.isSome = admitted
  source : admitted = true → s.source = true
  handles : admitted = false → s.store = false ∧ s.accelerator = false

namespace Gated

variable {s s' : Session T} {admitted : Bool} {seen : Seen T Unit} {use : Use}

theorem ofConfig (config : Config T) : Gated false (ofConfig config) where
  client := rfl
  source := nofun
  handles _ := ⟨rfl, rfl⟩

theorem ofHolding {c : Client} {accelerator : Bool} (h : s.Holding c accelerator) :
    Gated true s where
  client := by rw [h.client, Option.isSome_some]
  source _ := h.source
  handles := nofun

theorem released : Gated false s.released where
  client := rfl
  source := nofun
  handles _ := ⟨rfl, rfl⟩

theorem opening {es : List Event} (h : Gated admitted s) (hes : Opening Event.ToStore s s' es) :
    Gated (admitted || es.any (·.opened? == some .store)) s' := by
  cases hes with
  | nothing hs hsearch =>
    rw [any_opened_of_idle fun e he => (hsearch e he).idle, Bool.or_false, hs]
    exact ⟨h.client, fun _ => rfl, h.handles⟩
  | store hs h₁ _ _ =>
    rw [List.any_append, h₁.any_opened, beq_self_eq_true, Bool.true_or, Bool.or_true]
    exact ofHolding hs
  | accelerator hs h₁ _ _ =>
    rw [List.any_append, h₁.any_opened, beq_self_eq_true, Bool.true_or, Bool.or_true]
    exact ofHolding hs

theorem does (h : Gated admitted s) (hdoes : Does s s' seen use) :
    Gated (Used.admits admitted ⟨s, use, seen⟩) s' := by
  cases hdoes with
  | start hopening => exact h.opening hopening
  | call hs _ =>
    rw [hs]
    exact h
  | stop hr hs _ _ =>
    simp only [Used.admits, hr, hs, Except.isOk, Except.toBool, Bool.not_true, Bool.and_false]
    exact released
  | brokenStop hr hs _ _ =>
    simp only [Used.admits, hr, hs, Except.isOk, Except.toBool, Bool.not_false, Bool.and_true]
    exact h

end Gated

variable [TimeScale T]

/-- The session refuses every data request and has nothing to stop. -/
def Refuses (s : Session T) : Prop := ∀ w : World T,
  stop ⟨s, w⟩ = .ok () ⟨s, w.logged [shutDown]⟩ ∧
  ∀ request : DataCall, request.run ⟨s, w⟩ = .error (.reported notInitialized false) ⟨s, w⟩

/-- The session sends data requests to where its client does, unless they ask for too much. -/
def Serves (s : Session T) : Prop := ∃ c, s.client = some c ∧
  ∀ (request : DataCall) (w : World T),
    (∃ e, s.TurnsDown e ∧ request.run ⟨s, w⟩ = .error e ⟨s, w⟩) ∨
    ∃ asked answer es, (final request.run ⟨s, w⟩).world.events =
      w.events ++ .call c.dataTarget asked answer :: es

namespace Gated

variable {s : Session T}

theorem refuses (h : Gated false s) : s.Refuses := by
  have hc : s.client = none := Option.isNone_iff_eq_none.1 (Option.isSome_eq_false_iff.1 h.client)
  obtain ⟨hs, ha⟩ := h.handles rfl
  have hreleased : s.released = s := by
    cases s
    cases hc
    cases hs
    cases ha
    rfl
  have hclosing : s.closing = [] := by
    simp only [closing, List.filter, holds, hs, ha, List.map_nil]
  intro w
  constructor
  · have hstop := stop_apply (l := ⟨s, w⟩) (by rw [h.client, Bool.false_and])
    rwa [hreleased, hclosing, List.append_nil] at hstop
  · intro request
    exact run_of_no_client (l := ⟨s, w⟩) hc request

theorem serves (h : Gated true s) : s.Serves := by
  obtain ⟨c, hc⟩ := Option.isSome_iff_exists.1 h.client
  refine ⟨c, hc, fun request w => ?_⟩
  have hrun : request.run ⟨s, w⟩ = SessionRun.lift (request.through c s) ⟨s, w⟩ :=
    run_apply (l := ⟨s, w⟩) hc (h.source rfl) request
  obtain ⟨e, he, ht⟩ | ⟨asked, answer, es, he⟩ := DataCall.through_cases c s request w
  · exact .inl ⟨e, he, hrun.trans (lift_of_error (l := ⟨s, w⟩) ht)⟩
  · have hfinal : final request.run ⟨s, w⟩ =
        final (SessionRun.lift (request.through c s)) ⟨s, w⟩ := by
      rw [final, hrun, final]
    refine .inr ⟨asked, answer, es, ?_⟩
    rw [hfinal, final_lift]
    exact he

end Gated

/-- Whatever is made of a new session, it refuses data requests and has nothing to close until a
start comes to open the client of the store, and again once a stop has returned; in between it
serves them. A data request changes no session. -/
theorem data_requests_gated (config : Config T) (w : World T)
    (uses : List (Use × List (Outcome T))) :
    (if admitted (useAll uses ⟨ofConfig config, w⟩).1 then
        (useAll uses ⟨ofConfig config, w⟩).2.session.Serves
      else (useAll uses ⟨ofConfig config, w⟩).2.session.Refuses) ∧
      ∀ (request : DataCall) (l : Live T), (final request.run l).session = l.session := by
  constructor
  · have hgated : Gated (admitted (useAll uses ⟨ofConfig config, w⟩).1)
        (useAll uses ⟨ofConfig config, w⟩).2.session := by
      refine useAll_keeps (P := fun us s => Gated (admitted us) s) ?_ uses _ [] (.ofConfig config)
      intro us s s' seen use h hdoes
      rw [admitted, List.foldl_concat]
      exact h.does hdoes
    split
    · next hadmitted => exact (hadmitted ▸ hgated).serves
    · next hadmitted => exact (Bool.eq_false_iff.2 hadmitted ▸ hgated).refuses
  · intro request l
    exact (Keeps.dataCall request : Keeps (· = l.session) request.run).keeps l rfl

end Session

end TableBench
