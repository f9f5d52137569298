import TableBench.Proofs.KeyValue.Requests
import TableBench.Proofs.Session.Start

namespace TableBench

open Run

namespace Run

variable {T α β : Type}

def Sends (target : Target) (x : Run T α) (w : World T) : Prop :=
  ∃ request answer es, (final x w).events = w.events ++ .call target request answer :: es

namespace Sends

variable {target : Target} {x : Run T α} {f : α → Run T β} {w w₁ : World T}

theorem seq (hf : ∀ a, Grows (f a)) (h : Sends target x w) : Sends target (x >>= f) w := by
  obtain ⟨request, answer, es, he⟩ := h
  obtain ⟨es', hes⟩ := (Grows.leads_bind hf x w).events
  refine ⟨request, answer, es ++ es', ?_⟩
  have hfinal : (final (x >>= f) w).events = (final x w).events ++ es' := hes.symm
  rw [hfinal, he, List.append_assoc, List.cons_append]

theorem bind (h : Sends target x w) [hf : ∀ a, Grows (f a)] : Sends target (x >>= f) w :=
  h.seq hf

theorem step {a : α} (hx : x w = .ok a w₁) (he : w₁.events = w.events)
    (h : Sends target (f a) w₁) : Sends target (x >>= f) w := by
  obtain ⟨request, answer, es, hes⟩ := h
  exact ⟨request, answer, es, by rw [final_bind_of_ok hx, hes, he]⟩

theorem call [TimeScale T] (target : Target) (request : Request) (w : World T) :
    Sends target (Run.call target request) w := by
  obtain ⟨answer, he⟩ := events_final_call target request w
  exact ⟨request, answer, [], he⟩

end Sends

end Run

namespace Batch

variable {T : Type} [TimeScale T] (c : Client) (table : String) (rounds n : Nat) (w : World T)

theorem readRounds_sends (consistent : Document) {left : Fields} {ds : List Document}
    (hk : left.lookup "Keys" = some (.list ds)) (items : List Document) :
    Sends c.dataTarget (readRounds c table consistent rounds (n + 1) left items) w := by
  have hr : (left.set "ConsistentRead" consistent).lookup "Keys" = some (.list ds) := by
    rw [Fields.lookup_set, if_neg (by decide), hk]
  rw [readRounds]
  simp only [keyCount_eq hr, ofExcept_ok, pure_bind]
  apply Sends.step (log_apply _ _ _ w) rfl
  refine (Sends.call _ _ _).seq fun response => .seq fun _ => .seq fun left => ?_
  cases left <;> infer_instance

theorem writeRounds_sends (ds : List Document) :
    Sends c.dataTarget (writeRounds c table rounds (n + 1) (.list ds)) w := by
  have hsize : (Document.list ds).requireSize = .ok ds.length := rfl
  rw [writeRounds]
  simp only [hsize, ofExcept_ok, pure_bind]
  apply Sends.step (log_apply _ _ _ w) rfl
  refine (Sends.call _ _ _).seq fun response => .seq fun left => ?_
  cases left <;> infer_instance

end Batch

namespace Session

variable {T : Type} [TimeScale T] (c : Client) (s : Session T) (request : DataCall) (w : World T)

/-- What a data request ends in that is turned down for what it asks for. The complaint about a
number of rounds fails itself if the number has more digits than are ever written. -/
inductive TurnsDown (s : Session T) : Failure → Prop
  | reported (text : Document) : TurnsDown s (.reported (.invalidArgument text) false)
  | unwritable (h : 10 ^ 4300 ≤ s.config.maxRounds.natAbs) : TurnsDown s .tooManyDigits

omit [TimeScale T] in
theorem turnsDown_of_problem {keys : List String} {limit : Nat} {p : Batch.Problem}
    (h : Batch.problem? keys limit s.config.maxRounds = some p) : s.TurnsDown p.failure := by
  cases p with
  | rounds n =>
    obtain rfl := Batch.rounds_of_problem? h
    by_cases hfits : Number.fits Number.maxDigits s.config.maxRounds = true
    · rw [Batch.Problem.failure_of_fits hfits]
      exact .reported _
    · rw [Batch.Problem.failure_of_not_fits hfits]
      rw [Number.fits_iff, Number.maxDigits, Nat.not_lt] at hfits
      exact .unwritable hfits
  | duplicates keys => exact .reported _
  | empty => exact .reported _
  | tooMany n limit => exact .reported _

/-- A data request that a client serves is turned down for what it asks for, or is sent to where
data requests of the client go. -/
theorem DataCall.through_cases :
    (∃ e, s.TurnsDown e ∧ request.through c s w = .error e w) ∨
      Sends c.dataTarget (request.through c s) w := by
  cases request with
  | read key =>
    obtain ⟨answer, he⟩ := Item.events_final_read c s.tableName s.attributeName key w
      (.bool s.config.consistentRead)
    exact .inr (Sends.bind ⟨_, answer, [], he⟩)
  | write key =>
    obtain ⟨answer, he⟩ := Item.events_final_write c s.tableName s.attributeName key w
    exact .inr (Sends.bind ⟨_, answer, [], he⟩)
  | readAll keys =>
    rw [DataCall.through, Batch.read, Batch.check_eq]
    cases hp : Batch.problem? keys Batch.readLimit s.config.maxRounds with
    | some p => exact .inl ⟨p.failure, turnsDown_of_problem s hp, rfl⟩
    | none =>
      obtain ⟨n, hn⟩ := Batch.pos_of_problem?_eq_none hp
      rw [hn, pure_bind]
      exact .inr (Batch.readRounds_sends c _ _ n w _ rfl []).bind.bind
  | writeAll keys =>
    rw [DataCall.through, Batch.write, Batch.check_eq]
    cases hp : Batch.problem? keys Batch.writeLimit s.config.maxRounds with
    | some p => exact .inl ⟨p.failure, turnsDown_of_problem s hp, rfl⟩
    | none =>
      obtain ⟨n, hn⟩ := Batch.pos_of_problem?_eq_none hp
      rw [hn, pure_bind]
      refine .inr (Sends.bind (Sends.step (Batch.putRequests_apply _ keys w) rfl ?_))
      exact (Batch.writeRounds_sends c _ _ n _ _).bind

/-- Starts that failed, with data requests in between, of a session that held no client at first;
the flag tells whether one of them came to open the client of the store. -/
inductive Unready : Bool → Session T → Prop
  | fresh {s : Session T} (h : s.client = none) : Unready false s
  | start {opened : Bool} {s : Session T} (h : s.Unready opened) {values : Nat → String}
    {w : World T} {e : Failure} {l : Live T} (hf : start values ⟨s, w⟩ = .error e l) :
    Unready (opened || (s.config.storeFailure? w.environment).isNone) l.session
  | call {opened : Bool} {s : Session T} (h : s.Unready opened) (request : DataCall) (w : World T) :
    Unready opened (final request.run ⟨s, w⟩).session

def Leaves (opened : Bool) (s : Session T) : Prop :=
  if opened then s.client = some .direct ∧ s.source = true else s.client = none

variable {s} in
theorem Unready.leaves {opened : Bool} (h : s.Unready opened) : Leaves opened s := by
  induction h with
  | fresh h => exact h
  | @start opened s h values w e l hf ih =>
    obtain ⟨hfailure, hs⟩ | ⟨hfailure, table, hs⟩ := session_of_failed_start values ⟨s, w⟩ hf
    · -- the clients stay as they were
      rw [hfailure, Option.isNone_some, Bool.or_false]
      cases opened with
      | true => exact ⟨by rw [hs]; exact ih.1, by rw [hs]⟩
      | false => exact (congrArg Session.client hs).trans ih
    · rw [hfailure, Option.isNone_none, Bool.or_true]
      exact ⟨by rw [hs]; rfl, by rw [hs]; rfl⟩
  | @call opened s h request w ih =>
    exact (Keeps.dataCall request : Keeps (Leaves opened) request.run).keeps ⟨s, w⟩ ih

variable {s} in
/-- Until a start succeeds, data requests are refused only as long as none of the starts came to
open the client of the store. From then on they are served: by the store itself, even where the
session was to use an accelerator. -/
theorem unready_refuses_unless_opened {opened : Bool} (h : s.Unready opened) :
    (opened = false →
      request.run ⟨s, w⟩ = .error (.reported notInitialized false) ⟨s, w⟩) ∧
    (opened = true →
      (∃ e, s.TurnsDown e ∧ request.run ⟨s, w⟩ = .error e ⟨s, w⟩) ∨
      ∃ w' asked answer es, final request.run ⟨s, w⟩ = ⟨s, w'⟩ ∧
        w'.events = w.events ++ .call .store asked answer :: es ∧
        ∀ target asked answer, .call target asked answer ∈ es → target = .store) := by
  constructor
  · rintro rfl
    exact run_of_no_client (l := ⟨s, w⟩) h.leaves request
  · rintro rfl
    obtain ⟨hc, hs⟩ : s.client = some .direct ∧ s.source = true := h.leaves
    have hrun : request.run ⟨s, w⟩ = SessionRun.lift (request.through .direct s) ⟨s, w⟩ :=
      run_apply (l := ⟨s, w⟩) hc hs request
    obtain ⟨e, he, ht⟩ | ⟨asked, answer, es, he⟩ := DataCall.through_cases .direct s request w
    · exact .inl ⟨e, he, hrun.trans (lift_of_error (l := ⟨s, w⟩) ht)⟩
    · refine .inr ⟨final (request.through .direct s) w, asked, answer, es, ?_, he, ?_⟩
      · rw [final, hrun, final]
        cases hr : request.through .direct s w with
        | ok a w' => rw [lift_of_ok (l := ⟨s, w⟩) hr]
        | error e w' => rw [lift_of_error (l := ⟨s, w⟩) hr]
      · intro target asked' answer' hm
        obtain ⟨es', hes⟩ := Tracks.events_final w
          (Tracks.through (c := .direct) .direct s request)
        rw [he, List.append_cancel_left_eq] at hes
        have hm' : .call target asked' answer' ∈ es'.map (Event.via .direct) :=
          hes ▸ List.mem_cons_of_mem _ hm
        rw [Event.target_of_mem_via hm']
        cases asked' <;> rfl

def fronting : Session Float :=
  ofConfig { Config.standard with acceleratorEndpoint := some "dax" }

def unfronted : World Float where
  clock := 0
  source := { value := fun _ => "" }
  script := [⟨.ok (.object [("Table", .object [("TableName", .text "ndbench-table")])]), 0⟩]

theorem unready_refuses_unless_opened_unfronted :
    ∃ e l w' asked answer es, start (fun _ => "") ⟨fronting, unfronted⟩ = .error e l ∧
      final (DataCall.read "k1").run ⟨l.session, unfronted⟩ = ⟨l.session, w'⟩ ∧
      w'.events = .call .store asked answer :: es := by
  obtain ⟨e, l, hl⟩ : ∃ e l, start (fun _ => "") ⟨fronting, unfronted⟩ = .error e l :=
    ⟨_, _, by with_unfolding_all rfl⟩
  have hunready : Unready true l.session := .start (.fresh rfl) hl
  obtain ⟨_, -, ht⟩ | ⟨w', asked, answer, es, hw, he, -⟩ :=
    (unready_refuses_unless_opened (.read "k1") unfronted hunready).2 rfl
  · obtain ⟨a, l', ha⟩ : ∃ a l', (DataCall.read "k1").run ⟨l.session, unfronted⟩ = .ok a l' := by
      cases hl
      exact ⟨_, _, by with_unfolding_all rfl⟩
    rw [ha] at ht
    cases ht
  · exact ⟨e, l, w', asked, answer, es, hl, hw, he⟩

end Session

end TableBench
