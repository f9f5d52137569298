import TableBench.Proofs.CommandLine.Consent

namespace TableBench

open Run Service Surrounded

namespace Table

variable {T : Type}

/-- The deletion of the table was accepted, and every look since then found the table. -/
inductive Deleting (tableName : String) : List Event → Prop
  | accepted (d : Document) : Deleting tableName [.deletes tableName (.ok d)]
  | found {es : List Event} (h : Deleting tableName es) (d : Document) :
    Deleting tableName (es ++ [.looks tableName (.ok d)])

/-- The deletion of the table was accepted, and the last look did not find it any more. -/
def Deleted (tableName : String) (es : List Event) : Prop :=
  ∃ es₀ f, Deleting tableName es₀ ∧ f.Rejects notFoundCode ∧
    es = es₀ ++ [.looks tableName (.error f)]

def Absent (tableName : String) (es : List Event) : Prop :=
  ∃ f, f.Rejects notFoundCode ∧ es = [.deletes tableName (.error f)]

variable [TimeScale T]

/-- What the requests of a deletion tell about the table: whether it was deleted, or the failure
that leaves this open. A wait begins with the answer to the first request since `start`. -/
inductive Fate (config : Config T) (start w : World T) :
    List Event → Except Failure Bool → Prop
  | refused {p : ConnectionProblem} {chained : Bool}
    (hp : config.connectionProblem? start.environment = some p) :
    Fate config start w [] (.error (.reported p.error chained))
  | absent {f : Fault} (hf : f.Rejects notFoundCode) :
    Fate config start w [.deletes config.tableName (.error f)] (.ok false)
  | rejected {f : Fault} {error : BenchError} {chained : Bool}
    (hf : f.failure = .reported error chained) (hr : ¬ f.Rejects notFoundCode) :
    Fate config start w [.deletes config.tableName (.error f)] (.error (.reported error chained))
  | gone {es : List Event} {f : Fault} (h : Deleting config.tableName es)
    (hf : f.Rejects notFoundCode) :
    Fate config start w (es ++ [.looks config.tableName (.error f)]) (.ok true)
  | lost {es : List Event} {f : Fault} {error : BenchError} {chained : Bool}
    (h : Deleting config.tableName es) (hf : f.failure = .reported error chained)
    (hr : ¬ f.Rejects notFoundCode) :
    Fate config start w (es ++ [.looks config.tableName (.error f)])
      (.error (.reported error chained))
  | late {es : List Event} {o : Outcome T} {f : Failure} (h : Deleting config.tableName es)
    (ho : start.script.head? = some o)
    (hx : Expired (start.clock + o.elapsed + config.maxWait) config.maxWait
      ("Table '" ++ config.tableName ++ "' was not deleted") f w) :
    Fate config start w es (.error f)

variable {config : Config T} {start w w' : World T} {es : List Event} {tableName : String}
  {fate : Except Failure Bool}

omit [TimeScale T] in
theorem Deleting.getLast? (h : Deleting tableName es) :
    ∃ request d, es.getLast? = some (.call .store request (some (.ok d))) := by
  cases h with
  | accepted d => exact ⟨_, d, rfl⟩
  | found h d => exact ⟨_, d, List.getLast?_concat⟩

omit [TimeScale T] in
theorem Deleted.getLast? (h : Deleted tableName es) :
    ∃ f, f.Rejects notFoundCode ∧ es.getLast? = some (.looks tableName (.error f)) := by
  obtain ⟨es₀, f, -, hf, rfl⟩ := h
  exact ⟨f, hf, List.getLast?_concat⟩

theorem Fate.deleted_iff (h : Fate config start w es fate) :
    fate = .ok true ↔ Deleted config.tableName es := by
  constructor
  · rintro rfl
    cases h with
    | gone h hf => exact ⟨_, _, h, hf, rfl⟩
  · intro hd
    obtain ⟨f, hf, hlast⟩ := hd.getLast?
    cases h with
    | refused => cases hlast
    | absent => cases hlast
    | rejected => cases hlast
    | gone => rfl
    | lost _ _ hr =>
      rw [List.getLast?_concat] at hlast
      cases hlast
      exact absurd hf hr
    | late h =>
      obtain ⟨request, d, hanswered⟩ := h.getLast?
      rw [hanswered] at hlast
      cases hlast

theorem Fate.absent_iff (h : Fate config start w es fate) :
    fate = .ok false ↔ Absent config.tableName es := by
  constructor
  · rintro rfl
    cases h with
    | absent hf => exact ⟨_, hf, rfl⟩
  · rintro ⟨f, hf, he⟩
    have hlast := congrArg List.getLast? he
    cases h with
    | refused => cases he
    | absent => rfl
    | rejected _ hr =>
      cases he
      exact absurd hf hr
    | gone =>
      rw [List.getLast?_concat] at hlast
      cases hlast
    | lost =>
      rw [List.getLast?_concat] at hlast
      cases hlast
    | late h =>
      obtain ⟨request, d, hanswered⟩ := h.getLast?
      rw [hanswered] at hlast
      cases hlast

theorem Fate.congr (h : Fate config start w es fate) (hw : w'.unrecorded = w.unrecorded) :
    Fate config start w' es fate := by
  cases h with
  | refused h => exact .refused h
  | absent h => exact .absent h
  | rejected h hr => exact .rejected h hr
  | gone h hf => exact .gone h hf
  | lost h hf hr => exact .lost h hf hr
  | late h ho hx => exact .late h ho (hx.congr hw)

theorem Fate.reported_or_overflow {f : Failure} (h : Fate config start w es (.error f)) :
    (∃ error chained, f = .reported error chained) ∨
      (f = .overflow "timestamp out of range for platform time_t" ∧
        Deleting config.tableName es ∧ w.Overwaited) := by
  cases h with
  | refused | rejected | lost => exact .inl ⟨_, _, rfl⟩
  | late h ho hx =>
    cases hx with
    | timedOut | interrupted => exact .inl ⟨_, _, rfl⟩
    | tooLong _ hw => exact .inr ⟨rfl, h, hw⟩

def told : Failure → Except Failure Bool
  | .reported error chained =>
    if error.code? = some notFoundCode then .ok false else .error (.reported error chained)
  | f => .error f

/-- The requests since `start` tell that the deletion went like this. -/
def Went (config : Config T) (start : World T) (fate : Except Failure Bool) (w : World T) :
    Prop :=
  start.Heard w fun es => Fate config start w es fate

theorem Went.aside (h : Went config start fate w) (ha : w.Aside w')
    (hw : w'.unrecorded = w.unrecorded) : Went config start fate w' :=
  (World.Heard.aside h ha).mono fun _ hes => hes.congr hw

def Underway (config : Config T) (start w : World T) : Prop :=
  start.Heard w (Deleting config.tableName)

end Table

namespace Table

variable {T : Type} [TimeScale T] {config : Config T} {start w w' : World T}

theorem told_of_rejects {f : Fault} {error : BenchError} {chained : Bool} (h : f.Orderly)
    (hf : f.failure = .reported error chained) :
    (f.Rejects notFoundCode ∧ told (.reported error chained) = .ok false) ∨
      (¬ f.Rejects notFoundCode ∧
        told (.reported error chained) = .error (.reported error chained)) := by
  rw [h.rejects_iff hf (by decide), told]
  by_cases hc : error.code? = some notFoundCode
  · exact .inl ⟨hc, if_pos hc⟩
  · exact .inr ⟨hc, if_neg hc⟩

omit [TimeScale T] in
theorem told_of_no_code {error : BenchError} {chained : Bool} (h : error.code? = none) :
    told (.reported error chained) = .error (.reported error chained) := by
  rw [told, h]
  rfl

theorem Expired.told_eq {deadline limit : T} {complaint : String} {f : Failure}
    (h : Expired deadline limit complaint f w) : told f = .error f := by
  cases h with
  | timedOut | interrupted => exact told_of_no_code rfl
  | tooLong => rfl

namespace Lifecycle

variable (l : Lifecycle T)

theorem look_went (h : Underway config start w) :
    regular.Ensures () w (l.look config.tableName)
      (fun sighting w' _ => w'.script.length < w.script.length ∧
        if sighting = .missing then Went config start (.ok true) w' else Underway config start w')
      (fun e w' _ => Went config start (told e) w') := by
  apply (l.look_told config.tableName Regular.orderly_look).mono
  · intro sighting w' _ hlook
    obtain ⟨hscript, answer, he, htells⟩ := hlook
    refine ⟨hscript, ?_⟩
    cases htells with
    | found d status =>
      rw [if_neg nofun]
      exact h.called he fun es hes => hes.found d
    | missing hf =>
      rw [if_pos rfl]
      exact h.called he fun es hes => .gone hes hf
  · intro e w' _ hlook
    obtain ⟨answer, he, htells⟩ := hlook
    cases htells with
    | @failed f error chained hfailure hr hcode =>
      rw [told, if_neg hcode]
      exact h.called he fun es hes => .lost hes hfailure hr

/-- A wait for the end of a table that began with the answer to the request for it. -/
theorem await_went (hl : l.maxWait = config.maxWait) {o : Outcome T}
    (ho : start.script.head? = some o) (hclock : w.clock = start.clock + o.elapsed)
    (h : Underway config start w) :
    regular.Ensures () w (l.await .deleted config.tableName)
      (fun _ w' _ => Went config start (.ok true) w')
      (fun e w' _ => Went config start (told e) w') := by
  refine Ensures.await (I := fun w' _ => Underway config start w') ?_ h
  intro w' _ h'
  apply (l.look_went h').mono
  · intro sighting w₁ _ h₁
    obtain ⟨hscript, h₁⟩ := h₁
    refine ⟨hscript, ?_⟩
    cases sighting with
    | missing =>
      rw [if_pos rfl] at h₁
      exact h₁.aside (.of_events_eq rfl) rfl
    | present status =>
      rw [if_neg nofun] at h₁
      apply (l.pause_expires config.tableName (w.clock + l.maxWait) .deleted).mono
      · intro _ w₂ _ h₂
        exact h₁.aside (.of_events_eq h₂.2)
      · intro e w₂ _ h₂
        obtain ⟨-, he, hx⟩ := h₂
        rw [hclock, hl] at hx
        rw [hx.told_eq]
        exact (h₁.aside (.of_events_eq he)).mono fun es hes => .late hes ho hx
  · intro e w₁ _ he
    exact he

theorem drop_went (hl : l.maxWait = config.maxWait) (hw : w.unrecorded = start.unrecorded)
    (h : start.Heard w (· = [])) :
    regular.Ensures () w (l.drop config.tableName)
      (fun _ w' _ => Went config start (.ok true) w')
      (fun e w' _ => Went config start (told e) w') := by
  rw [drop]
  apply Ensures.step (log_apply _ _ _ w) rfl
  generalize hlog : w.logged _ = w₁
  replace h : start.Heard w₁ (· = []) := by
    rw [← hlog]
    exact h
  replace hw : w₁.unrecorded = start.unrecorded := by
    rw [← hlog]
    exact hw
  have hscript : w₁.script = start.script := (congrArg World.script hw :)
  have hclock : w₁.clock = start.clock := (congrArg World.clock hw :)
  apply Ensures.bind
  rw [Client.deleteTable]
  apply Ensures.require
  · intro o script response _ hcons ho ha
    cases ha with
    | deleted hr =>
      refine ⟨_, Descriptor.require_object hr, ?_⟩
      apply Ensures.step (log_apply _ _ _ _) rfl
      refine l.await_went hl (o := o) ?_ ?_ ?_
      · rw [← hscript, hcons, List.head?_cons]
      · rw [World.logged_clock, World.answered_clock, hclock]
      · refine World.Heard.called h (by rw [World.logged_events, World.answered_events, ho]) ?_
        rintro _ rfl
        exact .accepted _
  · intro o script f _ _ ho ha
    cases ha with
    | fault hf =>
      obtain ⟨error, chained, hfailure⟩ := hf.failure
      rw [hfailure]
      refine World.Heard.called h (by rw [World.logged_events, World.answered_events, ho]) ?_
      rintro _ rfl
      obtain ⟨hr, htold⟩ | ⟨hr, htold⟩ := told_of_rejects hf hfailure
      · rw [htold]
        exact .absent hr
      · rw [htold]
        exact .rejected hfailure hr

end Lifecycle

end Table

namespace Run

variable {T μ : Type} {S : Service μ} {m : μ} {w : World T} {config : Config T}

theorem openStore_ensures_problem (hs : ∃ settings, ClientSettings.ofConfig config = .ok settings) :
    S.Ensures m w (openStore config)
      (fun _ w' m' => m' = m ∧ w.Aside w' ∧ w'.unrecorded = w.unrecorded)
      (fun e w' m' => m' = m ∧ w.Aside w' ∧
        ∃ p, config.connectionProblem? w.environment = some p ∧ e = p.failure) := by
  have hunrecorded := openStore_unrecorded config w
  obtain ⟨f, w', hf, ho, ha⟩ | ⟨-, w', ho, ha⟩ := openStore_cases config w
  · rw [Config.storeFailure?_eq _ hs, Option.map_eq_some_iff] at hf
    obtain ⟨p, hp, rfl⟩ := hf
    obtain ⟨es, hes, hall⟩ := id ha
    exact .of_aside_error ho hes hall ⟨rfl, ha, p, hp, rfl⟩
  · rw [final_of_ok ho] at hunrecorded
    obtain ⟨es, hes, hall⟩ := id ha
    exact .of_aside ho hes hall ⟨rfl, ha, hunrecorded⟩

end Run

namespace CommandLine

namespace Command

variable {μ α : Type} {S : Service μ} {m : μ} {config : Config Float} {w : World Float}

theorem withLifecycle_ensures {body : Table.Lifecycle Float → Run Float α} [∀ l, Grows (body l)]
    {Q : α → World Float → μ → Prop} {E : Failure → World Float → μ → Prop}
    (hs : ∃ settings, ClientSettings.ofConfig config = .ok settings)
    (hrefused : ∀ p w', config.connectionProblem? w.environment = some p → w.Aside w' →
      E p.failure w' m)
    (hbody : ∀ w', w.Aside w' → w'.unrecorded = w.unrecorded →
      S.Ensures m w' (body ⟨.direct, config.pollInterval, config.maxWait⟩)
        (fun a w₁ => Q a (w₁.noted (.close .store)))
        (fun e w₁ => E e (w₁.noted (.close .store)))) :
    S.Ensures m w (withLifecycle config body) Q E := by
  unfold withLifecycle
  apply Ensures.bind
  apply (openStore_ensures_problem hs).mono
  · intro _ w' m' h
    obtain ⟨rfl, ha, hw⟩ := h
    apply Ensures.ensuring
    apply (hbody w' ha hw).mono
    · intro a w₁ m₁ hq
      exact .note rfl hq
    · intro e w₁ m₁ he
      exact .note rfl he
  · intro e w' m' h
    obtain ⟨rfl, ha, p, hp, rfl⟩ := h
    exact hrefused p w' hp ha

open Table

theorem withLifecycle_went {start : World Float} (hw : w.unrecorded = start.unrecorded)
    (h : start.Heard w (· = []))
    (hs : ∃ settings, ClientSettings.ofConfig config = .ok settings) :
    regular.Ensures () w (withLifecycle config fun l => l.drop config.tableName)
      (fun _ w' _ => Went config start (.ok true) w')
      (fun e w' _ => Went config start (told e) w') := by
  have hclosed {fate : Except Failure Bool} {w' : World Float} (h : Went config start fate w') :
      Went config start fate (w'.noted (.close .store)) :=
    h.aside ((World.Aside.refl w').noted rfl) rfl
  apply withLifecycle_ensures hs
  · intro p w' hp ha
    have htold : told p.failure = .error p.failure := by
      cases p <;> exact told_of_no_code rfl
    have he : w.environment = start.environment := (congrArg World.environment hw :)
    rw [he] at hp
    rw [htold]
    apply (h.aside ha).mono
    rintro _ rfl
    exact .refused hp
  · intro w' ha hw'
    apply (Lifecycle.drop_went _ rfl (hw'.trans hw) (h.aside ha)).mono
    · intro _ w₁ _ h
      exact hclosed h
    · intro e w₁ _ h
      exact hclosed h

theorem runDropTable_went {i : Invocation} (ha : i.approved = true)
    (hs : ∃ settings, ClientSettings.ofConfig i.config = .ok settings) :
    regular.Ensures () w (runDropTable i)
      (fun r w' _ => ∃ deleted, r = dropReply i.plain i.config.tableName deleted ∧
        Went i.config w (.ok deleted) w')
      (fun e w' _ => Went i.config w (.error e) w') := by
  have hdropped : regular.Ensures () w (do
        Run.log .info .tableCommands ("Dropping table '" ++ i.config.tableName ++ "'")
        withLifecycle i.config fun l => l.drop i.config.tableName)
      (fun _ w' _ => Went i.config w (.ok true) w')
      (fun e w' _ => Went i.config w (told e) w') :=
    Ensures.step (log_apply _ _ _ w) rfl (withLifecycle_went rfl .refl hs)
  rw [runDropTable]
  simp only [ha, Bool.not_true, Bool.false_eq_true, if_false]
  refine Ensures.seq (fun r => ?_) ?_
  · split <;> infer_instance
  apply Ensures.attempt
  apply hdropped.mono
  · intro _ w' _ h
    exact .pure ⟨true, rfl, h⟩
  · intro e w' _ h
    cases e with
    | reported error chained =>
      rw [told] at h
      by_cases hc : error.code? = some notFoundCode
      · rw [if_pos hc] at h
        simp only [hc, beq_self_eq_true, if_true]
        exact .pure ⟨false, rfl, h⟩
      · rw [if_neg hc] at h
        simp only [beq_iff_eq, hc, if_false]
        exact .throw h
    | _ => exact .throw h

end Command

/-- The ending says whether the table was deleted, or shows the failure that leaves this open. -/
def Ending.Tells (r : Ending) (i : Invocation) (time : String) : Except Failure Bool → Prop
  | .ok deleted =>
    r.failure = none ∧ r.exitCode = (if deleted then 0 else 1) ∧
      r.err = logLines i.verbosity time r.world.logs ∧
      r.out =
        (if i.plain then
          if deleted then "✅ Table '" ++ i.config.tableName ++ "' deleted"
          else "⚠️  Table '" ++ i.config.tableName ++ "' does not exist"
        else
          (Document.object
            [("table", .text i.config.tableName), ("deleted", .bool deleted)]).write) ++ "\n"
  | .error f => r.Shows i time f

theorem Command.dropReply_eq (plain : Bool) (tableName : String) (deleted : Bool) :
    dropReply plain tableName deleted =
      { out := (if plain then
          if deleted then "✅ Table '" ++ tableName ++ "' deleted"
          else "⚠️  Table '" ++ tableName ++ "' does not exist"
        else
          (Document.object [("table", .text tableName), ("deleted", .bool deleted)]).write) ++ "\n"
        code := if deleted then 0 else 1 } := by
  rw [← Reply.out_ite]
  cases plain <;> rfl

theorem Ending.Tells.eq_ok {r : Ending} {i : Invocation} {time : String} {deleted : Bool}
    {fate : Except Failure Bool} (h : r.Tells i time (.ok deleted)) (h' : r.Tells i time fate) :
    fate = .ok deleted := by
  obtain ⟨-, hcode, -, hout⟩ := h
  cases fate with
  | ok deleted' =>
    obtain ⟨-, hcode', -, -⟩ := h'
    rw [hcode] at hcode'
    cases deleted <;> cases deleted' <;> first | rfl | cases hcode'
  | error f =>
    have hempty := h'.out_eq
    rw [hout] at hempty
    exact absurd (String.append_eq_empty_iff.1 hempty).2 (by decide)

variable {w : World Float} {payloads : Payloads} {time : String} {words : List String}
  {i : Invocation}

open Table

theorem tells_fate (ha : Accepts w.environment words .dropTable i) (happroved : i.approved = true)
    (hs : ∃ settings, ClientSettings.ofConfig i.config = .ok settings) {es : List Event}
    (hes : (final (Command.runDropTable i) w).events = w.events ++ es)
    (hr : regular.Serves () es ()) :
    ∃ fate, Fate i.config w (final (Command.runDropTable i) w) (calls es) fate ∧
      (run w payloads time words).Tells i time fate := by
  have hends := Command.runDropTable_went happroved hs es () hes hr
  cases hb : Command.runDropTable i w with
  | ok reply w' =>
    rw [hb] at hends
    rw [final_of_ok hb] at hes ⊢
    obtain ⟨deleted, rfl, hwent⟩ := hends
    refine ⟨.ok deleted, hwent.of_events hes, ?_⟩
    rw [run_of_ok ha hb, Command.dropReply_eq]
    exact ⟨rfl, rfl, String.append_empty, rfl⟩
  | error f w' =>
    rw [hb] at hends
    rw [final_of_error hb] at hes ⊢
    exact ⟨.error f, hends.of_events hes, shows_of_error ha hb⟩

/-- As long as the store's answers are regular, a deletion that was consented to tells the truth
about the table. It is deleted when the request was accepted and a later look did not find the table
any more, it was not there when the request was rejected for that, and else a failure is shown: that
of the connection, of the request, of a look, or of a wait that did expire. It is an error that is
reported unless a pause was too long to be waited for. -/
theorem run_tells_whether_deleted {es : List Event} (ha : Accepts w.environment words .dropTable i)
    (happroved : i.approved = true)
    (hs : ∃ settings, ClientSettings.ofConfig i.config = .ok settings)
    (hes : (run w payloads time words).world.events = w.events ++ es)
    (hr : regular.Serves () es ()) :
    let r := run w payloads time words
    (r.Tells i time (.ok true) ↔ Deleted i.config.tableName (calls es)) ∧
      (r.Tells i time (.ok false) ↔ Absent i.config.tableName (calls es)) ∧
      (r.failure = none ∨
        r.failure = some (.overflow "timestamp out of range for platform time_t") ∧
          Deleting i.config.tableName (calls es) ∧ r.world.Overwaited) ∧
      ∃ fate, Fate i.config w r.world (calls es) fate ∧ r.Tells i time fate := by
  intro r
  have hworld : r.world = final (Command.runDropTable i) w := world_run ha
  rw [world_run ha] at hes
  obtain ⟨fate, hfate, htells⟩ : ∃ fate, Fate i.config w r.world (calls es) fate ∧
      r.Tells i time fate := by
    rw [hworld]
    exact tells_fate ha happroved hs hes hr
  have hiff (deleted : Bool) : r.Tells i time (.ok deleted) ↔ fate = .ok deleted := by
    constructor
    · intro h
      exact h.eq_ok htells
    · rintro rfl
      exact htells
  refine ⟨(hiff true).trans hfate.deleted_iff, (hiff false).trans hfate.absent_iff, ?_,
    fate, hfate, htells⟩
  cases fate with
  | ok deleted => exact .inl htells.1
  | error f =>
    cases htells with
    | reported hf => exact .inl hf
    | defect hn hf =>
      obtain ⟨error, chained, rfl⟩ | ⟨rfl, hdeleting, hw⟩ := hfate.reported_or_overflow
      · exact absurd rfl (hn error chained)
      · exact .inr ⟨hf, hdeleting, hw⟩

def obliging : World Float where
  clock := 0
  source := { value := fun _ => "" }
  script := [⟨.ok (.object [("TableDescription", .object [])]), 0⟩, ⟨.error notFound, 0⟩]

theorem run_tells_whether_deleted_obliging :
    let r := run obliging (fun _ _ => "") "" ["kvbench", "drop-table", "--approve"]
    r.Tells { approved := true } "" (.ok true) := by
  intro r
  have haccepts : Accepts obliging.environment ["kvbench", "drop-table", "--approve"] .dropTable
      { approved := true } := accepts_dropTable
  have hevents : ∃ settings, (final (Command.dropTable.body { approved := true } fun _ _ => "")
      obliging).events = [.resolve none none, .openStore none settings,
        .deletes "ndbench-table" (.ok (.object [("TableDescription", .object [])])),
        .looks "ndbench-table" (.error notFound), .close .store] := ⟨_, rfl⟩
  obtain ⟨settings, hevents⟩ := hevents
  have hfault : notFound.Rejects notFoundCode := ⟨_, rfl, rfl, .inr ⟨400, rfl⟩⟩
  have hserves : regular.Serves () [.resolve none none, .openStore none settings,
      .deletes "ndbench-table" (.ok (.object [("TableDescription", .object [])])),
      .looks "ndbench-table" (.error notFound), .close .store] () :=
    .aside rfl (.aside rfl (Regular.serves (.deleted rfl) (Regular.serves
      (.fault ⟨.inr ⟨_, rfl⟩, .inr ⟨400, rfl⟩⟩) (.aside rfl (.nil ())))))
  have htells : (r.Tells { approved := true } "" (.ok true) ↔ _) ∧ _ :=
    run_tells_whether_deleted haccepts rfl ⟨_, rfl⟩
      (by rw [world_run haccepts, hevents]; rfl) hserves
  exact htells.1.2 ⟨[_], _, .accepted _, hfault, rfl⟩

end CommandLine

end TableBench
