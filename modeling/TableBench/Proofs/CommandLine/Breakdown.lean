import TableBench.Proofs.CommandLine.Reporting

namespace TableBench

open Run Service

namespace Config

variable {T : Type} {c : Config T} {e : Environment}

theorem storeFailure?_of_problem {p : ConnectionProblem} (h : c.connectionProblem? e = some p) :
    c.storeFailure? e = some p.failure := by
  rw [connectionProblem?] at h
  rw [storeFailure?]
  by_cases hr : (given c.endpoint && !given c.region) = true
  · rw [if_pos hr] at h ⊢
    cases h
    rfl
  · rw [if_neg hr] at h ⊢
    rw [h]

theorem storeFailure?_of_settings {f : Failure} (hp : c.connectionProblem? e = none)
    (h : ClientSettings.ofConfig c = .error f) : c.storeFailure? e = some f := by
  rw [connectionProblem?] at hp
  rw [storeFailure?]
  by_cases hr : (given c.endpoint && !given c.region) = true
  · rw [if_pos hr] at hp
    cases hp
  · rw [if_neg hr] at hp ⊢
    rw [hp, h]

end Config

/-- Why a session is not even opened. -/
def Config.sessionFailure? (c : Config Float) (e : Environment) : Option Failure :=
  if c.valueSize < 1 then some (.badValue Payload.sizeComplaint) else c.storeFailure? e

namespace CommandLine

namespace Command

variable {α : Type} {config : Config Float} {payloads : Payloads} {w : World Float}

variable (payloads) in
theorem withSession_of_sessionFailure (hp : config.programmableTables = false) {f : Failure}
    (hf : config.sessionFailure? w.environment = some f) (body : SessionRun Float α) :
    ∃ w', withSession config payloads body w = .error f w' ∧ w.Aside w' := by
  have hstarted : ∃ l, started config payloads body ⟨.ofConfig config, w⟩ = .error f l ∧
      l.session.config = config ∧ w.Aside l.world := by
    rw [Config.sessionFailure?] at hf
    rw [started, Payload.size?]
    by_cases hv : config.valueSize < 1
    · rw [if_pos hv] at hf
      cases hf
      rw [if_neg (by omega)]
      exact ⟨_, rfl, rfl, .refl w⟩
    · rw [if_neg hv] at hf
      rw [if_pos (by omega)]
      obtain ⟨l, hl, hconfig, ha⟩ := Session.start_of_storeFailure
        (payloads config.valueSize.toNat) (l := ⟨.ofConfig config, w⟩) hf
      exact ⟨l, bind_of_error hl _, hconfig, ha⟩
  obtain ⟨l, hl, hconfig, es, hes, hall⟩ := hstarted
  obtain ⟨l', hl', es', hes', hall'⟩ := Session.aside_stop (l := l) (by rw [hconfig, hp])
  refine ⟨l'.world, withSession_of_error (ensuring_of_error hl hl'), es ++ es', ?_, ?_⟩
  · rw [hes', hes, List.append_assoc]
  · exact List.forall_mem_append.2 ⟨hall, hall'⟩

variable (c : Command) (i : Invocation) (e : Environment)

def stores : Bool :=
  match c with
  | write | writeBulk => true
  | _ => false

/-- The failure that settings lead to without anybody reporting it: payloads without characters, or
a timeout that cannot be passed on. Bad arguments come before both, and a connection that cannot be
made comes before the latter. -/
def defect? : Option Failure :=
  if (c.argumentProblem? i).isSome then none
  else if i.config.valueSize < 1 then some (.badValue Payload.sizeComplaint)
  else if (i.config.connectionProblem? e).isSome then none
  else
    match ClientSettings.ofConfig i.config with
    | .error f => some f
    | .ok _ => none

/-- The output of a command that stored what it was to store. -/
inductive Acknowledges : Command → String → Prop
  | written (result : String) :
    Acknowledges write ((if i.plain then "✅ Wrote " ++ i.keys.headD ""
      else (Document.object
        [("key", .text (i.keys.headD "")), ("result", .text result)]).write) ++ "\n")
  | allWritten (puts : List String) :
    Acknowledges writeBulk ((if i.plain then "✅ Wrote " ++ toString puts.length ++ " items"
      else (Document.object
        [("count", .int puts.length), ("requests", .list (puts.map .text))]).write) ++ "\n")

variable {c i e}

theorem unreported_of_defect? {f : Failure} (h : c.defect? i e = some f) (error : BenchError)
    (chained : Bool) : f ≠ .reported error chained := by
  rintro rfl
  rw [defect?] at h
  split at h
  · cases h
  · split at h
    · cases h
    · split at h
      · cases h
      · split at h
        · next f hf =>
          obtain ⟨text, rfl⟩ := ClientSettings.overflow_of_error hf
          cases h
        · cases h

variable (payloads) in
theorem body_of_sessionFailure (hc : c.stores = true) (ha : c.argumentProblem? i = none)
    {f : Failure} (hf : i.config.sessionFailure? w.environment = some f) :
    ∃ w', c.body i payloads w = .error f w' ∧ w.Aside w' := by
  have hp : i.config.programmableTables = false := Config.programmableTables_ofOptions i.settings
  cases c with
  | write =>
    have hcheck : checkKey (i.keys.headD "") w = .ok () w := by
      rw [checkKey_eq, show (Key.problem? (i.keys.headD "")).map Key.Problem.error = _ from ha]
      rfl
    obtain ⟨w', hw, haside⟩ := withSession_of_sessionFailure payloads (w := w.logged _) hp
      hf (Session.write (i.keys.headD ""))
    refine ⟨w', ?_, haside⟩
    exact (bind_of_ok hcheck _).trans ((bind_of_ok (log_apply _ _ _ w) _).trans
      (bind_of_error hw _))
  | writeBulk =>
    obtain ⟨w', hw, haside⟩ := withSession_of_sessionFailure payloads (w := w.logged _) hp
      hf (Session.writeAll i.keys)
    refine ⟨w', ?_, haside⟩
    exact (bind_of_ok (log_apply _ _ _ w) _).trans (bind_of_error hw _)
  | _ => cases hc

theorem acknowledges_of_ok (hc : c.stores = true) {r : Reply} {w' : World Float}
    (h : c.body i payloads w = .ok r w') : Acknowledges i c r.out := by
  cases c with
  | write =>
    obtain ⟨_, w₁, -, h⟩ := of_bind_ok h
    obtain ⟨_, w₂, -, h⟩ := of_bind_ok h
    obtain ⟨result, w₃, -, h⟩ := of_bind_ok h
    cases h
    rw [Reply.out_ite]
    exact .written result
  | writeBulk =>
    obtain ⟨_, w₁, -, h⟩ := of_bind_ok h
    obtain ⟨puts, w₂, -, h⟩ := of_bind_ok h
    cases h
    rw [Reply.out_ite]
    exact .allWritten puts
  | _ => cases hc

theorem sessionFailure?_of_defect? {f : Failure} (h : c.defect? i e = some f) :
    c.argumentProblem? i = none ∧ i.config.sessionFailure? e = some f := by
  rw [defect?] at h
  by_cases ha : (c.argumentProblem? i).isSome = true
  · rw [if_pos ha] at h
    cases h
  rw [if_neg ha] at h
  refine ⟨Option.not_isSome_iff_eq_none.1 ha, ?_⟩
  rw [Config.sessionFailure?]
  by_cases hv : i.config.valueSize < 1
  · rwa [if_pos hv] at h ⊢
  rw [if_neg hv] at h ⊢
  cases hp : i.config.connectionProblem? e with
  | some p =>
    rw [hp] at h
    cases h
  | none =>
    rw [hp] at h
    cases hs : ClientSettings.ofConfig i.config with
    | error f' =>
      rw [hs] at h
      cases h
      exact Config.storeFailure?_of_settings hp hs
    | ok settings =>
      rw [hs] at h
      cases h

theorem served_of_defect?_eq_none (ha : c.argumentProblem? i = none) (h : c.defect? i e = none) :
    (∃ p, i.config.connectionProblem? e = some p ∧
      i.config.sessionFailure? e = some p.failure) ∨
    (1 ≤ i.config.valueSize ∧ ∃ settings, ClientSettings.ofConfig i.config = .ok settings) := by
  rw [defect?, ha, if_neg (by decide : ¬ (none : Option BenchError).isSome)] at h
  rw [Config.sessionFailure?]
  by_cases hv : i.config.valueSize < 1
  · rw [if_pos hv] at h
    cases h
  rw [if_neg hv] at h ⊢
  cases hp : i.config.connectionProblem? e with
  | some p => exact .inl ⟨p, rfl, Config.storeFailure?_of_problem hp⟩
  | none =>
    rw [hp] at h
    cases hs : ClientSettings.ofConfig i.config with
    | error f =>
      rw [hs] at h
      cases h
    | ok settings => exact .inr ⟨by omega, settings, rfl⟩

end Command

variable {w : World Float} {payloads : Payloads} {time : String} {words : List String}
  {c : Command} {i : Invocation} {es : List Event}

/-- A refusal, which nothing is sent after. -/
theorem verdict_of_refusal (time : String) (ha : Accepts w.environment words c i)
    {error : BenchError} {chained : Bool} {w' : World Float}
    (hb : c.body i payloads w = .error (.reported error chained) w') (haside : w.Aside w')
    (hrefusal : c.refusal? i w.environment = some error) (hes : w'.events = w.events ++ es) :
    (run w payloads time words).failure = none ∧ c.Verdict i w (calls es) (some error) ∧
      (run w payloads time words).Reports i time (some error) := by
  apply verdict_of_troubled time ha hb _ hes
  apply (Manner.Calm.start.aside haside).complaint
  rintro _ rfl
  exact .refusal hrefusal

theorem run_of_defect?_eq_none (ha : Accepts w.environment words c i) (hc : c.stores = true)
    (hd : c.defect? i w.environment = none)
    (hes : (final (c.body i payloads) w).events = w.events ++ es) (hr : regular.Serves () es ()) :
    (run w payloads time words).failure = none ∧
      ∃ verdict, c.Verdict i w (calls es) verdict ∧
        (run w payloads time words).Reports i time verdict ∧
        (verdict = none → c.Acknowledges i (run w payloads time words).out) := by
  cases hargument : c.argumentProblem? i with
  | some error =>
    have hb := Command.body_of_argumentProblem? hargument payloads w
    have hrefusal : c.refusal? i w.environment = some error := by
      rw [Command.refusal?, hargument, Option.some_or]
    rw [final_of_error hb] at hes
    obtain ⟨hfailure, hverdict, hreports⟩ :=
      verdict_of_refusal time ha hb (.refl w) hrefusal hes
    refine ⟨hfailure, some error, hverdict, hreports, ?_⟩
    rintro ⟨⟩
  | none =>
    obtain ⟨p, hp, hf⟩ | ⟨hv, hs⟩ := Command.served_of_defect?_eq_none hargument hd
    · obtain ⟨w', hb, haside⟩ := Command.body_of_sessionFailure payloads hc hargument hf
      have hrefusal : c.refusal? i w.environment = some p.error := by
        rw [Command.refusal?_eq hargument, hp]
        rfl
      rw [final_of_error hb] at hes
      obtain ⟨hfailure, hverdict, hreports⟩ := verdict_of_refusal time ha hb haside hrefusal hes
      refine ⟨hfailure, some p.error, hverdict, hreports, ?_⟩
      rintro ⟨⟩
    · have hdrop : c ≠ .dropTable := by
        rintro rfl
        cases hc
      have hinfo : c ≠ .connectionInfo := by
        rintro rfl
        cases hc
      have hends := Command.body_ends hs payloads hv ha.fits hdrop hinfo rfl .start es () hes hr
      cases hb : c.body i payloads w with
      | ok r w' =>
        rw [hb] at hends
        rw [final_of_ok hb] at hes
        obtain ⟨hfailure, hverdict, hreports⟩ := verdict_of_calm time ha hb hends hes
        refine ⟨hfailure, none, hverdict, hreports, fun _ => ?_⟩
        rw [run_of_ok ha hb]
        exact Command.acknowledges_of_ok hc hb
      | error f w' =>
        rw [hb] at hends
        rw [final_of_error hb] at hes
        have hcreate : c ≠ .createTable := by
          rintro rfl
          cases hc
        cases hends with
        | brokenOff hbroken => exact absurd (hbroken.of_events hes).2.creates hcreate
        | @troubled error _ chained htroubled =>
          obtain ⟨hfailure, hverdict, hreports⟩ := verdict_of_troubled time ha hb htroubled hes
          refine ⟨hfailure, some error, hverdict, hreports, ?_⟩
          rintro ⟨⟩

/-- As long as the store's answers are regular, a command that stores items ends without a report
because of its settings alone, before it sent anything: payloads have to have characters, and the
timeout has to be a number that can be passed on. Whatever else goes wrong is reported. -/
theorem run_breaks_down_by_settings_alone (ha : Accepts w.environment words c i)
    (hc : c.stores = true) (hes : (run w payloads time words).world.events = w.events ++ es)
    (hr : regular.Serves () es ()) :
    let r := run w payloads time words
    r.failure = c.defect? i w.environment ∧
      (r.failure = none → ∃ verdict, c.Verdict i w (calls es) verdict ∧
        r.Reports i time verdict ∧ (verdict = none → c.Acknowledges i r.out)) ∧
      (r.failure ≠ none → calls es = [] ∧ r.exitCode = 1 ∧ r.out = "" ∧
        r.err = logLines i.verbosity time r.world.logs) := by
  intro r
  rw [world_run ha] at hes
  cases hd : c.defect? i w.environment with
  | none =>
    have hgood : r.failure = none ∧ _ := run_of_defect?_eq_none ha hc hd hes hr
    obtain ⟨hfailure, hverdict⟩ := hgood
    exact ⟨hfailure, fun _ => hverdict, fun hne => absurd hfailure hne⟩
  | some f =>
    obtain ⟨hargument, hf⟩ := Command.sessionFailure?_of_defect? hd
    obtain ⟨w', hb, es', hes', hall⟩ := Command.body_of_sessionFailure payloads hc hargument hf
    rw [final_of_error hb] at hes
    rw [List.append_cancel_left (hes.symm.trans hes'), calls_of_aside hall]
    rw [show r = _ from run_of_unreported ha (Command.unreported_of_defect? hd) hb]
    exact ⟨rfl, nofun, fun _ => ⟨rfl, rfl, rfl, rfl⟩⟩

theorem accepts_write_empty :
    Accepts withoutTable.environment ["kvbench", "write", "k1", "--value-size", "0"] .write
      { keys := ["k1"], settings := [.valueSize 0] } :=
  ⟨["write", "k1", "--value-size", "0"], ["k1", "--value-size", "0"], by cbv, by cbv, by cbv⟩

theorem run_breaks_down_by_settings_alone_empty :
    let r := run withoutTable (fun _ _ => "") "" ["kvbench", "write", "k1", "--value-size", "0"]
    r.failure = some (.badValue "value_size must be positive") ∧ r.exitCode = 1 ∧ r.out = "" := by
  intro r
  have hevents : (final (Command.write.body
      { keys := ["k1"], settings := [.valueSize 0] } fun _ _ => "") withoutTable).events = [] := rfl
  have hdown : r.failure = _ ∧ _ ∧ _ := run_breaks_down_by_settings_alone accepts_write_empty rfl
    (by rw [world_run accepts_write_empty, hevents]; rfl) (.nil ())
  obtain ⟨hfailure, -, hsilent⟩ := hdown
  have hdefect : Command.write.defect? { keys := ["k1"], settings := [.valueSize 0] }
      withoutTable.environment = some (.badValue "value_size must be positive") := rfl
  rw [hdefect] at hfailure
  obtain ⟨-, hcode, hout, -⟩ := hsilent (by rw [hfailure]; exact nofun)
  exact ⟨hfailure, hcode, hout⟩

end CommandLine

end TableBench
