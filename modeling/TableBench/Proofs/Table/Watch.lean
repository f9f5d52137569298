import TableBench.Proofs.Service

namespace TableBench

open Table

theorem Table.WaitProblem.timedOut_error {T : Type} [TimeScale T] (limit : T) (goal : Goal)
    (tableName : String) :
    (timedOut limit).error goal tableName = .provisioning
      (.text (goal.complaint tableName ++ " within " ++ TimeScale.text limit ++ "s")) := by
  simp only [error, String.append_assoc]

namespace Table.Lifecycle

variable {T : Type} [TimeScale T] (l : Lifecycle T) {deadline : T} (goal : Goal)
  (tableName : String) {w : World T}

def nap (deadline : T) (w : World T) : T :=
  if deadline - w.clock < l.pollInterval then deadline - w.clock else l.pollInterval

/-- The surroundings after a pause that was neither cut short nor refused. -/
def rested (deadline : T) (w : World T) : World T :=
  w.waited (l.nap deadline w)
    (some (if l.nap deadline w < TimeScale.none then TimeScale.none else l.nap deadline w))

theorem pause_of_timeout (h : deadline - w.clock ≤ TimeScale.none) :
    l.pause deadline goal tableName w =
      .error (.reported ((WaitProblem.timedOut l.maxWait).error goal tableName) false) w := by
  rw [pause, Run.get_bind_apply]
  simp only [if_pos h]
  rfl

theorem pause_of_cut (h : ¬ deadline - w.clock ≤ TimeScale.none)
    (hc : w.interruption.cuts (w.waits.length + 1) = true) :
    l.pause deadline goal tableName w =
      .error (.reported ((WaitProblem.interrupted : WaitProblem T).error goal tableName) false)
        (w.waited (l.nap deadline w) none) := by
  rw [pause, Run.get_bind_apply]
  simp only [if_neg h]
  exact Run.bind_of_ok (Run.wait_of_cut hc) _

theorem pause_of_refused (h : ¬ deadline - w.clock ≤ TimeScale.none)
    (hc : w.interruption.cuts (w.waits.length + 1) = false)
    (hn : w.interruption.refuses (l.nap deadline w) = true) :
    l.pause deadline goal tableName w = .error .tooLong (w.waited (l.nap deadline w) none) := by
  rw [pause, Run.get_bind_apply]
  simp only [if_neg h]
  exact Run.bind_of_error (Run.wait_of_refused hc hn) _

theorem pause_of_not_cut (h : ¬ deadline - w.clock ≤ TimeScale.none)
    (hc : w.interruption.cuts (w.waits.length + 1) = false)
    (hn : w.interruption.refuses (l.nap deadline w) = false) :
    l.pause deadline goal tableName w = .ok () (l.rested deadline w) := by
  rw [pause, Run.get_bind_apply]
  simp only [if_neg h]
  exact Run.bind_of_ok (Run.wait_of_not_cut hc hn) _

end Table.Lifecycle

/-- The surroundings after a sighting was written down, if it deserves that. -/
def World.sighted {T : Type} (w : World T) (goal : Goal) (tableName : String)
    (sighting : Sighting) : World T :=
  w.logged (if goal.mentions sighting then
    [⟨.debug, .tables, "Table '" ++ tableName ++ "' status: " ++ sighting.status.name⟩] else [])

namespace Service.Ensures

variable {μ T : Type} [TimeScale T] {S : Service μ} {m : μ} {w : World T} {l : Lifecycle T}
  {tableName : String} {E : Failure → World T → μ → Prop}

theorem require {target : Target} {request : Request} {field : String}
    {Q : Document → World T → μ → Prop}
    (hok : ∀ o script d m', w.script = o :: script → o.answer = .ok d →
      S.Answers m target request (.ok d) m' →
      ∃ part, d.require field = .ok part ∧ Q part (w.answered target request o script) m')
    (herror : ∀ o script f m', w.script = o :: script → o.answer = .error f →
      S.Answers m target request (.error f) m' →
      E f.failure ((w.answered target request o script).logged f.records) m') :
    S.Ensures m w (do Run.ofExcept ((← Run.call target request).require field)) Q E := by
  apply Ensures.bind
  apply Ensures.call
  · intro o script d m' hw ho ha
    obtain ⟨part, hpart, hq⟩ := hok o script d m' hw ho ha
    rw [hpart, Run.ofExcept_ok]
    exact .pure hq
  · exact herror

theorem describe {Q : Descriptor → World T → μ → Prop}
    (hok : ∀ o script d m', w.script = o :: script → o.answer = .ok d →
      S.Answers m .store (.describeTable (.text tableName)) (.ok d) m' →
      ∃ part t, d.require "Table" = .ok part ∧ Descriptor.ofDescription part = .ok t ∧
        Q t (w.answered .store (.describeTable (.text tableName)) o script) m')
    (herror : ∀ o script f m', w.script = o :: script → o.answer = .error f →
      S.Answers m .store (.describeTable (.text tableName)) (.error f) m' →
      E f.failure
        ((w.answered .store (.describeTable (.text tableName)) o script).logged f.records) m') :
    S.Ensures m w (l.describe tableName) Q E := by
  rw [Lifecycle.describe]
  apply Ensures.bind
  apply Ensures.require
  · intro o script d m' hw ho ha
    obtain ⟨part, t, hpart, ht, hq⟩ := hok o script d m' hw ho ha
    refine ⟨part, hpart, ?_⟩
    rw [ht, Run.ofExcept_ok]
    exact .pure hq
  · exact herror

theorem look {Q : Sighting → World T → μ → Prop}
    (hok : ∀ o script d m', w.script = o :: script → o.answer = .ok d →
      S.Answers m .store (.describeTable (.text tableName)) (.ok d) m' →
      ∃ part t, d.require "Table" = .ok part ∧ Descriptor.ofDescription part = .ok t ∧
        Q (.present t.status) (w.answered .store (.describeTable (.text tableName)) o script) m')
    (herror : ∀ o script f m', w.script = o :: script → o.answer = .error f →
      S.Answers m .store (.describeTable (.text tableName)) (.error f) m' →
      ∃ e chained, f.failure = .reported e chained ∧
        let w' := (w.answered .store (.describeTable (.text tableName)) o script).logged f.records
        (e.code? = some notFoundCode → Q .missing w' m') ∧
          (e.code? ≠ some notFoundCode → E (.reported e chained) w' m')) :
    S.Ensures m w (l.look tableName) Q E := by
  rw [Lifecycle.look]
  refine Ensures.seq (fun r => ?_) ?_
  · split <;> infer_instance
  apply Ensures.attempt
  apply Ensures.describe
  · intro o script d m' hw ho ha
    obtain ⟨part, t, hpart, ht, hq⟩ := hok o script d m' hw ho ha
    exact ⟨part, t, hpart, ht, .pure hq⟩
  · intro o script f m' hw ho ha
    obtain ⟨e, chained, hf, hmissing, hother⟩ := herror o script f m' hw ho ha
    rw [hf]
    by_cases he : e.code? = some notFoundCode
    · simp only [he, beq_self_eq_true, if_true]
      exact .pure (hmissing he)
    · simp only [beq_iff_eq, he, if_false]
      exact .throw (hother he)

/-- A creation: a table that is there already is no problem. -/
theorem create {d : Definition} {Q : Bool → World T → μ → Prop}
    (hok : ∀ rs o script response m', w.script = o :: script → o.answer = .ok response →
      S.Answers m .store (.createTable d.request) (.ok response) m' →
      ∃ part, response.require "TableDescription" = .ok part ∧
        Q true ((w.logged rs).answered .store (.createTable d.request) o script) m')
    (herror : ∀ rs o script f m', w.script = o :: script → o.answer = .error f →
      S.Answers m .store (.createTable d.request) (.error f) m' →
      ∃ e chained, f.failure = .reported e chained ∧
        let w' := ((w.logged rs).answered .store (.createTable d.request) o script).logged f.records
        (e.code? = some inUseCode → ∀ rs, Q false (w'.logged rs) m') ∧
          (e.code? ≠ some inUseCode → E (.reported e chained) w' m')) :
    S.Ensures m w (l.create d) Q E := by
  rw [Lifecycle.create]
  apply Ensures.step (Run.log_apply _ _ _ w) rfl
  refine Ensures.seq (fun r => ?_) ?_
  · split <;> infer_instance
  apply Ensures.attempt
  apply Ensures.require
  · intro o script response m' hw ho ha
    obtain ⟨part, hpart, hq⟩ := hok _ o script response m' hw ho ha
    exact ⟨part, hpart, .pure hq⟩
  · intro o script f m' hw ho ha
    obtain ⟨e, chained, hf, hinUse, hother⟩ := herror _ o script f m' hw ho ha
    rw [hf]
    by_cases he : e.code? = some inUseCode
    · simp only [he, beq_self_eq_true, if_true]
      exact Ensures.step (Run.log_apply _ _ _ _) rfl (.pure (hinUse he _))
    · simp only [beq_iff_eq, he, if_false]
      exact .throw (hother he)

/-- A wait goes on as long as its looks and pauses keep an invariant; each look uses up an answer,
so that the looks do not run out. -/
theorem watch {deadline : T} {goal : Goal} {I : World T → μ → Prop}
    {Q : Status → World T → μ → Prop}
    (hlook : ∀ {w m}, I w m → S.Ensures m w (l.look tableName)
      (fun sighting w' m' => w'.script.length < w.script.length ∧
        match goal.reached? sighting with
        | some status => Q status (w'.sighted goal tableName sighting) m'
        | none => S.Ensures m' (w'.sighted goal tableName sighting)
          (l.pause deadline goal tableName) (fun _ => I) E) E)
    {looks : Nat} (hn : w.script.length < looks) (h : I w m) :
    S.Ensures m w (l.watch deadline goal tableName looks) Q E := by
  -- on the bound of the looks, which stays above the answers that are left
  induction looks generalizing w m with
  | zero => exact absurd hn (Nat.not_lt_zero _)
  | succ looks ih =>
    have hrest (sighting : Sighting) : Run.Grows (match goal.reached? sighting with
      | some status => Pure.pure status
      | none => do
        l.pause deadline goal tableName
        l.watch deadline goal tableName looks) := by
      split <;> infer_instance
    rw [Lifecycle.watch]
    refine Ensures.seq (fun sighting => ?_) ?_
    · infer_instance
    refine (hlook h).mono ?_ fun _ _ _ he => he
    intro sighting w' m' h
    obtain ⟨hscript, hnext⟩ := h
    have hgoes : S.Ensures m' (w'.sighted goal tableName sighting)
        (match goal.reached? sighting with
          | some status => Pure.pure status
          | none => do
            l.pause deadline goal tableName
            l.watch deadline goal tableName looks) Q E := by
      cases hr : goal.reached? sighting with
      | some status =>
        rw [hr] at hnext
        exact .pure hnext
      | none =>
        rw [hr] at hnext
        refine Ensures.bind (hnext.leads.mono ?_ fun _ _ _ he => he.2)
        intro _ w₂ m₂ h
        obtain ⟨hleads, hI⟩ := h
        have hw : w'.script.length < looks := by omega
        exact ih (Nat.lt_of_le_of_lt hleads.script.length_le hw) hI
    -- the log is all that differs between a sighting that is mentioned and one that is not
    cases hm : goal.mentions sighting with
    | true =>
      rw [World.sighted, hm] at hgoes
      exact Ensures.step (Run.log_apply _ _ _ w') rfl hgoes
    | false =>
      rw [World.sighted, hm, if_neg Bool.false_ne_true, World.logged_nil] at hgoes
      exact hgoes

theorem await {goal : Goal} {I : World T → μ → Prop} {Q : Status → World T → μ → Prop}
    (hlook : ∀ {w' m}, I w' m → S.Ensures m w' (l.look tableName)
      (fun sighting w₁ m₁ => w₁.script.length < w'.script.length ∧
        match goal.reached? sighting with
        | some status => Q status (w₁.sighted goal tableName sighting) m₁
        | none => S.Ensures m₁ (w₁.sighted goal tableName sighting)
          (l.pause (w.clock + l.maxWait) goal tableName) (fun _ => I) E) E)
    (h : I w m) : S.Ensures m w (l.await goal tableName) Q E :=
  Ensures.get (Ensures.watch hlook (Nat.lt_succ_self _) h)

end Service.Ensures

end TableBench
