import TableBench.Proofs.Table.Await
import TableBench.Proofs.Table.Defects

namespace TableBench

open Run

namespace Table

def Goal.status : Goal → Status
  | .active => .active
  | .deleted => .absent

theorem Goal.status_of_reached {goal : Goal} {sighting : Sighting} {status : Status}
    (h : goal.reached? sighting = some status) : status = goal.status := by
  cases goal with
  | active =>
    cases sighting with
    | missing => cases h
    | present seen =>
      cases seen with
      | active =>
        cases h
        rfl
      | _ => cases h
  | deleted =>
    cases sighting with
    | missing =>
      cases h
      rfl
    | present seen => cases h

namespace Lifecycle

variable {T : Type} [TimeScale T] {l : Lifecycle T} {deadline : T} {goal : Goal}
  {tableName : String} {w w₁ w' : World T}

theorem final_look (l : Lifecycle T) (tableName : String) (w : World T) :
    final (l.look tableName) w = final (call .store (.describeTable (.text tableName))) w := by
  rw [look, final_bind_of_still, final_attempt, describe, final_bind_of_still,
    Client.describeTable, final_bind_of_still]
  · intro d w
    cases d.require "Table" <;> rfl
  · intro d w
    cases Descriptor.ofDescription d <;> rfl
  · intro r w
    cases r with
    | ok t => rfl
    | error f =>
      cases f with
      | reported e chained =>
        by_cases hc : e.code? = some notFoundCode
        · simp only [hc, beq_self_eq_true, if_true]
          rfl
        · simp only [beq_iff_eq, hc, if_false]
          rfl
      | _ => rfl

theorem answered_final_look (l : Lifecycle T) (tableName : String) {o : Outcome T}
    {script : List (Outcome T)} (hs : w.script = o :: script) :
    w.Answered tableName o (final (l.look tableName) w) := by
  have hw := World.Answered.of_answered tableName hs
  rw [final_look]
  cases ho : o.answer with
  | ok d =>
    rw [final_of_ok (call_of_response hs ho)]
    exact hw
  | error f =>
    rw [final_of_error (call_of_fault hs ho)]
    exact hw.logged f.records

theorem asked_final_look (l : Lifecycle T) (tableName : String) (w : World T) :
    (final (l.look tableName) w).asked =
      w.asked ++ [(.store, .describeTable (.text tableName))] := by
  obtain ⟨answer, he⟩ := events_final_call .store (.describeTable (.text tableName)) w
  rw [final_look, World.asked, he, List.filterMap_append]
  rfl

theorem waits_final_look (l : Lifecycle T) (tableName : String) (w : World T) :
    (final (l.look tableName) w).waits = w.waits := by
  cases hs : w.script with
  | nil => rw [final_of_error (look_of_nil hs), World.noted_waits]
  | cons o script => exact (l.answered_final_look tableName hs).waits

theorem look_failure {o : Outcome T} {script : List (Outcome T)} (hs : w.script = o :: script)
    {e : Failure} (h : l.look tableName w = .error e w₁) :
    (∃ f, o.answer = .error f ∧ e = f.failure) ∨ e.IsDefect := by
  cases ho : o.answer with
  | error f =>
    left
    by_cases hf : f.SaysMissing
    · rw [look_of_missing hs ho hf] at h
      cases h
    · rw [look_of_failed hs ho hf] at h
      cases h
      exact ⟨f, rfl, rfl⟩
  | ok d =>
    right
    have hread : FailsAtDefects (d.require "Table" >>= Descriptor.ofDescription) :=
      (FailsAtDefects.require d _).bind Descriptor.ofDescription_defects
    have hdescribe : l.describe tableName w =
        ofExcept (d.require "Table" >>= Descriptor.ofDescription)
          (w.answered .store (.describeTable (.text tableName)) o script) := by
      rw [describe, Client.describeTable, bind_assoc, bind_of_ok (call_of_response hs ho)]
      cases d.require "Table" <;> rfl
    generalize (d.require "Table" >>= Descriptor.ofDescription) = r at hread hdescribe
    cases r with
    | ok t =>
      rw [look, bind_of_ok (attempt_of_ok hdescribe)] at h
      cases h
    | error f =>
      have hf := hread f rfl
      rw [look, bind_of_ok (attempt_of_error hdescribe)] at h
      cases f with
      | reported => exact hf.elim
      | _ =>
        cases h
        exact hf

/-- A look left the wait open, and the surroundings as they are then. -/
def LeavesOpen (l : Lifecycle T) (goal : Goal) (tableName : String) (w w₁ : World T) : Prop :=
  ∃ sighting w₀, l.look tableName w = .ok sighting w₀ ∧ goal.reached? sighting = none ∧
    w₁ = w₀.sighted goal tableName sighting

theorem LeavesOpen.answered (h : l.LeavesOpen goal tableName w w₁) :
    ∃ o, w.script = o :: w₁.script ∧ w.Answered tableName o w₁ := by
  obtain ⟨sighting, w₀, hlook, -, rfl⟩ := h
  cases hs : w.script with
  | nil =>
    rw [look_of_nil hs] at hlook
    cases hlook
  | cons o script =>
    have hw := l.answered_final_look tableName hs
    rw [final_of_ok hlook] at hw
    have hscript : w₀.script = script := by
      rw [hw.exchanged.script, hs]
      rfl
    exact ⟨o, congrArg (o :: ·) hscript.symm, hw.logged _⟩

theorem LeavesOpen.asked (h : l.LeavesOpen goal tableName w w₁) :
    w₁.asked = w.asked ++ [(.store, .describeTable (.text tableName))] := by
  obtain ⟨sighting, w₀, hlook, -, rfl⟩ := h
  have ha := l.asked_final_look tableName w
  rwa [final_of_ok hlook] at ha

theorem LeavesOpen.waits (h : l.LeavesOpen goal tableName w w₁) : w₁.waits = w.waits := by
  obtain ⟨o, -, hw⟩ := h.answered
  exact hw.waits

/-- A wait that takes so many looks and makes these pauses, and what it comes to. -/
inductive Watched (l : Lifecycle T) (deadline : T) (goal : Goal) (tableName : String) :
    World T → Nat → List T → World T → Except Failure Status → Prop
  | failed {w w₁ : World T} {e : Failure} (h : l.look tableName w = .error e w₁) :
    Watched l deadline goal tableName w 1 [] w₁ (.error e)
  | reached {w w₁ : World T} {sighting : Sighting} {status : Status}
    (h : l.look tableName w = .ok sighting w₁) (hr : goal.reached? sighting = some status) :
    Watched l deadline goal tableName w 1 [] (w₁.sighted goal tableName sighting) (.ok status)
  | timedOut {w w₁ : World T} (h : l.LeavesOpen goal tableName w w₁)
    (ht : TimeUp deadline w₁.clock) : Watched l deadline goal tableName w 1 [] w₁
      (.error (.reported ((WaitProblem.timedOut l.maxWait).error goal tableName) false))
  | interrupted {w w₁ : World T} (h : l.LeavesOpen goal tableName w w₁)
    (ht : ¬ TimeUp deadline w₁.clock)
    (hc : w₁.interruption.cuts (w₁.waits.length + 1) = true) :
    Watched l deadline goal tableName w 1 [l.nap deadline w₁]
      (w₁.waited (l.nap deadline w₁) none)
      (.error (.reported ((WaitProblem.interrupted : WaitProblem T).error goal tableName) false))
  | refused {w w₁ : World T} (h : l.LeavesOpen goal tableName w w₁)
    (ht : ¬ TimeUp deadline w₁.clock)
    (hc : w₁.interruption.cuts (w₁.waits.length + 1) = false)
    (hn : w₁.interruption.refuses (l.nap deadline w₁) = true) :
    Watched l deadline goal tableName w 1 [l.nap deadline w₁]
      (w₁.waited (l.nap deadline w₁) none) (.error .tooLong)
  | next {w w₁ w' : World T} {made : Nat} {pauses : List T} {outcome : Except Failure Status}
    (h : l.LeavesOpen goal tableName w w₁) (ht : ¬ TimeUp deadline w₁.clock)
    (hc : w₁.interruption.cuts (w₁.waits.length + 1) = false)
    (hn : w₁.interruption.refuses (l.nap deadline w₁) = false)
    (hnext : Watched l deadline goal tableName (l.rested deadline w₁) made pauses w' outcome) :
    Watched l deadline goal tableName w (made + 1) (l.nap deadline w₁ :: pauses) w' outcome

theorem watch_watched (l : Lifecycle T) (deadline : T) (goal : Goal) (tableName : String) {n : Nat}
    (hn : w.script.length < n) : ∃ made pauses w' outcome,
      l.Watched deadline goal tableName w made pauses w' outcome ∧
        l.watch deadline goal tableName n w = ofExcept outcome w' := by
  -- on the bound of the looks, which stays above the answers that are left
  induction n generalizing w with
  | zero => exact absurd hn (Nat.not_lt_zero _)
  | succ n ih =>
    cases hlook : l.look tableName w with
    | error e w₁ => exact ⟨1, [], w₁, .error e, .failed hlook, bind_of_error hlook _⟩
    | ok sighting w₀ =>
      have hwatch : l.watch deadline goal tableName (n + 1) w = _ := watch_of_look hlook n
      cases hr : goal.reached? sighting with
      | some status =>
        rw [hr] at hwatch
        exact ⟨1, [], _, .ok status, .reached hlook hr, hwatch⟩
      | none =>
        rw [hr] at hwatch
        have hopen : l.LeavesOpen goal tableName w (w₀.sighted goal tableName sighting) :=
          ⟨sighting, w₀, hlook, hr, rfl⟩
        obtain ⟨o, hs, -⟩ := hopen.answered
        generalize w₀.sighted goal tableName sighting = w₁ at hwatch hopen hs
        by_cases ht : TimeUp deadline w₁.clock
        · have hpause := l.pause_of_timeout goal tableName ht
          exact ⟨1, [], w₁, _, .timedOut hopen ht, hwatch.trans (bind_of_error hpause _)⟩
        cases hc : w₁.interruption.cuts (w₁.waits.length + 1) with
        | true =>
          have hpause := l.pause_of_cut goal tableName ht hc
          exact ⟨1, _, _, _, .interrupted hopen ht hc, hwatch.trans (bind_of_error hpause _)⟩
        | false =>
          cases hrefuses : w₁.interruption.refuses (l.nap deadline w₁) with
          | true =>
            have hpause := l.pause_of_refused goal tableName ht hc hrefuses
            exact ⟨1, _, _, _, .refused hopen ht hc hrefuses,
              hwatch.trans (bind_of_error hpause _)⟩
          | false =>
            have hpause := l.pause_of_not_cut goal tableName ht hc hrefuses
            have hscript : (l.rested deadline w₁).script.length < n := by
              rw [hs] at hn
              exact Nat.lt_of_succ_lt_succ hn
            obtain ⟨made, pauses, w', outcome, hnext, hrest⟩ := ih hscript
            exact ⟨_, _, w', outcome, .next hopen ht hc hrefuses hnext,
              (hwatch.trans (bind_of_ok hpause _)).trans hrest⟩

/-- Every wait goes through its looks and pauses one after another. -/
theorem await_watched (l : Lifecycle T) (goal : Goal) (tableName : String) (w : World T) :
    ∃ made pauses w' outcome,
      l.Watched (w.clock + l.maxWait) goal tableName w made pauses w' outcome ∧
        l.await goal tableName w = ofExcept outcome w' :=
  l.watch_watched _ goal tableName (Nat.lt_succ_self _)

namespace Watched

variable {made : Nat} {pauses : List T} {outcome : Except Failure Status}

theorem made_pos (h : l.Watched deadline goal tableName w made pauses w' outcome) : 1 ≤ made := by
  cases h <;> omega

theorem made_le (h : l.Watched deadline goal tableName w made pauses w' outcome) :
    made ≤ pauses.length + 1 := by
  induction h with
  | next h ht hc hn hnext ih => exact Nat.succ_le_succ ih
  | _ => exact Nat.succ_le_succ (Nat.zero_le _)

theorem asked (h : l.Watched deadline goal tableName w made pauses w' outcome) :
    w'.asked = w.asked ++ List.replicate made (.store, .describeTable (.text tableName)) := by
  induction h with
  | @failed w w₁ _ h =>
    have ha := l.asked_final_look tableName w
    rwa [final_of_error h] at ha
  | @reached w w₁ _ _ h hr =>
    have ha := l.asked_final_look tableName w
    rwa [final_of_ok h] at ha
  | timedOut h ht => exact h.asked
  | interrupted h ht hc => exact h.asked
  | refused h ht hc hn => exact h.asked
  | next h ht hc hn hnext ih =>
    have hrested : (l.rested deadline _).asked = _ := h.asked
    rw [ih, hrested, List.append_assoc]
    rfl

theorem waits (h : l.Watched deadline goal tableName w made pauses w' outcome) :
    w'.waits = w.waits ++ pauses := by
  induction h with
  | @failed w w₁ _ h =>
    have hw := l.waits_final_look tableName w
    rw [final_of_error h] at hw
    rw [hw, List.append_nil]
  | @reached w w₁ _ _ h hr =>
    have hw := l.waits_final_look tableName w
    rw [final_of_ok h] at hw
    exact hw.trans (List.append_nil _).symm
  | timedOut h ht => rw [h.waits, List.append_nil]
  | interrupted h ht hc => rw [World.waited_waits, h.waits]
  | refused h ht hc hn => rw [World.waited_waits, h.waits]
  | next h ht hc hn hnext ih =>
    rw [ih, rested, World.waited_waits, h.waits, List.append_assoc]
    rfl

theorem status_of_ok {status : Status}
    (h : l.Watched deadline goal tableName w made pauses w' (.ok status)) :
    status = goal.status := by
  generalize ho : Except.ok status = outcome at h
  induction h with
  | reached h hr =>
    cases ho
    exact Goal.status_of_reached hr
  | next h ht hc hn hnext ih => exact ih ho
  | _ => cases ho

end Watched

theorem await_status {status : Status} (h : l.await goal tableName w = .ok status w') :
    status = goal.status := by
  obtain ⟨made, pauses, w₁, outcome, hwatched, hawait⟩ := l.await_watched goal tableName w
  rw [h] at hawait
  cases outcome with
  | error e => cases hawait
  | ok reached =>
    cases hawait
    exact hwatched.status_of_ok

end Lifecycle

end Table

end TableBench
