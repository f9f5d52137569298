import Mathlib.Algebra.Order.Floor.Semiring
import Mathlib.Data.Rat.Floor
import TableBench.Proofs.Table.Watched

namespace TableBench

open Run

def pauseLimit (pollInterval left : Rat) : Nat := ⌈left / pollInterval⌉₊

section

variable {p r r' : Rat}

theorem pauseLimit_mono (hp : 0 < p) (h : r ≤ r') : pauseLimit p r ≤ pauseLimit p r' :=
  Nat.ceil_le_ceil (div_le_div_of_nonneg_right h hp.le)

theorem pauseLimit_of_nonpos (hp : 0 < p) (h : r ≤ 0) : pauseLimit p r = 0 :=
  Nat.ceil_eq_zero.2 (div_nonpos_of_nonpos_of_nonneg h hp.le)

theorem pauseLimit_rest (hp : 0 < p) (hr : 0 < r) :
    pauseLimit p (r - min r p) + 1 = pauseLimit p r := by
  rcases le_total r p with h | h
  · rw [min_eq_left h, sub_self, pauseLimit_of_nonpos hp le_rfl]
    have hle : pauseLimit p r ≤ 1 := by
      rw [pauseLimit, Nat.ceil_le, Nat.cast_one]
      exact (div_le_one hp).2 h
    have hpos : 0 < pauseLimit p r := Nat.ceil_pos.2 (div_pos hr hp)
    omega
  · rw [min_eq_right h, pauseLimit, pauseLimit, sub_div, div_self hp.ne']
    have hone : 1 ≤ r / p := (one_le_div hp).2 h
    rw [← Nat.ceil_add_one (sub_nonneg.2 hone), sub_add_cancel]

end

namespace Table.Lifecycle

variable {l : Lifecycle Rat} {deadline : Rat} {goal : Goal} {tableName : String}
  {w w₁ w' : World Rat}

theorem nap_eq_min (l : Lifecycle Rat) (deadline : Rat) (w : World Rat) :
    l.nap deadline w = min (deadline - w.clock) l.pollInterval := (min_def_lt _ _).symm

/-- A pause that starts then is a real one, not longer than the time between two looks, and over by
the deadline. -/
structure Punctual (l : Lifecycle Rat) (deadline time pause : Rat) : Prop where
  pos : 0 < pause
  le_interval : pause ≤ l.pollInterval
  starts : time < deadline
  ends : time + pause ≤ deadline

theorem punctual_nap (hp : 0 < l.pollInterval) (ht : ¬ TimeUp deadline w.clock) :
    l.Punctual deadline w.clock (l.nap deadline w) := by
  rw [timeUp_iff, not_le] at ht
  rw [nap_eq_min]
  have hle : min (deadline - w.clock) l.pollInterval ≤ deadline - w.clock := min_le_left _ _
  exact ⟨lt_min (sub_pos.2 ht) hp, min_le_right _ _, ht, by linarith⟩

theorem rested_clock (hp : 0 < l.pollInterval) (ht : ¬ TimeUp deadline w.clock) :
    (l.rested deadline w).clock = w.clock + l.nap deadline w := by
  have hpos : ¬ l.nap deadline w < TimeScale.none := not_lt.2 (punctual_nap hp ht).pos.le
  rw [rested, World.waited_clock, if_neg hpos]
  rfl

end Table.Lifecycle

namespace World

/-- When a wait that starts here comes to a pause, after so many others: the looks up to there took
their time, and so did the pauses before it. -/
def pauseTime (w : World Rat) (pauses : List Rat) (k : Nat) : Rat :=
  w.clock + ((w.script.take (k + 1)).map Outcome.elapsed).sum + (pauses.take k).sum

variable {w w₂ : World Rat} {o : Outcome Rat} {script : List (Outcome Rat)}

theorem pauseTime_zero (hs : w.script = o :: script) (pauses : List Rat) :
    w.pauseTime pauses 0 = w.clock + o.elapsed := by
  rw [pauseTime, hs]
  simp only [zero_add, List.take_succ_cons, List.take_zero, List.map_cons, List.map_nil,
    List.sum_cons, List.sum_nil, add_zero]

theorem pauseTime_succ {pause : Rat} (hs : w.script = o :: w₂.script)
    (hclock : w₂.clock = w.clock + o.elapsed + pause) (pauses : List Rat) (k : Nat) :
    w.pauseTime (pause :: pauses) (k + 1) = w₂.pauseTime pauses k := by
  rw [pauseTime, pauseTime, hs, hclock, List.take_succ_cons, List.take_succ_cons, List.map_cons,
    List.sum_cons, List.sum_cons]
  ring

def Timed (w : World Rat) : Prop := ∀ o ∈ w.script, 0 ≤ o.elapsed

end World

namespace Table.Lifecycle

variable {l : Lifecycle Rat} {deadline : Rat} {goal : Goal} {tableName : String}
  {w w₁ w' : World Rat} {made : Nat} {pauses : List Rat} {outcome : Except Failure Status}

theorem LeavesOpen.timed (h : l.LeavesOpen goal tableName w w₁) (ht : w.Timed) :
    ∃ o, w.script = o :: w₁.script ∧ w₁.clock = w.clock + o.elapsed ∧ 0 ≤ o.elapsed ∧
      w₁.Timed := by
  obtain ⟨o, hs, hw⟩ := h.answered
  refine ⟨o, hs, hw.clock, ht o (hs ▸ List.mem_cons_self), ?_⟩
  intro o' ho'
  exact ht o' (hs ▸ List.mem_cons_of_mem o ho')

theorem left_rested (hp : 0 < l.pollInterval) (hd : ¬ TimeUp deadline w.clock) :
    pauseLimit l.pollInterval (deadline - (l.rested deadline w).clock) + 1 =
      pauseLimit l.pollInterval (deadline - w.clock) := by
  rw [rested_clock hp hd, nap_eq_min, ← sub_sub]
  rw [timeUp_iff, not_le] at hd
  exact pauseLimit_rest hp (sub_pos.2 hd)

theorem LeavesOpen.pauseLimit_pos (h : l.LeavesOpen goal tableName w w₁) (hp : 0 < l.pollInterval)
    (ht : w.Timed) (hd : ¬ TimeUp deadline w₁.clock) :
    1 ≤ pauseLimit l.pollInterval (deadline - w.clock) := by
  obtain ⟨o, -, hclock, ho, -⟩ := h.timed ht
  rw [timeUp_iff, not_le] at hd
  exact Nat.ceil_pos.2 (div_pos (by linarith) hp)

theorem LeavesOpen.sum_nap_le (h : l.LeavesOpen goal tableName w w₁) (hp : 0 < l.pollInterval)
    (ht : w.Timed) (hd : ¬ TimeUp deadline w₁.clock) :
    [l.nap deadline w₁].sum ≤ max (deadline - w.clock) 0 := by
  obtain ⟨o, -, hclock, ho, -⟩ := h.timed ht
  have hends := (punctual_nap hp hd).ends
  rw [List.sum_singleton]
  apply le_max_of_le_left
  linarith

theorem LeavesOpen.punctual_nap (h : l.LeavesOpen goal tableName w w₁) (hp : 0 < l.pollInterval)
    (ht : w.Timed) (hd : ¬ TimeUp deadline w₁.clock) (pauses : List Rat) :
    l.Punctual deadline (w.pauseTime pauses 0) (l.nap deadline w₁) := by
  obtain ⟨o, hs, hclock, -, -⟩ := h.timed ht
  rw [World.pauseTime_zero hs, ← hclock]
  exact Lifecycle.punctual_nap hp hd

theorem LeavesOpen.punctual_only (h : l.LeavesOpen goal tableName w w₁) (hp : 0 < l.pollInterval)
    (ht : w.Timed) (hd : ¬ TimeUp deadline w₁.clock) {k : Nat} {pause : Rat}
    (hk : [l.nap deadline w₁][k]? = some pause) :
    l.Punctual deadline (w.pauseTime [l.nap deadline w₁] k) pause := by
  cases k with
  | zero =>
    cases hk
    exact h.punctual_nap hp ht hd _
  | succ k => cases hk

namespace Watched

theorem length_le (hp : 0 < l.pollInterval) (ht : w.Timed)
    (h : l.Watched deadline goal tableName w made pauses w' outcome) :
    pauses.length ≤ pauseLimit l.pollInterval (deadline - w.clock) := by
  induction h with
  | failed h => exact Nat.zero_le _
  | reached h hr => exact Nat.zero_le _
  | timedOut h hd => exact Nat.zero_le _
  | interrupted h hd hc => exact h.pauseLimit_pos hp ht hd
  | refused h hd hc hn => exact h.pauseLimit_pos hp ht hd
  | @next w w₁ _ _ pauses _ h hd hc hn hnext ih =>
    obtain ⟨o, -, hclock, ho, ht₁⟩ := h.timed ht
    have hmono : pauseLimit l.pollInterval (deadline - w₁.clock) ≤
        pauseLimit l.pollInterval (deadline - w.clock) := pauseLimit_mono hp (by linarith)
    calc pauses.length + 1
      _ ≤ pauseLimit l.pollInterval (deadline - (l.rested deadline w₁).clock) + 1 :=
        Nat.succ_le_succ (ih ht₁)
      _ = pauseLimit l.pollInterval (deadline - w₁.clock) := left_rested hp hd
      _ ≤ pauseLimit l.pollInterval (deadline - w.clock) := hmono

theorem sum_le (hp : 0 < l.pollInterval) (ht : w.Timed)
    (h : l.Watched deadline goal tableName w made pauses w' outcome) :
    pauses.sum ≤ max (deadline - w.clock) 0 := by
  induction h with
  | failed h => exact le_max_right _ _
  | reached h hr => exact le_max_right _ _
  | timedOut h hd => exact le_max_right _ _
  | interrupted h hd hc => exact h.sum_nap_le hp ht hd
  | refused h hd hc hn => exact h.sum_nap_le hp ht hd
  | next h hd hc hn hnext ih =>
    obtain ⟨o, -, hclock, ho, ht₁⟩ := h.timed ht
    have hends := (punctual_nap hp hd).ends
    have hsum := ih ht₁
    rw [rested_clock hp hd, max_eq_left (by linarith)] at hsum
    rw [List.sum_cons]
    apply le_max_of_le_left
    linarith

/-- Each pause is in time, by the time at which it starts. -/
theorem punctual (hp : 0 < l.pollInterval) (ht : w.Timed)
    (h : l.Watched deadline goal tableName w made pauses w' outcome) {k : Nat} {pause : Rat}
    (hk : pauses[k]? = some pause) : l.Punctual deadline (w.pauseTime pauses k) pause := by
  induction h generalizing k with
  | failed h => cases hk
  | reached h hr => cases hk
  | timedOut h hd => cases hk
  | interrupted h hd hc => exact h.punctual_only hp ht hd hk
  | refused h hd hc hn => exact h.punctual_only hp ht hd hk
  | @next w w₁ _ _ pauses _ h hd hc hn hnext ih =>
    obtain ⟨o, hs, hclock, -, ht₁⟩ := h.timed ht
    have hscript : w.script = o :: (l.rested deadline w₁).script := hs
    have hrested : (l.rested deadline w₁).clock = w.clock + o.elapsed + l.nap deadline w₁ := by
      rw [rested_clock hp hd, hclock]
    cases k with
    | zero =>
      cases hk
      exact h.punctual_nap hp ht hd _
    | succ k =>
      rw [World.pauseTime_succ hscript hrested]
      exact ih ht₁ hk

theorem not_scriptEnded (hp : 0 < l.pollInterval) (ht : w.Timed)
    (h : l.Watched deadline goal tableName w made pauses w' outcome)
    (hlength : pauseLimit l.pollInterval (deadline - w.clock) < w.script.length)
    (operation : Operation) : outcome ≠ .error (.scriptEnded operation) := by
  induction h with
  | @failed w w₁ e h =>
    rintro ⟨⟩
    cases hs : w.script with
    | nil =>
      rw [hs] at hlength
      exact absurd hlength (Nat.not_lt_zero _)
    | cons o script =>
      rcases look_failure hs h with ⟨f, -, hf⟩ | hdefect
      · rcases f.failure_reported_or_defect with ⟨e, chained, he⟩ | hdefect
        · rw [he] at hf
          cases hf
        · rw [← hf] at hdefect
          exact hdefect
      · exact hdefect
  | reached h hr => rintro ⟨⟩
  | timedOut h hd => rintro ⟨⟩
  | interrupted h hd hc => rintro ⟨⟩
  | refused h hd hc hn => rintro ⟨⟩
  | @next w w₁ _ _ _ _ h hd hc hn hnext ih =>
    obtain ⟨o, hs, hclock, ho, ht₁⟩ := h.timed ht
    have hmono : pauseLimit l.pollInterval (deadline - w₁.clock) ≤
        pauseLimit l.pollInterval (deadline - w.clock) := pauseLimit_mono hp (by linarith)
    apply ih ht₁
    have hleft := left_rested hp hd
    have hscript : (l.rested deadline w₁).script.length + 1 = w.script.length := by
      rw [hs]
      rfl
    omega

end Watched

def expiry (l : Lifecycle Rat) (goal : Goal) (tableName : String) : BenchError :=
  (WaitProblem.timedOut l.maxWait).error goal tableName

theorem interrupted_ne_expiry (l : Lifecycle Rat) (goal : Goal) (tableName : String) :
    (WaitProblem.interrupted : WaitProblem Rat).error goal tableName ≠
      l.expiry goal tableName := by
  intro h
  simp only [expiry, WaitProblem.error, BenchError.provisioning.injEq, Document.text.injEq] at h
  have hchars := congrArg String.toList h
  rw [String.toList_append, String.toList_append, List.append_cancel_left_eq] at hchars
  rw [String.toList_append, String.toList_append] at hchars
  simp at hchars

/-- A wait that ended as its time was up did so after its last look, and not before the deadline. -/
theorem Watched.expired (hp : 0 < l.pollInterval) (ht : w.Timed)
    (h : l.Watched deadline goal tableName w made pauses w' outcome)
    (he : outcome = .error (.reported (l.expiry goal tableName) false))
    (hown : ∀ o ∈ w.script, o.answer ≠ .error (.reported (l.expiry goal tableName))) :
    ∃ last, w.script[pauses.length]? = some last ∧ made = pauses.length + 1 ∧
      w'.clock = w.pauseTime pauses pauses.length ∧ deadline ≤ w'.clock ∧
      (w.clock ≤ deadline → w'.clock ≤ deadline + last.elapsed) := by
  induction h with
  | @failed w w₁ e h =>
    cases he
    cases hs : w.script with
    | nil =>
      rw [look_of_nil hs] at h
      cases h
    | cons o script =>
      rcases look_failure hs h with ⟨f, ho, hf⟩ | hdefect
      · rw [Fault.eq_reported_of_provisioning hf.symm] at ho
        exact absurd ho (hown o (hs ▸ List.mem_cons_self))
      · exact hdefect.elim
  | reached h hr => cases he
  | timedOut h hd =>
    obtain ⟨o, hs, hclock, -, -⟩ := h.timed ht
    rw [timeUp_iff] at hd
    refine ⟨o, by rw [hs]; rfl, rfl, ?_, hd, fun hstart => by linarith⟩
    rw [hclock]
    exact (World.pauseTime_zero hs []).symm
  | interrupted h hd hc =>
    rw [Except.error.injEq, Failure.reported.injEq] at he
    exact absurd he.1 (l.interrupted_ne_expiry goal tableName)
  | refused h hd hc hn => cases he
  | @next w w₁ _ _ _ _ h hd hc hn hnext ih =>
    obtain ⟨o, hs, hclock, -, ht₁⟩ := h.timed ht
    have hscript : w.script = o :: (l.rested deadline w₁).script := hs
    have hrested : (l.rested deadline w₁).clock = w.clock + o.elapsed + l.nap deadline w₁ := by
      rw [rested_clock hp hd, hclock]
    have hends := (punctual_nap hp hd).ends
    obtain ⟨last, hlast, hmade, hend, hlate, hbound⟩ := ih ht₁ he fun o' ho' =>
      hown o' (hs ▸ List.mem_cons_of_mem o ho')
    refine ⟨last, ?_, congrArg (· + 1) hmade, ?_, hlate, fun _ => hbound ?_⟩
    · rw [hs]
      exact hlast
    · rw [hend, List.length_cons]
      exact (World.pauseTime_succ hscript hrested _ _).symm
    · rw [rested_clock hp hd]
      exact hends

/-- A wait looks once at least, and keeps to its time whatever its looks are answered: it makes no
more looks and pauses than fit in before the deadline, and with so many answers it needs no more to
end. All its pauses are in time, and where the time was up the last look was under way at the
deadline; an answer that is the error of such a wait already does not count for that. -/
theorem await_keeps_to_time (l : Lifecycle Rat) (goal : Goal) (tableName : String) {w : World Rat}
    (hp : 0 < l.pollInterval) (ht : w.Timed) :
    let deadline := w.clock + l.maxWait
    let limit := ⌈l.maxWait / l.pollInterval⌉₊
    ∃ made pauses w' outcome, l.await goal tableName w = ofExcept outcome w' ∧
      w'.asked = w.asked ++ List.replicate made (.store, .describeTable (.text tableName)) ∧
      w'.waits = w.waits ++ pauses ∧
      1 ≤ made ∧ made ≤ limit + 1 ∧ pauses.length ≤ limit ∧
      (limit < w.script.length → ∀ operation, outcome ≠ .error (.scriptEnded operation)) ∧
      (∀ k pause, pauses[k]? = some pause →
        l.Punctual deadline (w.pauseTime pauses k) pause) ∧
      pauses.sum ≤ max l.maxWait 0 ∧
      (outcome = .error (.reported (l.expiry goal tableName) false) →
        (∀ o ∈ w.script, o.answer ≠ .error (.reported (l.expiry goal tableName))) →
        ∃ last, w.script[made - 1]? = some last ∧
          w'.clock = w.pauseTime pauses pauses.length ∧ deadline ≤ w'.clock ∧
          (0 ≤ l.maxWait → w'.clock ≤ deadline + last.elapsed)) := by
  intro deadline limit
  obtain ⟨made, pauses, w', outcome, h, hawait⟩ := l.await_watched goal tableName w
  have hleft : deadline - w.clock = l.maxWait := add_sub_cancel_left _ _
  have hlength := h.length_le hp ht
  have hmade := h.made_le
  have hsum := h.sum_le hp ht
  rw [hleft] at hlength hsum
  refine ⟨made, pauses, w', outcome, hawait, h.asked, h.waits, h.made_pos,
    hmade.trans (Nat.succ_le_succ hlength), hlength, ?_, fun k pause => h.punctual hp ht, hsum, ?_⟩
  · intro hscript
    apply h.not_scriptEnded hp ht
    rw [hleft]
    exact hscript
  · intro he hown
    obtain ⟨last, hlast, rfl, hend, hlate, hbound⟩ := h.expired hp ht he hown
    refine ⟨last, hlast, hend, hlate, fun hw => hbound ?_⟩
    exact le_add_of_nonneg_right hw

theorem await_keeps_to_time_slow :
    (0 : Rat) < 2 ∧ slowStore.Timed ∧
      ∃ made pauses w' outcome,
        (Lifecycle.mk .direct 2 3).await .active "bench" slowStore = ofExcept outcome w' ∧
          made ≤ 3 ∧ pauses.length ≤ 2 ∧ w'.waits = pauses ∧ pauses.sum ≤ 3 ∧
          ∀ operation, outcome ≠ .error (.scriptEnded operation) := by
  have hp : (0 : Rat) < 2 := by norm_num
  have ht : slowStore.Timed := by
    simp only [World.Timed, slowStore, List.forall_mem_cons]
    norm_num
  have hlimit : ⌈(3 : Rat) / 2⌉₊ = 2 := by
    rw [Nat.ceil_eq_iff two_ne_zero]
    norm_num
  obtain ⟨made, pauses, w', outcome, hawait, -, hwaits, -, hmade, hlength, hends, -, hsum, -⟩ :=
    await_keeps_to_time (.mk .direct 2 3) .active "bench" hp ht
  rw [hlimit] at hmade hlength hends
  exact ⟨hp, ht, made, pauses, w', outcome, hawait, hmade, hlength, hwaits, hsum,
    hends (by decide)⟩

end Table.Lifecycle

end TableBench
