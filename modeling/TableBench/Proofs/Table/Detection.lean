import TableBench.Proofs.Table.Deadline

namespace TableBench

open Run

namespace Table

/-- A look that is answered with a description finds the table as that says. -/
def Finds (answer : Answer) (t : Descriptor) : Prop :=
  ∃ response part, answer = .ok response ∧ response.require "Table" = .ok part ∧
    Descriptor.ofDescription part = .ok t

inductive Goal.ReachedBy : Goal → Answer → Prop
  | active {answer : Answer} {t : Descriptor} (h : Finds answer t) (hs : t.status = .active) :
    ReachedBy .active answer
  | gone {f : Fault} (hf : f.SaysMissing) : ReachedBy .deleted (.error f)

/-- The answer shows that the goal is not reached yet: the table is not active, or still there. -/
inductive Goal.OpenAfter : Goal → Answer → Prop
  | unseen {f : Fault} (hf : f.SaysMissing) : OpenAfter .active (.error f)
  | inactive {answer : Answer} {t : Descriptor} (h : Finds answer t) (hs : t.status ≠ .active) :
    OpenAfter .active answer
  | present {answer : Answer} {t : Descriptor} (h : Finds answer t) : OpenAfter .deleted answer

namespace Lifecycle

section

variable {T : Type} [TimeScale T] (l : Lifecycle T) {goal : Goal} (tableName : String)
  {w : World T} {o : Outcome T} {script : List (Outcome T)}

theorem look_of_finds {t : Descriptor} (hs : w.script = o :: script) (h : Finds o.answer t) :
    ∃ w₁, l.look tableName w = .ok (.present t.status) w₁ := by
  obtain ⟨response, part, ho, hpart, ht⟩ := h
  exact ⟨_, look_of_read hs ho hpart ht⟩

theorem look_of_reachedBy (hs : w.script = o :: script) (ha : goal.ReachedBy o.answer) :
    ∃ sighting w₁, l.look tableName w = .ok sighting w₁ ∧
      goal.reached? sighting = some goal.status := by
  generalize ho : o.answer = answer at ha
  cases ha with
  | active h hactive =>
    obtain ⟨w₁, hlook⟩ := l.look_of_finds tableName hs (ho ▸ h)
    rw [hactive] at hlook
    exact ⟨_, w₁, hlook, rfl⟩
  | gone hf => exact ⟨_, _, look_of_missing hs ho hf, rfl⟩

theorem look_of_openAfter (hs : w.script = o :: script) (ha : goal.OpenAfter o.answer) :
    ∃ sighting w₁, l.look tableName w = .ok sighting w₁ ∧ goal.reached? sighting = none := by
  generalize ho : o.answer = answer at ha
  cases ha with
  | unseen hf => exact ⟨_, _, look_of_missing hs ho hf, rfl⟩
  | @inactive _ t h hinactive =>
    obtain ⟨w₁, hlook⟩ := l.look_of_finds tableName hs (ho ▸ h)
    refine ⟨_, w₁, hlook, ?_⟩
    cases hstatus : t.status with
    | active => exact absurd hstatus hinactive
    | _ => rfl
  | present h =>
    obtain ⟨w₁, hlook⟩ := l.look_of_finds tableName hs (ho ▸ h)
    exact ⟨_, w₁, hlook, rfl⟩

end

variable {l : Lifecycle Rat} {deadline : Rat} {goal : Goal} {tableName : String}
  {w w₁ w' : World Rat} {o : Outcome Rat} {script : List (Outcome Rat)} {made : Nat}
  {pauses : List Rat} {outcome : Except Failure Status}

theorem LeavesOpen.quiet (h : l.LeavesOpen goal tableName w w₁) (hq : w.Quiet)
    (hs : w.script = o :: script) :
    w₁.script = script ∧ w₁.clock = w.clock ∧ w₁.Quiet ∧ w.Answered tableName o w₁ := by
  obtain ⟨o', hs', hw⟩ := h.answered
  rw [hs] at hs'
  obtain ⟨rfl, rfl⟩ := List.cons.inj hs'
  refine ⟨rfl, ?_, ⟨?_, hw.interruption.trans hq.interruption⟩, hw⟩
  · rw [hw.clock, World.firstLook, hq.script o (hs ▸ List.mem_cons_self), add_zero]
  · intro o' ho'
    exact hq.script o' (hs ▸ List.mem_cons_of_mem o ho')

namespace Watched

theorem of_reachedBy (h : l.Watched deadline goal tableName w made pauses w' outcome)
    (hs : w.script = o :: script) (ha : goal.ReachedBy o.answer) :
    outcome = .ok goal.status ∧ made = 1 := by
  obtain ⟨sighting, w₁, hlook, hsome⟩ := l.look_of_reachedBy tableName hs ha
  have hclosed : ∀ w₂, ¬ l.LeavesOpen goal tableName w w₂ := by
    rintro w₂ ⟨sighting', w₀, hlook', hnone, -⟩
    rw [hlook] at hlook'
    cases hlook'
    rw [hnone] at hsome
    cases hsome
  cases h with
  | failed h =>
    rw [hlook] at h
    cases h
  | reached h hr =>
    rw [hlook] at h
    cases h
    rw [hsome] at hr
    cases hr
    exact ⟨rfl, rfl⟩
  | timedOut h => exact absurd h (hclosed _)
  | interrupted h => exact absurd h (hclosed _)
  | refused h => exact absurd h (hclosed _)
  | next h => exact absurd h (hclosed _)

/-- After a look that sees the goal open, a wait that nothing cuts short is over as its time is up,
or goes on after a pause. -/
theorem of_openAfter (h : l.Watched deadline goal tableName w made pauses w' outcome)
    (hq : w.Quiet) (hs : w.script = o :: script) (ha : goal.OpenAfter o.answer) :
    ∃ w₁, l.LeavesOpen goal tableName w w₁ ∧
      (TimeUp deadline w₁.clock ∧ made = 1 ∧ w' = w₁ ∧
          outcome = .error (.reported (l.expiry goal tableName) false) ∨
        ¬ TimeUp deadline w₁.clock ∧ ∃ made' pauses', made = made' + 1 ∧
          l.Watched deadline goal tableName (l.rested deadline w₁) made' pauses' w' outcome) := by
  obtain ⟨sighting, w₂, hlook, hnone⟩ := l.look_of_openAfter tableName hs ha
  cases h with
  | failed h =>
    rw [hlook] at h
    cases h
  | reached h hr =>
    rw [hlook] at h
    cases h
    rw [hnone] at hr
    cases hr
  | timedOut h hd => exact ⟨_, h, .inl ⟨hd, rfl, rfl, rfl⟩⟩
  | interrupted h hd hc =>
    obtain ⟨-, -, hq₁, -⟩ := h.quiet hq hs
    rw [hq₁.cuts] at hc
    cases hc
  | refused h hd hc hn =>
    obtain ⟨-, -, hq₁, -⟩ := h.quiet hq hs
    rw [hq₁.refuses] at hn
    cases hn
  | next h hd hc hn hnext => exact ⟨_, h, .inr ⟨hd, _, _, rfl, hnext⟩⟩

/-- With the goal so many looks away, a wait reaches it at the last of them, or is late for it. -/
theorem countdown (hp : 0 < l.pollInterval) (hq : w.Quiet)
    (h : l.Watched deadline goal tableName w made pauses w' outcome)
    {pending : List (Outcome Rat)} (hs : w.script = pending ++ o :: script)
    (hpending : ∀ o ∈ pending, goal.OpenAfter o.answer) (ho : goal.ReachedBy o.answer) :
    (InTime pending.length l.pollInterval (deadline - w.clock) →
      outcome = .ok goal.status ∧ made = pending.length + 1) ∧
    (¬ InTime pending.length l.pollInterval (deadline - w.clock) →
      outcome = .error (.reported (l.expiry goal tableName) false) ∧
        made = pauseLimit l.pollInterval (deadline - w.clock) + 1 ∧
        (w.clock ≤ deadline → w'.clock = deadline)) := by
  -- on the looks that see the goal open; a pause uses up the time of one of them
  induction pending generalizing w made pauses with
  | nil => exact ⟨fun _ => h.of_reachedBy hs ho, fun hlate => absurd (.inl rfl) hlate⟩
  | cons first pending ih =>
    obtain ⟨w₁, hopen, hrest⟩ := h.of_openAfter hq hs (hpending first List.mem_cons_self)
    obtain ⟨hscript, hclock, hq₁, -⟩ := hopen.quiet hq hs
    rcases hrest with ⟨hd, rfl, rfl, rfl⟩ | ⟨hd, made, pauses, rfl, hnext⟩
    · rw [timeUp_iff, hclock] at hd
      constructor
      · intro htime
        have hlooks : 0 ≤ (pending.length : Rat) * l.pollInterval :=
          mul_nonneg (Nat.cast_nonneg _) hp.le
        have htime := htime.of_succ
        linarith
      · intro _
        rw [pauseLimit_of_nonpos hp (sub_nonpos.2 hd)]
        exact ⟨rfl, rfl, fun hstart => hclock.trans (le_antisymm hstart hd)⟩
    · have hlimit := left_rested hp hd
      have hrested : (l.rested deadline w₁).clock ≤ deadline := by
        rw [rested_clock hp hd]
        exact (punctual_nap hp hd).ends
      have hleft : deadline - (l.rested deadline w₁).clock =
          deadline - w.clock - min (deadline - w.clock) l.pollInterval := by
        rw [rested_clock hp hd, nap_eq_min, hclock, sub_sub]
      have hpos : 0 < deadline - w.clock := by
        rwa [timeUp_iff, not_le, hclock, ← sub_pos] at hd
      have hq₂ : (l.rested deadline w₁).Quiet := ⟨hq₁.script, hq₁.interruption⟩
      obtain ⟨hintime, hlate⟩ := ih hq₂ hnext hscript
        fun o ho => hpending o (List.mem_cons_of_mem first ho)
      rw [hleft, ← InTime.succ_iff hp hpos] at hintime hlate
      rw [hleft, hclock] at hlimit
      constructor
      · intro htime
        obtain ⟨houtcome, rfl⟩ := hintime htime
        exact ⟨houtcome, rfl⟩
      · intro htime
        obtain ⟨houtcome, rfl, hend⟩ := hlate htime
        exact ⟨houtcome, congrArg (· + 1) hlimit, fun _ => hend hrested⟩

/-- A wait sees its goal where every look from some time on does, and that is not after the
deadline. -/
theorem detects (hp : 0 < l.pollInterval) (hq : w.Quiet)
    (h : l.Watched deadline goal tableName w made pauses w' outcome)
    (hlength : pauseLimit l.pollInterval (deadline - w.clock) < w.script.length) {since : Rat}
    (hsince : since ≤ deadline)
    (hlooks : ∀ look ∈ l.looks deadline w,
      goal.OpenAfter look.answer ∨ goal.ReachedBy look.answer)
    (hstays : ∀ look ∈ l.looks deadline w, since ≤ look.time → goal.ReachedBy look.answer) :
    outcome = .ok goal.status := by
  -- on the answers that are left; the time is up only at a look that has to see the goal
  induction hs : w.script generalizing w made pauses with
  | nil =>
    rw [hs] at hlength
    exact absurd hlength (Nat.not_lt_zero _)
  | cons o script ih =>
    have hfirst : w.firstLook o ∈ l.looks deadline w := by
      rw [looks_of_cons hs]
      exact List.mem_cons_self
    rcases hlooks _ hfirst with ha | ha
    · obtain ⟨w₁, hopen, hrest⟩ := h.of_openAfter hq hs ha
      obtain ⟨hscript, hclock, hq₁, hw⟩ := hopen.quiet hq hs
      rcases hrest with ⟨hd, -, -, -⟩ | ⟨hd, made, pauses, -, hnext⟩
      · rw [timeUp_iff, hw.clock] at hd
        exact (h.of_reachedBy hs (hstays _ hfirst (hsince.trans hd))).1
      · have hlimit := left_rested hp hd
        have hlooks₁ : l.looks deadline w = _ := looks_of_answered hs hw
        rw [hlooks₁] at hlooks hstays
        rw [hs, List.length_cons, ← hclock, ← hlimit, Nat.succ_lt_succ_iff, ← hscript] at hlength
        have hq₂ : (l.rested deadline w₁).Quiet := ⟨hq₁.script, hq₁.interruption⟩
        exact ih hq₂ hnext hlength
          (fun look hl => hlooks look (List.mem_cons_of_mem _ hl))
          (fun look hl => hstays look (List.mem_cons_of_mem _ hl)) hscript
    · exact (h.of_reachedBy hs ha).1

end Watched

/-- Where looks take no time and nothing cuts a pause short, a wait that sees its goal open at so
many looks reaches it at the next one exactly if all of them fit in before the deadline. Else it
fails with a look at the deadline itself. A goal that is reached by the deadline, and stays so, is
never missed. -/
theorem await_detects_by_deadline (l : Lifecycle Rat) (goal : Goal) (tableName : String)
    {w : World Rat} (hp : 0 < l.pollInterval) (hq : w.Quiet) :
    let deadline := w.clock + l.maxWait
    let limit := ⌈l.maxWait / l.pollInterval⌉₊
    let asked (made : Nat) := w.asked ++ List.replicate made
      ((.store, .describeTable (.text tableName)) : Target × Request)
    (∀ pending o script, w.script = pending ++ o :: script →
      (∀ o ∈ pending, goal.OpenAfter o.answer) → goal.ReachedBy o.answer →
      let n : Nat := pending.length
      (n = 0 ∨ ((n : Rat) - 1) * l.pollInterval < l.maxWait →
        ∃ w', l.await goal tableName w = .ok goal.status w' ∧ w'.asked = asked (n + 1)) ∧
      (¬ (n = 0 ∨ ((n : Rat) - 1) * l.pollInterval < l.maxWait) →
        ∃ w', l.await goal tableName w =
            .error (.reported (l.expiry goal tableName) false) w' ∧
          w'.asked = asked (limit + 1) ∧ (0 ≤ l.maxWait → w'.clock = deadline))) ∧
    (∀ since ≤ deadline, limit < w.script.length →
      (∀ look ∈ l.looks deadline w,
        goal.OpenAfter look.answer ∨ goal.ReachedBy look.answer) →
      (∀ look ∈ l.looks deadline w, since ≤ look.time → goal.ReachedBy look.answer) →
      ∃ w', l.await goal tableName w = .ok goal.status w') := by
  intro deadline limit asked
  obtain ⟨made, pauses, w', outcome, h, hawait⟩ := l.await_watched goal tableName w
  have hasked := h.asked
  have hleft : deadline - w.clock = l.maxWait := add_sub_cancel_left _ _
  constructor
  · intro pending o script hs hpending ho n
    obtain ⟨hintime, hlate⟩ := h.countdown hp hq hs hpending ho
    rw [hleft] at hintime hlate
    constructor
    · intro htime
      obtain ⟨rfl, rfl⟩ := hintime htime
      exact ⟨w', hawait, hasked⟩
    · intro htime
      obtain ⟨rfl, rfl, hend⟩ := hlate htime
      exact ⟨w', hawait, hasked, fun hstart => hend (le_add_of_nonneg_right hstart)⟩
  · intro since hsince hlength hlooks hstays
    have hlimit : pauseLimit l.pollInterval (deadline - w.clock) < w.script.length := by
      rw [hleft]
      exact hlength
    obtain rfl := h.detects hp hq hlimit hsince hlooks hstays
    exact ⟨w', hawait⟩

def inService : Document :=
  .object [("Table", .object [("TableName", .text "bench"), ("TableStatus", .text "ACTIVE")])]

/-- Surroundings in which the third look at a table is the first to see it active. -/
def thirdTime : World Rat where
  clock := 10
  source := { value := fun _ => "" }
  script := [⟨.error notYetThere, 0⟩, ⟨.ok underCreation, 0⟩, ⟨.ok inService, 0⟩]

theorem await_detects_by_deadline_third :
    (0 : Rat) < 2 ∧ thirdTime.Quiet ∧
      (∃ w', (Lifecycle.mk .direct 2 3).await .active "bench" thirdTime = .ok .active w' ∧
        w'.asked = List.replicate 3 (.store, .describeTable (.text "bench"))) ∧
      ∃ w', (Lifecycle.mk .direct 2 2).await .active "bench" thirdTime =
          .error (.reported ((Lifecycle.mk .direct 2 2).expiry .active "bench") false) w' ∧
        w'.asked = List.replicate 2 (.store, .describeTable (.text "bench")) ∧ w'.clock = 12 := by
  have hp : (0 : Rat) < 2 := by norm_num
  have hq : thirdTime.Quiet := by
    refine ⟨?_, rfl⟩
    simp [thirdTime]
  have horderly : notYetThere.Orderly := ⟨.inr ⟨_, rfl⟩, .inr ⟨_, rfl⟩⟩
  have hmissing : notYetThere.SaysMissing :=
    horderly.saysMissing_iff.2 ⟨_, rfl, rfl, .inr ⟨_, rfl⟩⟩
  have hcreating : Goal.active.OpenAfter (.ok underCreation) :=
    .inactive ⟨_, _, rfl, rfl, rfl⟩ (by decide)
  have hactive : Goal.active.ReachedBy (.ok inService) := .active ⟨_, _, rfl, rfl, rfl⟩ rfl
  have hpending : ∀ o ∈ [(⟨.error notYetThere, 0⟩ : Outcome Rat), ⟨.ok underCreation, 0⟩],
      Goal.active.OpenAfter o.answer := by
    simp only [List.forall_mem_cons]
    exact ⟨.unseen hmissing, hcreating, List.forall_mem_nil _⟩
  obtain ⟨hlong, -⟩ := await_detects_by_deadline (.mk .direct 2 3) .active "bench" hp hq
  obtain ⟨hshort, -⟩ := await_detects_by_deadline (.mk .direct 2 2) .active "bench" hp hq
  obtain ⟨w₁, hok, hasked⟩ := (hlong _ _ _ rfl hpending hactive).1 (by norm_num)
  obtain ⟨w₂, herror, hasked', hclock⟩ := (hshort _ _ _ rfl hpending hactive).2 (by norm_num)
  refine ⟨hp, hq, ⟨w₁, hok, hasked⟩, w₂, herror, ?_, ?_⟩
  · have hlimit : ⌈(2 : Rat) / 2⌉₊ = 1 := by norm_num
    rw [hlimit] at hasked'
    exact hasked'
  · rw [hclock (by norm_num)]
    norm_num [thirdTime]

end Lifecycle

end Table

end TableBench
