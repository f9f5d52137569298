import TableBench.Proofs.Table.Watch
import TableBench.Proofs.Time

namespace TableBench

namespace World

/-- No answer takes any time, no wait is cut short and none is too long. -/
structure Quiet (w : World Rat) : Prop where
  script : ∀ o ∈ w.script, o.elapsed = 0
  interruption : w.interruption = {}

variable {w w' : World Rat}

theorem Quiet.of_leads (h : w.Quiet) (hl : w.Leads w') : w'.Quiet where
  script o ho := h.script o (hl.script.subset ho)
  interruption := hl.interruption.trans h.interruption

theorem Quiet.logged (h : w.Quiet) (rs : List LogRecord) : (w.logged rs).Quiet :=
  h.of_leads (.logged w rs)

theorem Quiet.cuts (h : w.Quiet) (n : Nat) : w.interruption.cuts n = false := by
  rw [h.interruption]
  rfl

theorem Quiet.refuses (h : w.Quiet) (t : Rat) : w.interruption.refuses t = false := by
  rw [h.interruption]
  rfl

theorem Quiet.clock_answered (h : w.Quiet) {o : Outcome Rat} {script : List (Outcome Rat)}
    (hs : w.script = o :: script) (target : Target) (request : Request) :
    (w.answered target request o script).clock = w.clock := by
  rw [answered_clock, h.script o (by rw [hs]; exact List.mem_cons_self)]
  exact add_zero _

end World

namespace Table.Lifecycle

open Service

structure Saw (tableName : String) (w w' : World Rat) : Prop where
  script : w'.script.length < w.script.length
  clock : w'.clock = w.clock
  asked : w'.asked = w.asked ++ [(.store, .describeTable (.text tableName))]

variable {tableName : String} {w : World Rat}

theorem Saw.logged {w' : World Rat} (h : Saw tableName w w') (rs : List LogRecord) :
    Saw tableName w (w'.logged rs) :=
  ⟨h.script, h.clock, h.asked⟩

theorem saw_answered (h : w.Quiet) {o : Outcome Rat} {script : List (Outcome Rat)}
    (hs : w.script = o :: script) :
    Saw tableName w (w.answered .store (.describeTable (.text tableName)) o script) where
  script := World.length_lt_of_script hs
  clock := h.clock_answered hs .store (.describeTable (.text tableName))
  asked := w.asked_answered .store (.describeTable (.text tableName)) o script

variable (l : Lifecycle Rat) {deadline : Rat}

theorem pause_of_quiet (goal : Goal) (tableName : String) (h : w.Quiet)
    (hp : 0 < l.pollInterval) (hd : 0 < deadline - w.clock) :
    l.pause deadline goal tableName w =
      .ok () (w.waited (l.nap deadline w) (some (l.nap deadline w))) := by
  have hn : 0 < l.nap deadline w := by
    rw [nap]
    split
    · exact hd
    · exact hp
  have hneg : ¬ l.nap deadline w < TimeScale.none := not_lt.2 hn.le
  rw [l.pause_of_not_cut goal tableName (not_le.2 hd) (h.cuts _) (h.refuses _), rested,
    if_neg hneg]

variable {μ : Type} {S : Service μ} {L : Nat → μ} {n : Nat} {goal : Goal} {status : Status}

/-- What a countdown keeps: so many looks are left and so many were made, and there is time for
those that are left. -/
structure Counting (tableName : String) (pollInterval deadline : Rat) (n : Nat)
    (w w' : World Rat) (j k : Nat) : Prop where
  total : j + k = n
  quiet : w'.Quiet
  time : InTime j pollInterval (deadline - w'.clock)
  asked : w'.asked = w.asked ++ List.replicate k (.store, .describeTable (.text tableName))

theorem Counting.asked_saw {p : Rat} {w₁ w₂ : World Rat} {j k : Nat}
    (h : Counting tableName p deadline n w w₁ j k) (hsaw : Saw tableName w₁ w₂) :
    w₂.asked = w.asked ++ List.replicate (k + 1) (.store, .describeTable (.text tableName)) := by
  rw [hsaw.asked, h.asked, List.append_assoc, List.replicate_succ']

theorem Counting.step {w₁ w₂ : World Rat} {j k : Nat} (hp : 0 < l.pollInterval)
    (h : Counting tableName l.pollInterval deadline n w w₁ (j + 1) k)
    (hsaw : Saw tableName w₁ w₂) (hq : w₂.Quiet) :
    0 < deadline - w₂.clock ∧ Counting tableName l.pollInterval deadline n w
      (w₂.waited (l.nap deadline w₂) (some (l.nap deadline w₂))) j (k + 1) := by
  have htime : InTime (j + 1) l.pollInterval (deadline - w₂.clock) := by
    rw [hsaw.clock]
    exact h.time
  have hnext := htime.pause hp
  rw [sub_sub] at hnext
  have hasked := h.asked_saw hsaw
  have htotal : j + (k + 1) = n := by
    rw [← h.total]
    omega
  constructor
  · exact lt_of_le_of_lt (mul_nonneg (Nat.cast_nonneg j) hp.le) htime.of_succ
  · exact ⟨htotal, ⟨hq.script, hq.interruption⟩, hnext, hasked⟩

/-- A wait reaches its goal when a known number of looks leads there and all of them fit into its
time: it looks once more than that. -/
theorem await_countdown (hw : w.Quiet) (hp : 0 < l.pollInterval)
    (hn : InTime n l.pollInterval l.maxWait)
    (hgoing : ∀ (j : Nat) (w : World Rat), w.Quiet → S.Ensures (L (j + 1)) w (l.look tableName)
      (fun sighting w' m' => Saw tableName w w' ∧ goal.reached? sighting = none ∧ m' = L j)
      (fun _ _ _ => False))
    (hdone : ∀ w : World Rat, w.Quiet → S.Ensures (L 0) w (l.look tableName)
      (fun sighting w' m' => Saw tableName w w' ∧ goal.reached? sighting = some status ∧ m' = L 0)
      (fun _ _ _ => False)) :
    S.Ensures (L n) w (l.await goal tableName)
      (fun reached w' m' => reached = status ∧ m' = L 0 ∧ w'.asked = w.asked ++
        List.replicate (n + 1) (.store, .describeTable (.text tableName)))
      (fun _ _ _ => False) := by
  -- the state of the service says how many looks are left
  apply Ensures.await (I := fun w' m => ∃ j k, m = L j ∧
    Counting tableName l.pollInterval (w.clock + l.maxWait) n w w' j k)
  · intro w₁ m h
    obtain ⟨j, k, rfl, hc⟩ := h
    cases j with
    | zero =>
      refine (hdone w₁ hc.quiet).mono ?_ fun _ _ _ => False.elim
      intro sighting w₂ m₂ h
      obtain ⟨hsaw, hr, rfl⟩ := h
      rw [hr]
      have hk : k = n := by
        rw [← hc.total, Nat.zero_add]
      subst hk
      have hasked := hc.asked_saw hsaw
      exact ⟨hsaw.script, rfl, rfl, hasked⟩
    | succ j =>
      refine (hgoing j w₁ hc.quiet).leads.mono ?_ fun _ _ _ h => h.2
      intro sighting w₂ m₂ h
      obtain ⟨hleads, hsaw, hr, rfl⟩ := h
      have hq : (w₂.sighted goal tableName sighting).Quiet := (hc.quiet.of_leads hleads).logged _
      obtain ⟨hpos, hstep⟩ := hc.step l hp (hsaw.logged _) hq
      rw [hr]
      refine ⟨hsaw.script, ?_⟩
      exact .of_ok (l.pause_of_quiet goal tableName hq hp hpos) rfl ⟨j, k + 1, rfl, hstep⟩
  · refine ⟨n, 0, rfl, Nat.add_zero n, hw, ?_, (List.append_nil _).symm⟩
    rw [add_sub_cancel_left]
    exact hn

end Table.Lifecycle

end TableBench
