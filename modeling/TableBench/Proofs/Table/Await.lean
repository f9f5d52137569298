import TableBench.Proofs.Run.Exchange
import TableBench.Proofs.Table.Life

namespace TableBench

open Run

/-- The fault is told as one about a table that does not exist. -/
def Fault.SaysMissing (f : Fault) : Prop :=
  ∃ e chained, f.failure = .reported e chained ∧ e.code? = some notFoundCode

/-- Of all that a store says only the code counts. -/
theorem Fault.Orderly.saysMissing_iff {f : Fault} (h : f.Orderly) :
    f.SaysMissing ↔ f.Rejects notFoundCode := by
  constructor
  · rintro ⟨e, chained, hf, hcode⟩
    exact (h.rejects_iff hf (by decide)).2 hcode
  · intro hr
    exact hr.failure (by decide)

namespace Table

/-- An answer that a look can take: any fault, or a description as the store gives them. -/
inductive LookAnswer : Answer → Prop
  | fault (f : Fault) : LookAnswer (.error f)
  | described {response fs : Fields} (h : response.lookup "Table" = some (.object fs))
    (hfs : Descriptor.Orderly fs) : LookAnswer (.ok (.object response))

/-- What a wait comes to by an answer alone. -/
inductive Goal.Decides : Goal → Answer → Except Failure Status → Prop
  | active {response fs : Fields} (h : response.lookup "Table" = some (.object fs))
    (hs : fs.lookup "TableStatus" = some (.text "ACTIVE")) :
    Decides .active (.ok (.object response)) (.ok .active)
  | gone {f : Fault} (hf : f.SaysMissing) : Decides .deleted (.error f) (.ok .absent)
  | failed (goal : Goal) {f : Fault} (hf : ¬ f.SaysMissing) :
    Decides goal (.error f) (.error f.failure)

inductive Goal.Missed (tableName : String) : Goal → String → Prop
  | active : Missed tableName .active ("Table '" ++ tableName ++ "' did not become ACTIVE")
  | deleted : Missed tableName .deleted ("Table '" ++ tableName ++ "' was not deleted")

theorem Goal.missed_iff {goal : Goal} {tableName text : String} :
    goal.Missed tableName text ↔ text = goal.complaint tableName := by
  constructor
  · intro h
    cases h <;> rfl
  · rintro rfl
    cases goal
    · exact .active
    · exact .deleted

/-- A look in the course of a wait: what it was answered and when, and whether a pause after it is
cut short. -/
structure Look (T : Type) where
  answer : Answer
  time : T
  cut : Bool

def Look.event {T : Type} (tableName : String) (look : Look T) : Event :=
  .call .store (.describeTable (.text tableName)) (some look.answer)

variable {T : Type} [TimeScale T]

def TimeUp (deadline time : T) : Prop := deadline - time ≤ TimeScale.none

namespace Lifecycle

variable (l : Lifecycle T)

def rest (deadline time : T) : T :=
  if deadline - time < l.pollInterval then deadline - time else l.pollInterval

/-- The time after that pause, which never goes back. -/
def afterRest (deadline time : T) : T :=
  time + if l.rest deadline time < TimeScale.none then TimeScale.none else l.rest deadline time

/-- The looks that the answers allow for, with pauses between them. -/
def looksFrom (deadline : T) (cuts : Nat → Bool) : T → Nat → List (Outcome T) → List (Look T)
  | _, _, [] => []
  | clock, waits, o :: script =>
    ⟨o.answer, clock + o.elapsed, cuts (waits + 1)⟩ ::
      looksFrom deadline cuts (l.afterRest deadline (clock + o.elapsed)) (waits + 1) script

def looks (deadline : T) (w : World T) : List (Look T) :=
  l.looksFrom deadline w.interruption.cuts w.clock w.waits.length w.script

/-- A wait ends at a look: by its answer, or undecided as the time is up, or undecided in the one
pause after it, which is cut short or too long to be waited for. -/
inductive Stops (i : Interruption) (deadline : T) (goal : Goal) (tableName : String) :
    Look T → Nat → Except Failure Status → Prop
  | decided {look : Look T} {result : Except Failure Status}
    (h : goal.Decides look.answer result) : Stops i deadline goal tableName look 0 result
  | timedOut {look : Look T} {text : String} (h : ∀ result, ¬ goal.Decides look.answer result)
    (ht : TimeUp deadline look.time) (hm : goal.Missed tableName text) :
    Stops i deadline goal tableName look 0 (.error (.reported (.provisioning
      (.text (text ++ " within " ++ TimeScale.text l.maxWait ++ "s"))) false))
  | interrupted {look : Look T} {text : String} (h : ∀ result, ¬ goal.Decides look.answer result)
    (ht : ¬ TimeUp deadline look.time) (hc : look.cut = true) (hm : goal.Missed tableName text) :
    Stops i deadline goal tableName look 1 (.error (.reported (.provisioning
      (.text (text ++ ": wait was interrupted"))) false))
  | tooLong {look : Look T} (h : ∀ result, ¬ goal.Decides look.answer result)
    (ht : ¬ TimeUp deadline look.time) (hc : look.cut = false)
    (hn : i.refuses (l.rest deadline look.time) = true) : Stops i deadline goal tableName look 1
      (.error (.overflow "timestamp out of range for platform time_t"))

structure GoesOn (i : Interruption) (deadline : T) (goal : Goal) (look : Look T) : Prop where
  undecided : ∀ result, ¬ goal.Decides look.answer result
  inTime : ¬ TimeUp deadline look.time
  uncut : look.cut = false
  fits : i.refuses (l.rest deadline look.time) = false

end Lifecycle

end Table

def World.firstLook {T : Type} [TimeScale T] (w : World T) (o : Outcome T) : Table.Look T :=
  ⟨o.answer, w.clock + o.elapsed, w.interruption.cuts (w.waits.length + 1)⟩

structure World.Answered {T : Type} [TimeScale T] (w : World T) (tableName : String)
    (o : Outcome T) (w' : World T) : Prop where
  exchanged : w.Exchanged [(w.firstLook o).event tableName] w'
  clock : w'.clock = (w.firstLook o).time
  waits : w'.waits = w.waits
  interruption : w'.interruption = w.interruption

namespace World.Answered

variable {T : Type} [TimeScale T] {w w' : World T} {tableName : String} {o : Outcome T}

theorem of_answered {script : List (Outcome T)} (tableName : String)
    (hs : w.script = o :: script) : w.Answered tableName o
      (w.answered .store (.describeTable (.text tableName)) o script) where
  exchanged := ⟨rfl, by rw [hs]; rfl, rfl⟩
  clock := rfl
  waits := rfl
  interruption := rfl

theorem logged (h : w.Answered tableName o w') (rs : List LogRecord) :
    w.Answered tableName o (w'.logged rs) :=
  ⟨h.exchanged.logged rs, h.clock, h.waits, h.interruption⟩

theorem cuts (h : w.Answered tableName o w') :
    w'.interruption.cuts (w'.waits.length + 1) = (w.firstLook o).cut := by
  rw [h.interruption, h.waits]
  rfl

theorem nap (h : w.Answered tableName o w') (l : Table.Lifecycle T) (deadline : T) :
    l.nap deadline w' = l.rest deadline (w.firstLook o).time := by
  rw [Table.Lifecycle.nap, h.clock]
  rfl

theorem refuses (h : w.Answered tableName o w') (l : Table.Lifecycle T) (deadline : T) :
    w'.interruption.refuses (l.nap deadline w') =
      w.interruption.refuses (l.rest deadline (w.firstLook o).time) := by
  rw [h.interruption, h.nap]

theorem waits_waited {t : T} (h : w.Answered tableName o w') (passed : Option T) :
    (w'.waited t passed).waits = w.waits ++ List.replicate 1 t := by
  rw [World.waited_waits, h.waits]
  rfl

end World.Answered

namespace Table.Lifecycle

variable {T : Type} [TimeScale T] {l : Lifecycle T} {deadline : T} {goal : Goal}
  {tableName : String} {w : World T}

theorem watch_of_look {sighting : Sighting} {w' : World T}
    (h : l.look tableName w = .ok sighting w') (n : Nat) :
    l.watch deadline goal tableName (n + 1) w =
      (match goal.reached? sighting with
        | some status => pure status
        | none => do
          l.pause deadline goal tableName
          l.watch deadline goal tableName n : Run T Status)
        (w'.sighted goal tableName sighting) := by
  rw [watch, bind_of_ok h]
  cases hm : goal.mentions sighting with
  | true =>
    rw [World.sighted, hm]
    rfl
  | false =>
    have hw : w'.sighted goal tableName sighting = w' := by
      rw [World.sighted, hm, if_neg Bool.false_ne_true, World.logged_nil]
    rw [hw]
    rfl

section

variable {o : Outcome T} {script : List (Outcome T)} (hs : w.script = o :: script)
include hs

theorem look_of_read {response part : Document} {t : Descriptor} (ho : o.answer = .ok response)
    (h : response.require "Table" = .ok part) (ht : Descriptor.ofDescription part = .ok t) :
    l.look tableName w =
      .ok (.present t.status) (w.answered .store (.describeTable (.text tableName)) o script) := by
  have hdescribe : l.describe tableName w =
      .ok t (w.answered .store (.describeTable (.text tableName)) o script) := by
    rw [describe, Client.describeTable, bind_assoc, bind_of_ok (call_of_response hs ho), h,
      ofExcept_ok, pure_bind, ht]
    rfl
  rw [look, bind_of_ok (attempt_of_ok hdescribe)]
  rfl

theorem look_of_described {response fs : Fields} (ho : o.answer = .ok (.object response))
    (h : response.lookup "Table" = some (.object fs)) (hfs : Descriptor.Orderly fs) :
    l.look tableName w =
      .ok (.present (.ofService (.orNull (fs.lookup "TableStatus"))))
        (w.answered .store (.describeTable (.text tableName)) o script) := by
  obtain ⟨t, ht, hstatus⟩ := hfs.ofDescription_status
  rw [look_of_read hs ho (Descriptor.require_object h) ht, hstatus]

theorem describe_of_fault {f : Fault} (ho : o.answer = .error f) :
    l.describe tableName w = .error f.failure
      ((w.answered .store (.describeTable (.text tableName)) o script).logged f.records) := by
  rw [describe, Client.describeTable, bind_assoc]
  exact bind_of_error (call_of_fault hs ho) _

theorem look_of_missing {f : Fault} (ho : o.answer = .error f) (hf : f.SaysMissing) :
    l.look tableName w = .ok .missing
      ((w.answered .store (.describeTable (.text tableName)) o script).logged f.records) := by
  obtain ⟨e, chained, hf, hcode⟩ := hf
  rw [look, bind_of_ok (attempt_of_error (describe_of_fault hs ho)), hf]
  simp only [hcode, beq_self_eq_true, if_true]
  rfl

theorem look_of_failed {f : Fault} (ho : o.answer = .error f) (hf : ¬ f.SaysMissing) :
    l.look tableName w = .error f.failure
      ((w.answered .store (.describeTable (.text tableName)) o script).logged f.records) := by
  rw [look, bind_of_ok (attempt_of_error (describe_of_fault hs ho))]
  cases hfailure : f.failure with
  | reported e chained =>
    have hcode : e.code? ≠ some notFoundCode := fun hcode => hf ⟨e, chained, hfailure, hcode⟩
    simp only [beq_iff_eq, hcode, if_false]
    rfl
  | _ => rfl

variable (l deadline tableName) in
theorem watch_of_decides {result : Except Failure Status} (hd : goal.Decides o.answer result)
    (ha : LookAnswer o.answer) (n : Nat) :
    ∃ w₁, w.Answered tableName o w₁ ∧
      l.watch deadline goal tableName (n + 1) w = ofExcept result w₁ := by
  have hw := World.Answered.of_answered tableName hs
  generalize ho : o.answer = a at hd ha
  cases hd with
  | active h hactive =>
    cases ha with
    | described h' hfs =>
      cases h.symm.trans h'
      rw [watch_of_look (look_of_described hs ho h hfs),
        (Status.ofService_eq_active_iff _).2 hactive]
      exact ⟨_, hw.logged _, rfl⟩
  | gone hf =>
    rw [watch_of_look (look_of_missing hs ho hf)]
    exact ⟨_, (hw.logged _).logged _, rfl⟩
  | failed _ hf =>
    rw [watch, bind_of_error (look_of_failed hs ho hf)]
    exact ⟨_, hw.logged _, rfl⟩

variable (l deadline tableName) in
theorem watch_of_undecided (hd : ∀ result, ¬ goal.Decides o.answer result)
    (ha : LookAnswer o.answer) (n : Nat) :
    ∃ w₁, w.Answered tableName o w₁ ∧ l.watch deadline goal tableName (n + 1) w =
      (do
        l.pause deadline goal tableName
        l.watch deadline goal tableName n : Run T Status) w₁ := by
  have hw := World.Answered.of_answered tableName hs
  generalize ho : o.answer = a at hd ha
  cases ha with
  | fault f =>
    have hf : f.SaysMissing := Classical.not_not.1 fun hf => hd _ (.failed goal hf)
    rw [watch_of_look (look_of_missing hs ho hf)]
    cases goal with
    | active => exact ⟨_, (hw.logged _).logged _, rfl⟩
    | deleted => exact absurd (.gone hf) (hd _)
  | described h hfs =>
    rw [watch_of_look (look_of_described hs ho h hfs)]
    cases goal with
    | active =>
      have hne := mt (Status.ofService_eq_active_iff _).1 fun hactive => hd _ (.active h hactive)
      generalize Status.ofService _ = status at hne
      cases status with
      | active => exact absurd rfl hne
      | _ => exact ⟨_, hw.logged _, rfl⟩
    | deleted => exact ⟨_, hw.logged _, rfl⟩

theorem looks_of_cons : l.looks deadline w = w.firstLook o ::
    l.looksFrom deadline w.interruption.cuts (l.afterRest deadline (w.firstLook o).time)
      (w.waits.length + 1) script := by
  rw [looks, hs]
  rfl

/-- After a pause the rest of the looks is what a wait from there can take. -/
theorem looks_of_answered {w₁ : World T} (hw : w.Answered tableName o w₁) :
    l.looks deadline w = w.firstLook o :: l.looks deadline (l.rested deadline w₁) := by
  have hscript : w₁.script = script := by
    rw [hw.exchanged.script, hs]
    rfl
  rw [looks_of_cons hs, looks, rested, World.waited_interruption, World.waited_clock,
    World.waited_waits, World.waited_script, hscript, hw.nap, hw.interruption, hw.waits, hw.clock,
    List.length_append]
  rfl

theorem watch_of_stops {waited : Nat} {result : Except Failure Status}
    (hstop : l.Stops w.interruption deadline goal tableName (w.firstLook o) waited result)
    (ha : LookAnswer o.answer) (n : Nat) :
    ∃ w₁, w.Exchanged [(w.firstLook o).event tableName] w₁ ∧ w₁.clock = (w.firstLook o).time ∧
      w₁.waits = w.waits ++ List.replicate waited (l.rest deadline (w.firstLook o).time) ∧
      l.watch deadline goal tableName (n + 1) w = ofExcept result w₁ := by
  cases hstop with
  | decided h =>
    obtain ⟨w₁, hw, hwatch⟩ := l.watch_of_decides deadline tableName hs h ha n
    have hwaits := hw.waits.trans (List.append_nil _).symm
    exact ⟨w₁, hw.exchanged, hw.clock, hwaits, hwatch⟩
  | timedOut h ht hm =>
    obtain rfl := Goal.missed_iff.1 hm
    obtain ⟨w₁, hw, hwatch⟩ := l.watch_of_undecided deadline tableName hs h ha n
    have hwaits := hw.waits.trans (List.append_nil _).symm
    have ht₁ : TimeUp deadline w₁.clock := by rwa [hw.clock]
    have hpause := l.pause_of_timeout goal tableName ht₁
    rw [WaitProblem.timedOut_error] at hpause
    exact ⟨w₁, hw.exchanged, hw.clock, hwaits, hwatch.trans (bind_of_error hpause _)⟩
  | interrupted h ht hc hm =>
    obtain rfl := Goal.missed_iff.1 hm
    obtain ⟨w₁, hw, hwatch⟩ := l.watch_of_undecided deadline tableName hs h ha n
    have ht₁ : ¬ TimeUp deadline w₁.clock := by rwa [hw.clock]
    have hpause := l.pause_of_cut goal tableName ht₁ (hw.cuts.trans hc)
    rw [hw.nap] at hpause
    exact ⟨w₁.waited (l.rest deadline (w.firstLook o).time) none, hw.exchanged.waited _ _, hw.clock,
      hw.waits_waited none, hwatch.trans (bind_of_error hpause _)⟩
  | tooLong h ht hc hn =>
    obtain ⟨w₁, hw, hwatch⟩ := l.watch_of_undecided deadline tableName hs h ha n
    have ht₁ : ¬ TimeUp deadline w₁.clock := by rwa [hw.clock]
    have hpause := l.pause_of_refused goal tableName ht₁ (hw.cuts.trans hc)
      ((hw.refuses l deadline).trans hn)
    rw [hw.nap] at hpause
    exact ⟨w₁.waited (l.rest deadline (w.firstLook o).time) none, hw.exchanged.waited _ _, hw.clock,
      hw.waits_waited none, hwatch.trans (bind_of_error hpause _)⟩

variable (l tableName) in
/-- After a look that nothing ends the wait at, it goes on as if it started with the next one. -/
theorem watch_of_goesOn (hgo : l.GoesOn w.interruption deadline goal (w.firstLook o))
    (ha : LookAnswer o.answer) (n : Nat) :
    ∃ w₁, w.Exchanged [(w.firstLook o).event tableName] w₁ ∧
      w₁.waits = w.waits ++ [l.rest deadline (w.firstLook o).time] ∧
      w₁.interruption = w.interruption ∧
      l.looks deadline w = w.firstLook o :: l.looks deadline w₁ ∧
      l.watch deadline goal tableName (n + 1) w = l.watch deadline goal tableName n w₁ := by
  obtain ⟨w₁, hw, hwatch⟩ :=
    l.watch_of_undecided deadline tableName hs hgo.undecided ha n
  have ht₁ : ¬ TimeUp deadline w₁.clock := by
    rw [hw.clock]
    exact hgo.inTime
  have hpause := l.pause_of_not_cut goal tableName ht₁ (hw.cuts.trans hgo.uncut)
    ((hw.refuses l deadline).trans hgo.fits)
  refine ⟨l.rested deadline w₁, hw.exchanged.waited _ _, ?_, hw.interruption,
    looks_of_answered hs hw, hwatch.trans (bind_of_ok hpause _)⟩
  rw [rested, World.waited_waits, hw.waits, hw.nap]

end

theorem looks_of_nil (hs : w.script = []) : l.looks deadline w = [] := by
  rw [looks, hs]
  rfl

theorem look_of_nil (hs : w.script = []) : l.look tableName w =
    .error (.scriptEnded .describeTable)
      (w.noted (.call .store (.describeTable (.text tableName)) none)) := by
  have hdescribe : l.describe tableName w = .error (.scriptEnded .describeTable)
      (w.noted (.call .store (.describeTable (.text tableName)) none)) := by
    rw [describe, Client.describeTable, bind_assoc]
    exact bind_of_error (call_of_nil hs) _
  rw [look, bind_of_ok (attempt_of_error hdescribe)]
  rfl

theorem Stops.waited_le {i : Interruption} {look : Look T} {waited : Nat}
    {result : Except Failure Status}
    (h : l.Stops i deadline goal tableName look waited result) : waited ≤ 1 := by
  cases h with
  | decided => exact Nat.zero_le 1
  | timedOut => exact Nat.zero_le 1
  | interrupted => exact Nat.le_refl 1
  | tooLong => exact Nat.le_refl 1

theorem watch_stops {m n waited : Nat} {look : Look T} {result : Except Failure Status}
    (hn : m < n) (ha : ∀ o ∈ w.script, LookAnswer o.answer)
    (hm : (l.looks deadline w)[m]? = some look)
    (hgo : ∀ earlier ∈ (l.looks deadline w).take m,
      l.GoesOn w.interruption deadline goal earlier)
    (hstop : l.Stops w.interruption deadline goal tableName look waited result) :
    ∃ w', w.Exchanged (((l.looks deadline w).take (m + 1)).map (Look.event tableName)) w' ∧
      w'.clock = look.time ∧
      w'.waits = w.waits ++ ((l.looks deadline w).take (m + waited)).map
        (fun look => l.rest deadline look.time) ∧
      l.watch deadline goal tableName n w = ofExcept result w' := by
  -- on the looks before that one, each of which takes one outcome off the script
  induction m generalizing w n with
  | zero =>
    cases hs : w.script with
    | nil =>
      rw [looks_of_nil hs] at hm
      cases hm
    | cons o script =>
      obtain ⟨n, rfl⟩ := Nat.exists_add_one_eq.2 hn
      rw [looks_of_cons hs] at hm ⊢
      cases hm
      have ho := ha o (hs ▸ List.mem_cons_self)
      obtain ⟨w', hx, hclock, hwaits, hwatch⟩ := watch_of_stops hs hstop ho n
      refine ⟨w', hx, hclock, ?_, hwatch⟩
      have hle := hstop.waited_le
      obtain rfl | rfl : waited = 0 ∨ waited = 1 := by omega
      · exact hwaits
      · exact hwaits
  | succ m ih =>
    cases hs : w.script with
    | nil =>
      rw [looks_of_nil hs] at hm
      cases hm
    | cons o script =>
      obtain ⟨n, rfl⟩ := Nat.exists_add_one_eq.2 (Nat.zero_lt_of_lt hn)
      have ho := ha o (hs ▸ List.mem_cons_self)
      have hfirst : l.GoesOn w.interruption deadline goal (w.firstLook o) := by
        rw [looks_of_cons hs] at hgo
        exact hgo _ List.mem_cons_self
      obtain ⟨w₁, hx, hwaits, hi, hlooks, hwatch⟩ := l.watch_of_goesOn tableName hs hfirst ho n
      rw [hlooks] at hm hgo ⊢
      rw [← hi] at hgo hstop
      have ha₁ : ∀ o ∈ w₁.script, LookAnswer o.answer := by
        rw [hx.script]
        exact fun o ho => ha o (List.mem_of_mem_drop ho)
      obtain ⟨w', hx', hclock, hwaits', hwatch'⟩ := ih (Nat.lt_of_succ_lt_succ hn) ha₁ hm
        (fun earlier he => hgo earlier (List.mem_cons_of_mem _ he)) hstop
      refine ⟨w', hx.trans hx', hclock, ?_, hwatch.trans hwatch'⟩
      rw [hwaits', hwaits, List.append_assoc, Nat.add_right_comm]
      rfl

theorem watch_unanswered {n : Nat} (hn : w.script.length < n)
    (ha : ∀ o ∈ w.script, LookAnswer o.answer)
    (hgo : ∀ look ∈ l.looks deadline w, l.GoesOn w.interruption deadline goal look) :
    ∃ w', w.Exchanged ((l.looks deadline w).map (Look.event tableName) ++
        [.call .store (.describeTable (.text tableName)) none]) w' ∧
      w'.waits = w.waits ++ (l.looks deadline w).map (fun look => l.rest deadline look.time) ∧
      l.watch deadline goal tableName n w = .error (.scriptEnded .describeTable) w' := by
  induction n generalizing w with
  | zero => exact absurd hn (Nat.not_lt_zero _)
  | succ n ih =>
    cases hs : w.script with
    | nil =>
      have hx := World.Exchanged.unanswered hs [] .store (.describeTable (.text tableName))
      rw [World.logged_nil] at hx
      rw [looks_of_nil hs, watch]
      exact ⟨_, hx, (List.append_nil _).symm, bind_of_error (look_of_nil hs) _⟩
    | cons o script =>
      have ho := ha o (hs ▸ List.mem_cons_self)
      have hfirst : l.GoesOn w.interruption deadline goal (w.firstLook o) := by
        rw [looks_of_cons hs] at hgo
        exact hgo _ List.mem_cons_self
      obtain ⟨w₁, hx, hwaits, hi, hlooks, hwatch⟩ := l.watch_of_goesOn tableName hs hfirst ho n
      have hscript : w₁.script = script := by
        rw [hx.script, hs]
        rfl
      rw [hs] at hn ha
      rw [← hscript] at hn ha
      rw [hlooks] at hgo ⊢
      rw [← hi] at hgo
      obtain ⟨w', hx', hwaits', hwatch'⟩ := ih (Nat.lt_of_succ_lt_succ hn)
        (fun o ho => ha o (List.mem_cons_of_mem _ ho))
        fun look hl => hgo look (List.mem_cons_of_mem _ hl)
      refine ⟨w', hx.trans hx', ?_, hwatch.trans hwatch'⟩
      rw [hwaits', hwaits, List.append_assoc]
      rfl

theorem length_looksFrom (cuts : Nat → Bool) (clock : T) (waits : Nat) (script : List (Outcome T)) :
    (l.looksFrom deadline cuts clock waits script).length = script.length := by
  induction script generalizing clock waits with
  | nil => rfl
  | cons o script ih => rw [looksFrom, List.length_cons, ih, List.length_cons]

theorem goesOn_iff {i : Interruption} {look : Look T} : l.GoesOn i deadline goal look ↔
    ∀ waited result, ¬ l.Stops i deadline goal tableName look waited result := by
  constructor
  · intro hgo waited result hstop
    cases hstop with
    | decided h => exact hgo.undecided _ h
    | timedOut _ ht => exact hgo.inTime ht
    | interrupted _ _ hc => exact absurd hc (Bool.eq_false_iff.1 hgo.uncut)
    | tooLong _ _ _ hn => exact absurd hn (Bool.eq_false_iff.1 hgo.fits)
  · intro h
    have hm := Goal.missed_iff.2 (rfl : _ = goal.complaint tableName)
    have hd : ∀ result, ¬ goal.Decides look.answer result := fun result hd => h _ _ (.decided hd)
    have ht : ¬ TimeUp deadline look.time := fun ht => h _ _ (.timedOut hd ht hm)
    have hc : look.cut = false := Bool.eq_false_iff.2 fun hc => h _ _ (.interrupted hd ht hc hm)
    exact ⟨hd, ht, hc, Bool.eq_false_iff.2 fun hn => h _ _ (.tooLong hd ht hc hn)⟩

/-- A wait takes its looks in order, up to the first that stops it, and comes to what that one says;
between two looks it pauses as long as told. It asks for more only where no look stops it. -/
theorem await_ends_at_first_stop (l : Lifecycle T) (goal : Goal) (tableName : String) {w : World T}
    (ha : ∀ o ∈ w.script, LookAnswer o.answer) (hd : deadline = w.clock + l.maxWait)
    {looks : List (Look T)} (hl : looks = l.looks deadline w) :
    (∀ m look waited result, looks[m]? = some look →
      l.Stops w.interruption deadline goal tableName look waited result →
      (∀ earlier ∈ looks.take m, ∀ waited result,
        ¬ l.Stops w.interruption deadline goal tableName earlier waited result) →
      ∃ w', w.Exchanged ((looks.take (m + 1)).map (Look.event tableName)) w' ∧
        w'.clock = look.time ∧
        w'.waits = w.waits ++
          (looks.take (m + waited)).map (fun look => l.rest deadline look.time) ∧
        l.await goal tableName w = ofExcept result w') ∧
    ((∀ look ∈ looks, ∀ waited result,
        ¬ l.Stops w.interruption deadline goal tableName look waited result) →
      ∃ w', w.Exchanged (looks.map (Look.event tableName) ++
          [.call .store (.describeTable (.text tableName)) none]) w' ∧
        w'.waits = w.waits ++ looks.map (fun look => l.rest deadline look.time) ∧
        l.await goal tableName w = .error (.scriptEnded .describeTable) w') := by
  subst hd hl
  constructor
  · intro m look waited result hm hstop hearlier
    have hlt : m < w.script.length + 1 := by
      have hlt := (List.getElem?_eq_some_iff.1 hm).1
      rw [looks, length_looksFrom] at hlt
      omega
    exact watch_stops hlt ha hm (fun earlier he => goesOn_iff.2 (hearlier earlier he)) hstop
  · intro h
    exact watch_unanswered (Nat.lt_succ_self _) ha fun look hl => goesOn_iff.2 (h look hl)

/- Exact time. -/

section

variable {deadline time : Rat}

theorem timeUp_iff : TimeUp deadline time ↔ deadline ≤ time := sub_nonpos

theorem rest_eq_min (l : Lifecycle Rat) :
    l.rest deadline time = min (deadline - time) l.pollInterval := (min_def_lt _ _).symm

end

def notYetThere : Fault :=
  .rejected ⟨"DescribeTable", some (.text notFoundCode), none, .int 400, .null, none⟩

def underCreation : Document :=
  .object [("Table", .object [("TableName", .text "bench"), ("TableStatus", .text "CREATING")])]

/-- Surroundings in which a table is not active in three seconds. -/
def slowStore : World Rat where
  clock := 10
  source := { value := fun _ => "" }
  script := [⟨.error notYetThere, 0⟩, ⟨.ok underCreation, 1 / 2⟩, ⟨.ok underCreation, 1 / 2⟩]

theorem await_ends_at_first_stop_slow :
    ∃ w', w'.clock = 27 / 2 ∧ w'.waits = [2, 1 / 2] ∧
      (Lifecycle.mk .direct 2 3).await .active "bench" slowStore =
        .error (.reported ((WaitProblem.timedOut (3 : Rat)).error .active "bench") false) w' := by
  have hl : [⟨.error notYetThere, 10, false⟩, ⟨.ok underCreation, 25 / 2, false⟩,
        ⟨.ok underCreation, 27 / 2, false⟩] =
      (Lifecycle.mk .direct (2 : Rat) 3).looks 13 slowStore := by
    with_unfolding_all rfl
  have horderly : notYetThere.Orderly := ⟨.inr ⟨_, rfl⟩, .inr ⟨_, rfl⟩⟩
  have hmissing : notYetThere.SaysMissing :=
    horderly.saysMissing_iff.2 ⟨_, rfl, rfl, .inr ⟨_, rfl⟩⟩
  have hunseen : ∀ result, ¬ Goal.active.Decides (.error notYetThere) result := by
    intro result hd
    cases hd with
    | failed _ hf => exact hf hmissing
  have hcreating : ∀ result, ¬ Goal.active.Decides (.ok underCreation) result := by
    intro result hd
    cases hd with
    | active h hs =>
      cases h
      simp [Fields.lookup_cons] at hs
  have ha : ∀ o ∈ slowStore.script, LookAnswer o.answer := by
    simp only [slowStore, List.forall_mem_cons]
    have hdescribed : LookAnswer (.ok underCreation) :=
      .described rfl ⟨⟨_, rfl⟩, .missing, .missing, .missing⟩
    exact ⟨.fault _, hdescribed, hdescribed, List.forall_mem_nil _⟩
  have hd : (13 : Rat) = slowStore.clock + 3 := by norm_num [slowStore]
  obtain ⟨w', -, hclock, hwaits, hawait⟩ :=
    (await_ends_at_first_stop (.mk .direct 2 3) .active "bench" ha hd hl).1 2 _ 0 _ rfl
      (.timedOut hcreating (timeUp_iff.2 (by norm_num)) .active) <| by
        simp only [List.take_succ_cons, List.take_zero, List.forall_mem_cons]
        refine ⟨goesOn_iff.1 ⟨hunseen, ?_, rfl, rfl⟩, goesOn_iff.1 ⟨hcreating, ?_, rfl, rfl⟩,
          List.forall_mem_nil _⟩
        · exact mt timeUp_iff.1 (by norm_num)
        · exact mt timeUp_iff.1 (by norm_num)
  refine ⟨w', hclock, ?_, hawait⟩
  rw [hwaits]
  simp only [rest_eq_min]
  norm_num [slowStore]

end Table.Lifecycle

end TableBench
