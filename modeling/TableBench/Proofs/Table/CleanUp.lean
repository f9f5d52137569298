import TableBench.Proofs.Run.Emission
import TableBench.Proofs.Table.Orderly
import TableBench.Proofs.Time

namespace TableBench

open Run

namespace Event

def Asks (request : Request) (e : Event) : Prop :=
  ∃ answer, e = .call .store request (some answer)

abbrev deletes (tableName : String) (answer : Answer) : Event :=
  call .store (.deleteTable (.text tableName)) (some answer)

abbrev looks (tableName : String) (answer : Answer) : Event :=
  call .store (.describeTable (.text tableName)) (some answer)

end Event

def World.Overwaited {T : Type} [TimeScale T] (w : World T) : Prop :=
  ∃ t, w.waits.getLast? = some t ∧ w.interruption.refuses t = true

theorem World.overwaited_waited {T : Type} [TimeScale T] {w : World T} {t : T}
    (h : w.interruption.refuses t = true) : (w.waited t none).Overwaited :=
  ⟨t, List.getLast?_concat, h⟩

namespace Table

def NotFound (answer : Answer) : Prop := ∃ f, answer = .error f ∧ f.Rejects notFoundCode

theorem notFound_error_iff {f : Fault} : NotFound (.error f) ↔ f.Rejects notFoundCode := by
  constructor
  · rintro ⟨_, ⟨⟩, h⟩
    exact h
  · intro h
    exact ⟨f, rfl, h⟩

theorem not_notFound_ok (d : Document) : ¬ NotFound (.ok d) := by
  rintro ⟨f, h, -⟩
  cases h

/-- The events are looks at the table, and by the last of them it is gone, or not. -/
def Polled (tableName : String) (gone : Bool) (es : List Event) : Prop :=
  ∃ answers : List Answer, es = answers.map (Event.looks tableName) ∧
    (gone = true ↔ ∃ last, answers.getLast? = some last ∧ NotFound last)

/-- The events are a request for the deletion of the table and, if that was accepted, looks at it.
By the last of them it is gone, or not. -/
def Dropped (tableName : String) (gone : Bool) (es : List Event) : Prop :=
  ∃ (first : Answer) (answers : List Answer),
    es = .deletes tableName first :: answers.map (Event.looks tableName) ∧
    (answers ≠ [] → ∃ d, first = .ok d) ∧
    (gone = true ↔ (∃ d, first = .ok d) ∧ ∃ last, answers.getLast? = some last ∧ NotFound last)

/-- How a wait for a table ends without its goal: the time is up, or a pause is cut short or too
long to be waited for. -/
inductive Expired {T : Type} [TimeScale T] (deadline limit : T) (complaint : String) :
    Failure → World T → Prop
  | timedOut {w : World T} (h : deadline - w.clock ≤ TimeScale.none) :
    Expired deadline limit complaint (.reported (.provisioning
      (.text (complaint ++ " within " ++ TimeScale.text limit ++ "s"))) false) w
  | interrupted {w : World T} (h : ¬ deadline - w.clock ≤ TimeScale.none)
    (hc : w.interruption.cuts w.waits.length = true) :
    Expired deadline limit complaint
      (.reported (.provisioning (.text (complaint ++ ": wait was interrupted"))) false) w
  | tooLong {w : World T} (h : ¬ deadline - w.clock ≤ TimeScale.none) (hw : w.Overwaited) :
    Expired deadline limit complaint (.overflow "timestamp out of range for platform time_t") w

variable {tableName : String}

theorem Polled.nil : Polled tableName false [] := by
  refine ⟨[], rfl, nofun, ?_⟩
  rintro ⟨last, h, -⟩
  cases h

theorem Polled.look {gone gone' : Bool} {es : List Event} {answer : Answer}
    (h : Polled tableName gone es) (hgone : gone' = true ↔ NotFound answer) :
    Polled tableName gone' (es ++ [.looks tableName answer]) := by
  obtain ⟨answers, rfl, -⟩ := h
  refine ⟨answers ++ [answer], ?_, ?_⟩
  · rw [List.map_append]
    rfl
  · rw [hgone, List.getLast?_concat]
    simp

theorem Dropped.refused (f : Fault) : Dropped tableName false [.deletes tableName (.error f)] := by
  refine ⟨.error f, [], rfl, absurd rfl, nofun, ?_⟩
  rintro ⟨⟨d, h⟩, -⟩
  cases h

theorem Polled.dropped {gone : Bool} {es : List Event} (h : Polled tableName gone es)
    (d : Document) : Dropped tableName gone (.deletes tableName (.ok d) :: es) := by
  obtain ⟨answers, rfl, hgone⟩ := h
  refine ⟨.ok d, answers, rfl, fun _ => ⟨d, rfl⟩, ?_⟩
  rw [hgone, and_iff_right ⟨d, rfl⟩]

namespace Lifecycle

open Service

variable {T : Type} [TimeScale T] (l : Lifecycle T) (tableName : String) {w : World T}

def IsReported (e : Failure) : Prop := ∃ error chained, e = .reported error chained

/-- What a look makes of its answer. -/
inductive LookTells : Answer → Except Failure Sighting → Prop
  | found (d : Document) (status : Status) : LookTells (.ok d) (.ok (.present status))
  | missing {f : Fault} (h : f.Rejects notFoundCode) : LookTells (.error f) (.ok .missing)
  | failed {f : Fault} {error : BenchError} {chained : Bool}
    (hf : f.failure = .reported error chained) (h : ¬ f.Rejects notFoundCode)
    (hc : error.code? ≠ some notFoundCode) : LookTells (.error f) (.error (.reported error chained))

theorem look_told {μ : Type} {S : Service μ} {m : μ}
    (hS : ∀ {m answer m'}, S.Answers m .store (.describeTable (.text tableName)) answer m' →
      Orderly (.describeTable (.text tableName)) answer) :
    S.Ensures m w (l.look tableName)
      (fun sighting w' _ => w'.script.length < w.script.length ∧
        ∃ answer, w'.events = w.events ++ [.looks tableName answer] ∧
          LookTells answer (.ok sighting))
      (fun e w' _ => ∃ answer, w'.events = w.events ++ [.looks tableName answer] ∧
        LookTells answer (.error e)) := by
  apply Ensures.look
  · intro o script d m' hw ho ha
    obtain ⟨part, t, hpart, ht⟩ := (hS ha).of_described
    refine ⟨part, t, hpart, ht, World.length_lt_of_script hw, .ok d, ?_, .found d t.status⟩
    rw [World.answered_events, ho]
  · intro o script f m' hw ho ha
    have hf := (hS ha).fault_orderly (.inr rfl)
    obtain ⟨e, chained, hfailure⟩ := hf.failure
    have hrejects : f.Rejects notFoundCode ↔ e.code? = some notFoundCode :=
      hf.rejects_iff hfailure (by decide)
    have hevents : ((w.answered .store (.describeTable (.text tableName)) o script).logged
        f.records).events = w.events ++ [.looks tableName (.error f)] := by
      rw [World.logged_events, World.answered_events, ho]
    refine ⟨e, chained, hfailure, ?_, ?_⟩
    · intro hc
      exact ⟨World.length_lt_of_script hw, .error f, hevents, .missing (hrejects.2 hc)⟩
    · intro hc
      exact ⟨.error f, hevents, .failed hfailure (mt hrejects.1 hc) hc⟩

theorem pause_expires {μ : Type} {S : Service μ} {m : μ} (deadline : T) (goal : Goal) :
    S.Ensures m w (l.pause deadline goal tableName)
      (fun _ w' m' => m' = m ∧ w'.events = w.events)
      (fun e w' m' => m' = m ∧ w'.events = w.events ∧
        Expired deadline l.maxWait (goal.complaint tableName) e w') := by
  by_cases h : deadline - w.clock ≤ TimeScale.none
  · have hpause := l.pause_of_timeout goal tableName h
    rw [WaitProblem.timedOut_error] at hpause
    exact .of_error hpause rfl ⟨rfl, rfl, .timedOut h⟩
  · cases hc : w.interruption.cuts (w.waits.length + 1) with
    | true =>
      refine .of_error (l.pause_of_cut goal tableName h hc) rfl ⟨rfl, rfl, .interrupted h ?_⟩
      rwa [World.waited_waits, List.length_append]
    | false =>
      cases hn : w.interruption.refuses (l.nap deadline w) with
      | true =>
        exact .of_error (l.pause_of_refused goal tableName h hc hn) rfl
          ⟨rfl, rfl, .tooLong h (World.overwaited_waited hn)⟩
      | false => exact .of_ok (l.pause_of_not_cut goal tableName h hc hn) rfl ⟨rfl, rfl⟩

/-- The failure is one that the user is told of, or else a wait was too long. -/
def EndsWait (e : Failure) (w : World T) : Prop := IsReported e ∨ e = .tooLong ∧ w.Overwaited

theorem endsWait_of_expired {deadline limit : T} {complaint : String} {e : Failure}
    (h : Expired deadline limit complaint e w) : EndsWait e w := by
  cases h with
  | timedOut => exact .inl ⟨_, _, rfl⟩
  | interrupted => exact .inl ⟨_, _, rfl⟩
  | tooLong _ h => exact .inr ⟨rfl, h⟩

/-- A wait for the end of a table that cannot run out of answers ends in that, in a reported error
or at a pause that is too long, and tells which by its last look. -/
theorem await_orderly : orderly.Ensures () w (l.await .deleted tableName)
    (fun status w' _ => status = .absent ∧ w.Since w' (Polled tableName true))
    (fun e w' _ => EndsWait e w' ∧ w.Since w' (Polled tableName false)) := by
  apply Ensures.await (I := fun w' _ => w.Since w' (Polled tableName false))
  · intro w' m hpolled
    have hlooked {gone : Bool} {answer : Answer} {w₁ : World T}
        (he : w₁.events = w'.events ++ [.looks tableName answer])
        (hgone : gone = true ↔ NotFound answer) : w.Since w₁ (Polled tableName gone) :=
      hpolled.trans (Q := (· = [.looks tableName answer])) ⟨_, he, rfl⟩ fun es es' h h' =>
        h' ▸ h.look hgone
    apply (l.look_told tableName fun ha => ha).mono
    · intro sighting w₁ m₁ h
      obtain ⟨hscript, answer, he, htells⟩ := h
      refine ⟨hscript, ?_⟩
      cases htells with
      | missing hf => exact ⟨rfl, hlooked he (iff_of_true rfl (notFound_error_iff.2 hf))⟩
      | found d status =>
        have hopen : w.Since w₁ (Polled tableName false) :=
          hlooked he (iff_of_false nofun (not_notFound_ok d))
        obtain ⟨es, hes, hall⟩ := hopen
        apply (l.pause_expires tableName _ .deleted).mono
        · intro _ w₂ m₂ h
          obtain ⟨-, he'⟩ := h
          exact ⟨es, he'.trans hes, hall⟩
        · intro e w₂ m₂ h
          obtain ⟨-, he', hfails⟩ := h
          exact ⟨endsWait_of_expired hfails, es, he'.trans hes, hall⟩
    · intro e w₁ m₁ h
      obtain ⟨answer, he, htells⟩ := h
      cases htells with
      | failed hf hr hc =>
        exact ⟨.inl ⟨_, _, rfl⟩, hlooked he (iff_of_false nofun (mt notFound_error_iff.1 hr))⟩
  · exact .nothing .nil

theorem deleteTable_orderly : orderly.Ensures () w (l.client.deleteTable (.text tableName))
    (fun _ w' _ => ∃ d, w'.events = w.events ++ [.deletes tableName (.ok d)])
    (fun e w' _ => IsReported e ∧
      ∃ f, w'.events = w.events ++ [.deletes tableName (.error f)]) := by
  rw [Client.deleteTable]
  apply Ensures.require
  · intro o script d m' hw ho ha
    obtain ⟨part, hpart⟩ := ha.of_deleted
    exact ⟨part, hpart, d, by rw [World.answered_events, ho]⟩
  · intro o script f m' hw ho ha
    exact ⟨(ha.fault_orderly (.inl rfl)).failure, f, by
      rw [World.logged_events, World.answered_events, ho]⟩

/-- A run came to a wait that was too long, after the deletion of the table was accepted and a look
found it still there. -/
structure Overran (w w' : World T) (e : Failure) : Prop where
  failure : e = .tooLong
  last : w'.Overwaited
  looks : ∃ d, w.Since w' fun es => ∃ looks, es = .deletes tableName (.ok d) :: looks ∧
    Polled tableName false looks

theorem drop_orderly : orderly.Ensures () w (l.drop tableName)
    (fun status w' _ => status = .absent ∧ w.Since w' (Dropped tableName true))
    (fun e w' _ => IsReported e ∧ w.Since w' (Dropped tableName false) ∨
      Overran tableName w w' e) := by
  rw [drop]
  apply Ensures.step (Run.log_apply _ _ _ _) rfl
  apply Ensures.bind
  apply (l.deleteTable_orderly tableName).mono
  · intro _ w₁ _ h
    obtain ⟨d, he⟩ := h
    have hafter {P Q : List Event → Prop} {w' : World T} (h : w₁.Since w' P)
        (hPQ : ∀ es, P es → Q (.deletes tableName (.ok d) :: es)) : w.Since w' Q := by
      obtain ⟨es, hes, hP⟩ := h
      refine ⟨.deletes tableName (.ok d) :: es, ?_, hPQ es hP⟩
      rw [hes, he, List.append_assoc]
      rfl
    apply Ensures.step (Run.log_apply _ _ _ _) rfl
    apply (l.await_orderly tableName).mono
    · intro status w' _ h
      exact ⟨h.1, hafter h.2 fun es hes => hes.dropped d⟩
    · intro e w' _ h
      obtain ⟨hr | ⟨rfl, hlast⟩, hpolled⟩ := h
      · exact .inl ⟨hr, hafter hpolled fun es hes => hes.dropped d⟩
      · exact .inr ⟨rfl, hlast, d, hafter hpolled fun es hes => ⟨es, rfl, hes⟩⟩
  · intro e w₁ _ h
    obtain ⟨hr, f, he⟩ := h
    exact .inl ⟨hr, _, he, .refused f⟩

theorem tryDrop_orderly : orderly.Ensures () w (l.tryDrop tableName)
    (fun deleted w' _ => w.Since w' (Dropped tableName deleted))
    (fun e w' _ => Overran tableName w w' e) := by
  rw [tryDrop]
  refine Ensures.seq (fun r => ?_) ?_
  · split <;> infer_instance
  apply Ensures.attempt
  apply (l.drop_orderly tableName).mono
  · intro status w' _ h
    obtain ⟨rfl, h⟩ := h
    exact .pure h
  · intro _ w' _ h
    obtain ⟨⟨e, chained, rfl⟩, h⟩ | h := h
    · exact Ensures.step (Run.log_apply _ _ _ _) rfl (.pure h)
    · obtain rfl := h.failure
      exact .throw h

theorem sweep_orderly : orderly.Ensures () w (l.sweep tableName)
    (fun _ w' _ => ∃ answer, w'.events = w.events ++ [.deletes tableName answer])
    (fun _ _ _ => False) := by
  rw [sweep]
  refine Ensures.seq (fun r => ?_) ?_
  · split <;> infer_instance
  apply Ensures.attempt
  apply (l.deleteTable_orderly tableName).mono
  · intro _ w' _ h
    obtain ⟨d, he⟩ := h
    exact .pure ⟨_, he⟩
  · intro _ w' _ h
    obtain ⟨⟨e, chained, rfl⟩, f, he⟩ := h
    exact .of_ok (Run.log_apply _ _ _ _) rfl ⟨_, he⟩

theorem cleanUp_told : orderly.Ensures () w (l.cleanUp tableName)
    (fun deleted w' _ => ∃ es last, w'.events = w.events ++ (es ++ [.deletes tableName last]) ∧
      Dropped tableName deleted es)
    (fun e w' _ => Overran tableName w w' e) := by
  rw [cleanUp]
  apply Ensures.bind
  refine (l.tryDrop_orderly tableName).mono ?_ fun _ _ _ h => h
  intro deleted w₁ _ h
  obtain ⟨es, hes, hdropped⟩ := h
  apply Ensures.bind
  refine (l.sweep_orderly tableName).mono ?_ fun _ _ _ => False.elim
  intro _ w₂ _ h
  obtain ⟨last, he⟩ := h
  refine .pure ⟨es, last, ?_, hdropped⟩
  rw [he, hes, List.append_assoc]

/-- The events of a clean-up: looks between two requests for the deletion of the table. -/
def Cleaned (es : List Event) : Prop :=
  ∃ first looks last, es = first :: looks ++ [last] ∧
    first.Asks (.deleteTable (.text tableName)) ∧
    (∀ e ∈ looks, e.Asks (.describeTable (.text tableName))) ∧
    last.Asks (.deleteTable (.text tableName))

theorem cleanUp_orderly : orderly.Ensures () w (l.cleanUp tableName)
    (fun _ w' _ => ∃ es, w'.events = w.events ++ es ∧ Cleaned tableName es)
    (fun e w' _ => Overran tableName w w' e) := by
  refine (l.cleanUp_told tableName).mono ?_ fun _ _ _ h => h
  intro deleted w' _ h
  obtain ⟨_, last, hes, first, answers, rfl, -⟩ := h
  refine ⟨_, hes, _, _, _, rfl, ⟨first, rfl⟩, ?_, ⟨last, rfl⟩⟩
  intro e he
  obtain ⟨answer, -, rfl⟩ := List.mem_map.1 he
  exact ⟨answer, rfl⟩

/-- As long as the store's answers are orderly, a clean-up fails only at a pause that is too long to
be waited for, and tells the truth. It looks at the table only if the request for the deletion was
accepted, and ends with a second request in any other case. It tells that the table is gone exactly
if the first request was accepted and the last look did not find the table, whatever the second
request was answered. -/
theorem cleanUp_tells_whether_gone {es : List Event}
    (hes : (final (l.cleanUp tableName) w).events = w.events ++ es)
    (hs : orderly.Serves () es ()) :
    (∃ (deleted : Bool) (w' : World T) (first : Answer) (looks : List Answer) (last : Answer),
      l.cleanUp tableName w = .ok deleted w' ∧
      es = .deletes tableName first :: looks.map (Event.looks tableName) ++
        [.deletes tableName last] ∧
      (looks ≠ [] → ∃ d, first = .ok d) ∧
      (deleted = true ↔
        (∃ d, first = .ok d) ∧ ∃ look, looks.getLast? = some look ∧ NotFound look)) ∨
    ∃ (w' : World T) (d : Document) (looks : List Answer) (t : T),
      l.cleanUp tableName w =
        .error (.overflow "timestamp out of range for platform time_t") w' ∧
      es = .deletes tableName (.ok d) :: looks.map (Event.looks tableName) ∧
      (¬ ∃ look, looks.getLast? = some look ∧ NotFound look) ∧
      w'.waits.getLast? = some t ∧ w.interruption.refuses t = true := by
  have htold := (l.cleanUp_told tableName).leads es () hes hs
  cases hx : l.cleanUp tableName w with
  | ok deleted w' =>
    rw [hx] at htold
    obtain ⟨-, _, last, he, first, looks, rfl, hlooks, hgone⟩ := htold
    rw [final_of_ok hx] at hes
    exact .inl ⟨deleted, w', first, looks, last, rfl,
      List.append_cancel_left (hes.symm.trans he), hlooks, hgone⟩
  | error e w' =>
    rw [hx] at htold
    obtain ⟨hleads, rfl, ⟨t, ht, hrefuses⟩, d, _, he, _, rfl, looks, rfl, hgone⟩ := htold
    rw [final_of_error hx] at hes
    rw [show w'.interruption = w.interruption from hleads.interruption] at hrefuses
    exact .inr ⟨w', d, looks, t, rfl, List.append_cancel_left (hes.symm.trans he),
      mt hgone.2 Bool.false_ne_true, ht, hrefuses⟩

def noLongerThere : Fault :=
  .rejected ⟨"DescribeTable", some (.text notFoundCode), none, .int 400, .null, none⟩

/-- Surroundings with a store that deletes a table and is out of reach then. -/
def parting : World Float where
  clock := 0
  source := { value := fun _ => "" }
  script := [⟨.ok (.object [("TableDescription", .null)]), 0⟩, ⟨.error noLongerThere, 0⟩,
    ⟨.error (.transport "out of reach"), 0⟩]

theorem cleanUp_tells_whether_gone_parting :
    ∃ w', (Lifecycle.mk .direct 1 60).cleanUp "bench" parting = .ok true w' := by
  have hmissing : NotFound (.error noLongerThere) :=
    notFound_error_iff.2 ⟨_, rfl, rfl, .inr ⟨400, rfl⟩⟩
  obtain ⟨deleted, w', first, looks, last, hx, hes, -, hgone⟩ | ⟨_, _, _, _, -, -, -, -, ⟨⟩⟩ :=
    cleanUp_tells_whether_gone (.mk .direct 1 60) "bench" (w := parting) rfl <|
      Orderly.serves (.deleted rfl) <|
      Orderly.serves (.fault ⟨.inr ⟨_, rfl⟩, .inr ⟨400, rfl⟩⟩) <|
      Orderly.serves (.fault (f := .transport "out of reach") trivial) (.nil ())
  cases looks with
  | nil => cases hes
  | cons look looks =>
    cases looks with
    | nil =>
      cases hes
      obtain rfl := hgone.2 ⟨⟨_, rfl⟩, _, rfl, hmissing⟩
      exact ⟨w', hx⟩
    | cons look looks => cases looks <;> cases hes

/-- Surroundings with a store that takes its time to delete a table. -/
def lingering : World Rat where
  clock := 0
  interruption := .ofEvent
  source := { value := fun _ => "" }
  script := [⟨.ok (.object [("TableDescription", .null)]), 0⟩,
    ⟨.ok (.object [("Table", .object [("TableName", .text "bench"),
      ("TableStatus", .text "DELETING")])]), 0⟩]

-- three hundred years are more than can be waited for
example : ∃ w', (Lifecycle.mk .direct (10 ^ 10) (10 ^ 10)).cleanUp "bench" lingering =
    .error .tooLong w' := ⟨_, by cbv⟩

end Lifecycle

end Table

end TableBench
