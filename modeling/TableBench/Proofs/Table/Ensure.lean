import TableBench.Proofs.Table.CleanUp
import TableBench.Proofs.Table.Watched

namespace TableBench

open Run Service

def Fault.code? : Fault → Option String
  | rejected r => r.code.bind (·.text?)
  | reported e => e.code?
  | transport _ | stray _ => none

theorem Fault.code?_of_failure {f : Fault} {e : BenchError} {chained : Bool} {code : String}
    (h : f.failure = .reported e chained) (hc : e.code? = some code) : f.code? = some code := by
  obtain ⟨r, rfl, hr⟩ | ⟨p, rfl, rfl⟩ | rfl := Fault.failure_cases h
  · obtain rfl | ⟨origin, rfl⟩ := Rejection.diagnosis_cases hr
    · cases hc
    · rw [Fault.code?]
      cases hcode : r.code with
      | none =>
        rw [BenchError.code?, hcode] at hc
        cases hc
      | some d =>
        rw [BenchError.code?, hcode] at hc
        exact hc
  · cases hc
  · exact hc

namespace Table

namespace Life

theorem definition?_untilActive (d : Definition) (n : Nat) :
    (untilActive d n).definition? = some d := by
  cases n <;> rfl

theorem definition?_created (n : Nat) (d : Definition) (life : Life) :
    (life.created n d).definition? = some (life.definition?.getD d) := by
  cases life with
  | absent => exact definition?_untilActive d n
  | _ => rfl

theorem definition?_of_looked {life : Life} {d : Definition}
    (h : life.looked.definition? = some d) : life.definition? = some d := by
  cases life with
  | creating d' looks => rwa [looked, definition?_untilActive] at h
  | deleting d' looks =>
    cases looks with
    | zero => cases h
    | succ looks => exact h
  | _ => exact h

theorem Shows.eq_active {life : Life} {sighting : Sighting} {status : Status}
    (h : life.Shows sighting) (hr : Goal.active.reached? sighting = some status) :
    status = .active ∧ ∃ d, life = .active d := by
  cases h with
  | active d =>
    cases hr
    exact ⟨rfl, d, rfl⟩
  | @underWay _ _ status h =>
    cases status with
    | active => exact absurd rfl h
    | _ => cases hr
  | _ => cases hr

end Life

namespace Lifecycle

open Life

variable {T : Type} [TimeScale T] (l : Lifecycle T) {tableName : String} {n m : Nat}
  {d kept : Definition} {life : Life} {w : World T}

/-- A wait that reaches an active table finds it as it was created. -/
theorem await_serves : (store tableName n m).Ensures life w (l.await .active tableName)
    (fun status _ life' => status = .active ∧ ∃ d, life.definition? = some d ∧ life' = .active d)
    (fun _ _ _ => True) := by
  apply Ensures.await (I := fun _ life' => ∀ d, life'.definition? = some d →
    life.definition? = some d)
  · intro w₁ life₁ h
    refine l.look_serves.mono ?_ fun _ _ _ => False.elim
    intro sighting w₂ life₂ hlook
    obtain ⟨⟨o, script, rs, hs, rfl⟩, hshows, rfl⟩ := hlook
    refine ⟨World.length_lt_of_script hs, ?_⟩
    cases hr : Goal.active.reached? sighting with
    | some status =>
      obtain ⟨rfl, d, rfl⟩ := hshows.eq_active hr
      exact ⟨rfl, d, h d rfl, rfl⟩
    | none =>
      apply (l.pause_expires tableName _ .active).mono
      · intro _ w₃ life₃ hpause
        obtain ⟨rfl, -⟩ := hpause
        exact fun d hd => h d (definition?_of_looked hd)
      · intro _ _ _ _
        trivial
  · exact fun d hd => hd

theorem await_active : (store tableName n m).Ensures (.active kept) w (l.await .active tableName)
    (fun status w' life => status = .active ∧ life = .active kept ∧
      w'.asked = w.asked ++ [(.store, .describeTable (.text tableName))])
    (fun _ _ _ => False) := by
  apply Ensures.await (I := fun w' life => w' = w ∧ life = .active kept)
  · intro w₁ life h
    obtain ⟨rfl, rfl⟩ := h
    refine l.look_serves.mono ?_ fun _ _ _ => False.elim
    intro sighting w₂ life h
    obtain ⟨⟨o, script, rs, hs, rfl⟩, ⟨⟩, rfl⟩ := h
    refine ⟨World.length_lt_of_script hs, rfl, rfl, ?_⟩
    exact World.asked_answered _ .store (.describeTable (.text tableName)) o script
  · exact ⟨rfl, rfl⟩

/-- A table that is there, or else the one asked for, is active where the wait for it succeeds. -/
theorem ensure_serves (hd : d.tableName = tableName) :
    (store tableName n m).Ensures life w (l.ensure d)
      (fun status _ life' => (∃ w₁, l.create d w = .ok life.definition?.isNone w₁) ∧
        status = .active ∧ life' = .active (life.definition?.getD d))
      (fun _ _ _ => True) := by
  subst hd
  rw [ensure]
  apply Ensures.bind
  refine (l.create_serves rfl).result.mono ?_ fun _ _ _ h => h.2.elim
  intro made w₁ life₁ h
  obtain ⟨hcreate, rfl, rfl, -⟩ := h
  apply Ensures.step (log_apply _ _ _ w₁) rfl
  apply l.await_serves.mono
  · intro status w₂ life₂ h
    obtain ⟨rfl, d', hd', rfl⟩ := h
    rw [definition?_created] at hd'
    cases hd'
    exact ⟨⟨w₁, hcreate⟩, rfl, rfl⟩
  · intro _ _ _ h
    exact h

theorem ensure_active (hd : d.tableName = tableName) :
    (store tableName n m).Ensures (.active kept) w (l.ensure d)
      (fun status w' life => (∃ w₁, l.create d w = .ok false w₁) ∧ status = .active ∧
        life = .active kept ∧ w'.asked = w.asked ++
          [(.store, .createTable d.request), (.store, .describeTable (.text tableName))])
      (fun _ _ _ => False) := by
  subst hd
  rw [ensure]
  apply Ensures.bind
  refine (l.create_serves rfl).result.mono ?_ fun _ _ _ h => h.2
  intro made w₁ life₁ h
  obtain ⟨hcreate, rfl, rfl, hasked⟩ := h
  apply Ensures.step (log_apply _ _ _ w₁) rfl
  refine l.await_active.mono ?_ fun _ _ _ => False.elim
  intro status w₂ life₂ h
  obtain ⟨rfl, rfl, hasked'⟩ := h
  refine ⟨⟨w₁, hcreate⟩, rfl, rfl, ?_⟩
  rw [hasked', World.asked_logged, hasked, List.append_assoc]
  rfl

/-- The surroundings after such tables were ensured, one after another. -/
def ensured (ds : List Definition) (w : World T) : World T :=
  ds.foldl (fun w d => final (l.ensure d) w) w

theorem leads_ensured (ds : List Definition) (w : World T) : w.Leads (l.ensured ds w) := by
  induction ds generalizing w with
  | nil => exact .refl w
  | cons d ds ih => exact (Grows.leads (x := l.ensure d) w).trans (ih _)

theorem ensured_active {ds : List Definition} {es : List Event} {life' : Life}
    (hds : ∀ d ∈ ds, d.tableName = tableName)
    (hes : (l.ensured ds w).events = w.events ++ es)
    (hs : (store tableName n m).Serves (.active kept) es life') :
    life' = .active kept ∧ ∀ before d after, ds = before ++ d :: after →
      let w' := l.ensured before w
      (∃ w₁, l.create d w' = .ok false w₁) ∧
      ∃ w₁, l.ensure d w' = .ok .active w₁ ∧ w₁.asked = w'.asked ++
        [(.store, .createTable d.request), (.store, .describeTable (.text tableName))] := by
  -- on the calls, each of which finds the table as the one before left it
  induction ds generalizing w es with
  | nil =>
    obtain rfl : es = [] := List.append_right_eq_self.1 hes.symm
    refine ⟨hs.eq_of_nil, ?_⟩
    intro before d after h
    cases before <;> cases h
  | cons d ds ih =>
    obtain ⟨hd, hds⟩ := List.forall_mem_cons.1 hds
    have hfirst : w.Leads (final (l.ensure d) w) := Grows.leads (x := l.ensure d) w
    obtain ⟨es₁, es₂, life₁, hes₁, hs₁, hes₂, hs₂⟩ :=
      hs.between hfirst (l.leads_ensured ds _) hes
    obtain ⟨status, w₁, hensure, hcreate, rfl, rfl, hasked⟩ :=
      (l.ensure_active hd).succeeds hes₁ hs₁
    obtain ⟨hlife, hlater⟩ := ih hds hes₂ hs₂
    refine ⟨hlife, ?_⟩
    intro before d' after h
    cases before with
    | nil =>
      obtain ⟨rfl, rfl⟩ := List.cons.inj h
      exact ⟨hcreate, w₁, hensure, hasked⟩
    | cons first before =>
      obtain ⟨rfl, hrest⟩ := List.cons.inj h
      exact hlater before d' after hrest

/- Any store. -/

theorem createTable_sends (c : Client) (definition : Fields) (w : World T) :
    ∃ answer r w₁, c.createTable definition w = ofExcept r w₁ ∧
      w₁.events = w.events ++ [.call .store (.createTable definition) answer] ∧
      ∀ f, answer = some (.error f) → r = .error f.failure := by
  rw [Client.createTable]
  cases hs : w.script with
  | nil =>
    refine ⟨none, .error _, _, bind_of_error (call_of_nil hs) _, rfl, ?_⟩
    rintro f ⟨⟩
  | cons o script =>
    refine ⟨some o.answer, ?_⟩
    cases ho : o.answer with
    | error f =>
      refine ⟨.error _, _, bind_of_error (call_of_fault hs ho) _, ?_, ?_⟩
      · rw [World.logged_events, World.answered_events, ho]
      · rintro f ⟨⟩
        rfl
    | ok response =>
      refine ⟨response.require "TableDescription", _,
        bind_of_ok (call_of_response hs ho) _, ?_, ?_⟩
      · rw [World.answered_events, ho]
      · rintro f ⟨⟩

/-- A creation sends one request; a fault that does not say that there is a table already is what
it fails with. -/
theorem create_sends (d : Definition) (w : World T) :
    ∃ answer r w₁, l.create d w = ofExcept r w₁ ∧
      w₁.events = w.events ++ [.call .store (.createTable d.request) answer] ∧
      ∀ f, answer = some (.error f) → f.code? ≠ some inUseCode → r = .error f.failure := by
  rw [create, bind_of_ok (log_apply _ _ _ w)]
  obtain ⟨answer, r, w₁, hcreate, he, hfault⟩ := createTable_sends l.client d.request
    (w.logged [⟨.info, .tables, "Creating table '" ++ d.tableName ++ "'"⟩])
  rw [World.logged_events] at he
  cases r with
  | ok part =>
    refine ⟨answer, .ok true, w₁, bind_of_ok (attempt_of_ok hcreate) _, he, ?_⟩
    intro f ha
    cases hfault f ha
  | error e =>
    rw [bind_of_ok (attempt_of_error hcreate)]
    have hraised : ∀ f, answer = some (.error f) → f.code? ≠ some inUseCode →
        (.error e : Except Failure Bool) = .error f.failure := by
      intro f ha _
      cases hfault f ha
      rfl
    cases e with
    | reported e chained =>
      by_cases hc : e.code? = some inUseCode
      · simp only [hc, beq_self_eq_true, if_true]
        refine ⟨answer, .ok false, _, bind_of_ok (log_apply _ _ _ w₁) _, he, ?_⟩
        intro f ha hf
        have hfailure := Except.error.inj (hfault f ha)
        exact absurd (Fault.code?_of_failure hfailure.symm hc) hf
      · simp only [beq_iff_eq, hc, if_false]
        exact ⟨answer, _, w₁, rfl, he, hraised⟩
    | _ => exact ⟨answer, _, w₁, rfl, he, hraised⟩

theorem ensure_sends (d : Definition) (w : World T) :
    ∃ answer looks, (final (l.ensure d) w).events =
        w.events ++ .call .store (.createTable d.request) answer :: looks ∧
      (∀ e ∈ looks, ∃ answer,
        e = .call .store (.describeTable (.text d.tableName)) answer) ∧
      ∀ f, answer = some (.error f) → f.code? ≠ some inUseCode →
        looks = [] ∧ ∃ w', l.ensure d w = .error f.failure w' := by
  obtain ⟨answer, r, w₁, hcreate, he, hraised⟩ := l.create_sends d w
  refine ⟨answer, ?_⟩
  cases r with
  | error e =>
    have hensure : l.ensure d w = .error e w₁ := bind_of_error hcreate _
    refine ⟨[], ?_, List.forall_mem_nil _, ?_⟩
    · rw [final_of_error hensure, he]
    · intro f ha hf
      cases hraised f ha hf
      exact ⟨rfl, w₁, hensure⟩
  | ok made =>
    have hawait (w : World T) : w.Adds (fun e => ∃ answer,
        e = .call .store (.describeTable (.text d.tableName)) answer)
        (final (l.await .active d.tableName) w) :=
      (Emits.await (fun answer => ⟨answer, rfl⟩) .active).adds w
    obtain ⟨rs, hfinal⟩ : ∃ rs, final (l.ensure d) w =
        final (l.await .active d.tableName) (w₁.logged rs) := by
      rw [ensure, final_bind_of_ok hcreate, final_bind_of_ok (log_apply _ _ _ w₁)]
      exact ⟨_, rfl⟩
    obtain ⟨looks, hes, hall⟩ := hawait (w₁.logged rs)
    refine ⟨looks, ?_, hall, ?_⟩
    · rw [hfinal, hes, World.logged_events, he, List.append_assoc]
      rfl
    · intro f ha hf
      cases hraised f ha hf

theorem ensure_status {status : Status} {w' : World T} (h : l.ensure d w = .ok status w') :
    status = .active := by
  obtain ⟨made, w₁, hcreate, h⟩ := of_bind_ok h
  obtain ⟨_, w₂, hlog, h⟩ := of_bind_ok h
  exact await_status h

/-- Where the store keeps one table, a first call that succeeds leaves the table that was there, or
the one asked for if there was none. Each later call finds it active with one request to create it
and one look, and does not change it. Whatever the store, a call begins with the only request to
create the table, does not look at it if that fails other than for a table that is there already,
and returns for an active table only. -/
theorem ensure_keeps_existing (d : Definition) (w : World T) :
    (∀ (n m : Nat) (ds : List Definition) (status : Status) (w₁ : World T) (es : List Event)
      (life life' : Life),
      (∀ d' ∈ ds, d'.tableName = d.tableName) → l.ensure d w = .ok status w₁ →
      (l.ensured ds w₁).events = w.events ++ es →
      (Life.store d.tableName n m).Serves life es life' →
      status = .active ∧ life' = .active (life.definition?.getD d) ∧
      (∃ w₂, l.create d w = .ok life.definition?.isNone w₂) ∧
      ∀ before d' after, ds = before ++ d' :: after →
        let w' := l.ensured before w₁
        (∃ w₂, l.create d' w' = .ok false w₂) ∧
        ∃ w₂, l.ensure d' w' = .ok .active w₂ ∧ w₂.asked = w'.asked ++
          [(.store, .createTable d'.request), (.store, .describeTable (.text d.tableName))]) ∧
    (∃ answer looks, (final (l.ensure d) w).events =
        w.events ++ .call .store (.createTable d.request) answer :: looks ∧
      (∀ e ∈ looks, ∃ answer,
        e = .call .store (.describeTable (.text d.tableName)) answer) ∧
      ∀ f, answer = some (.error f) → f.code? ≠ some inUseCode →
        looks = [] ∧ ∃ w', l.ensure d w = .error f.failure w') ∧
    ∀ status w', l.ensure d w = .ok status w' → status = .active := by
  refine ⟨?_, l.ensure_sends d w, fun status w' => l.ensure_status⟩
  intro n m ds status w₁ es life life' hds hfirst hes hs
  have hleads : w.Leads w₁ := Grows.leads_of_ok hfirst
  obtain ⟨es₁, es₂, life₁, hes₁, hs₁, hes₂, hs₂⟩ := hs.between hleads (l.leads_ensured ds w₁) hes
  have hserved := l.ensure_serves rfl es₁ life₁ (by rw [final_of_ok hfirst]; exact hes₁) hs₁
  rw [hfirst] at hserved
  obtain ⟨hcreate, rfl, rfl⟩ := hserved
  obtain ⟨hlife, hlater⟩ := l.ensured_active hds hes₂ hs₂
  exact ⟨rfl, hlife, hcreate, hlater⟩

def firstComer : Definition := { tableName := "bench", readCapacity := 7 }

def nextComer : Definition := { tableName := "bench", attributeName := "name" }

def firstServed : Document :=
  .object [("Table", .object (firstComer.request ++ [("TableStatus", .text "ACTIVE")]))]

def alreadyThere : Fault :=
  .rejected ⟨"CreateTable", some (.text inUseCode), none, .int 400, .null, none⟩

/-- Surroundings for two calls. The first one's table is not seen at once. -/
def contested : World Rat where
  clock := 10
  source := { value := fun _ => "" }
  script := [⟨.ok (.object [("TableDescription", .null)]), 0⟩, ⟨.error notYetThere, 0⟩,
    ⟨.ok firstServed, 0⟩, ⟨.error alreadyThere, 0⟩, ⟨.ok firstServed, 0⟩]

theorem ensure_keeps_existing_contested :
    let l : Lifecycle Rat := .mk .direct 2 3
    ∃ w₁ w₂, l.ensure firstComer contested = .ok .active w₁ ∧
      (∃ w', l.create firstComer contested = .ok true w') ∧
      l.ensure nextComer w₁ = .ok .active w₂ ∧ (∃ w', l.create nextComer w₁ = .ok false w') ∧
      w₂.asked = w₁.asked ++ [(.store, .createTable nextComer.request),
        (.store, .describeTable (.text "bench"))] := by
  intro l
  have hfirst : ∃ w₁, l.ensure firstComer contested = .ok .active w₁ := by
    with_unfolding_all exact ⟨_, rfl⟩
  obtain ⟨w₁, hfirst⟩ := hfirst
  have hevents : (l.ensured [nextComer] (final (l.ensure firstComer) contested)).events = [
      .call .store (.createTable firstComer.request)
        (some (.ok (.object [("TableDescription", .null)]))),
      .call .store (.describeTable (.text "bench")) (some (.error notYetThere)),
      .call .store (.describeTable (.text "bench")) (some (.ok firstServed)),
      .call .store (.createTable nextComer.request) (some (.error alreadyThere)),
      .call .store (.describeTable (.text "bench")) (some (.ok firstServed))] := by
    with_unfolding_all rfl
  rw [final_of_ok hfirst] at hevents
  have hmissing : notYetThere.Rejects notFoundCode := ⟨_, rfl, rfl, .inr ⟨_, rfl⟩⟩
  have htaken : alreadyThere.Rejects inUseCode := ⟨_, rfl, rfl, .inr ⟨_, rfl⟩⟩
  have hshows : Describes firstComer (some (.text "ACTIVE"))
      (firstComer.request ++ [("TableStatus", .text "ACTIVE")]) :=
    ⟨rfl, rfl, rfl, ⟨_, rfl, rfl, rfl⟩, rfl⟩
  obtain ⟨-, -, hcreate, hlater⟩ := (l.ensure_keeps_existing firstComer contested).1 1 0
    [nextComer] .active w₁ _ .absent (.active firstComer) (List.forall_mem_singleton.2 rfl) hfirst
    hevents <|
      .call (.created (d := firstComer) rfl rfl rfl) <| .call (.unseen hmissing) <|
      .call (.shown rfl hshows) <| .call (.taken (d := nextComer) rfl rfl nofun htaken) <|
      .call (.shown rfl hshows) <| .nil _
  obtain ⟨hkept, w₂, hnext, hasked⟩ := hlater [] nextComer [] rfl
  exact ⟨w₁, w₂, hfirst, hcreate, hnext, hkept, hasked⟩

end Lifecycle

end Table

end TableBench
