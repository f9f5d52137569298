import TableBench.Proofs.CommandLine.Reporting
import TableBench.Proofs.Session.Emission

namespace TableBench

open Run

namespace CommandLine

/-- The events of a command, and which of them came between the opening of a client and its
closing. No client is opened, or the store's is, and perhaps the accelerator's after it; last of
all those that were opened are closed. -/
inductive Visit : List Event → List Event → Prop
  | nothing {es : List Event} (h : ∀ e ∈ es, e.IsSearch) : Visit [] es
  | store {es inner : List Event} (h₁ : Opens .store es)
    (h : ∀ e ∈ inner, e.ToStore ∨ e.IsSearch) : Visit inner (es ++ (inner ++ [.close .store]))
  | both {es₁ es₂ es₃ es₄ : List Event} (h₁ : Opens .store es₁) (h₂ : ∀ e ∈ es₂, e.ToStore)
    (h₃ : Opens .accelerator es₃) (h₄ : ∀ e ∈ es₄, e.Through .accelerated) :
    Visit (es₂ ++ es₄)
      (es₁ ++ (es₂ ++ (es₃ ++ (es₄ ++ [.close .store, .close .accelerator]))))

theorem changes_of_opens {target : Target} {es : List Event} (h : Opens target es) :
    changes es = [] :=
  changes_eq_nil fun e he => Event.changesTable_of_aside (h.aside e he)

theorem Visit.changes_eq {inner es : List Event} (h : Visit inner es) :
    changes es = changes inner := by
  cases h with
  | nothing h => exact changes_eq_nil fun e he => (h e he).changesTable
  | store h₁ _ =>
    rw [changes_append, changes_of_opens h₁, changes_append, List.nil_append]
    exact List.append_nil _
  | @both es₁ es₂ es₃ es₄ h₁ _ h₃ _ =>
    rw [changes_append, changes_of_opens h₁, changes_append, changes_append, changes_of_opens h₃,
      changes_append, List.nil_append, List.nil_append, changes_append]
    exact congrArg (changes es₂ ++ ·) (List.append_nil _)

/-- A start, the use of the session, and its end are a visit that changes no table. -/
theorem Visit.of_opening {T : Type} {config : Config T} {s : Session T} {es es' : List Event}
    (h : Session.Opening Event.IsLook (.ofConfig config) s es)
    (h' : ∀ e ∈ es', ∃ c, s.client = some c ∧ e.Through c) :
    ∃ inner, Visit inner (es ++ (es' ++ s.closing)) ∧ changes inner = [] := by
  cases h with
  | nothing hs hsearch =>
    -- without a client nothing can be sent
    have hes' : es' = [] := by
      rw [List.eq_nil_iff_forall_not_mem]
      intro e he
      obtain ⟨c, hc, -⟩ := h' e he
      rw [hs] at hc
      cases hc
    have hclosing : s.closing = [] := by
      rw [hs]
      rfl
    rw [hes', hclosing, List.append_nil, List.append_nil]
    exact ⟨[], .nothing hsearch, rfl⟩
  | @store es₁ es₂ es₃ hs h₁ h₂ h₃ =>
    have hthrough := hs.through h'
    have hinner : ∀ e ∈ es₂ ++ (es₃ ++ es'), e.ToStore ∨ e.IsSearch := by
      intro e he
      rcases List.mem_append.1 he with he | he
      · exact .inl (h₂ e he).toStore
      rcases List.mem_append.1 he with he | he
      · exact .inr (h₃ e he)
      · exact .inl (hthrough e he).toStore
    have hvisit := Visit.store h₁ hinner
    have hclosing : s.closing = [.close .store] := hs.closing
    rw [hclosing]
    refine ⟨_, by simpa only [List.append_assoc] using hvisit, ?_⟩
    rw [changes_append, changes_append, changes_eq_nil fun e he => (h₂ e he).changesTable,
      changes_eq_nil fun e he => (h₃ e he).changesTable,
      changes_eq_nil fun e he => (hthrough e he).changesTable]
    rfl
  | @accelerator es₁ es₂ es₃ hs h₁ h₂ h₃ =>
    have hthrough := hs.through h'
    have hvisit := Visit.both h₁ (fun e he => (h₂ e he).toStore) h₃ hthrough
    have hclosing : s.closing = [.close .store, .close .accelerator] := hs.closing
    rw [hclosing]
    refine ⟨_, by simpa only [List.append_assoc] using hvisit, ?_⟩
    rw [changes_append, changes_eq_nil fun e he => (h₂ e he).changesTable,
      changes_eq_nil fun e he => (hthrough e he).changesTable]
    rfl

namespace Command

variable {α : Type} {config : Config Float} {payloads : Payloads} {w : World Float}

theorem final_withSession (body : SessionRun Float α) :
    final (withSession config payloads body) w =
      (final Session.stop (final (started config payloads body) ⟨.ofConfig config, w⟩)).world := by
  rw [← final_ensuring]
  cases hr : Run.ensuring (started config payloads body) Session.stop ⟨.ofConfig config, w⟩ with
  | ok a l => rw [final_of_ok hr, final_of_ok (withSession_of_ok hr)]
  | error e l => rw [final_of_error hr, final_of_error (withSession_of_error hr)]

theorem start_body_since (values : Nat → String) (body : SessionRun Float α) [Session.Asks body]
    [hk : ∀ s, Session.Keeps (· = s) body] (l : Live Float) :
    (final (do Session.start values; body) l).session = (final (Session.start values) l).session ∧
      (final (Session.start values) l).world.Adds
        (fun e => ∃ c, (final (Session.start values) l).session.client = some c ∧ e.Through c)
        (final (do Session.start values; body) l).world := by
  cases hr : Session.start values l with
  | error e l' =>
    rw [final_of_error hr, final_of_error (bind_of_error hr _)]
    exact ⟨rfl, .refl l'.world⟩
  | ok a l' =>
    rw [final_of_ok hr, final_bind_of_ok hr]
    exact ⟨(hk l'.session).keeps l' rfl, Session.Asks.asks l'⟩

/-- A session adds nothing, or what its start and its use add and then the closing of what it
holds. -/
theorem withSession_since_of (hp : config.programmableTables = false) (body : SessionRun Float α)
    [hk : ∀ s, Session.Keeps (· = s) body] {Q : List Event → Prop} (hq : Q [])
    (h : ∀ values, w.Since (final (do Session.start values; body) ⟨.ofConfig config, w⟩).world
      fun es => Q (es ++
        (final (do Session.start values; body) ⟨.ofConfig config, w⟩).session.closing)) :
    w.Since (final (withSession config payloads body) w) Q := by
  have hconfig : Session.Keeps (fun s => s.config = config) body :=
    ⟨fun l hl => by rw [(hk l.session).keeps l rfl, hl]⟩
  have hstarted := (keeps_started config payloads body).keeps ⟨.ofConfig config, w⟩ rfl
  have hstop := Session.stop_apply (l := final (started config payloads body) ⟨.ofConfig config, w⟩)
    (by rw [hstarted, hp, Bool.and_false])
  rw [final_withSession, final_of_ok hstop]
  cases hsize : Payload.size? config.valueSize with
  | none =>
    have hrefused : final (started config payloads body) ⟨.ofConfig config, w⟩ =
        ⟨.ofConfig config, w⟩ := by
      rw [started, hsize]
      rfl
    rw [hrefused]
    exact ⟨[], rfl, hq⟩
  | some size =>
    have hused : started config payloads body = (do Session.start (payloads size); body) := by
      rw [started, hsize]
    rw [hused]
    obtain ⟨es, hes, h⟩ := h (payloads size)
    exact ⟨_, by rw [World.logged_events, hes, List.append_assoc], h⟩

theorem withSession_since (hp : config.programmableTables = false) (body : SessionRun Float α)
    [Session.Asks body] [∀ s, Session.Keeps (· = s) body] :
    w.Since (final (withSession config payloads body) w)
      fun es => ∃ inner, Visit inner es ∧ changes inner = [] := by
  apply withSession_since_of hp body ⟨[], .nothing (List.forall_mem_nil _), rfl⟩
  intro values
  obtain ⟨es, hes, hopening⟩ := Session.start_opening (q := Event.IsLook) values
    ⟨.ofConfig config, w⟩ fun l hl => Session.provision_adds
      (by rw [hl]; exact hp) fun answer => ⟨_, answer, rfl⟩
  obtain ⟨hs, es', hes', hthrough⟩ := start_body_since values body ⟨.ofConfig config, w⟩
  rw [hs]
  refine ⟨es ++ es', by rw [hes', hes, List.append_assoc], ?_⟩
  dsimp only
  rw [List.append_assoc]
  exact Visit.of_opening hopening hthrough

theorem withLifecycle_since {body : Table.Lifecycle Float → Run Float α} {P : List Event → Prop}
    (hbody : ∀ (l : Table.Lifecycle Float) (w : World Float),
      w.Since (final (body l) w) fun es => (∀ e ∈ es, e.ToStore) ∧ P es) (hP : P []) :
    w.Since (final (withLifecycle config body) w) fun es => ∃ inner, Visit inner es ∧ P inner := by
  rw [withLifecycle]
  obtain ⟨f, w', hw, es, hes, hsearch⟩ | ⟨w', hw, hopens⟩ := openStore_since config w
  · rw [final_of_error (bind_of_error hw _)]
    exact ⟨es, hes, [], .nothing hsearch, hP⟩
  · rw [final_bind_of_ok hw, final_ensuring]
    have hclose (w : World Float) : w.Since (final Client.direct.close w) (· = [.close .store]) :=
      ⟨_, rfl, rfl⟩
    refine hopens.trans ((hbody _ w').trans (hclose _)
      (R := fun es => ∃ inner, es = inner ++ [.close .store] ∧
        (∀ e ∈ inner, e.ToStore) ∧ P inner) ?_) ?_
    · rintro inner _ ⟨hstore, hinner⟩ rfl
      exact ⟨inner, rfl, hstore, hinner⟩
    · rintro es _ hopens ⟨inner, rfl, hstore, hinner⟩
      exact ⟨inner, .store hopens fun e he => .inl (hstore e he), hinner⟩

/-- What a command may change of tables: creation makes one request for a table of a good name,
and deletion with consent makes one. -/
inductive Changes (c : Command) (i : Invocation) : List Event → Prop
  | nothing : Changes c i []
  | created {answer : Option Answer} (hc : c = createTable)
    (hn : Table.nameProblem? i.config.tableName = none) :
    Changes c i [.call .store (.createTable i.config.table.request) answer]
  | deleted {answer : Option Answer} (hc : c = dropTable) (ha : i.approved = true) :
    Changes c i [.call .store (.deleteTable (.text i.config.tableName)) answer]

def Visits (c : Command) (i : Invocation) (es : List Event) : Prop :=
  ∃ inner, Visit inner es ∧ c.Changes i (changes inner)

variable {c : Command} {i : Invocation}

theorem Visits.nothing : c.Visits i [] := ⟨[], .nothing (List.forall_mem_nil _), .nothing⟩

instance silent_checkKey {p : Event → Prop} (key : String) : Emits p (checkKey key) := by
  rw [checkKey]
  split <;> infer_instance

variable (c i) in
def dataCall? : Option Session.DataCall :=
  match c with
  | read => some (.read (i.keys.headD ""))
  | write => some (.write (i.keys.headD ""))
  | readBulk => some (.readAll i.keys)
  | writeBulk => some (.writeAll i.keys)
  | _ => none

theorem body_since {request : Session.DataCall} (hd : c.dataCall? i = some request)
    {Q : List Event → Prop} (hq : Q [])
    (h : ∀ (w : World Float) (β : Type) (x : SessionRun Float β) (g : β → Session.DataReply),
      request.run = (do let a ← x; return g a) →
      ∀ [Session.Asks x] [∀ s, Session.Keeps (· = s) x],
        w.Since (final (withSession i.config payloads x) w) Q) :
    w.Since (final (c.body i payloads) w) Q := by
  cases c with
  | read =>
    cases hd
    refine Emits.since_after (s := w) hq fun _ w => ?_
    refine Emits.since_after (s := w) hq fun _ w => ?_
    exact Emits.since_before (s := w) (fun _ => inferInstance) (h w _ _ _ rfl)
  | write =>
    cases hd
    refine Emits.since_after (s := w) hq fun _ w => ?_
    refine Emits.since_after (s := w) hq fun _ w => ?_
    exact Emits.since_before (s := w) (fun _ => inferInstance) (h w _ _ _ rfl)
  | readBulk =>
    cases hd
    refine Emits.since_after (s := w) hq fun _ w => ?_
    exact Emits.since_before (s := w) (fun _ => inferInstance) (h w _ _ _ rfl)
  | writeBulk =>
    cases hd
    refine Emits.since_after (s := w) hq fun _ w => ?_
    exact Emits.since_before (s := w) (fun _ => inferInstance) (h w _ _ _ rfl)
  | _ => cases hd

theorem body_visits_of_dataCall {request : Session.DataCall}
    (hd : c.dataCall? i = some request) :
    w.Since (final (c.body i payloads) w) (c.Visits i) := by
  have hp : i.config.programmableTables = false := Config.programmableTables_ofOptions i.settings
  apply body_since hd .nothing
  intro w β x g _ _ _
  apply (withSession_since hp x).mono
  rintro es ⟨inner, hvisit, hchanges⟩
  exact ⟨inner, hvisit, hchanges ▸ .nothing⟩

theorem runDescribeTable_visits :
    w.Since (final (runDescribeTable i) w) (describeTable.Visits i) := by
  rw [runDescribeTable]
  refine Emits.since_before (s := w) (fun _ => inferInstance) (withLifecycle_since
    (P := fun inner => describeTable.Changes i (changes inner)) (fun l w => ?_) .nothing)
  obtain ⟨es, hes, hlooks⟩ := (l.describe_emits i.config.tableName).adds w
  refine ⟨es, hes, fun e he => (hlooks e he).toStore, ?_⟩
  rw [changes_eq_nil fun e he => (hlooks e he).changesTable]
  exact .nothing

theorem changes_of_sent {request : Request} {sent looks : List Event}
    (hsent : Sent request sent) (hlooks : ∀ e ∈ looks, e.IsLook) :
    (∀ e ∈ sent ++ looks, e.ToStore) ∧ changes (sent ++ looks) = changes sent := by
  obtain ⟨answer, rfl⟩ := hsent
  constructor
  · intro e he
    rcases List.mem_append.1 he with he | he
    · rw [List.mem_singleton.1 he]
      exact ⟨request, answer, rfl⟩
    · exact (hlooks e he).toStore
  · rw [changes_append, changes_eq_nil fun e he => (hlooks e he).changesTable, List.append_nil]

theorem runCreateTable_visits : w.Since (final (runCreateTable i) w) (createTable.Visits i) := by
  rw [runCreateTable]
  dsimp only
  cases hn : Table.nameProblem? i.config.tableName with
  | some p =>
    have hcheck : checkTableName i.config.tableName w = .error (.reported p.error false) w := by
      rw [checkTableName, hn]
      rfl
    rw [final_of_error (bind_of_error hcheck _)]
    exact .nothing .nothing
  | none =>
    have hcheck : checkTableName i.config.tableName w = .ok () w := by
      rw [checkTableName, hn]
      rfl
    rw [final_bind_of_ok hcheck]
    refine Emits.since_after (s := w) .nothing fun _ w => ?_
    refine Emits.since_after (s := w) .nothing fun _ w => ?_
    refine Emits.since_before (s := w) (fun _ => inferInstance) (withLifecycle_since
      (P := fun inner => createTable.Changes i (changes inner)) (fun l w => ?_) .nothing)
    have hlooks (created : Bool) : Emits Event.IsLook (do
        let _ ← l.await .active i.config.tableName
        return (created, ← l.describe i.config.tableName)) := by
      have hawait := l.await_emits .active i.config.tableName
      have hdescribe := l.describe_emits i.config.tableName
      infer_instance
    refine since_bind (s := w) (l.create_since w i.config.table)
      (fun created => (hlooks created).adds) (List.forall_mem_nil _) ?_
    intro sent looks hsent hlooks
    obtain ⟨hstore, hchanges⟩ := changes_of_sent hsent hlooks
    obtain ⟨answer, rfl⟩ := hsent
    rw [hchanges]
    exact ⟨hstore, .created rfl hn⟩

theorem runDropTable_visits : w.Since (final (runDropTable i) w) (dropTable.Visits i) := by
  rw [runDropTable]
  cases ha : i.approved with
  | false => exact .nothing .nothing
  | true =>
    simp only [Bool.not_true, Bool.false_eq_true, if_false]
    refine Emits.since_before (s := w) (fun dropped => by split <;> infer_instance) ?_
    rw [final_attempt]
    refine Emits.since_after (s := w) .nothing fun _ w => ?_
    refine withLifecycle_since
      (P := fun inner => dropTable.Changes i (changes inner)) (fun l w => ?_) .nothing
    obtain ⟨es, hes, sent, looks, rfl, hsent, hlooks⟩ := l.drop_since w i.config.tableName
    obtain ⟨hstore, hchanges⟩ := changes_of_sent hsent hlooks
    obtain ⟨answer, rfl⟩ := hsent
    refine ⟨_, hes, hstore, ?_⟩
    rw [hchanges]
    exact .deleted rfl ha

theorem body_visits (c : Command) (i : Invocation) (payloads : Payloads) (w : World Float) :
    w.Since (final (c.body i payloads) w) (c.Visits i) := by
  cases c with
  | createTable => exact runCreateTable_visits
  | dropTable => exact runDropTable_visits
  | describeTable => exact runDescribeTable_visits
  | read => exact body_visits_of_dataCall rfl
  | write => exact body_visits_of_dataCall rfl
  | readBulk => exact body_visits_of_dataCall rfl
  | writeBulk => exact body_visits_of_dataCall rfl
  | connectionInfo => exact .nothing .nothing

end Command

end CommandLine

end TableBench
