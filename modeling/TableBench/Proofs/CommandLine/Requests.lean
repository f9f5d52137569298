import TableBench.Proofs.CommandLine.Manner

namespace TableBench

open Run Service Table

/-- No fault is forgiven, and no run breaks off. -/
structure Manner.Strict {T : Type} (M : Manner T) : Prop where
  forgives : ∀ es request error, ¬ M.forgives es request error
  breaksOff : ∀ w es f, ¬ M.breaksOff w es f

variable {T : Type} [TimeScale T] {M : Manner T} {b : List Event} {P : List Event → Prop}
  {w : World T}

namespace Item

variable (c : Client) (table attributeName key : String)

theorem read_ends (hM : M.Strict) (h : M.Calm b P w) (consistent : Document) :
    M.Ends b w (read c table attributeName key consistent) fun _ _ _ => True := by
  rw [read, Client.getItem]
  simp only [bind_assoc]
  refine Manner.Ends.seq (fun _ => .seq fun _ => ?_)
    (.call h fun es error _ => hM.forgives es _ error) ?_
  · split <;> infer_instance
  · intro d w' h'
    obtain ⟨hd, h'⟩ := h'.split
    cases hd with
    | item response =>
      simp only [Document.requireFields, ofExcept_ok, pure_bind]
      split <;> exact .pure (h'.mono fun _ _ => trivial)

theorem write_ends (hM : M.Strict) (h : M.Calm b P w) :
    M.Ends b w (write c table attributeName key) fun _ _ _ => True := by
  rw [write]
  apply Manner.Ends.step (draw_apply w) rfl
  refine .bind (.call (h.aside (.of_events_eq rfl)) fun es error _ => hM.forgives es _ error) ?_
  intro d w' h'
  exact .pure (h'.mono fun _ _ => trivial)

end Item

namespace Batch

def isRound : Event → Bool
  | .call _ (.batchGetItem _) _ | .call _ (.batchWriteItem _) _ => true
  | _ => false

/-- How many keys or items of a batch for the table a response left over, if any. -/
def leftBy (table : String) : Event → Option Nat
  | .call _ (.batchGetItem _) (some (.ok d)) =>
    match keysLeft d table with
    | .ok (some request) => (keyCount request).toOption
    | _ => none
  | .call _ (.batchWriteItem _) (some (.ok d)) =>
    match entriesLeft d table with
    | .ok (some entries) => entries.requireSize.toOption
    | _ => none
  | _ => none

/-- How many keys or items of a batch for the table are left over after the last request. -/
def unfinished (table : String) (es : List Event) : Option Nat := es.getLast?.bind (leftBy table)

theorem unfinished_append (table : String) (es : List Event) (e : Event) :
    unfinished table (es ++ [e]) = leftBy table e := by
  rw [unfinished, List.getLast?_concat, Option.bind_some]

/-- So many rounds of a batch are to go, with so many keys or items left over. -/
structure Underway (table : String) (rounds n size : Nat) (es : List Event) : Prop where
  made : es.countP isRound + n = rounds
  left : n < rounds → unfinished table es = some size

variable (c : Client) (table attributeName : String) {rounds n : Nat}

theorem Underway.next {table : String} {size size' : Nat} {es : List Event} {e : Event}
    (h : Underway table rounds (n + 1) size es) (he : isRound e = true)
    (hl : leftBy table e = some size') : Underway table rounds n size' (es ++ [e]) where
  made := by
    rw [List.countP_append, List.countP_singleton, if_pos he, ← h.made]
    omega
  left _ := by rw [unfinished_append, hl]

theorem readRounds_ends (hM : M.Strict) (hr : 0 < rounds)
    (hg : ∀ es left, es.countP isRound = rounds → unfinished table es = some left →
      M.complains es (givenUp left "keys" rounds "BatchGetItem"))
    (consistent : Document) {left : Fields} {ds : List Document}
    (hk : left.lookup "Keys" = some (.list ds)) (items : List Document)
    (h : M.Calm b (Underway table rounds n ds.length) w) :
    M.Ends b w (readRounds c table consistent rounds n left items)
      fun _ _ es => unfinished table es = none := by
  -- on the rounds left: what is left always names its keys
  induction n generalizing left ds items w with
  | zero =>
    rw [readRounds, keyCount_eq hk]
    exact .complain h fun es hes => hg es _ hes.made (hes.left hr)
  | succ n ih =>
    have hq : (left.set "ConsistentRead" consistent).lookup "Keys" = some (.list ds) := by
      rw [Fields.lookup_set, if_neg (by decide), hk]
    rw [readRounds]
    simp only [keyCount_eq hq, ofExcept_ok, pure_bind]
    apply Manner.Ends.step (log_apply _ _ _ w) rfl
    refine Manner.Ends.seq (fun _ => .seq fun _ => .seq fun left => ?_)
      (.call (h.aside ((World.Aside.refl w).logged _)) fun es error _ => hM.forgives es _ error) ?_
    · cases left <;> infer_instance
    · intro d w' h'
      obtain ⟨hd, h'⟩ := h'.split
      cases hd with
      | found hitems hleft =>
        obtain ⟨items', hf⟩ := found_of_forTables table hitems
        simp only [hf, ofExcept_ok, pure_bind]
        obtain hl | ⟨fs, ds', hl, hds'⟩ := keysLeft_of_forTables table hleft
        · rw [hl, ofExcept_ok, pure_bind]
          refine .pure (h'.mono ?_)
          rintro _ ⟨es, -, rfl⟩
          rw [unfinished_append]
          simp only [leftBy, hl]
        · rw [hl, ofExcept_ok, pure_bind]
          refine ih hds' _ (h'.mono ?_)
          rintro _ ⟨es, hes, rfl⟩
          refine hes.next rfl ?_
          simp only [leftBy, hl, keyCount_eq hds']
          rfl

theorem writeRounds_ends (hM : M.Strict) (hr : 0 < rounds)
    (hg : ∀ es left, es.countP isRound = rounds → unfinished table es = some left →
      M.complains es (givenUp left "items" rounds "BatchWriteItem"))
    (ds : List Document) (h : M.Calm b (Underway table rounds n ds.length) w) :
    M.Ends b w (writeRounds c table rounds n (.list ds))
      fun _ _ es => unfinished table es = none := by
  have hsize (ds : List Document) : (Document.list ds).requireSize = .ok ds.length := rfl
  induction n generalizing ds w with
  | zero =>
    rw [writeRounds, hsize]
    exact .complain h fun es hes => hg es _ hes.made (hes.left hr)
  | succ n ih =>
    rw [writeRounds]
    simp only [hsize, ofExcept_ok, pure_bind]
    apply Manner.Ends.step (log_apply _ _ _ w) rfl
    refine Manner.Ends.seq (fun _ => .seq fun left => ?_)
      (.call (h.aside ((World.Aside.refl w).logged _)) fun es error _ => hM.forgives es _ error) ?_
    · cases left <;> infer_instance
    · intro d w' h'
      obtain ⟨hd, h'⟩ := h'.split
      cases hd with
      | allStored hleft =>
        obtain hl | ⟨ds', hl⟩ := entriesLeft_of_forTables table hleft
        · rw [hl, ofExcept_ok, pure_bind]
          refine .pure (h'.mono ?_)
          rintro _ ⟨es, -, rfl⟩
          rw [unfinished_append]
          simp only [leftBy, hl]
        · rw [hl, ofExcept_ok, pure_bind]
          refine ih ds' (h'.mono ?_)
          rintro _ ⟨es, hes, rfl⟩
          refine hes.next rfl ?_
          simp only [leftBy, hl, hsize]
          rfl

theorem Underway.of_none {size : Nat} {es : List Event} (h : es.countP isRound = 0) :
    Underway table rounds rounds size es :=
  ⟨by rw [h, Nat.zero_add], fun h => absurd h (Nat.lt_irrefl _)⟩

variable (keys : List String) (rounds : Int)

theorem read_ends (hM : M.Strict) (consistent : Document)
    (hfits : Number.fits Number.maxDigits rounds = true)
    (hp : ∀ p, problem? keys readLimit rounds = some p → ∀ es, P es → M.complains es p.error)
    (hg : problem? keys readLimit rounds = none → ∀ es left,
      es.countP isRound = rounds.toNat → unfinished table es = some left →
      M.complains es (givenUp left "keys" rounds.toNat "BatchGetItem"))
    (hP : ∀ es, P es → es.countP isRound = 0) (h : M.Calm b P w) :
    M.Ends b w (read c table attributeName keys consistent rounds)
      fun _ _ es => problem? keys readLimit rounds = none ∧ unfinished table es = none := by
  rw [read, check_eq]
  cases hk : problem? keys readLimit rounds with
  | some p =>
    simp only [failure_of_problem? hk hfits]
    exact .complain h (hp p hk)
  | none =>
    obtain ⟨n, hn⟩ := pos_of_problem?_eq_none hk
    have hr : 0 < rounds.toNat := by omega
    rw [pure_bind]
    refine .bind (readRounds_ends c table hM hr (hg hk) consistent rfl []
      (h.mono fun es hes => .of_none table (hP es hes))) ?_
    intro items w' h'
    exact .pure (h'.mono fun es hes => ⟨rfl, hes⟩)

theorem write_ends (hM : M.Strict) (hfits : Number.fits Number.maxDigits rounds = true)
    (hp : ∀ p, problem? keys writeLimit rounds = some p → ∀ es, P es → M.complains es p.error)
    (hg : problem? keys writeLimit rounds = none → ∀ es left,
      es.countP isRound = rounds.toNat → unfinished table es = some left →
      M.complains es (givenUp left "items" rounds.toNat "BatchWriteItem"))
    (hP : ∀ es, P es → es.countP isRound = 0) (h : M.Calm b P w) :
    M.Ends b w (write c table attributeName keys rounds)
      fun _ _ es => problem? keys writeLimit rounds = none ∧ unfinished table es = none := by
  rw [write, check_eq]
  cases hk : problem? keys writeLimit rounds with
  | some p =>
    simp only [failure_of_problem? hk hfits]
    exact .complain h (hp p hk)
  | none =>
    obtain ⟨n, hn⟩ := pos_of_problem?_eq_none hk
    have hr : 0 < rounds.toNat := by omega
    rw [pure_bind]
    apply Manner.Ends.step (putRequests_apply attributeName keys w) rfl
    refine .bind (writeRounds_ends c table hM hr (hg hk) _
      ((h.aside (.of_events_eq rfl)).mono fun es hes => .of_none table (hP es hes))) ?_
    intro _ w' h'
    exact .pure (h'.mono fun es hes => ⟨rfl, hes⟩)

end Batch

namespace Table

theorem Expired.congr {deadline limit : T} {complaint : String} {f : Failure} {w' : World T}
    (h : Expired deadline limit complaint f w) (hw : w'.unrecorded = w.unrecorded) :
    Expired deadline limit complaint f w' := by
  have hclock : w'.clock = w.clock := (congrArg World.clock hw :)
  have hinterruption : w'.interruption = w.interruption := (congrArg World.interruption hw :)
  have hwaits : w'.waits = w.waits := (congrArg World.waits hw :)
  cases h with
  | timedOut h => exact .timedOut (by rwa [hclock])
  | interrupted h hc => exact .interrupted (by rwa [hclock]) (by rwa [hinterruption, hwaits])
  | tooLong h ho =>
    refine .tooLong (by rwa [hclock]) ?_
    rwa [World.Overwaited, hinterruption, hwaits]

def ShowsActive (e : Event) : Prop :=
  ∃ target table d part t, e = .call target (.describeTable table) (some (.ok d)) ∧
    d.require "Table" = .ok part ∧ Descriptor.ofDescription part = .ok t ∧ t.status = .active

def Shown (es : List Event) : Prop := ∃ e ∈ es, ShowsActive e

theorem shown_append {es : List Event} {e : Event} :
    Shown (es ++ [e]) ↔ Shown es ∨ ShowsActive e := by
  simp only [Shown, List.mem_append, List.mem_singleton, or_and_right, exists_or, exists_eq_left]

/-- Faults that do not keep a table from being created: there is one already, or it is not to be
seen as long as it was not seen active. -/
def ForgivenInCreation (es : List Event) (request : Request) (error : BenchError) : Prop :=
  request.operation = .createTable ∧ error.code? = some inUseCode ∨
    request.operation = .describeTable ∧ error.code? = some notFoundCode ∧ ¬ Shown es

theorem not_showsActive_of_ne {target : Target} {request : Request} {answer : Option Answer}
    (h : request.operation ≠ .describeTable) : ¬ ShowsActive (.call target request answer) := by
  rintro ⟨target, table, d, part, t, he, -⟩
  cases he
  exact h rfl

theorem not_showsActive_of_error {target : Target} {request : Request} {f : Fault} :
    ¬ ShowsActive (.call target request (some (.error f))) := by
  rintro ⟨target, table, d, part, t, he, -⟩
  cases he

theorem showsActive_iff {target : Target} {table d part : Document} {t : Descriptor}
    (hp : d.require "Table" = .ok part) (ht : Descriptor.ofDescription part = .ok t) :
    ShowsActive (.call target (.describeTable table) (some (.ok d))) ↔ t.status = .active := by
  constructor
  · rintro ⟨_, _, d', part', t', he, hp', ht', hs⟩
    cases he
    rw [hp] at hp'
    cases hp'
    rw [ht] at ht'
    cases ht'
    exact hs
  · intro hs
    exact ⟨target, table, d, part, t, rfl, hp, ht, hs⟩

namespace Lifecycle

variable (l : Lifecycle T) (tableName : String)

theorem describe_ends (h : M.Calm b P w)
    (hx : ∀ es error, P es → ¬ M.forgives es (.describeTable (.text tableName)) error) :
    M.Ends b w (l.describe tableName) fun _ _ es => ∃ es₀ answer, P es₀ ∧
      es = es₀ ++ [.call .store (.describeTable (.text tableName)) answer] := by
  rw [describe, Client.describeTable]
  simp only [bind_assoc]
  refine .bind (.call h hx) ?_
  intro d w' h'
  obtain ⟨hd, h'⟩ := h'.split
  cases hd with
  | described hr hfs =>
    obtain ⟨t, ht⟩ := hfs.ofDescription
    simp only [Descriptor.require_object hr, ofExcept_ok, pure_bind, ht]
    refine .pure (h'.mono ?_)
    rintro _ ⟨es, hes, rfl⟩
    exact ⟨es, _, hes, rfl⟩

theorem describe_ends_of_shown (hM : M.forgives = ForgivenInCreation) (h : M.Calm b Shown w) :
    M.Ends b w (l.describe tableName) fun _ _ es => Shown es := by
  refine (describe_ends l tableName h ?_).mono ?_
  · intro es error hes hx
    rw [hM] at hx
    obtain ⟨hx, -⟩ | ⟨-, -, hx⟩ := hx
    · cases hx
    · exact hx hes
  · rintro _ _ _ ⟨es, answer, hes, rfl⟩
    exact shown_append.2 (.inl hes)

theorem create_ends (hM : M.forgives = ForgivenInCreation) (h : M.Calm b (¬ Shown ·) w)
    (d : Definition) : M.Ends b w (l.create d) fun _ w' es =>
      (∃ o, w.script.head? = some o ∧ w'.clock = w.clock + o.elapsed) ∧ ¬ Shown es := by
  have hother (es : List Event) (hes : ¬ Shown es) (answer : Option Answer) :
      ¬ Shown (es ++ [.call .store (.createTable d.request) answer]) := by
    rw [shown_append, not_or]
    exact ⟨hes, not_showsActive_of_ne nofun⟩
  -- the answer to the request is the first of the script
  have hfirst {o : Outcome T} {script : List (Outcome T)} (hw : w.script = o :: script) :
      ∃ o', w.script.head? = some o' ∧ w.clock + o.elapsed = w.clock + o'.elapsed :=
    ⟨o, by rw [hw, List.head?_cons], rfl⟩
  apply Ensures.create
  · intro rs o script response _ hw ho ha
    cases ha with
    | @created _ response _ hr =>
      have he : ((w.logged rs).answered .store (.createTable d.request) o script).events =
          w.events ++ [.call .store (.createTable d.request) (some (.ok (.object response)))] := by
        rw [World.answered_events, World.logged_events, ho]
      refine ⟨_, Descriptor.require_object hr, ?_⟩
      exact h.response he fun es hes => ⟨hfirst hw, hother es hes _⟩
  · intro rs o script f _ hw ho ha
    cases ha with
    | fault hf =>
      obtain ⟨error, chained, hf⟩ := hf.failure
      have he : (((w.logged rs).answered .store (.createTable d.request) o script).logged
          f.records).events =
            w.events ++ [.call .store (.createTable d.request) (some (.error f))] := by
        rw [World.logged_events, World.answered_events, World.logged_events, ho]
      refine ⟨error, chained, hf, fun hcode rs => ?_, fun hcode => .troubled chained ?_⟩
      · have hforgiven (es : List Event) :
            M.forgives es (.createTable d.request) error := by
          rw [hM]
          exact .inl ⟨rfl, hcode⟩
        exact h.forgiven hf he (fun es _ => hforgiven es)
          fun es hes => ⟨hfirst hw, hother es hes _⟩
      · refine h.struck hf he fun es _ => ?_
        rw [hM]
        rintro (⟨-, h⟩ | ⟨h, -⟩)
        · exact hcode h
        · cases h

variable {tableName}

theorem pause_ends (deadline : T) (goal : Goal)
    (hb : ∀ f w' es, P es → Expired deadline l.maxWait (goal.complaint tableName) f w' →
      M.breaksOff w' es f)
    (h : M.Calm b P w) : M.Ends b w (l.pause deadline goal tableName) fun _ _ => P := by
  apply (l.pause_expires tableName deadline goal).mono
  · intro _ w' _ h'
    exact h.aside (.of_events_eq h'.2)
  · intro f w' _ h'
    obtain ⟨-, he, hx⟩ := h'
    exact .brokenOff ((h.aside (.of_events_eq he)).mono fun es hes => hb f w' es hes hx)

theorem look_ends (hM : M.forgives = ForgivenInCreation) (h : M.Calm b (¬ Shown ·) w) :
    M.Ends b w (l.look tableName) fun sighting w' es => w'.script.length < w.script.length ∧
      (Shown es ↔ sighting = .present .active) := by
  apply Ensures.look
  · intro o script d _ hw ho ha
    cases ha with
    | @described _ response fs hr hfs =>
      obtain ⟨t, ht⟩ := hfs.ofDescription
      have hpart := Descriptor.require_object hr
      have he : (w.answered .store (.describeTable (.text tableName)) o script).events = w.events ++
          [.call .store (.describeTable (.text tableName)) (some (.ok (.object response)))] := by
        rw [World.answered_events, ho]
      refine ⟨_, t, hpart, ht, h.response he fun es hes => ⟨World.length_lt_of_script hw, ?_⟩⟩
      rw [shown_append, or_iff_right hes, showsActive_iff hpart ht, Sighting.present.injEq]
  · intro o script f _ hw ho ha
    cases ha with
    | fault hf =>
      obtain ⟨error, chained, hf⟩ := hf.failure
      have he : ((w.answered .store (.describeTable (.text tableName)) o script).logged
          f.records).events =
          w.events ++ [.call .store (.describeTable (.text tableName)) (some (.error f))] := by
        rw [World.logged_events, World.answered_events, ho]
      refine ⟨error, chained, hf, fun hcode => ?_, fun hcode => .troubled chained ?_⟩
      · refine h.forgiven hf he (fun es hes => ?_) fun es hes => ⟨World.length_lt_of_script hw, ?_⟩
        · rw [hM]
          exact .inr ⟨rfl, hcode, hes⟩
        · rw [shown_append, or_iff_right hes]
          exact iff_of_false not_showsActive_of_error nofun
      · refine h.struck hf he fun es _ => ?_
        rw [hM]
        rintro (⟨h, -⟩ | ⟨-, h, -⟩)
        · cases h
        · exact hcode h

/-- A wait for a table ends when it was seen active. -/
theorem await_ends (hM : M.forgives = ForgivenInCreation)
    (hb : ∀ f w' es, ¬ Shown es →
      Expired (w.clock + l.maxWait) l.maxWait (Goal.active.complaint tableName) f w' →
      M.breaksOff w' es f)
    (h : M.Calm b (¬ Shown ·) w) :
    M.Ends b w (l.await .active tableName) fun _ _ es => Shown es := by
  refine Ensures.await (I := fun w' _ => M.Calm b (¬ Shown ·) w') ?_ h
  intro w' _ h'
  refine Ensures.mono (look_ends l hM h') ?_ fun _ _ _ he => he
  intro sighting w₁ _ h₁
  have hscript : w₁.script.length < w'.script.length := by
    obtain ⟨_, -, -, hscript, -⟩ := h₁
    exact hscript
  refine ⟨hscript, ?_⟩
  by_cases hs : sighting = .present .active
  · rw [hs]
    exact h₁.mono fun es hes => hes.2.2 hs
  · have hnot : Goal.active.reached? sighting = none := by
      cases sighting with
      | missing => rfl
      | present status =>
        cases status with
        | active => exact absurd rfl hs
        | _ => rfl
    rw [hnot]
    refine pause_ends l _ .active hb ?_
    exact h₁.mono fun es hes hshown => hs (hes.2.1 hshown)

/-- A table is created, waited for and described. -/
theorem setUp_ends (hM : M.forgives = ForgivenInCreation) (h : M.Calm b (¬ Shown ·) w)
    {d : Definition}
    (hb : ∀ o f w' es, w.script.head? = some o → ¬ Shown es →
      Expired (w.clock + o.elapsed + l.maxWait) l.maxWait (Goal.active.complaint tableName) f w' →
      M.breaksOff w' es f) :
    M.Ends b w (do
      let created ← l.create d
      let _ ← l.await .active tableName
      return (created, ← l.describe tableName)) fun _ _ es => Shown es := by
  apply Manner.Ends.bind (create_ends l hM h d)
  intro created w₁ h₁
  obtain ⟨⟨o, ho, hclock⟩, h₁⟩ := h₁.split
  apply Manner.Ends.bind (await_ends l hM ?_ h₁)
  · intro _ w₂ h₂
    apply Manner.Ends.bind (describe_ends_of_shown l tableName hM h₂)
    intro table w₃ h₃
    exact .pure h₃
  · intro f w' es hes hx
    apply hb o f w' es ho hes
    rw [← hclock]
    exact hx

end Lifecycle

end Table

end TableBench
