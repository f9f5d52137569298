import TableBench.Proofs.Session.History

namespace TableBench

open Run

/-- How often each client of the service was closed, the newest client first, after one more event.
A close is of the client that was opened last. -/
def tally (t : Target) (counts : List Nat) (e : Event) : List Nat :=
  if e.opened? = some t then 0 :: counts
  else if e.closed? = some t then counts.modifyHead (· + 1)
  else counts

def closings (t : Target) (es : List Event) : List Nat := es.foldl (tally t) []

section

variable {t target : Target} {es : List Event} {counts : List Nat}

theorem tally_of_idle {e : Event} (h : e.Idle) : tally t counts e = counts := by
  obtain ⟨ho, hc⟩ := h
  rw [tally, ho, hc, if_neg nofun, if_neg nofun]

theorem foldl_tally_of_idle (h : ∀ e ∈ es, e.Idle) : es.foldl (tally t) counts = counts := by
  induction es with
  | nil => rfl
  | cons e es ih =>
    obtain ⟨he, hes⟩ := List.forall_mem_cons.1 h
    rw [List.foldl_cons, tally_of_idle he, ih hes]

theorem Opens.foldl_tally (h : Opens target es) :
    es.foldl (tally t) counts = if target = t then 0 :: counts else counts := by
  obtain ⟨searches, e, rfl, he, hsearches⟩ := h
  rw [List.foldl_concat, foldl_tally_of_idle fun e he => (hsearches e he).idle, tally, he,
    Event.closed?_of_opened? he]
  by_cases ht : target = t
  · rw [if_pos (congrArg some ht), if_pos ht]
  · rw [if_neg (ht ∘ Option.some.inj), if_neg nofun, if_neg ht]

end

namespace Session

variable {T : Type} {s s' : Session T} {t : Target} {es : List Event} {counts : List Nat}

theorem foldl_tally_closing (s : Session T) (t : Target) (counts : List Nat) :
    s.closing.foldl (tally t) counts = if s.holds t then counts.modifyHead (· + 1) else counts := by
  rw [closing]
  cases hs : s.store <;> cases ha : s.accelerator <;> cases t <;>
    simp only [List.filter, holds, hs, ha] <;> rfl

theorem any_opened_closing (s : Session T) (t : Target) :
    s.closing.any (·.opened? == some t) = false := by
  rw [List.any_eq_false]
  intro e he
  obtain ⟨target, -, rfl⟩ := List.mem_map.1 he
  exact Bool.false_ne_true

theorem Opening.foldl_tally (h : Opening Event.ToStore s s' es) :
    es.foldl (tally t) counts =
      if es.any (·.opened? == some t) then 0 :: counts else counts := by
  cases h with
  | nothing _ h =>
    have hidle : ∀ e ∈ es, e.Idle := fun e he => (h e he).idle
    rw [foldl_tally_of_idle hidle, any_opened_of_idle hidle]
    rfl
  | @store es₁ es₂ es₃ _ h₁ h₂ h₃ =>
    have hidle₂ : ∀ e ∈ es₂, e.Idle := fun e he => (h₂ e he).idle
    have hidle₃ : ∀ e ∈ es₃, e.Idle := fun e he => (h₃ e he).idle
    rw [List.foldl_append, List.foldl_append, foldl_tally_of_idle hidle₃,
      foldl_tally_of_idle hidle₂, h₁.foldl_tally, List.any_append, List.any_append, h₁.any_opened,
      any_opened_of_idle hidle₂, any_opened_of_idle hidle₃]
    cases t <;> rfl
  | @accelerator es₁ es₂ es₃ _ h₁ h₂ h₃ =>
    have hidle₂ : ∀ e ∈ es₂, e.Idle := fun e he => (h₂ e he).idle
    rw [List.foldl_append, List.foldl_append, h₃.foldl_tally, foldl_tally_of_idle hidle₂,
      h₁.foldl_tally, List.any_append, List.any_append, h₁.any_opened, any_opened_of_idle hidle₂,
      h₃.any_opened]
    cases t <;> rfl

/-- The use opens a client of the service while the session still holds one. -/
def Used.replaces (t : Target) (u : Used T) : Bool := u.before.holds t && u.opens t

theorem Used.opens_of_closing {u : Used T} {requests : List Event}
    (he : u.seen.events = requests ++ s.closing) (hrequests : ∀ e ∈ requests, e.Idle) :
    u.opens t = false := by
  rw [Used.opens, he, List.any_append, any_opened_of_idle hrequests, any_opened_closing]
  rfl

def trace (us : List (Used T)) : List Event := us.flatMap (·.seen.events)

theorem trace_concat (us : List (Used T)) (u : Used T) :
    trace (us ++ [u]) = trace us ++ u.seen.events := by
  rw [trace, List.flatMap_append, List.flatMap_singleton, trace]

/-- The clients of a service that the session does not hold were closed once, or never where they
were replaced; the one that it holds was not closed. -/
structure Balanced (t : Target) (us : List (Used T)) (s : Session T) (past : List Nat) : Prop where
  closings : closings t (trace us) = if s.holds t then 0 :: past else past
  once : ∀ n ∈ past, n ≤ 1
  never : past.count 0 = us.countP (Used.replaces t)

namespace Balanced

variable {us : List (Used T)} {u : Used T} {past : List Nat}

theorem ofConfig (config : Config T) : Balanced t [] (ofConfig config) [] where
  closings := by cases t <;> rfl
  once := List.forall_mem_nil _
  never := rfl

theorem next (h : Balanced t us s past) (hb : u.before = s) {past' : List Nat}
    (hclosings : u.seen.events.foldl (tally t) (if s.holds t then 0 :: past else past) =
      if s'.holds t then 0 :: past' else past')
    (honce : ∀ n ∈ past', n ≤ 1)
    (hnever : past'.count 0 = past.count 0 + if s.holds t && u.opens t then 1 else 0) :
    Balanced t (us ++ [u]) s' past' where
  closings := by
    rw [trace_concat, TableBench.closings, List.foldl_append, ← TableBench.closings, h.closings,
      hclosings]
  once := honce
  never := by
    rw [hnever, h.never, List.countP_append, List.countP_singleton, Used.replaces, hb]

theorem idle (h : Balanced t us s past) (hb : u.before = s) (hidle : ∀ e ∈ u.seen.events, e.Idle) :
    Balanced t (us ++ [u]) s past := by
  refine h.next hb (foldl_tally_of_idle hidle) h.once ?_
  rw [Used.opens, any_opened_of_idle hidle, Bool.and_false]
  rfl

theorem opening (h : Balanced t us s past) (hb : u.before = s)
    (hes : Opening Event.ToStore s s' u.seen.events) :
    ∃ past', Balanced t (us ++ [u]) s' past' := by
  have hholds := hes.holds t
  cases ho : u.opens t with
  | false =>
    rw [← Used.opens, ho, Bool.or_false] at hholds
    refine ⟨past, h.next hb ?_ h.once ?_⟩
    · rw [hes.foldl_tally, ← Used.opens, ho, hholds]
      rfl
    · rw [ho, Bool.and_false]
      rfl
  | true =>
    rw [← Used.opens, ho, Bool.or_true] at hholds
    cases hs : s.holds t with
    | false =>
      refine ⟨past, h.next hb ?_ h.once ?_⟩
      · rw [hes.foldl_tally, ← Used.opens, ho, hholds, hs]
        rfl
      · rw [hs]
        rfl
    | true =>
      -- the client that was held is now one of the past that nobody closed
      refine ⟨0 :: past, h.next hb ?_ (List.forall_mem_cons.2 ⟨Nat.zero_le 1, h.once⟩) ?_⟩
      · rw [hes.foldl_tally, ← Used.opens, ho, hholds, hs]
        rfl
      · rw [hs, ho, List.count_cons_self]
        rfl

theorem stop (h : Balanced t us s past) (hb : u.before = s) {requests : List Event}
    (he : u.seen.events = requests ++ s.closing) (hrequests : ∀ e ∈ requests, e.Idle) :
    ∃ past', Balanced t (us ++ [u]) s.released past' := by
  have hopens : u.opens t = false := Used.opens_of_closing he hrequests
  have hreleased : s.released.holds t = false := by cases t <;> rfl
  -- the client that is held, if there is one, joins the past with its only closing
  cases hs : s.holds t with
  | false =>
    refine ⟨past, h.next hb ?_ h.once ?_⟩
    · rw [he, List.foldl_append, foldl_tally_of_idle hrequests, foldl_tally_closing, hs, hreleased]
      rfl
    · rw [hs]
      rfl
  | true =>
    refine ⟨1 :: past, h.next hb ?_ (List.forall_mem_cons.2 ⟨Nat.le_refl 1, h.once⟩) ?_⟩
    · rw [he, List.foldl_append, foldl_tally_of_idle hrequests, foldl_tally_closing, hs, hreleased]
      rfl
    · rw [hopens, Bool.and_false, List.count_cons_of_ne Nat.one_ne_zero]
      rfl

theorem does {seen : Seen T Unit} {use : Use} (h : Balanced t us s past)
    (hdoes : Does s s' seen use) : ∃ past', Balanced t (us ++ [⟨s, use, seen⟩]) s' past' := by
  cases hdoes with
  | start hopening => exact h.opening rfl hopening
  | call hs hthrough =>
    rw [hs]
    refine ⟨past, h.idle rfl fun e he => ?_⟩
    obtain ⟨c, -, hc⟩ := hthrough e he
    exact hc.idle
  | stop _ hs he hrequests =>
    rw [hs]
    exact h.stop rfl he fun e hm => (hrequests e hm).idle
  | brokenStop _ hs _ hrequests =>
    rw [hs]
    exact ⟨past, h.idle rfl fun e he => (hrequests e he).idle⟩

end Balanced

variable [TimeScale T]

/-- However a new session is used, a stop that returns leaves of each service only those clients
open that a start replaced while the session held them, and closes none a second time. -/
theorem stop_leaves_replaced_open {config : Config T} {w : World T}
    {uses : List (Use × List (Outcome T))} {script : List (Outcome T)} {us : List (Used T)}
    {l l' : Live T} {seen : Seen T Unit} (hrun : useAll uses ⟨ofConfig config, w⟩ = (us, l))
    (hstop : observe script stop l = (seen, l')) (hreturned : seen.reply = .ok ()) (t : Target) :
    (∀ n ∈ closings t (trace us ++ seen.events), n ≤ 1) ∧
      (closings t (trace us ++ seen.events)).count 0 = us.countP (Used.replaces t) := by
  have hused := useAll_keeps (P := fun us s => ∃ past, Balanced t us s past)
    (fun us s s' seen use h hdoes => h.elim fun past h => h.does hdoes) uses
    ⟨ofConfig config, w⟩ [] ⟨[], .ofConfig config⟩
  rw [List.nil_append, hrun] at hused
  obtain ⟨past, h⟩ := hused
  have hdoes : Does l.session (observe script Session.stop l).2.session
      (observe script Session.stop l).1 .stop := observe_does .stop script l
  rw [hstop] at hdoes
  cases hdoes with
  | brokenStop hr _ _ _ =>
    rw [hr] at hreturned
    cases hreturned
  | @stop requests _ _ he hrequests =>
    have hidle : ∀ e ∈ requests, e.Idle := fun e hm => (hrequests e hm).idle
    obtain ⟨past', h'⟩ := h.stop (u := ⟨l.session, .stop, seen⟩) rfl he hidle
    have hreleased : l.session.released.holds t = false := by cases t <;> rfl
    have hopens : Used.opens ⟨l.session, .stop, seen⟩ t = false := Used.opens_of_closing he hidle
    have hclosings := h'.closings
    have hnever := h'.never
    rw [trace_concat, hreleased, if_neg Bool.false_ne_true] at hclosings
    rw [List.countP_append, List.countP_singleton, Used.replaces, hopens, Bool.and_false,
      if_neg Bool.false_ne_true, Nat.add_zero] at hnever
    rw [hclosings]
    exact ⟨h'.once, hnever⟩

def untouched : World Float where
  clock := 0
  source := { value := fun _ => "" }

def tableThere : Outcome Float :=
  ⟨.ok (.object [("Table", .object [("TableName", .text "ndbench-table")])]), 0⟩

theorem stop_leaves_replaced_open_startedTwice :
    ∃ us l seen l', useAll [(.start fun _ => "", [tableThere]), (.start fun _ => "", [tableThere])]
        ⟨ofConfig Config.standard, untouched⟩ = (us, l) ∧
      observe [] stop l = (seen, l') ∧ seen.reply = .ok () ∧
      (closings .store (trace us ++ seen.events)).count 0 = 1 := by
  obtain ⟨us, l, seen, l', hrun, hstop, hreturned, hcount⟩ : ∃ us l seen l',
      useAll [(.start fun _ => "", [tableThere]), (.start fun _ => "", [tableThere])]
        ⟨ofConfig Config.standard, untouched⟩ = (us, l) ∧
      observe [] stop l = (seen, l') ∧ seen.reply = .ok () ∧
      us.countP (Used.replaces .store) = 1 :=
    ⟨_, _, _, _, rfl, rfl, by with_unfolding_all rfl, by with_unfolding_all rfl⟩
  refine ⟨us, l, seen, l', hrun, hstop, hreturned, ?_⟩
  rw [(stop_leaves_replaced_open hrun hstop hreturned .store).2, hcount]

end Session

end TableBench
