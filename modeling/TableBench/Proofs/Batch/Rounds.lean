import TableBench.Proofs.Batch.Answers
import TableBench.Proofs.Run.Exchange

namespace TableBench

open Run

namespace Batch

/- Rounds against given answers. -/

section

variable {ρ : Type} (next : Answer → Option ρ)

/-- How many requests are made of at most so many: the first answer that leaves nothing over is the
last. -/
def requestCount (limit : Nat) (answers : List Answer) : Nat :=
  min limit (answers.findIdx (fun answer => (next answer).isNone) + 1)

/-- What is asked round by round: at first what is given, and then what each answer leaves over. -/
def asked : ρ → Nat → List Answer → List ρ
  | _, 0, _ => []
  | q, _ + 1, [] => [q]
  | q, n + 1, a :: as => q :: match next a with
    | none => []
    | some q' => asked q' n as

variable {next} {q q' : ρ} {n : Nat} {a : Answer} {as : List Answer}

theorem requestCount_of_none (h : next a = none) : requestCount next (n + 1) (a :: as) = 1 := by
  simp [requestCount, List.findIdx_cons, h]

theorem requestCount_of_some (h : next a = some q) :
    requestCount next (n + 1) (a :: as) = requestCount next n as + 1 := by
  simp [requestCount, List.findIdx_cons, h]

theorem requestCount_nil : requestCount next (n + 1) [] = 1 := by
  simp [requestCount]

theorem requestCount_zero (as : List Answer) : requestCount next 0 as = 0 := Nat.zero_min _

theorem requestCount_pos (next : Answer → Option ρ) (as : List Answer) (hn : 0 < n) :
    0 < requestCount next n as := by
  rw [requestCount]
  omega

theorem exists_next {i : Nat} (h : i + 1 < requestCount next n as) :
    ∃ q, as[i]?.bind next = some q := by
  have hi : i < as.findIdx fun answer => (next answer).isNone := by
    rw [requestCount] at h
    omega
  have hlt := Nat.lt_of_lt_of_le hi List.findIdx_le_length
  have hnext := List.not_of_lt_findIdx hi
  rw [List.getElem?_eq_getElem hlt, Option.bind_some]
  exact Option.isSome_iff_exists.1 (Option.isNone_eq_false_iff.1 hnext)

theorem requestCount_eq_limit (ha : as[requestCount next n as - 1]? = some a)
    (h : next a = some q) : requestCount next n as = n := by
  by_contra hn
  have hcount : requestCount next n as = as.findIdx (fun answer => (next answer).isNone) + 1 := by
    rw [requestCount] at hn ⊢
    omega
  rw [hcount, Nat.add_sub_cancel] at ha
  obtain ⟨hlt, rfl⟩ := List.getElem?_eq_some_iff.1 ha
  have hnone := List.findIdx_getElem (w := hlt)
  rw [h] at hnone
  cases hnone

theorem asked_of_none (h : next a = none) : asked next q (n + 1) (a :: as) = [q] := by
  simp only [asked, h]

theorem asked_of_some (h : next a = some q') :
    asked next q (n + 1) (a :: as) = q :: asked next q' n as := by
  simp only [asked, h]

theorem length_asked (q : ρ) (n : Nat) (as : List Answer) :
    (asked next q n as).length = requestCount next n as := by
  induction n generalizing q as with
  | zero => simp [asked, requestCount]
  | succ n ih =>
    cases as with
    | nil => rw [asked, requestCount_nil, List.length_singleton]
    | cons a as =>
      cases h : next a with
      | none => rw [asked_of_none h, requestCount_of_none h, List.length_singleton]
      | some q' => rw [asked_of_some h, requestCount_of_some h, List.length_cons, ih]

theorem asked_zero (hn : 0 < n) : (asked next q n as)[0]? = some q := by
  cases n with
  | zero => omega
  | succ n => cases as <;> rfl

theorem asked_succ {i : Nat} (h : i + 1 < requestCount next n as) :
    (asked next q n as)[i + 1]? = as[i]?.bind next := by
  induction n generalizing q as i with
  | zero => simp [requestCount] at h
  | succ n ih =>
    cases as with
    | nil => rw [requestCount_nil] at h; omega
    | cons a as =>
      cases ha : next a with
      | none => rw [requestCount_of_none ha] at h; omega
      | some q' =>
        rw [requestCount_of_some ha] at h
        rw [asked_of_some ha, List.getElem?_cons_succ]
        cases i with
        | zero =>
          cases n with
          | zero => simp [requestCount] at h
          | succ n => rw [asked_zero n.succ_pos, List.getElem?_cons_zero, Option.bind_some, ha]
        | succ i => rw [ih (by omega), List.getElem?_cons_succ]

theorem map_asked {β : Type} {shows : ρ → β} {left : Nat → β} (hq : shows q = left 0)
    (hnext : ∀ i < requestCount next n as, ∀ q', as[i]?.bind next = some q' →
      shows q' = left (i + 1)) :
    (asked next q n as).map shows = (List.range (requestCount next n as)).map left := by
  apply List.ext_getElem?
  intro i
  rw [List.getElem?_map, List.getElem?_map]
  rcases Nat.lt_or_ge i (requestCount next n as) with hi | hi
  · rw [List.getElem?_range hi, Option.map_some]
    cases i with
    | zero =>
      have hn : 0 < n := by
        rw [requestCount] at hi
        omega
      rw [asked_zero hn, Option.map_some, hq]
    | succ i =>
      have hlt : i + 1 < (asked next q n as).length := by rwa [length_asked]
      have hsome := List.getElem?_eq_getElem hlt
      rw [hsome, Option.map_some]
      rw [asked_succ hi] at hsome
      rw [hnext i (by omega) _ hsome]
  · rw [List.getElem?_eq_none (by rwa [length_asked]),
      List.getElem?_eq_none (by rwa [List.length_range])]
    rfl

def exchanges (target : Target) (request : ρ → Request) (qs : List ρ) (as : List Answer) :
    List Event :=
  qs.mapIdx fun i q => .call target (request q) as[i]?

theorem exchanges_cons (target : Target) (request : ρ → Request) (q : ρ) (qs : List ρ) (a : Answer)
    (as : List Answer) : exchanges target request (q :: qs) (a :: as) =
      .call target (request q) (some a) :: exchanges target request qs as := by
  simp [exchanges, List.mapIdx_cons]

/-- How rounds end: without an answer, with one that leaves nothing over, or with something left
when no round is. -/
inductive Ending (ρ : Type) where
  | unanswered
  | stopped (answer : Answer)
  | leftOver (q : ρ)

def ending (next : Answer → Option ρ) : ρ → Nat → List Answer → Ending ρ
  | q, 0, _ => .leftOver q
  | _, _ + 1, [] => .unanswered
  | _, n + 1, a :: as => match next a with
    | none => .stopped a
    | some q' => ending next q' n as

theorem ending_of_none (h : next a = none) : ending next q (n + 1) (a :: as) = .stopped a := by
  simp only [ending, h]

theorem ending_of_some (h : next a = some q') :
    ending next q (n + 1) (a :: as) = ending next q' n as := by
  simp only [ending, h]

theorem ending_eq (hn : 0 < n) :
    ending next q n as = match as[requestCount next n as - 1]? with
      | none => .unanswered
      | some a => match next a with
        | none => .stopped a
        | some q' => .leftOver q' := by
  obtain ⟨n, rfl⟩ := Nat.exists_add_one_eq.2 hn
  clear hn
  induction as generalizing q n with
  | nil => rfl
  | cons a as ih =>
    cases h : next a with
    | none =>
      rw [ending_of_none h, requestCount_of_none h, Nat.sub_self, List.getElem?_cons_zero]
      simp only [h]
    | some q' =>
      rw [ending_of_some h, requestCount_of_some h, Nat.add_sub_cancel]
      cases n with
      | zero =>
        rw [requestCount_zero, List.getElem?_cons_zero]
        simp only [h, ending]
      | succ n =>
        have hpos := requestCount_pos next as n.succ_pos
        rw [ih, List.getElem?_cons, if_neg (Nat.ne_of_gt hpos)]

end

def Ending.result {ρ α : Type} (operation : Operation) (tooMuch : ρ → BenchError) (value : α) :
    Ending ρ → Except Failure α
  | unanswered => .error (.scriptEnded operation)
  | stopped (.error f) => .error f.failure
  | stopped (.ok _) => .ok value
  | leftOver q => .error (.reported (tooMuch q) false)

theorem bind_of_result {σ ρ α β : Type} {x : EStateM Failure σ α} {s s' : σ} {ending : Ending ρ}
    {operation : Operation} {tooMuch : ρ → BenchError} {value : α}
    (h : x s = ofExcept (ending.result operation tooMuch value) s') (f : α → β) :
    (x >>= fun a => pure (f a)) s =
      ofExcept (ending.result operation tooMuch (f value)) s' := by
  cases ending with
  | stopped a =>
    cases a with
    | error f => exact bind_of_error h _
    | ok d => exact bind_of_ok h _
  | _ => exact bind_of_error h _

/-- The runs go through rounds that each ask for something, after the answers of earlier rounds. A
response is taken as it says what comes next: a value, or another round for what is left over. -/
structure Drains {T ρ α : Type} [TimeScale T] (target : Target) (operation : Operation)
    (request : ρ → Request) (next : Answer → Option ρ) (Sound : ρ → Prop) (Fit : Answer → Prop)
    (tooMuch : ρ → BenchError) (value : List Answer → α)
    (run : Nat → ρ → List Answer → Run T α) : Prop where
  operation_eq : ∀ q, (request q).operation = operation
  fault : ∀ f, next (.error f) = none
  sound : ∀ a q, next a = some q → Sound q
  exhausted : ∀ q seen w, Sound q → run 0 q seen w = .error (.reported (tooMuch q) false) w
  round : ∀ n q seen w, Sound q → ∃ rs, ∃ f : Document → Run T α,
    run (n + 1) q seen w = (call target (request q) >>= f) (w.logged rs) ∧
      ∀ d w', Fit (.ok d) → f d w' = match next (.ok d) with
        | none => .ok (value (seen ++ [.ok d])) w'
        | some q' => run n q' (seen ++ [.ok d]) w'

namespace Drains

variable {T ρ α : Type} [TimeScale T] {target : Target} {operation : Operation}
  {request : ρ → Request} {next : Answer → Option ρ} {Sound : ρ → Prop} {Fit : Answer → Prop}
  {tooMuch : ρ → BenchError} {value : List Answer → α} {run : Nat → ρ → List Answer → Run T α}

theorem round_of_nil (h : Drains target operation request next Sound Fit tooMuch value run) {q : ρ}
    (hq : Sound q) (n : Nat) (seen : List Answer) {w : World T} (hs : w.script = []) :
    ∃ w', w.Exchanged [.call target (request q) none] w' ∧
      run (n + 1) q seen w = .error (.scriptEnded operation) w' := by
  obtain ⟨rs, f, hrun, -⟩ := h.round n q seen w hq
  have hcall : call target (request q) (w.logged rs) = .error (.scriptEnded operation)
      ((w.logged rs).noted (.call target (request q) none)) := by
    rw [← h.operation_eq q]
    exact call_of_nil hs
  exact ⟨_, .unanswered hs rs _ _, hrun.trans (bind_of_error hcall f)⟩

theorem round_of_cons (h : Drains target operation request next Sound Fit tooMuch value run)
    {q : ρ} (hq : Sound q) (n : Nat) (seen : List Answer) {w : World T} {o : Outcome T}
    {script : List (Outcome T)} (hs : w.script = o :: script) (hfit : Fit o.answer) :
    ∃ w', w.Exchanged [.call target (request q) (some o.answer)] w' ∧
      run (n + 1) q seen w = match next o.answer with
        | none => ofExcept ((Ending.stopped o.answer).result operation tooMuch
            (value (seen ++ [o.answer]))) w'
        | some q' => run n q' (seen ++ [o.answer]) w' := by
  obtain ⟨rs, f, hrun, hf⟩ := h.round n q seen w hq
  have hx := World.Exchanged.answered hs rs target (request q)
  cases ho : o.answer with
  | error fault =>
    rw [ho] at hx
    have hcall : call target (request q) (w.logged rs) = .error fault.failure
        (((w.logged rs).answered target (request q) o script).logged fault.records) :=
      call_of_fault hs ho
    refine ⟨_, hx.logged fault.records, ?_⟩
    rw [h.fault fault]
    exact hrun.trans (bind_of_error hcall f)
  | ok d =>
    rw [ho] at hx hfit
    have hcall : call target (request q) (w.logged rs) =
        .ok d ((w.logged rs).answered target (request q) o script) := call_of_response hs ho
    refine ⟨_, hx, (hrun.trans (bind_of_ok hcall f)).trans ?_⟩
    rw [hf d _ hfit]
    cases next (.ok d) <;> rfl

/-- Rounds against the answers that the script holds. -/
theorem apply (h : Drains target operation request next Sound Fit tooMuch value run) {q : ρ}
    (hq : Sound q) (n : Nat) (seen : List Answer) {w : World T} {answers : List Answer}
    (hs : w.script.map Outcome.answer = answers)
    (hfit : ∀ a ∈ answers.take (requestCount next n answers), Fit a) :
    ∃ w', w.Exchanged (exchanges target request (asked next q n answers) answers) w' ∧
      run n q seen w = ofExcept ((ending next q n answers).result operation tooMuch
        (value (seen ++ answers.take (requestCount next n answers)))) w' := by
  induction n generalizing q seen w answers with
  | zero => exact ⟨w, .refl w, h.exhausted q seen w hq⟩
  | succ n ih =>
    cases answers with
    | nil => exact h.round_of_nil hq n seen (List.map_eq_nil_iff.1 hs)
    | cons a as =>
      obtain ⟨o, script, hw, rfl, rfl⟩ := List.map_eq_cons_iff.1 hs
      cases hnext : next o.answer with
      | none =>
        rw [requestCount_of_none hnext] at hfit ⊢
        rw [asked_of_none hnext, ending_of_none hnext]
        obtain ⟨w', hx, hrun⟩ := h.round_of_cons hq n seen hw (hfit _ List.mem_cons_self)
        rw [hnext] at hrun
        exact ⟨w', hx, hrun⟩
      | some q' =>
        rw [requestCount_of_some hnext] at hfit ⊢
        rw [asked_of_some hnext, ending_of_some hnext, exchanges_cons]
        obtain ⟨w₁, hx, hrun⟩ := h.round_of_cons hq n seen hw (hfit _ List.mem_cons_self)
        have hscript : w₁.script.map Outcome.answer = script.map Outcome.answer := by
          rw [hx.script, hw]
          rfl
        obtain ⟨w', hx', hrun'⟩ := ih (h.sound _ _ hnext) (seen ++ [o.answer]) hscript
          fun a ha => hfit a (List.mem_cons_of_mem _ ha)
        refine ⟨w', hx.trans hx', ?_⟩
        rw [hrun, hnext, List.take_succ_cons]
        rw [List.append_assoc] at hrun'
        exact hrun'

end Drains

end Batch

end TableBench
