import TableBench.Proofs.Batch.Draining

namespace TableBench

open Run

namespace Batch

/- Rounds that go on where others ended. -/

section

variable {ρ : Type} {next : Answer → Option ρ}

/-- What is asked in so many more rounds after rounds that ended like this. -/
def Ending.asked (next : Answer → Option ρ) (extra : Nat) (as : List Answer) : Ending ρ → List ρ
  | leftOver q => Batch.asked next q extra as
  | unanswered | stopped _ => []

/-- How so many more rounds end after rounds that ended like this. -/
def Ending.resumed (next : Answer → Option ρ) (extra : Nat) (as : List Answer) :
    Ending ρ → Ending ρ
  | leftOver q => ending next q extra as
  | e => e

variable {q q' : ρ} {n extra : Nat} {a : Answer} {as : List Answer}

theorem asked_add (q : ρ) (n extra : Nat) (as : List Answer) :
    asked next q (n + extra) as =
      asked next q n as ++ (ending next q n as).asked next extra (as.drop n) := by
  induction n generalizing q as with
  | zero => simp [asked, ending, Ending.asked]
  | succ n ih =>
    rw [Nat.succ_add]
    cases as with
    | nil => rfl
    | cons a as =>
      cases h : next a with
      | none =>
        rw [asked_of_none h, asked_of_none h, ending_of_none h]
        rfl
      | some q' =>
        rw [asked_of_some h, asked_of_some h, ending_of_some h, ih]
        rfl

theorem ending_add (q : ρ) (n extra : Nat) (as : List Answer) :
    ending next q (n + extra) as = (ending next q n as).resumed next extra (as.drop n) := by
  induction n generalizing q as with
  | zero => simp [ending, Ending.resumed]
  | succ n ih =>
    rw [Nat.succ_add]
    cases as with
    | nil => rfl
    | cons a as =>
      cases h : next a with
      | none =>
        rw [ending_of_none h, ending_of_none h]
        rfl
      | some q' =>
        rw [ending_of_some h, ending_of_some h, ih]
        rfl

theorem told_of_ending (next : Answer → Option ρ) (q : ρ) (hn : 0 < n) (as : List Answer) :
    match ending next q n as with
    | .unanswered => as.length < requestCount next n as
    | .stopped a => as[requestCount next n as - 1]? = some a
    | .leftOver left => requestCount next n as = n ∧ as[n - 1]?.bind next = some left := by
  rw [ending_eq hn]
  cases ha : as[requestCount next n as - 1]? with
  | none =>
    have hle := List.getElem?_eq_none_iff.1 ha
    have hpos := requestCount_pos next as hn
    dsimp only
    omega
  | some a =>
    cases hq : next a with
    | none => simp only [hq]
    | some left =>
      have hcount := requestCount_eq_limit ha hq
      rw [hcount] at ha
      simp only [hq]
      exact ⟨hcount, by rw [ha, Option.bind_some, hq]⟩

/-- A response that leaves nothing over is the last one, unless a fault or another such response
comes before it. -/
theorem ending_of_drained {i : Nat} {d : Document} (hi : i < n) (ha : as[i]? = some (.ok d))
    (hd : next (.ok d) = none) (hf : ∀ j < i, ∀ f, as[j]? ≠ some (.error f)) :
    (∃ d', ending next q n as = .stopped (.ok d')) ∧ requestCount next n as ≤ i + 1 := by
  induction n generalizing q as i with
  | zero => exact absurd hi (Nat.not_lt_zero i)
  | succ n ih =>
    cases as with
    | nil => cases ha
    | cons a as =>
      cases hnext : next a with
      | none =>
        rw [ending_of_none hnext, requestCount_of_none hnext]
        cases a with
        | ok d' => exact ⟨⟨d', rfl⟩, by omega⟩
        | error f =>
          cases i with
          | zero => cases ha
          | succ i => exact absurd rfl (hf 0 i.succ_pos f)
      | some q' =>
        rw [ending_of_some hnext, requestCount_of_some hnext]
        cases i with
        | zero =>
          cases ha
          rw [hd] at hnext
          cases hnext
        | succ i =>
          obtain ⟨hends, hcount⟩ := ih (q := q') (Nat.lt_of_succ_lt_succ hi) ha fun j hj =>
            hf (j + 1) (Nat.succ_lt_succ hj)
          exact ⟨hends, by omega⟩

end

/-- What rounds come to when more of them are allowed. Those that did not use up the lower limit
come to the same; the others go on with what they left over, and come to a value at the first
response that leaves nothing over, unless a fault comes before it. -/
inductive Prolongs {ρ α : Type} (next : Answer → Option ρ) (answers : List Answer)
    (limit limit' : Nat) (operation : Operation) (tooMuch : ρ → BenchError) (requests : List ρ) :
    Except Failure α → List ρ → Except Failure α → Prop
  | returned (value : α) :
    Prolongs next answers limit limit' operation tooMuch requests (.ok value) [] (.ok value)
  | failed {f : Fault} (h : answers[requests.length - 1]? = some (.error f)) :
    Prolongs next answers limit limit' operation tooMuch requests (.error f.failure) []
      (.error f.failure)
  | unanswered (h : answers.length < requests.length) :
    Prolongs next answers limit limit' operation tooMuch requests
      (.error (.scriptEnded operation)) [] (.error (.scriptEnded operation))
  | gaveUp {left : ρ} {more : List ρ} {long : Except Failure α} (hlength : requests.length = limit)
    (hleft : answers[limit - 1]?.bind next = some left)
    (hnext : limit < limit' → more.head? = some left)
    (hdrained : ∀ i d, limit + i < limit' → answers[limit + i]? = some (.ok d) →
      next (.ok d) = none → (∀ j < i, ∀ f, answers[limit + j]? ≠ some (.error f)) →
      (∃ value, long = .ok value) ∧ more.length ≤ i + 1) :
    Prolongs next answers limit limit' operation tooMuch requests
      (.error (.reported (tooMuch left) false)) more long

section

variable {ρ α : Type} {next : Answer → Option ρ}

theorem exchanges_append (target : Target) (request : ρ → Request) (qs more : List ρ)
    (as : List Answer) : exchanges target request (qs ++ more) as =
      exchanges target request qs as ++ exchanges target request more (as.drop qs.length) := by
  simp [exchanges, List.mapIdx_append, List.getElem?_drop, Nat.add_comm]

theorem prolongs_ending (next : Answer → Option ρ) (q : ρ) {n : Nat} (hn : 0 < n) (extra : Nat)
    (as : List Answer) (operation : Operation) (tooMuch tooMuch' : ρ → BenchError)
    (value : Nat → α) :
    Prolongs next as n (n + extra) operation tooMuch (asked next q n as)
      ((ending next q n as).result operation tooMuch (value (requestCount next n as)))
      ((ending next q n as).asked next extra (as.drop n))
      ((ending next q (n + extra) as).result operation tooMuch'
        (value (requestCount next (n + extra) as))) := by
  have hlength : (asked next q n as).length = requestCount next n as := length_asked q n as
  have hcount : requestCount next (n + extra) as = requestCount next n as +
      ((ending next q n as).asked next extra (as.drop n)).length := by
    rw [← length_asked q, asked_add, List.length_append, hlength]
  have htold := told_of_ending next q hn as
  rw [ending_add]
  cases hends : ending next q n as with
  | unanswered =>
    rw [hends] at htold
    exact .unanswered (by rw [hlength]; exact htold)
  | stopped a =>
    rw [hends] at htold hcount
    cases a with
    | error f => exact .failed (by rw [hlength]; exact htold)
    | ok d =>
      rw [hcount]
      exact .returned _
  | leftOver left =>
    rw [hends] at htold
    refine .gaveUp (hlength.trans htold.1) htold.2 ?_ ?_
    · intro hlt
      rw [List.head?_eq_getElem?]
      exact asked_zero (by omega)
    · intro i d hi ha hd hf
      have hlt : i < extra := by omega
      have ha' : (as.drop n)[i]? = some (.ok d) := by
        rw [List.getElem?_drop, ha]
      have hf' : ∀ j < i, ∀ f, (as.drop n)[j]? ≠ some (.error f) := by
        intro j hj f
        rw [List.getElem?_drop]
        exact hf j hj f
      obtain ⟨⟨d', hstopped⟩, hle⟩ := ending_of_drained (q := left) hlt ha' hd hf'
      rw [Ending.resumed, hstopped, Ending.asked, length_asked]
      exact ⟨⟨_, rfl⟩, hle⟩

end

theorem requestCount_mono {ρ : Type} (next : Answer → Option ρ) {n n' : Nat} (h : n ≤ n')
    (as : List Answer) : requestCount next n as ≤ requestCount next n' as := by
  rw [requestCount, requestCount]
  omega

theorem Valid.raise {keys : List String} {limit : Nat} {rounds rounds' : Int}
    (h : Valid keys limit rounds) (hle : rounds ≤ rounds') : Valid keys limit rounds' :=
  ⟨h.nodup, h.ne_nil, h.length_le, Int.le_trans h.one_le hle⟩

variable {T : Type} [TimeScale T] (c : Client) (table attributeName : String)
  (consistent : Document)

/-- A higher limit of rounds changes nothing about a batch that did without, and lets any other
batch go on with exactly what it gave up on. -/
theorem raising_limit_prolongs {keys : List String} {rounds rounds' : Int} (hle : rounds ≤ rounds')
    {w : World T} {answers : List Answer} (hs : w.script.map Outcome.answer = answers) :
    (Valid keys readLimit rounds →
      (∀ a ∈ answers.take (requestCount (leftRequest table) rounds'.toNat answers),
        ReadAnswer table a) →
      ∃ requests short more long w₁ w₂,
        Prolongs (leftRequest table) answers rounds.toNat rounds'.toNat .batchGetItem
          (tooManyKeys rounds.toNat) requests short more long ∧
        w.Exchanged (exchanges c.dataTarget (reading table consistent) requests answers) w₁ ∧
        read c table attributeName keys consistent rounds w = ofExcept short w₁ ∧
        w.Exchanged (exchanges c.dataTarget (reading table consistent) requests answers ++
          exchanges c.dataTarget (reading table consistent) more
            (answers.drop requests.length)) w₂ ∧
        read c table attributeName keys consistent rounds' w = ofExcept long w₂) ∧
    (Valid keys writeLimit rounds →
      (∀ a ∈ answers.take (requestCount (leftEntries table) rounds'.toNat answers),
        WriteAnswer table a) →
      ∃ requests short more long w₁ w₂,
        Prolongs (leftEntries table) answers rounds.toNat rounds'.toNat .batchWriteItem
          (tooManyEntries rounds.toNat) requests short more long ∧
        (w.drew keys.length).Exchanged
          (exchanges c.dataTarget (writing table) requests answers) w₁ ∧
        write c table attributeName keys rounds w = ofExcept short w₁ ∧
        (w.drew keys.length).Exchanged (exchanges c.dataTarget (writing table) requests answers ++
          exchanges c.dataTarget (writing table) more (answers.drop requests.length)) w₂ ∧
        write c table attributeName keys rounds' w = ofExcept long w₂) := by
  obtain ⟨extra, hextra⟩ := Nat.exists_eq_add_of_le (Int.toNat_le_toNat hle)
  constructor
  · intro hv hr
    have hcount := requestCount_mono (leftRequest table) (Int.toNat_le_toNat hle) answers
    obtain ⟨w₁, hx₁, hread₁⟩ := read_apply c table consistent attributeName hv hs
      fun a ha => hr a (List.take_subset_take_left answers hcount ha)
    obtain ⟨w₂, hx₂, hread₂⟩ := read_apply c table consistent attributeName (hv.raise hle) hs hr
    rw [hextra] at hx₂ hread₂ ⊢
    rw [asked_add, exchanges_append] at hx₂
    have hp := prolongs_ending (leftRequest table) (readRequest attributeName keys) hv.toNat_pos
      extra answers .batchGetItem (tooManyKeys rounds.toNat) (tooManyKeys (rounds.toNat + extra))
      fun m => ((answers.take m).flatMap (givenItems table)).map Document.render
    exact ⟨_, _, _, _, w₁, w₂, hp, hx₁, hread₁, hx₂, hread₂⟩
  · intro hv hr
    have hputs := putRequests_apply attributeName keys w
    have hcount := requestCount_mono (leftEntries table) (Int.toNat_le_toNat hle) answers
    obtain ⟨w₁, hx₁, hwrite₁⟩ := write_apply c table hv hputs hs
      fun a ha => hr a (List.take_subset_take_left answers hcount ha)
    obtain ⟨w₂, hx₂, hwrite₂⟩ := write_apply c table (hv.raise hle) hputs hs hr
    rw [hextra] at hx₂ hwrite₂ ⊢
    rw [asked_add, exchanges_append] at hx₂
    exact ⟨_, _, _, _, w₁, w₂, prolongs_ending (leftEntries table) _ hv.toNat_pos extra answers
      .batchWriteItem _ _ fun _ => _, hx₁, hwrite₁, hx₂, hwrite₂⟩

theorem raising_limit_prolongs_half_read :
    (∃ w₁ w₂, read .direct "bench" "id" ["a", "b"] (.bool true) 1 halfReading =
        .error (.reported (tooManyKeys 1 [("Keys", .list [Item.address "id" "b"])]) false) w₁ ∧
      read .direct "bench" "id" ["a", "b"] (.bool true) 2 halfReading =
        .ok [(Item.make "id" "a" "x").render, (Item.make "id" "b" "y").render] w₂ ∧
      w₂.events = w₁.events ++ [.call .store (.batchGetItem (.object [("bench", .object [
          ("ConsistentRead", .bool true),
          ("Keys", .list [Item.address "id" "b"]),
          ("ProjectionExpression", .text "value")])])) (some (.ok otherHalf))]) ∧
    ∃ w₁ w₂, write .direct "bench" "id" ["a", "b"] 1 strangeWriting =
        .error (.reported (tooManyEntries 1 [strangeEntry]) false) w₁ ∧
      write .direct "bench" "id" ["a", "b"] 2 strangeWriting =
        .ok [(putRequest "id" "a" "x").render, (putRequest "id" "b" "y").render] w₂ ∧
      w₂.events = w₁.events ++ [.call .store (.batchWriteItem (.object [("bench",
        .list [strangeEntry])])) (some (.ok (.object [])))] := by
  have hle : (1 : Int) ≤ 2 := by decide
  constructor
  · have hv : Valid ["a", "b"] readLimit 1 := ⟨by decide, by decide, by decide, by decide⟩
    have hs : halfReading.script.map Outcome.answer = [.ok halfRead, .ok otherHalf] := rfl
    have hr : ∀ a ∈ [.ok halfRead, .ok otherHalf], ReadAnswer "bench" a := by
      simp only [List.forall_mem_cons]
      refine ⟨?_, ?_, List.forall_mem_nil _⟩
      · exact .response (.part _ rfl) (.there _) (.part _ rfl) (.request (.there _))
      · exact .response (.part _ rfl) (.there _) (.nothing rfl) .missing
    obtain ⟨requests, short, more, long, w₁, w₂, hp, hx₁, hread₁, hx₂, hread₂⟩ :=
      (raising_limit_prolongs .direct "bench" "id" (.bool true) hle hs).1 hv
        fun a ha => hr a (List.mem_of_mem_take ha)
    obtain ⟨w', hshort⟩ : ∃ w', read .direct "bench" "id" ["a", "b"] (.bool true) 1 halfReading =
        .error (.reported (tooManyKeys 1 [("Keys", .list [Item.address "id" "b"])]) false) w' :=
      ⟨_, by with_unfolding_all rfl⟩
    obtain ⟨w'', hlong⟩ : ∃ w'', read .direct "bench" "id" ["a", "b"] (.bool true) 2 halfReading =
        .ok [(Item.make "id" "a" "x").render, (Item.make "id" "b" "y").render] w'' :=
      ⟨_, by with_unfolding_all rfl⟩
    rw [hshort] at hread₁
    rw [hlong] at hread₂
    cases hp with
    | returned => cases hread₁
    | failed h => exact absurd (List.mem_of_getElem? h) (by simp)
    | unanswered => cases hread₁
    | gaveUp hlength hleft hnext hdrained =>
      obtain ⟨⟨value, rfl⟩, hone⟩ := hdrained 0 otherHalf (by decide) rfl
        (by with_unfolding_all rfl) fun j hj => absurd hj j.not_lt_zero
      cases hleft
      cases hread₁
      cases hread₂
      refine ⟨w₁, w₂, hshort, hlong, ?_⟩
      obtain ⟨_, rfl⟩ := List.head?_eq_some_iff.1 (hnext (by decide))
      obtain rfl := List.length_eq_zero_iff.1 (Nat.le_zero.1 (Nat.le_of_succ_le_succ hone))
      rw [hx₂.events, hx₁.events, hlength, List.append_assoc]
      rfl
  · have hv : Valid ["a", "b"] writeLimit 1 := ⟨by decide, by decide, by decide, by decide⟩
    have hs : strangeWriting.script.map Outcome.answer =
        [.ok strangelyWritten, .ok (.object [])] := rfl
    have hr : ∀ a ∈ [.ok strangelyWritten, .ok (.object [])], WriteAnswer "bench" a := by
      simp only [List.forall_mem_cons]
      refine ⟨?_, ?_, List.forall_mem_nil _⟩
      · exact .response (.part _ rfl) (.there _)
      · exact .response (.nothing rfl) .missing
    obtain ⟨requests, short, more, long, w₁, w₂, hp, hx₁, hwrite₁, hx₂, hwrite₂⟩ :=
      (raising_limit_prolongs .direct "bench" "id" (.bool true) hle hs).2 hv
        fun a ha => hr a (List.mem_of_mem_take ha)
    obtain ⟨w', hshort⟩ : ∃ w', write .direct "bench" "id" ["a", "b"] 1 strangeWriting =
        .error (.reported (tooManyEntries 1 [strangeEntry]) false) w' :=
      ⟨_, by with_unfolding_all rfl⟩
    obtain ⟨w'', hlong⟩ : ∃ w'', write .direct "bench" "id" ["a", "b"] 2 strangeWriting =
        .ok [(putRequest "id" "a" "x").render, (putRequest "id" "b" "y").render] w'' :=
      ⟨_, by with_unfolding_all rfl⟩
    rw [hshort] at hwrite₁
    rw [hlong] at hwrite₂
    cases hp with
    | returned => cases hwrite₁
    | failed h => exact absurd (List.mem_of_getElem? h) (by simp)
    | unanswered => cases hwrite₁
    | gaveUp hlength hleft hnext hdrained =>
      obtain ⟨⟨value, rfl⟩, hone⟩ := hdrained 0 (.object []) (by decide) rfl
        (by with_unfolding_all rfl) fun j hj => absurd hj j.not_lt_zero
      cases hleft
      cases hwrite₁
      cases hwrite₂
      refine ⟨w₁, w₂, hshort, hlong, ?_⟩
      obtain ⟨_, rfl⟩ := List.head?_eq_some_iff.1 (hnext (by decide))
      obtain rfl := List.length_eq_zero_iff.1 (Nat.le_zero.1 (Nat.le_of_succ_le_succ hone))
      rw [hx₂.events, hx₁.events, hlength, List.append_assoc]
      rfl

end Batch

end TableBench
