import TableBench.Proofs.Batch.Rounds

namespace TableBench

open Run KeyValue

namespace Batch

structure Valid (keys : List String) (limit : Nat) (rounds : Int) : Prop where
  nodup : keys.Nodup
  ne_nil : keys ≠ []
  length_le : keys.length ≤ limit
  one_le : 1 ≤ rounds

theorem duplicates_of_nodup {keys : List String} (h : keys.Nodup) : Key.duplicates keys = [] := by
  have hnone : keys.filter (fun key => decide (1 < keys.count key)) = [] := by
    rw [List.filter_eq_nil_iff]
    intro key _
    simpa using List.nodup_iff_count_le_one.1 h key
  rw [Key.duplicates, hnone, List.eraseDups_nil, List.mergeSort_nil]

theorem Valid.problem?_eq_none {keys : List String} {limit : Nat} {rounds : Int}
    (h : Valid keys limit rounds) : problem? keys limit rounds = none := by
  have hkeys := h.ne_nil
  have hlength := h.length_le
  have hrounds := h.one_le
  simp only [problem?, duplicates_of_nodup h.nodup, List.isEmpty_nil, Bool.not_true,
    Bool.false_eq_true, if_false, List.isEmpty_iff, hkeys]
  rw [if_neg (by omega), if_neg (by omega)]

theorem Valid.toNat_pos {keys : List String} {limit : Nat} {rounds : Int}
    (h : Valid keys limit rounds) : 0 < rounds.toNat := by
  have hrounds := h.one_le
  omega

theorem check_of_valid {T : Type} {keys : List String} {limit : Nat} {rounds : Int}
    (h : Valid keys limit rounds) : (check keys limit rounds : Run T Unit) = pure () := by
  rw [check_eq, h.problem?_eq_none]

variable {T : Type} [TimeScale T] (c : Client) (table : String)

/- Batch reads. -/

section

variable (consistent : Document)

def reading (left : Fields) : Request :=
  .batchGetItem (.object [(table, .object (left.set "ConsistentRead" consistent))])

def tooManyKeys (rounds : Nat) (left : Fields) : BenchError :=
  .throttled (.text (toString (addresses left).length ++ " keys still unprocessed after " ++
    toString rounds ++ " BatchGetItem rounds"))

theorem givenUp_keys (n rounds : Nat) : givenUp n "keys" rounds "BatchGetItem" =
    .throttled (.text (toString n ++ " keys still unprocessed after " ++ toString rounds ++
      " BatchGetItem rounds")) := by
  have hkeys :
      " keys still unprocessed after " = " " ++ "keys" ++ " still unprocessed after " := rfl
  have hrounds : " BatchGetItem rounds" = " " ++ "BatchGetItem" ++ " rounds" := rfl
  simp only [givenUp, hkeys, hrounds, String.append_assoc]

theorem keyCount_set {left : Fields} (h : addresses left ≠ []) :
    keyCount (left.set "ConsistentRead" consistent) = .ok (addresses left).length := by
  apply keyCount_eq
  rw [Fields.lookup_set, if_neg (by decide), lookup_keys h]

theorem readRounds_drains (rounds : Nat) :
    Drains c.dataTarget .batchGetItem (reading table consistent) (leftRequest table)
      (addresses · ≠ []) (ReadAnswer table) (tooManyKeys rounds)
      (List.flatMap (givenItems table)) fun n left seen =>
        (readRounds c table consistent rounds n left (seen.flatMap (givenItems table)) :
          Run T (List Document)) where
  operation_eq _ := rfl
  fault _ := rfl
  sound _ _ h := addresses_ne_nil h
  exhausted left seen w hk := by
    rw [readRounds, keyCount_eq (lookup_keys hk), ofExcept_ok, pure_bind, givenUp_keys]
    rfl
  round n left seen w hk := by
    rw [readRounds, keyCount_set consistent hk, ofExcept_ok, pure_bind,
      bind_of_ok (log_apply _ _ _ _)]
    refine ⟨_, _, rfl, ?_⟩
    intro d w' hd
    rw [hd.found, ofExcept_ok, pure_bind, hd.keysLeft, ofExcept_ok, pure_bind,
      List.flatMap_append, List.flatMap_singleton]
    cases leftRequest table (.ok d) <;> rfl

variable (attributeName : String) {keys : List String} {rounds : Int} {answers : List Answer}

theorem read_apply (hv : Valid keys readLimit rounds) {w : World T}
    (hs : w.script.map Outcome.answer = answers)
    (hr : ∀ a ∈ answers.take (requestCount (leftRequest table) rounds.toNat answers),
      ReadAnswer table a) :
    ∃ w', w.Exchanged (exchanges c.dataTarget (reading table consistent)
        (asked (leftRequest table) (readRequest attributeName keys) rounds.toNat answers)
        answers) w' ∧
      read c table attributeName keys consistent rounds w =
        ofExcept ((ending (leftRequest table) (readRequest attributeName keys) rounds.toNat
          answers).result .batchGetItem (tooManyKeys rounds.toNat)
          (((answers.take (requestCount (leftRequest table) rounds.toNat answers)).flatMap
            (givenItems table)).map Document.render)) w' := by
  have hne : addresses (readRequest attributeName keys) ≠ [] := by
    rw [addresses, readRequest]
    exact fun h => hv.ne_nil (List.map_eq_nil_iff.1 h)
  obtain ⟨w', hx, hrun⟩ :=
    (readRounds_drains c table consistent rounds.toNat).apply hne rounds.toNat [] hs hr
  refine ⟨w', hx, ?_⟩
  rw [List.flatMap_nil, List.nil_append] at hrun
  rw [read, check_of_valid hv, pure_bind]
  exact bind_of_result hrun _

/-- A batch read is told by the answers alone. The first one that is a fault or leaves no keys over
is the last; up to there each round asks for what the answer before left over, with the flag set
anew. -/
theorem read_follows_answers (hv : Valid keys readLimit rounds) {w : World T}
    (hs : w.script.map Outcome.answer = answers) {m : Nat}
    (hm : m = requestCount (leftRequest table) rounds.toNat answers)
    (hr : ∀ a ∈ answers.take m, ReadAnswer table a) :
    ∃ requests w', requests.length = m ∧
      requests[0]? = some (readRequest attributeName keys) ∧
      (∀ i, i + 1 < m → requests[i + 1]? = answers[i]?.bind (leftRequest table)) ∧
      w.Exchanged (exchanges c.dataTarget (reading table consistent) requests answers) w' ∧
      read c table attributeName keys consistent rounds w =
        match answers[m - 1]? with
        | none => .error (.scriptEnded .batchGetItem) w'
        | some (.error f) => .error f.failure w'
        | some (.ok d) => match leftRequest table (.ok d) with
          | none => .ok (((answers.take m).flatMap (givenItems table)).map Document.render) w'
          | some left => .error (.reported (tooManyKeys rounds.toNat left) false) w' := by
  subst hm
  obtain ⟨w', hx, hread⟩ := read_apply c table consistent attributeName hv hs hr
  refine ⟨asked (leftRequest table) (readRequest attributeName keys) rounds.toNat answers, w',
    length_asked _ _ _, asked_zero hv.toNat_pos, fun i hi => asked_succ hi, hx, ?_⟩
  rw [hread, ending_eq hv.toNat_pos]
  cases answers[requestCount (leftRequest table) rounds.toNat answers - 1]? with
  | none => rfl
  | some a =>
    cases a with
    | error f => rfl
    | ok d =>
      dsimp only
      cases leftRequest table (.ok d) <;> rfl

/-- A response with one of two items. The other key is left over, in a request that wants no
consistent read. -/
def halfRead : Document := .object [
  ("Responses", .object [("bench", .list [Item.make "id" "a" "x"])]),
  ("UnprocessedKeys", .object [("bench", .object [
    ("ConsistentRead", .bool false),
    ("Keys", .list [Item.address "id" "b"]),
    ("ProjectionExpression", .text "value")])])]

def otherHalf : Document :=
  .object [("Responses", .object [("bench", .list [Item.make "id" "b" "y"])])]

def halfReading : World Float where
  clock := 0
  source := { value := fun _ => "" }
  script := [⟨.ok halfRead, 0⟩, ⟨.ok otherHalf, 0⟩]

theorem read_follows_answers_half_read :
    ∃ w', w'.events = [
        .call .store (.batchGetItem (.object [("bench", .object [
          ("Keys", .list [Item.address "id" "a", Item.address "id" "b"]),
          ("ConsistentRead", .bool true)])])) (some (.ok halfRead)),
        .call .store (.batchGetItem (.object [("bench", .object [
          ("ConsistentRead", .bool true),
          ("Keys", .list [Item.address "id" "b"]),
          ("ProjectionExpression", .text "value")])])) (some (.ok otherHalf))] ∧
      read .direct "bench" "id" ["a", "b"] (.bool true) 2 halfReading =
        .ok [(Item.make "id" "a" "x").render, (Item.make "id" "b" "y").render] w' := by
  have hv : Valid ["a", "b"] readLimit 2 := ⟨by decide, by decide, by decide, by decide⟩
  have hs : halfReading.script.map Outcome.answer = [.ok halfRead, .ok otherHalf] := rfl
  have hm : 2 = requestCount (leftRequest "bench") 2 [.ok halfRead, .ok otherHalf] := by
    with_unfolding_all rfl
  have hr : ∀ a ∈ [.ok halfRead, .ok otherHalf], ReadAnswer "bench" a := by
    simp only [List.forall_mem_cons]
    refine ⟨?_, ?_, List.forall_mem_nil _⟩
    · exact .response (.part _ rfl) (.there _) (.part _ rfl) (.request (.there _))
    · exact .response (.part _ rfl) (.there _) (.nothing rfl) .missing
  obtain ⟨requests, w', hlength, hfirst, hnext, hx, hread⟩ :=
    read_follows_answers .direct "bench" (.bool true) "id" hv hs hm hr
  obtain ⟨first, second, rfl⟩ := List.length_eq_two.1 hlength
  have hsecond := hnext 0 (by decide)
  cases hfirst
  cases hsecond
  refine ⟨w', ?_, hread⟩
  rw [hx.events]
  rfl

end

/- Batch writes. -/

section

def writing (left : List Document) : Request := .batchWriteItem (.object [(table, .list left)])

def tooManyEntries (rounds : Nat) (left : List Document) : BenchError :=
  .throttled (.text (toString left.length ++ " items still unprocessed after " ++
    toString rounds ++ " BatchWriteItem rounds"))

theorem givenUp_items (n rounds : Nat) : givenUp n "items" rounds "BatchWriteItem" =
    .throttled (.text (toString n ++ " items still unprocessed after " ++ toString rounds ++
      " BatchWriteItem rounds")) := by
  have hitems : " items still unprocessed after " = " " ++ "items" ++ " still unprocessed after " :=
    rfl
  have hrounds : " BatchWriteItem rounds" = " " ++ "BatchWriteItem" ++ " rounds" := rfl
  simp only [givenUp, hitems, hrounds, String.append_assoc]

theorem writeRounds_drains (rounds : Nat) :
    Drains c.dataTarget .batchWriteItem (writing table) (leftEntries table) (fun _ => True)
      (WriteAnswer table) (tooManyEntries rounds) (fun _ => ()) fun n left _ =>
        (writeRounds c table rounds n (.list left) : Run T Unit) where
  operation_eq _ := rfl
  fault _ := rfl
  sound _ _ _ := trivial
  exhausted left _ _ _ := by
    have hsize : (Document.list left).requireSize = .ok left.length := rfl
    rw [writeRounds, hsize, ofExcept_ok, pure_bind, givenUp_items]
    rfl
  round n left _ w _ := by
    have hsize : (Document.list left).requireSize = .ok left.length := rfl
    rw [writeRounds, hsize, ofExcept_ok, pure_bind, bind_of_ok (log_apply _ _ _ _)]
    refine ⟨_, _, rfl, ?_⟩
    intro d w' hd
    rw [hd.entriesLeft, ofExcept_ok, pure_bind]
    cases leftEntries table (.ok d) <;> rfl

variable {attributeName : String} {keys : List String} {rounds : Int} {answers : List Answer}

theorem write_apply (hv : Valid keys writeLimit rounds) {w : World T} {puts : List Document}
    (hputs : putRequests attributeName keys w = .ok puts (w.drew keys.length))
    (hs : w.script.map Outcome.answer = answers)
    (hr : ∀ a ∈ answers.take (requestCount (leftEntries table) rounds.toNat answers),
      WriteAnswer table a) :
    ∃ w', (w.drew keys.length).Exchanged (exchanges c.dataTarget (writing table)
        (asked (leftEntries table) (puts.map writeEntry) rounds.toNat answers) answers) w' ∧
      write c table attributeName keys rounds w =
        ofExcept ((ending (leftEntries table) (puts.map writeEntry) rounds.toNat answers).result
          .batchWriteItem (tooManyEntries rounds.toNat) (puts.map Document.render)) w' := by
  obtain ⟨w', hx, hrun⟩ := (writeRounds_drains c table rounds.toNat).apply trivial rounds.toNat []
    (q := puts.map writeEntry) (w := w.drew keys.length) hs hr
  refine ⟨w', hx, ?_⟩
  rw [write, check_of_valid hv, pure_bind, bind_of_ok hputs]
  exact bind_of_result hrun fun _ => puts.map Document.render

variable (attributeName) in
/-- A batch write is told by the answers alone. All payloads are drawn before the first round; each
later round sends what the answer before left over, as it came back, up to the first answer that is
a fault or leaves no entries over. What is given back is what was built at first, whatever was sent
again. -/
theorem write_follows_answers (hv : Valid keys writeLimit rounds) {w : World T}
    (hs : w.script.map Outcome.answer = answers) {m : Nat}
    (hm : m = requestCount (leftEntries table) rounds.toNat answers)
    (hr : ∀ a ∈ answers.take m, WriteAnswer table a) {puts : List Document}
    (hputs : puts = keys.mapIdx fun i key =>
      putRequest attributeName key (w.source.value (w.source.drawn + i))) :
    write c table attributeName keys rounds w =
      (do
        writeRounds c table rounds.toNat rounds.toNat (.list (puts.map writeEntry))
        return puts.map Document.render : Run T (List String)) (w.drew keys.length) ∧
    ∃ requests w', requests.length = m ∧
      requests[0]? = some (puts.map writeEntry) ∧
      (∀ i, i + 1 < m → requests[i + 1]? = answers[i]?.bind (leftEntries table)) ∧
      (w.drew keys.length).Exchanged (exchanges c.dataTarget (writing table) requests answers) w' ∧
      write c table attributeName keys rounds w =
        match answers[m - 1]? with
        | none => .error (.scriptEnded .batchWriteItem) w'
        | some (.error f) => .error f.failure w'
        | some (.ok d) => match leftEntries table (.ok d) with
          | none => .ok (puts.map Document.render) w'
          | some left => .error (.reported (tooManyEntries rounds.toNat left) false) w' := by
  subst hm hputs
  have hbuilt := putRequests_apply attributeName keys w
  obtain ⟨w', hx, hwrite⟩ := write_apply c table hv hbuilt hs hr
  constructor
  · rw [write, check_of_valid hv, pure_bind, bind_of_ok hbuilt]
  · refine ⟨asked (leftEntries table) _ rounds.toNat answers, w', length_asked _ _ _,
      asked_zero hv.toNat_pos, fun i hi => asked_succ hi, hx, ?_⟩
    rw [hwrite, ending_eq hv.toNat_pos]
    cases answers[requestCount (leftEntries table) rounds.toNat answers - 1]? with
    | none => rfl
    | some a =>
      cases a with
      | error f => rfl
      | ok d =>
        dsimp only
        cases leftEntries table (.ok d) <;> rfl

def strangeEntry : Document := writeEntry (putRequest "id" "c" "z")

/-- A response that leaves over an entry that it was not sent. -/
def strangelyWritten : Document := .object [
  ("UnprocessedItems", .object [("bench", .list [strangeEntry])])]

def strangeWriting : World Float where
  clock := 0
  source := { value := fun i => if i = 0 then "x" else "y" }
  script := [⟨.ok strangelyWritten, 0⟩, ⟨.ok (.object []), 0⟩]

theorem write_follows_answers_strangely_written :
    ∃ w', w'.source = (strangeWriting.drew 2).source ∧ w'.events = [
        .call .store (.batchWriteItem (.object [("bench", .list [
          writeEntry (putRequest "id" "a" "x"), writeEntry (putRequest "id" "b" "y")])]))
          (some (.ok strangelyWritten)),
        .call .store (.batchWriteItem (.object [("bench", .list [strangeEntry])]))
          (some (.ok (.object [])))] ∧
      write .direct "bench" "id" ["a", "b"] 2 strangeWriting =
        .ok [(putRequest "id" "a" "x").render, (putRequest "id" "b" "y").render] w' := by
  have hv : Valid ["a", "b"] writeLimit 2 := ⟨by decide, by decide, by decide, by decide⟩
  have hs : strangeWriting.script.map Outcome.answer =
      [.ok strangelyWritten, .ok (.object [])] := rfl
  have hm : 2 = requestCount (leftEntries "bench") 2
      [.ok strangelyWritten, .ok (.object [])] := by
    with_unfolding_all rfl
  have hr : ∀ a ∈ [.ok strangelyWritten, .ok (.object [])], WriteAnswer "bench" a := by
    simp only [List.forall_mem_cons]
    refine ⟨?_, ?_, List.forall_mem_nil _⟩
    · exact .response (.part _ rfl) (.there _)
    · exact .response (.nothing rfl) .missing
  obtain ⟨-, requests, w', hlength, hfirst, hnext, hx, hwrite⟩ :=
    write_follows_answers .direct "bench" "id" hv hs hm hr rfl
  obtain ⟨first, second, rfl⟩ := List.length_eq_two.1 hlength
  have hsecond := hnext 0 (by decide)
  cases hfirst
  cases hsecond
  refine ⟨w', hx.source, ?_, hwrite⟩
  rw [hx.events]
  rfl

end

end Batch

end TableBench
