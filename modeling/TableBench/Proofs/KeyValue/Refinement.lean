import TableBench.Proofs.KeyValue.Requests
import TableBench.Proofs.Session.DataCall

namespace TableBench

open KeyValue Service

open Session

namespace KeyValue

/-- A map from keys to items, and how many payloads were taken for it. -/
structure PlainMap where
  items : Items
  drawn : Nat

inductive PlainMap.Step (attributeName : String) (values : Nat → String) (rounds : Int) :
    PlainMap → DataCall → Except Failure DataReply → PlainMap → Prop
  | read (p : PlainMap) (key : String) :
    Step attributeName values rounds p (.read key)
      (.ok (.item ((p.items key).map fun fs => (Document.object fs).render))) p
  | readFails (p : PlainMap) (key : String) {f : Fault} (h : f.OfStore) :
    Step attributeName values rounds p (.read key) (.error f.failure) p
  | write (p : PlainMap) (key : String) (response : Document) :
    Step attributeName values rounds p (.write key) (.ok (.written response.render))
      ⟨p.items.putAll (fresh attributeName values p.drawn [key]), p.drawn + 1⟩
  | writeFails (p : PlainMap) (key : String) {f : Fault} (h : f.OfStore) :
    Step attributeName values rounds p (.write key) (.error f.failure) ⟨p.items, p.drawn + 1⟩
  | readAll (p : PlainMap) {keys : List String} {items : List Fields}
    (hp : Batch.problem? keys Batch.readLimit rounds = none)
    (hi : items.Perm (p.items.found keys)) :
    Step attributeName values rounds p (.readAll keys)
      (.ok (.items (items.map fun fs => (Document.object fs).render))) p
  | readAllRefused (p : PlainMap) {keys : List String} {problem : Batch.Problem}
    (hp : Batch.problem? keys Batch.readLimit rounds = some problem) :
    Step attributeName values rounds p (.readAll keys) (.error problem.failure) p
  | readAllFails (p : PlainMap) {keys : List String} {e : Failure}
    (hp : Batch.problem? keys Batch.readLimit rounds = none)
    (he : Batch.Fails "keys" "BatchGetItem" rounds.toNat e) :
    Step attributeName values rounds p (.readAll keys) (.error e) p
  | writeAll (p : PlainMap) {keys : List String}
    (hp : Batch.problem? keys Batch.writeLimit rounds = none) :
    Step attributeName values rounds p (.writeAll keys)
      (.ok (.allWritten ((fresh attributeName values p.drawn keys).map fun q =>
        (Document.object [("Item", .object q.2)]).render)))
      ⟨p.items.putAll (fresh attributeName values p.drawn keys), p.drawn + keys.length⟩
  | writeAllRefused (p : PlainMap) {keys : List String} {problem : Batch.Problem}
    (hp : Batch.problem? keys Batch.writeLimit rounds = some problem) :
    Step attributeName values rounds p (.writeAll keys) (.error problem.failure) p
  | writeAllFails (p : PlainMap) {keys : List String} {stored : List (String × Fields)}
    {e : Failure} (hp : Batch.problem? keys Batch.writeLimit rounds = none)
    (hs : stored.Subperm (fresh attributeName values p.drawn keys))
    (he : Batch.Fails "items" "BatchWriteItem" rounds.toNat e) :
    Step attributeName values rounds p (.writeAll keys) (.error e)
      ⟨p.items.putAll stored, p.drawn + keys.length⟩

inductive PlainMap.Steps (attributeName : String) (values : Nat → String) (rounds : Int) :
    PlainMap → List DataCall → List (Except Failure DataReply) → PlainMap → Prop
  | nil (p : PlainMap) : Steps attributeName values rounds p [] [] p
  | cons {p p₁ p' : PlainMap} {call : DataCall} {calls : List DataCall}
    {reply : Except Failure DataReply} {replies : List (Except Failure DataReply)}
    (h : p.Step attributeName values rounds call reply p₁)
    (hs : p₁.Steps attributeName values rounds calls replies p') :
    Steps attributeName values rounds p (call :: calls) (reply :: replies) p'

end KeyValue

namespace Session

variable {T : Type} [TimeScale T] {l : Live T} {c : Client}

/-- A data request does to the store's items what it does to a plain map. -/
theorem DataCall.run_ensures (hc : l.session.client = some c) (hs : l.session.source = true)
    (ha : l.session.attributeName ≠ Item.valueAttribute) (call : DataCall) (m : Items) :
    let step := PlainMap.Step l.session.attributeName l.world.source.value
      l.session.config.maxRounds ⟨m, l.world.source.drawn⟩ call
    (KeyValue.store l.session.tableName l.session.attributeName).Ensures m l call.run
      (fun reply l' m' => l'.session = l.session ∧
        l'.world.source.value = l.world.source.value ∧
        step (.ok reply) ⟨m', l'.world.source.drawn⟩)
      (fun e l' m' => l'.session = l.session ∧
        l'.world.source.value = l.world.source.value ∧
        step (.error e) ⟨m', l'.world.source.drawn⟩) := by
  intro step
  cases call with
  | read key =>
    apply Ensures.bind
    refine Ensures.congr (read_apply hc key) (Ensures.lift ?_)
    apply (Item.read_ensures c _ _ key _).mono
    · intro text w' m' h
      obtain ⟨rfl, hw, rfl⟩ := h
      exact .pure ⟨rfl, by rw [hw], by rw [hw]; exact .read _ key⟩
    · intro e w' m' h
      obtain ⟨rfl, hw, f, hf, rfl⟩ := h
      exact ⟨rfl, by rw [hw], by rw [hw]; exact .readFails _ key hf⟩
  | write key =>
    apply Ensures.bind
    refine Ensures.congr (write_apply hc hs key) (Ensures.lift ?_)
    apply (Item.write_ensures c _ _ key ha).mono
    · intro text w' m' h
      obtain ⟨hw, rfl, d, rfl⟩ := h
      exact .pure ⟨rfl, by rw [hw]; rfl, by rw [hw]; exact .write _ key d⟩
    · intro e w' m' h
      obtain ⟨rfl, hw, f, hf, rfl⟩ := h
      exact ⟨rfl, by rw [hw]; rfl, by rw [hw]; exact .writeFails _ key hf⟩
  | readAll keys =>
    apply Ensures.bind
    refine Ensures.congr (readAll_apply hc keys) (Ensures.lift ?_)
    apply (Batch.read_ensures c _ keys _).mono
    · intro texts w' m' h
      obtain ⟨rfl, hw, hp, items, rfl, hi⟩ := h
      exact .pure ⟨rfl, by rw [hw], by rw [hw]; exact .readAll _ hp hi⟩
    · intro e w' m' h
      obtain ⟨rfl, hw, he⟩ := h
      refine ⟨rfl, by rw [hw], ?_⟩
      rw [hw]
      split at he
      · next hp => exact he ▸ .readAllRefused _ hp
      · next hp => exact .readAllFails _ hp he
  | writeAll keys =>
    apply Ensures.bind
    refine Ensures.congr (writeAll_apply hc hs keys) (Ensures.lift ?_)
    apply (Batch.write_ensures c ha keys _).mono
    · intro texts w' m' h
      obtain ⟨rfl, hw, hp, rfl⟩ := h
      exact .pure ⟨rfl, by rw [hw]; rfl, by rw [hw]; exact .writeAll _ hp⟩
    · intro e w' m' he
      split at he
      · next hp =>
        obtain ⟨rfl, rfl, hw⟩ := he
        exact ⟨rfl, by rw [hw], by rw [hw]; exact .writeAllRefused _ hp⟩
      · next hp =>
        obtain ⟨hw, he, stored, hstored, rfl⟩ := he
        exact ⟨rfl, by rw [hw]; rfl, by rw [hw]; exact .writeAllFails _ hp hstored he⟩

theorem runAll_ensures (hc : l.session.client = some c) (hs : l.session.source = true)
    (ha : l.session.attributeName ≠ Item.valueAttribute) (calls : List DataCall) (m : Items) :
    (KeyValue.store l.session.tableName l.session.attributeName).Ensures m l (runAll calls)
      (fun replies l' m' => PlainMap.Steps l.session.attributeName l.world.source.value
        l.session.config.maxRounds ⟨m, l.world.source.drawn⟩ calls replies
        ⟨m', l'.world.source.drawn⟩)
      (fun _ _ _ => False) := by
  induction calls generalizing l m with
  | nil => exact .pure (.nil _)
  | cons call calls ih =>
    -- the next request finds the session as it was, after a failure as after a reply
    have hrest {l₁ : Live T} {m₁ : Items} {reply : Except Failure DataReply}
        (h : l₁.session = l.session ∧ l₁.world.source.value = l.world.source.value ∧
          PlainMap.Step l.session.attributeName l.world.source.value l.session.config.maxRounds
            ⟨m, l.world.source.drawn⟩ call reply ⟨m₁, l₁.world.source.drawn⟩) :
        (KeyValue.store l.session.tableName l.session.attributeName).Ensures m₁ l₁
          (do return reply :: (← runAll calls))
          (fun replies l' m' => PlainMap.Steps l.session.attributeName l.world.source.value
            l.session.config.maxRounds ⟨m, l.world.source.drawn⟩ (call :: calls) replies
            ⟨m', l'.world.source.drawn⟩)
          (fun _ _ _ => False) := by
      obtain ⟨hsession, hvalue, hstep⟩ := h
      have hi := ih (l := l₁) (by rw [hsession, hc]) (by rw [hsession, hs])
        (by rw [hsession]; exact ha) m₁
      rw [hsession, hvalue] at hi
      apply Ensures.bind
      refine hi.mono ?_ ?_
      · intro replies l' m' hsteps
        exact .pure (.cons hstep hsteps)
      · intro e l' m' h
        exact h
    apply Ensures.bind
    apply Ensures.attempt
    apply (call.run_ensures hc hs ha m).mono
    · intro reply l' m' h
      exact hrest h
    · intro e l' m' h
      exact hrest h

/-- A started session refines a map from keys to items: whatever the store declines in each round
and whichever calls fail, the replies and the items left behind are those of a plain map. -/
theorem session_refines_plain_map {c : Client} {l : Live T} (hc : l.session.client = some c)
    (hs : l.session.source = true) (ha : l.session.attributeName ≠ Item.valueAttribute)
    {calls : List DataCall} {es : List Event} {m m' : Items}
    (hes : (Run.final (runAll calls) l).world.events = l.world.events ++ es)
    (hm : (KeyValue.store l.session.tableName l.session.attributeName).Serves m es m') :
    ∃ replies l', runAll calls l = .ok replies l' ∧
      PlainMap.Steps l.session.attributeName l.world.source.value l.session.config.maxRounds
        ⟨m, l.world.source.drawn⟩ calls replies ⟨m', l'.world.source.drawn⟩ := by
  exact (runAll_ensures hc hs ha calls m).succeeds hes hm

def throttledItem (key payload : String) : String × Fields :=
  (key, [("id", .string key), ("value", .string payload)])

/-- The answers of a store that declines a part of each batch at first. -/
def throttledAnswers : List Document := [
  .object [("UnprocessedItems", .object [("bench", .list [entry (throttledItem "a" "x")])])],
  .object [],
  .object [
    ("Responses", .object [("bench", .list [.object (throttledItem "b" "y").2])]),
    ("UnprocessedKeys", .object [("bench", .object [("Keys", .list [Item.address "id" "a"])])])],
  .object [("Responses", .object [("bench", .list [.object (throttledItem "a" "x").2])])]]

def throttled : Live Float where
  session :=
    { ofConfig { Config.standard with tableName := "bench" } with
      client := some .direct
      source := true }
  world := {
    clock := 0
    source := { value := fun i => if i = 0 then "x" else "y" }
    script := throttledAnswers.map fun answer => ⟨.ok answer, 0⟩ }

theorem session_refines_plain_map_throttled :
    ∃ replies l', runAll [.writeAll ["a", "b"], .readAll ["a", "b"]] throttled = .ok replies l' ∧
      PlainMap.Steps "id" throttled.world.source.value 10 ⟨fun _ => none, 0⟩
        [.writeAll ["a", "b"], .readAll ["a", "b"]] replies
        ⟨Items.putAll (fun _ => none) [throttledItem "b" "y", throttledItem "a" "x"],
          l'.world.source.drawn⟩ := by
  let a := throttledItem "a" "x"
  let b := throttledItem "b" "y"
  let m : Items := Items.putAll (fun _ => none) [b, a]
  have hkeyed (key payload : String) : Keyed "id" (throttledItem key payload) := by
    simp only [Keyed, throttledItem, Fields.lookup_cons, if_true]
  have hentries : ([a] ++ [b]).Perm [a, b] := .refl _
  have hkeys : (["a"] ++ ["b"]).Perm ["a", "b"] := .refl _
  refine session_refines_plain_map (c := .direct) (l := throttled) rfl rfl (by decide)
    (by with_unfolding_all rfl) ?_
  · refine .call (.response (.putAll [a, b] ?_)
      (.putAll _ hentries (.part _ rfl) (.there _))) ?_
    · simp only [List.forall_mem_cons]
      exact ⟨hkeyed _ _, hkeyed _ _, List.forall_mem_nil _⟩
    refine .call (.response (.putAll [a] ?_)
      (.putAll _ (List.Perm.refl ([] ++ [a])) (.nothing rfl) .missing)) ?_
    · simp only [List.forall_mem_cons]
      exact ⟨hkeyed _ _, List.forall_mem_nil _⟩
    refine .call (.response (.getAll _ ["a", "b"] rfl)
      (.getAll m hkeys (.refl _) (.part _ rfl) (.there _) (.part _ rfl)
        (.request _ (.there _)))) ?_
    refine .call (.response (.getAll _ ["a"] rfl)
      (.getAll m (List.Perm.refl ([] ++ ["a"])) (.refl _) (.part _ rfl) (.there _) (.nothing rfl)
        .nothing)) ?_
    exact .nil m

end Session

end TableBench
