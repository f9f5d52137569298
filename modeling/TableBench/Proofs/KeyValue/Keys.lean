import TableBench.Proofs.Session.Emission
import TableBench.Proofs.Session.FailedStart

namespace TableBench

open Run

def Document.members : Document → List Document
  | list ds => ds
  | _ => []

section

variable (attributeName : String)

/-- The key that an item, or the address of one, has under the attribute. -/
def keyOf? (item : Document) : Option String := do
  (← (← item.get? attributeName).get? "S").text?

def namedKeys (d : Document) : List String :=
  ((d.get? "Keys").elim [] Document.members).filterMap (keyOf? attributeName)

def entryKeys (d : Document) : List String :=
  d.members.filterMap fun entry => do
    keyOf? attributeName (← (← entry.get? "PutRequest").get? "Item")

/-- What is found in the parts of a batch about each of its tables. -/
def byTable (f : Document → List String) (tables : Document) : List String :=
  (tables.fields?.getD []).flatMap fun part => f part.2

namespace Request

def keys : Request → List String
  | getItem _ key _ => (keyOf? attributeName key).toList
  | putItem _ item => (keyOf? attributeName item).toList
  | batchGetItem items => byTable (namedKeys attributeName) items
  | batchWriteItem items => byTable (entryKeys attributeName) items
  | describeTable _ | createTable _ | deleteTable _ => []

def leftKeys (request : Request) (answer : Option Answer) : List String :=
  match request, answer with
  | batchGetItem _, some (.ok d) =>
    (d.get? "UnprocessedKeys").elim [] (byTable (namedKeys attributeName))
  | batchWriteItem _, some (.ok d) =>
    (d.get? "UnprocessedItems").elim [] (byTable (entryKeys attributeName))
  | _, _ => []

end Request

namespace Event

def aboutItems : Event → Bool
  | call _ request _ => request.aboutItems
  | _ => false

theorem aboutItems_of_aside {e : Event} (h : e.isCall = false) : e.aboutItems = false := by
  cases e with
  | call => cases h
  | _ => rfl

def keys : Event → List String
  | call _ request _ => request.keys attributeName
  | _ => []

/-- What the answer names as left over was in the request. -/
def Sincere : Event → Prop
  | call _ request answer => request.leftKeys attributeName answer ⊆ request.keys attributeName
  | _ => True

end Event

def itemCalls (es : List Event) : List Event := es.filter Event.aboutItems

/-- Requests about items, of which the first has the given keys, and each later one only keys that
the answer before it named as left over. -/
inductive Rounds : List String → List Event → Prop
  | done (keys : List String) : Rounds keys []
  | round {left : List String} {target : Target} {request : Request} {answer : Option Answer}
    {es : List Event} (hi : request.aboutItems = true)
    (hl : left ⊆ request.leftKeys attributeName answer) (h : Rounds left es) :
    Rounds (request.keys attributeName) (.call target request answer :: es)

end

variable {attributeName : String}

namespace Rounds

variable {keys : List String} {es : List Event}

theorem one {target : Target} {request : Request} (hi : request.aboutItems = true)
    (answer : Option Answer) :
    Rounds attributeName (request.keys attributeName) [.call target request answer] :=
  .round hi (List.nil_subset _) (.done [])

theorem itemCalls_eq (h : Rounds attributeName keys es) : itemCalls es = es := by
  induction h with
  | done => rfl
  | @round _ target request answer es hi _ _ ih =>
    have he : (Event.call target request answer).aboutItems = true := hi
    rw [itemCalls, List.filter_cons_of_pos he, ← itemCalls, ih]

theorem head_keys (h : Rounds attributeName keys es) {e : Event} (he : es.head? = some e) :
    e.keys attributeName = keys := by
  cases h with
  | done => cases he
  | round =>
    cases he
    rfl

/-- As long as the answers name nothing that was not sent, no round asks for another key. -/
theorem keys_subset (h : Rounds attributeName keys es)
    (hs : ∀ e ∈ es, e.Sincere attributeName) : ∀ e ∈ es, e.keys attributeName ⊆ keys := by
  induction h with
  | done => exact List.forall_mem_nil _
  | round _ hl _ ih =>
    obtain ⟨hsincere, hs⟩ := List.forall_mem_cons.1 hs
    rw [List.forall_mem_cons]
    refine ⟨List.Subset.refl _, ?_⟩
    intro e he key hkey
    exact hsincere (hl (ih hs e he hkey))

end Rounds

theorem itemCalls_append (es es' : List Event) :
    itemCalls (es ++ es') = itemCalls es ++ itemCalls es' := List.filter_append es es'

theorem itemCalls_eq_nil {es : List Event} (h : ∀ e ∈ es, e.aboutItems = false) :
    itemCalls es = [] :=
  List.filter_eq_nil_iff.2 fun e he => by rw [h e he]; exact Bool.false_ne_true

theorem itemCalls_of_aside {es : List Event} (h : ∀ e ∈ es, e.isCall = false) :
    itemCalls es = [] :=
  itemCalls_eq_nil fun e he => Event.aboutItems_of_aside (h e he)

/- The keys of what is sent. -/

theorem keyOf?_address (key : String) : keyOf? attributeName (Item.address attributeName key) =
    some key := by
  rw [keyOf?, Item.get?_address]
  rfl

theorem keyOf?_make (ha : attributeName ≠ Item.valueAttribute) (key payload : String) :
    keyOf? attributeName (Item.make attributeName key payload) = some key := by
  rw [keyOf?, Item.get?_make, if_neg ha, if_pos rfl]
  rfl

theorem byTable_one (f : Document → List String) (table : String) (d : Document) :
    byTable f (.object [(table, d)]) = f d := List.append_nil _

theorem namedKeys_readRequest (keys : List String) :
    namedKeys attributeName (.object (Batch.readRequest attributeName keys)) = keys := by
  change (keys.map (Item.address attributeName)).filterMap (keyOf? attributeName) = keys
  rw [List.filterMap_map, show keyOf? attributeName ∘ Item.address attributeName = some from
    funext keyOf?_address, List.filterMap_some]

theorem namedKeys_set (left : Fields) (consistent : Document) :
    namedKeys attributeName (.object (left.set "ConsistentRead" consistent)) =
      namedKeys attributeName (.object left) := by
  have hget : (Document.object (left.set "ConsistentRead" consistent)).get? "Keys" =
      (Document.object left).get? "Keys" :=
    (Fields.lookup_set _ _ _ _).trans (if_neg (by decide))
  rw [namedKeys, hget, namedKeys]

theorem entryKeys_puts_of {name : String} {told : String → String → String}
    (h : ∀ key payload, keyOf? name (Item.make attributeName key payload) = some (told key payload))
    (payload : Nat → String) (keys : List String) :
    entryKeys name (.list ((keys.mapIdx fun i key =>
      Batch.putRequest attributeName key (payload i)).map Batch.writeEntry)) =
      keys.mapIdx fun i key => told key (payload i) := by
  rw [map_mapIdx, entryKeys, Document.members, List.mapIdx_eq_zipIdx_map,
    List.mapIdx_eq_zipIdx_map, List.filterMap_map]
  have hentry : ((fun entry : Document => do
        keyOf? name (← (← entry.get? "PutRequest").get? "Item")) ∘
      fun p : String × Nat => Batch.writeEntry
        (Batch.putRequest attributeName p.1 (payload p.2))) =
      some ∘ fun p : String × Nat => told p.1 (payload p.2) :=
    funext fun p => h p.1 (payload p.2)
  rw [hentry, List.filterMap_eq_map]

theorem entryKeys_puts (ha : attributeName ≠ Item.valueAttribute) (payload : Nat → String)
    (keys : List String) :
    entryKeys attributeName (.list ((keys.mapIdx fun i key =>
      Batch.putRequest attributeName key (payload i)).map Batch.writeEntry)) = keys := by
  rw [entryKeys_puts_of (keyOf?_make ha), List.mapIdx_eq_zipIdx_map, List.zipIdx_map_fst]

/- What is sent again. -/

namespace Batch

section

variable {response : Document} {table : String}

theorem subset_of_partFor {name : String} {part : Document}
    (h : partFor response name table = .ok (some part)) (f : Document → List String) :
    f part ⊆ (response.get? name).elim [] (byTable f) := by
  cases response with
  | object fs =>
    change f part ⊆ (fs.lookup name).elim [] (byTable f)
    simp only [partFor, Document.requireFields, bind, Except.bind] at h
    cases hn : fs.lookup name with
    | none =>
      rw [hn] at h
      cases h
    | some tables =>
      rw [hn] at h
      cases tables with
      | object ts =>
        have ht : ts.lookup table = some part := Except.ok.inj h
        obtain ⟨before, after, rfl, -⟩ := List.lookup_eq_some_iff.1 ht
        have hmem : (table, part) ∈ before ++ (table, part) :: after :=
          List.mem_append_right before List.mem_cons_self
        intro key hkey
        exact List.mem_flatMap.2 ⟨_, hmem, hkey⟩
      | _ => cases h
  | _ => cases h

theorem partFor_of_keysLeft {left : Fields} (h : keysLeft response table = .ok (some left)) :
    partFor response "UnprocessedKeys" table = .ok (some (.object left)) := by
  cases hp : partFor response "UnprocessedKeys" table with
  | error f =>
    rw [keysLeft, hp] at h
    cases h
  | ok part =>
    cases part with
    | none =>
      rw [keysLeft_of_none hp] at h
      cases h
    | some d =>
      cases d with
      | object fs =>
        rw [keysLeft_of_object hp] at h
        cases hb : Document.isBlank? (fs.lookup "Keys") with
        | true =>
          rw [hb] at h
          cases h
        | false =>
          rw [hb] at h
          cases h
          rfl
      | _ =>
        simp only [keysLeft, hp, bind, Except.bind] at h
        split at h <;> cases h

theorem partFor_of_entriesLeft {left : Document}
    (h : entriesLeft response table = .ok (some left)) :
    partFor response "UnprocessedItems" table = .ok (some left) := by
  cases hp : partFor response "UnprocessedItems" table with
  | error f =>
    rw [entriesLeft, hp] at h
    cases h
  | ok part =>
    rw [entriesLeft_of_part hp] at h
    obtain ⟨rfl, -⟩ := Option.filter_eq_some_iff.1 (Except.ok.inj h)
    rfl

end

theorem problem?_one (key : String) (rounds : Int) :
    problem? [key] readLimit rounds =
      if rounds < 1 then some (.rounds rounds) else none := by
  simp [problem?, Key.duplicates, readLimit]

variable {T : Type} [TimeScale T] (c : Client) (table attributeName : String) (w : World T)

theorem readRounds_rounds (consistent : Document) (rounds n : Nat) (left : Fields)
    (items : List Document) :
    w.Since (final (readRounds c table consistent rounds n left items) w)
      (Rounds attributeName (namedKeys attributeName (.object left))) := by
  induction n generalizing left items w with
  | zero =>
    rw [readRounds]
    refine Emits.since_after (s := w) (.done _) fun _ w => ?_
    exact .nothing (.done _)
  | succ n ih =>
    rw [readRounds]
    refine Emits.since_after (s := w) (.done _) fun count w => ?_
    refine Emits.since_after (s := w) (.done _) fun _ w => ?_
    have hkeys : (Request.batchGetItem (.object [(table,
        .object (left.set "ConsistentRead" consistent))])).keys attributeName =
        namedKeys attributeName (.object left) :=
      (byTable_one _ _ _).trans (namedKeys_set left consistent)
    rw [← hkeys]
    refine call_bind_since (fun answer => .one rfl answer) fun response w => ?_
    refine Emits.since_after (s := w) (.one rfl _) fun found w => ?_
    cases hleft : keysLeft response table with
    | error e => exact .nothing (.one rfl _)
    | ok left =>
      rw [ofExcept_ok, pure_bind]
      cases left with
      | none => exact .nothing (.one rfl _)
      | some left =>
        have hsubset := subset_of_partFor (partFor_of_keysLeft hleft) (namedKeys attributeName)
        exact (ih w left _).mono fun es hes => .round rfl hsubset hes

theorem writeRounds_rounds (rounds n : Nat) (left : Document) :
    w.Since (final (writeRounds c table rounds n left) w)
      (Rounds attributeName (entryKeys attributeName left)) := by
  induction n generalizing left w with
  | zero =>
    rw [writeRounds]
    refine Emits.since_after (s := w) (.done _) fun _ w => ?_
    exact .nothing (.done _)
  | succ n ih =>
    rw [writeRounds]
    refine Emits.since_after (s := w) (.done _) fun count w => ?_
    refine Emits.since_after (s := w) (.done _) fun _ w => ?_
    have hkeys : (Request.batchWriteItem (.object [(table, left)])).keys attributeName =
        entryKeys attributeName left := byTable_one _ _ _
    rw [← hkeys]
    refine call_bind_since (fun answer => .one rfl answer) fun response w => ?_
    cases hleft : entriesLeft response table with
    | error e => exact .nothing (.one rfl _)
    | ok left =>
      rw [ofExcept_ok, pure_bind]
      cases left with
      | none => exact .nothing (.one rfl _)
      | some left =>
        have hsubset := subset_of_partFor (partFor_of_entriesLeft hleft) (entryKeys attributeName)
        exact (ih w left).mono fun es hes => .round rfl hsubset hes

theorem read_rounds (keys : List String) (consistent : Document) (rounds : Int) :
    w.Since (final (read c table attributeName keys consistent rounds) w)
      (Rounds attributeName keys) := by
  rw [read]
  refine Emits.since_after (s := w) (.done _) fun _ w => ?_
  refine Emits.since_before (s := w) (fun items => inferInstance) ?_
  have hrounds := readRounds_rounds c table attributeName w consistent rounds.toNat rounds.toNat
    (readRequest attributeName keys) []
  rwa [namedKeys_readRequest] at hrounds

theorem write_rounds (ha : attributeName ≠ Item.valueAttribute) (keys : List String)
    (rounds : Int) :
    w.Since (final (write c table attributeName keys rounds) w) (Rounds attributeName keys) := by
  rw [write]
  refine Emits.since_after (s := w) (.done _) fun _ w => ?_
  have hputs := putRequests_apply attributeName keys w
  rw [final_bind_of_ok hputs]
  change (w.drew keys.length).Since _ _
  refine Emits.since_before (s := w.drew keys.length) (fun _ => inferInstance) ?_
  have hrounds := writeRounds_rounds c table attributeName (w.drew keys.length) rounds.toNat
    rounds.toNat (.list ((keys.mapIdx fun i key =>
      putRequest attributeName key (w.source.value (w.source.drawn + i))).map writeEntry))
  rwa [entryKeys_puts ha] at hrounds

end Batch

namespace Item

variable {T : Type} [TimeScale T] (c : Client) (table key : String) (w : World T)

theorem read_rounds (consistent : Document) :
    w.Since (final (read c table attributeName key consistent) w) (Rounds attributeName [key]) := by
  obtain ⟨answer, hes⟩ := events_final_read c table attributeName key w consistent
  have hkeys : (Request.getItem (.text table) (address attributeName key) consistent).keys
      attributeName = [key] := by
    rw [Request.keys, keyOf?_address]
    rfl
  rw [← hkeys]
  exact ⟨_, hes, .one rfl answer⟩

theorem write_rounds (ha : attributeName ≠ valueAttribute) :
    w.Since (final (write c table attributeName key) w) (Rounds attributeName [key]) := by
  obtain ⟨answer, hes⟩ := events_final_write c table attributeName key w
  generalize w.source.value w.source.drawn = payload at hes
  have hkeys : (Request.putItem (.text table) (make attributeName key payload)).keys
      attributeName = [key] := by
    rw [Request.keys, keyOf?_make ha]
    rfl
  rw [← hkeys]
  exact ⟨_, hes, .one rfl answer⟩

end Item

namespace Session

def DataCall.keys : DataCall → List String
  | read key | write key => [key]
  | readAll keys | writeAll keys => keys

variable {T : Type} [TimeScale T] (request : DataCall)

theorem DataCall.through_rounds (c : Client) {s : Session T}
    (ha : s.attributeName ≠ Item.valueAttribute) (w : World T) :
    w.Since (final (request.through c s) w) (Rounds s.attributeName request.keys) := by
  cases request with
  | read key =>
    apply Emits.since_before (s := w) fun text => inferInstance
    exact Item.read_rounds c s.tableName key w _
  | write key =>
    apply Emits.since_before (s := w) fun text => inferInstance
    exact Item.write_rounds c s.tableName key w ha
  | readAll keys =>
    apply Emits.since_before (s := w) fun texts => inferInstance
    exact Batch.read_rounds c s.tableName s.attributeName w keys _ _
  | writeAll keys =>
    apply Emits.since_before (s := w) fun texts => inferInstance
    exact Batch.write_rounds c s.tableName s.attributeName w ha keys _

theorem run_rounds {l : Live T} (hs : l.session.source = true)
    (ha : l.session.attributeName ≠ Item.valueAttribute) :
    l.world.Since (final request.run l).world
      (Rounds l.session.attributeName request.keys) := by
  cases hc : l.session.client with
  | none =>
    rw [final_of_error (run_of_no_client hc request)]
    exact .nothing (.done _)
  | some c =>
    rw [final, run_apply hc hs, ← final, final_lift]
    exact request.through_rounds c ha l.world

variable {request} in
theorem run_sends {l l' : Live T} {reply : DataReply} (hs : l.session.source = true)
    (ha : l.session.attributeName ≠ Item.valueAttribute) (h : request.run l = .ok reply l') :
    l.world.Since l'.world (itemCalls · ≠ []) := by
  obtain ⟨es, hes, hrounds⟩ := run_rounds request hs ha
  rw [final_of_ok h] at hes
  refine ⟨es, hes, ?_⟩
  dsimp only
  rw [hrounds.itemCalls_eq]
  rintro rfl
  cases hc : l.session.client with
  | none =>
    rw [run_of_no_client hc request] at h
    cases h
  | some c =>
    rw [run_apply hc hs] at h
    obtain ⟨h, -⟩ := of_lift_ok h
    obtain ⟨_, -, he⟩ | ⟨sent, answer, es, he⟩ :=
      DataCall.through_cases c l.session request l.world
    · rw [he] at h
      cases h
    · rw [final_of_ok h, hes] at he
      exact List.cons_ne_nil _ _ (List.append_cancel_left he).symm

/- The start and the stop of a session are about its table. -/

section

omit [TimeScale T]

variable {s s' : Session T} {es : List Event}

theorem Opening.source {q : Event → Prop} (h : Opening q s s' es) : s'.source = true := by
  cases h with
  | nothing hs => rw [hs]
  | store hs => exact hs.source
  | accelerator hs => exact hs.source

theorem Opening.itemCalls_eq (h : Opening (·.aboutItems = false) s s' es) : itemCalls es = [] := by
  cases h with
  | nothing _ h => exact itemCalls_of_aside fun e he => (h e he).aside
  | store _ h₁ h₂ h₃ =>
    rw [itemCalls_append, itemCalls_append, itemCalls_of_aside h₁.aside, itemCalls_eq_nil h₂,
      itemCalls_of_aside fun e he => (h₃ e he).aside]
    rfl
  | accelerator _ h₁ h₂ h₃ =>
    rw [itemCalls_append, itemCalls_append, itemCalls_of_aside h₁.aside, itemCalls_eq_nil h₂,
      itemCalls_of_aside h₃.aside]
    rfl

theorem itemCalls_closing (s : Session T) : itemCalls s.closing = [] := by
  apply itemCalls_eq_nil
  intro e he
  obtain ⟨target, -, rfl⟩ := List.mem_map.1 he
  rfl

end

theorem start_since (values : Nat → String) (l : Live T) :
    l.world.Since (final (start values) l).world (itemCalls · = []) ∧
      (final (start values) l).session.source = true := by
  have hprovision : Emits (·.aboutItems = false) (provision : SessionRun T Unit) :=
    provision_emits (fun _ _ => rfl) fun _ _ => rfl
  obtain ⟨es, hes, h⟩ := start_opening values l fun l' _ => hprovision.adds l'
  exact ⟨⟨es, hes, h.itemCalls_eq⟩, h.source⟩

theorem stop_itemCalls (l : Live T) :
    l.world.Since (final stop l).world (itemCalls · = []) := by
  obtain ⟨w, hstop, es, hes, requests, rfl, hrequests⟩ | ⟨-, f, w, hstop, es, hes, hrequests⟩ :=
    stop_since (p := (·.aboutItems = false)) (fun _ _ => rfl) (fun _ _ => rfl) l
  · rw [final_of_ok hstop]
    refine ⟨_, hes, ?_⟩
    dsimp only
    rw [itemCalls_append, itemCalls_eq_nil hrequests, itemCalls_closing, List.append_nil]
  · rw [final_of_error hstop]
    exact ⟨es, hes, itemCalls_eq_nil hrequests⟩

end Session

end TableBench
