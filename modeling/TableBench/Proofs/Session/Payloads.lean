import TableBench.Proofs.KeyValue.Keys
import TableBench.Proofs.Payload.Stream
import TableBench.Proofs.Session.History

namespace TableBench

open Run World

theorem keyOf?_make_value (attributeName key payload : String) :
    keyOf? Item.valueAttribute (Item.make attributeName key payload) = some payload := by
  rw [keyOf?, Item.get?_make, if_pos rfl]
  rfl

theorem entryKeys_puts_value (attributeName : String) (payload : Nat → String)
    (keys : List String) :
    entryKeys Item.valueAttribute (.list ((keys.mapIdx fun i key =>
      Batch.putRequest attributeName key (payload i)).map Batch.writeEntry)) =
      (List.range keys.length).map payload := by
  rw [entryKeys_puts_of (keyOf?_make_value attributeName)]
  apply List.ext_getElem
  · rw [List.length_mapIdx, List.length_map, List.length_range]
  · intro i h h'
    rw [List.getElem_mapIdx, List.getElem_map, List.getElem_range]

def Request.payloads : Request → List String
  | putItem _ item => (keyOf? Item.valueAttribute item).toList
  | batchWriteItem items => byTable (entryKeys Item.valueAttribute) items
  | _ => []

def Event.payloads : Event → List String
  | call _ request _ => request.payloads
  | _ => []

/-- The payloads that are offered with the first of the events; later ones only repeat what was left
over. -/
def offered (es : List Event) : List String := es.head?.elim [] Event.payloads

theorem offered_eq_nil {es : List Event} (h : ∀ e ∈ es, e.payloads = []) : offered es = [] := by
  cases es with
  | nil => rfl
  | cons e es => exact h e List.mem_cons_self

namespace World

variable {T : Type}

def SameSource (w w' : World T) : Prop := w'.source = w.source

instance : Stepwise (T := T) SameSource where
  refl _ := rfl
  trans h h' := Eq.trans h' h
  logged _ _ _ := rfl
  noted _ _ _ := rfl
  waited _ _ _ := rfl
  unanswered _ _ _ := rfl
  responded _ _ _ _ _ := rfl
  faulted _ _ _ _ _ := rfl

/-- The next payloads were taken and offered at once, `n` of them if anything was sent at all. -/
def Offers (n : Nat) (w w' : World T) : Prop :=
  ∃ es, w'.events = w.events ++ es ∧
    let k := if es.isEmpty then 0 else n
    w'.source = (w.drew k).source ∧
      offered es = (List.range' w.source.drawn k).map w.source.value

theorem Offers.nothing (n : Nat) (w : World T) : w.Offers n w :=
  ⟨[], (List.append_nil _).symm, rfl, rfl⟩

theorem Offers.of_none {w w' : World T} (hs : w'.source = w.source)
    (h : w.Adds (·.payloads = []) w') : w.Offers 0 w' := by
  obtain ⟨es, hes, hall⟩ := h
  refine ⟨es, hes, ?_⟩
  dsimp only
  rw [ite_self]
  exact ⟨hs, offered_eq_nil hall⟩

end World

namespace Session

def DataCall.written : DataCall → List String
  | write key => [key]
  | writeAll keys => keys
  | read _ | readAll _ => []

end Session

namespace Item

variable {T : Type} [TimeScale T] (c : Client) (table attributeName key : String) (w : World T)

theorem write_offers : w.Offers 1 (final (write c table attributeName key) w) := by
  obtain ⟨answer, hes⟩ := events_final_write c table attributeName key w
  refine ⟨_, hes, ?_, ?_⟩
  · rw [write, final_bind_of_ok (draw_apply w), final_bind_of_still _ fun _ _ => rfl]
    exact Obeys.obeys (R := SameSource) (x := c.putItem _ _) (w.drew 1)
  · simp only [offered, List.head?_cons, Option.elim_some, Event.payloads, Request.payloads,
      keyOf?_make_value]
    rfl

end Item

namespace Batch

variable {T : Type} [TimeScale T] (c : Client) (table attributeName : String) (w : World T)

theorem writeRounds_first (rounds n : Nat) (ds : List Document) :
    w.Since (final (writeRounds c table rounds (n + 1) (.list ds)) w) fun es =>
      ∃ answer rest, es =
        .call c.dataTarget (.batchWriteItem (.object [(table, .list ds)])) answer :: rest := by
  have hsize : (Document.list ds).requireSize = .ok ds.length := rfl
  rw [writeRounds]
  simp only [hsize, ofExcept_ok, pure_bind]
  rw [final_bind_of_ok (log_apply _ _ _ w)]
  refine call_bind_since (fun answer => ⟨answer, [], rfl⟩) fun response w' => ?_
  refine (Grows.seq (fun left => ?_)).leads w' |>.since fun es => ⟨_, es, rfl⟩
  cases left <;> infer_instance

theorem write_offers (keys : List String) (rounds : Int) :
    w.Offers keys.length (final (write c table attributeName keys rounds) w) := by
  rw [write, check_eq]
  cases hp : problem? keys writeLimit rounds with
  | some p => exact .nothing _ w
  | none =>
    obtain ⟨n, hn⟩ := pos_of_problem?_eq_none hp
    rw [hn, pure_bind, final_bind_of_ok (putRequests_apply attributeName keys w),
      final_bind_of_still _ fun _ _ => rfl]
    obtain ⟨es, hes, answer, rest, rfl⟩ := writeRounds_first c table (w.drew keys.length) (n + 1) n
      ((keys.mapIdx fun i key =>
        putRequest attributeName key (w.source.value (w.source.drawn + i))).map writeEntry)
    refine ⟨_, hes, Obeys.obeys (R := SameSource)
      (x := writeRounds c table (n + 1) (n + 1) _) (w.drew keys.length), ?_⟩
    change byTable (entryKeys Item.valueAttribute) _ = _
    rw [byTable_one, entryKeys_puts_value, List.range'_eq_map_range, List.map_map]
    rfl

end Batch

namespace Session

variable {T : Type} [TimeScale T] (request : DataCall)

theorem DataCall.through_offers (c : Client) (s : Session T) (w : World T) :
    w.Offers request.written.length (final (request.through c s) w) := by
  have hsource {α : Type} (x : Run T α) [Obeys SameSource x] (w : World T) :
      (final x w).source = w.source := Obeys.obeys (R := SameSource) (x := x) w
  cases request with
  | read key =>
    rw [through, final_bind_of_still _ fun _ _ => rfl]
    exact .of_none (hsource _ w) ((Emits.itemRead fun _ => rfl).adds w)
  | readAll keys =>
    rw [through, final_bind_of_still _ fun _ _ => rfl]
    exact .of_none (hsource _ w) ((Emits.batchRead fun _ _ => rfl).adds w)
  | write key =>
    rw [through, final_bind_of_still _ fun _ _ => rfl]
    exact Item.write_offers c s.tableName s.attributeName key w
  | writeAll keys =>
    rw [through, final_bind_of_still _ fun _ _ => rfl]
    exact Batch.write_offers c s.tableName s.attributeName w keys _

theorem run_offers (l : Live T) :
    l.world.Offers request.written.length (final request.run l).world := by
  obtain ⟨e, he⟩ | ⟨c, -, he⟩ := run_cases request l
  · rw [final_of_error he]
    exact .nothing _ _
  · rw [final, he, ← final, final_lift]
    exact request.through_offers c l.session l.world

/-- What is seen of a data request, and the payloads that are left for the next. -/
theorem observe_offers (script : List (Outcome T)) (l : Live T) :
    let seen := (observe script request.run l).1
    let k := if seen.events.isEmpty then 0 else request.written.length
    (observe script request.run l).2.world.source = (l.world.drew k).source ∧
      offered seen.events = (List.range' l.world.source.drawn k).map l.world.source.value := by
  obtain ⟨hl, he⟩ := observe_eq_final script request.run l
  obtain ⟨es, hes, hsource, hoffered⟩ := run_offers request ⟨l.session, l.world.awaiting script⟩
  dsimp only
  rw [hl, he, show (final request.run ⟨l.session, l.world.awaiting script⟩).world.events = es
    from hes]
  exact ⟨hsource, hoffered⟩

/-- Every data request that is sent offers a payload for each of the keys that it is to write. -/
def Supplied (step : DataCall × List (Outcome T)) (seen : Seen T DataReply) : Prop :=
  (offered seen.events).length = if seen.events.isEmpty then 0 else step.1.written.length

theorem observeAll_offers (requests : List (DataCall × List (Outcome T))) (l : Live T) :
    List.Forall₂ Supplied requests (observeAll requests l).1 ∧
      ∃ k, (observeAll requests l).1.flatMap (offered ·.events) =
        (List.range' l.world.source.drawn k).map l.world.source.value := by
  induction requests generalizing l with
  | nil => exact ⟨.nil, 0, rfl⟩
  | cons step requests ih =>
    obtain ⟨request, script⟩ := step
    obtain ⟨hsource, hoffered⟩ := observe_offers request script l
    obtain ⟨hrest, n, hn⟩ := ih (observe script request.run l).2
    have hsupplied : Supplied (request, script) (observe script request.run l).1 := by
      rw [Supplied, hoffered, List.length_map, List.length_range']
    generalize (if (observe script request.run l).1.events.isEmpty then 0
      else request.written.length) = k at hsource hoffered
    rw [hsource] at hn
    change _ = (List.range' (l.world.source.drawn + k) n).map l.world.source.value at hn
    refine ⟨.cons hsupplied hrest, k + n, ?_⟩
    rw [observeAll, List.flatMap_cons, hoffered, hn, ← List.map_append, List.range'_append_1]

theorem source_final_start (values : Nat → String) (l : Live T) :
    (final (start values) l).world.source = ⟨values, 0⟩ := by
  rw [start, final_bind_of_ok (log_apply _ _ l), final_bind_of_ok (supply_apply _ _)]
  have hrest : Obeys SameSource (do
      connect
      provision
      accelerate
      change fun s =>
        { s with tableName := s.config.tableName, attributeName := s.config.attributeName }
      log .info "DynamoDB benchmark session initialized" : SessionRun T Unit) :=
    .seq fun _ => inferInstance
  exact hrest.obeys _

end Session

open Payload Session

/-- The values of a seed have the size that is asked for and consist of letters and digits, and
together they are the one value of the seed that is as long as they are. However the writes to a
session are split into single ones and batches, whatever they are answered, the payloads offered are
the first values of the seed, one for each key of each request that is sent. -/
theorem payloads_cut_from_one_stream (size seed : Int) (hs : 1 ≤ size) :
    ∃ n : Nat, size? size = some n ∧ (n : Int) = size ∧
      (∀ t : Twister, place t.next53.1 < 62) ∧
      (∀ count : Nat, (values n seed count).length = count ∧
        (∀ v ∈ values n seed count, v.length = n ∧ ∀ c ∈ v.toList, c.isAlphanum = true) ∧
        (size? (size * count) = if count = 0 then none else some (n * count)) ∧
        values (n * count) seed 1 = [String.join (values n seed count)]) ∧
      ∀ {T : Type} [TimeScale T] (course : Course T) (l : Live T),
        let replies := (Course.record { course with values := stream n seed } l).replies
        let payloads := replies.flatMap (offered ·.events)
        List.Forall₂ Supplied course.requests replies ∧
          payloads = values n seed payloads.length := by
  obtain ⟨n, rfl⟩ := Int.eq_ofNat_of_zero_le (a := size) (by omega)
  refine ⟨n, ?_, rfl, fun t => place_lt t.next53_lt, fun count => ⟨?_, ?_, ?_, ?_⟩, ?_⟩
  · rw [size?, if_pos (by omega)]
    rfl
  · exact length_valuesFrom n count _
  · exact fun v => isAlphanum_of_mem_values n seed count
  · rw [size?, ← Int.natCast_mul, Int.toNat_natCast]
    obtain rfl | hc := Nat.eq_zero_or_pos count
    · rfl
    · have hpos : 0 < n * count := Nat.mul_pos (by omega) hc
      rw [if_pos (Int.natCast_pos.2 hpos), if_neg hc.ne']
  · exact values_joined n seed count
  · intro T _ course l replies payloads
    have hsource : (observe course.first (start (stream n seed)) l).2.world.source =
        ⟨stream n seed, 0⟩ := by
      rw [(observe_eq_final _ _ _).1, source_final_start]
    obtain ⟨hsupplied, k, hk⟩ := observeAll_offers course.requests
      (observe course.first (start (stream n seed)) l).2
    rw [hsource] at hk
    have hpayloads : payloads = (List.range' 0 k).map (stream n seed) := hk
    refine ⟨hsupplied, ?_⟩
    rw [hpayloads, values_eq_map, List.length_map, List.length_range', List.range_eq_range']

theorem payloads_cut_from_one_stream_twice : (1 : Int) ≤ 8 ∧ ∃ a b,
    values 8 42 2 = [a, b] ∧ a.length = 8 ∧ b.length = 8 ∧ values 16 42 1 = [a ++ b] := by
  refine ⟨by decide, ?_⟩
  obtain ⟨n, -, hn, -, hvalues, -⟩ := payloads_cut_from_one_stream 8 42 (by decide)
  obtain rfl : n = 8 := Int.natCast_inj.1 hn
  obtain ⟨hlength, hall, -, hjoin⟩ := hvalues 2
  obtain ⟨a, b, hab⟩ := List.length_eq_two.1 hlength
  rw [hab] at hall hjoin
  have ha := (hall a List.mem_cons_self).1
  have hb := (hall b (List.mem_cons_of_mem a List.mem_cons_self)).1
  rw [String.join_cons, String.join_cons, String.join_nil, String.append_empty] at hjoin
  exact ⟨a, b, hab, ha, hb, hjoin⟩

end TableBench
