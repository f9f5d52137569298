import Mathlib.Data.List.Perm.Subperm
import TableBench.Proofs.KeyValue
import TableBench.Proofs.Number.Numeral

namespace TableBench

open KeyValue

namespace Item

open Service

variable {T : Type} [TimeScale T] {w : World T} {m : Items} (c : Client)
  (table attributeName key : String)

theorem read_ensures (consistent : Document) :
    (store table attributeName).Ensures m w (read c table attributeName key consistent)
      (fun text w' m' => m' = m ∧ w'.source = w.source ∧
        text = (m key).map fun fs => (Document.object fs).render)
      (fun e w' m' => m' = m ∧ w'.source = w.source ∧ ∃ f : Fault, f.OfStore ∧ e = f.failure) := by
  have hq : Means table attributeName (.getItem (.text table) (address attributeName key)
      consistent) (.get key) := .get key consistent
  rw [read, Client.getItem]
  simp only [bind_assoc]
  refine Ensures.seq (fun _ => .seq fun _ => ?_) ?_
  · split <;> infer_instance
  apply Ensures.call
  · intro o script d m' hw ho ha
    cases ha.grants hq with
    | get _ response h =>
      simp only [Document.requireFields, Run.ofExcept_ok, pure_bind, h]
      cases m key with
      | none => exact .pure ⟨rfl, rfl, rfl⟩
      | some fs => exact .pure ⟨rfl, rfl, rfl⟩
  · intro o script f m' hw ho ha
    obtain ⟨hf, rfl⟩ := ha.of_fault hq
    exact ⟨rfl, rfl, f, hf, rfl⟩

theorem write_ensures (ha : attributeName ≠ valueAttribute) :
    (store table attributeName).Ensures m w (write c table attributeName key)
      (fun text w' m' => w'.source = (w.drew 1).source ∧
        m' = m.put (key, [(attributeName, .string key),
          (valueAttribute, .string (w.source.value w.source.drawn))]) ∧
        ∃ d : Document, text = d.render)
      (fun e w' m' => m' = m ∧ w'.source = (w.drew 1).source ∧
        ∃ f : Fault, f.OfStore ∧ e = f.failure) := by
  rw [write]
  apply Ensures.step (Run.draw_apply w) rfl
  rw [make_eq ha]
  generalize hp : [(attributeName, Document.string key), (valueAttribute, Document.string _)] = fs
  have hq : Means table attributeName (.putItem (.text table) (.object fs)) (.put (key, fs)) := by
    refine .put (key, fs) ?_
    simp only [Keyed, ← hp, Fields.lookup_cons, if_true]
  apply Ensures.bind
  apply Ensures.call
  · intro o script d m' hw ho ha
    cases ha.grants hq
    exact .pure ⟨rfl, rfl, d, rfl⟩
  · intro o script f m' hw ho ha
    obtain ⟨hf, rfl⟩ := ha.of_fault hq
    exact ⟨rfl, rfl, f, hf, rfl⟩

end Item

namespace Batch

variable {table attributeName : String} {response : Fields}

theorem partFor_eq {name : String} {part : Option Document}
    (h : Says table response name part) : partFor (.object response) name table = .ok part := by
  cases h with
  | nothing h => simp only [partFor, Document.requireFields, bind, Except.bind, h]; rfl
  | part tables h => simp only [partFor, Document.requireFields, bind, Except.bind, h]; rfl

theorem found_of_lists {ds : List Document} {part : Option Document}
    (hp : Says table response "Responses" part) (hl : Lists ds part) :
    found (.object response) table = .ok ds := by
  cases hl <;> simp only [found, partFor_eq hp] <;> rfl

theorem isBlank_list (ds : List Document) : (Document.list ds).isBlank = ds.isEmpty := by
  cases ds <;> rfl

theorem keysLeft_of_none {d : Document} (hp : partFor d "UnprocessedKeys" table = .ok none) :
    keysLeft d table = .ok none := by
  simp only [keysLeft, hp]
  rfl

theorem keysLeft_of_object {d : Document} {fs : Fields}
    (hp : partFor d "UnprocessedKeys" table = .ok (some (.object fs))) :
    keysLeft d table = .ok (if Document.isBlank? (fs.lookup "Keys") then none else some fs) := by
  simp only [keysLeft, hp, bind, Except.bind, Document.requireFields]
  cases fs <;> rfl

theorem entriesLeft_of_part {d : Document} {part : Option Document}
    (hp : partFor d "UnprocessedItems" table = .ok part) :
    entriesLeft d table = .ok (part.filter (!·.isBlank)) := by
  simp only [entriesLeft, hp]
  rfl

theorem keysLeft_of_leaves {keys : List String} {part : Option Document}
    (hp : Says table response "UnprocessedKeys" part) (hl : LeavesKeys attributeName keys part) :
    (keys = [] ∧ keysLeft (.object response) table = .ok none) ∨
      ∃ fs : Fields, fs.lookup "Keys" = some (.list (keys.map (Item.address attributeName))) ∧
        keysLeft (.object response) table = .ok (some fs) := by
  cases hl with
  | nothing => exact .inl ⟨rfl, keysLeft_of_none (partFor_eq hp)⟩
  | request fs h =>
    have hk := keysLeft_of_object (partFor_eq hp)
    generalize hf : fs.lookup "Keys" = ks at h hk
    generalize hks : keys.map (Item.address attributeName) = ds at h
    cases h with
    | missing => exact .inl ⟨List.map_eq_nil_iff.1 hks, hk⟩
    | there ds =>
      rw [Document.isBlank?, Option.all_some, isBlank_list] at hk
      cases keys with
      | nil =>
        subst hks
        exact .inl ⟨rfl, hk⟩
      | cons key keys =>
        subst hks
        exact .inr ⟨fs, hf, hk⟩

theorem entriesLeft_of_lists {ps : List (String × Fields)} {part : Option Document}
    (hp : Says table response "UnprocessedItems" part) (hl : Lists (ps.map entry) part) :
    (ps = [] ∧ entriesLeft (.object response) table = .ok none) ∨
      entriesLeft (.object response) table = .ok (some (.list (ps.map entry))) := by
  have he := entriesLeft_of_part (partFor_eq hp)
  generalize hds : ps.map entry = ds at hl ⊢
  cases hl with
  | missing => exact .inl ⟨List.map_eq_nil_iff.1 hds, he⟩
  | there =>
    rw [Option.filter_some, isBlank_list] at he
    cases ds with
    | nil => exact .inl ⟨List.map_eq_nil_iff.1 hds, he⟩
    | cons d ds => exact .inr he

/-- How a batch that was not refused may fail. -/
inductive Fails (what operation : String) (rounds : Nat) : Failure → Prop
  | fault {f : Fault} (h : f.OfStore) : Fails what operation rounds f.failure
  | givenUp (left : Nat) :
    Fails what operation rounds (.reported (givenUp left what rounds operation) false)

open Service

variable {T : Type} [TimeScale T] {w : World T} {m : Items} (c : Client) (rounds : Nat)

theorem keyCount_eq {request : Fields} {ds : List Document}
    (h : request.lookup "Keys" = some (.list ds)) : keyCount request = .ok ds.length := by
  simp only [keyCount, Document.require, h]
  rfl

/-- The rounds of a batch read end with the items of exactly the keys that it began with. -/
theorem readRounds_ensures (consistent : Document) (n : Nat) {left : Fields}
    {keys : List String}
    (hk : left.lookup "Keys" = some (.list (keys.map (Item.address attributeName))))
    (acc : List Document) :
    (store table attributeName).Ensures m w
      (readRounds c table consistent rounds n left acc)
      (fun ds w' m' => m' = m ∧ w'.source = w.source ∧
        ∃ items : List Fields, ds = acc ++ items.map .object ∧ items.Perm (m.found keys))
      (fun e w' m' => m' = m ∧ w'.source = w.source ∧ Fails "keys" "BatchGetItem" rounds e) := by
  -- on the rounds left: what was served is in `acc`, and `left` asks for all that was declined
  induction n generalizing left keys acc w with
  | zero =>
    rw [readRounds, keyCount_eq hk]
    exact .throw ⟨rfl, rfl, .givenUp _⟩
  | succ n ih =>
    have hr : (left.set "ConsistentRead" consistent).lookup "Keys" =
        some (.list (keys.map (Item.address attributeName))) := by
      rw [Fields.lookup_set, if_neg (by decide), hk]
    have hq : Means table attributeName (.batchGetItem (.object [(table,
        .object (left.set "ConsistentRead" consistent))])) (.getAll keys) := .getAll _ keys hr
    rw [readRounds]
    simp only [keyCount_eq hr, Run.ofExcept_ok, pure_bind]
    apply Ensures.step (Run.log_apply _ _ _ w) rfl
    refine Ensures.seq (fun _ => .seq fun _ => .seq fun left => ?_) ?_
    · cases left <;> infer_instance
    apply Ensures.call
    · intro o script d m' hw ho ha
      cases ha.grants hq with
      | @getAll _ declined served items response part rest hp hi hs hl hu hd =>
        simp only [found_of_lists hs hl, Run.ofExcept_ok, pure_bind]
        have hi' : (items ++ m.found declined).Perm (m.found keys) := by
          refine (hi.append_right _).trans ?_
          rw [← Items.found_append]
          exact m.found_perm (List.perm_append_comm.trans hp)
        rcases keysLeft_of_leaves hu hd with ⟨rfl, hleft⟩ | ⟨fs, hfs, hleft⟩
        · rw [hleft, Run.ofExcept_ok, pure_bind]
          rw [show m.found [] = [] from rfl, List.append_nil] at hi'
          exact .pure ⟨rfl, rfl, items, rfl, hi'⟩
        · rw [hleft, Run.ofExcept_ok, pure_bind]
          apply (ih hfs _).mono
          · intro ds w' m' h
            obtain ⟨rfl, hsource, items', rfl, hitems⟩ := h
            refine ⟨rfl, hsource, items ++ items', ?_, ?_⟩
            · rw [List.map_append, List.append_assoc]
            · exact (hitems.append_left items).trans hi'
          · intro e w' m' h
            obtain ⟨rfl, hsource, he⟩ := h
            exact ⟨rfl, hsource, he⟩
    · intro o script f m' hw ho ha
      obtain ⟨hf, rfl⟩ := ha.of_fault hq
      exact ⟨rfl, rfl, .fault hf⟩

/-- The rounds of a batch write end with each of its items stored, or fail with some of them
stored. -/
theorem writeRounds_ensures (n : Nat) {ps : List (String × Fields)}
    (hk : ∀ p ∈ ps, Keyed attributeName p) (hn : (ps.map Prod.fst).Nodup) :
    (store table attributeName).Ensures m w (writeRounds c table rounds n (.list (ps.map entry)))
      (fun _ w' m' => m' = m.putAll ps ∧ w'.source = w.source)
      (fun e w' m' => (∃ stored, stored.Subperm ps ∧ m' = m.putAll stored) ∧
        w'.source = w.source ∧ Fails "items" "BatchWriteItem" rounds e) := by
  have hsize : (Document.list (ps.map entry)).requireSize = .ok (ps.map entry).length := rfl
  -- the keys of what is declined stay distinct, so it may be stored after the rest
  induction n generalizing ps w m with
  | zero =>
    rw [writeRounds, hsize]
    exact .throw ⟨⟨[], List.nil_subperm, rfl⟩, rfl, .givenUp _⟩
  | succ n ih =>
    have hq : Means table attributeName (.batchWriteItem (.object [(table,
        .list (ps.map entry))])) (.putAll ps) := .putAll ps hk
    rw [writeRounds]
    simp only [hsize, Run.ofExcept_ok, pure_bind]
    apply Ensures.step (Run.log_apply _ _ _ w) rfl
    refine Ensures.seq (fun _ => .seq fun left => ?_) ?_
    · cases left <;> infer_instance
    apply Ensures.call
    · intro o script d m' hw ho ha
      cases ha.grants hq with
      | @putAll _ declined served response rest hp hu hd =>
        have hps : (served ++ declined).Perm ps := List.perm_append_comm.trans hp
        have hns : ((served ++ declined).map Prod.fst).Nodup :=
          (hps.map Prod.fst).nodup_iff.2 hn
        rcases entriesLeft_of_lists hu hd with ⟨rfl, hleft⟩ | hleft
        · rw [hleft, Run.ofExcept_ok, pure_bind]
          rw [List.append_nil] at hps hns
          exact .pure ⟨m.putAll_perm hps hns, rfl⟩
        · rw [hleft, Run.ofExcept_ok, pure_bind]
          have hkd : ∀ p ∈ declined, Keyed attributeName p := fun p h =>
            hk p (hps.subset (List.mem_append_right _ h))
          have hnd : (declined.map Prod.fst).Nodup := by
            rw [List.map_append] at hns
            exact hns.of_append_right
          apply (ih hkd hnd rfl).mono
          · intro _ w' m' h
            obtain ⟨rfl, hsource⟩ := h
            refine ⟨?_, hsource⟩
            rw [← Items.putAll_append]
            exact m.putAll_perm hps hns
          · intro e w' m' h
            obtain ⟨⟨stored, hstored, rfl⟩, hsource, he⟩ := h
            refine ⟨⟨served ++ stored, ?_, (m.putAll_append _ _).symm⟩, hsource, he⟩
            exact ((List.subperm_append_left served).2 hstored).trans hps.subperm
    · intro o script f m' hw ho ha
      obtain ⟨hf, rfl⟩ := ha.of_fault hq
      exact ⟨⟨[], List.nil_subperm, rfl⟩, rfl, .fault hf⟩

theorem nodup_of_duplicates_eq_nil {keys : List String} (h : Key.duplicates keys = []) :
    keys.Nodup := by
  have hp := List.mergeSort_perm (keys.filter fun k => 1 < keys.count k).eraseDups
    fun a b => decide (a ≤ b)
  rw [Key.duplicates] at h
  rw [h, List.nil_perm] at hp
  rw [List.nodup_iff_count_le_one]
  intro k
  by_contra hk
  have hm : k ∈ (keys.filter fun k => 1 < keys.count k).eraseDups := by
    rw [List.mem_eraseDups, List.mem_filter, decide_eq_true_eq]
    exact ⟨List.count_pos_iff.1 (by omega), by omega⟩
  rw [hp] at hm
  cases hm

theorem nodup_of_problem?_eq_none {keys : List String} {limit : Nat} {rounds : Int}
    (h : problem? keys limit rounds = none) : keys.Nodup := by
  apply nodup_of_duplicates_eq_nil
  simp only [problem?] at h
  split at h
  · cases h
  · split at h
    · cases h
    · next hd => simpa using hd

theorem pos_of_problem?_eq_none {keys : List String} {limit : Nat} {rounds : Int}
    (h : problem? keys limit rounds = none) : ∃ n, rounds.toNat = n + 1 := by
  rw [problem?] at h
  split at h
  · cases h
  · exact ⟨rounds.toNat - 1, by omega⟩

theorem Problem.failure_of_fits {n : Int} (h : Number.fits Number.maxDigits n = true) :
    (Problem.rounds n).failure = .reported (Problem.rounds n).error false := by
  simp only [failure, h, if_true]

theorem Problem.failure_of_not_fits {n : Int} (h : ¬ Number.fits Number.maxDigits n = true) :
    (Problem.rounds n).failure = .tooManyDigits := by
  simp only [failure, h, Bool.false_eq_true, if_false]

theorem rounds_of_problem? {keys : List String} {limit : Nat} {rounds n : Int}
    (h : problem? keys limit rounds = some (.rounds n)) : rounds = n := by
  rw [problem?] at h
  split at h
  · cases h
    rfl
  · dsimp only at h
    split at h
    · cases h
    · split at h
      · cases h
      · split at h <;> cases h

theorem failure_of_problem? {keys : List String} {limit : Nat} {rounds : Int} {p : Problem}
    (h : problem? keys limit rounds = some p) (hfits : Number.fits Number.maxDigits rounds = true) :
    p.failure = .reported p.error false := by
  cases p with
  | rounds n =>
    obtain rfl := rounds_of_problem? h
    exact Problem.failure_of_fits hfits
  | _ => rfl

variable {values : Nat → String} {drawn : Nat} {keys : List String}

theorem map_fst_fresh : (fresh attributeName values drawn keys).map Prod.fst = keys := by
  rw [fresh, map_mapIdx]
  simp only [List.mapIdx_eq_zipIdx_map, List.zipIdx_map_fst]

theorem keyed_of_mem_fresh {p : String × Fields}
    (h : p ∈ fresh attributeName values drawn keys) : Keyed attributeName p := by
  obtain ⟨i, hi, rfl⟩ := List.mem_mapIdx.1 h
  simp only [Keyed, Fields.lookup_cons, if_true]

omit [TimeScale T] in
theorem putRequests_eq_fresh (ha : attributeName ≠ Item.valueAttribute) (keys : List String)
    (w : World T) :
    putRequests attributeName keys w =
      .ok ((fresh attributeName w.source.value w.source.drawn keys).map fun p =>
        .object [("Item", .object p.2)]) (w.drew keys.length) := by
  rw [putRequests_apply, fresh, map_mapIdx]
  simp only [putRequest, Item.make_eq ha]

omit [TimeScale T] in
theorem check_eq (keys : List String) (limit : Nat) (rounds : Int) :
    (check keys limit rounds : Run T Unit) =
      match problem? keys limit rounds with
      | some p => throw p.failure
      | none => pure () := rfl

theorem read_ensures (consistent : Document) (keys : List String) (rounds : Int) :
    (store table attributeName).Ensures m w
      (read c table attributeName keys consistent rounds)
      (fun texts w' m' => m' = m ∧ w'.source = w.source ∧ problem? keys readLimit rounds = none ∧
        ∃ items : List Fields, texts = items.map (fun fs => (Document.object fs).render) ∧
          items.Perm (m.found keys))
      (fun e w' m' => m' = m ∧ w'.source = w.source ∧
        match problem? keys readLimit rounds with
        | some p => e = p.failure
        | none => Fails "keys" "BatchGetItem" rounds.toNat e) := by
  rw [read, check_eq]
  cases problem? keys readLimit rounds with
  | some p => exact .throw ⟨rfl, rfl, rfl⟩
  | none =>
    rw [pure_bind]
    apply Ensures.bind
    apply (readRounds_ensures c rounds.toNat consistent _ rfl []).mono
    · intro ds w' m' h
      obtain ⟨rfl, hsource, items, rfl, hitems⟩ := h
      refine .pure ⟨rfl, hsource, rfl, items, ?_, hitems⟩
      rw [List.nil_append, List.map_map]
      rfl
    · intro e w' m' h
      obtain ⟨rfl, hsource, he⟩ := h
      exact ⟨rfl, hsource, he⟩

theorem write_ensures (ha : attributeName ≠ Item.valueAttribute) (keys : List String)
    (rounds : Int) :
    (store table attributeName).Ensures m w (write c table attributeName keys rounds)
      (fun texts w' m' =>
        let ps := fresh attributeName w.source.value w.source.drawn keys
        m' = m.putAll ps ∧ w'.source = (w.drew keys.length).source ∧
          problem? keys writeLimit rounds = none ∧
          texts = ps.map fun p => (Document.object [("Item", .object p.2)]).render)
      (fun e w' m' =>
        match problem? keys writeLimit rounds with
        | some p => e = p.failure ∧ m' = m ∧ w'.source = w.source
        | none => w'.source = (w.drew keys.length).source ∧
          Fails "items" "BatchWriteItem" rounds.toNat e ∧
          ∃ stored, stored.Subperm (fresh attributeName w.source.value w.source.drawn keys) ∧
            m' = m.putAll stored) := by
  rw [write, check_eq]
  cases hp : problem? keys writeLimit rounds with
  | some p => exact .throw ⟨rfl, rfl, rfl⟩
  | none =>
    rw [pure_bind]
    apply Ensures.step (putRequests_eq_fresh ha keys w) rfl
    apply Ensures.bind
    have hn := nodup_of_problem?_eq_none hp
    rw [List.map_map]
    refine (writeRounds_ensures c rounds.toNat _ (fun _ => keyed_of_mem_fresh)
      (by rwa [map_fst_fresh])).mono ?_ ?_
    · intro _ w' m' h
      obtain ⟨rfl, hsource⟩ := h
      refine .pure ⟨rfl, hsource, rfl, ?_⟩
      rw [List.map_map]
      rfl
    · intro e w' m' h
      obtain ⟨hstored, hsource, he⟩ := h
      exact ⟨hsource, he, hstored⟩

end Batch

end TableBench
