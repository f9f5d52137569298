import Mathlib.Data.List.Nodup
import TableBench.Proofs.Item
import TableBench.Proofs.Service

namespace TableBench

/-- A fault of the store or of the way to it. -/
def Fault.OfStore : Fault → Prop
  | .rejected _ | .transport _ => True
  | .reported _ | .stray _ => False

namespace KeyValue

def Items : Type := String → Option Fields

namespace Items

def put (m : Items) (p : String × Fields) : Items := fun k => if k = p.1 then some p.2 else m k

def putAll (m : Items) (ps : List (String × Fields)) : Items := ps.foldl put m

/-- The items of some keys; a key without an item has none. -/
def found (m : Items) (keys : List String) : List Fields := keys.filterMap m

theorem found_append (m : Items) (keys keys' : List String) :
    m.found (keys ++ keys') = m.found keys ++ m.found keys' := List.filterMap_append

theorem found_perm (m : Items) {keys keys' : List String} (h : keys.Perm keys') :
    (m.found keys).Perm (m.found keys') := h.filterMap _

theorem put_self (m : Items) (p : String × Fields) : m.put p p.1 = some p.2 := if_pos rfl

theorem put_of_ne (m : Items) {p : String × Fields} {k : String} (h : k ≠ p.1) :
    m.put p k = m k := if_neg h

theorem put_comm (m : Items) {p q : String × Fields} (h : p.1 ≠ q.1) :
    (m.put p).put q = (m.put q).put p := by
  funext k
  by_cases hp : k = p.1
  · subst hp
    rw [put_of_ne _ h, put_self, put_self]
  · by_cases hq : k = q.1
    · subst hq
      rw [put_self, put_of_ne _ hp, put_self]
    · rw [put_of_ne _ hq, put_of_ne _ hp, put_of_ne _ hp, put_of_ne _ hq]

theorem putAll_append (m : Items) (ps qs : List (String × Fields)) :
    m.putAll (ps ++ qs) = (m.putAll ps).putAll qs := List.foldl_append

theorem putAll_perm (m : Items) {ps qs : List (String × Fields)} (h : ps.Perm qs)
    (hn : (ps.map Prod.fst).Nodup) : m.putAll ps = m.putAll qs := by
  refine h.foldl_eq' ?_ m
  intro p hp q hq m
  by_cases hpq : p = q
  · rw [hpq]
  · exact put_comm m fun he => hpq (List.inj_on_of_nodup_map hn hp hq he)

end Items

def entry (p : String × Fields) : Document :=
  .object [("PutRequest", .object [("Item", .object p.2)])]

/-- The items that a write makes of its keys, with payloads from the given place on. -/
def fresh (attributeName : String) (values : Nat → String) (drawn : Nat) (keys : List String) :
    List (String × Fields) :=
  keys.mapIdx fun i key =>
    (key, [(attributeName, .string key), (Item.valueAttribute, .string (values (drawn + i)))])

inductive Ask where
  | get (key : String)
  | put (p : String × Fields)
  | getAll (keys : List String)
  | putAll (ps : List (String × Fields))

/-- The item has its key in the attribute that the table keeps keys in. -/
def Keyed (attributeName : String) (p : String × Fields) : Prop :=
  p.2.lookup attributeName = some (.string p.1)

/-- How a store reads a request about its table. -/
inductive Means (table attributeName : String) : Request → Ask → Prop
  | get (key : String) (consistent : Document) :
    Means table attributeName
      (.getItem (.text table) (Item.address attributeName key) consistent) (.get key)
  | put (p : String × Fields) (h : Keyed attributeName p) :
    Means table attributeName (.putItem (.text table) (.object p.2)) (.put p)
  | getAll (fs : Fields) (keys : List String)
    (h : fs.lookup "Keys" =
      some (.list (keys.map (Item.address attributeName)))) :
    Means table attributeName (.batchGetItem (.object [(table, .object fs)])) (.getAll keys)
  | putAll (ps : List (String × Fields)) (h : ∀ p ∈ ps, Keyed attributeName p) :
    Means table attributeName (.batchWriteItem (.object [(table, .list (ps.map entry))]))
      (.putAll ps)

theorem entry_inj {attributeName : String} {p q : String × Fields} (hp : Keyed attributeName p)
    (hq : Keyed attributeName q) (h : p.2 = q.2) : p = q := by
  have hk : some (Document.string p.1) = some (Document.string q.1) :=
    hp.symm.trans ((congrArg _ h).trans hq)
  exact Prod.ext (Item.string_inj (Option.some.inj hk)) h

theorem map_entry_inj {attributeName : String} {ps qs : List (String × Fields)}
    (hp : ∀ p ∈ ps, Keyed attributeName p) (hq : ∀ q ∈ qs, Keyed attributeName q)
    (h : ps.map entry = qs.map entry) : ps = qs := by
  induction ps generalizing qs with
  | nil =>
    cases qs with
    | nil => rfl
    | cons => cases h
  | cons p ps ih =>
    cases qs with
    | nil => cases h
    | cons q qs =>
      simp only [List.map_cons, List.cons.injEq, entry, Document.object.injEq, Prod.mk.injEq,
        true_and, and_true] at h
      rw [List.forall_mem_cons] at hp hq
      rw [entry_inj hp.1 hq.1 h.1, ih hp.2 hq.2 h.2]

theorem map_address_inj {attributeName : String} {keys keys' : List String}
    (h : keys.map (Item.address attributeName) = keys'.map (Item.address attributeName)) :
    keys = keys' := by
  refine List.map_injective_iff.2 (fun k k' hk => ?_) h
  simp only [Item.address, Document.object.injEq, List.cons.injEq, Prod.mk.injEq, true_and,
    and_true] at hk
  exact Item.string_inj hk

theorem Means.unique {table attributeName : String} {request : Request} {ask ask' : Ask}
    (h : Means table attributeName request ask) (h' : Means table attributeName request ask') :
    ask = ask' := by
  cases h with
  | get key _ =>
    cases h'
    rfl
  | put p hp =>
    -- the fields of an item are no pattern, so the request is named before the cases
    generalize hq : Request.putItem _ _ = request at h'
    cases h' with
    | put q hq' =>
      simp only [Request.putItem.injEq, Document.object.injEq, true_and] at hq
      rw [entry_inj hp hq' hq]
    | _ => cases hq
  | getAll fs keys hk =>
    generalize hq : Request.batchGetItem _ = request at h'
    cases h' with
    | getAll fs' keys' hk' =>
      simp only [Request.batchGetItem.injEq, Document.object.injEq, List.cons.injEq,
        Prod.mk.injEq, true_and, and_true] at hq
      subst hq
      rw [hk, Option.some.injEq, Document.list.injEq] at hk'
      rw [map_address_inj hk']
    | _ => cases hq
  | putAll ps hp =>
    generalize hq : Request.batchWriteItem _ = request at h'
    cases h' with
    | putAll qs hq' =>
      simp only [Request.batchWriteItem.injEq, Document.object.injEq, List.cons.injEq,
        Prod.mk.injEq, Document.list.injEq, true_and, and_true] at hq
      rw [map_entry_inj hp hq' hq]
    | _ => cases hq

/-- What a response says of the table under a name, if anything. -/
inductive Says (table : String) (response : Fields) (name : String) : Option Document → Prop
  | nothing (h : response.lookup name = none) : Says table response name none
  | part (tables : Fields) (h : response.lookup name = some (.object tables)) :
    Says table response name (tables.lookup table)

/-- A list in a response; an empty one may be missing. -/
inductive Lists : List Document → Option Document → Prop
  | missing : Lists [] none
  | there (ds : List Document) : Lists ds (some (.list ds))

/-- The keys that a batch read left over, as a request for them. -/
inductive LeavesKeys (attributeName : String) : List String → Option Document → Prop
  | nothing : LeavesKeys attributeName [] none
  | request {keys : List String} (fs : Fields)
    (h : Lists (keys.map (Item.address attributeName)) (fs.lookup "Keys")) :
    LeavesKeys attributeName keys (some (.object fs))

/-- How a store may respond to a wish. A batch is served in part: any of its keys or entries may be
left over, and the items of the others come in any order. -/
inductive Grants (table attributeName : String) : Items → Ask → Document → Items → Prop
  | get (m : Items) (key : String) (response : Fields)
    (h : response.lookup "Item" = (m key).map .object) :
    Grants table attributeName m (.get key) (.object response) m
  | put (m : Items) (p : String × Fields) (response : Document) :
    Grants table attributeName m (.put p) response (m.put p)
  | getAll (m : Items) {keys declined served : List String} {items : List Fields}
    {response : Fields} {part left : Option Document} (hk : (declined ++ served).Perm keys)
    (hi : items.Perm (m.found served)) (hp : Says table response "Responses" part)
    (hl : Lists (items.map .object) part) (hu : Says table response "UnprocessedKeys" left)
    (hd : LeavesKeys attributeName declined left) :
    Grants table attributeName m (.getAll keys) (.object response) m
  | putAll (m : Items) {ps declined served : List (String × Fields)} {response : Fields}
    {left : Option Document} (hk : (declined ++ served).Perm ps)
    (hu : Says table response "UnprocessedItems" left) (hd : Lists (declined.map entry) left) :
    Grants table attributeName m (.putAll ps) (.object response) (m.putAll served)

/-- What a store may answer: a response, or a fault that changes nothing. Nothing is known of a
request that it cannot read. -/
inductive Answers (table attributeName : String) : Items → Request → Answer → Items → Prop
  | response {m m' : Items} {request : Request} {ask : Ask} {d : Document}
    (hq : Means table attributeName request ask) (h : Grants table attributeName m ask d m') :
    Answers table attributeName m request (.ok d) m'
  | fault {m : Items} {request : Request} {f : Fault} (h : f.OfStore) :
    Answers table attributeName m request (.error f) m
  | unread {m m' : Items} {request : Request} {answer : Answer}
    (h : ∀ ask, ¬ Means table attributeName request ask) :
    Answers table attributeName m request answer m'

theorem Answers.grants {table attributeName : String} {m m' : Items} {request : Request}
    {ask : Ask} {d : Document} (hq : Means table attributeName request ask)
    (h : Answers table attributeName m request (.ok d) m') :
    Grants table attributeName m ask d m' := by
  cases h with
  | response hq' hg => rwa [hq.unique hq']
  | unread hn => exact absurd hq (hn ask)

theorem Answers.of_fault {table attributeName : String} {m m' : Items} {request : Request}
    {ask : Ask} {f : Fault} (hq : Means table attributeName request ask)
    (h : Answers table attributeName m request (.error f) m') : f.OfStore ∧ m' = m := by
  cases h with
  | fault hf => exact ⟨hf, rfl⟩
  | unread hn => exact absurd hq (hn ask)

def store (table attributeName : String) : Service Items where
  Answers m _ request answer m' := Answers table attributeName m request answer m'

end KeyValue

end TableBench
