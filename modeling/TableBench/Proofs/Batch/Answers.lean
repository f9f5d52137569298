import TableBench.Proofs.KeyValue.Keys

namespace TableBench

open KeyValue

namespace Batch

inductive Listing : Option Document → Prop
  | missing : Listing none
  | null : Listing (some .null)
  | there (ds : List Document) : Listing (some (.list ds))

inductive LeftOver : Option Document → Prop
  | missing : LeftOver none
  | null : LeftOver (some .null)
  | request {fs : Fields} (h : Listing (fs.lookup "Keys")) : LeftOver (some (.object fs))

/-- An answer to a batch read, honest or not, that has objects and lists where they belong. -/
inductive ReadAnswer (table : String) : Answer → Prop
  | fault (f : Fault) : ReadAnswer table (.error f)
  | response {response : Fields} {items left : Option Document} {ds : List Document}
    (hi : Says table response "Responses" items) (hd : Lists ds items)
    (hu : Says table response "UnprocessedKeys" left) (hl : LeftOver left) :
    ReadAnswer table (.ok (.object response))

/-- An answer to a batch write, honest or not, that has objects and lists where they belong. -/
inductive WriteAnswer (table : String) : Answer → Prop
  | fault (f : Fault) : WriteAnswer table (.error f)
  | response {response : Fields} {left : Option Document}
    (hu : Says table response "UnprocessedItems" left) (hl : Listing left) :
    WriteAnswer table (.ok (.object response))

def part? (response : Document) (name table : String) : Option Document :=
  (response.get? name).bind (·.get? table)

def addresses (request : Fields) : List Document := (request.lookup "Keys").elim [] Document.members

def givenItems (table : String) : Answer → List Document
  | .ok d => (part? d "Responses" table).elim [] Document.members
  | .error _ => []

/-- The request for keys of the table that an answer leaves over, if it has any. -/
def leftRequest (table : String) : Answer → Option Fields
  | .ok d => ((part? d "UnprocessedKeys" table).bind Document.fields?).filter
    fun request => !(addresses request).isEmpty
  | .error _ => none

def leftEntries (table : String) : Answer → Option (List Document)
  | .ok d => ((part? d "UnprocessedItems" table).map Document.members).filter (!·.isEmpty)
  | .error _ => none

variable {table : String}

theorem part?_eq {response : Fields} {name : String} {part : Option Document}
    (h : Says table response name part) : part? (.object response) name table = part := by
  cases h with
  | nothing h => simp [part?, Document.get?, Document.fields?, h]
  | part tables h => simp [part?, Document.get?, Document.fields?, h]

theorem givenItems_eq {response : Fields} {part : Option Document} {ds : List Document}
    (hp : Says table response "Responses" part) (hl : Lists ds part) :
    givenItems table (.ok (.object response)) = ds := by
  rw [givenItems, part?_eq hp]
  cases hl <;> rfl

theorem ReadAnswer.found {d : Document} (h : ReadAnswer table (.ok d)) :
    found d table = .ok (givenItems table (.ok d)) := by
  cases h with
  | response hi hd hu hl => rw [found_of_lists hi hd, givenItems_eq hi hd]

theorem LeftOver.keysLeft {response : Document} {left : Option Document}
    (hp : partFor response "UnprocessedKeys" table = .ok left) (hl : LeftOver left) :
    keysLeft response table = .ok ((left.bind Document.fields?).filter
      fun request => !(addresses request).isEmpty) := by
  cases hl with
  | missing => exact keysLeft_of_none hp
  | null => simp only [Batch.keysLeft, hp]; rfl
  | @request fs h =>
    rw [keysLeft_of_object hp, Option.bind_some, Document.fields?, Option.filter_some]
    generalize hk : fs.lookup "Keys" = keys at h
    have ha : addresses fs = keys.elim [] Document.members := by rw [addresses, hk]
    rw [ha]
    cases h with
    | missing => rfl
    | null => rfl
    | there ds => cases ds <;> rfl

theorem ReadAnswer.keysLeft {d : Document} (h : ReadAnswer table (.ok d)) :
    keysLeft d table = .ok (leftRequest table (.ok d)) := by
  cases h with
  | response hi hd hu hl =>
    rw [leftRequest, part?_eq hu]
    exact hl.keysLeft (partFor_eq hu)

theorem lookup_keys {request : Fields} (h : addresses request ≠ []) :
    request.lookup "Keys" = some (.list (addresses request)) := by
  rw [addresses] at h ⊢
  cases hk : request.lookup "Keys" with
  | none => simp [hk] at h
  | some d =>
    cases d with
    | list ds => rfl
    | _ => simp [hk, Document.members] at h

theorem addresses_ne_nil {a : Answer} {request : Fields} (h : leftRequest table a = some request) :
    addresses request ≠ [] := by
  cases a with
  | error f => cases h
  | ok d =>
    obtain ⟨-, hne⟩ := Option.filter_eq_some_iff.1 h
    simpa using hne

theorem WriteAnswer.entriesLeft {d : Document} (h : WriteAnswer table (.ok d)) :
    entriesLeft d table = .ok ((leftEntries table (.ok d)).map .list) := by
  cases h with
  | response hu hl =>
    rw [entriesLeft_of_part (partFor_eq hu), leftEntries, part?_eq hu]
    cases hl with
    | missing => rfl
    | null => rfl
    | there ds => cases ds <;> rfl

end Batch

end TableBench
