import TableBench.Error

namespace TableBench.Document

def requireFields : Document → Except Failure Fields
  | object fs => .ok fs
  | _ => .error .noFields

def require (d : Document) (k : String) : Except Failure Document :=
  match d with
  | object fs =>
    match fs.lookup k with
    | some v => .ok v
    | none => .error (.missingField k)
  | _ => .error .mismatch

/-- The parts of what has to have parts: members of a list, characters of a text, bytes as
integers, the names of the fields of an object. -/
def requireParts : Document → Except Failure (List Document)
  | text s => .ok (s.toList.map fun c => text (String.singleton c))
  | bytes bs => .ok (bs.map fun b => int b.toNat)
  | list ds => .ok ds
  | object fs => .ok (fs.map fun f => text f.1)
  | _ => .error .mismatch

def requireSize (d : Document) : Except Failure Nat :=
  match d.size? with
  | some n => .ok n
  | none => .error .mismatch

/-- The integer that a document stands for: a truth value counts as zero or one. -/
def whole? : Document → Option Int
  | bool b => some (if b then 1 else 0)
  | int n => some n
  | float x => (Number.Binary.ofFloat? x).bind (·.whole?)
  | _ => none

mutual

/-- Two documents have one meaning: numbers count by their value, objects by their fields in any
order. -/
def same : Document → Document → Bool
  | null, null => true
  | text s, text t => s == t
  | bytes as, bytes bs => as == bs
  | list ds, list es => sameMembers ds es
  | object fs, object gs => fs.length == gs.length && sameFields fs gs
  | float x, float y => x == y
  | d, e =>
    match d.whole?, e.whole? with
    | some m, some n => m == n
    | _, _ => false

def sameMembers : List Document → List Document → Bool
  | [], [] => true
  | d :: ds, e :: es => d.same e && sameMembers ds es
  | _, _ => false

def sameFields : List (String × Document) → List (String × Document) → Bool
  | [], _ => true
  | (k, d) :: fs, gs =>
    (match gs.lookup k with
      | some e => d.same e
      | none => false) && sameFields fs gs

end

end TableBench.Document
