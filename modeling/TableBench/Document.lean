import TableBench.Number.Layout

namespace TableBench

/-- An item, a request or a response of the store; an object keeps the order of its fields. -/
inductive Document where
  | null
  | bool (b : Bool)
  | int (n : Int)
  | float (x : Float)
  | text (s : String)
  | bytes (bs : List UInt8)
  | list (ds : List Document)
  | object (fields : List (String × Document))
  deriving Inhabited

/-- The named fields of an object, each name once. -/
abbrev Fields := List (String × Document)

/-- Gives a field a value: where the name stands, or else at the end. -/
def Fields.set : Fields → String → Document → Fields
  | [], k, d => [(k, d)]
  | (k', d') :: r, k, d => if k' = k then (k, d) :: r else (k', d') :: Fields.set r k d

theorem Fields.lookup_cons (f : String × Document) (fs : Fields) (k : String) :
    List.lookup k (f :: fs) = if k = f.1 then some f.2 else fs.lookup k := by
  obtain ⟨k₀, d₀⟩ := f
  by_cases h : k = k₀
  · simp [h]
  · simp [List.lookup_cons, h, beq_eq_false_iff_ne.2 h]

theorem Fields.lookup_set (fs : Fields) (k k' : String) (d : Document) :
    (Fields.set fs k d).lookup k' = if k' = k then some d else fs.lookup k' := by
  induction fs with
  | nil => simp [Fields.set, Fields.lookup_cons]
  | cons f r ih =>
    by_cases hf : f.1 = k
    · by_cases h : k' = k <;> simp [Fields.set, Fields.lookup_cons, hf, h]
    · by_cases h : k' = f.1
      · simp [Fields.set, Fields.lookup_cons, hf, h]
      · simp [Fields.set, Fields.lookup_cons, hf, h, ih]

namespace Document

def fields? : Document → Option Fields
  | object fs => some fs
  | _ => none

def get? (d : Document) (k : String) : Option Document := d.fields?.bind (·.lookup k)

def text? : Document → Option String
  | text s => some s
  | _ => none

/-- How many parts a text, byte string, list or object has. -/
def size? : Document → Option Nat
  | text s => some s.length
  | bytes bs => some bs.length
  | list ds => some ds.length
  | object fs => some fs.length
  | _ => none

def isComposite : Document → Bool
  | list _ | object _ => true
  | _ => false

/-- The value says nothing: null, false, zero, or without parts. -/
def isBlank : Document → Bool
  | null => true
  | bool b => !b
  | int n => n == 0
  | float x => x == 0
  | d => d.size? == some 0

def isBlank? (d : Option Document) : Bool := d.all isBlank

/-- A field that may be missing counts as null then. -/
def orNull (d : Option Document) : Document := d.getD null

/-- A text attribute in the notation of the store. -/
def string (s : String) : Document := object [("S", text s)]

def ofText? (s : Option String) : Document := orNull (s.map text)

end Document

end TableBench
