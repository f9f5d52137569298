import TableBench.Number.Binary
import TableBench.Payload.Twister

namespace TableBench.Payload

def alphabet : List Char :=
  "abcdefghijklmnopqrstuvwxyzABCDEFGHIJKLMNOPQRSTUVWXYZ0123456789".toList

/-- The place in the alphabet of a 53-bit fraction; the product is rounded to 53 bits before its
floor is taken. -/
def place (fraction : Nat) : Nat := Number.roundToBits 53 (fraction * 62) / Nat.pow 2 53

def character (t : Twister) : Char × Twister :=
  let (fraction, t) := t.next53
  (alphabet.getD (place fraction) 'a', t)

def characters : Nat → Twister → List Char × Twister
  | 0, t => ([], t)
  | n + 1, t =>
    let (c, t) := character t
    let (cs, t) := characters n t
    (c :: cs, t)

def valuesFrom (size : Nat) : Nat → Twister → List String
  | 0, _ => []
  | count + 1, t =>
    let (cs, t) := characters size t
    String.ofList cs :: valuesFrom size count t

def values (size : Nat) (seed : Int) (count : Nat) : List String :=
  valuesFrom size count (Twister.ofSeed seed)

def stream (size : Nat) (seed : Int) (i : Nat) : String :=
  ((values size seed (i + 1)).getLast?).getD ""

/-- A payload holds at least one character. -/
def size? (n : Int) : Option Nat := if 0 < n then some n.toNat else none

def sizeComplaint : String := "value_size must be positive"

end TableBench.Payload
