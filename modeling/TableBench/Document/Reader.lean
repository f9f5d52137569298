import TableBench.Document
import TableBench.Number.Numeral

namespace TableBench.Document

def skip (cs : List Char) : List Char :=
  cs.dropWhile fun c => c = ' ' || c = '\t' || c = '\n' || c = '\r'

def hexValue? (c : Char) : Option Nat :=
  if c.isDigit then some (c.toNat - 48)
  else if 'a' ≤ c && c ≤ 'f' then some (c.toNat - 87)
  else if 'A' ≤ c && c ≤ 'F' then some (c.toNat - 55)
  else none

def unit? (a b c d : Char) : Option Nat := do
  return ((((← hexValue? a) * 16 + (← hexValue? b)) * 16 + (← hexValue? c)) * 16 + (← hexValue? d))

def unescape? : Char → Option Char
  | '\x22' => some '\x22'
  | '\\' => some '\\'
  | '/' => some '/'
  | 'b' => some '\x08'
  | 'f' => some '\x0c'
  | 'n' => some '\n'
  | 'r' => some '\r'
  | 't' => some '\t'
  | _ => none

/-- Reads a string after its opening quote. -/
def readText : List Char → Option (List Char × List Char)
  | [] => none
  | '\x22' :: r => some ([], r)
  | '\\' :: 'u' :: a :: b :: c :: d :: '\\' :: 'u' :: e :: f :: g :: h :: r => do
    let high ← unit? a b c d
    if 0xd800 ≤ high && high < 0xdc00 then
      let low ← unit? e f g h
      let (cs, r) ← readText r
      some (Char.ofNat (0x10000 + (high - 0xd800) * 0x400 + (low - 0xdc00)) :: cs, r)
    else
      let (cs, r) ← readText ('\\' :: 'u' :: e :: f :: g :: h :: r)
      some (Char.ofNat high :: cs, r)
  | '\\' :: 'u' :: a :: b :: c :: d :: r => do
    let n ← unit? a b c d
    let (cs, r) ← readText r
    some (Char.ofNat n :: cs, r)
  | '\\' :: c :: r => do
    let c ← unescape? c
    let (cs, r) ← readText r
    some (c :: cs, r)
  | c :: r => do
    let (cs, r) ← readText r
    some (c :: cs, r)

def isNumberPart (c : Char) : Bool :=
  c.isDigit || c = '-' || c = '+' || c = '.' || c = 'e' || c = 'E'

/-- A number with a point or an exponent is a binary number; any other is an integer of any size. -/
def ofNumber? (cs : List Char) : Option Document :=
  let (negative, r) := Number.splitSign cs
  if r.isEmpty then none
  else if r.all Char.isDigit then
    let n := Number.digitsValue r
    some (int (if negative then -(n : Int) else n))
  else (Number.readMagnitude negative r).map float

def afterWord? (word : String) (cs : List Char) : Option (List Char) :=
  if word.toList.isPrefixOf cs then some (cs.drop word.length) else none

mutual

/-- Reads one value; every part of it uses a step, so that the length of the text is enough of
them. -/
def readValue : Nat → List Char → Option (Document × List Char)
  | 0, _ => none
  | steps + 1, cs =>
    match skip cs with
    | [] => none
    | '\x22' :: r => (readText r).map fun (s, r) => (text (String.ofList s), r)
    | '[' :: r =>
      match skip r with
      | ']' :: r => some (list [], r)
      | r => (readMembers steps r).map fun (ds, r) => (list ds, r)
    | '\x7b' :: r =>
      match skip r with
      | '\x7d' :: r => some (object [], r)
      | r => (readFields steps [] r).map fun (fs, r) => (object fs, r)
    | 'n' :: r => (afterWord? "ull" r).map (null, ·)
    | 't' :: r => (afterWord? "rue" r).map (bool true, ·)
    | 'f' :: r => (afterWord? "alse" r).map (bool false, ·)
    | r => (ofNumber? (r.takeWhile isNumberPart)).map (·, r.dropWhile isNumberPart)

def readMembers : Nat → List Char → Option (List Document × List Char)
  | 0, _ => none
  | steps + 1, cs => do
    let (d, r) ← readValue steps cs
    match skip r with
    | ',' :: r => do
      let (ds, r) ← readMembers steps r
      some (d :: ds, r)
    | ']' :: r => some ([d], r)
    | _ => none

/-- Reads the fields of an object up to its closing brace; of equal names the last value counts. -/
def readFields : Nat → Fields → List Char → Option (Fields × List Char)
  | 0, _, _ => none
  | steps + 1, before, cs =>
    match skip cs with
    | '\x22' :: r => do
      let (k, r) ← readText r
      match skip r with
      | ':' :: r => do
        let (d, r) ← readValue steps r
        let fs := Fields.set before (String.ofList k) d
        match skip r with
        | ',' :: r => readFields steps fs r
        | '\x7d' :: r => some (fs, r)
        | _ => none
      | _ => none
    | _ => none

end

def read? (s : String) : Option Document := do
  let cs := s.toList
  let (d, r) ← readValue (cs.length + 1) cs
  if (skip r).isEmpty then some d else none

end TableBench.Document
