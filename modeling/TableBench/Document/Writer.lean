import TableBench.Document
import TableBench.Number.Numeral
import TableBench.Text.Quoted

namespace TableBench.Document

def unitEscape (n : Nat) : List Char := '\\' :: 'u' :: Text.hexDigits 4 n

/-- The escape of a character: a pair of surrogates beyond the basic plane. -/
def longEscape (c : Char) : List Char :=
  if c.toNat < 0x10000 then unitEscape c.toNat
  else
    let rest := c.toNat - 0x10000
    unitEscape (0xd800 + rest / 0x400) ++ unitEscape (0xdc00 + rest % 0x400)

/-- A character inside a JSON string; the text is ASCII throughout. -/
def escape (c : Char) : List Char :=
  match c with
  | '\x22' => ['\\', '\x22']
  | '\\' => ['\\', '\\']
  | '\n' => ['\\', 'n']
  | '\r' => ['\\', 'r']
  | '\t' => ['\\', 't']
  | '\x08' => ['\\', 'b']
  | '\x0c' => ['\\', 'f']
  | c => if 0x20 ≤ c.toNat && c.toNat ≤ 0x7e then [c] else longEscape c

def quote (cs : List Char) : List Char := '\x22' :: cs.flatMap escape ++ ['\x22']

def separated : List (List Char) → List Char
  | [] => []
  | [p] => p
  | p :: r => p ++ ',' :: ' ' :: separated r

/-- The decimal digits of an integer of any size; whether there may be so many of them is asked
apart, for the whole document. -/
def intChars (n : Int) : List Char :=
  if n < 0 then '-' :: Nat.toDigits 10 n.natAbs else Nat.toDigits 10 n.natAbs

mutual

/-- JSON text with fields in the order they stand in; a byte string is written as the text of its
literal. -/
def chars : Document → List Char
  | null => "null".toList
  | bool true => "true".toList
  | bool false => "false".toList
  | int n => intChars n
  | float x => Number.floatChars ⟨"NaN", "Infinity"⟩ x
  | text s => quote s.toList
  | bytes bs => quote (Text.byteLiteral bs)
  | list ds => '[' :: separated (listChars ds) ++ [']']
  | object fs => '\x7b' :: separated (fieldsChars fs) ++ ['\x7d']

def listChars : List Document → List (List Char)
  | [] => []
  | d :: ds => d.chars :: listChars ds

def fieldsChars : List (String × Document) → List (List Char)
  | [] => []
  | (k, d) :: fs => (quote k.toList ++ ':' :: ' ' :: d.chars) :: fieldsChars fs

end

def sortFields (fs : Fields) : Fields := fs.mergeSort fun f g => decide (f.1 ≤ g.1)

mutual

def sorted : Document → Document
  | list ds => list (sortedList ds)
  | object fs => object (sortFields (sortedFields fs))
  | d => d

def sortedList : List Document → List Document
  | [] => []
  | d :: ds => d.sorted :: sortedList ds

def sortedFields : List (String × Document) → List (String × Document)
  | [] => []
  | (k, d) :: fs => (k, d.sorted) :: sortedFields fs

end

def write (d : Document) : String := String.ofList d.chars

/-- JSON text that does not depend on the order of fields. -/
def render (d : Document) : String := d.sorted.write

/-- The bounds of what can be written: the digits of an integer, and how deep lists and objects may
be nested. -/
structure Limits where
  digits : Option Nat := some Number.maxDigits
  depth : Option Nat := none

inductive Excess where
  | digits
  | depth
  deriving DecidableEq, Repr

mutual

/-- What goes beyond the bounds first, inside so many lists and objects. -/
def excess? (limits : Limits) (level : Nat) : Document → Option Excess
  | int n => if limits.digits.all (Number.fits · n) then none else some .digits
  | list ds =>
    if limits.depth.all (level < ·) then listExcess? limits (level + 1) ds else some .depth
  | object fs =>
    if limits.depth.all (level < ·) then fieldsExcess? limits (level + 1) fs else some .depth
  | _ => none

def listExcess? (limits : Limits) (level : Nat) : List Document → Option Excess
  | [] => none
  | d :: ds => (d.excess? limits level).or (listExcess? limits level ds)

def fieldsExcess? (limits : Limits) (level : Nat) : List (String × Document) → Option Excess
  | [] => none
  | (_, d) :: fs => (d.excess? limits level).or (fieldsExcess? limits level fs)

end

/-- JSON text that does not depend on the order of fields, unless that goes beyond the bounds. -/
def renderWithin (limits : Limits) (d : Document) : Except Excess String :=
  match d.sorted.excess? limits 0 with
  | some e => .error e
  | none => .ok d.render

mutual

/-- A document as a literal: texts are quoted, and null and the truth values are words with a
capital letter. -/
def literalChars : Document → List Char
  | null => "None".toList
  | bool true => "True".toList
  | bool false => "False".toList
  | int n => intChars n
  | float x => Number.floatChars ⟨"nan", "inf"⟩ x
  | text s => (Text.quoted s).toList
  | bytes bs => Text.byteLiteral bs
  | list ds => '[' :: separated (literalMembers ds) ++ [']']
  | object fs => '\x7b' :: separated (literalFields fs) ++ ['\x7d']

def literalMembers : List Document → List (List Char)
  | [] => []
  | d :: ds => d.literalChars :: literalMembers ds

def literalFields : List (String × Document) → List (List Char)
  | [] => []
  | (k, d) :: fs => ((Text.quoted k).toList ++ ':' :: ' ' :: d.literalChars) :: literalFields fs

end

/-- A document in a message that tells texts from other values. -/
def literal (d : Document) : String := String.ofList d.literalChars

/-- A document in running text: a text stands for itself, anything else is a literal. -/
def shown : Document → String
  | text s => s
  | d => d.literal

end TableBench.Document
