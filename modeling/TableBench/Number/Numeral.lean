import TableBench.Number.Binary
import TableBench.Text.Characters

namespace TableBench.Number

/-- The zeros of the decimal digits of every script, as of Unicode 14. -/
def zeros : List Nat :=
  [0x30, 0x660, 0x6f0, 0x7c0, 0x966, 0x9e6, 0xa66, 0xae6, 0xb66, 0xbe6, 0xc66, 0xce6, 0xd66,
   0xde6, 0xe50, 0xed0, 0xf20, 0x1040, 0x1090, 0x17e0, 0x1810, 0x1946, 0x19d0, 0x1a80, 0x1a90,
   0x1b50, 0x1bb0, 0x1c40, 0x1c50, 0xa620, 0xa8d0, 0xa900, 0xa9d0, 0xa9f0, 0xaa50, 0xabf0, 0xff10,
   0x104a0, 0x10d30, 0x11066, 0x110f0, 0x11136, 0x111d0, 0x112f0, 0x11450, 0x114d0, 0x11650,
   0x116c0, 0x11730, 0x118e0, 0x11950, 0x11c50, 0x11d50, 0x11da0, 0x16a60, 0x16ac0, 0x16b50,
   0x1d7ce, 0x1d7d8, 0x1d7e2, 0x1d7ec, 0x1d7f6, 0x1e140, 0x1e2f0, 0x1e950, 0x1fbf0]

def decimalDigit? (c : Char) : Option Nat :=
  (zeros.find? fun z => z ≤ c.toNat && c.toNat < z + 10).map (c.toNat - ·)

/-- A numeral may use the blanks and digits of any script; anything else beyond ASCII spoils it. -/
def asciiForm (c : Char) : Char :=
  if c.toNat < 0x7f then c
  else if Text.wideBlanks.has c then ' '
  else match decimalDigit? c with
    | some d => Nat.digitChar d
    | none => '?'

def isBlank (c : Char) : Bool := c.toNat == 0x20 || (0x09 ≤ c.toNat && c.toNat ≤ 0x0d)

def splitSign : List Char → Bool × List Char
  | '+' :: r => (false, r)
  | '-' :: r => (true, r)
  | r => (false, r)

/-- The characters without the underscores, each of which has to part two digits. -/
def ungroup (afterDigit : Bool) : List Char → Option (List Char)
  | [] => some []
  | '_' :: r =>
    if afterDigit && (r.head?.any Char.isDigit) then ungroup false r else none
  | c :: r => (ungroup c.isDigit r).map (c :: ·)

def digitsValue (cs : List Char) : Nat := cs.foldl (fun n c => 10 * n + (c.toNat - 48)) 0

inductive NumeralError where
  | malformed
  | tooLong (digits : Nat)
  deriving DecidableEq, Repr

def maxDigits : Nat := 4300

def fits (digits : Nat) (n : Int) : Bool := n.natAbs < Nat.pow 10 digits

/-- Reads an optional sign and decimal digits, with blanks around them. The digits are counted
before what follows them is looked at. -/
def readDigits (cs : List Char) : Except NumeralError Int :=
  let (negative, r) := splitSign (cs.dropWhile isBlank)
  let isPart (c : Char) : Bool := c.isDigit || c = '_'
  match ungroup false (r.takeWhile isPart) with
  | none => .error .malformed
  | some ds =>
    if maxDigits < ds.length then .error (.tooLong ds.length)
    else if ds.isEmpty || !(r.dropWhile isPart).all isBlank then .error .malformed
    else .ok (if negative then -(digitsValue ds : Int) else digitsValue ds)

def readInteger (s : String) : Except NumeralError Int := readDigits (s.toList.map asciiForm)

/-- Reads the integer that a byte string holds; of the bytes only ASCII counts. -/
def readIntegerBytes (bs : List UInt8) : Except NumeralError Int :=
  readDigits (bs.map fun b => Char.ofNat b.toNat)

/-- The nearest double-precision number to `m` times a power of ten. -/
def ofScientific (negative : Bool) (m : Nat) (e : Int) : Float :=
  let size := e + (Nat.toDigits 10 m).length
  if m = 0 || size < -400 then nearestFloat negative 0 1
  else if 400 < size then infinity negative
  else nearestFloat negative (m * Nat.pow 10 e.toNat) (Nat.pow 10 (-e).toNat)

def readExponent : List Char → Option Int
  | [] => some 0
  | c :: r =>
    if c = 'e' || c = 'E' then
      let (negative, ds) := splitSign r
      if ds.isEmpty || !ds.all Char.isDigit then none
      else some (if negative then -(digitsValue ds : Int) else digitsValue ds)
    else none

def readMagnitude (negative : Bool) (cs : List Char) : Option Float :=
  let whole := cs.takeWhile Char.isDigit
  let r := cs.dropWhile Char.isDigit
  let (places, r) := match r with
    | '.' :: f => (f.takeWhile Char.isDigit, f.dropWhile Char.isDigit)
    | r => ([], r)
  if whole.isEmpty && places.isEmpty then none
  else (readExponent r).map fun e =>
    ofScientific negative (digitsValue (whole ++ places)) (e - places.length)

/-- Reads a decimal number, an infinity or the word for no number, with blanks around it. -/
def readFloat? (s : String) : Option Float := do
  let (negative, r) := splitSign (Text.trimBy isBlank (s.toList.map asciiForm))
  let cs ← ungroup false r
  let word := String.ofList (cs.map Char.toLower)
  if word = "inf" || word = "infinity" then return infinity negative
  else if word = "nan" then return 0 / 0
  else readMagnitude negative cs

/-- A whole number as the nearest double-precision number, if that is finite. -/
def ofInt? (n : Int) : Option Float :=
  if nearestBits n.natAbs 1 < infinityBits then some (nearestFloat (n < 0) n.natAbs 1) else none

end TableBench.Number
