import TableBench.Text.Printable

namespace TableBench.Text

/-- The lowest `width` hexadecimal digits of a number, in lower case, most significant first. -/
def hexDigits : Nat → Nat → List Char
  | 0, _ => []
  | width + 1, n => hexDigits width (n / 16) ++ [Nat.digitChar (n % 16)]

/-- Quoted text stands between apostrophes unless only double quotes can avoid an escape. -/
def delimiter (cs : List Char) : Char :=
  if cs.contains '\x27' && !cs.contains '\x22' then '\x22' else '\x27'

def shortEscape? : Char → Option Char
  | '\t' => some 't'
  | '\n' => some 'n'
  | '\r' => some 'r'
  | _ => none

/-- One character between delimiters: a backslash guards the delimiter and itself. -/
def escaped (delim c : Char) : List Char :=
  if c = '\\' || c = delim then ['\\', c]
  else match shortEscape? c with
    | some e => ['\\', e]
    | none =>
      if isPrintable c then [c]
      else if c.toNat < 0x100 then '\\' :: 'x' :: hexDigits 2 c.toNat
      else if c.toNat < 0x10000 then '\\' :: 'u' :: hexDigits 4 c.toNat
      else '\\' :: 'U' :: hexDigits 8 c.toNat

def quoted (s : String) : String :=
  let delim := delimiter s.toList
  String.ofList (delim :: s.toList.flatMap (escaped delim) ++ [delim])

/-- One byte between delimiters: a byte outside printable ASCII is two hexadecimal digits. -/
def escapedByte (delim : Char) (b : UInt8) : List Char :=
  let c := Char.ofNat b.toNat
  if c = '\\' || c = delim then ['\\', c]
  else match shortEscape? c with
    | some e => ['\\', e]
    | none =>
      if 0x20 ≤ b.toNat && b.toNat ≤ 0x7e then [c] else '\\' :: 'x' :: hexDigits 2 b.toNat

def byteLiteral (bs : List UInt8) : List Char :=
  let delim := delimiter (bs.map fun b => Char.ofNat b.toNat)
  'b' :: delim :: bs.flatMap (escapedByte delim) ++ [delim]

end TableBench.Text
