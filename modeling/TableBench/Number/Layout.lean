import TableBench.Number.Shortest

namespace TableBench.Number

/-- How a decimal number is laid out: where positional notation begins and ends, and the least
digits of an exponent. -/
structure Layout where
  leastPoint : Int
  greatestPoint : Int
  exponentDigits : Nat

/-- Numbers from 0.0001 up to 10 ^ 16 are positional; others have an exponent of two digits or
more. -/
def Layout.standard : Layout := ⟨-3, 16, 2⟩

/-- Digits with the decimal point after the first `point` of them; a whole number ends in `.0`. -/
def positional (digits : List Char) (point : Int) : List Char :=
  if point ≤ 0 then '0' :: '.' :: List.replicate (-point).toNat '0' ++ digits
  else
    let whole := digits.take point.toNat
    let rest := digits.drop point.toNat
    whole ++ List.replicate (point.toNat - digits.length) '0' ++ '.' ::
      if rest.isEmpty then ['0'] else rest

def scientific (n : Layout) (digits : List Char) (point : Int) : List Char :=
  let exponent := point - 1
  let magnitude := Nat.toDigits 10 exponent.natAbs
  digits.take 1 ++ (if digits.length ≤ 1 then [] else '.' :: digits.drop 1) ++
    'e' :: (if exponent < 0 then '-' else '+') ::
    List.replicate (n.exponentDigits - magnitude.length) '0' ++ magnitude

def Layout.write (n : Layout) (d : Decimal) : List Char :=
  let digits := Nat.toDigits 10 d.digits
  let point := (digits.length : Int) + d.exponent
  if n.leastPoint ≤ point && point ≤ n.greatestPoint then positional digits point
  else scientific n digits point

/-- A binary number as the shortest decimal that reads back. -/
def Binary.chars (b : Binary) : List Char :=
  let magnitude :=
    if b.significand = 0 then ['0', '.', '0'] else Layout.standard.write b.shortest
  if b.negative then '-' :: magnitude else magnitude

structure Nonfinite where
  notNumber : String
  infinity : String

def floatChars (words : Nonfinite) (x : Float) : List Char :=
  match Binary.ofFloat? x with
  | some b => b.chars
  | none =>
    if x.isNaN then words.notNumber.toList
    else if x < 0 then '-' :: words.infinity.toList
    else words.infinity.toList

def floatText (x : Float) : String := String.ofList (floatChars ⟨"nan", "inf"⟩ x)

end TableBench.Number
