import TableBench.Number.Binary

namespace TableBench.Number

/-- A decimal number: the digits of `digits` times a power of ten. -/
structure Decimal where
  digits : Nat
  exponent : Int
  deriving DecidableEq, Repr

/-- The numbers nearer to a binary number than to its neighbours, in quarters of the last place. -/
structure Interval where
  low : Nat
  middle : Nat
  high : Nat
  closed : Bool

def Binary.interval (b : Binary) : Interval :=
  let m := b.significand
  let narrow := m = Nat.pow 2 52 && -1074 < b.exponent
  ⟨4 * m - if narrow then 1 else 2, 4 * m, 4 * m + 2, m % 2 == 0⟩

/-- The scale that makes both quarters of the last place and multiples of a power of ten whole. -/
structure Grid where
  quarter : Nat
  step : Nat

def Grid.of (q k : Int) : Grid :=
  let (up, down) := powerOfTwo (q - 2)
  ⟨up * Nat.pow 10 (-k).toNat, down * Nat.pow 10 k.toNat⟩

/-- The multiple of the step is read back as the number the interval belongs to. -/
def Interval.holds (i : Interval) (g : Grid) (c : Nat) : Bool :=
  if i.closed then i.low * g.quarter ≤ c * g.step && c * g.step ≤ i.high * g.quarter
  else i.low * g.quarter < c * g.step && c * g.step < i.high * g.quarter

/-- The multiple of the step that reads back and lies nearest, of equally near ones the even one. -/
def Interval.nearest? (i : Interval) (g : Grid) : Option Nat :=
  let v := i.middle * g.quarter
  let c := v / g.step
  match i.holds g c, i.holds g (c + 1) with
  | true, true => some (roundHalfEven v g.step)
  | true, false => some c
  | false, true => some (c + 1)
  | false, false => none

/-- The greatest `e` with `10 ^ e ≤ n / d`. -/
def decimalExponent (n d : Nat) : Int :=
  if d ≤ n then (Nat.toDigits 10 (n / d)).length - 1
  else
    let places := (Nat.toDigits 10 (d / n)).length
    if d ≤ n * Nat.pow 10 (places - 1) then -((places - 1 : Nat) : Int) else -(places : Int)

/-- The first grid from `10 ^ k` downwards on which a multiple reads back. -/
def Binary.search (b : Binary) (k : Int) : Nat → Decimal
  | 0 => ⟨b.significand, 0⟩
  | fuel + 1 =>
    match b.interval.nearest? (Grid.of b.exponent k) with
    | some c => ⟨c, k⟩
    | none => b.search (k - 1) fuel

def Decimal.strip (d : Decimal) : Nat → Decimal
  | 0 => d
  | fuel + 1 =>
    if d.digits ≠ 0 && d.digits % 10 == 0 then
      Decimal.strip ⟨d.digits / 10, d.exponent + 1⟩ fuel
    else d

/-- The fewest digits that read back as a positive binary number, and of those the nearest. -/
def Binary.shortest (b : Binary) : Decimal :=
  let (up, down) := powerOfTwo b.exponent
  let found := b.search (decimalExponent (b.significand * up) down) 18
  found.strip 18

end TableBench.Number
