namespace TableBench.Number

/-- The quotient rounded to the nearest whole number, a half to the even neighbour. -/
def roundHalfEven (n d : Nat) : Nat :=
  let r := n % d
  if d < 2 * r || (2 * r == d && n / d % 2 == 1) then n / d + 1 else n / d

def roundToBits (bits n : Nat) : Nat :=
  if n < Nat.pow 2 bits then n
  else
    let shift := n.log2 + 1 - bits
    roundHalfEven n (Nat.pow 2 shift) * Nat.pow 2 shift

/-- A finite binary number as a significand times a power of two. -/
structure Binary where
  negative : Bool
  significand : Nat
  exponent : Int
  deriving DecidableEq, Repr

def powerOfTwo (e : Int) : Nat × Nat := (Nat.pow 2 e.toNat, Nat.pow 2 (-e).toNat)

/-- The greatest `e` with `2 ^ e ≤ n / d`. -/
def binaryExponent (n d : Nat) : Int :=
  let guess : Int := (n.log2 : Int) - (d.log2 : Int)
  let (up, down) := powerOfTwo guess
  if d * up ≤ n * down then guess else guess - 1

/-- The bits of the positive infinity, which are above those of every finite positive number. -/
def infinityBits : Nat := 2047 * Nat.pow 2 52

/-- The bits of the nearest double-precision number to a positive fraction, a half to the even
neighbour. -/
def nearestBits (n d : Nat) : Nat :=
  let q := max (binaryExponent n d - 52) (-1074)
  let (up, down) := powerOfTwo q
  let m := roundHalfEven (n * down) (d * up)
  if m < Nat.pow 2 52 then m
  else min ((q + 1074).toNat * Nat.pow 2 52 + m) infinityBits

def signedFloat (negative : Bool) (bits : Nat) : Float :=
  Float.ofBits (UInt64.ofNat (bits + if negative then Nat.pow 2 63 else 0))

def infinity (negative : Bool) : Float := signedFloat negative infinityBits

def nearestFloat (negative : Bool) (n d : Nat) : Float :=
  signedFloat negative (if n = 0 then 0 else nearestBits n d)

/-- The exact value of a finite double-precision number, read off its bits. -/
def Binary.ofFloat? (x : Float) : Option Binary :=
  let bits : Nat := x.toBits.toNat
  let fraction : Nat := bits % Nat.pow 2 52
  let biased : Nat := bits / Nat.pow 2 52 % Nat.pow 2 11
  let negative := Nat.pow 2 63 ≤ bits
  if biased = 2047 then none
  else if biased = 0 then some ⟨negative, fraction, -1074⟩
  else some ⟨negative, Nat.pow 2 52 + fraction, (biased : Int) - 1075⟩

def Binary.truncate (b : Binary) : Int :=
  let (up, down) := powerOfTwo b.exponent
  let magnitude := b.significand * up / down
  if b.negative then -(magnitude : Int) else magnitude

def Binary.whole? (b : Binary) : Option Int :=
  let (up, down) := powerOfTwo b.exponent
  if b.significand * up % down = 0 then some b.truncate else none

end TableBench.Number
