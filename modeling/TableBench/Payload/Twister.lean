namespace TableBench.Payload

/-- The state of a Mersenne twister of period 2 ^ 19937 - 1: its words and the next one to use. -/
structure Twister where
  words : Array UInt32
  position : Nat

namespace Twister

def size : Nat := 624

def grown (seed : UInt32) : Array UInt32 :=
  (List.range (size - 1)).foldl (fun ws i =>
    let w := ws.getD i 0
    ws.push ((1812433253 : UInt32) * (w ^^^ (w >>> 30)) + UInt32.ofNat (i + 1))) #[seed]

/-- A pass over the state words that starts at the second and leaves out the first. -/
structure Pass where
  words : Array UInt32
  index : Nat

/-- Replaces the word at hand from itself and its mixed predecessor, then moves on. -/
def Pass.step (p : Pass) (factor : UInt32) (after : UInt32 → UInt32) : Pass :=
  let w := p.words.getD (p.index - 1) 0
  let mixed := p.words.getD p.index 0 ^^^ ((w ^^^ (w >>> 30)) * factor)
  let ws := p.words.setIfInBounds p.index (after mixed)
  if p.index + 1 < size then ⟨ws, p.index + 1⟩
  else ⟨ws.setIfInBounds 0 (ws.getD (size - 1) 0), 1⟩

def ofKey (key : List UInt32) : Twister :=
  let spread := (List.range (max size key.length)).foldl (fun p k =>
    let j := k % key.length
    p.step 1664525 (· + key.getD j 0 + UInt32.ofNat j)) (Pass.mk (grown 19650218) 1)
  let settled := (List.range (size - 1)).foldl (fun p _ =>
    p.step 1566083941 (· - UInt32.ofNat p.index)) spread
  ⟨settled.words.setIfInBounds 0 0x80000000, size⟩

/-- The 32-bit words of a number, least significant first. -/
def keyWords (n : Nat) : List UInt32 :=
  UInt32.ofNat n :: if n < 0x100000000 then [] else keyWords (n / 0x100000000)
termination_by n
decreasing_by omega

/-- The twister of a seed; a number and its negative share one. -/
def ofSeed (seed : Int) : Twister := ofKey (keyWords seed.natAbs)

def twisted (words : Array UInt32) : Array UInt32 :=
  (List.range size).foldl (fun ws k =>
    let y := (ws.getD k 0 &&& 0x80000000) ||| (ws.getD ((k + 1) % size) 0 &&& 0x7fffffff)
    let mask : UInt32 := if y &&& 1 = 0 then 0 else 0x9908b0df
    ws.setIfInBounds k (ws.getD ((k + 397) % size) 0 ^^^ (y >>> 1) ^^^ mask)) words

def tempered (w : UInt32) : UInt32 :=
  let w := w ^^^ (w >>> 11)
  let w := w ^^^ ((w <<< 7) &&& 0x9d2c5680)
  let w := w ^^^ ((w <<< 15) &&& 0xefc60000)
  w ^^^ (w >>> 18)

def next (t : Twister) : UInt32 × Twister :=
  let t := if t.position < size then t else ⟨twisted t.words, 0⟩
  (tempered (t.words.getD t.position 0), ⟨t.words, t.position + 1⟩)

/-- The next 53 bits, from the upper parts of two outputs. -/
def next53 (t : Twister) : Nat × Twister :=
  let (a, t) := t.next
  let (b, t) := t.next
  ((a >>> 5).toNat * 67108864 + (b >>> 6).toNat, t)

end Twister

end TableBench.Payload
